import ChartConfig.Data.Basic
import ChartConfig.Data.Number

/-!
# JSON

Reading of JSON text. A string with half of a surrogate pair has no text: it is accepted where its content
does not matter. Numbers are kept as they are written and evaluated when they are used, for the same reason.
-/

namespace ChartConfig

open Data (Numeral)

inductive Json where
  | null
  | flag (b : Bool)
  | number (n : Numeral)
  | text (s : Option String)
  | list (items : List Json)
  | record (entries : List (Option String × Json))
  deriving Repr, Inhabited

namespace Json

def isSpace (c : Char) : Bool :=
  c == ' ' || c == '\t' || c == '\n' || c == '\r'

def skipSpace (cs : List Char) : List Char :=
  cs.dropWhile isSpace

/-- The characters of a string in reverse, up to a point; `none` once half a surrogate pair was met. -/
abbrev Partial := Option (List Char)

def push (done : Partial) (c : Char) : Partial :=
  done.map (c :: ·)

def escape? (c : Char) : Option Char :=
  if c == '"' || c == '\\' || c == '/' then some c
  else if c == 'b' then some (Char.ofNat 8)
  else if c == 'f' then some (Char.ofNat 12)
  else if c == 'n' then some '\n'
  else if c == 'r' then some '\r'
  else if c == 't' then some '\t'
  else none

/-- A string after its opening quote. `high` is the first half of a surrogate pair, if the text before ends
    in one. -/
def readText? : (high : Option Nat) → Partial → List Char → Option (Option String × List Char)
  | _, _, [] => none
  | high, done, '\\' :: 'u' :: a :: b :: c :: d :: rest =>
    match Text.natOfBase? 16 [a, b, c, d] with
    | none => none
    | some n =>
      match high with
      | some h =>
        if 0xDC00 ≤ n && n ≤ 0xDFFF then
          readText? none (push done (Char.ofNat (0x10000 + (h - 0xD800) * 0x400 + (n - 0xDC00)))) rest
        else readText? none none rest
      | none =>
        if 0xD800 ≤ n && n ≤ 0xDBFF then readText? (some n) done rest
        else if 0xDC00 ≤ n && n ≤ 0xDFFF then readText? none none rest
        else readText? none (push done (Char.ofNat n)) rest
  | high, done, '\\' :: c :: rest =>
    match escape? c with
    | none => none
    | some e => readText? none (if high.isSome then none else push done e) rest
  | high, done, c :: rest =>
    let done := if high.isSome then none else done
    if c == '"' then some (done.map fun cs => String.ofList cs.reverse, rest)
    else if c == '\\' || c.toNat < 0x20 then none
    else readText? none (push done c) rest

def readNumeral? (negative : Bool) (cs : List Char) : Option (Numeral × List Char) := do
  let whole := cs.takeWhile Char.isDigit
  let rest := cs.dropWhile Char.isDigit
  if whole.isEmpty || (whole.head? == some '0' && 1 < whole.length) then none
  else
    let (places, rest) ← match rest with
      | '.' :: more =>
        let ds := more.takeWhile Char.isDigit
        if ds.isEmpty then none else some (ds, more.dropWhile Char.isDigit)
      | _ => some ([], rest)
    let (power, rest) ← match rest with
      | c :: more =>
        if c == 'e' || c == 'E' then
          let (down, more) := Text.takeSign more
          let ds := more.takeWhile Char.isDigit
          if ds.isEmpty then none else some (some (down, ds), more.dropWhile Char.isDigit)
        else some (none, rest)
      | [] => some (none, rest)
    return (⟨negative, whole, places, power⟩, rest)

def word? (w : String) (value : Json) (cs : List Char) : Option (Json × List Char) :=
  if w.toList.isPrefixOf cs then some (value, cs.drop w.length) else none

mutual

def readValue? : (bound : Nat) → List Char → Option (Json × List Char)
  | 0, _ => none
  | bound + 1, cs =>
    match skipSpace cs with
    | [] => none
    | '[' :: rest =>
      match skipSpace rest with
      | ']' :: rest => some (list [], rest)
      | rest => (readItems? bound rest).map fun (items, rest) => (list items, rest)
    | '{' :: rest =>
      match skipSpace rest with
      | '}' :: rest => some (record [], rest)
      | rest => (readEntries? bound rest).map fun (entries, rest) => (record entries, rest)
    | '"' :: rest => (readText? none (some []) rest).map fun (s, rest) => (text s, rest)
    | '-' :: rest => (readNumeral? true rest).map fun (n, rest) => (number n, rest)
    | c :: rest =>
      if c == 'n' then word? "null" null (c :: rest)
      else if c == 't' then word? "true" (flag true) (c :: rest)
      else if c == 'f' then word? "false" (flag false) (c :: rest)
      else (readNumeral? false (c :: rest)).map fun (n, rest) => (number n, rest)

def readItems? : (bound : Nat) → List Char → Option (List Json × List Char)
  | 0, _ => none
  | bound + 1, cs =>
    match readValue? bound cs with
    | none => none
    | some (item, rest) =>
      match skipSpace rest with
      | ',' :: rest => (readItems? bound rest).map fun (items, rest) => (item :: items, rest)
      | ']' :: rest => some ([item], rest)
      | _ => none

def readEntries? : (bound : Nat) → List Char → Option (List (Option String × Json) × List Char)
  | 0, _ => none
  | bound + 1, cs =>
    match skipSpace cs with
    | '"' :: rest =>
      match readText? none (some []) rest with
      | none => none
      | some (key, rest) =>
        match skipSpace rest with
        | ':' :: rest =>
          match readValue? bound rest with
          | none => none
          | some (value, rest) =>
            match skipSpace rest with
            | ',' :: rest =>
              (readEntries? bound rest).map fun (entries, rest) => ((key, value) :: entries, rest)
            | '}' :: rest => some ([(key, value)], rest)
            | _ => none
        | _ => none
    | _ => none

end

def parse? (s : String) : Option Json :=
  let cs := s.toList
  match readValue? (2 * cs.length + 2) cs with
  | some (value, rest) => if (skipSpace rest).isEmpty then some value else none
  | none => none

def numberLeaf (n : Numeral) : Leaf :=
  { number? := n.value?.map Data.Numeric.toFloat, shown? := n.value?.map Data.Numeric.shown }

def flagLeaf (b : Bool) : Leaf :=
  { flag? := some b, shown? := some (if b then "true" else "false") }

mutual

def toData : Json → Data
  | null => .leaf { isNull := true }
  | flag b => .leaf (flagLeaf b)
  | number n => .leaf (numberLeaf n)
  | text s => .leaf { text? := s, shown? := s }
  | list items => .list (itemsToData items)
  | record entries => .record (entriesToData entries)

def itemsToData : List Json → List Data
  | [] => []
  | item :: items => item.toData :: itemsToData items

def entriesToData : List (Option String × Json) → List (Option String × Data)
  | [] => []
  | (key, value) :: entries => (key, value.toData) :: entriesToData entries

end

def get? (j : Json) (key : String) : Option Json :=
  match j with
  | record entries => (entries.reverse.find? fun e => e.1 == some key).map Prod.snd
  | _ => none

end Json

end ChartConfig
