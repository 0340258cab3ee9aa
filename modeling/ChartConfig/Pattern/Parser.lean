import ChartConfig.Pattern.Match
import ChartConfig.Text.Numeral

/-!
# Reading patterns

The concrete form of a regular expression: literals, the dot, classes in brackets, the escapes for
digits, blanks, word characters and control characters, groups, alternatives, repetition marks and
assertions. A text that is no regular expression gives `none`. `Pattern.compile?` runs the program; nothing
is proved of it, since what is proved of a dictionary holds for any compiler of patterns.

The readers take a bound on the depth and length of what they read; the length of the text suffices.
-/

namespace ChartConfig

open Text

namespace Pattern

structure Flags where
  caseless : Bool
  /-- The dot also matches a line feed. -/
  dotAll : Bool
  deriving Repr, DecidableEq

inductive Escape where
  | chars (s : CharSet)
  | one (c : Char)
  | assertion (p : Pattern)
  deriving Repr

/-- A code in braces, or of the given number of digits. -/
def readHex? (size : Nat) : List Char → Option (Escape × List Char)
  | '{' :: cs => do
    let c ← charOfHex? (cs.takeWhile (· != '}'))
    match cs.dropWhile (· != '}') with
    | _ :: rest => return (.one c, rest)
    | [] => none
  | cs =>
    if cs.length < size then none
    else (charOfHex? (cs.take size)).map fun c => (.one c, cs.drop size)

def readEscape? : List Char → Option (Escape × List Char)
  | [] => none
  | 'd' :: cs => some (.chars .digit, cs)
  | 'D' :: cs => some (.chars (.other .digit), cs)
  | 's' :: cs => some (.chars .blank, cs)
  | 'S' :: cs => some (.chars (.other .blank), cs)
  | 'w' :: cs => some (.chars .word, cs)
  | 'W' :: cs => some (.chars (.other .word), cs)
  | 'b' :: cs => some (.assertion edge, cs)
  | 'B' :: cs => some (.assertion noEdge, cs)
  | 'A' :: cs => some (.assertion start, cs)
  | 'z' :: cs => some (.assertion stop, cs)
  | 'n' :: cs => some (.one '\n', cs)
  | 't' :: cs => some (.one '\t', cs)
  | 'r' :: cs => some (.one '\r', cs)
  | 'a' :: cs => some (.one (Char.ofNat 7), cs)
  | 'v' :: cs => some (.one (Char.ofNat 11), cs)
  | 'f' :: cs => some (.one (Char.ofNat 12), cs)
  | 'x' :: cs => readHex? 2 cs
  | 'u' :: cs => readHex? 4 cs
  | 'U' :: cs => readHex? 8 cs
  | c :: cs =>
    if c.toNat < 0x80 && !c.isAlphanum && c != '<' && c != '>' then some (.one c, cs) else none

def readMember? : List Char → Option (Escape × List Char)
  | [] => none
  | '[' :: _ => none
  | '\\' :: cs =>
    match readEscape? cs with
    | some (.assertion _, _) => none
    | answer => answer
  | c :: cs => some (.one c, cs)

def readMembers? (flags : Flags) : (bound : Nat) → CharSet → List Char → Option (CharSet × List Char)
  | 0, _, _ => none
  | bound + 1, members, cs =>
    match cs with
    | ']' :: rest => some (members, rest)
    | _ =>
      match readMember? cs with
      | none => none
      | some (.chars s, rest) => readMembers? flags bound (.either members s) rest
      | some (.assertion _, _) => none
      | some (.one lo, '-' :: rest) =>
        match rest with
        | ']' :: _ =>
          readMembers? flags bound
            (.either members (.either (.span flags.caseless lo lo) (.span false '-' '-'))) rest
        | _ =>
          match readMember? rest with
          | some (.one hi, rest) =>
            if hi < lo then none
            else readMembers? flags bound (.either members (.span flags.caseless lo hi)) rest
          | _ => none
      | some (.one c, rest) =>
        readMembers? flags bound (.either members (.span flags.caseless c c)) rest

/-- A class after its opening bracket. A closing bracket that comes first is a member. -/
def readClass? (flags : Flags) (cs : List Char) : Option (CharSet × List Char) := do
  let (negated, cs) := match cs with
    | '^' :: rest => (true, rest)
    | _ => (false, cs)
  let (first, cs) := match cs with
    | ']' :: rest => (CharSet.span false ']' ']', rest)
    | _ => (.other .full, cs)
  let (members, rest) ← readMembers? flags (cs.length + 1) first cs
  return (if negated then .other members else members, rest)

/-- The letters of a flag group, up to the mark that ends it, and whether a group body follows. -/
def readFlags? (on : Bool) (flags : Flags) : List Char → Option (Flags × Bool × List Char)
  | ')' :: cs => some (flags, false, cs)
  | ':' :: cs => some (flags, true, cs)
  | '-' :: cs => if on then readFlags? false flags cs else none
  | 'i' :: cs => readFlags? on { flags with caseless := on } cs
  | 's' :: cs => readFlags? on { flags with dotAll := on } cs
  | 'u' :: cs => readFlags? on flags cs
  | _ => none

def readBounds? (cs : List Char) : Option (Nat × Option Nat × List Char) := do
  let number (ds : List Char) : Option Nat := natOfBase? 10 ds
  let least ← number (cs.takeWhile Char.isDigit)
  match cs.dropWhile Char.isDigit with
  | '}' :: rest => return (least, some least, rest)
  | ',' :: '}' :: rest => return (least, none, rest)
  | ',' :: rest =>
    let most ← number (rest.takeWhile Char.isDigit)
    match rest.dropWhile Char.isDigit with
    | '}' :: rest => if most < least then none else return (least, some most, rest)
    | _ => none
  | _ => none

/-- Without the mark that makes a repetition lazy, which says nothing about whether a text matches. -/
def dropLazy : List Char → List Char
  | '?' :: cs => cs
  | cs => cs

/-- The repetition marks after an item; several may follow one another. -/
def readRepetition? : (bound : Nat) → Pattern → List Char → Option (Pattern × List Char)
  | 0, _, _ => none
  | bound + 1, p, cs =>
    match cs with
    | '*' :: rest => readRepetition? bound (star p) (dropLazy rest)
    | '+' :: rest => readRepetition? bound (plus p) (dropLazy rest)
    | '?' :: rest => readRepetition? bound (optional p) (dropLazy rest)
    | '{' :: rest =>
      match readBounds? rest with
      | none => none
      | some (least, none, rest) =>
        readRepetition? bound (times p least ++ star p) (dropLazy rest)
      | some (least, some most, rest) =>
        readRepetition? bound (between p least most) (dropLazy rest)
    | _ => some (p, cs)

def startsWithMark : List Char → Bool
  | c :: _ => c == '*' || c == '+' || c == '?' || c == '{'
  | [] => false

mutual

def readAlternatives? : (bound : Nat) → Flags → List Char → Option (Pattern × List Char)
  | 0, _, _ => none
  | bound + 1, flags, cs =>
    match readItems? bound flags empty cs with
    | none => none
    | some (p, flags, '|' :: rest) =>
      match readAlternatives? bound flags rest with
      | none => none
      | some (q, rest) => some (p ||| q, rest)
    | some (p, _, rest) => some (p, rest)

def readItems? : (bound : Nat) → Flags → Pattern → List Char → Option (Pattern × Flags × List Char)
  | 0, _, _, _ => none
  | bound + 1, flags, done, cs =>
    match cs with
    | [] => some (done, flags, [])
    | '|' :: _ => some (done, flags, cs)
    | ')' :: _ => some (done, flags, cs)
    | '(' :: '?' :: '<' :: rest =>
      match rest.dropWhile (· != '>') with
      | _ :: body => readGroup? bound flags flags done body
      | [] => none
    | '(' :: '?' :: rest =>
      match readFlags? true flags rest with
      | none => none
      | some (inner, true, body) => readGroup? bound flags inner done body
      | some (inner, false, body) =>
        if startsWithMark body then none else readItems? bound inner done body
    | '(' :: body => readGroup? bound flags flags done body
    | '[' :: body =>
      match readClass? flags body with
      | none => none
      | some (s, rest) => readRepeated? bound flags done (set s) rest
    | '.' :: rest => readRepeated? bound flags done (set (if flags.dotAll then .full else .any)) rest
    | '^' :: rest => readRepeated? bound flags done start rest
    | '$' :: rest => readRepeated? bound flags done stop rest
    | '\\' :: body =>
      match readEscape? body with
      | none => none
      | some (.chars s, rest) => readRepeated? bound flags done (set s) rest
      | some (.one c, rest) => readRepeated? bound flags done (set (.span flags.caseless c c)) rest
      | some (.assertion p, rest) => readRepeated? bound flags done p rest
    | c :: rest =>
      if startsWithMark cs then none
      else readRepeated? bound flags done (set (.span flags.caseless c c)) rest

def readGroup? : (bound : Nat) → (outer inner : Flags) → Pattern → List Char →
    Option (Pattern × Flags × List Char)
  | 0, _, _, _, _ => none
  | bound + 1, outer, inner, done, body =>
    match readAlternatives? bound inner body with
    | some (p, ')' :: rest) => readRepeated? bound outer done p rest
    | _ => none

def readRepeated? : (bound : Nat) → Flags → Pattern → Pattern → List Char →
    Option (Pattern × Flags × List Char)
  | 0, _, _, _, _ => none
  | bound + 1, flags, done, item, rest =>
    match readRepetition? (rest.length + 1) item rest with
    | none => none
    | some (item, rest) => readItems? bound flags (done ++ item) rest

end

def parse? (flags : Flags) (text : List Char) : Option Pattern :=
  match readAlternatives? (4 * text.length + 4) flags text with
  | some (p, []) => some p
  | _ => none

def compile? (text : String) : Option (List Char → Bool) :=
  (parse? ⟨false, false⟩ text.toList).map found

end Pattern

end ChartConfig
