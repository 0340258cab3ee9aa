import ChartConfig.Text.Lines

/-!
# Characters and places of YAML

The classes of characters that the notation tells apart, and places in its text. Besides the line feed there
are two further line breaks that are kept as they are: the line separator and the paragraph separator.
-/

namespace ChartConfig.Yaml

def isSpace (c : Char) : Bool :=
  c == ' ' || c == '\t'

def isBreak (c : Char) : Bool :=
  let n := c.toNat
  n = 10 || n = 13 || n = 0x85 || n = 0x2028 || n = 0x2029

def endsWord : List Char → Bool
  | [] => true
  | c :: _ => isSpace c || isBreak c

def isFlowMark (c : Char) : Bool :=
  c == ',' || c == '[' || c == ']' || c == '{' || c == '}'

def isNameChar (c : Char) : Bool :=
  c.isAlphanum || c == '_' || c == '-'

def isAllowed (c : Char) : Bool :=
  let n := c.toNat
  n = 9 || n = 10 || n = 13 || (0x20 ≤ n && n ≤ 0x7E) || n = 0x85 ||
    (0xA0 ≤ n && n ≤ 0xD7FF) || (0xE000 ≤ n && n ≤ 0xFFFD) || 0x10000 ≤ n

/-- Every line break becomes a line feed, save the line and the paragraph separator. -/
def normalizeBreaks (cs : List Char) : List Char :=
  (Text.normalizeBreaks cs).map fun c => if c.toNat = 0x85 then '\n' else c

structure Mark where
  index : Nat := 0
  line : Nat := 0
  column : Nat := 0
  deriving Repr, DecidableEq, Inhabited

def Mark.after (m : Mark) (c : Char) : Mark :=
  if isBreak c then ⟨m.index + 1, m.line + 1, 0⟩ else ⟨m.index + 1, m.line, m.column + 1⟩

/-- A place in a text: how far it has been read, and what lies ahead. -/
structure Place where
  mark : Mark := {}
  ahead : List Char
  deriving Repr, DecidableEq, Inhabited

namespace Place

def skip (p : Place) : (n : Nat) → Place
  | 0 => p
  | n + 1 =>
    match p.ahead with
    | c :: rest => skip ⟨p.mark.after c, rest⟩ n
    | [] => p

def takeWhile (p : Place) (ok : Char → Bool) : List Char × Place :=
  let run := p.ahead.takeWhile ok
  (run, p.skip run.length)

def skipWhile (p : Place) (ok : Char → Bool) : Place :=
  (p.takeWhile ok).2

/-- Passes over space and a comment up to the end of the line, where nothing else may stand. -/
def restOfLine? (p : Place) : Option Place :=
  let p := p.skipWhile isSpace
  let p := if p.ahead.head? == some '#' then p.skipWhile fun c => !isBreak c else p
  match p.ahead with
  | [] => some p
  | c :: _ => if isBreak c then some (p.skip 1) else none

end Place

def isDocumentMark (m : Mark) (ahead : List Char) : Bool :=
  m.column == 0 && ("---".toList.isPrefixOf ahead || "...".toList.isPrefixOf ahead) &&
    endsWord (ahead.drop 3)

end ChartConfig.Yaml
