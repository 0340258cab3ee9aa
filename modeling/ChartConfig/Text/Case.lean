import ChartConfig.Text.CaseTable

/-!
# Letter case

`foldCase` is simple case folding: two characters differ by case only if they fold alike, so the long
s folds to `s` and the Kelvin sign to `k`. `toLowerCase` lowers a whole text by the full mapping: the
dotted capital I becomes two characters, and a capital sigma at the end of a word the final sigma.
Documents themselves are lowered letter by letter, ASCII only, by `Char.toLower`.
-/

namespace ChartConfig.Text

def foldCase (c : Char) : Char :=
  if c.toNat < 0x80 then c.toLower else Char.ofNat (shifted c.toNat foldShifts)

def sameFold (a b : List Char) : Bool :=
  a.map foldCase == b.map foldCase

def Shift.sources (n : Nat) (s : Shift) : List Char :=
  let m := (n - s.distance).toNat
  if s.first ≤ m && m ≤ s.last && (m - s.first) % s.step = 0 && shifted m [s] = n then [Char.ofNat m]
  else []

def caseVariants (c : Char) : List Char :=
  let f := foldCase c
  let upper := if 'a' ≤ f && f ≤ 'z' then [f.toUpper] else []
  f :: upper ++ foldShifts.flatMap (Shift.sources f.toNat)

def isCased (c : Char) : Bool :=
  if c.toNat < 0x80 then c.isAlpha else inIntervals c.toNat casedIntervals

/-- A character that is passed over when the letters around a sigma are sought. -/
def isCaseIgnorable (c : Char) : Bool :=
  if c.toNat < 0x80 then [0x27, 0x2E, 0x3A, 0x5E, 0x60].contains c.toNat
  else inIntervals c.toNat caseIgnorableIntervals

def startsCased (cs : List Char) : Bool :=
  match cs.dropWhile isCaseIgnorable with
  | c :: _ => isCased c
  | [] => false

/-- Lower-case form of one character inside a text; `before` lists what precedes it, nearest first. -/
def lowerInContext (before : List Char) (c : Char) (after : List Char) : List Char :=
  if c.toNat < 0x80 then [c.toLower]
  else if c.toNat = 0x130 then ['i', Char.ofNat 0x307]
  else if c = 'Σ' then
    if startsCased before && !startsCased after then ['ς'] else ['σ']
  else [Char.ofNat (shifted c.toNat lowerShifts)]

/-- Full lower-case mapping of what follows `before`. -/
def lowerAfter (before : List Char) : List Char → List Char
  | [] => []
  | c :: after => lowerInContext before c after ++ lowerAfter (c :: before) after

def toLowerCase (cs : List Char) : List Char :=
  lowerAfter [] cs

end ChartConfig.Text
