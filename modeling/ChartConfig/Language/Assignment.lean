import ChartConfig.Text.Piece

/-!
# Assignments

A line `name = value` sets a setting. The name starts with a lower-case letter, ends with one and has at
least two characters; the sign is the first `=` with such a name before it and something after it. The
value is what follows, trimmed. Where only blanks follow, the value is the last of them, so that a line
with a name, a sign and trailing blanks still assigns a blank value.
-/

namespace ChartConfig

open Text

structure Assignment where
  name : Piece
  value : Piece
  deriving Repr, DecidableEq, Inhabited

namespace Assignment

/-- A text that may stand before the sign: at least two characters, the last a letter. -/
def isName (before : List Char) : Bool :=
  2 ≤ before.length &&
    match before.getLast? with
    | some c => isLowerLetter c
    | none => false

/-- The value in the text after the sign; `column` is where that text starts. -/
def valueAfter (column : Nat) (after : List Char) : Piece :=
  if allBlank after then ⟨column + (after.length - 1), after.drop (after.length - 1)⟩
  else ⟨column + (leadingBlanks after).length, trim after⟩

/-- Looks for the sign. The text before the cursor, from `first` on, is `before`, in reverse. -/
def findSign (first : Nat) : (before : List Char) → (after : List Char) → Option Assignment
  | _, [] => none
  | before, c :: after =>
    if c = '=' && !after.isEmpty && isName (trimEnd before.reverse) then
      some ⟨⟨first, trimEnd before.reverse⟩, valueAfter (first + before.length + 1) after⟩
    else findSign first (c :: before) after

end Assignment

namespace Line

def assignment? (line : List Char) : Option Assignment :=
  match trimStart line with
  | c :: cs => if isLowerLetter c then Assignment.findSign (leadingBlanks line).length [c] cs else none
  | [] => none

end Line

end ChartConfig
