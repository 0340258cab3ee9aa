import ChartConfig.Text.Piece

/-!
# Section headers

A header is a name in square brackets after gaps. What follows the closing bracket is ignored. A line
that holds an opening bracket and a name only is a header whose bracket was forgotten.
-/

namespace ChartConfig

open Text

structure Header where
  name : String
  range : Range
  deriving Repr, DecidableEq, Inhabited

namespace Line

def headerName? (line : List Char) : Option Piece := do
  let cursor ← ((Cursor.start line).skip isGap).expect "["
  let (name, cursor) ← cursor.name
  let _ ← cursor.expect "]"
  return name

def header? (line : List Char) (number : Nat) : Option Header :=
  (headerName? line).map fun name => ⟨name.word, name.range number⟩

/-- The name of a header that lacks its closing bracket. -/
def unclosedHeaderName? (line : List Char) : Option Piece := do
  let cursor ← ((Cursor.start line).skip isBlank).expect "["
  let (name, cursor) ← cursor.name
  if allBlank cursor.ahead then return name else none

def unclosedHeader? (line : List Char) (number : Nat) : Option Header :=
  (unclosedHeaderName? line).map fun name => ⟨name.word, name.range number⟩

end Line

end ChartConfig
