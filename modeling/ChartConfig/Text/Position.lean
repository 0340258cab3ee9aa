/-!
# Positions and ranges

A position is a zero-based line and a zero-based column counted in characters. A range runs from its
start up to, and without, its end.
-/

namespace ChartConfig

/-- A place in a document. A document of 2^32 lines or columns and more, whose places do not fit into 32 bits,
    is out of scope. -/
structure Position where
  line : Nat
  character : Nat
  deriving Repr, DecidableEq, Inhabited

namespace Position

protected def le (a b : Position) : Bool :=
  a.line < b.line || (a.line == b.line && a.character ≤ b.character)

protected def lt (a b : Position) : Bool :=
  a.line < b.line || (a.line == b.line && a.character < b.character)

end Position

/-- The characters from `start` up to `stop`, which is not one of them. -/
structure Range where
  start : Position
  stop : Position
  deriving Repr, DecidableEq, Inhabited

namespace Range

def onLine (line first last : Nat) : Range :=
  ⟨⟨line, first⟩, ⟨line, last⟩⟩

/-- The position is at or after the start and before the end. -/
def contains (r : Range) (p : Position) : Bool :=
  r.start.le p && p.lt r.stop

def display (r : Range) : String :=
  toString r.start.line ++ ":" ++ toString r.start.character ++ "-" ++
    toString r.stop.line ++ ":" ++ toString r.stop.character

end Range

end ChartConfig
