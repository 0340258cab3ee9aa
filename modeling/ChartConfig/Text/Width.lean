import ChartConfig.Text.WidthTable

/-!
# Display columns

The number of terminal columns that a character takes: two for the wide scripts, none for a control or a
combining mark, and for a tab as many as are left to the next tab stop. What stands between an escape
character and the next `m` sets a colour and takes no columns. A `Pen` goes through a line from left to right
and knows the column it has reached.
-/

namespace ChartConfig.Text

def tabStop : Nat := 4

def isControl (c : Char) : Bool :=
  let n := c.toNat
  n < 0x20 || (0x7F ≤ n && n < 0xA0)

/-- Columns of a character that is not a tab. -/
def charWidth (c : Char) : Nat :=
  if isControl c then 0
  else if c.toNat < 0x80 then 1
  else if c.toNat = 0x17D8 then 3 -- a Khmer sign that abbreviates three letters
  else if inIntervals c.toNat zeroWidthIntervals then 0
  else if inIntervals c.toNat wideIntervals then 2
  else 1

structure Pen where
  column : Nat := 0
  escaped : Bool := false
  deriving Repr, DecidableEq, Inhabited

namespace Pen

def width (pen : Pen) (c : Char) : Nat :=
  if pen.escaped then 0
  else if c = '\t' then tabStop - pen.column % tabStop
  else charWidth c

def write (pen : Pen) (c : Char) : Pen where
  column := pen.column + pen.width c
  escaped := if pen.escaped then c != 'm' else c.toNat == 0x1B

def expandTabs (pen : Pen) : List Char → List Char
  | [] => []
  | c :: cs =>
    (if c = '\t' then List.replicate (pen.width c) ' ' else [c]) ++ (pen.write c).expandTabs cs

end Pen

def displayWidth (line : List Char) : Nat :=
  (line.foldl Pen.write {}).column

/-- A line with each tab replaced by spaces up to the next stop. -/
def expandTabs (line : List Char) : List Char :=
  Pen.expandTabs {} line

end ChartConfig.Text
