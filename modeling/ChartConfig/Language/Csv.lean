/-!
# Columns of a table row

Cells are separated by commas, spaces and tabs, any number of them. A cell that begins with a quote runs
to the next such quote, separators included, if there is one at least two characters on; otherwise the
quote is an ordinary character.
-/

namespace ChartConfig.Csv

inductive Place where
  | between
  | bare
  /-- Right after an opening quote: the next character belongs to the cell, whatever it is. -/
  | opened (quote : Char)
  | quoted (quote : Char)
  deriving Repr, DecidableEq

def isSeparator (c : Char) : Bool :=
  c == ',' || c == ' ' || c == '\t'

def isQuote (c : Char) : Bool :=
  c == '"' || c.toNat = 0x27

/-- The number of cells that start in a row from the given place on. -/
def countFrom : Place → List Char → Nat
  | _, [] => 0
  | .between, c :: cs =>
    if isSeparator c then countFrom .between cs
    else if isQuote c && cs.tail.contains c then countFrom (.opened c) cs + 1
    else countFrom .bare cs + 1
  | .bare, c :: cs => countFrom (if isSeparator c then .between else .bare) cs
  | .opened q, _ :: cs => countFrom (.quoted q) cs
  | .quoted q, c :: cs => countFrom (if c = q then .between else .quoted q) cs

def columns (row : List Char) : Nat :=
  countFrom .between row

end ChartConfig.Csv
