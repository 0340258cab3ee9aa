import ChartConfig.Text.WordTable

/-!
# Word characters and digits

`isWord` holds of the alphabetic characters, marks, decimal digits, connector punctuation and join
controls of any script; `isDigit` of the decimal digits of any script. ASCII is decided directly and
the tables are asked only for what lies beyond it.
-/

namespace ChartConfig.Text

def isWord (c : Char) : Bool :=
  if c.toNat < 0x80 then c.isAlphanum || c = '_'
  else inIntervals c.toNat wordIntervalsLow || inIntervals c.toNat wordIntervalsHigh

def isDigit (c : Char) : Bool :=
  if c.toNat < 0x80 then c.isDigit
  else inIntervals c.toNat digitIntervals

def isIdentifierStart (c : Char) : Bool :=
  c.isAlpha || c = '_'

def isLowerLetter (c : Char) : Bool :=
  'a' ≤ c && c ≤ 'z'

end ChartConfig.Text
