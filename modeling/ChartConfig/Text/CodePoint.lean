/-!
# Code-point tables

Character classes and case maps beyond ASCII are kept as increasing lists of intervals. A look-up
stops at the first interval that lies above the code point.
-/

namespace ChartConfig.Text

/-- Membership of a code point in one of the intervals of an increasing list; both ends belong. -/
def inIntervals (n : Nat) : List (Nat × Nat) → Bool
  | [] => false
  | (lo, hi) :: rest => if n < lo then false else n ≤ hi || inIntervals n rest

/-- A run of letters, `step` apart, that a case mapping moves by the same distance. -/
structure Shift where
  first : Nat
  last : Nat
  step : Nat
  distance : Int
  deriving Repr, DecidableEq

/-- The image of a code point under the shift that covers it; without one the code point itself. -/
def shifted (n : Nat) : List Shift → Nat
  | [] => n
  | s :: rest =>
    if n < s.first then n
    else if n ≤ s.last then
      if (n - s.first) % s.step = 0 then (n + s.distance).toNat else n
    else shifted n rest

end ChartConfig.Text
