import ChartConfig.Decimal.Binary

/-!
# Shortest decimals

The decimal with the fewest digits among those that are nearer to a given double than to any other, and
of several with as few digits the nearest. For each power of ten, from large to small, the two multiples
next to the value are tried; the first power with a multiple inside the interval of the double is the
one sought.
-/

namespace ChartConfig.Decimal

structure Digits where
  digits : Nat
  exponent : Int
  deriving Repr, DecidableEq

/-- The interval of the reals that round to a double, on a grid of multiples of `10 ^ exponent`: a
    multiple `d` corresponds to `d · grid`, the double to `value`, and the ends to `low` and `high`. -/
structure Window where
  grid : Nat
  value : Nat
  low : Nat
  high : Nat
  closed : Bool
  deriving Repr, DecidableEq

/-- The window of a positive double on the grid of `10 ^ exponent`. The gap below a power of two is half
    as wide as the gap above it. -/
def Window.of (b : Binary) (exponent : Int) : Window :=
  let quarter := b.exponent - 2
  let scale := Nat.pow 2 quarter.toNat * Nat.pow 10 (-exponent).toNat
  let below := if b.mantissa = hiddenBit && b.exponent ≠ leastExponent then 1 else 2
  { grid := Nat.pow 10 exponent.toNat * Nat.pow 2 (-quarter).toNat
    value := 4 * b.mantissa * scale
    low := (4 * b.mantissa - below) * scale
    high := (4 * b.mantissa + 2) * scale
    closed := b.mantissa % 2 = 0 }

def Window.holds (w : Window) (d : Nat) : Bool :=
  let x := d * w.grid
  if w.closed then w.low ≤ x && x ≤ w.high else w.low < x && x < w.high

/-- The multiple of the grid nearest to the double among those that round to it; of two as near, the
    greater. -/
def Window.pick (w : Window) : Option Nat :=
  let d := w.value / w.grid
  match w.holds d, w.holds (d + 1) with
  | true, true => if w.value - d * w.grid < (d + 1) * w.grid - w.value then some d else some (d + 1)
  | true, false => some d
  | false, true => some (d + 1)
  | false, false => none

def shortestFrom (b : Binary) (exponent : Int) : (tries : Nat) → Digits
  | 0 => ⟨b.mantissa, 0⟩
  | tries + 1 =>
    match (Window.of b exponent).pick with
    | some d => ⟨d, exponent⟩
    | none => shortestFrom b (exponent - 1) tries

/-- The shortest decimal of a positive double. A double needs at most seventeen digits, and the search
    starts at most two powers above the first digit. -/
def shortest (b : Binary) : Digits :=
  shortestFrom b (((Nat.log2 b.mantissa : Int) + b.exponent + 1) * 30103 / 100000 + 1) 24

end ChartConfig.Decimal
