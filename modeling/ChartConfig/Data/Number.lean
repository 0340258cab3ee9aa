import ChartConfig.Decimal.Text

/-!
# Numbers of structured text

A number is a whole part, places after the point and a power of ten. One without places or power that fits
64 bits is exact. Any other is a double: its first digits, as many as fit 64 bits, make a whole number that
is then scaled by a power of ten in floating point, so the last bit may differ from the nearest double.
-/

namespace ChartConfig.Data

structure Numeral where
  negative : Bool
  whole : List Char
  places : List Char
  power : Option (Bool × List Char)
  deriving Repr, DecidableEq, Inhabited

inductive Numeric where
  | integer (n : Int)
  | double (x : Float)
  deriving Repr

namespace Numeral

def wordMax : Nat := Nat.pow 2 64 - 1

def powerMax : Nat := Nat.pow 2 31 - 1

/-- Takes digits into a significand as long as it fits 64 bits, and returns the digits left over. -/
def significand : (start : Nat) → List Char → Nat × List Char
  | n, [] => (n, [])
  | n, d :: ds =>
    let next := 10 * n + (d.toNat - 48)
    if wordMax < next then (n, d :: ds) else significand next ds

/-- Scales by a power of ten, in steps of at most `10 ^ 308`; `none` beyond the range of doubles. -/
def scale : (steps : Nat) → Float → Int → Option Float
  | 0, x, _ => some x
  | steps + 1, x, e =>
    if e.natAbs ≤ 308 then
      let power := Decimal.nearest false 1 e.natAbs
      if e ≥ 0 then
        let y := x * power
        if y.isInf then none else some y
      else some (x / power)
    else if x == 0 then some x
    else if e ≥ 0 then none
    else scale steps (x / Decimal.nearest false 1 308) (e + 308)

def signed (negative : Bool) (x : Float) : Float :=
  if negative then -x else x

/-- The exponent that a power of ten adds up to. `none` is one too great to evaluate. -/
def exponent? : Option (Bool × List Char) → Option Int
  | none => some 0
  | some (negative, ds) =>
    let n := Text.natOfDigits ds
    if powerMax < n then none else some (if negative then -(n : Int) else n)

/-- The significand of the whole part and of the places, and the power of ten by which it falls short. -/
def parts (n : Numeral) : Nat × Int :=
  let (m, dropped) := significand 0 n.whole
  let (m', unread) := significand m n.places
  (m', (dropped.length : Int) - (n.places.length - unread.length : Nat))

def double? (n : Numeral) : Option Float :=
  let (m, e) := n.parts
  match exponent? n.power with
  | some p => (scale 8 m.toUInt64.toFloat (e + p)).map (signed n.negative)
  | none =>
    let down := match n.power with
      | some (negative, _) => negative
      | none => false
    if m = 0 || down then some (signed n.negative 0) else none

def value? (n : Numeral) : Option Numeric :=
  let (m, dropped) := significand 0 n.whole
  if n.places.isEmpty && n.power.isNone && dropped.isEmpty then
    if !n.negative then some (.integer m)
    else if m = 0 || Nat.pow 2 63 < m then some (.double (-m.toUInt64.toFloat))
    else some (.integer (-(m : Int)))
  else n.double?.map .double

end Numeral

namespace Numeric

def toFloat : Numeric → Float
  | integer n => signedInteger n
  | double x => x
where
  signedInteger (n : Int) : Float :=
    Numeral.signed (n < 0) n.natAbs.toUInt64.toFloat

/-- The text of a number. Whole numbers beyond 64 bits with sign are shown as doubles. -/
def shown : Numeric → String
  | integer n =>
    if n < Int.pow 2 63 then toString n else Decimal.render (Numeric.integer n).toFloat
  | double x => Decimal.render x

end Numeric

end ChartConfig.Data
