/-!
# Binary floating-point numbers

A finite double is a sign and an exact value `mantissa · 2 ^ exponent`. `nearestBits` goes the other way:
it rounds an exact quotient to the nearest double, a tie to the even mantissa, in natural-number
arithmetic throughout.
-/

namespace ChartConfig.Decimal

/-- A number `mantissa · 2 ^ exponent`. -/
structure Binary where
  mantissa : Nat
  exponent : Int
  deriving Repr, DecidableEq

def leastExponent : Int := -1074

def hiddenBit : Nat := Nat.pow 2 52

inductive Double where
  | nan
  | infinite (negative : Bool)
  | finite (negative : Bool) (value : Binary)
  deriving Repr, DecidableEq

namespace Double

def ofBits (bits : Nat) : Double :=
  let negative : Bool := bits / Nat.pow 2 63 % 2 = 1
  let field : Nat := bits / hiddenBit % Nat.pow 2 11
  let fraction := bits % hiddenBit
  if field = 2047 then
    if fraction = 0 then infinite negative else nan
  else if field = 0 then finite negative ⟨fraction, leastExponent⟩
  else finite negative ⟨fraction + hiddenBit, (field : Int) + leastExponent - 1⟩

def ofFloat (x : Float) : Double :=
  ofBits x.toBits.toNat

end Double

/-- The quotient rounded to the nearest integer, a tie to the even one. -/
def roundDiv (num den : Nat) : Nat :=
  let q := num / den
  let r := num % den
  if 2 * r < den then q
  else if den < 2 * r then q + 1
  else q + q % 2

/-- The bits of the double nearest to `num / den`, without sign; `den` is not zero. -/
def nearestBits (num den : Nat) : Nat :=
  if num = 0 then 0
  else
    let estimate : Int := (Nat.log2 num : Int) - Nat.log2 den - 52
    -- the quotient by `2 ^ estimate` is between `2 ^ 51` and `2 ^ 53`
    let tooSmall :=
      if estimate ≥ 0 then num < hiddenBit * (den * Nat.pow 2 estimate.toNat)
      else num * Nat.pow 2 (-estimate).toNat < hiddenBit * den
    let exponent := max leastExponent (if tooSmall then estimate - 1 else estimate)
    let mantissa :=
      if exponent ≥ 0 then roundDiv num (den * Nat.pow 2 exponent.toNat)
      else roundDiv (num * Nat.pow 2 (-exponent).toNat) den
    let field := (exponent - leastExponent).toNat
    -- a mantissa below the hidden bit has the field zero; a carry out of it raises the field by itself
    min (field * hiddenBit + mantissa) (2047 * hiddenBit)

/-- The double nearest to `digits · 10 ^ exponent`. Far outside the range of doubles the answer is
    infinity or zero without the power being computed. -/
def nearest (negative : Bool) (digits : Nat) (exponent : Int) : Float :=
  let size : Int := (Nat.log2 digits : Int) / 3 + 1
  let magnitude :=
    if digits = 0 then 0
    else if exponent > 400 then 2047 * hiddenBit
    else if exponent + size < -400 then 0
    else if exponent ≥ 0 then nearestBits (digits * Nat.pow 10 exponent.toNat) 1
    else nearestBits digits (Nat.pow 10 (-exponent).toNat)
  Float.ofBits (magnitude + if negative then Nat.pow 2 63 else 0).toUInt64

end ChartConfig.Decimal
