import ChartConfig.Decimal.Shortest
import ChartConfig.Text.Numeral

/-!
# Decimal text

Numbers are written with the fewest digits that read back, always positionally, without a fraction when
they are whole. Reading takes an optional sign, digits with at most one point, and an optional power of
ten.
-/

namespace ChartConfig.Decimal

open Text (takeSign natOfDigits)

def Digits.render (d : Digits) : String :=
  let digits := Nat.toDigits 10 d.digits
  if d.exponent ≥ 0 then String.ofList (digits ++ List.replicate d.exponent.toNat '0')
  else
    let places := (-d.exponent).toNat
    if digits.length > places then
      String.ofList (digits.take (digits.length - places)) ++ "." ++
        String.ofList (digits.drop (digits.length - places))
    else "0." ++ String.ofList (List.replicate (places - digits.length) '0' ++ digits)

def Double.render : Double → String
  | .nan => "NaN"
  | .infinite negative => if negative then "-inf" else "inf"
  | .finite negative value =>
    let text := if value.mantissa = 0 then "0" else (shortest value).render
    if negative then "-" ++ text else text

def render (x : Float) : String :=
  (Double.ofFloat x).render

def readPower? : List Char → Option Int
  | [] => some 0
  | c :: cs =>
    if c = 'e' || c = 'E' then
      let (negative, ds) := takeSign cs
      if ds.isEmpty || !ds.all Char.isDigit then none
      else some (if negative then -(natOfDigits ds : Int) else natOfDigits ds)
    else none

/-- The double nearest to a number in decimal notation: digits with at most one point, at least one
    digit in all, and an optional power of ten. -/
def read? (cs : List Char) : Option Float := do
  let (negative, cs) := takeSign cs
  let whole := cs.takeWhile Char.isDigit
  let rest := cs.dropWhile Char.isDigit
  let (part, rest) :=
    match rest with
    | '.' :: more => (more.takeWhile Char.isDigit, more.dropWhile Char.isDigit)
    | _ => ([], rest)
  if whole.isEmpty && part.isEmpty then none
  else
    let power ← readPower? rest
    return nearest negative (natOfDigits (whole ++ part)) (power - part.length)

end ChartConfig.Decimal
