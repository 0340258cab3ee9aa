/-!
# Signs, digits and codes

The small readings that every notation for numbers and characters shares: a leading sign, the number that a
run of decimal digits spells, and the character with a hexadecimal code.
-/

namespace ChartConfig.Text

def takeSign : List Char → Bool × List Char
  | '-' :: cs => (true, cs)
  | '+' :: cs => (false, cs)
  | cs => (false, cs)

def dropSign (cs : List Char) : List Char :=
  (takeSign cs).2

def natOfDigits (ds : List Char) : Nat :=
  ds.foldl (fun n c => 10 * n + (c.toNat - 48)) 0

def hexDigit? (c : Char) : Option Nat :=
  if '0' ≤ c && c ≤ '9' then some (c.toNat - 48)
  else if 'a' ≤ c && c ≤ 'f' then some (c.toNat - 87)
  else if 'A' ≤ c && c ≤ 'F' then some (c.toNat - 55)
  else none

/-- The number that digits of a base up to sixteen spell; there is at least one. -/
def natOfBase? (base : Nat) (ds : List Char) : Option Nat := do
  let values ← ds.mapM hexDigit?
  if ds.isEmpty || values.any (base ≤ ·) then none
  else return values.foldl (fun n d => base * n + d) 0

/-- The character with the given hexadecimal code; halves of surrogate pairs are no characters. -/
def charOfHex? (ds : List Char) : Option Char := do
  let n ← natOfBase? 16 ds
  if 0xD800 ≤ n && n ≤ 0xDFFF || 0x10FFFF < n then none else return Char.ofNat n

end ChartConfig.Text
