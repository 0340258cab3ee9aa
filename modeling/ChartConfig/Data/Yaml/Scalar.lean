import ChartConfig.Data.Basic
import ChartConfig.Decimal.Text

/-!
# Plain scalars of YAML

What a scalar without quotes stands for: nothing, a truth value, a whole number, a double or a text, tried in
this order. Digits after a leading zero are a text, as in a telephone number. Digits that make up too large a
whole number are a double, and with a mark of another base a text.
-/

namespace ChartConfig.Yaml

def isNullWord (s : String) : Bool :=
  s == "" || s == "null" || s == "Null" || s == "NULL" || s == "~"

def flag? (s : String) : Option Bool :=
  if s == "true" || s == "True" || s == "TRUE" then some true
  else if s == "false" || s == "False" || s == "FALSE" then some false
  else none

def dropPlus : List Char → List Char
  | '+' :: cs => cs
  | cs => cs

def isZeroPadded (cs : List Char) : Bool :=
  match Text.dropSign cs with
  | '0' :: c :: rest => (c :: rest).all Char.isDigit
  | _ => false

def based? : List Char → Option Nat
  | '0' :: 'x' :: cs => Text.natOfBase? 16 cs
  | '0' :: 'o' :: cs => Text.natOfBase? 8 cs
  | '0' :: 'b' :: cs => Text.natOfBase? 2 cs
  | cs => Text.natOfBase? 10 cs

/-- The whole number that a scalar spells; it has at most 128 bits. -/
def integer? (cs : List Char) : Option Int :=
  if isZeroPadded cs then none
  else
    match cs with
    | '-' :: rest => ((based? rest).filter (· ≤ Nat.pow 2 127)).map fun n => -(n : Int)
    | _ => ((based? (dropPlus cs)).filter (· < Nat.pow 2 128)).map fun n => (n : Int)

def double? (cs : List Char) : Option Float :=
  let bare := dropPlus cs
  let s := String.ofList bare
  if cs.head? == some '+' && (bare.head? == some '+' || bare.head? == some '-') then none
  else if s == ".inf" || s == ".Inf" || s == ".INF" then some (1 / 0)
  else if s == "-.inf" || s == "-.Inf" || s == "-.INF" then some (-1 / 0)
  else if (s == ".nan" || s == ".NaN" || s == ".NAN") && s.length == cs.length then some (0 / 0)
  else
    match Decimal.read? bare with
    | some x => if x.isFinite then some x else none
    | none => none

inductive Scalar where
  | null
  | flag (b : Bool)
  | integer (n : Int)
  | double (x : Float)
  | text
  deriving Repr

def Scalar.of (s : String) : Scalar :=
  let cs := s.toList
  if isNullWord s then .null
  else
    match flag? s with
    | some b => .flag b
    | none =>
      match integer? cs with
      | some n => .integer n
      | none =>
        if isZeroPadded cs then .text
        else
          match double? cs with
          | some x => .double x
          | none => .text

/-- A whole number of at most 64 bits; larger ones have no text. -/
def shownInteger? (n : Int) : Option String :=
  if -(Int.pow 2 63) ≤ n && n < Int.pow 2 63 then some (toString n)
  else if Int.pow 2 63 ≤ n && n < Int.pow 2 64 then some (Decimal.render n.toNat.toUInt64.toFloat)
  else none

def Scalar.shown? (s : String) : Scalar → Option String
  | .null => none
  | .flag b => some (if b then "true" else "false")
  | .integer n => shownInteger? n
  | .double x => some (Decimal.render x)
  | .text => some s

/-- How a scalar is written, as far as its reading depends on it. -/
inductive Style where
  | plain
  | quoted
  /-- In a literal block. -/
  | literal
  deriving Repr, DecidableEq, Inhabited

inductive Tag where
  | null
  | flag
  | integer
  | double
  /-- Some other kind of the core set, for which the characters stand for themselves. -/
  | core
  | own
  deriving Repr, DecidableEq, Inhabited

def Tag.shown? (s : String) : Tag → Option String
  | null => none
  | flag => (flag? s).map fun b => if b then "true" else "false"
  | integer => (integer? s.toList).bind shownInteger?
  | double => (double? s.toList).map Decimal.render
  | core => some s
  | own => none

/-- The readings of a scalar. One in a literal block is a truth value or a number only if its tag says so. -/
def leafOf (tag : Option Tag) (style : Style) (s : String) : Leaf :=
  let bare := style == .plain
  { isNull := bare && isNullWord s && (tag == none || tag == some .null)
    isVoid := bare && s == ""
    text? := some s
    flag? := if bare || (style == .literal && tag == some .flag) then flag? s else none
    number? := if bare || (style == .literal && tag == some .double) then double? s.toList else none
    shown? := match tag with
      | some tag => tag.shown? s
      | none => if bare then (Scalar.of s).shown? s else some s }

end ChartConfig.Yaml
