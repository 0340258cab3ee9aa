/-!
# Data

What a data format delivers to the readers of dictionaries: lists, records and leaves. A leaf says what it
can be read as, since formats differ there: a bare `1` is a number and no text in one, and both in another.
-/

namespace ChartConfig

structure Leaf where
  isNull : Bool := false
  /-- Stands for an empty list or record as well. -/
  isVoid : Bool := false
  text? : Option String := none
  flag? : Option Bool := none
  number? : Option Float := none
  /-- The text of a truth value, a number or a text, where any of these will do. -/
  shown? : Option String := none
  deriving Repr, Inhabited

/-- A value of a data format. A key that is no text is `none`. -/
inductive Data where
  | leaf (l : Leaf)
  | list (items : List Data)
  | record (entries : List (Option String × Data))
  deriving Repr, Inhabited

namespace Data

def isNull : Data → Bool
  | leaf l => l.isNull
  | _ => false

def text? : Data → Option String
  | leaf l => l.text?
  | _ => none

def flag? : Data → Option Bool
  | leaf l => l.flag?
  | _ => none

def number? : Data → Option Float
  | leaf l => l.number?
  | _ => none

def shown? : Data → Option String
  | leaf l => l.shown?
  | _ => none

def list? : Data → Option (List Data)
  | list items => some items
  | leaf l => if l.isVoid then some [] else none
  | record _ => none

def listOf? {α : Type} (read : Data → Option α) (d : Data) : Option (List α) := do
  let items ← d.list?
  items.mapM read

def record? : Data → Option (List (Option String × Data))
  | record entries => some entries
  | leaf l => if l.isVoid then some [] else none
  | list _ => none

def optional? {α : Type} (read : Data → Option α) (d : Data) : Option (Option α) :=
  if d.isNull then some none else (read d).map some

def setKey {α : Type} (key : String) (value : α) : List (String × α) → List (String × α)
  | [] => [(key, value)]
  | (other, old) :: rest =>
    if other == key then (other, value) :: rest else (other, old) :: setKey key value rest

/-- The value as a table with texts for keys; of several values of a key the last counts. -/
def tableOf? {α : Type} (read : Data → Option α) (d : Data) : Option (List (String × α)) := do
  let entries ← d.record?
  let pairs ← entries.mapM fun (key, value) => do
    let key ← key
    let value ← read value
    return (key, value)
  return pairs.foldl (fun table (key, value) => setKey key value table) []

/-- The fields of a structure, in the order of `names`: by name from a record, in which no field may be
    named twice, or by position from a list, of which at least `least` items must be there and none may be
    left over. -/
def fields? (names : List String) (least : Nat) (d : Data) : Option (List (Option Data)) :=
  match d with
  | list items =>
    if items.length < least || names.length < items.length then none
    else some (names.zipIdx.map fun (_, i) => items[i]?)
  | _ => do
    let entries ← d.record?
    if entries.any (fun (key, _) => key.isNone) then none
    else
      names.mapM fun name =>
        match entries.filter fun (key, _) => key == some name with
        | [] => some none
        | [(_, value)] => some (some value)
        | _ => none

def optionalField? {α : Type} (read : Data → Option α) : Option Data → Option (Option α)
  | none => some none
  | some d => d.optional? read

def fieldOr? {α : Type} (default : α) (read : Data → Option α) : Option Data → Option α
  | none => some default
  | some d => read d

end Data

end ChartConfig
