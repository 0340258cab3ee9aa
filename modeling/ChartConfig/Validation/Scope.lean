import ChartConfig.Language.Header
import ChartConfig.Message
import ChartConfig.Registry.Basic
import ChartConfig.Setting.Check
import ChartConfig.Validation.Finding

/-!
# The current section

What is known about the section being read: the settings it has declared, outside conditions and in each
branch of a condition, the settings of the sections before it that may enclose it, and the slots that it
still has to fill. A section is judged once, when the next begins or the document ends.
-/

namespace ChartConfig

/-- A branch of a condition, told apart from others by the line of its keyword. -/
structure Branch where
  line : Nat
  keyword : Keyword
  deriving Repr, DecidableEq, Inhabited

def Branch.ofKeyword (found : KeywordAt) : Branch :=
  ⟨found.range.start.line, found.keyword⟩

structure Scope where
  current : Option Header := none
  /-- Settings declared outside conditions. -/
  settings : List Setting := []
  previous : Option Header := none
  previousSettings : List Setting := []
  /-- Settings of the sections read so far, by name of the section. -/
  inherited : List (String × List Setting) := []
  /-- Settings declared in each branch of a condition. -/
  branches : List (Branch × List Setting) := []
  /-- Slots that the section has given itself: a table needs an attribute and the other way round. -/
  extraSlots : List Slot := []
  judged : Bool := false
  deriving Inhabited

namespace Note

def entering (number : Nat) (name : String) : Note :=
  ⟨.trace, "Line " ++ toString number ++ ": entering [" ++ name ++ "]"⟩

def leavingTags (name : String) : Note :=
  ⟨.trace, "Blank line closes [tags], back to [" ++ name ++ "]"⟩

end Note

namespace Scope

def name? (s : Scope) : Option String :=
  s.current.map Header.name

/-- The section holds tags rather than settings: its name has `tag` or `key` in it. -/
def holdsTags (s : Scope) : Bool :=
  match s.name? with
  | some name => Text.occursIn "tag".toList name.toList || Text.occursIn "key".toList name.toList
  | none => false

def fills (settings : List Setting) (slot : Slot) : Bool :=
  settings.any fun s => slot.contains s.name

/-- The branches fill the slot: each of them does, there is one at least, and as many `if` as `else`. -/
def branchesFill (s : Scope) (slot : Slot) : Bool :=
  let count (k : Keyword) := s.branches.countP fun b => b.1.keyword == k
  !s.branches.isEmpty && s.branches.all (fun b => fills b.2 slot) &&
    count .ifBlock == count .elseBlock

/-- The slot is filled by the section itself, by a section that encloses it, or by every branch of its
    conditions; or it is waived, as a slot is that the metric leads. -/
def satisfies (s : Scope) (waived : Bool) (enclosing : List String) (slot : Slot) : Bool :=
  (waived && slot.head? == some "metric") ||
    fills s.settings slot ||
    enclosing.any (fun name => fills ((tableValue? s.inherited name).getD []) slot) ||
    s.branchesFill slot

def slotName? (r : Registry) (slot : Slot) : Option String :=
  slot.head?.map fun first => match r.lookup first with
    | some setting => setting.displayName
    | none => first

def missing (s : Scope) (r : Registry) (waived : Bool) (header : Header) : List Finding :=
  let enclosing := r.ancestors header.name
  ((r.slotsOf header.name ++ s.extraSlots).filter fun slot => !s.satisfies waived enclosing slot)
    |>.filterMap fun slot => (slotName? r slot).map fun name =>
      .error header.range (Message.required name)

/-- Judges the section, unless that was done before. The slots it gave itself are forgotten. -/
def judge (s : Scope) (r : Registry) (waived : Bool) : Scope × List Finding :=
  if s.judged then ({ s with extraSlots := [] }, [])
  else
    ({ s with extraSlots := [], judged := true },
      match s.current with
      | some header => s.missing r waived header
      | none => [])

def merge (known more : List Setting) : List Setting :=
  more.foldl (fun known s => if s.isIn known then known else known ++ [s]) known

def bequeathTo (name : String) (settings : List Setting) :
    List (String × List Setting) → List (String × List Setting)
  | [] => [(name, merge [] settings)]
  | (other, known) :: rest =>
    if other == name then (other, merge known settings) :: rest
    else (other, known) :: bequeathTo name settings rest

/-- Leaves the settings of the section to those that it may enclose. -/
def bequeath (s : Scope) : Scope :=
  match s.current with
  | some header => { s with inherited := bequeathTo header.name s.settings s.inherited }
  | none => s

/-- Begins a section. What sections of the same name, and those that it may enclose, have left is out of
    reach from here on. -/
def enter (s : Scope) (r : Registry) (header : Header) : Scope :=
  { s with
    current := some header
    settings := []
    previous := s.current
    previousSettings := s.settings
    inherited := s.inherited.filter fun (name, _) =>
      name != header.name && !(r.ancestors name).contains header.name
    branches := []
    judged := false }

def resume (s : Scope) (header : Header) : Scope :=
  { s with current := some header, settings := s.previousSettings, judged := true }

def addSlot (s : Scope) (slot : Slot) : Scope :=
  if s.extraSlots.contains slot then s else { s with extraSlots := s.extraSlots ++ [slot] }

/-- A table needs an attribute, and an attribute a table, if the registry knows the counterpart. -/
def addCounterpart (s : Scope) (r : Registry) (setting : Setting) : Scope :=
  let counterpart? :=
    if setting.name == "table" then r.lookup "attribute"
    else if setting.name == "attribute" then r.lookup "table"
    else none
  match counterpart? with
  | some other => s.addSlot [other.name]
  | none => s

/-- Declares a setting outside conditions; `false` if it was declared before. -/
def record (s : Scope) (setting : Setting) : Scope × Bool :=
  if setting.isIn s.settings then (s, false)
  else ({ s with settings := s.settings ++ [setting] }, true)

def addToBranch (branch : Branch) (setting : Setting) :
    List (Branch × List Setting) → List (Branch × List Setting) × Bool
  | [] => ([(branch, [setting])], true)
  | (other, known) :: rest =>
    if other = branch then
      if setting.isIn known then ((other, known) :: rest, false)
      else ((other, known ++ [setting]) :: rest, true)
    else
      let (rest, fresh) := addToBranch branch setting rest
      ((other, known) :: rest, fresh)

/-- Declares a setting in a branch; `false` if the branch or the section had it. -/
def recordIn (s : Scope) (branch : Branch) (setting : Setting) : Scope × Bool :=
  let (branches, fresh) := addToBranch branch setting s.branches
  ({ s with branches }, fresh && !setting.isIn s.settings)

def conflicts (s : Scope) (setting : Setting) (range : Range) : List Finding :=
  (s.settings.filter setting.excludes).map fun other =>
    .error range (Message.conflict setting.displayName other.displayName)

end Scope

end ChartConfig
