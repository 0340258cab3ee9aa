import ChartConfig.Proofs.Language.Leading
import ChartConfig.Validation.Run

/-!
# What a run reads

Of all that a run remembers, two parts go their own way. `Control` decides which lines are read at all and
which branch of a condition is in force; it depends on the keywords alone. `Ledger` holds what sections
have declared and still owe; it depends on headers, blank lines and assignments alone, which `Event` lists.
-/

namespace ChartConfig

open Text

/-! ## Control -/

/-- What decides how a line is read: the blocks that are open and the latest branch of a condition. -/
structure Control where
  blocks : Blocks := []
  condition : Option Branch := none
  deriving Repr, DecidableEq, Inhabited

def Keyword.startsBranch (k : Keyword) : Bool :=
  k == .ifBlock || k.isAlternative

def Line.opensBlock (line : List Char) (following : List (List Char)) : Keyword → Bool
  | .ifBlock | .forBlock | .csv => true
  | .var => varNeedsEnd line
  | .list => listNeedsEnd line following
  | .script => !isOneLineScript line
  | _ => false

namespace Blocks

def without (blocks : Blocks) (opener : Keyword) : Blocks :=
  if blocks.innermost? = some opener then blocks.dropLast
  else blocks.eraseP (·.keyword == opener)

def afterKeyword (blocks : Blocks) (line : List Char) (following : List (List Char))
    (found : KeywordAt) : Blocks :=
  match found.keyword.closes with
  | some opener => blocks.without opener
  | none => if Line.opensBlock line following found.keyword then blocks ++ [found] else blocks

end Blocks

namespace Control

/-- The line is read, not passed over in the body of a script or of a table. -/
def reads (c : Control) (line : List Char) : Bool :=
  !c.blocks.inBody .script .endScript (Line.keyword? line) &&
    !c.blocks.inBody .csv .endCsv (Line.keyword? line)

/-- The branch in which a setting is declared; none if no condition is open. -/
def branch? (c : Control) : Option Branch :=
  if c.blocks.isIn .ifBlock then c.condition else none

/-- An open condition has a branch in force. -/
def Armed (c : Control) : Prop :=
  c.blocks.isIn .ifBlock = true → c.condition.isSome = true

def onKeyword (c : Control) (line : List Char) (following : List (List Char)) (found : KeywordAt) :
    Control where
  blocks := c.blocks.afterKeyword line following found
  condition := if found.keyword.startsBranch then some (Branch.ofKeyword found) else c.condition

def next (c : Control) (number : Nat) (line : List Char) (following : List (List Char)) : Control :=
  if c.reads line then
    match Line.keywordAt? line number with
    | some found => c.onKeyword line following found
    | none => c
  else c

def afterLines (c : Control) : (number : Nat) → List (List Char) → Control
  | _, [] => c
  | number, line :: following => (c.next number line following).afterLines (number + 1) following

end Control

theorem Blocks.mem_of_mem_without {blocks : Blocks} {opener : Keyword} {b : KeywordAt}
    (member : b ∈ blocks.without opener) : b ∈ blocks := by
  unfold without at member
  split at member
  · exact List.dropLast_subset _ member
  · exact List.mem_of_mem_eraseP member

theorem Blocks.isIn_of_afterKeyword {blocks : Blocks} {line : List Char} {following : List (List Char)}
    {found : KeywordAt} {opener : Keyword} (isOpen : (blocks.afterKeyword line following found).isIn opener = true)
    (other : found.keyword ≠ opener) : blocks.isIn opener = true := by
  simp only [isIn, List.any_eq_true, beq_iff_eq] at isOpen ⊢
  obtain ⟨b, member, isOpener⟩ := isOpen
  -- What is open was open before: the keyword of the line is another, and closing only removes.
  refine ⟨b, ?_, isOpener⟩
  unfold afterKeyword at member
  split at member
  · exact mem_of_mem_without member
  · split at member
    · rcases List.mem_append.mp member with old | new
      · exact old
      · rw [List.mem_singleton] at new
        exact absurd (new ▸ isOpener) other
    · exact member

namespace Control

theorem onKeyword_armed {c : Control} {line : List Char} {following : List (List Char)} {found : KeywordAt}
    (armed : c.Armed) : (c.onKeyword line following found).Armed := by
  intro conditional
  cases starts : found.keyword.startsBranch with
  | true => simp [onKeyword, starts]
  | false =>
    have other : found.keyword ≠ .ifBlock := by
      intro isIf
      simp [isIf, Keyword.startsBranch] at starts
    simp only [onKeyword, starts, Bool.false_eq_true, if_false]
    exact armed (Blocks.isIn_of_afterKeyword conditional other)

theorem next_armed {c : Control} {number : Nat} {line : List Char} {following : List (List Char)}
    (armed : c.Armed) : (c.next number line following).Armed := by
  unfold next
  split
  · split
    · exact onKeyword_armed armed
    · exact armed
  · exact armed

end Control

/-! ## Readings and events -/

/-- A line that is read, its number, and the control it is read under. -/
structure Reading where
  control : Control
  number : Nat
  line : List Char
  deriving Repr, DecidableEq, Inhabited

def Control.readings (c : Control) : (number : Nat) → List (List Char) → List Reading
  | _, [] => []
  | number, line :: following =>
    let later := (c.next number line following).readings (number + 1) following
    if c.reads line then ⟨c, number, line⟩ :: later else later

/-- An assignment: both sides by their canonical names, the setting, and the branch it stands in. -/
structure Entry where
  name : String
  value : String
  setting : Option Setting
  branch : Option Branch
  deriving Inhabited

/-- What a line means for the sections of a document. -/
inductive Event where
  | header (h : Header)
  | blank
  | entry (e : Entry)
  deriving Inhabited

namespace Event

def isInner : Event → Bool
  | header _ => false
  | _ => true

def isBlank : Event → Bool
  | blank => true
  | _ => false

def entry? : Event → Option Entry
  | entry e => some e
  | _ => none

end Event

def Reading.event? (r : Registry) (x : Reading) : Option Event :=
  match Line.header? x.line x.number with
  | some h => some (.header h)
  | none =>
    if allBlank x.line then some .blank
    else (Line.assignment? x.line).map fun a =>
      .entry ⟨canonicalName a.name.word, canonicalName a.value.word, r.lookup a.name.word,
        x.control.branch?⟩

def Control.eventsAt (c : Control) (r : Registry) (number : Nat) (line : List Char) : List Event :=
  if c.reads line then (Reading.event? r ⟨c, number, line⟩).toList else []

def Control.eventsFrom (c : Control) (r : Registry) (number : Nat) (lines : List (List Char)) : List Event :=
  (c.readings number lines).filterMap (Reading.event? r)

theorem Control.eventsFrom_cons (c : Control) (r : Registry) (number : Nat) (line : List Char)
    (following : List (List Char)) :
    c.eventsFrom r number (line :: following) =
      c.eventsAt r number line ++ (c.next number line following).eventsFrom r (number + 1) following := by
  unfold eventsFrom eventsAt
  simp only [readings]
  split
  · cases event : Reading.event? r ⟨c, number, line⟩ <;> simp [event]
  · simp

theorem Control.le_number_of_mem_readings {c : Control} {number : Nat} {lines : List (List Char)} {x : Reading}
    (member : x ∈ c.readings number lines) : number ≤ x.number := by
  induction lines generalizing c number with
  | nil => cases member
  | cons line following inductionHypothesis =>
    simp only [readings] at member
    split at member
    · rcases List.mem_cons.mp member with rfl | later
      · exact Nat.le_refl _
      · exact Nat.le_of_succ_le (inductionHypothesis later)
    · exact Nat.le_of_succ_le (inductionHypothesis member)

def Document.readings (text : String) : List Reading :=
  Control.readings {} 0 (Document.analysed text)

def Document.events (r : Registry) (text : String) : List Event :=
  Control.eventsFrom {} r 0 (Document.analysed text)

/-! ## The ledger -/

def Scope.recordUnder (scope : Scope) (branch : Option Branch) (setting : Setting) : Scope :=
  match branch with
  | some b => (scope.recordIn b setting).1
  | none => (scope.record setting).1

/-- What the sections read so far have declared. -/
structure Ledger where
  scope : Scope := {}
  values : List (String × String) := []
  deriving Inhabited

namespace Ledger

/-- The metric is waived: both columns are set to null. -/
def waived (l : Ledger) : Bool :=
  tableValue? l.values "columnmetric" == some "null" && tableValue? l.values "columnvalue" == some "null"

def verdict (l : Ledger) (r : Registry) : List Finding :=
  (l.scope.judge r l.waived).2

def close (l : Ledger) (r : Registry) : Ledger :=
  { l with scope := (l.scope.judge r l.waived).1.bequeath }

def enter (l : Ledger) (r : Registry) (h : Header) : Ledger where
  scope := l.scope.enter r h
  values := if occursIn "widget".toList h.name.toList then [] else l.values

def resume (l : Ledger) : Ledger :=
  match l.scope.previous with
  | some h => { l with scope := l.scope.resume h }
  | none => l

def declare (scope : Scope) (r : Registry) (branch : Option Branch) (setting : Setting) : Scope :=
  if setting.multiLine then scope.addCounterpart r setting
  else (scope.addCounterpart r setting).recordUnder branch setting

def assign (l : Ledger) (r : Registry) (e : Entry) : Ledger :=
  if l.scope.holdsTags then l
  else
    { scope := match e.setting with
        | some setting => declare l.scope r e.branch setting
        | none => l.scope
      values := (e.name, e.value) :: l.values }

/-- One event, with what is said about the section that it ends. -/
def read (r : Registry) (l : Ledger) : Event → Ledger × List Finding
  | .header h => ((l.close r).enter r h, l.verdict r)
  | .blank => if l.scope.name? == some "tags" then ((l.close r).resume, l.verdict r) else (l, [])
  | .entry e => (l.assign r e, [])

def readAll (r : Registry) (l : Ledger) : List Event → Ledger × List Finding
  | [] => (l, [])
  | e :: es => ((readAll r (l.read r e).1 es).1, (l.read r e).2 ++ (readAll r (l.read r e).1 es).2)

theorem readAll_append (r : Registry) (l : Ledger) (es more : List Event) :
    l.readAll r (es ++ more) =
      (((l.readAll r es).1.readAll r more).1, (l.readAll r es).2 ++ ((l.readAll r es).1.readAll r more).2) := by
  induction es generalizing l with
  | nil => simp [readAll]
  | cons e es inductionHypothesis => simp [readAll, inductionHypothesis]

end Ledger

namespace State

def control (s : State) : Control :=
  ⟨s.blocks, s.condition⟩

def ledger (s : State) : Ledger :=
  ⟨s.scope, s.values⟩

end State

end ChartConfig
