import Mathlib.Data.List.Nodup
import ChartConfig.Proofs.Language.Grammar
import ChartConfig.Proofs.Validation.Pointing

/-!
# Blocks are well nested, or complained about

A run passes the lines of a document one after another, and a line changes the open blocks in one of six ways, which
`Blocks.Change` lists: together with the event of the line and what is said about it. So a run makes no complaint
exactly if the events are well nested, and every block that was pushed is either removed by one terminator or
reported as left open, once.
-/

namespace ChartConfig

open Text Finding BlockEvent

/-! ## Passing a line -/

/-- A line that a run has passed, with the state that it found and the state that it left. -/
structure Passing where
  before : State
  number : Nat
  line : List Char
  after : State

namespace Passing

/-- The line opened the block: it was put behind those that were open. -/
def Pushes (x : Passing) (b : KeywordAt) : Prop :=
  x.after.blocks = x.before.blocks ++ [b]

def pushed? (x : Passing) : Option KeywordAt :=
  x.after.blocks.getLast?.filter fun b => x.after.blocks = x.before.blocks ++ [b]

def removes (x : Passing) (b : KeywordAt) : Bool :=
  x.before.blocks.contains b && !x.after.blocks.contains b

/-- What the line means for the blocks, if it is read: a terminator closes, `else` and `elseif` begin an
    alternative, and any other keyword opens a block if it has pushed one. -/
def event? (x : Passing) : Option BlockEvent :=
  if x.before.control.reads x.line then
    (Line.keyword? x.line).bind fun k =>
      match k.closes with
      | some opener => some (.closes opener)
      | none => if k.isAlternative then some .alternative else x.pushed?.map (.opens ·.keyword)
  else none

def complaints (x : Passing) : List Diagnostic :=
  diagnostics (x.before.control.complaintsAt x.number x.line)

end Passing

def Step.passings (r : Registry) : (number : Nat) → List (List Char) → State → List Passing
  | _, [], _ => []
  | number, line :: following, s =>
    match Step.line r number line following s with
    | .ok (after, _) => ⟨s, number, line, after⟩ :: passings r (number + 1) following after
    | .error _ => []

def Document.passings (r : Registry) (text : String) : List Passing :=
  Step.passings r 0 (Document.analysed text) {}

def Document.blockEvents (r : Registry) (text : String) : List BlockEvent :=
  (Document.passings r text).filterMap Passing.event?

/-! ## How a line changes the blocks -/

namespace Blocks

/-- All that the line with the given number can do to the blocks, with its event and the complaints about it. -/
inductive Change (number : Nat) : Blocks → Option BlockEvent → List Diagnostic → Blocks → Prop where
  | unchanged {blocks : Blocks} : Change number blocks none [] blocks
  | pushed {blocks : Blocks} {b : KeywordAt} : b.range.start.line = number →
      Change number blocks (some (.opens b.keyword)) [] (blocks ++ [b])
  | closed {blocks : Blocks} {k : Keyword} : blocks.innermost? = some k →
      Change number blocks (some (.closes k)) [] blocks.dropLast
  /-- A terminator that does not fit removes the first block of its kind, if there is one. -/
  | misclosed {blocks : Blocks} {k : Keyword} {d : Diagnostic} : blocks.innermost? ≠ some k →
      d.range.start.line = number →
      Change number blocks (some (.closes k)) [d] (blocks.eraseP (·.keyword == k))
  | branched {blocks : Blocks} : blocks.innermost? = some .ifBlock →
      Change number blocks (some .alternative) [] blocks
  | misbranched {blocks : Blocks} {d : Diagnostic} : blocks.innermost? ≠ some .ifBlock →
      d.range.start.line = number → Change number blocks (some .alternative) [d] blocks

variable {blocks : Blocks} {found : KeywordAt}

theorem change_closing {opener : Keyword} (closes : found.keyword.closes = some opener) :
    Change found.range.start.line blocks (some (.closes opener)) (diagnostics (blocks.complaints found))
      (blocks.without opener) := by
  simp only [complaints, close, closes, without]
  cases inner : blocks.innermost? with
  | none =>
    have empty : blocks = [] := by simpa [innermost?] using inner
    subst empty
    exact .misclosed (by simp [innermost?]) rfl
  | some kind =>
    by_cases fits : kind = opener
    · simp only [fits, beq_self_eq_true, if_true]
      exact .closed (fits ▸ inner)
    · have misfit : blocks.innermost? ≠ some opener := by simpa [inner] using fits
      cases present : blocks.isIn opener with
      | true =>
        simp only [beq_iff_eq, fits, if_false, if_true, Option.some.injEq]
        exact .misclosed misfit rfl
      | false =>
        simp only [beq_iff_eq, fits, if_false, Bool.false_eq_true, Option.some.injEq]
        exact .misclosed misfit rfl

theorem change_alternative (blocks : Blocks) (found : KeywordAt) :
    Change found.range.start.line blocks (some .alternative) (diagnostics (blocks.alternative found)) blocks := by
  simp only [alternative]
  cases inner : blocks.innermost? with
  | none =>
    have empty : blocks = [] := by simpa [innermost?] using inner
    subst empty
    exact .misbranched (by simp [innermost?]) rfl
  | some kind =>
    by_cases fits : kind = .ifBlock
    · subst fits
      have present : blocks.isIn .ifBlock = true := by
        obtain ⟨b, isLast, isIf⟩ := Option.map_eq_some_iff.mp inner
        exact (isIn_iff blocks).mpr ⟨b, List.mem_of_getLast? isLast, isIf⟩
      simp only [present, Bool.not_true, Bool.false_eq_true, if_false, beq_self_eq_true, if_true]
      exact .branched inner
    · have misfit : blocks.innermost? ≠ some .ifBlock := by simpa [inner] using fits
      split
      · exact .misbranched misfit rfl
      · simp only [beq_iff_eq, fits, if_false]
        exact .misbranched misfit rfl

end Blocks

open Blocks

theorem Passing.change (x : Passing) {following : List (List Char)}
    (control : x.after.control = x.before.control.next x.number x.line following) :
    Change x.number x.before.blocks x.event? x.complaints x.after.blocks := by
  have blocks : x.after.blocks = (x.before.control.next x.number x.line following).blocks :=
    congrArg Control.blocks control
  simp only [event?, complaints, Control.complaintsAt]
  cases isRead : x.before.control.reads x.line with
  | false =>
    simp only [Control.next, isRead, Bool.false_eq_true, if_false] at blocks
    simp only [Bool.false_eq_true, if_false, blocks]
    exact .unchanged
  | true =>
    simp only [Control.next, isRead, if_true] at blocks
    cases isFound : Line.keywordAt? x.line x.number with
    | none =>
      simp only [isFound] at blocks
      have noKeyword : Line.keyword? x.line = none := Line.keywordAt?_eq_none.mp isFound
      simp only [noKeyword, blocks]
      exact .unchanged
    | some found =>
      simp only [isFound, Control.onKeyword, afterKeyword] at blocks
      simp only [Line.keyword?_eq isFound, Option.bind_some, Option.elim_some, if_true, ← Line.line_keywordAt? isFound]
      cases closes : found.keyword.closes with
      | some opener =>
        simp only [closes] at blocks
        rw [blocks]
        exact change_closing closes
      | none =>
        simp only [closes] at blocks
        cases alternative : found.keyword.isAlternative with
        | true =>
          have opensNone : Line.opensBlock x.line following found.keyword = false := by
            revert alternative
            cases found.keyword <;> simp [Keyword.isAlternative, Line.opensBlock]
          have said : x.before.control.blocks.complaints found = x.before.blocks.alternative found := by
            simp [Blocks.complaints, close, closes, alternative, State.control]
          simp only [opensNone, Bool.false_eq_true, if_false] at blocks
          rw [blocks, said]
          exact change_alternative x.before.blocks found
        | false =>
          have notClosing : found.keyword.isClosing = false := by simp [Keyword.isClosing, closes, alternative]
          rw [complaints_of_not_isClosing notClosing]
          simp only [Bool.false_eq_true, if_false, pushed?]
          cases opens : Line.opensBlock x.line following found.keyword with
          | true =>
            simp only [opens, if_true] at blocks
            have isPushed : x.after.blocks = x.before.blocks ++ [found] := blocks
            simp only [isPushed, List.getLast?_concat, Option.filter_some, decide_true, if_true, Option.map_some]
            exact .pushed rfl
          | false =>
            simp only [opens, Bool.false_eq_true, if_false] at blocks
            have isSame : x.after.blocks = x.before.blocks := blocks
            have nothing :
                (x.before.blocks.getLast?.filter fun b => x.before.blocks = x.before.blocks ++ [b]) = none := by
              simp
            simp only [isSame, nothing, Option.map_none]
            exact .unchanged

/-! ## Passing all lines -/

/-- The lines are passed one after another, the first with the given number and blocks, and the last leaves the
    given blocks. -/
inductive Passes : Nat → Blocks → List Passing → Blocks → Prop where
  | done {number : Nat} {blocks : Blocks} : Passes number blocks [] blocks
  | next {x : Passing} {xs : List Passing} {last : Blocks} :
      Change x.number x.before.blocks x.event? x.complaints x.after.blocks →
      Passes (x.number + 1) x.after.blocks xs last → Passes x.number x.before.blocks (x :: xs) last

theorem Step.passings_passes (r : Registry) (number : Nat) (lines : List (List Char)) {s : State}
    (armed : s.control.Armed) :
    Passes number s.blocks (passings r number lines s) (s.control.afterLines number lines).blocks ∧
      (passings r number lines s).map Passing.line = lines ∧
      diagnostics (s.control.complaintsFrom number lines) = (passings r number lines s).flatMap Passing.complaints := by
  induction lines generalizing number s with
  | nil => exact ⟨.done, rfl, rfl⟩
  | cons line following inductionHypothesis =>
    obtain ⟨after, said, ran, stillArmed, control, -⟩ := line_succeeds r number line following armed
    obtain ⟨passes, sameLines, sameComplaints⟩ := @inductionHypothesis (number + 1) after stillArmed
    simp only [passings, ran, Control.afterLines, Control.complaintsFrom, ← control]
    refine ⟨?_, by simp [sameLines], by simp [sameComplaints, Passing.complaints]⟩
    exact @Passes.next ⟨s, number, line, after⟩ _ _ (Passing.change ⟨s, number, line, after⟩ control) passes

namespace Passes

variable {number : Nat} {blocks last : Blocks} {xs : List Passing} {b : KeywordAt}

theorem le_number (passes : Passes number blocks xs last) : ∀ x ∈ xs, number ≤ x.number := by
  induction passes with
  | done => simp
  | next change passes inductionHypothesis =>
    intro y member
    cases member with
    | head => exact Nat.le_refl _
    | tail _ later => exact Nat.le_of_succ_le (inductionHypothesis y later)

theorem eq_of_number (passes : Passes number blocks xs last) :
    ∀ x ∈ xs, ∀ y ∈ xs, x.number = y.number → x = y := by
  induction passes with
  | done => simp
  | @next first xs last change passes inductionHypothesis =>
    intro x isX y isY same
    have later := passes.le_number
    cases isX with
    | head =>
      cases isY with
      | head => rfl
      | tail _ isLater =>
        have := later y isLater
        omega
    | tail _ isLater =>
      cases isY with
      | head =>
        have := later x isLater
        omega
      | tail _ isLaterToo => exact inductionHypothesis x isLater y isLaterToo same

theorem change_of_mem (passes : Passes number blocks xs last) :
    ∀ x ∈ xs, Change x.number x.before.blocks x.event? x.complaints x.after.blocks := by
  induction passes with
  | done => simp
  | next change passes inductionHypothesis =>
    intro y member
    cases member with
    | head => exact change
    | tail _ later => exact inductionHypothesis y later

end Passes

/-! ## No complaints, and the grammar -/

def Blocks.stack (blocks : Blocks) : List Keyword :=
  (blocks.map KeywordAt.keyword).reverse

theorem Blocks.head?_stack (blocks : Blocks) : blocks.stack.head? = blocks.innermost? := by
  simp [stack, innermost?]

theorem Blocks.tail_stack (blocks : Blocks) : blocks.stack.tail = stack blocks.dropLast := by
  simp [stack, List.map_dropLast]

/-- As long as nothing is complained about, the events lead from the open blocks to those open at the end; the first
    complaint is about an event that does not fit. -/
theorem Passes.follow_events {number : Nat} {blocks last : Blocks} {xs : List Passing}
    (passes : Passes number blocks xs last) :
    follow blocks.stack (xs.filterMap Passing.event?) =
      if xs.flatMap Passing.complaints = [] then some last.stack else none := by
  induction passes with
  | done => rfl
  | @next x xs last change passes inductionHypothesis =>
    generalize x.before.blocks = blocks, x.after.blocks = after, complained : x.complaints = said,
      happened : x.event? = event at change inductionHypothesis
    simp only [List.filterMap_cons, List.flatMap_cons, happened, complained]
    cases change with
    | unchanged => exact inductionHypothesis
    | pushed place =>
      rw [List.nil_append, ← inductionHypothesis]
      simp [follow, stack]
    | closed fits =>
      rw [List.nil_append, ← inductionHypothesis]
      simp [follow, head?_stack, fits, tail_stack]
    | misclosed misfit place => simp [follow, head?_stack, misfit]
    | branched fits =>
      rw [List.nil_append, ← inductionHypothesis]
      simp [follow, head?_stack, fits]
    | misbranched misfit place => simp [follow, head?_stack, misfit]

/-! ## Every block is accounted for -/

namespace Blocks

variable {number : Nat} {blocks after : Blocks} {event : Option BlockEvent} {said : List Diagnostic} {b : KeywordAt}

/-- The blocks stand in the order of their lines, all before the given one. -/
structure Ordered (number : Nat) (blocks : Blocks) : Prop where
  sorted : blocks.Pairwise fun a b => a.range.start.line < b.range.start.line
  before : ∀ b ∈ blocks, b.range.start.line < number

theorem Ordered.sublist (ordered : Ordered number blocks) (part : after.Sublist blocks) : Ordered (number + 1) after :=
  ⟨ordered.sorted.sublist part, fun b member => Nat.lt_succ_of_lt (ordered.before b (part.subset member))⟩

theorem Ordered.not_mem (ordered : Ordered number blocks) (onLine : number ≤ b.range.start.line) : b ∉ blocks :=
  fun member => Nat.not_le_of_lt (ordered.before b member) onLine

theorem Ordered.lt_of_mem_dropLast (ordered : Ordered number blocks) {last : KeywordAt}
    (isLast : blocks.getLast? = some last) (member : b ∈ blocks.dropLast) :
    b.range.start.line < last.range.start.line := by
  have sorted := ordered.sorted
  rw [← List.dropLast_append_getLast? last isLast, List.pairwise_append] at sorted
  exact sorted.2.2 b member last (List.mem_singleton_self last)

theorem Ordered.not_mem_dropLast (ordered : Ordered number blocks) (isLast : blocks.getLast? = some b) :
    b ∉ blocks.dropLast :=
  fun member => Nat.lt_irrefl _ (ordered.lt_of_mem_dropLast isLast member)

theorem Change.unchanged_of_no_event (change : Change number blocks event said after) (noEvent : event = none) :
    after = blocks := by
  cases change with
  | unchanged => rfl
  | pushed | closed | misclosed | branched | misbranched => cases noEvent

theorem Change.ordered (change : Change number blocks event said after) (ordered : Ordered number blocks) :
    Ordered (number + 1) after := by
  cases change with
  | unchanged | branched | misbranched => exact ordered.sublist (.refl _)
  | closed => exact ordered.sublist (List.dropLast_sublist _)
  | misclosed => exact ordered.sublist List.eraseP_sublist
  | pushed place =>
    obtain ⟨sorted, before⟩ := ordered.sublist (.refl _)
    constructor
    · rw [List.pairwise_append]
      refine ⟨sorted, List.pairwise_singleton .., ?_⟩
      intro a isOpen c isNew
      rw [List.mem_singleton.mp isNew, place]
      exact ordered.before a isOpen
    · intro c member
      cases List.mem_append.mp member with
      | inl old => exact before c old
      | inr new =>
        rw [List.mem_singleton.mp new, place]
        exact Nat.lt_succ_self number

theorem Change.closes_of_removed (change : Change number blocks event said after) (wasOpen : b ∈ blocks)
    (removed : b ∉ after) : event = some (.closes b.keyword) := by
  cases change with
  | unchanged | branched | misbranched => exact absurd wasOpen removed
  | pushed => exact absurd (List.mem_append_left _ wasOpen) removed
  | closed fits =>
    obtain ⟨c, isLast, rfl⟩ := Option.map_eq_some_iff.mp fits
    have parts := List.dropLast_append_getLast? c isLast
    rw [← parts] at wasOpen
    cases List.mem_append.mp wasOpen with
    | inl stays => exact absurd stays removed
    | inr isRemoved => rw [List.mem_singleton.mp isRemoved]
  | @misclosed k =>
    by_cases kind : b.keyword = k
    · rw [kind]
    · exact absurd ((List.mem_eraseP_of_neg (by simpa using kind)).mpr wasOpen) removed

theorem Change.opens_of_pushed (change : Change number blocks event said after) (pushed : after = blocks ++ [b]) :
    event = some (.opens b.keyword) ∧ b.range.start.line = number ∧ said = [] := by
  cases change with
  | unchanged | branched | misbranched => simp at pushed
  | pushed place =>
    have same := List.append_cancel_left pushed
    cases same
    exact ⟨rfl, place, rfl⟩
  | closed =>
    have shorter := congrArg List.length pushed
    simp only [List.length_dropLast, List.length_append, List.length_singleton] at shorter
    omega
  | @misclosed k =>
    have shorter := (@List.eraseP_sublist _ (·.keyword == k) blocks).length_le
    rw [pushed, List.length_append, List.length_singleton] at shorter
    omega

theorem Change.mem_or_pushed (change : Change number blocks event said after) (isOpen : b ∈ after) :
    b ∈ blocks ∨ after = blocks ++ [b] := by
  cases change with
  | unchanged | branched | misbranched => exact .inl isOpen
  | closed => exact .inl (List.dropLast_subset _ isOpen)
  | misclosed => exact .inl (List.mem_of_mem_eraseP isOpen)
  | pushed =>
    cases List.mem_append.mp isOpen with
    | inl old => exact .inl old
    | inr new => exact .inr (by rw [List.mem_singleton.mp new])

theorem Change.one_complaint (change : Change number blocks event said after) :
    said.length ≤ 1 ∧ ∀ d ∈ said, d.range.start.line = number := by
  cases change with
  | unchanged | pushed | closed | branched => simp
  | misclosed _ place => exact ⟨Nat.le_refl _, by simpa using place⟩
  | misbranched _ place => exact ⟨Nat.le_refl _, by simpa using place⟩

end Blocks

/-- The block is removed by exactly one line, a terminator of its kind, or by none, and is then left open. -/
def Accounted (xs : List Passing) (last : Blocks) (b : KeywordAt) : Prop :=
  (∃ y, xs.filter (·.removes b) = [y] ∧ y.event? = some (.closes b.keyword) ∧ b ∉ last) ∨
    (xs.filter (·.removes b) = [] ∧ b ∈ last)

namespace Passes

variable {number : Nat} {blocks last : Blocks} {xs : List Passing} {b : KeywordAt}

theorem not_removed (x : Passing) (stays : b ∈ x.before.blocks → b ∈ x.after.blocks) : x.removes b = false := by
  simp only [Passing.removes, Bool.and_eq_false_iff]
  by_cases isOpen : b ∈ x.after.blocks
  · simp [isOpen]
  · simp [isOpen, mt stays]

theorem stays_closed (passes : Passes number blocks xs last) (closed : b ∉ blocks)
    (earlier : b.range.start.line < number) : xs.filter (·.removes b) = [] ∧ b ∉ last := by
  induction passes with
  | done => exact ⟨rfl, closed⟩
  | @next x xs last change passes inductionHypothesis =>
    have stillClosed : b ∉ x.after.blocks := by
      intro isOpen
      cases change.mem_or_pushed isOpen with
      | inl wasOpen => exact closed wasOpen
      | inr pushed =>
        have onLine := (change.opens_of_pushed pushed).2.1
        omega
    obtain ⟨none, notLast⟩ := inductionHypothesis stillClosed (Nat.lt_succ_of_lt earlier)
    rw [List.filter_cons, not_removed x fun isOpen => absurd isOpen closed]
    exact ⟨none, notLast⟩

theorem accounted_of_open (passes : Passes number blocks xs last) (ordered : Ordered number blocks)
    (isOpen : b ∈ blocks) : Accounted xs last b := by
  induction passes with
  | done => exact .inr ⟨rfl, isOpen⟩
  | @next x xs last change passes inductionHypothesis =>
    by_cases still : b ∈ x.after.blocks
    · have rest := inductionHypothesis (change.ordered ordered) still
      simp only [Accounted, List.filter_cons, not_removed x fun _ => still, Bool.false_eq_true, if_false]
      exact rest
    · have removed : x.removes b = true := by simp [Passing.removes, isOpen, still]
      obtain ⟨none, notLast⟩ := passes.stays_closed still (Nat.lt_succ_of_lt (ordered.before b isOpen))
      refine .inl ⟨x, ?_, change.closes_of_removed isOpen still, notLast⟩
      rw [List.filter_cons, removed, if_pos rfl, none]

theorem accounted_of_pushed (passes : Passes number blocks xs last) (ordered : Ordered number blocks) {x : Passing}
    (isPassed : x ∈ xs) (pushes : x.Pushes b) : Accounted xs last b := by
  have onLine := ((passes.change_of_mem x isPassed).opens_of_pushed pushes).2.1
  have notYet := passes.le_number x isPassed
  rw [← onLine] at notYet
  induction passes with
  | done => cases isPassed
  | @next y ys last change passes inductionHypothesis =>
    have notRemoved := not_removed y fun isOpen => absurd isOpen (ordered.not_mem notYet)
    simp only [Accounted, List.filter_cons, notRemoved, Bool.false_eq_true, if_false]
    cases isPassed with
    | head =>
      have isOpen : b ∈ x.after.blocks := by simp [show x.after.blocks = x.before.blocks ++ [b] from pushes]
      exact passes.accounted_of_open (change.ordered ordered) isOpen
    | tail _ later =>
      have bound := passes.le_number x later
      exact inductionHypothesis (change.ordered ordered) later (by omega)

theorem pushed_of_last (passes : Passes number blocks xs last) (isLast : b ∈ last) :
    b ∈ blocks ∨ ∃ x ∈ xs, x.Pushes b := by
  induction passes with
  | done => exact .inl isLast
  | @next x xs last change passes inductionHypothesis =>
    cases inductionHypothesis isLast with
    | inr later =>
      obtain ⟨y, isPassed, pushes⟩ := later
      exact .inr ⟨y, List.mem_cons_of_mem _ isPassed, pushes⟩
    | inl isOpen =>
      cases change.mem_or_pushed isOpen with
      | inl wasOpen => exact .inl wasOpen
      | inr pushed => exact .inr ⟨x, List.mem_cons_self .., pushed⟩

theorem pushed_of_before (passes : Passes number blocks xs last) {y : Passing} (isPassed : y ∈ xs)
    (isOpen : b ∈ y.before.blocks) : b ∈ blocks ∨ ∃ x ∈ xs, x.Pushes b := by
  induction passes with
  | done => cases isPassed
  | @next x xs last change passes inductionHypothesis =>
    cases isPassed with
    | head => exact .inl isOpen
    | tail _ later =>
      cases inductionHypothesis later with
      | inr onTheWay =>
        obtain ⟨z, isPassed, pushes⟩ := onTheWay
        exact .inr ⟨z, List.mem_cons_of_mem _ isPassed, pushes⟩
      | inl isOpen =>
        cases change.mem_or_pushed isOpen with
        | inl wasOpen => exact .inl wasOpen
        | inr pushed => exact .inr ⟨x, List.mem_cons_self .., pushed⟩

theorem ordered_before (passes : Passes number blocks xs last) (ordered : Ordered number blocks) :
    ∀ x ∈ xs, Ordered x.number x.before.blocks := by
  induction passes with
  | done => simp
  | next change passes inductionHypothesis =>
    intro y member
    cases member with
    | head => exact ordered
    | tail _ later => exact inductionHypothesis (change.ordered ordered) y later

theorem ordered_last (passes : Passes number blocks xs last) (ordered : Ordered number blocks) :
    last.Pairwise fun a b => a.range.start.line < b.range.start.line := by
  induction passes with
  | done => exact ordered.sorted
  | next change passes inductionHypothesis => exact inductionHypothesis (change.ordered ordered)

theorem complaints_on (passes : Passes number blocks xs last) {x : Passing} (isPassed : x ∈ xs) :
    (xs.flatMap Passing.complaints).filter (·.range.start.line == x.number) = x.complaints := by
  induction passes with
  | done => cases isPassed
  | @next y xs last change passes inductionHypothesis =>
    rw [List.flatMap_cons, List.filter_append]
    cases isPassed with
    | head =>
      have own : x.complaints.filter (·.range.start.line == x.number) = x.complaints := by
        rw [List.filter_eq_self]
        exact fun d member => beq_iff_eq.mpr (change.one_complaint.2 d member)
      have elsewhere : (xs.flatMap Passing.complaints).filter (·.range.start.line == x.number) = [] := by
        rw [List.filter_eq_nil_iff]
        intro d member
        obtain ⟨z, isPassed, complains⟩ := List.mem_flatMap.mp member
        have bound := passes.le_number z isPassed
        have line := (passes.change_of_mem z isPassed).one_complaint.2 d complains
        simp only [beq_iff_eq]
        omega
      rw [own, elsewhere, List.append_nil]
    | tail _ later =>
      have bound := passes.le_number x later
      have nothing : y.complaints.filter (·.range.start.line == x.number) = [] := by
        rw [List.filter_eq_nil_iff]
        intro d member
        have line := change.one_complaint.2 d member
        simp only [beq_iff_eq]
        omega
      rw [nothing, List.nil_append, inductionHypothesis later]

end Passes

/-! ## Runs -/

def KeywordAt.unclosed (b : KeywordAt) : Diagnostic :=
  .error b.range (Blocks.noTerminator b.keyword)

theorem Blocks.diagnostics_leftOpen (blocks : Blocks) :
    diagnostics blocks.leftOpen = blocks.map KeywordAt.unclosed := by
  simp only [diagnostics, leftOpen, List.filterMap_map]
  exact congrFun List.filterMap_eq_map blocks

theorem KeywordAt.isStructural_unclosed (b : KeywordAt) : b.unclosed.isStructural = true :=
  Diagnostic.isStructural_iff.mpr ⟨.noTerminator b.keyword, rfl⟩

theorem Blocks.ordered_initial : Ordered 0 ({} : State).blocks :=
  ⟨.nil, by simp⟩

/-- What is found complains about the order of blocks as the lines passed and the blocks left open demand. -/
structure Complained (xs : List Passing) (last : Blocks) (found : List Diagnostic) : Prop where
  passes : Passes 0 [] xs last
  structural : found.filter (·.isStructural) = xs.flatMap Passing.complaints ++ last.map KeywordAt.unclosed

namespace Complained

variable {last : Blocks} {xs : List Passing} {found : List Diagnostic} {x : Passing} {b : KeywordAt}

theorem silent_iff (complained : Complained xs last found) :
    found.filter (·.isStructural) = [] ↔ Balanced (xs.filterMap Passing.event?) := by
  have followed := complained.passes.follow_events
  have noneOpen : last.stack = [] ↔ last = [] := by simp [Blocks.stack]
  rw [balanced_iff_follow, complained.structural, List.append_eq_nil_iff, List.map_eq_nil_iff]
  change _ ↔ follow (Blocks.stack []) _ = _
  rw [followed]
  split
  · next none => simp [none, noneOpen]
  · next some => simp [some]

theorem silent (complained : Complained xs last found) (orderly : found.filter (·.isStructural) = []) :
    ∀ x ∈ xs, x.complaints = [] := by
  rw [complained.structural, List.append_eq_nil_iff, List.flatMap_eq_nil_iff] at orderly
  exact orderly.1

theorem not_complained (complained : Complained xs last found) (isPassed : x ∈ xs) (pushes : x.Pushes b) :
    b.unclosed ∉ xs.flatMap Passing.complaints := by
  intro member
  obtain ⟨y, isPassedToo, complains⟩ := List.mem_flatMap.mp member
  obtain ⟨-, onLine, silent⟩ := (complained.passes.change_of_mem x isPassed).opens_of_pushed pushes
  have sameLine : b.range.start.line = y.number :=
    (complained.passes.change_of_mem y isPassedToo).one_complaint.2 b.unclosed complains
  have same := complained.passes.eq_of_number x isPassed y isPassedToo (onLine.symm.trans sameLine)
  rw [← same, silent] at complains
  cases complains

theorem not_mem_of_closed (complained : Complained xs last found) (isPassed : x ∈ xs) (pushes : x.Pushes b)
    (closed : b ∉ last) : b.unclosed ∉ found := by
  intro member
  have isReported : b.unclosed ∈ found.filter (·.isStructural) :=
    List.mem_filter.mpr ⟨member, b.isStructural_unclosed⟩
  rw [complained.structural, List.mem_append, List.mem_map] at isReported
  cases isReported with
  | inl complains => exact complained.not_complained isPassed pushes complains
  | inr isLeft =>
    obtain ⟨c, isOpen, same⟩ := isLeft
    -- The other block was pushed on the same line, so it is the same.
    have sameLine : c.range.start.line = b.range.start.line := congrArg (·.range.start.line) same
    cases complained.passes.pushed_of_last isOpen with
    | inl initial => cases initial
    | inr pushedToo =>
      obtain ⟨y, isPassedToo, pushesToo⟩ := pushedToo
      have onLine := ((complained.passes.change_of_mem x isPassed).opens_of_pushed pushes).2.1
      have onLineToo := ((complained.passes.change_of_mem y isPassedToo).opens_of_pushed pushesToo).2.1
      have sameLines := complained.passes.eq_of_number x isPassed y isPassedToo (by omega)
      subst sameLines
      have sameBlocks := List.append_cancel_left (pushes.symm.trans pushesToo)
      cases sameBlocks
      exact closed isOpen

theorem count_of_open (complained : Complained xs last found) (isPassed : x ∈ xs) (pushes : x.Pushes b)
    (isOpen : b ∈ last) : found.count b.unclosed = 1 := by
  have distinct : (last.map KeywordAt.unclosed).Nodup := by
    rw [List.Nodup, List.pairwise_map]
    refine (complained.passes.ordered_last Blocks.ordered_initial).imp fun before same => ?_
    exact Nat.ne_of_lt before (congrArg (·.range.start.line) same)
  rw [← List.count_filter b.isStructural_unclosed, complained.structural, List.count_append,
    List.count_eq_zero_of_not_mem (complained.not_complained isPassed pushes),
    List.count_eq_one_of_mem distinct (List.mem_map_of_mem isOpen)]

theorem on_line (complained : Complained xs last found) (isPassed : x ∈ xs)
    (notOpening : ∀ k, x.event? ≠ some (.opens k)) :
    (found.filter fun d => d.isStructural && d.range.start.line == x.number) = x.complaints := by
  have noneOpen : (last.map KeywordAt.unclosed).filter (·.range.start.line == x.number) = [] := by
    rw [List.filter_eq_nil_iff]
    intro d member
    obtain ⟨b, isOpen, rfl⟩ := List.mem_map.mp member
    cases complained.passes.pushed_of_last isOpen with
    | inl initial => cases initial
    | inr pushed =>
      obtain ⟨y, isPassedToo, pushes⟩ := pushed
      obtain ⟨opens, onLine, -⟩ := (complained.passes.change_of_mem y isPassedToo).opens_of_pushed pushes
      intro sameLine
      have sameNumber : y.number = x.number := onLine.symm.trans (eq_of_beq sameLine)
      have same := complained.passes.eq_of_number y isPassedToo x isPassed sameNumber
      exact notOpening b.keyword (same ▸ opens)
  have split : (found.filter fun d => d.isStructural && d.range.start.line == x.number) =
      (found.filter (·.isStructural)).filter (·.range.start.line == x.number) := by
    rw [List.filter_filter]
    exact List.filter_congr fun d _ => Bool.and_comm ..
  rw [split, complained.structural, List.filter_append, noneOpen, List.append_nil]
  exact complained.passes.complaints_on isPassed

theorem length_le_one (complained : Complained xs last found) (isPassed : x ∈ xs)
    (notOpening : ∀ k, x.event? ≠ some (.opens k)) :
    (found.filter fun d => d.isStructural && d.range.start.line == x.number).length ≤ 1 := by
  rw [complained.on_line isPassed notOpening]
  exact (complained.passes.change_of_mem x isPassed).one_complaint.1

end Complained

theorem validate_complained (r : Registry) (text : String) :
    ∃ found last, validate text r = .ok found ∧ Complained (Document.passings r text) last found := by
  obtain ⟨said, ran, reports⟩ := validate_reports r text
  obtain ⟨passes, -, sameComplaints⟩ := Step.passings_passes r 0 (Document.analysed text) State.armed_initial
  refine ⟨diagnostics said, _, ran, passes, ?_⟩
  have structural := reports.structural
  rw [diagnostics_append, Blocks.diagnostics_leftOpen] at structural
  rw [structural, Document.passings, ← sameComplaints]
  rfl

/-- A run complains about no block exactly if the events of the lines are well nested. Whatever the document, every
    block that is pushed is removed by one terminator of its kind, and then not reported, or by none, and then
    reported once as unclosed; and a line that closes a block or begins an alternative gets one complaint at most. -/
theorem blocks_accepted_by_grammar (r : Registry) (text : String) :
    ∃ found, validate text r = .ok found ∧
      (Document.passings r text).map Passing.line = Document.analysed text ∧
      (found.filter (·.isStructural) = [] ↔ Balanced (Document.blockEvents r text)) ∧
      (∀ x ∈ Document.passings r text, ∀ b, x.Pushes b →
        (∃ y, (Document.passings r text).filter (·.removes b) = [y] ∧ y.event? = some (.closes b.keyword) ∧
          b.unclosed ∉ found) ∨
        ((Document.passings r text).filter (·.removes b) = [] ∧ found.count b.unclosed = 1)) ∧
      ∀ x ∈ Document.passings r text, (∃ k, x.event? = some (.closes k)) ∨ x.event? = some .alternative →
        (found.filter fun d => d.isStructural && d.range.start.line == x.number).length ≤ 1 := by
  obtain ⟨found, last, ran, complained⟩ := validate_complained r text
  obtain ⟨-, sameLines, -⟩ := Step.passings_passes r 0 (Document.analysed text) State.armed_initial
  refine ⟨found, ran, sameLines, complained.silent_iff, ?_, ?_⟩
  · intro x isPassed b pushes
    cases complained.passes.accounted_of_pushed Blocks.ordered_initial isPassed pushes with
    | inl removed =>
      obtain ⟨y, once, closes, closed⟩ := removed
      exact .inl ⟨y, once, closes, complained.not_mem_of_closed isPassed pushes closed⟩
    | inr isLeft => exact .inr ⟨isLeft.1, complained.count_of_open isPassed pushes isLeft.2⟩
  · intro x isPassed closing
    apply complained.length_le_one isPassed
    intro k opens
    simp [opens] at closing

end ChartConfig
