import ChartConfig.Proofs.Validation.Conditions

/-!
# The branch in force

A setting inside a condition is recorded under the branch that has begun last, of whatever condition that is. Where no
block is complained about, this is the latest branch of the innermost condition around the setting just in case no
condition has ended since it began: an `endif` does not put the branch in force again in which its condition was nested.
-/

namespace ChartConfig

open Text Finding Blocks

/-! ## Lines that begin a branch -/

/-- The last of all with a property, and those after it. -/
structure Latest {α : Type} (P : α → Prop) (xs : List α) (y : α) (since : List α) : Prop where
  split : ∃ early, xs = early ++ y :: since
  holds : P y
  none : ∀ z ∈ since, ¬ P z

theorem exists_latest {α : Type} {P : α → Prop} {xs : List α} (exists_mem : ∃ x ∈ xs, P x) :
    ∃ y since, Latest P xs y since := by
  induction xs with
  | nil => simp at exists_mem
  | cons x xs inductionHypothesis =>
    by_cases later : ∃ y ∈ xs, P y
    · obtain ⟨y, since, ⟨early, split⟩, holds, none⟩ := inductionHypothesis later
      exact ⟨y, since, ⟨x :: early, by rw [split, List.cons_append]⟩, holds, none⟩
    · rw [List.exists_mem_cons_iff, or_iff_left later] at exists_mem
      exact ⟨x, xs, ⟨[], rfl⟩, exists_mem, fun z isLater holds => later ⟨z, isLater, holds⟩⟩

namespace Passing

variable {x : Passing} {b : KeywordAt} {following : List (List Char)}

/-- The line begins a branch of the condition: it is its `if`, or an alternative while it is the innermost block. -/
def Begins (x : Passing) (b : KeywordAt) : Prop :=
  b.keyword = .ifBlock ∧ (x.Pushes b ∨ x.event? = some .alternative ∧ x.before.blocks.getLast? = some b)

def branch? (x : Passing) : Option Branch :=
  (Line.keywordAt? x.line x.number).map Branch.ofKeyword

def starts (x : Passing) : Bool :=
  x.before.control.reads x.line && (Line.keyword? x.line).any Keyword.startsBranch

/-- The line assigns the setting, which may not be repeated, outside tags. -/
structure Declares (r : Registry) (x : Passing) (setting : Setting) : Prop where
  isRead : x.before.control.reads x.line = true
  noHeader : Line.header? x.line x.number = none
  assigns : ∃ a, Line.assignment? x.line = some a ∧ r.lookup a.name.word = some setting
  once : setting.multiLine = false
  noTags : x.before.scope.holdsTags = false

theorem branch?_eq {word : Keyword} (isKeyword : Line.keyword? x.line = some word) :
    x.branch? = some ⟨x.number, word⟩ := by
  obtain ⟨found, isFound, rfl⟩ := Line.exists_keywordAt? x.number isKeyword
  rw [branch?, isFound, ← Line.line_keywordAt? isFound]
  rfl

theorem keyword_of_starts (starts : x.starts = true) :
    x.before.control.reads x.line = true ∧
      ∃ word, Line.keyword? x.line = some word ∧ word.startsBranch = true := by
  rw [Passing.starts, Bool.and_eq_true, Option.any_eq_true] at starts
  exact starts

theorem starts_iff (control : x.after.control = x.before.control.next x.number x.line following)
    (silent : x.complaints = []) : x.starts = true ↔ ∃ b, x.Begins b := by
  constructor
  · intro starts
    obtain ⟨isRead, word, isKeyword, startsBranch⟩ := keyword_of_starts starts
    have notClosing : word.closes = none := by
      revert startsBranch
      cases word <;> simp [Keyword.startsBranch, Keyword.isAlternative, Keyword.closes]
    rcases silent_cases (x.change control) silent with ⟨noEvent, -⟩ | ⟨b, pushes, -⟩ | ⟨b, -, closes, -⟩ | ⟨b, isLast, isIf, branches, -⟩
    · obtain ⟨noAlternative, noOpening⟩ := keyword_of_no_event control noEvent isRead isKeyword
      revert startsBranch noAlternative noOpening
      cases word <;> simp [Keyword.startsBranch, Keyword.isAlternative, Keyword.isClosing, Line.opensBlock]
    · obtain ⟨-, sameKeyword, -, opens⟩ := keyword_of_pushes control pushes
      obtain rfl : word = b.keyword := Option.some.inj (isKeyword.symm.trans sameKeyword)
      have isIf : b.keyword = .ifBlock := by
        revert startsBranch opens
        cases b.keyword <;> simp [Keyword.startsBranch, Keyword.isAlternative, Line.opensBlock]
      exact ⟨b, isIf, .inl pushes⟩
    · obtain ⟨-, other, isOther, closesOther⟩ := keyword_of_closes closes
      rw [Option.some.inj (isOther.symm.trans isKeyword), notClosing] at closesOther
      cases closesOther
    · exact ⟨b, isIf, .inr ⟨branches, isLast⟩⟩
  · rintro ⟨b, isIf, pushes | ⟨branches, -⟩⟩
    · obtain ⟨isRead, isKeyword, -⟩ := keyword_of_pushes control pushes
      rw [starts, isRead, isKeyword, isIf]
      rfl
    · obtain ⟨isRead, word, isKeyword, alternative⟩ := keyword_of_alternative branches
      rw [starts, isRead, isKeyword, Option.any_some, Keyword.startsBranch, alternative, Bool.or_true]
      rfl

theorem Begins.getLast? (begins : x.Begins b)
    (change : Change x.number x.before.blocks x.event? x.complaints x.after.blocks) :
    x.after.blocks.getLast? = some b := by
  obtain ⟨-, pushes | ⟨branches, isLast⟩⟩ := begins
  · rw [show x.after.blocks = x.before.blocks ++ [b] from pushes, List.getLast?_concat]
  · rw [branches] at change
    generalize x.after.blocks = after, x.before.blocks = blocks, x.complaints = said at change isLast ⊢
    cases change with
    | branched | misbranched => exact isLast

theorem condition_after (control : x.after.control = x.before.control.next x.number x.line following) :
    x.after.condition = if x.starts then x.branch? else x.before.condition := by
  have condition : x.after.condition = (x.before.control.next x.number x.line following).condition :=
    congrArg Control.condition control
  rw [condition, starts]
  cases isRead : x.before.control.reads x.line with
  | false => rw [Control.next, isRead]; rfl
  | true =>
    rw [Control.condition_next isRead, Bool.true_and]
    split
    · next starts =>
      obtain ⟨word, isKeyword, -⟩ := (Option.any_eq_true _ _).mp starts
      rw [branch?_eq isKeyword, isKeyword]
      rfl
    · rfl

end Passing

/-! ## The run between two lines -/

namespace Step

variable {r : Registry} {number : Nat} {lines : List (List Char)} {s : State} {x y : Passing} {early since rest : List Passing}

theorem passings_split (armed : s.control.Armed) (split : passings r number lines s = early ++ y :: rest) :
    y.before.control.Armed ∧ ∃ following found,
      Step.line r y.number y.line following y.before = .ok (y.after, found) ∧
      y.after.control = y.before.control.next y.number y.line following ∧
      y.after.ledger = (y.before.ledger.readAll r (y.before.control.eventsAt r y.number y.line)).1 ∧
      rest = passings r (y.number + 1) following y.after := by
  induction lines generalizing number s early with
  | nil => cases early <;> cases split
  | cons line following inductionHypothesis =>
    obtain ⟨after, said, ran, armedToo, control, ledger⟩ := line_succeeds r number line following armed
    simp only [passings, ran] at split
    cases early with
    | nil =>
      obtain ⟨rfl, rfl⟩ := List.cons.inj split
      exact ⟨armed, following, said, ran, control, ledger, rfl⟩
    | cons first early => exact inductionHypothesis armedToo (List.cons.inj split).2

theorem condition_since (armed : s.control.Armed) (split : passings r number lines s = since ++ x :: rest)
    (none : ∀ z ∈ since, z.starts = false) : x.before.condition = s.condition := by
  induction lines generalizing number s since with
  | nil => cases since <;> cases split
  | cons line following inductionHypothesis =>
    obtain ⟨after, said, ran, armedToo, control, -⟩ := line_succeeds r number line following armed
    simp only [passings, ran] at split
    cases since with
    | nil =>
      obtain ⟨rfl, -⟩ := List.cons.inj split
      rfl
    | cons first since =>
      obtain ⟨rfl, later⟩ := List.cons.inj split
      obtain ⟨noneHere, noneLater⟩ := List.forall_mem_cons.mp none
      have same := Passing.condition_after (x := ⟨s, number, line, after⟩) control
      rw [noneHere] at same
      rw [inductionHypothesis armedToo later noneLater]
      exact same

theorem condition_of_latest (armed : s.control.Armed)
    (split : passings r number lines s = early ++ y :: since ++ x :: rest) (starts : y.starts = true)
    (none : ∀ z ∈ since, z.starts = false) : x.before.condition = y.branch? := by
  rw [List.append_assoc, List.cons_append] at split
  obtain ⟨armedThere, following, -, -, control, -, later⟩ := passings_split armed split
  have armedToo : y.after.control.Armed := by
    rw [control]
    exact Control.next_armed armedThere
  rw [condition_since armedToo later.symm none, Passing.condition_after control, if_pos starts]

end Step

/-! ## The condition around a line -/

namespace Blocks

variable {blocks : Blocks} {b c : KeywordAt}

/-- The condition is open, and no other within it. -/
def InnermostCondition (blocks : Blocks) (b : KeywordAt) : Prop :=
  ∃ inner, Latest (fun c : KeywordAt => c.keyword = .ifBlock) blocks b inner

theorem exists_innermostCondition (conditional : blocks.isIn .ifBlock = true) : ∃ b, blocks.InnermostCondition b :=
  exists_latest ((isIn_iff blocks).mp conditional)

theorem InnermostCondition.mem (innermost : blocks.InnermostCondition b) : b ∈ blocks ∧ b.keyword = .ifBlock := by
  obtain ⟨inner, ⟨outer, rfl⟩, isIf, -⟩ := innermost
  exact ⟨by simp, isIf⟩

theorem InnermostCondition.le_line (innermost : blocks.InnermostCondition b)
    (sorted : blocks.Pairwise fun a b => a.range.start.line < b.range.start.line) (isOpen : c ∈ blocks)
    (isIf : c.keyword = .ifBlock) : c.range.start.line ≤ b.range.start.line := by
  obtain ⟨inner, ⟨outer, rfl⟩, -, others⟩ := innermost
  rcases List.mem_append.mp isOpen with outside | inside
  · exact Nat.le_of_lt ((List.pairwise_append.mp sorted).2.2 c outside b (List.mem_cons_self ..))
  · rcases List.mem_cons.mp inside with rfl | inside
    · exact Nat.le_refl _
    · exact absurd isIf (others c inside)

end Blocks

namespace Passes

variable {number : Nat} {blocks last : Blocks} {xs before after : List Passing} {x : Passing} {b c : KeywordAt}

theorem at_line (passes : Passes number blocks (before ++ x :: after) last) :
    Passes number blocks before x.before.blocks ∧ Passes (x.number + 1) x.after.blocks after last := by
  induction before generalizing number blocks with
  | nil =>
    cases passes with
    | next change passes => exact ⟨.done, passes⟩
  | cons y before inductionHypothesis =>
    cases passes with
    | next change passes =>
      obtain ⟨first, later⟩ := inductionHypothesis passes
      exact ⟨.next change first, later⟩

theorem mem_of_mem_last (passes : Passes number blocks xs last) (isLast : b ∈ last)
    (earlier : b.range.start.line < number) : b ∈ blocks := by
  by_contra closed
  exact (passes.stays_closed closed earlier).2 isLast

theorem mem_last_of_mem (passes : Passes number blocks xs last) (ordered : Ordered number blocks) (isOpen : b ∈ blocks)
    (unclosed : ∀ z ∈ xs, z.event? ≠ some (.closes b.keyword)) : b ∈ last := by
  rcases passes.accounted_of_open ordered isOpen with ⟨z, removing, closes, -⟩ | ⟨-, isLast⟩
  · have isPassed : z ∈ xs := List.mem_of_mem_filter (removing ▸ List.mem_singleton_self z)
    exact absurd closes (unclosed z isPassed)
  · exact isLast

/-- From a line at which the condition is the innermost block, to one at which it is the innermost condition: if a branch
    of another condition begins on the way, that condition ends as well; and if a condition ends, it has begun on the
    way. -/
theorem begins_iff_closes (passes : Passes number blocks xs last) (ordered : Ordered number blocks)
    (isInnermost : blocks.getLast? = some b) (silent : ∀ z ∈ xs, z.complaints = [])
    (innermost : last.InnermostCondition b) (notAgain : ∀ z ∈ xs, ¬ z.Begins b) :
    (∃ z ∈ xs, ∃ c, z.Begins c) ↔ ∃ z ∈ xs, z.event? = some (.closes .ifBlock) := by
  have earlier : b.range.start.line < number := ordered.before b (List.mem_of_getLast? isInnermost)
  have isLast : b ∈ last := innermost.mem.1
  have staysOpen {z : Passing} (isPassed : z ∈ xs) : b ∈ z.after.blocks := by
    obtain ⟨before, after, rfl⟩ := List.append_of_mem isPassed
    have bound := passes.le_number z isPassed
    exact passes.at_line.2.mem_of_mem_last isLast (by omega)
  constructor
  · rintro ⟨z, isPassed, c, begins⟩
    have change := passes.change_of_mem z isPassed
    have orderedThere := change.ordered (passes.ordered_before ordered z isPassed)
    have isInnermostThere := begins.getLast? change
    have below : b.range.start.line < c.range.start.line := by
      refine orderedThere.lt_of_mem_dropLast isInnermostThere ?_
      have isOpen := staysOpen isPassed
      rw [← List.dropLast_append_getLast? c isInnermostThere, List.mem_append, List.mem_singleton] at isOpen
      refine isOpen.resolve_right ?_
      rintro rfl
      exact notAgain z isPassed begins
    by_contra unclosed
    obtain ⟨early, since, rfl⟩ := List.append_of_mem isPassed
    have stillOpen : c ∈ last := by
      refine passes.at_line.2.mem_last_of_mem orderedThere (List.mem_of_getLast? isInnermostThere) fun w isLater => ?_
      rw [begins.1]
      exact fun closes => unclosed ⟨w, by simp [isLater], closes⟩
    have outside := innermost.le_line (passes.ordered_last ordered) stillOpen begins.1
    omega
  · rintro ⟨z, isPassed, closes⟩
    have change := passes.change_of_mem z isPassed
    have orderedThere := passes.ordered_before ordered z isPassed
    rcases Passing.silent_cases change (silent z isPassed) with
      ⟨noEvent, -⟩ | ⟨c, pushes, -⟩ | ⟨c, isInnermostThere, closesToo, shorter⟩ | ⟨c, -, -, branches, -⟩
    · rw [closes] at noEvent
      cases noEvent
    · rw [(change.opens_of_pushed pushes).1] at closes
      cases closes
    · rw [closes] at closesToo
      -- In silence only the innermost block is closed, and it lies below this one, which stays open.
      have isIf : c.keyword = .ifBlock := (BlockEvent.closes.inj (Option.some.inj closesToo)).symm
      have below : b.range.start.line < c.range.start.line :=
        orderedThere.lt_of_mem_dropLast isInnermostThere (shorter ▸ staysOpen isPassed)
      rcases passes.pushed_of_before isPassed (List.mem_of_getLast? isInnermostThere) with wasOpen | ⟨w, isPassedToo, pushes⟩
      · rw [← List.dropLast_append_getLast? b isInnermost, List.mem_append, List.mem_singleton] at wasOpen
        rcases wasOpen with above | rfl
        · have aboveLine := ordered.lt_of_mem_dropLast isInnermost above
          omega
        · exact absurd below (Nat.lt_irrefl _)
      · exact ⟨w, isPassedToo, c, isIf, .inl pushes⟩
    · rw [closes] at branches
      cases branches

theorem exists_latest_branch (passes : Passes 0 [] before last) (innermost : last.InnermostCondition b) :
    ∃ y since, Latest (·.Begins b) before y since := by
  obtain ⟨isOpen, isIf⟩ := innermost.mem
  rcases passes.pushed_of_last isOpen with none | ⟨w, isPassed, pushes⟩
  · cases none
  · exact exists_latest ⟨w, isPassed, isIf, .inl pushes⟩

theorem begins_iff_closes_since (passes : Passes 0 [] before last) (silent : ∀ z ∈ before, z.complaints = [])
    (innermost : last.InnermostCondition b) {y : Passing} {since : List Passing}
    (latest : Latest (·.Begins b) before y since) :
    (∀ z ∈ since, y.number < z.number) ∧
      ((∃ z ∈ since, ∃ c, z.Begins c) ↔ ∃ z ∈ since, z.event? = some (.closes .ifBlock)) := by
  obtain ⟨⟨early, rfl⟩, begins, none⟩ := latest
  have isPassed : y ∈ early ++ y :: since := by simp
  have change := passes.change_of_mem y isPassed
  have ordered := change.ordered (passes.ordered_before ordered_initial y isPassed)
  refine ⟨fun z isLater => Nat.lt_of_succ_le (passes.at_line.2.le_number z isLater), ?_⟩
  exact passes.at_line.2.begins_iff_closes ordered (begins.getLast? change)
    (fun z isLater => silent z (by simp [isLater])) innermost none

end Passes

/-! ## Settings inside conditions -/

theorem Passing.Declares.scope_eq {r : Registry} {x : Passing} {setting : Setting} (declares : x.Declares r setting)
    (ledger : x.after.ledger = (x.before.ledger.readAll r (x.before.control.eventsAt r x.number x.line)).1) :
    x.after.scope =
      (x.before.scope.addCounterpart r setting).recordUnder x.before.control.branch? setting := by
  obtain ⟨a, assigned, known⟩ := declares.assigns
  have notBlank : allBlank x.line = false := by
    rw [Bool.eq_false_iff]
    intro blank
    rw [Step.assignment?_of_allBlank blank] at assigned
    cases assigned
  have scope : x.after.scope = _ := congrArg Ledger.scope ledger
  have noTags : x.before.ledger.scope.holdsTags = false := declares.noTags
  have once := declares.once
  simp only [scope, Control.eventsAt, declares.isRead, if_true, Reading.event?, declares.noHeader, notBlank,
    Bool.false_eq_true, if_false, assigned, Option.map_some, known, Option.toList_some, Ledger.readAll, Ledger.read,
    Ledger.assign, noTags, Ledger.declare, once]
  rfl

namespace Document

variable {r : Registry} {text : String} {before after since : List Passing} {x y z : Passing}

theorem starts_iff_begins (isPassed : z ∈ passings r text) (silent : z.complaints = []) :
    z.starts = true ↔ ∃ c, z.Begins c := by
  obtain ⟨early, rest, split⟩ := List.append_of_mem isPassed
  obtain ⟨-, following, -, -, control, -⟩ := Step.passings_split State.armed_initial split
  exact Passing.starts_iff control silent

theorem exists_branch (isPassed : z ∈ passings r text) (silent : z.complaints = []) {c : KeywordAt} (begins : z.Begins c) :
    ∃ word, z.branch? = some ⟨z.number, word⟩ := by
  obtain ⟨-, word, isKeyword, -⟩ := Passing.keyword_of_starts ((starts_iff_begins isPassed silent).mpr ⟨c, begins⟩)
  exact ⟨word, Passing.branch?_eq isKeyword⟩

/-- Inside conditions, a setting is recorded under the branch that has begun last. -/
theorem recorded_under_latest (split : passings r text = before ++ x :: after) (silent : ∀ z ∈ before, z.complaints = [])
    {setting : Setting} (declares : x.Declares r setting) (conditional : x.before.blocks.isIn .ifBlock = true)
    (latest : Latest (fun z => ∃ c, z.Begins c) before y since) {key : Branch} (named : y.branch? = some key) :
    x.after.scope = ((x.before.scope.addCounterpart r setting).recordIn key setting).1 := by
  obtain ⟨⟨early, rfl⟩, begins, none⟩ := latest
  have isPassed {z : Passing} (isEarlier : z ∈ early ++ y :: since) : z ∈ passings r text :=
    split ▸ List.mem_append_left _ isEarlier
  have isHere : y ∈ early ++ y :: since := by simp
  have noneStarts : ∀ z ∈ since, z.starts = false := by
    intro z isLater
    have isEarlier : z ∈ early ++ y :: since := by simp [isLater]
    rw [Bool.eq_false_iff, ne_eq, starts_iff_begins (isPassed isEarlier) (silent z isEarlier)]
    exact none z isLater
  have starts := (starts_iff_begins (isPassed isHere) (silent y isHere)).mpr begins
  have inForce := Step.condition_of_latest State.armed_initial split starts noneStarts
  obtain ⟨-, following, -, -, -, ledger, -⟩ := Step.passings_split State.armed_initial split
  have inBranch : x.before.control.branch? = some key := (if_pos conditional).trans (inForce.trans named)
  rw [declares.scope_eq ledger, inBranch]
  rfl

end Document

/-- Where nothing is said about the order of blocks, a setting inside a condition is recorded under the branch that has
    begun last. This is the latest branch of the innermost condition that is open just in case no condition has ended
    since that branch began. -/
theorem branch_in_force (r : Registry) (text : String) :
    ∃ found, validate text r = .ok found ∧ (found.filter (·.isStructural) = [] →
      ∀ before x after, Document.passings r text = before ++ x :: after →
        ∀ setting, x.Declares r setting → x.before.blocks.isIn .ifBlock = true →
          ∃ b y since own last rest key, x.before.blocks.InnermostCondition b ∧
            Latest (·.Begins b) before y since ∧ y.branch? = some own ∧
            Latest (fun z => ∃ c, z.Begins c) before last rest ∧ last.branch? = some key ∧
            x.after.scope = ((x.before.scope.addCounterpart r setting).recordIn key setting).1 ∧
            (key = own ↔ ∀ z ∈ since, z.event? ≠ some (.closes .ifBlock))) := by
  obtain ⟨found, left, ran, complained⟩ := validate_complained r text
  refine ⟨found, ran, fun orderly before x after split setting declares conditional => ?_⟩
  have silent : ∀ z ∈ before, z.complaints = [] := fun z isPassed =>
    complained.silent orderly z (split ▸ List.mem_append_left _ isPassed)
  have passes : Passes 0 [] before x.before.blocks := (split ▸ complained.passes).at_line.1
  have branch {z : Passing} (isEarlier : z ∈ before) {c : KeywordAt} (begins : z.Begins c) :
      ∃ word, z.branch? = some ⟨z.number, word⟩ := by
    have isPassed : z ∈ Document.passings r text := split ▸ List.mem_append_left _ isEarlier
    exact Document.exists_branch isPassed (silent z isEarlier) begins
  obtain ⟨b, innermost⟩ := exists_innermostCondition conditional
  obtain ⟨y, since, latest⟩ := passes.exists_latest_branch innermost
  obtain ⟨later, meanwhile⟩ := passes.begins_iff_closes_since silent innermost latest
  obtain ⟨early, sameSplit⟩ := latest.split
  obtain ⟨word, own⟩ := branch (by simp [sameSplit]) latest.holds
  by_cases begun : ∃ z ∈ since, ∃ c, z.Begins c
  · -- A branch that has begun since is in force, and it is of another condition, which has ended.
    obtain ⟨last, rest, ⟨between, sameSince⟩, ⟨c, begins⟩, none⟩ := exists_latest begun
    have isLater : last ∈ since := by simp [sameSince]
    obtain ⟨other, named⟩ := branch (by simp [sameSplit, isLater]) begins
    have isLast : Latest (fun z => ∃ c, z.Begins c) before last rest :=
      ⟨⟨early ++ y :: between, by simp [sameSplit, sameSince]⟩, ⟨c, begins⟩, none⟩
    obtain ⟨z, isSince, closes⟩ := meanwhile.mp begun
    refine ⟨b, y, since, _, last, rest, _, innermost, latest, own, isLast, named,
      Document.recorded_under_latest split silent declares conditional isLast named, ?_⟩
    refine ⟨fun same => absurd (congrArg Branch.line same) (Nat.ne_of_gt (later last isLater)), fun unclosed => ?_⟩
    exact absurd closes (unclosed z isSince)
  · have isLast : Latest (fun z => ∃ c, z.Begins c) before y since :=
      ⟨latest.split, ⟨b, latest.holds⟩, fun z isLater begins => begun ⟨z, isLater, begins⟩⟩
    refine ⟨b, y, since, _, y, since, _, innermost, latest, own, isLast, own,
      Document.recorded_under_latest split silent declares conditional isLast own, ?_⟩
    exact ⟨fun _ z isLater closes => begun (meanwhile.mpr ⟨z, isLater, closes⟩), fun _ => rfl⟩

def nestedText : String :=
  "[configuration]\nif a == b\n  type = x\n  if c == d\n  endif\n  type = y\nendif"

/-- The second type is recorded under the branch of the nested condition, which has ended. -/
theorem branch_in_force_nested :
    ∃ x ∈ Document.passings chartRegistry nestedText, x.number = 5 ∧
      x.before.blocks = [⟨.ifBlock, ⟨⟨1, 0⟩, ⟨1, 2⟩⟩⟩] ∧
      ∃ b y since own last rest, x.before.blocks.InnermostCondition b ∧
        Latest (·.Begins b) ((Document.passings chartRegistry nestedText).take 5) y since ∧ y.branch? = some own ∧
        Latest (fun z => ∃ c, z.Begins c) ((Document.passings chartRegistry nestedText).take 5) last rest ∧
        last.branch? = some ⟨3, .ifBlock⟩ ∧
        (⟨3, .ifBlock⟩ = own ↔ ∀ z ∈ since, z.event? ≠ some (.closes .ifBlock)) := by
  obtain ⟨found, ran, inForce⟩ := branch_in_force chartRegistry nestedText
  have silent : (validate nestedText chartRegistry).toOption = some [] := by decide +kernel
  rw [ran] at silent
  obtain rfl : found = [] := Option.some.inj silent
  have six : 5 < (Document.passings chartRegistry nestedText).length := by decide +kernel
  obtain ⟨isRead, noHeader, noTags, assigns, conditional, blocks, earlier, later, number⟩ :
      let x := (Document.passings chartRegistry nestedText)[5]
      x.before.control.reads x.line = true ∧ Line.header? x.line x.number = none ∧ x.before.scope.holdsTags = false ∧
        Line.assignment? x.line = some ⟨⟨2, "type".toList⟩, ⟨9, "y".toList⟩⟩ ∧
        x.before.blocks.isIn .ifBlock = true ∧ x.before.blocks = [⟨.ifBlock, ⟨⟨1, 0⟩, ⟨1, 2⟩⟩⟩] ∧
        x.before.scope.branches.map Prod.fst = [⟨1, .ifBlock⟩] ∧
        x.after.scope.branches.map Prod.fst = [⟨1, .ifBlock⟩, ⟨3, .ifBlock⟩] ∧ x.number = 5 := by
    decide +kernel +revert
  have declares : (Document.passings chartRegistry nestedText)[5].Declares chartRegistry
      { displayName := "type", type := .string, sample := "" } :=
    ⟨isRead, noHeader, ⟨_, assigns, rfl⟩, rfl, noTags⟩
  obtain ⟨b, y, since, own, last, rest, key, innermost, latest, isOwn, isLast, isKey, recorded, same⟩ :=
    inForce rfl ((Document.passings chartRegistry nestedText).take 5) (Document.passings chartRegistry nestedText)[5] _
      (by rw [← List.drop_eq_getElem_cons six, List.take_append_drop]) _ declares conditional
  have isNested : key = ⟨3, .ifBlock⟩ := by
    have keys := congrArg (fun scope => scope.branches.map Prod.fst) recorded
    simp only [Scope.recordIn, Scope.addCounterpart_branches, later, Scope.addToBranch_keys, earlier] at keys
    split at keys <;> simp_all
  subst isNested
  exact ⟨_, List.getElem_mem six, number, blocks, b, y, since, own, last, rest, innermost, latest, isOwn, isLast, isKey, same⟩

/-- So the type stands twice in a branch, and nothing is reported. -/
example : (validate nestedText chartRegistry).toOption = some [] := by
  decide +kernel

end ChartConfig
