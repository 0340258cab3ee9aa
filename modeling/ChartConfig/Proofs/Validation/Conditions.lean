import ChartConfig.Proofs.Validation.Conditional
import ChartConfig.Proofs.Validation.Events

/-!
# Conditions that are open

Which conditions are open at a line of a section, and in which of their branches the line lies. A run does not keep
this: it knows the open `if` lines and the latest word that began a branch. Where no block is complained about, the two
accounts agree: as many conditions are open as `if` lines, and the branch that a run has in force is that which has
begun last, so it is the innermost one until an `endif` follows.
-/

namespace ChartConfig

open Text Finding

/-- A condition that is open, by the line of its `if`, and its branch that has begun last. -/
structure OpenCondition where
  opener : Nat
  branch : Branch
  deriving Repr, DecidableEq, Inhabited

/-- The conditions that are open after a line, the innermost first, from those before it. -/
def OpenCondition.step (within : List OpenCondition) (y : Reading) : List OpenCondition :=
  match Line.keyword? y.line with
  | none => within
  | some word =>
    if word = .ifBlock then ⟨y.number, ⟨y.number, word⟩⟩ :: within
    else if word = .endIf then within.tail
    else if word.isAlternative then
      match within with
      | [] => []
      | c :: outer => ⟨c.opener, ⟨y.number, word⟩⟩ :: outer
    else within

/-- A line that is read, and the conditions that are open before it. -/
structure Placed where
  reading : Reading
  within : List OpenCondition
  deriving Repr, DecidableEq, Inhabited

namespace Placed

def after (x : Placed) : List OpenCondition :=
  OpenCondition.step x.within x.reading

/-- The branch that begins on the line, and its condition. -/
def begins? (x : Placed) : Option OpenCondition :=
  if (Line.keyword? x.reading.line).any Keyword.startsBranch then x.after.head? else none

end Placed

def Reading.place (within : List OpenCondition) : List Reading → List Placed
  | [] => []
  | y :: later => ⟨y, within⟩ :: place (OpenCondition.step within y) later

theorem Reading.map_reading_place (within : List OpenCondition) (lines : List Reading) :
    (place within lines).map Placed.reading = lines := by
  induction lines generalizing within with
  | nil => rfl
  | cons y later inductionHypothesis => rw [place, List.map_cons, inductionHypothesis]

theorem Reading.eq_of_number {within : List OpenCondition} {lines : List Reading}
    (increasing : lines.Pairwise fun x y => x.number < y.number) {y z : Placed} (isThere : y ∈ place within lines)
    (isThereToo : z ∈ place within lines) (same : y.reading.number = z.reading.number) : y = z := by
  have distinct : ((place within lines).map fun x => x.reading.number).Nodup := by
    have numbers : (place within lines).map (fun x => x.reading.number) = lines.map Reading.number := by
      rw [← map_reading_place within lines, List.map_map, map_reading_place]
      rfl
    rw [numbers, List.Nodup, List.pairwise_map]
    exact increasing.imp Nat.ne_of_lt
  exact List.inj_on_of_nodup_map distinct isThere isThereToo same

namespace Placed

variable {x : Placed} {d : OpenCondition}

theorem begins?_eq_some (begun : x.begins? = some d) :
    d.branch.line = x.reading.number ∧ Line.keyword? x.reading.line = some d.branch.keyword ∧
      (d.branch.keyword = .ifBlock → d.opener = x.reading.number) ∧ ∃ outer, x.after = d :: outer := by
  unfold begins? at begun
  split at begun
  · next starts =>
    obtain ⟨word, isKeyword, starts⟩ := (Option.any_eq_true _ _).mp starts
    obtain ⟨outer, isHead⟩ := List.head?_eq_some_iff.mp begun
    have stepped := isHead
    simp only [after, OpenCondition.step, isKeyword] at stepped
    split at stepped
    · next isIf =>
      obtain ⟨rfl, -⟩ := List.cons.inj stepped
      exact ⟨rfl, isKeyword, fun _ => rfl, outer, isHead⟩
    · next notIf =>
      have alternative : word.isAlternative = true := by simpa [Keyword.startsBranch, notIf] using starts
      have notEnd : word ≠ .endIf := by rintro rfl; cases alternative
      rw [if_neg notEnd, if_pos alternative] at stepped
      split at stepped
      · cases stepped
      · obtain ⟨rfl, -⟩ := List.cons.inj stepped
        exact ⟨rfl, isKeyword, fun isIf => absurd isIf notIf, outer, isHead⟩
  · cases begun

theorem begins?_of_if (isIf : Line.keyword? x.reading.line = some .ifBlock) :
    x.begins? = some ⟨x.reading.number, ⟨x.reading.number, .ifBlock⟩⟩ := by
  simp [begins?, after, OpenCondition.step, isIf, Keyword.startsBranch]

end Placed

/-! ## What a run keeps -/

def Blocks.depth (blocks : Blocks) : Nat :=
  blocks.countP (·.keyword == .ifBlock)

namespace Control

variable {c : Control} {number : Nat} {line : List Char} {following : List (List Char)}

/-- What a line does to the depth of conditions and to the branch in force, if it is not complained about. -/
inductive Turns (number : Nat) (c : Control) : Option Keyword → Control → Prop where
  | opens {after : Control} : after.blocks.depth = c.blocks.depth + 1 →
      after.condition = some ⟨number, .ifBlock⟩ → Turns number c (some .ifBlock) after
  | branches {after : Control} {word : Keyword} : word.isAlternative = true → 0 < c.blocks.depth →
      after.blocks.depth = c.blocks.depth → after.condition = some ⟨number, word⟩ → Turns number c (some word) after
  | closes {after : Control} : c.blocks.depth = after.blocks.depth + 1 → after.condition = c.condition →
      Turns number c (some .endIf) after
  | other {after : Control} {word : Option Keyword} : word.any Keyword.isConditional = false →
      after.blocks.depth = c.blocks.depth → after.condition = c.condition → Turns number c word after

theorem condition_next (isRead : c.reads line = true) :
    (c.next number line following).condition =
      if (Line.keyword? line).any Keyword.startsBranch then (Line.keyword? line).map fun word => ⟨number, word⟩
      else c.condition := by
  simp only [next, isRead, if_true]
  cases isFound : Line.keywordAt? line number with
  | none =>
    have noKeyword : Line.keyword? line = none := Line.keywordAt?_eq_none.mp isFound
    simp [noKeyword]
  | some found =>
    rw [Line.keyword?_eq isFound, ← Line.line_keywordAt? isFound]
    rfl

def passing (c : Control) (number : Nat) (line : List Char) (following : List (List Char)) : Passing where
  before := { blocks := c.blocks, condition := c.condition }
  number := number
  line := line
  after :=
    { blocks := (c.next number line following).blocks, condition := (c.next number line following).condition }

theorem next_turns (isRead : c.reads line = true) (silent : diagnostics (c.complaintsAt number line) = []) :
    Turns number c (Line.keyword? line) (c.next number line following) := by
  have control : (c.passing number line following).after.control =
      (c.passing number line following).before.control.next number line following := rfl
  have condition := @condition_next c number line following isRead
  have silentPassing : (c.passing number line following).complaints = [] := silent
  rcases Passing.silent_cases (Passing.change _ control) silentPassing with
    ⟨noEvent, same⟩ | ⟨b, pushes, -⟩ | ⟨b, isLast, closes, same⟩ | ⟨b, isLast, isIf, branches, same⟩
  · have sameBlocks : (c.next number line following).blocks = c.blocks := same
    cases isKeyword : Line.keyword? line with
    | none => exact .other rfl (congrArg Blocks.depth sameBlocks) (by simpa [isKeyword] using condition)
    | some word =>
      obtain ⟨notClosing, notOpening⟩ := Passing.keyword_of_no_event control noEvent isRead isKeyword
      have other : word.isConditional = false ∧ word.startsBranch = false := by
        revert notClosing notOpening
        cases word <;> simp [Keyword.isClosing, Keyword.closes, Line.opensBlock, Keyword.isConditional,
          Keyword.startsBranch, Keyword.isAlternative]
      exact .other (by simp [other]) (congrArg Blocks.depth sameBlocks) (by simpa [isKeyword, other] using condition)
  · obtain ⟨-, isKeyword, -, opens⟩ := Passing.keyword_of_pushes control pushes
    have longer : (c.next number line following).blocks = c.blocks ++ [b] := pushes
    rw [show Line.keyword? line = some b.keyword from isKeyword] at condition ⊢
    by_cases isIf : b.keyword = .ifBlock
    · rw [isIf] at condition ⊢
      exact .opens (by simp [longer, Blocks.depth, isIf]) condition
    · have other : b.keyword.isConditional = false ∧ b.keyword.startsBranch = false := by
        revert isIf opens
        cases b.keyword <;> simp [Line.opensBlock, Keyword.isConditional, Keyword.startsBranch, Keyword.isAlternative]
      exact .other (by simp [other]) (by simp [longer, Blocks.depth, isIf]) (by simpa [other] using condition)
  · obtain ⟨-, word, isKeyword, closesWord⟩ := Passing.keyword_of_closes closes
    have shorter : (c.next number line following).blocks = c.blocks.dropLast := same
    have whole : c.blocks.depth = Blocks.depth c.blocks.dropLast + Blocks.depth [b] := by
      have parts : c.blocks.dropLast ++ [b] = c.blocks := List.dropLast_append_getLast? b isLast
      conv_lhs => rw [Blocks.depth, ← parts, List.countP_append]
      rfl
    rw [show Line.keyword? line = some word from isKeyword] at condition ⊢
    by_cases isEnd : word = .endIf
    · subst isEnd
      have isIf : b.keyword = .ifBlock := (Option.some.inj closesWord).symm
      exact .closes (by rw [whole, shorter]; simp [Blocks.depth, isIf]) condition
    · have notIf : b.keyword ≠ .ifBlock := fun isIf => isEnd (Keyword.closes_if (isIf ▸ closesWord))
      have starts : word.startsBranch = false := by
        revert closesWord
        cases word <;> simp [Keyword.closes, Keyword.startsBranch, Keyword.isAlternative]
      exact .other (by simp [Keyword.isConditional, starts, isEnd]) (by rw [whole, shorter]; simp [Blocks.depth, notIf])
        (by simpa [starts] using condition)
  · obtain ⟨-, word, isKeyword, alternative⟩ := Passing.keyword_of_alternative branches
    have sameBlocks : (c.next number line following).blocks = c.blocks := same
    rw [show Line.keyword? line = some word from isKeyword] at condition ⊢
    have isOpen : 0 < c.blocks.depth :=
      List.countP_pos_iff.mpr ⟨b, List.mem_of_getLast? isLast, by simp [isIf]⟩
    have starts : word.startsBranch = true := by simp [Keyword.startsBranch, alternative]
    exact .branches alternative isOpen (congrArg Blocks.depth sameBlocks) (by simpa [starts] using condition)

end Control

/-! ## Open conditions along a section -/

namespace OpenCondition

variable {lines : List Placed} {within : List OpenCondition} {c : Control}

def Founded (lines : List Placed) (within : List OpenCondition) : Prop :=
  ∀ d outer, (d :: outer) <:+ within →
    ∃ y ∈ lines, y.reading.number = d.opener ∧ Line.keyword? y.reading.line = some .ifBlock ∧ y.within = outer

/-- The conditions that are open, and what a run keeps of them. -/
structure Tracks (lines : List Placed) (c : Control) (within : List OpenCondition) : Prop where
  depth : within.length = c.blocks.depth
  founded : Founded lines within
  /-- The branch in force is the one that has begun last; since then conditions have only ended. -/
  latest : within ≠ [] → ∃ y ∈ lines, ∃ d, y.begins? = some d ∧ within <:+ y.after ∧ c.condition = some d.branch

theorem Founded.suffix (founded : Founded lines within) {part : List OpenCondition} (isPart : part <:+ within) :
    Founded lines part :=
  fun d outer inPart => founded d outer (inPart.trans isPart)

theorem Tracks.step {x : Placed} {after : Control} (isThere : x ∈ lines)
    (tracks : Tracks lines x.reading.control x.within)
    (turns : x.reading.control.Turns x.reading.number (Line.keyword? x.reading.line) after) :
    Tracks lines after x.after := by
  obtain ⟨depth, founded, latest⟩ := tracks
  have begins : x.begins? =
      if (Line.keyword? x.reading.line).any Keyword.startsBranch then x.after.head? else none := rfl
  have stepped : x.after = OpenCondition.step x.within x.reading := rfl
  unfold OpenCondition.step at stepped
  generalize isKeyword : Line.keyword? x.reading.line = word at turns begins stepped
  cases turns with
  | opens deeper condition =>
    simp only [if_true] at stepped
    refine ⟨by rw [stepped, List.length_cons, depth, deeper], ?_, fun _ => ?_⟩
    · rw [stepped]
      intro d outer isSuffix
      rcases List.suffix_cons_iff.mp isSuffix with same | later
      · cases same
        exact ⟨x, isThere, rfl, isKeyword, rfl⟩
      · exact founded d outer later
    · exact ⟨x, isThere, _, begins.trans (by rw [stepped]; rfl), List.suffix_refl _, condition⟩
  | @branches after word alternative isOpen sameDepth condition =>
    have notIf : word ≠ .ifBlock := by rintro rfl; cases alternative
    have notEnd : word ≠ .endIf := by rintro rfl; cases alternative
    have starts : word.startsBranch = true := by simp [Keyword.startsBranch, alternative]
    cases within : x.within with
    | nil =>
      rw [within, List.length_nil] at depth
      omega
    | cons d outer =>
      simp only [notIf, notEnd, if_false, alternative, if_true, within] at stepped
      rw [within] at depth founded
      refine ⟨by rw [stepped, sameDepth, ← depth]; rfl, ?_, fun _ => ?_⟩
      · rw [stepped]
        intro f further isSuffix
        rcases List.suffix_cons_iff.mp isSuffix with same | later
        · cases same
          exact founded d outer (List.suffix_refl _)
        · exact founded f further (later.trans (List.suffix_cons _ _))
      · refine ⟨x, isThere, ⟨d.opener, x.reading.number, word⟩, begins.trans ?_, List.suffix_refl _, condition⟩
        rw [stepped, Option.any_some, starts]
        rfl
  | closes deeper condition =>
    have ended : x.after = x.within.tail := by simpa using stepped
    have isSuffix : x.after <:+ x.within := ended ▸ List.tail_suffix _
    refine ⟨by rw [ended, List.length_tail]; omega, founded.suffix isSuffix, fun nonempty => ?_⟩
    have wasOpen : x.within ≠ [] := by
      intro none
      rw [ended, none] at nonempty
      exact nonempty rfl
    obtain ⟨y, member, d, begun, inside, inForce⟩ := latest wasOpen
    exact ⟨y, member, d, begun, isSuffix.trans inside, condition.trans inForce⟩
  | other unconditional sameDepth condition =>
    have same : x.after = x.within := by
      cases word with
      | none => exact stepped
      | some word =>
        obtain ⟨starts, notEnd⟩ := Bool.or_eq_false_iff.mp (show word.isConditional = false from unconditional)
        obtain ⟨notIf, notAlternative⟩ := Bool.or_eq_false_iff.mp starts
        simpa [beq_eq_false_iff_ne.mp notIf, beq_eq_false_iff_ne.mp notEnd, notAlternative] using stepped
    rw [same]
    exact ⟨depth.trans sameDepth.symm, founded, fun nonempty => by rw [condition]; exact latest nonempty⟩

/-- From a control that is tracked on, every line of the section is tracked, as long as nothing is complained about. -/
theorem tracks_of_mem {number : Nat} {raw : List (List Char)} (silent : diagnostics (c.complaintsFrom number raw) = [])
    (tracks : Tracks lines c within) (isPart : Reading.place within (Reading.body (c.readings number raw)) ⊆ lines) :
    ∀ x ∈ Reading.place within (Reading.body (c.readings number raw)),
      Tracks lines x.reading.control x.within ∧ Founded lines x.after := by
  induction raw generalizing c number within with
  | nil =>
    intro x member
    cases member
  | cons line following inductionHypothesis =>
    rw [Control.complaintsFrom, diagnostics_append, List.append_eq_nil_iff] at silent
    obtain ⟨here, below⟩ := silent
    simp only [Control.readings] at isPart ⊢
    split at isPart
    · next isRead =>
      simp only [isRead, if_true]
      unfold Reading.body at isPart ⊢
      rw [List.takeWhile_cons] at isPart ⊢
      split at isPart
      · next notHeader =>
        rw [if_pos notHeader]
        rw [Reading.place] at isPart ⊢
        have isThere : ⟨⟨c, number, line⟩, within⟩ ∈ lines := isPart (List.mem_cons_self ..)
        have next := @Tracks.step lines ⟨⟨c, number, line⟩, within⟩ _ isThere tracks
          (@Control.next_turns c number line following isRead here)
        intro x member
        rcases List.mem_cons.mp member with rfl | later
        · exact ⟨tracks, next.founded⟩
        · exact inductionHypothesis below next (List.Subset.trans (List.subset_cons_self _ _) isPart) x later
      · next isHeader =>
        rw [if_neg isHeader]
        intro x member
        cases member
    · next unread =>
      have unchanged : c.next number line following = c := by simp [Control.next, unread]
      rw [if_neg unread]
      rw [unchanged] at below isPart ⊢
      exact inductionHypothesis below tracks isPart

theorem Tracks.of_none (unconditional : c.blocks.isIn .ifBlock = false) : Tracks lines c [] where
  depth := by
    rw [List.length_nil, eq_comm, Blocks.depth, List.countP_eq_zero]
    intro b member isIf
    have conditional := (Blocks.isIn_iff c.blocks).mpr ⟨b, member, beq_iff_eq.mp isIf⟩
    rw [unconditional] at conditional
    cases conditional
  founded := by
    intro d outer isSuffix
    cases List.suffix_nil.mp isSuffix
  latest := fun nonempty => absurd rfl nonempty

theorem Tracks.isIn_if (tracks : Tracks lines c within) : c.blocks.isIn .ifBlock = true ↔ within ≠ [] := by
  rw [Blocks.isIn_iff, ← List.length_pos_iff, tracks.depth, Blocks.depth, List.countP_pos_iff]
  simp

end OpenCondition

/-! ## The conditions of a section -/

namespace Placed

/-- The lines of a section in whose conditions nothing is amiss. -/
structure Orderly (lines : List Placed) : Prop where
  unique : ∀ y ∈ lines, ∀ z ∈ lines, y.reading.number = z.reading.number → y = z
  tracks : ∀ y ∈ lines, OpenCondition.Tracks lines y.reading.control y.within
  founded : ∀ y ∈ lines, OpenCondition.Founded lines y.after

variable {lines : List Placed} {x y z : Placed} {d f : OpenCondition}

theorem Orderly.eq_of_begins? (orderly : Orderly lines) (isLine : y ∈ lines) (isLineToo : z ∈ lines)
    (begun : y.begins? = some d) (begunToo : z.begins? = some f) (same : d.branch = f.branch) : y = z ∧ d = f := by
  have sameLine : y = z :=
    orderly.unique y isLine z isLineToo (by rw [← (begins?_eq_some begun).1, ← (begins?_eq_some begunToo).1, same])
  exact ⟨sameLine, Option.some.inj (begun.symm.trans (sameLine ▸ begunToo))⟩

theorem Orderly.outer_eq (orderly : Orderly lines) (isLine : y ∈ lines) (isLineToo : z ∈ lines)
    {outer outerToo : List OpenCondition} (isPart : d :: outer <:+ y.after) (isPartToo : f :: outerToo <:+ z.after)
    (same : d.opener = f.opener) : outer = outerToo := by
  obtain ⟨opener, isOpener, place, -, within⟩ := orderly.founded y isLine d outer isPart
  obtain ⟨openerToo, isOpenerToo, placeToo, -, withinToo⟩ := orderly.founded z isLineToo f outerToo isPartToo
  rw [← within, ← withinToo, orderly.unique opener isOpener openerToo isOpenerToo (by rw [place, placeToo, same])]

/-- The branch in which an assignment is counted began last: its condition may have ended since, but one around it has
    not. -/
theorem Orderly.branch_of_entry (orderly : Orderly lines) (isLine : x ∈ lines) {r : Registry} {e : Entry}
    (said : x.reading.event? r = some (.entry e)) :
    (e.branch = none → x.within = []) ∧
      ∀ b, e.branch = some b → x.within ≠ [] ∧
        ∃ y ∈ lines, ∃ d, y.begins? = some d ∧ d.branch = b ∧ x.within <:+ y.after := by
  have tracks := orderly.tracks x isLine
  rw [(Reading.event?_entry said).1, Control.branch?]
  split
  · next conditional =>
    have isOpen := tracks.isIn_if.mp conditional
    obtain ⟨y, isLineToo, d, begun, inside, inForce⟩ := tracks.latest isOpen
    refine ⟨fun none => ?_, fun b condition => ⟨isOpen, y, isLineToo, d, begun, ?_, inside⟩⟩
    · cases inForce.symm.trans none
    · exact Option.some.inj (inForce.symm.trans condition)
  · next unconditional =>
    refine ⟨fun _ => ?_, fun b condition => by cases condition⟩
    by_contra isOpen
    exact unconditional (tracks.isIn_if.mpr isOpen)

end Placed

theorem Document.orderly_of_header {text : String} {before after : List Reading} {x : Reading} {h : Header}
    (silent : diagnostics (Control.complaintsFrom {} 0 (Document.analysed text)) = [])
    (split : Document.readings text = before ++ x :: after) (headed : Line.header? x.line x.number = some h)
    (outside : x.control.blocks.isIn .ifBlock = false) :
    Placed.Orderly (Reading.place [] (Reading.body after)) := by
  have increasing : (Reading.body after).Pairwise fun y z => y.number < z.number := by
    have whole := Control.readings_increasing {} 0 (Document.analysed text)
    rw [show Control.readings {} 0 (Document.analysed text) = _ from split, List.pairwise_append,
      List.pairwise_cons] at whole
    exact whole.2.1.2.sublist (List.takeWhile_sublist _)
  obtain ⟨number, following, rfl, below⟩ :=
    Control.readings_after (motive := fun c number lines => diagnostics (c.complaintsFrom number lines) = [])
      split silent (fun c number line following silent => by
        rw [Control.complaintsFrom, diagnostics_append, List.append_eq_nil_iff] at silent
        exact silent.2)
  have noKeyword : Line.keywordAt? x.line x.number = none := Line.keywordAt?_of_header (by simp [headed])
  have unchanged : x.control.next x.number x.line following = x.control := by
    simp [Control.next, noKeyword]
  rw [unchanged] at below increasing ⊢
  have tracked := OpenCondition.tracks_of_mem below (OpenCondition.Tracks.of_none outside) (List.Subset.refl _)
  exact ⟨fun y isLine z isLineToo => Reading.eq_of_number increasing isLine isLineToo,
    fun y isLine => (tracked y isLine).1, fun y isLine => (tracked y isLine).2⟩

end ChartConfig
