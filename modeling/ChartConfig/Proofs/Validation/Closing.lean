import Mathlib.Data.List.Sort
import ChartConfig.Proofs.Validation.Counting
import ChartConfig.Proofs.Validation.Events

/-!
# Which block a terminator closes

A terminator that fits closes the innermost block. One that does not fit closes the outermost block of its kind, which is
not the innermost of the kind unless it is the only one. So the blocks that are left open are those that innermost
matching leaves open as long as no terminator has gone astray in this way; and if one has, the two agree again only when
no block of the kind is open.
-/

namespace ChartConfig

open Text Finding BlockEvent

/-! ## What a terminator takes -/

namespace Blocks

variable {number : Nat} {blocks after : Blocks} {said : List Diagnostic} {k : Keyword}

/-- One block of the kind is taken out from between the others: the innermost block if it is of the kind, and the
    outermost of the kind otherwise. -/
structure Takes (k : Keyword) (blocks after outer : Blocks) (b : KeywordAt) (inner : Blocks) : Prop where
  before : blocks = outer ++ b :: inner
  kind : b.keyword = k
  remain : after = outer ++ inner
  fitting : blocks.innermost? = some k → inner = []
  misfitting : blocks.innermost? ≠ some k → ∀ c ∈ outer, c.keyword ≠ k
  innermost_iff : (∀ c ∈ inner, c.keyword ≠ k) ↔ blocks.innermost? = some k ∨ blocks.count k = 1

theorem exists_takes (isOpen : blocks.isIn k = true) : ∃ outer b inner, Takes k blocks (blocks.without k) outer b inner := by
  unfold without
  split
  · next fits =>
    obtain ⟨last, isLast, isKind⟩ := Option.map_eq_some_iff.mp fits
    obtain ⟨outer, rfl⟩ := List.getLast?_eq_some_iff.mp isLast
    refine ⟨outer, last, [], rfl, isKind, by simp, fun _ => rfl, fun misfits => absurd fits misfits, ?_⟩
    simp [fits]
  · next misfits =>
    obtain ⟨c, member, isKind⟩ := (isIn_iff blocks).mp isOpen
    obtain ⟨b, outer, inner, others, isFirst, rfl, erased⟩ :=
      List.exists_of_eraseP (p := (·.keyword == k)) member (by simpa using isKind)
    have noneOutside : ∀ c ∈ outer, c.keyword ≠ k := by simpa using others
    refine ⟨outer, b, inner, rfl, by simpa using isFirst, erased, fun fits => absurd fits misfits,
      fun _ => noneOutside, ?_⟩
    have outside : count outer k = 0 := by simpa [count, List.countP_eq_zero] using noneOutside
    have total : count (outer ++ b :: inner) k = count outer k + (count inner k + 1) := by
      simp only [count, List.countP_append, List.countP_cons, isFirst, if_true]
    rw [total, outside]
    simp [misfits, count, List.countP_eq_zero]

theorem without_of_not_isIn (noneOpen : blocks.isIn k = false) : blocks.without k = blocks := by
  have others : ∀ b ∈ blocks, b.keyword ≠ k := by simpa [isIn] using noneOpen
  rw [without, if_neg]
  · exact List.eraseP_of_forall_not (by simpa using others)
  · intro fits
    obtain ⟨last, isLast, isKind⟩ := Option.map_eq_some_iff.mp fits
    exact others last (List.mem_of_getLast? isLast) isKind

theorem Change.of_closes (change : Change number blocks (some (.closes k)) said after) : after = blocks.without k := by
  cases change with
  | closed fits => rw [without, if_pos fits]
  | misclosed misfits => rw [without, if_neg misfits]

end Blocks

namespace Passing

variable {x : Passing} {k : Keyword}

theorem complaints_of_unopened (happened : x.event? = some (.closes k)) (noneOpen : x.before.blocks.isIn k = false) :
    ∃ found, Line.keywordAt? x.line x.number = some found ∧ found.keyword.closes = some k ∧
      x.complaints = [.error found.range (Blocks.noOpener found.keyword k)] := by
  obtain ⟨isRead, word, isWord, closes⟩ := keyword_of_closes happened
  obtain ⟨found, isFound, rfl⟩ := Line.exists_keywordAt? x.number isWord
  refine ⟨found, isFound, closes, ?_⟩
  rw [complaints, Control.complaintsAt, if_pos isRead, isFound, Option.elim_some, Blocks.complaints, Blocks.close, closes]
  simp only [State.control]
  cases inner : x.before.blocks.innermost? with
  | none => rfl
  | some kind =>
    have misfits : kind ≠ k := by
      rintro rfl
      obtain ⟨last, isLast, isKind⟩ := Option.map_eq_some_iff.mp inner
      rw [Bool.eq_false_iff] at noneOpen
      exact noneOpen ((Blocks.isIn_iff _).mpr ⟨last, List.mem_of_getLast? isLast, isKind⟩)
    simp only [beq_iff_eq, misfits, if_false, noneOpen, Bool.false_eq_true]
    rfl

end Passing

/-! ## Innermost matching -/

def Blocks.closeLast (blocks : Blocks) (k : Keyword) : Blocks :=
  (blocks.reverse.eraseP (·.keyword == k)).reverse

namespace Passing

/-- The blocks that remain when the line is read after the given blocks and a terminator closes the innermost of its
    kind. -/
def matchInnermost (matched : Blocks) (x : Passing) : Blocks :=
  match x.event? with
  | some (.closes k) => matched.closeLast k
  | _ => matched ++ x.pushed?.toList

/-- The line is a terminator that does not fit, with more than one block of its kind open. -/
def GoesAstray (x : Passing) (k : Keyword) : Prop :=
  x.event? = some (.closes k) ∧ x.before.blocks.innermost? ≠ some k ∧ 2 ≤ x.before.blocks.count k

end Passing

/-- The blocks that innermost matching leaves open. -/
def innermostMatching (xs : List Passing) : Blocks :=
  xs.foldl Passing.matchInnermost []

namespace Blocks

variable {blocks matched : Blocks} {k : Keyword}

theorem ofKind_closeLast (blocks : Blocks) (opener k : Keyword) :
    ofKind (blocks.closeLast opener) k = if opener = k then (blocks.ofKind k).dropLast else blocks.ofKind k := by
  have reversed (blocks : Blocks) : ofKind blocks.reverse k = (blocks.ofKind k).reverse := List.filter_reverse
  rw [closeLast, reversed, ofKind_eraseP, reversed]
  split
  · rw [List.tail_reverse, List.reverse_reverse]
  · rw [List.reverse_reverse]

theorem closeLast_sublist (blocks : Blocks) (k : Keyword) : (blocks.closeLast k).Sublist blocks := by
  rw [← List.reverse_sublist, closeLast, List.reverse_reverse]
  exact List.eraseP_sublist

theorem eq_iff_ofKind (sorted : blocks.Pairwise fun a b => a.range.start.line < b.range.start.line)
    (sortedToo : matched.Pairwise fun a b => a.range.start.line < b.range.start.line) :
    blocks = matched ↔ ∀ k, blocks.ofKind k = matched.ofKind k := by
  constructor
  · rintro rfl k
    rfl
  · intro same
    have members (all : Blocks) (b : KeywordAt) : b ∈ all ↔ b ∈ all.ofKind b.keyword := by simp [ofKind]
    have : Std.Irrefl fun a b : KeywordAt => a.range.start.line < b.range.start.line := ⟨fun a => Nat.lt_irrefl _⟩
    have : Std.Antisymm fun a b : KeywordAt => a.range.start.line < b.range.start.line :=
      ⟨fun a b before after => absurd before (Nat.lt_asymm after)⟩
    exact sorted.eq_of_mem_iff sortedToo fun b => by rw [members, same, ← members]

/-- The blocks of one kind, those of the run and those of innermost matching: they are the same, or the run has lost an
    older block instead of a newer one. -/
inductive Paired : Blocks → Blocks → Prop where
  | same (blocks : Blocks) : Paired blocks blocks
  | lost {b older : KeywordAt} {rest others : Blocks} : rest.length = others.length →
      older.range.start.line < b.range.start.line → Paired (b :: rest) (older :: others)

namespace Paired

variable {run : Blocks}

theorem ne_of_lost {b older : KeywordAt} {rest others : Blocks} (isOlder : older.range.start.line < b.range.start.line) :
    b :: rest ≠ older :: others := by
  intro same
  rw [(List.cons.inj same).1] at isOlder
  exact Nat.lt_irrefl _ isOlder

theorem ne_nil (paired : Paired run matched) (apart : run ≠ matched) : run ≠ [] := by
  cases paired with
  | same => exact absurd rfl apart
  | lost => exact List.cons_ne_nil _ _

theorem unmoved (paired : Paired run matched) {astray : Prop} (notAstray : ¬ astray) :
    Paired run matched ∧ (run ≠ matched ↔ run ≠ matched ∧ run ≠ [] ∨ astray) :=
  ⟨paired, fun apart => .inl ⟨apart, paired.ne_nil apart⟩, fun either => either.elim And.left fun isAstray =>
    absurd isAstray notAstray⟩

theorem concat (paired : Paired run matched) (b : KeywordAt) : Paired (run ++ [b]) (matched ++ [b]) := by
  cases paired with
  | same => exact .same _
  | lost sameLength isOlder => exact .lost (by simpa using sameLength) isOlder

theorem dropLast (paired : Paired run matched) : Paired run.dropLast matched.dropLast ∧
    (run.dropLast ≠ matched.dropLast ↔ run ≠ matched ∧ run.dropLast ≠ []) := by
  cases paired with
  | same => exact ⟨.same _, by simp⟩
  | @lost b older rest others sameLength isOlder =>
    cases rest with
    | nil =>
      rw [List.length_eq_zero_iff.mp sameLength.symm]
      exact ⟨.same [], by simp⟩
    | cons c rest =>
      obtain ⟨other, others, rfl⟩ := List.exists_cons_of_length_eq_add_one sameLength.symm
      exact ⟨.lost (by simpa using sameLength) isOlder, by simp [ne_of_lost isOlder]⟩

theorem tail_dropLast (paired : Paired run matched)
    (sorted : run.Pairwise fun a b => a.range.start.line < b.range.start.line) : Paired run.tail matched.dropLast ∧
    (run.tail ≠ matched.dropLast ↔ run.tail ≠ []) := by
  cases paired with
  | same =>
    match matched, sorted with
    | [], _ => exact ⟨.same [], by simp⟩
    | [_], _ => exact ⟨.same [], by simp⟩
    | b :: c :: rest, sorted =>
      have isOlder : b.range.start.line < c.range.start.line := (List.pairwise_cons.mp sorted).1 c (List.mem_cons_self ..)
      exact ⟨.lost (by simp) isOlder, by simp [ne_of_lost isOlder]⟩
  | @lost b older rest others sameLength isOlder =>
    cases rest with
    | nil =>
      rw [List.length_eq_zero_iff.mp sameLength.symm]
      exact ⟨.same [], by simp⟩
    | cons c rest =>
      obtain ⟨other, others, rfl⟩ := List.exists_cons_of_length_eq_add_one sameLength.symm
      have isNewer : b.range.start.line < c.range.start.line := (List.pairwise_cons.mp sorted).1 c (List.mem_cons_self ..)
      have stillOlder := Nat.lt_trans isOlder isNewer
      exact ⟨.lost (by simpa using sameLength) stillOlder, by simp [ne_of_lost stillOlder]⟩

end Paired

end Blocks

/-! ## One line -/

namespace Passing

open Blocks

variable {x : Passing} {matched : Blocks}

theorem matching_cases (change : Change x.number x.before.blocks x.event? x.complaints x.after.blocks) (matched : Blocks) :
    ((∀ k, x.event? ≠ some (.closes k)) ∧ x.after.blocks = x.before.blocks ∧ x.matchInnermost matched = matched) ∨
      (∃ b, (∀ k, x.event? ≠ some (.closes k)) ∧ b.range.start.line = x.number ∧
        x.after.blocks = x.before.blocks ++ [b] ∧ x.matchInnermost matched = matched ++ [b]) ∨
      ∃ k, x.event? = some (.closes k) ∧ x.after.blocks = x.before.blocks.without k ∧
        x.matchInnermost matched = matched.closeLast k := by
  unfold matchInnermost pushed?
  generalize x.before.blocks = blocks, x.after.blocks = after, x.event? = event, x.complaints = said at change
  cases change with
  | unchanged | branched | misbranched => exact .inl ⟨nofun, rfl, by simp⟩
  | @pushed b place => exact .inr (.inl ⟨b, nofun, place, rfl, by simp⟩)
  | @closed k fits => exact .inr (.inr ⟨k, rfl, by rw [without, if_pos fits], rfl⟩)
  | @misclosed k d misfits => exact .inr (.inr ⟨k, rfl, by rw [without, if_neg misfits], rfl⟩)

theorem matchInnermost_ordered (change : Change x.number x.before.blocks x.event? x.complaints x.after.blocks)
    (ordered : Ordered x.number matched) : Ordered (x.number + 1) (x.matchInnermost matched) := by
  obtain ⟨-, -, same⟩ | ⟨b, -, place, -, pushed⟩ | ⟨k, -, -, closed⟩ := matching_cases change matched
  · rw [same]
    exact ordered.sublist (.refl _)
  · rw [pushed]
    exact (Change.pushed place).ordered ordered
  · rw [closed]
    exact ordered.sublist (matched.closeLast_sublist k)

/-- The blocks of a kind stay paired. After the line the run and innermost matching differ in them if they did and some
    are left, or if the line has gone astray. -/
theorem paired_ofKind (change : Change x.number x.before.blocks x.event? x.complaints x.after.blocks)
    (ordered : Ordered x.number x.before.blocks) {k : Keyword}
    (paired : Paired (x.before.blocks.ofKind k) (matched.ofKind k)) :
    Paired (x.after.blocks.ofKind k) ((x.matchInnermost matched).ofKind k) ∧
      (x.after.blocks.ofKind k ≠ (x.matchInnermost matched).ofKind k ↔
        x.before.blocks.ofKind k ≠ matched.ofKind k ∧ x.after.blocks.ofKind k ≠ [] ∨ x.GoesAstray k) := by
  obtain ⟨noTerminator, same, sameToo⟩ | ⟨b, noTerminator, -, pushed, pushedToo⟩ | ⟨opener, closes, closed, closedToo⟩ :=
    matching_cases change matched
  · have notAstray : ¬ x.GoesAstray k := fun astray => noTerminator k astray.1
    rw [same, sameToo]
    exact paired.unmoved notAstray
  · have notAstray : ¬ x.GoesAstray k := fun astray => noTerminator k astray.1
    rw [pushed, pushedToo, ofKind_concat, ofKind_concat]
    split
    · refine ⟨paired.concat b, ?_⟩
      simp [notAstray]
    · exact paired.unmoved notAstray
  · rw [closed, closedToo, ofKind_closeLast, ofKind_without]
    by_cases same : opener = k
    · subst same
      rw [if_pos rfl, if_pos rfl]
      split
      · next fits =>
        have notAstray : ¬ x.GoesAstray opener := fun astray => astray.2.1 fits
        simpa [notAstray] using paired.dropLast
      · next misfits =>
        have astray : x.GoesAstray opener ↔ (x.before.blocks.ofKind opener).tail ≠ [] := by
          rw [GoesAstray, count_eq_length, ← List.length_pos_iff, List.length_tail]
          simp only [closes, ne_eq, misfits, not_false_eq_true, true_and]
          omega
        obtain ⟨stillPaired, apart⟩ := paired.tail_dropLast (ordered.sorted.filter _)
        exact ⟨stillPaired, by tauto⟩
    · have notAstray : ¬ x.GoesAstray k := by
        rintro ⟨closesToo, -⟩
        rw [closes] at closesToo
        cases closesToo
        exact same rfl
      rw [if_neg same, if_neg same]
      exact paired.unmoved notAstray

end Passing

/-! ## All lines -/

/-- After every terminator of the kind that goes astray, there is a line that leaves no block of the kind open. -/
def Recovers (xs : List Passing) (k : Keyword) : Prop :=
  ∀ before x after, xs = before ++ x :: after → x.GoesAstray k → ∃ y ∈ after, y.after.blocks.count k = 0

theorem recovers_cons {x : Passing} {xs : List Passing} {k : Keyword} :
    Recovers (x :: xs) k ↔ (x.GoesAstray k → ∃ y ∈ xs, y.after.blocks.count k = 0) ∧ Recovers xs k := by
  constructor
  · intro all
    exact ⟨all [] x xs rfl, fun before y after split => all (x :: before) y after (by rw [split, List.cons_append])⟩
  · rintro ⟨first, later⟩ before y after split
    cases before with
    | nil =>
      obtain ⟨rfl, rfl⟩ := List.cons.inj split
      exact first
    | cons z before =>
      obtain ⟨-, rest⟩ := List.cons.inj split
      exact later before y after rest

namespace Passes

open Blocks Passing

variable {number : Nat} {blocks matched last : Blocks} {xs : List Passing}

theorem matching_sorted (passes : Passes number blocks xs last) (ordered : Ordered number matched) :
    (xs.foldl matchInnermost matched).Pairwise fun a b => a.range.start.line < b.range.start.line := by
  induction passes generalizing matched with
  | done => exact ordered.sorted
  | next change passes inductionHypothesis => exact inductionHypothesis (matchInnermost_ordered change ordered)

theorem ofKind_eq_iff (passes : Passes number blocks xs last) (ordered : Ordered number blocks) {k : Keyword}
    (paired : Paired (blocks.ofKind k) (matched.ofKind k)) :
    last.ofKind k = ofKind (xs.foldl matchInnermost matched) k ↔
      (blocks.ofKind k ≠ matched.ofKind k → ∃ y ∈ xs, y.after.blocks.count k = 0) ∧ Recovers xs k := by
  induction passes generalizing matched with
  | done => simp [Recovers]
  | @next x xs last change passes inductionHypothesis =>
    obtain ⟨stillPaired, apart⟩ := paired_ofKind change ordered paired
    -- The line keeps the blocks paired, so the hypothesis speaks of what comes after it.
    have noneLeft : x.after.blocks.ofKind k = [] ↔ x.after.blocks.count k = 0 := by
      rw [count_eq_length, List.length_eq_zero_iff]
    rw [List.foldl_cons, inductionHypothesis (change.ordered ordered) stillPaired, apart, recovers_cons,
      List.exists_mem_cons_iff, ne_eq, ne_eq, noneLeft]
    simp only [or_imp, and_imp, and_assoc, ← or_iff_not_imp_left]

/-- The run leaves open what innermost matching leaves open just in case it recovers from all that has gone astray. -/
theorem last_eq_iff (passes : Passes 0 [] xs last) : last = innermostMatching xs ↔ ∀ k, Recovers xs k := by
  rw [innermostMatching, eq_iff_ofKind (passes.ordered_last ordered_initial) (passes.matching_sorted ordered_initial)]
  refine forall_congr' fun k => ?_
  rw [passes.ofKind_eq_iff ordered_initial (.same _)]
  simp only [ne_eq, not_true_eq_false, false_implies, true_and]

end Passes

/-! ## Reports of open blocks -/

def Diagnostic.isUnclosed (d : Diagnostic) : Bool :=
  Keyword.all.any fun k => d.message == Blocks.noTerminator k

theorem Diagnostic.isUnclosed_iff {d : Diagnostic} : d.isUnclosed = true ↔ ∃ k, d.message = Blocks.noTerminator k := by
  simp [isUnclosed, Keyword.mem_all]

theorem KeywordAt.isUnclosed_unclosed (b : KeywordAt) : b.unclosed.isUnclosed = true :=
  Diagnostic.isUnclosed_iff.mpr ⟨b.keyword, rfl⟩

theorem Keyword.eq_of_name_append {k other : Keyword} {rest more : List Char}
    (same : k.name.toList ++ ' ' :: rest = other.name.toList ++ ' ' :: more) : k = other ∧ rest = more := by
  have firstWord (k : Keyword) (rest : List Char) :
      (k.name.toList ++ ' ' :: rest).takeWhile (· != ' ') = k.name.toList := by
    have noBlank : ∀ c ∈ k.name.toList, (c != ' ') = true := by
      intro c member
      rw [bne_iff_ne]
      rintro rfl
      exact absurd (k.isLowerLetter_name _ member) (by decide)
    rw [List.takeWhile_append_of_pos noBlank, List.takeWhile_cons_of_neg (by decide), List.append_nil]
  have sameName : k.name.toList = other.name.toList := by
    rw [← firstWord k rest, same, firstWord]
  obtain rfl := Keyword.eq_of_name sameName
  exact ⟨rfl, List.tail_eq_of_cons_eq (List.append_cancel_left same)⟩

namespace Blocks

theorem toList_noTerminator (k : Keyword) :
    (noTerminator k).toList = k.name.toList ++ ' ' :: ("has no matching ".toList ++ ("end".toList ++ k.name.toList)) := by
  simp [noTerminator, String.toList_append]

theorem toList_noOpener (found opener : Keyword) :
    (noOpener found opener).toList = found.name.toList ++ ' ' :: ("has no matching ".toList ++ opener.name.toList) := by
  simp [noOpener, String.toList_append]

theorem not_mem_noTerminator (k : Keyword) : 'b' ∉ (noTerminator k).toList := by
  have notInName : 'b' ∉ k.name.toList := by cases k <;> decide
  rw [toList_noTerminator]
  simp [notInName]

theorem noOpener_ne_noTerminator {found : Keyword} (closing : found.isClosing = true) (opener k : Keyword) :
    noOpener found opener ≠ noTerminator k := by
  intro same
  have sameLetters := congrArg String.toList same
  rw [toList_noOpener, toList_noTerminator] at sameLetters
  obtain ⟨rfl, sameRest⟩ := Keyword.eq_of_name_append sameLetters
  have sameLast : opener.name.toList = "end".toList ++ found.name.toList := List.append_cancel_left sameRest
  have noName : ∀ opener ∈ Keyword.all, opener.name.toList ≠ "end".toList ++ found.name.toList := by
    revert closing
    cases found <;> decide
  exact noName opener opener.mem_all sameLast

theorem message_ne_noTerminator {found : Keyword} (closing : found.isClosing = true) {kind : Disorder}
    (isShown : Shows found kind) (k : Keyword) : kind.message ≠ noTerminator k := by
  intro same
  cases kind with
  | closedEarly opener inner =>
    exact not_mem_noTerminator k (same ▸ mem_wording (by decide +kernel))
  | startedEarly word inner =>
    exact not_mem_noTerminator k (same ▸ mem_opening (mem_wording (by decide +kernel)))
  | noOpener word opener =>
    cases isShown
    exact noOpener_ne_noTerminator closing opener k same
  | noTerminator => cases isShown

end Blocks

theorem Passing.not_isUnclosed {x : Passing} {d : Diagnostic} (complains : d ∈ x.complaints) : d.isUnclosed = false := by
  obtain ⟨f, isSaid, isProblem⟩ := List.mem_filterMap.mp complains
  rw [Control.complaintsAt] at isSaid
  split at isSaid
  · cases isFound : Line.keywordAt? x.line x.number with
    | none =>
      rw [isFound] at isSaid
      cases isSaid
    | some found =>
      rw [isFound, Option.elim_some] at isSaid
      have closing : found.keyword.isClosing = true := by
        by_contra other
        rw [Blocks.complaints_of_not_isClosing (Bool.eq_false_iff.mpr other)] at isSaid
        cases isSaid
      obtain ⟨kind, isShown, rfl⟩ := Blocks.exists_disorder_of_mem_complaints isSaid
      cases isProblem
      rw [Bool.eq_false_iff]
      intro unclosed
      obtain ⟨k, sameMessage⟩ := Diagnostic.isUnclosed_iff.mp unclosed
      exact Blocks.message_ne_noTerminator closing isShown k sameMessage
  · cases isSaid

theorem KeywordAt.unclosed_injective : Function.Injective KeywordAt.unclosed := by
  intro b c same
  obtain ⟨sameRange, -, sameMessage⟩ := Diagnostic.mk.inj same
  have sameLetters := congrArg String.toList sameMessage
  rw [Blocks.toList_noTerminator, Blocks.toList_noTerminator] at sameLetters
  obtain ⟨sameKeyword, -⟩ := Keyword.eq_of_name_append sameLetters
  cases b
  cases c
  cases sameRange
  cases sameKeyword
  rfl

theorem Complained.filter_isUnclosed {xs : List Passing} {last : Blocks} {found : List Diagnostic}
    (complained : Complained xs last found) : found.filter (·.isUnclosed) = last.map KeywordAt.unclosed := by
  have structural : ∀ d ∈ found, d.isUnclosed = true → d.isStructural = true := by
    intro d _ unclosed
    obtain ⟨k, sameMessage⟩ := Diagnostic.isUnclosed_iff.mp unclosed
    exact Diagnostic.isStructural_iff.mpr ⟨.noTerminator k, sameMessage⟩
  have noComplaint : (xs.flatMap Passing.complaints).filter (·.isUnclosed) = [] := by
    rw [List.filter_eq_nil_iff]
    intro d member
    obtain ⟨x, -, complains⟩ := List.mem_flatMap.mp member
    rw [Passing.not_isUnclosed complains]
    exact Bool.false_ne_true
  have allUnclosed : (last.map KeywordAt.unclosed).filter (·.isUnclosed) = last.map KeywordAt.unclosed := by
    rw [List.filter_eq_self]
    intro d member
    obtain ⟨b, -, rfl⟩ := List.mem_map.mp member
    exact b.isUnclosed_unclosed
  have within : found.filter (·.isUnclosed) = (found.filter (·.isStructural)).filter (·.isUnclosed) := by
    rw [List.filter_filter]
    refine List.filter_congr fun d member => ?_
    cases unclosed : d.isUnclosed with
    | false => rfl
    | true => rw [structural d member unclosed, Bool.and_self]
  rw [within, complained.structural, List.filter_append, noComplaint, allUnclosed, List.nil_append]

/-! ## The main result -/

/-- A terminator takes one block of its kind, if there is one, and otherwise it changes nothing and gets the one
    complaint that it has no opener. The block is the innermost of its kind just in case the terminator fits or there is
    no other; and the blocks that are reported as unclosed are those that innermost matching leaves open just in case
    the run recovers from all terminators that close another. -/
theorem terminators_close_one_block (r : Registry) (text : String) :
    ∃ found, validate text r = .ok found ∧
      (∀ x ∈ Document.passings r text, ∀ k, x.event? = some (.closes k) →
        (x.before.blocks.isIn k = false → x.after.blocks = x.before.blocks ∧
          ∃ word, Line.keywordAt? x.line x.number = some word ∧ word.keyword.closes = some k ∧
            (found.filter fun d => d.isStructural && d.range.start.line == x.number) =
              [.error word.range (Blocks.noOpener word.keyword k)]) ∧
        (x.before.blocks.isIn k = true → ∃ outer b inner,
          Blocks.Takes k x.before.blocks x.after.blocks outer b inner)) ∧
      (found.filter (·.isUnclosed) = (innermostMatching (Document.passings r text)).map KeywordAt.unclosed ↔
        ∀ k, Recovers (Document.passings r text) k) := by
  obtain ⟨found, last, ran, complained⟩ := validate_complained r text
  refine ⟨found, ran, ?_, ?_⟩
  · intro x isPassed k closes
    have change := complained.passes.change_of_mem x isPassed
    rw [closes] at change
    rw [change.of_closes]
    refine ⟨fun noneOpen => ⟨Blocks.without_of_not_isIn noneOpen, ?_⟩, Blocks.exists_takes⟩
    obtain ⟨word, isWord, closesKind, complaint⟩ := Passing.complaints_of_unopened closes noneOpen
    have notOpening : ∀ other, x.event? ≠ some (.opens other) := by simp [closes]
    exact ⟨word, isWord, closesKind, (complained.on_line isPassed notOpening).trans complaint⟩
  · rw [complained.filter_isUnclosed, List.map_inj_right fun b c same => KeywordAt.unclosed_injective same]
    exact complained.passes.last_eq_iff

/-- Two loops and a condition; the terminator of the inner loop comes too early, and a table ends that never began. -/
def strayText : String :=
  "list a = 1, 2\nfor x in a\nfor y in a\nif x == 1\nendfor\nendif\nendcsv"

/-- The early terminator takes the outer loop, and the last one nothing. -/
theorem terminators_close_one_block_stray :
    (∃ inner, Blocks.Takes .forBlock [⟨.forBlock, ⟨⟨1, 0⟩, ⟨1, 3⟩⟩⟩, ⟨.forBlock, ⟨⟨2, 0⟩, ⟨2, 3⟩⟩⟩, ⟨.ifBlock, ⟨⟨3, 0⟩, ⟨3, 2⟩⟩⟩]
      [⟨.forBlock, ⟨⟨2, 0⟩, ⟨2, 3⟩⟩⟩, ⟨.ifBlock, ⟨⟨3, 0⟩, ⟨3, 2⟩⟩⟩] [] ⟨.forBlock, ⟨⟨1, 0⟩, ⟨1, 3⟩⟩⟩ inner) ∧
    ∃ found, validate strayText default = .ok found ∧
      (found.filter fun d => d.isStructural && d.range.start.line == 6) =
        [.error ⟨⟨6, 0⟩, ⟨6, 6⟩⟩ "endcsv has no matching csv"] := by
  obtain ⟨found, ran, closings, -⟩ := terminators_close_one_block default strayText
  have five : 4 < (Document.passings default strayText).length := by decide +kernel
  have seven : 6 < (Document.passings default strayText).length := by decide +kernel
  obtain ⟨early, isOpen, before, after, last, noneOpen, number, isWord⟩ :
      let x := (Document.passings default strayText)[4]
      let y := (Document.passings default strayText)[6]
      x.event? = some (.closes .forBlock) ∧ x.before.blocks.isIn .forBlock = true ∧
        x.before.blocks = [⟨.forBlock, ⟨⟨1, 0⟩, ⟨1, 3⟩⟩⟩, ⟨.forBlock, ⟨⟨2, 0⟩, ⟨2, 3⟩⟩⟩, ⟨.ifBlock, ⟨⟨3, 0⟩, ⟨3, 2⟩⟩⟩] ∧
        x.after.blocks = [⟨.forBlock, ⟨⟨2, 0⟩, ⟨2, 3⟩⟩⟩, ⟨.ifBlock, ⟨⟨3, 0⟩, ⟨3, 2⟩⟩⟩] ∧
        y.event? = some (.closes .csv) ∧ y.before.blocks.isIn .csv = false ∧ y.number = 6 ∧
        Line.keywordAt? y.line y.number = some ⟨.endCsv, ⟨⟨6, 0⟩, ⟨6, 6⟩⟩⟩ := by
    decide +kernel +revert
  obtain ⟨outer, b, inner, takes⟩ := (closings _ (List.getElem_mem five) .forBlock early).2 isOpen
  obtain ⟨-, word, isFound, -, complaint⟩ := (closings _ (List.getElem_mem seven) .csv last).1 noneOpen
  rw [isWord, Option.some.injEq] at isFound
  subst isFound
  rw [number] at complaint
  rw [before, after] at takes
  have isOuter : outer = [] := by
    have misfits := takes.misfitting (by decide)
    cases outer with
    | nil => rfl
    | cons first rest =>
      have isFirst := (List.cons.inj takes.before).1
      exact absurd (by rw [← isFirst]) (misfits first (List.mem_cons_self ..))
  subst isOuter
  have isTaken := (List.cons.inj takes.before).1
  subst isTaken
  exact ⟨⟨inner, takes⟩, found, ran, complaint⟩

/-- The terminator goes astray at the condition, so the inner of the two loops is left open and not the outer. -/
example :
    (validate "list a = 1, 2\nfor x in a\nfor y in a\nif x == 1\nendfor\nendif" default).map
      (List.map fun d => (d.range.start.line, d.message)) =
      .ok [(4, "for has finished before if"), (2, "for has no matching endfor")] := by
  decide +kernel

end ChartConfig
