import ChartConfig.Proofs.Validation.Insertion

/-!
# Adding to a section

Lines that are put into a section and declare nothing of a slot leave it filled, as one would expect, if the section
fills it outside conditions or need not fill it at all. A slot that is filled by the branches of conditions is another
matter. All branches of the section in which settings are declared are taken together, so a condition that is put in
and declares anything brings in a branch that does not fill the slot: it is asked for, although every branch of the
condition that fills it still does.
-/

namespace ChartConfig

open Text

/-! ## Branches with lines put in -/

theorem eraseDups_map {α β : Type} [BEq α] [LawfulBEq α] [BEq β] [LawfulBEq β] {f : α → β}
    (injective : Function.Injective f) (xs : List α) : (xs.map f).eraseDups = xs.eraseDups.map f := by
  induction xs using List.reverseRecOn with
  | nil => rfl
  | append_singleton xs x inductionHypothesis =>
    rw [List.map_append, List.map_singleton, eraseDups_concat, eraseDups_concat, inductionHypothesis]
    by_cases there : x ∈ xs.eraseDups
    · rw [if_pos there, if_pos (List.mem_map_of_mem there)]
    · rw [if_neg there, if_neg ((List.mem_map_of_injective injective).not.mpr there), List.map_append,
        List.map_singleton]

namespace Entry

variable {ρ : Nat → Nat} {slot : Slot}

/-- The branches in which the assignments declare settings fill the slot: there is one, each declares a setting of the
    slot, and they are balanced. -/
def branchesFill (es : List Entry) (slot : Slot) : Bool :=
  !(branches es).isEmpty && (branches es).all (fun b => es.any fun e => e.branch == some b && e.supplies slot) &&
    Branch.balanced (branches es)

theorem keptIn?_renumber (e : Entry) : (e.renumber ρ).keptIn? = e.keptIn?.map (Branch.renumber ρ) := by
  have sameKept : (e.renumber ρ).kept? = e.kept? := rfl
  rw [keptIn?, keptIn?, sameKept]
  cases e.kept? <;> rfl

theorem branches_renumber (injective : Function.Injective ρ) (es : List Entry) :
    branches (es.map (renumber ρ)) = (branches es).map (Branch.renumber ρ) := by
  rw [branches, branches, ← eraseDups_map (Branch.renumber_injective injective), List.filterMap_map,
    List.map_filterMap]
  congr 2
  funext e
  exact e.keptIn?_renumber

/-- Assignments of other branches that declare nothing of the slot. -/
structure Unrelated (ρ : Nat → Nat) (slot : Slot) (more : List Entry) : Prop where
  supplies : ∀ e ∈ more, e.supplies slot = false
  apart : ∀ e ∈ more, ∀ b, e.branch = some b → ∀ other : Branch, b ≠ other.renumber ρ

variable {es later more : List Entry}

theorem supplies_insert (unrelated : Unrelated ρ slot more) :
    (es.map (renumber ρ) ++ (more ++ later.map (renumber ρ))).any (fun e => e.branch.isNone && e.supplies slot) =
      (es ++ later).any fun e => e.branch.isNone && e.supplies slot := by
  have nothing : (more.any fun e => e.branch.isNone && e.supplies slot) = false := by
    rw [List.any_eq_false]
    intro e member
    simp [unrelated.supplies e member]
  have same : (fun e : Entry => e.branch.isNone && e.supplies slot) ∘ renumber ρ =
      fun e => e.branch.isNone && e.supplies slot := by
    funext e
    simp only [Function.comp_apply, renumber, Option.isNone_map]
    rfl
  simp only [List.any_append, List.any_map, same, nothing, Bool.false_or]

theorem suppliesIn_insert (injective : Function.Injective ρ) (unrelated : Unrelated ρ slot more) (b : Branch) :
    (es.map (renumber ρ) ++ (more ++ later.map (renumber ρ))).any
        (fun e => e.branch == some (b.renumber ρ) && e.supplies slot) =
      (es ++ later).any fun e => e.branch == some b && e.supplies slot := by
  have nothing : (more.any fun e => e.branch == some (b.renumber ρ) && e.supplies slot) = false := by
    rw [List.any_eq_false]
    intro e member
    simp [unrelated.supplies e member]
  have same : (fun e : Entry => e.branch == some (b.renumber ρ) && e.supplies slot) ∘ renumber ρ =
      fun e => e.branch == some b && e.supplies slot := by
    funext e
    have sameBranch : (e.branch.map (Branch.renumber ρ) == some (b.renumber ρ)) = (e.branch == some b) := by
      rw [Bool.eq_iff_iff, beq_iff_eq, beq_iff_eq, ← Option.map_some (f := Branch.renumber ρ),
        (Option.map_injective (Branch.renumber_injective injective)).eq_iff]
    simp only [Function.comp_apply, renumber, sameBranch]
    rfl
  simp only [List.any_append, List.any_map, same, nothing, Bool.false_or]

theorem branches_eq_nil : branches es = [] ↔ es.filterMap keptIn? = [] := by
  simp only [branches, List.eq_nil_iff_forall_not_mem, List.mem_eraseDups]

theorem balanced_renumber (bs : List Branch) : Branch.balanced (bs.map (Branch.renumber ρ)) = Branch.balanced bs := by
  simp only [Branch.balanced, List.countP_map]
  rfl

/-- What the branches fill is filled with unrelated assignments put in exactly if none of these is made in a branch. -/
theorem branchesFill_insert (injective : Function.Injective ρ) (unrelated : Unrelated ρ slot more) :
    branchesFill (es.map (renumber ρ) ++ (more ++ later.map (renumber ρ))) slot =
      ((branches more).isEmpty && branchesFill (es ++ later) slot) := by
  cases silent : (branches more).isEmpty with
  | true =>
    have nothing : more.filterMap keptIn? = [] := branches_eq_nil.mp (List.isEmpty_iff.mp silent)
    have same : branches (es.map (renumber ρ) ++ (more ++ later.map (renumber ρ))) =
        (branches (es ++ later)).map (Branch.renumber ρ) := by
      rw [← branches_renumber injective, branches, branches, List.map_append]
      simp only [List.filterMap_append, nothing, List.nil_append]
    rw [branchesFill, branchesFill, same, balanced_renumber, List.isEmpty_map, List.all_map, Bool.true_and]
    simp only [Function.comp_def, suppliesIn_insert injective unrelated]
  | false =>
    -- A branch that is put in declares nothing of the slot, and no other assignment is made in it.
    obtain ⟨b, others, isFirst⟩ := List.exists_cons_of_ne_nil (List.isEmpty_eq_false_iff.mp silent)
    have isBranch : b ∈ branches more := isFirst ▸ List.mem_cons_self ..
    rw [branches, List.mem_eraseDups] at isBranch
    obtain ⟨e, member, kept⟩ := List.mem_filterMap.mp isBranch
    obtain ⟨-, -, under⟩ := Option.bind_eq_some_iff.mp kept
    have present : b ∈ branches (es.map (renumber ρ) ++ (more ++ later.map (renumber ρ))) := by
      rw [branches, List.mem_eraseDups, List.filterMap_append, List.filterMap_append]
      exact List.mem_append_right _ (List.mem_append_left _ isBranch)
    have outside (xs : List Entry) : ∀ f ∈ xs.map (renumber ρ), f.branch ≠ some b := by
      intro f isThere inBranch
      obtain ⟨x, -, rfl⟩ := List.mem_map.mp isThere
      obtain ⟨other, -, isSame⟩ := Option.map_eq_some_iff.mp inBranch
      exact unrelated.apart e member b under other isSame.symm
    have unsupplied : ((es.map (renumber ρ) ++ (more ++ later.map (renumber ρ))).any
        fun e => e.branch == some b && e.supplies slot) = false := by
      rw [List.any_eq_false]
      intro f isThere
      rcases List.mem_append.mp isThere with isEarlier | isThere
      · simp [outside es f isEarlier]
      · rcases List.mem_append.mp isThere with isPutIn | isLater
        · simp [unrelated.supplies f isPutIn]
        · simp [outside later f isLater]
    have lacking : ((branches (es.map (renumber ρ) ++ (more ++ later.map (renumber ρ)))).all fun b =>
        (es.map (renumber ρ) ++ (more ++ later.map (renumber ρ))).any
          fun e => e.branch == some b && e.supplies slot) = false :=
      List.all_eq_false.mpr ⟨b, present, by simp [unsupplied]⟩
    rw [branchesFill, lacking, Bool.and_false, Bool.false_and, Bool.false_and]

end Entry

/-! ## Sections with lines put in -/

/-- Lines that can be put into a section and declare nothing of the slot. Alone they leave no block open and hold no
    header, and they assign no setting of the slot and none of the two columns that can waive a metric. -/
structure Addition (r : Registry) (slot : Slot) (lines : List (List Char)) : Prop where
  closed : (Control.afterLines {} 0 lines).blocks = []
  unheaded : ∀ x ∈ Control.readings {} 0 lines, x.isHeader = false
  unrelated : ∀ e ∈ (Control.eventsFrom {} r 0 lines).filterMap Event.entry?,
    e.name ≠ "columnmetric" ∧ e.name ≠ "columnvalue" ∧ ∀ s ∈ e.setting, s.name ∉ slot

namespace Addition

/-- The assignments that the lines make alone, in a section with the given header. -/
def entries (r : Registry) (h : Header) (lines : List (List Char)) : List Entry :=
  (Passage.mk h (Control.eventsFrom {} r 0 lines)).entries

theorem unrelated_of_mem {r : Registry} {slot : Slot} {lines : List (List Char)} (addition : Addition r slot lines)
    {h : Header} {e : Entry} (member : e ∈ entries r h lines) :
    e.name ≠ "columnmetric" ∧ e.name ≠ "columnvalue" ∧ ∀ s ∈ e.setting, s.name ∉ slot := by
  unfold entries Passage.entries at member
  split at member
  · cases member
  · exact addition.unrelated e member

end Addition

namespace Control

variable {c : Control} {number : Nat} {line : List Char} {following : List (List Char)}

theorem line_branch?_next {b : Branch} (inForce : (c.next number line following).branch? = some b) :
    b.line = number ∨ c.branch? = some b := by
  unfold next at inForce
  split at inForce
  · cases isFound : Line.keywordAt? line number with
    | none =>
      simp only [isFound] at inForce
      exact .inr inForce
    | some found =>
      simp only [isFound, branch?_onKeyword] at inForce
      split at inForce
      · next inside =>
        split at inForce
        · cases inForce
          exact .inl (Line.line_keywordAt? isFound)
        · next stays =>
          have notIf : found.keyword ≠ .ifBlock := by
            intro isIf
            simp [isIf, Keyword.startsBranch] at stays
          refine .inr ?_
          rw [branch?, if_pos (Blocks.isIn_of_afterKeyword inside notIf)]
          exact inForce
      · cases inForce
  · exact .inr inForce

theorem line_branch?_of_mem_readings {lines : List (List Char)} {x : Reading}
    (above : ∀ b, c.branch? = some b → b.line < number) (member : x ∈ c.readings number lines) :
    x.number < number + lines.length ∧ ∀ b, x.control.branch? = some b → b.line < x.number := by
  induction lines generalizing c number with
  | nil => cases member
  | cons line following inductionHypothesis =>
    have onward : ∀ b, (c.next number line following).branch? = some b → b.line < number + 1 := by
      intro b inForce
      rcases line_branch?_next inForce with here | before
      · omega
      · exact Nat.lt_succ_of_lt (above b before)
    have later (isLater : x ∈ (c.next number line following).readings (number + 1) following) :
        x.number < number + (line :: following).length ∧ ∀ b, x.control.branch? = some b → b.line < x.number := by
      obtain ⟨bound, begun⟩ := inductionHypothesis onward isLater
      rw [List.length_cons]
      exact ⟨by omega, begun⟩
    simp only [readings] at member
    split at member
    · rcases List.mem_cons.mp member with rfl | isLater
      · exact ⟨by simp, above⟩
      · exact later isLater
    · exact later member

end Control

namespace Passage

variable {r : Registry} {l : Ledger} {ρ σ : Nat → Nat} {h : Header} {own more later : List Event} {slot : Slot}

theorem entries_renumber (h : Header) (es : List Event) :
    (Passage.mk h (es.map (Event.renumber ρ))).entries = (Passage.mk h es).entries.map (Entry.renumber ρ) := by
  unfold entries holdsTags
  split
  · rfl
  · rw [List.filterMap_map, List.map_filterMap]
    congr 1
    funext e
    cases e <;> rfl

theorem value_ended {p : Passage} (inner : ∀ e ∈ p.body, e.isInner = true) (name : String) :
    tableValue? (p.ended r l).values name =
      (Entry.lastValue? name p.entries).or (tableValue? ((l.close r).enter r p.header).values name) := by
  rw [tableValue?, (ended_holds inner).2, List.find?_append, ← List.map_reverse, List.find?_map, Entry.lastValue?,
    tableValue?, Option.map_or, Option.map_map]
  rfl

theorem spared_congr (p q : Passage) (sameHeader : q.header = p.header) (inner : ∀ e ∈ p.body, e.isInner = true)
    (innerToo : ∀ e ∈ q.body, e.isInner = true)
    (metric : Entry.lastValue? "columnmetric" q.entries = Entry.lastValue? "columnmetric" p.entries)
    (value : Entry.lastValue? "columnvalue" q.entries = Entry.lastValue? "columnvalue" p.entries) (slot : Slot) :
    q.spared r l slot = p.spared r l slot := by
  have waived : (q.ended r l).waived = (p.ended r l).waived := by
    rw [Ledger.waived, Ledger.waived, value_ended innerToo, value_ended innerToo, value_ended inner,
      value_ended inner, metric, value, sameHeader]
  have inherited : (q.ended r l).scope.inherited = (p.ended r l).scope.inherited := by
    rw [(ended_within innerToo).2.inherited, (ended_within inner).2.inherited, sameHeader]
  rw [spared, spared, waived, inherited, sameHeader]

end Passage

namespace Entry

theorem lastValue?_append (name : String) (es more : List Entry) :
    lastValue? name (es ++ more) = (lastValue? name more).or (lastValue? name es) := by
  rw [lastValue?, List.reverse_append, List.find?_append, Option.map_or]
  rfl

theorem lastValue?_renumber (name : String) (ρ : Nat → Nat) (es : List Entry) :
    lastValue? name (es.map (renumber ρ)) = lastValue? name es := by
  rw [lastValue?, ← List.map_reverse, List.find?_map, Option.map_map]
  rfl

theorem lastValue?_eq_none {name : String} {es : List Entry} (others : ∀ e ∈ es, e.name ≠ name) :
    lastValue? name es = none := by
  rw [lastValue?, Option.map_eq_none_iff, List.find?_eq_none]
  intro e member
  simpa using others e (List.mem_reverse.mp member)

end Entry

namespace Passage

variable {r : Registry} {l : Ledger} {h : Header} {own later : List Event} {slot : Slot} {position : Nat}
  {lines : List (List Char)}

def insert (r : Registry) (h : Header) (own : List Event) (position : Nat) (lines : List (List Char))
    (later : List Event) : Passage :=
  ⟨h, own ++ ((Control.eventsFrom {} r 0 lines).map (Event.renumber (position + ·)) ++
    later.map (Event.renumber (movedBelow position lines.length)))⟩

theorem entries_insert (numbered : ∀ e ∈ own, e.renumber (movedBelow position lines.length) = e) :
    (insert r h own position lines later).entries =
      (Passage.mk h own).entries.map (Entry.renumber (movedBelow position lines.length)) ++
        ((Addition.entries r h lines).map (Entry.renumber (position + ·)) ++
          (Passage.mk h later).entries.map (Entry.renumber (movedBelow position lines.length))) := by
  have same : own.map (Event.renumber (movedBelow position lines.length)) = own := by
    rw [List.map_congr_left numbered, List.map_id']
  rw [← entries_renumber h own, same, insert, entries_append, entries_append, entries_renumber, entries_renumber]
  rfl

theorem unrelated_of_addition (addition : Addition r slot lines) (h : Header) (position : Nat) :
    Entry.Unrelated (movedBelow position lines.length) slot
      ((Addition.entries r h lines).map (Entry.renumber (position + ·))) := by
  constructor
  · intro e member
    obtain ⟨f, isThere, rfl⟩ := List.mem_map.mp member
    obtain ⟨-, -, outside⟩ := addition.unrelated_of_mem isThere
    rw [Entry.supplies, Option.any_eq_false]
    intro s kept
    obtain ⟨isSetting, -⟩ := Option.filter_eq_some_iff.mp kept
    simpa using outside s isSetting
  · intro e member b inBranch other same
    obtain ⟨f, isThere, rfl⟩ := List.mem_map.mp member
    obtain ⟨x, isLine, said⟩ := Reading.exists_of_mem_entries isThere
    obtain ⟨begun, inForce, rfl⟩ := Option.map_eq_some_iff.mp inBranch
    rw [(Reading.event?_entry said).1] at inForce
    obtain ⟨bound, above⟩ := Control.line_branch?_of_mem_readings (by intro b none; cases none) isLine
    have within : begun.line < lines.length := by
      have := above begun inForce
      omega
    exact movedBelow_ne within other.line (congrArg Branch.line same).symm

theorem unfilled_insert (addition : Addition r slot lines) (inner : ∀ e ∈ own ++ later, e.isInner = true)
    (innerToo : ∀ e ∈ (insert r h own position lines later).body, e.isInner = true)
    (numbered : ∀ e ∈ own, e.renumber (movedBelow position lines.length) = e) :
    (insert r h own position lines later).unfilled r l slot =
      ((Passage.mk h (own ++ later)).unfilled r l slot ||
        (!(Passage.mk h (own ++ later)).spared r l slot && !(Passage.mk h (own ++ later)).supplies slot &&
          !(Entry.branches (Addition.entries r h lines)).isEmpty)) := by
  have entries := @entries_insert r h own later position lines numbered
  have unrelated := unrelated_of_addition addition h position
  have injective := movedBelow_injective position lines.length
  have value (name : String) (others : ∀ e ∈ Addition.entries r h lines, e.name ≠ name) :
      Entry.lastValue? name (insert r h own position lines later).entries =
        Entry.lastValue? name (Passage.mk h (own ++ later)).entries := by
    rw [entries, entries_append]
    simp only [Entry.lastValue?_append, Entry.lastValue?_renumber, Entry.lastValue?_eq_none others, Option.or_none]
  have spared : (insert r h own position lines later).spared r l slot =
      (Passage.mk h (own ++ later)).spared r l slot :=
    spared_congr (.mk h (own ++ later)) (insert r h own position lines later) rfl inner innerToo
      (value _ fun e member => (addition.unrelated_of_mem member).1)
      (value _ fun e member => (addition.unrelated_of_mem member).2.1) slot
  have supplies : (insert r h own position lines later).supplies slot =
      (Passage.mk h (own ++ later)).supplies slot := by
    rw [Passage.supplies, Passage.supplies, entries, entries_append]
    exact Entry.supplies_insert unrelated
  have filled : Entry.branchesFill (insert r h own position lines later).entries slot =
      ((Entry.branches (Addition.entries r h lines)).isEmpty &&
        Entry.branchesFill (Passage.mk h (own ++ later)).entries slot) := by
    rw [entries, entries_append, Entry.branchesFill_insert injective unrelated,
      Entry.branches_renumber (fun m n same => Nat.add_left_cancel same), List.isEmpty_map]
  have unfilled (p : Passage) : p.unfilled r l slot =
      (!p.spared r l slot && !p.supplies slot && !Entry.branchesFill p.entries slot) := rfl
  rw [unfilled, unfilled, spared, supplies, filled]
  generalize (Passage.mk h (own ++ later)).spared r l slot = isSpared,
    (Passage.mk h (own ++ later)).supplies slot = isSupplied,
    (Entry.branches (Addition.entries r h lines)).isEmpty = noBranch,
    Entry.branchesFill (Passage.mk h (own ++ later)).entries slot = isFilled
  cases isSpared <;> cases isSupplied <;> cases noBranch <;> cases isFilled <;> rfl

end Passage

/-! ## Documents with lines put in -/

theorem Event.isInner_renumber (ρ : Nat → Nat) (e : Event) : (e.renumber ρ).isInner = e.isInner := by
  cases e <;> rfl

theorem Passage.insert_eq {r : Registry} {slot : Slot} {lines : List (List Char)} (addition : Addition r slot lines)
    (h : Header) {own : List Event} (inner : ∀ e ∈ own, e.isInner = true) (position : Nat) (more : List Event) :
    Passage.mk h ((own ++ ((Control.eventsFrom {} r 0 lines).map (Event.renumber (position + ·)) ++
        more.map (Event.renumber (movedBelow position lines.length)))).takeWhile Event.isInner) =
      insert r h own position lines (more.takeWhile Event.isInner) := by
  have putIn : ∀ e ∈ (Control.eventsFrom {} r 0 lines).map (Event.renumber (position + ·)), e.isInner = true := by
    intro e member
    obtain ⟨alone, isThere, rfl⟩ := List.mem_map.mp member
    rw [Event.isInner_renumber]
    exact Reading.inner_of_unheaded addition.unheaded alone isThere
  have same : Event.isInner ∘ Event.renumber (movedBelow position lines.length) = Event.isInner :=
    funext (Event.isInner_renumber _)
  rw [List.takeWhile_append_of_pos inner, List.takeWhile_append_of_pos putIn, List.takeWhile_map, same]
  rfl

/-- Put lines that declare nothing of a slot into the section of the last header above, at a point where no block is
    open. Nothing changes about the sections above it. The slot is asked for exactly if it was before, or if neither
    the section declares it outside conditions nor anything spares it, and the lines declare a setting in a branch: so
    a slot that nothing but branches fill is asked for as soon as such a condition is added. -/
theorem slots_after_addition (r : Registry) (text longer : String) (above inserted below : List (List Char))
    (slot : Slot) (original : Document.analysed text = above ++ below)
    (extended : Document.analysed longer = above ++ (inserted ++ below)) (addition : Addition r slot inserted)
    (nothingOpen : (Control.afterFirst {} 0 above.length (above ++ below)).blocks = []) :
    ∃ found found', validate text r = .ok found ∧ validate longer r = .ok found' ∧
      ∀ earlier x own h, Control.firstReadings {} 0 above.length (above ++ below) = earlier ++ x :: own →
        Line.header? x.line x.number = some h → (∀ y ∈ own, y.isHeader = false) →
        ∃ before p later p' later', Document.passages r text = before ++ p :: later ∧
          Document.passages r longer = before ++ p' :: later' ∧ p.header = h ∧ p'.header = h ∧
          (∀ q ∈ before, Diagnostic.demandsAt q.header.range found' = Diagnostic.demandsAt q.header.range found) ∧
          let l := Document.ledgerAfter r earlier
          Diagnostic.demandsAt h.range found = r.demandsFor h.range ((p.slots r).filter (p.unfilled r l)) ∧
          Diagnostic.demandsAt h.range found' = r.demandsFor h.range ((p'.slots r).filter (p'.unfilled r l)) ∧
          p'.unfilled r l slot = (p.unfilled r l slot || (!p.spared r l slot && !p.supplies slot &&
            !(Entry.branches (Addition.entries r h inserted)).isEmpty)) := by
  obtain ⟨found, ran, demands⟩ := validate_unfilled r text
  obtain ⟨found', ran', demands'⟩ := validate_unfilled r longer
  refine ⟨found, found', ran, ran', ?_⟩
  intro earlier x own h split headed unheaded
  obtain ⟨events, numbered, events'⟩ := Control.events_insert (r := r) nothingOpen addition.closed
  -- The events above are those before the header, the header, and those of its section so far.
  rw [split, List.filterMap_append, List.filterMap_cons, Reading.event?_of_header headed] at events numbered events'
  generalize (Control.afterFirst {} 0 above.length (above ++ below)).eventsFrom r above.length below = more
    at events events'
  simp only [List.append_assoc, List.cons_append] at events events'
  rw [← original] at events
  rw [← extended] at events'
  obtain ⟨passages, preamble, ledger⟩ := Document.passages_of_events events
  obtain ⟨passages', preamble', ledger'⟩ := Document.passages_of_events events'
  have inner : ∀ e ∈ own.filterMap (Reading.event? r), e.isInner = true := Reading.inner_of_unheaded unheaded
  rw [List.takeWhile_append_of_pos inner] at passages
  rw [Passage.insert_eq addition h inner] at passages'
  refine ⟨_, _, _, _, _, passages, passages', rfl, rfl, ?_, ?_, ?_, ?_⟩
  · intro q member
    obtain ⟨first, others, isThere⟩ := List.append_of_mem member
    rw [isThere, List.append_assoc, List.cons_append] at passages passages'
    rw [demands' first q _ passages', demands first q _ passages, preamble, preamble']
  · have exactly := demands _ _ _ passages
    rw [ledger] at exactly
    exact exactly
  · have exactly := demands' _ _ _ passages'
    rw [ledger'] at exactly
    exact exactly
  · exact Passage.unfilled_insert addition (Document.inner_of_passages passages) (Document.inner_of_passages passages')
      fun e member => numbered e (List.mem_append_right _ (List.mem_cons_of_mem _ member))

/-- A widget with its type in both branches of a condition, another condition that may be added to it, and a line below
    that. -/
def branchedLines : List String :=
  ["[widget]", "if a == b", "type = chart", "else", "type = bar", "endif"]

def addedLines : List String :=
  ["if a == c", "entity = x", "endif"]

def belowLines : List String :=
  ["metric = m"]

theorem slots_after_addition_widget :
    let text := "\n".intercalate (branchedLines ++ belowLines)
    let longer := "\n".intercalate (branchedLines ++ addedLines ++ belowLines)
    Document.analysed text = branchedLines.map String.toList ++ belowLines.map String.toList ∧
      Document.analysed longer = branchedLines.map String.toList ++
        (addedLines.map String.toList ++ belowLines.map String.toList) ∧
      Addition chartRegistry ["type"] (addedLines.map String.toList) ∧
      (Control.afterFirst {} 0 (branchedLines.map String.toList).length
        (branchedLines.map String.toList ++ belowLines.map String.toList)).blocks = [] ∧
      ∃ found found', validate text chartRegistry = .ok found ∧ validate longer chartRegistry = .ok found' ∧
        Diagnostic.demandsAt ⟨⟨0, 1⟩, ⟨0, 7⟩⟩ found = [] ∧
        Diagnostic.demandsAt ⟨⟨0, 1⟩, ⟨0, 7⟩⟩ found' = [.error ⟨⟨0, 1⟩, ⟨0, 7⟩⟩ "type is required"] := by
  intro text longer
  have original : Document.analysed text = branchedLines.map String.toList ++ belowLines.map String.toList := by
    decide +kernel
  have extended : Document.analysed longer = branchedLines.map String.toList ++
      (addedLines.map String.toList ++ belowLines.map String.toList) := by
    decide +kernel
  have addition : Addition chartRegistry ["type"] (addedLines.map String.toList) :=
    ⟨by decide +kernel, by decide +kernel, by decide +kernel⟩
  have nothingOpen : (Control.afterFirst {} 0 (branchedLines.map String.toList).length
      (branchedLines.map String.toList ++ belowLines.map String.toList)).blocks = [] := by
    decide +kernel
  refine ⟨original, extended, addition, nothingOpen, ?_⟩
  obtain ⟨found, found', ran, ran', sections⟩ :=
    slots_after_addition chartRegistry text longer _ _ _ ["type"] original extended addition nothingOpen
  have readings : Control.firstReadings {} 0 (branchedLines.map String.toList).length
      (branchedLines.map String.toList ++ belowLines.map String.toList) =
        [] ++ ⟨{}, 0, "[widget]".toList⟩ :: (Control.firstReadings {} 0 (branchedLines.map String.toList).length
          (branchedLines.map String.toList ++ belowLines.map String.toList)).tail := by
    decide +kernel
  obtain ⟨before, p, later, p', later', passages, passages', -, -, -, demands, demands', -⟩ :=
    sections [] _ _ ⟨"widget", ⟨⟨0, 1⟩, ⟨0, 7⟩⟩⟩ readings (by decide +kernel) (by decide +kernel)
  have only {passages before later : List Passage} {p : Passage} (split : passages = before ++ p :: later)
      (one : passages.length = 1) : passages = [p] := by
    obtain ⟨q, isOnly⟩ := List.length_eq_one_iff.mp one
    have member : p ∈ passages := by simp [split]
    rw [isOnly, List.mem_singleton] at member
    rw [isOnly, member]
  have silent : (Document.passages chartRegistry text).flatMap (fun p => chartRegistry.demandsFor ⟨⟨0, 1⟩, ⟨0, 7⟩⟩
      ((p.slots chartRegistry).filter (p.unfilled chartRegistry (Document.ledgerAfter chartRegistry [])))) = [] := by
    decide +kernel
  have asked : (Document.passages chartRegistry longer).flatMap (fun p => chartRegistry.demandsFor ⟨⟨0, 1⟩, ⟨0, 7⟩⟩
      ((p.slots chartRegistry).filter (p.unfilled chartRegistry (Document.ledgerAfter chartRegistry [])))) =
        [.error ⟨⟨0, 1⟩, ⟨0, 7⟩⟩ "type is required"] := by
    decide +kernel
  rw [only passages (by decide +kernel), List.flatMap_singleton] at silent
  rw [only passages' (by decide +kernel), List.flatMap_singleton] at asked
  exact ⟨found, found', ran, ran', demands.trans silent, demands'.trans asked⟩

end ChartConfig
