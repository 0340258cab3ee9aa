import ChartConfig.Proofs.Registry.Ancestors
import ChartConfig.Proofs.Validation.History

/-!
# Required settings without conditions

In a document without conditions a slot of a section is filled by the section itself or by the section in
reach of some ancestor, or the metric is waived. Each slot for which none of this holds, and no other, is
asked for at the header, in order.
-/

namespace ChartConfig

open Text

/-- No slot, and neither a table nor an attribute, names a setting that may be repeated. -/
def Registry.PlainSlots (r : Registry) : Prop :=
  ∀ s ∈ r.all, s.multiLine = true →
    s.name ≠ "table" ∧ s.name ≠ "attribute" ∧ ∀ name, ∀ slot ∈ r.slotsOf name, s.name ∉ slot

namespace Passage

def declares (p : Passage) (slot : Slot) : Bool :=
  p.entries.any fun e => e.setting.any fun s => slot.contains s.name

def slots (r : Registry) (p : Passage) : List Slot :=
  r.slotsOf p.header.name ++ (p.entries.filterMap (Entry.counterpart? r)).eraseDups

/-- The slot is filled by the section itself or by a section in reach that may enclose it, or it is one that
    the metric leads and the metric is waived. -/
def satisfied (r : Registry) (preamble : List Entry) (earlier : List Passage) (p : Passage) (slot : Slot) :
    Bool :=
  p.declares slot ||
    (r.ancestors p.header.name).any (fun name => (inReach? r name earlier).any (·.declares slot)) ||
    (Entry.waiveMetric (assigned preamble (p :: earlier)) && slot.head? == some "metric")

end Passage

/-! ## Documents without conditions -/

theorem Control.isIn_if_of_mem_readings {c : Control} {number : Nat} {lines : List (List Char)} {x : Reading}
    (outside : c.blocks.isIn .ifBlock = false)
    (unconditional : ∀ y ∈ c.readings number lines, Line.keyword? y.line ≠ some .ifBlock)
    (member : x ∈ c.readings number lines) : x.control.blocks.isIn .ifBlock = false := by
  induction lines generalizing c number with
  | nil => cases member
  | cons line following inductionHypothesis =>
    simp only [readings] at member unconditional
    cases isRead : c.reads line with
    | false =>
      have unchanged : c.next number line following = c := by simp [next, isRead]
      simp only [isRead, unchanged, Bool.false_eq_true, if_false] at member unconditional
      exact inductionHypothesis outside unconditional member
    | true =>
      simp only [isRead, if_true] at member unconditional
      have here := unconditional _ (List.mem_cons_self ..)
      have stillOutside : (c.next number line following).blocks.isIn .ifBlock = false := by
        simp only [next, isRead, if_true]
        split
        · next found isKeyword =>
          rw [Bool.eq_false_iff]
          intro conditional
          have other : found.keyword ≠ .ifBlock := by
            intro isIf
            exact here (isIf ▸ Line.keyword?_eq isKeyword)
          simp [Blocks.isIn_of_afterKeyword conditional other] at outside
        · exact outside
      rcases List.mem_cons.mp member with rfl | later
      · exact outside
      · exact inductionHypothesis stillOutside
          (fun y isLater => unconditional y (List.mem_cons_of_mem _ isLater)) later

theorem Document.reading_of_entry {r : Registry} {text : String} {p : Passage}
    (isPassage : p ∈ Document.passages r text) {e : Entry} (member : e ∈ p.entries) :
    ∃ x ∈ Document.readings text, x.event? r = some (.entry e) := by
  have inBody : Event.entry e ∈ p.body := by
    unfold Passage.entries at member
    split at member
    · cases member
    · obtain ⟨event, isThere, isEntry⟩ := List.mem_filterMap.mp member
      cases event with
      | header h | blank => cases isEntry
      | entry other => exact Option.some.inj isEntry ▸ isThere
  have isEvent : Event.entry e ∈ Document.events r text := by
    rw [← Event.preamble_append_passages (Document.events r text)]
    refine List.mem_append_right _ (List.mem_flatMap.mpr ⟨p, isPassage, ?_⟩)
    exact List.mem_cons_of_mem _ inBody
  exact List.mem_filterMap.mp isEvent

/-! ## The slots of a section -/

theorem Registry.counterpart?_eq_some {r : Registry} {s : Setting} {slot : Slot}
    (asked : r.counterpart? s = some slot) : slot = ["attribute"] ∨ slot = ["table"] := by
  unfold counterpart? at asked
  split at asked
  · obtain ⟨-, -, rfl⟩ := Option.map_eq_some_iff.mp asked
    exact .inl rfl
  · split at asked
    · obtain ⟨-, -, rfl⟩ := Option.map_eq_some_iff.mp asked
      exact .inr rfl
    · cases asked

theorem Registry.PlainSlots.not_mem {r : Registry} (plain : r.PlainSlots) {p : Passage} {slot : Slot}
    (isSlot : slot ∈ p.slots r) {s : Setting} (known : s ∈ r.all) (repeatable : s.multiLine = true) :
    s.name ∉ slot := by
  obtain ⟨notTable, notAttribute, notInSlot⟩ := plain s known repeatable
  rcases List.mem_append.mp isSlot with required | given
  · exact notInSlot _ slot required
  · rw [List.mem_eraseDups] at given
    obtain ⟨e, -, asked⟩ := List.mem_filterMap.mp given
    obtain ⟨setting, -, asked⟩ := Option.bind_eq_some_iff.mp asked
    rcases Registry.counterpart?_eq_some asked with rfl | rfl
    · simpa using notAttribute
    · simpa using notTable

namespace Passage

variable {r : Registry} {p : Passage} {slot : Slot}

theorem supplies_eq_declares (free : ∀ e ∈ p.entries, e.branch = none)
    (plain : ∀ e ∈ p.entries, ∀ s, e.setting = some s → s.multiLine = true → s.name ∉ slot) :
    p.supplies slot = p.declares slot := by
  unfold supplies declares
  rw [Bool.eq_iff_iff, List.any_eq_true, List.any_eq_true]
  refine exists_congr fun e => and_congr_right fun member => ?_
  rw [free e member, Entry.supplies, Entry.kept?]
  cases isSetting : e.setting with
  | none => rfl
  | some s =>
    cases repeatable : s.multiLine with
    | false => simp [repeatable]
    | true => simpa [repeatable] using plain e member s isSetting repeatable

theorem mem_of_inReach? {name : String} {earlier : List Passage} (found : inReach? r name earlier = some p) :
    p ∈ earlier := by
  induction earlier with
  | nil => cases found
  | cons q earlier inductionHypothesis =>
    unfold inReach? at found
    split at found
    · exact Option.some.inj found ▸ List.mem_cons_self ..
    · split at found
      · cases found
      · exact List.mem_cons_of_mem _ (inductionHypothesis found)

end Passage

namespace Ledger

variable {r : Registry} {l : Ledger} {preamble : List Entry} {earlier : List Passage} {p : Passage} {slot : Slot}

theorem Follows.satisfies_ended (follows : l.Follows r preamble earlier) (acyclic : r.Acyclic)
    (inner : ∀ e ∈ p.body, e.isInner = true) (free : ∀ e ∈ p.entries, e.branch = none)
    (plain : ∀ q ∈ p :: earlier, q.supplies slot = q.declares slot) :
    (p.ended r l).scope.satisfies (p.ended r l).waived (r.ancestors p.header.name) slot =
      p.satisfied r preamble earlier slot := by
  obtain ⟨holds, -⟩ := @Passage.ended_holds r l p inner
  obtain ⟨-, same⟩ := @Passage.ended_within r l p inner
  have waived : (p.ended r l).waived = Entry.waiveMetric (Passage.assigned preamble (p :: earlier)) :=
    waived_eq (follows.ended inner).values
  have own : Scope.fills (p.ended r l).scope.settings slot = p.declares slot :=
    (holds.fills slot).trans (plain p (List.mem_cons_self ..))
  -- Entering the section drops what it may enclose; by acyclicity no ancestor is among that.
  have enclosing : ∀ name ∈ r.ancestors p.header.name,
      Scope.fills ((tableValue? (p.ended r l).scope.inherited name).getD []) slot =
        (Passage.inReach? r name earlier).any (·.declares slot) := by
    intro name above
    obtain ⟨other, notBelow⟩ := acyclic.not_mem_ancestors above
    rw [same.inherited, entered_inherited, if_neg (by simp [Ne.symm other, notBelow]), follows.reach]
    cases found : Passage.inReach? r name earlier with
    | none => rfl
    | some q => exact plain q (List.mem_cons_of_mem _ (Passage.mem_of_inReach? found))
  -- No condition is open anywhere, so no branch declares anything.
  have noBranches : (p.ended r l).scope.branches = [] := by
    apply List.map_eq_nil_iff.mp
    rw [holds.branches]
    have unconditional : p.entries.filterMap Entry.keptIn? = [] := by
      rw [List.filterMap_eq_nil_iff]
      intro e member
      simp [Entry.keptIn?, free e member]
    rw [unconditional]
    rfl
  have branches : (p.ended r l).scope.branchesFill slot = false := by simp [Scope.branchesFill, noBranches]
  have ancestors : (r.ancestors p.header.name).any
        (fun name => Scope.fills ((tableValue? (p.ended r l).scope.inherited name).getD []) slot) =
      (r.ancestors p.header.name).any fun name => (Passage.inReach? r name earlier).any (·.declares slot) := by
    rw [Bool.eq_iff_iff, List.any_eq_true, List.any_eq_true]
    exact exists_congr fun name => and_congr_right fun above => by rw [enclosing name above]
  rw [Scope.satisfies, own, ancestors, branches, waived, Passage.satisfied, Bool.or_false, Bool.or_assoc,
    Bool.or_comm]

end Ledger

/-! ## Exactly the missing slots -/

/-- Every header that is read has its passage. Without conditions, and if no blank line ends the tags of a
    section, the demands on a header are one for each slot that is not satisfied, in order. -/
theorem required_settings_exact (r : Registry) (text : String) (acyclic : r.Acyclic) (plain : r.PlainSlots)
    (unconditional : ∀ x ∈ Document.readings text, Line.keyword? x.line ≠ some .ifBlock)
    (unended : ∀ p ∈ Document.passages r text, p.header.name = "tags" → ∀ e ∈ p.body, e.isBlank = false) :
    (Document.passages r text).map Passage.header =
        (Document.readings text).filterMap (fun x => Line.header? x.line x.number) ∧
      ∃ found, validate text r = .ok found ∧
        ∀ before p after, Document.passages r text = before ++ p :: after →
          Diagnostic.demandsAt p.header.range found =
            r.demandsFor p.header.range ((p.slots r).filter fun slot =>
              !p.satisfied r (Document.preambleEntries r text) before.reverse slot) := by
  obtain ⟨found, ran, demands⟩ := validate_demandsAt r text
  refine ⟨Document.header_passages r text, found, ran, ?_⟩
  intro before p after split
  have isPassage : ∀ q ∈ p :: before.reverse, q ∈ Document.passages r text := by
    intro q member
    rw [split]
    rcases List.mem_cons.mp member with rfl | earlier
    · simp
    · exact List.mem_append_left _ (List.mem_reverse.mp earlier)
  have inner : ∀ q ∈ p :: before.reverse, ∀ e ∈ q.body, e.isInner = true :=
    fun q member e isThere => Event.inner_of_mem_body (isPassage q member) isThere
  have free : ∀ q ∈ p :: before.reverse, ∀ e ∈ q.entries, e.branch = none := by
    intro q member e isThere
    obtain ⟨x, isRead, said⟩ := Document.reading_of_entry (isPassage q member) isThere
    have outside := Control.isIn_if_of_mem_readings rfl unconditional isRead
    rw [(Reading.event?_entry said).1]
    simp [Control.branch?, outside]
  have known : ∀ q ∈ p :: before.reverse, ∀ e ∈ q.entries, ∀ s, e.setting = some s → s ∈ r.all := by
    intro q member e isThere
    obtain ⟨x, -, said⟩ := Document.reading_of_entry (isPassage q member) isThere
    exact (Reading.event?_entry said).2
  -- A shorter own body would need a blank line among tags.
  have whole : ∀ q ∈ before, q.ownBody = q.body := by
    intro q member
    have isEarlier : q ∈ p :: before.reverse := List.mem_cons_of_mem _ (List.mem_reverse.mpr member)
    by_contra shorter
    obtain ⟨tags, rest, body⟩ := Passage.body_of_ownBody_ne shorter
    cases unended q (isPassage q isEarlier) tags .blank (by rw [body]; simp)
  have follows := (Document.preambleLedger_follows r text).afterPassages
    (fun q member => inner q (List.mem_cons_of_mem _ (List.mem_reverse.mpr member))) whole
  rw [List.append_nil] at follows
  obtain ⟨holds, -⟩ := @Passage.ended_holds r ((Document.preambleLedger r text).afterPassages r before) p
    (inner p (List.mem_cons_self ..))
  rw [demands before p after split, holds.extraSlots]
  refine congrArg (r.demandsFor p.header.range) (List.filter_congr ?_)
  intro slot isSlot
  rw [follows.satisfies_ended acyclic (inner p (List.mem_cons_self ..)) (free p (List.mem_cons_self ..))]
  intro q member
  apply Passage.supplies_eq_declares (free q member)
  intro e isThere s isSetting repeatable
  exact plain.not_mem isSlot (known q member e isThere s isSetting) repeatable

/-- A registry of five settings under the built-in rules for sections. -/
def chartRegistry : Registry :=
  .of (["type", "entity", "metric", "table", "attribute"].map fun name =>
    { displayName := name, type := .string, sample := "" }) Section.requiredSettings Section.parents

theorem chartRegistry_plainSlots : chartRegistry.PlainSlots := by
  have single : ∀ s ∈ chartRegistry.all, s.multiLine = false := by decide
  intro s member repeatable
  rw [single s member] at repeatable
  cases repeatable

def chartText : String :=
  "[widget]\nentity = a\n[tags]\nh = b\n[series]\nmetric = m\ntable = t"

theorem required_settings_exact_chart :
    chartRegistry.Acyclic ∧ chartRegistry.PlainSlots ∧
      (∀ x ∈ Document.readings chartText, Line.keyword? x.line ≠ some .ifBlock) ∧
      (∀ p ∈ Document.passages chartRegistry chartText, p.header.name = "tags" →
        ∀ e ∈ p.body, e.isBlank = false) ∧
      ∃ found, validate chartText chartRegistry = .ok found ∧
        Diagnostic.demandsAt ⟨⟨4, 1⟩, ⟨4, 7⟩⟩ found =
          [.error ⟨⟨4, 1⟩, ⟨4, 7⟩⟩ "attribute is required"] := by
  have acyclic : chartRegistry.Acyclic := by
    apply Registry.acyclic_of_rank fun name =>
      ["tags", "tag", "series", "column", "node", "link", "widget", "group", "configuration"].idxOf name
    decide +kernel
  have unconditional : ∀ x ∈ Document.readings chartText, Line.keyword? x.line ≠ some .ifBlock := by
    decide +kernel
  have unended : ∀ p ∈ Document.passages chartRegistry chartText, p.header.name = "tags" →
      ∀ e ∈ p.body, e.isBlank = false := by
    decide +kernel
  have three : 2 < (Document.passages chartRegistry chartText).length := by decide +kernel
  have last : (Document.passages chartRegistry chartText)[2].header.range = ⟨⟨4, 1⟩, ⟨4, 7⟩⟩ := by
    decide +kernel +revert
  have missing : chartRegistry.demandsFor ⟨⟨4, 1⟩, ⟨4, 7⟩⟩
      (((Document.passages chartRegistry chartText)[2].slots chartRegistry).filter fun slot =>
        !(Document.passages chartRegistry chartText)[2].satisfied chartRegistry
          (Document.preambleEntries chartRegistry chartText)
          ((Document.passages chartRegistry chartText).take 2).reverse slot) =
      [.error ⟨⟨4, 1⟩, ⟨4, 7⟩⟩ "attribute is required"] := by
    clear last
    decide +kernel +revert
  refine ⟨acyclic, chartRegistry_plainSlots, unconditional, unended, ?_⟩
  obtain ⟨-, found, ran, demands⟩ :=
    required_settings_exact chartRegistry chartText acyclic chartRegistry_plainSlots unconditional unended
  have exactly := demands _ _ _ (by rw [← List.drop_eq_getElem_cons three, List.take_append_drop])
  rw [last, missing] at exactly
  exact ⟨found, ran, exactly⟩

end ChartConfig
