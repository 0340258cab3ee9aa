import ChartConfig.Proofs.Validation.BlankLines
import ChartConfig.Proofs.Validation.Paths

/-!
# Sections interrupted by tags

A section of tags may stand within another section, which goes on behind the blank line that ends the tags. The run
returns to it indeed: its header is the current one again, and its settings are those that it had. But the section was
judged when the tags began, and that is its only verdict. What it declares when it goes on comes too late for its own
slots, and a table or an attribute that it declares then asks for no counterpart.
-/

namespace ChartConfig

open Text

/-! ## Interruptions -/

/-- Tags within a section: their header, the lines up to the blank one that ends them, and the lines with which the
    section goes on. -/
structure Interruption where
  opener : Reading
  header : Header
  tags : List Reading
  ending : Reading
  continuation : List Reading
  opens : Line.header? opener.line opener.number = some header
  isTags : header.name = "tags"
  unended : ∀ x ∈ tags, allBlank x.line = false
  ends : allBlank ending.line = true
  unheaded : ∀ x ∈ tags ++ continuation, x.isHeader = false

def Interruption.lines (i : Interruption) : List Reading :=
  i.opener :: (i.tags ++ i.ending :: i.continuation)

/-- A section among the lines that are read, with the tags that interrupt it. -/
structure InterruptedSection (readings : List Reading) where
  before : List Reading
  opener : Reading
  header : Header
  own : List Reading
  interruptions : List Interruption
  later : List Reading
  split : readings = before ++ opener :: (own ++ (interruptions.flatMap Interruption.lines ++ later))
  opens : Line.header? opener.line opener.number = some header
  unheaded : ∀ x ∈ own, x.isHeader = false
  /-- No blank line ends the section itself, should it be one of tags. -/
  lasting : header.name = "tags" →
    ∀ x ∈ own ++ interruptions.flatMap Interruption.continuation, allBlank x.line = false
  interrupted : interruptions ≠ []

namespace InterruptedSection

variable {readings : List Reading}

def first (r : Registry) (i : InterruptedSection readings) : Passage :=
  ⟨i.header, i.own.filterMap (Reading.event? r)⟩

def whole (r : Registry) (i : InterruptedSection readings) : Passage :=
  ⟨i.header, (i.own ++ i.interruptions.flatMap Interruption.continuation).filterMap (Reading.event? r)⟩

def ledger (r : Registry) (i : InterruptedSection readings) : Ledger :=
  Document.ledgerAfter r i.before

def endLedger (r : Registry) (i : InterruptedSection readings) : Ledger :=
  Document.ledgerAfter r (i.before ++ i.opener :: (i.own ++ i.interruptions.flatMap Interruption.lines))

/-- The counterparts that the section asks for before its first interruption. -/
def given (r : Registry) (i : InterruptedSection readings) : List Slot :=
  ((i.first r).entries.filterMap (Entry.counterpart? r)).eraseDups

/-- Nothing spares the slot, and the section declares no setting of it before its first interruption. -/
def owes (r : Registry) (i : InterruptedSection readings) (slot : Slot) : Bool :=
  !(i.first r).spared r (i.ledger r) slot && !(i.first r).declares slot

end InterruptedSection

/-! ## Events of lines -/

namespace Reading

variable {r : Registry} {x : Reading} {xs : List Reading}

theorem event?_of_header {h : Header} (headed : Line.header? x.line x.number = some h) :
    x.event? r = some (.header h) := by
  simp [event?, headed]

theorem event?_of_blank (blank : allBlank x.line = true) : x.event? r = some .blank := by
  simp [event?, Line.header?_of_blank blank, blank]

theorem inner_of_unheaded (unheaded : ∀ x ∈ xs, x.isHeader = false) :
    ∀ e ∈ xs.filterMap (event? r), e.isInner = true := by
  intro e member
  obtain ⟨x, isThere, said⟩ := List.mem_filterMap.mp member
  rw [isInner_event? said, unheaded x isThere]
  rfl

theorem not_blank_of_unended (unended : ∀ x ∈ xs, allBlank x.line = false) :
    ∀ e ∈ xs.filterMap (event? r), e.isBlank = false := by
  intro e member
  obtain ⟨x, isThere, said⟩ := List.mem_filterMap.mp member
  unfold event? at said
  split at said
  · cases said
    rfl
  · rw [unended x isThere] at said
    obtain ⟨a, -, rfl⟩ := Option.map_eq_some_iff.mp said
    rfl

theorem exists_of_mem_entries {h : Header} {e : Entry}
    (member : e ∈ (Passage.mk h (xs.filterMap (event? r))).entries) : ∃ x ∈ xs, x.event? r = some (.entry e) := by
  unfold Passage.entries at member
  split at member
  · cases member
  · obtain ⟨event, isThere, isEntry⟩ := List.mem_filterMap.mp member
    cases event with
    | header h | blank => cases isEntry
    | entry other =>
      cases isEntry
      exact List.mem_filterMap.mp isThere

end Reading

theorem Passage.entries_append (h : Header) (es more : List Event) :
    (Passage.mk h (es ++ more)).entries = (Passage.mk h es).entries ++ (Passage.mk h more).entries := by
  unfold entries holdsTags
  split
  · rfl
  · exact List.filterMap_append

/-! ## Returning to a section -/

namespace Ledger

variable {r : Registry} {l : Ledger} {h : Header} {body : List Event}

/-- The current section is that of the header, and its settings are those that the given events declare outside
    conditions. -/
structure Within (h : Header) (body : List Event) (l : Ledger) : Prop where
  current : l.scope.current = some h
  fills : ∀ slot, Scope.fills l.scope.settings slot = (Passage.mk h body).supplies slot

theorem within_entered (r : Registry) (l : Ledger) (h : Header) : ((l.close r).enter r h).Within h [] := by
  have nothing : (Passage.mk h []).entries = [] := by
    unfold Passage.entries
    split <;> rfl
  have empty : ((l.close r).enter r h).scope.settings = [] := rfl
  refine ⟨rfl, fun slot => ?_⟩
  rw [empty, Passage.supplies, nothing]
  rfl

theorem fills_assign (plain : l.scope.holdsTags = false) (e : Entry) (slot : Slot) :
    Scope.fills (l.assign r e).scope.settings slot =
      (Scope.fills l.scope.settings slot || (e.branch.isNone && e.supplies slot)) := by
  simp only [assign, plain, Bool.false_eq_true, if_false]
  cases isSetting : e.setting with
  | none => simp [Entry.supplies, Entry.kept?, isSetting]
  | some setting =>
    have asked := Scope.addCounterpart_settings l.scope r setting
    cases repeatable : setting.multiLine with
    | true => simp [declare, repeatable, asked, Entry.supplies, Entry.kept?, isSetting]
    | false =>
      have supplies : e.supplies slot = slot.contains setting.name := by
        simp [Entry.supplies, Entry.kept?, isSetting, repeatable]
      cases branch : e.branch with
      | none => simp [declare, repeatable, Scope.recordUnder, Scope.fills_record, asked, supplies]
      | some b => simp [declare, repeatable, Scope.recordUnder, Scope.recordIn, asked]

theorem Within.assign (within : l.Within h body) (e : Entry) : (l.assign r e).Within h (body ++ [.entry e]) := by
  refine ⟨(assign_sameSection e).current.trans within.current, fun slot => ?_⟩
  have tags : l.scope.holdsTags = (Passage.mk h [.entry e]).holdsTags := by
    simp [Scope.holdsTags, Scope.name?, within.current, Passage.holdsTags]
  rw [Passage.supplies, Passage.entries_append, List.any_append, ← Passage.supplies, ← within.fills]
  cases holds : (Passage.mk h [.entry e]).holdsTags with
  | true =>
    have unchanged : l.assign r e = l := by simp [Ledger.assign, tags.trans holds]
    simp [unchanged, Passage.entries, holds]
  | false => simp [fills_assign (tags.trans holds), Passage.entries, holds, Event.entry?]

theorem Within.readAll (within : l.Within h body) {more : List Event} (inner : ∀ e ∈ more, e.isInner = true)
    (lasting : h.name = "tags" → ∀ e ∈ more, e.isBlank = false) : (l.readAll r more).1.Within h (body ++ more) := by
  induction more generalizing l body with
  | nil => exact (List.append_nil body).symm ▸ within
  | cons e more inductionHypothesis =>
    have step : (l.read r e).1.Within h (body ++ [e]) := by
      cases e with
      | header k => cases inner _ (List.mem_cons_self ..)
      | entry e => exact within.assign e
      | blank =>
        have notTags : (l.scope.name? == some "tags") = false := by
          rw [beq_eq_false_iff_ne, Scope.name?, within.current]
          intro tags
          cases lasting (Option.some.inj tags) .blank (List.mem_cons_self ..)
        have unchanged : (Passage.mk h [.blank]).entries = [] := by
          unfold Passage.entries
          split <;> rfl
        simp only [read, notTags, Bool.false_eq_true, if_false]
        refine ⟨within.current, fun slot => ?_⟩
        rw [within.fills, Passage.supplies, Passage.supplies, Passage.entries_append, unchanged, List.append_nil]
    have onward := inductionHypothesis step (fun e member => inner e (List.mem_cons_of_mem _ member))
      (fun tags e member => lasting tags e (List.mem_cons_of_mem _ member))
    rwa [List.append_assoc] at onward

/-- Behind tags and the blank line that ends them, the section from before is the current one again, with the settings
    that it had. -/
theorem Within.resume (within : l.Within h body) {tags : Header} (isTags : tags.name = "tags") {es : List Event}
    (inner : ∀ e ∈ es, e.isInner = true) (unended : ∀ e ∈ es, e.isBlank = false) :
    (l.readAll r (.header tags :: (es ++ [.blank]))).1.Within h body := by
  have named : ((l.close r).enter r tags).scope.name? = some "tags" := congrArg some isTags
  have holdsTags : ((l.close r).enter r tags).scope.holdsTags = true := by
    rw [Scope.holdsTags, named]
    decide
  -- Tags declare nothing, so the ledger is as it was when they began.
  have asBegun : (((l.close r).enter r tags).readAll r es).1 = (l.close r).enter r tags := by
    rw [readAll_eq_foldl inner fun _ => unended, foldl_assign_tags holdsTags]
  have left : ((l.close r).enter r tags).read r .blank =
      ((((l.close r).enter r tags).close r).resume, ((l.close r).enter r tags).verdict r) := by
    simp [read, named]
  have remembered : (((l.close r).enter r tags).close r).scope.previous = some h ∧
      (((l.close r).enter r tags).close r).scope.previousSettings = l.scope.settings := by
    rw [close_scope]
    change (l.close r).scope.current = some h ∧ (l.close r).scope.settings = l.scope.settings
    rw [close_scope]
    exact ⟨within.current, rfl⟩
  have returned : (l.readAll r (.header tags :: (es ++ [.blank]))).1 =
      (((l.close r).enter r tags).close r).resume := by
    change (((l.close r).enter r tags).readAll r (es ++ [.blank])).1 = _
    rw [readAll_append, asBegun]
    simp only [Ledger.readAll, left]
  rw [returned, Ledger.resume, remembered.1]
  refine ⟨rfl, fun slot => ?_⟩
  rw [← within.fills]
  exact congrArg (Scope.fills · slot) remembered.2

theorem Within.interruption (within : l.Within h body) (i : Interruption)
    (lasting : h.name = "tags" → ∀ x ∈ i.continuation, allBlank x.line = false) :
    (l.readAll r (i.lines.filterMap (Reading.event? r))).1.Within h
      (body ++ i.continuation.filterMap (Reading.event? r)) := by
  have events : i.lines.filterMap (Reading.event? r) =
      .header i.header :: (i.tags.filterMap (Reading.event? r) ++ [.blank]) ++
        i.continuation.filterMap (Reading.event? r) := by
    simp [Interruption.lines, Reading.event?_of_header i.opens, Reading.event?_of_blank i.ends]
  have unheaded := i.unheaded
  rw [List.forall_mem_append] at unheaded
  rw [events, readAll_append]
  have resumed := within.resume (r := r) i.isTags (Reading.inner_of_unheaded (r := r) unheaded.1)
    (Reading.not_blank_of_unended i.unended)
  exact resumed.readAll (Reading.inner_of_unheaded unheaded.2)
    fun tags => Reading.not_blank_of_unended (lasting tags)

theorem Within.interruptions (within : l.Within h body) (is : List Interruption)
    (lasting : h.name = "tags" → ∀ x ∈ is.flatMap Interruption.continuation, allBlank x.line = false) :
    (l.readAll r ((is.flatMap Interruption.lines).filterMap (Reading.event? r))).1.Within h
      (body ++ (is.flatMap Interruption.continuation).filterMap (Reading.event? r)) := by
  induction is generalizing l body with
  | nil => exact (List.append_nil body).symm ▸ within
  | cons i is inductionHypothesis =>
    simp only [List.flatMap_cons, List.forall_mem_append] at lasting
    have onward := inductionHypothesis (within.interruption (r := r) i fun tags => (lasting tags).1)
      fun tags => (lasting tags).2
    simpa only [List.flatMap_cons, List.filterMap_append, readAll_append, List.append_assoc] using onward

end Ledger

/-! ## The one verdict -/

namespace InterruptedSection

variable {r : Registry} {text : String} {readings : List Reading}

theorem endLedger_within (r : Registry) (i : InterruptedSection readings) :
    (i.endLedger r).Within i.header (i.whole r).body := by
  have began := (Ledger.within_entered r (i.ledger r) i.header).readAll (r := r)
    (Reading.inner_of_unheaded (r := r) i.unheaded)
    (fun tags => Reading.not_blank_of_unended fun x member => i.lasting tags x (List.mem_append_left _ member))
  have wholly := began.interruptions (r := r) i.interruptions fun tags x member =>
    i.lasting tags x (List.mem_append_right _ member)
  rw [List.nil_append, ← List.filterMap_append] at wholly
  unfold endLedger Document.ledgerAfter
  simp only [List.filterMap_append, List.filterMap_cons, Reading.event?_of_header i.opens, Ledger.readAll_append,
    Ledger.readAll, Ledger.read]
  exact wholly

theorem passage_eq (r : Registry) (i : InterruptedSection readings) :
    Reading.passage r i.header (i.own ++ (i.interruptions.flatMap Interruption.lines ++ i.later)) = i.first r := by
  have body : Reading.body (i.own ++ (i.interruptions.flatMap Interruption.lines ++ i.later)) = i.own := by
    obtain ⟨tags, others, isFirst⟩ := List.exists_cons_of_ne_nil i.interrupted
    have headed : tags.opener.isHeader = true := by simp [Reading.isHeader, tags.opens]
    rw [Reading.body, List.takeWhile_append_of_pos (by simpa using i.unheaded), isFirst]
    simp [Interruption.lines, headed]
  rw [Reading.passage, body]
  rfl

theorem mem_readings_of_mem_own (i : InterruptedSection readings) {x : Reading} (member : x ∈ i.own) :
    x ∈ readings := by
  rw [i.split]
  simp [member]

theorem mem_readings_of_mem_continuation (i : InterruptedSection readings) {x : Reading}
    (member : x ∈ i.interruptions.flatMap Interruption.continuation) : x ∈ readings := by
  obtain ⟨tags, isThere, isLine⟩ := List.mem_flatMap.mp member
  have onLines : x ∈ i.interruptions.flatMap Interruption.lines :=
    List.mem_flatMap.mpr ⟨tags, isThere, by simp [Interruption.lines, isLine]⟩
  rw [i.split]
  simp [onLines]

end InterruptedSection

/-- Lines without conditions declare their settings outside conditions, and settings of plain slots once. -/
theorem Document.supplies_eq_declares {r : Registry} {text : String} (plain : r.PlainSlots)
    (unconditional : ∀ x ∈ Document.readings text, Line.keyword? x.line ≠ some .ifBlock) {h : Header}
    {xs : List Reading} (lines : ∀ x ∈ xs, x ∈ Document.readings text) :
    (∀ e ∈ (Passage.mk h (xs.filterMap (Reading.event? r))).entries, e.branch = none) ∧
      ∀ slot ∈ (Passage.mk h (xs.filterMap (Reading.event? r))).slots r,
        (Passage.mk h (xs.filterMap (Reading.event? r))).supplies slot =
          (Passage.mk h (xs.filterMap (Reading.event? r))).declares slot := by
  have free : ∀ e ∈ (Passage.mk h (xs.filterMap (Reading.event? r))).entries, e.branch = none := by
    intro e member
    obtain ⟨x, isLine, said⟩ := Reading.exists_of_mem_entries member
    have outside := Control.isIn_if_of_mem_readings rfl unconditional (lines x isLine)
    rw [(Reading.event?_entry said).1]
    simp [Control.branch?, outside]
  refine ⟨free, fun slot isSlot => Passage.supplies_eq_declares free ?_⟩
  intro e member s isSetting repeatable
  obtain ⟨x, -, said⟩ := Reading.exists_of_mem_entries member
  exact plain.not_mem isSlot ((Reading.event?_entry said).2 s isSetting) repeatable

theorem Entry.branches_of_free {es : List Entry} (free : ∀ e ∈ es, e.branch = none) : Entry.branches es = [] := by
  have none : es.filterMap Entry.keptIn? = [] := by
    rw [List.filterMap_eq_nil_iff]
    intro e member
    simp [Entry.keptIn?, free e member]
  rw [branches, none]
  rfl

/-- Take a document without conditions and a section in it that tags interrupt. When the section ends, its header is
    the current one again, and its settings fill all slots that it declares, behind the tags as well. But the demands
    on its header are those for the slots that it owes before its first tags: the registry's, then the counterparts of
    a table and an attribute that stand before the tags. So a slot that it declares only behind the tags is asked for
    all the same; and a counterpart that nothing declares is asked for once if its section asks for it before the tags,
    but not if a table or an attribute behind them is the first to ask. -/
theorem interrupted_section_demands (r : Registry) (text : String) (plain : r.PlainSlots)
    (unconditional : ∀ x ∈ Document.readings text, Line.keyword? x.line ≠ some .ifBlock) :
    ∃ found, validate text r = .ok found ∧ ∀ i : InterruptedSection (Document.readings text),
      (i.endLedger r).scope.current = some i.header ∧
      (∀ slot ∈ (i.whole r).slots r,
        Scope.fills (i.endLedger r).scope.settings slot = (i.whole r).declares slot) ∧
      Diagnostic.demandsAt i.header.range found =
        r.demandsFor i.header.range ((r.slotsOf i.header.name).filter (i.owes r)) ++
          r.demandsFor i.header.range ((i.given r).filter (i.owes r)) ∧
      ∀ slot ∈ (i.whole r).entries.filterMap (Entry.counterpart? r), (i.whole r).declares slot = false →
        (i.first r).spared r (i.ledger r) slot = false →
        ((i.given r).filter (i.owes r)).count slot = if slot ∈ i.given r then 1 else 0 := by
  obtain ⟨found, ran, demands⟩ := validate_unfilled r text
  refine ⟨found, ran, fun i => ?_⟩
  obtain ⟨free, ofFirst⟩ := Document.supplies_eq_declares (h := i.header) plain unconditional
    fun x (member : x ∈ i.own) => i.mem_readings_of_mem_own member
  obtain ⟨-, ofWhole⟩ := Document.supplies_eq_declares (h := i.header) plain unconditional
    fun x (member : x ∈ i.own ++ i.interruptions.flatMap Interruption.continuation) =>
      (List.mem_append.mp member).elim i.mem_readings_of_mem_own i.mem_readings_of_mem_continuation
  have within := i.endLedger_within r
  refine ⟨within.current, fun slot isSlot => (within.fills slot).trans (ofWhole slot isSlot), ?_, ?_⟩
  · obtain ⟨earlier, later, passages, ledger⟩ := Document.passages_of_readings (r := r) i.split i.opens
    rw [i.passage_eq] at passages
    have unfilled : ∀ slot ∈ (i.first r).slots r, (i.first r).unfilled r (i.ledger r) slot = i.owes r slot := by
      intro slot isSlot
      have noBranches : Entry.branches (i.first r).entries = [] := Entry.branches_of_free free
      have same : (i.first r).supplies slot = (i.first r).declares slot := ofFirst slot isSlot
      simp [Passage.unfilled, noBranches, InterruptedSection.owes, same]
    have exactly := demands earlier _ later passages
    rw [ledger] at exactly
    rw [← Registry.demandsFor_append, ← List.filter_append]
    exact exactly.trans (congrArg (r.demandsFor i.header.range) (List.filter_congr unfilled))
  · intro slot asked undeclared unspared
    have notFirst : (i.first r).declares slot = false := by
      rw [Bool.eq_false_iff] at undeclared ⊢
      intro declared
      apply undeclared
      rw [InterruptedSection.whole, List.filterMap_append, Passage.declares, Passage.entries_append, List.any_append]
      exact Bool.or_eq_true_iff.mpr (.inl declared)
    have owed : i.owes r slot = true := by simp [InterruptedSection.owes, unspared, notFirst]
    rw [List.count_filter owed]
    exact (nodup_eraseDups _).count

/-- A series with its metric behind its tags, and a table there without an attribute. -/
def interruptedText : String :=
  "[series]\nentity = a\n[tags]\nk = v\n\nmetric = m\ntable = t"

def interruptedSeries : InterruptedSection (Document.readings interruptedText) where
  before := []
  opener := ⟨{}, 0, "[series]".toList⟩
  header := ⟨"series", ⟨⟨0, 1⟩, ⟨0, 7⟩⟩⟩
  own := [⟨{}, 1, "entity = a".toList⟩]
  interruptions := [
    { opener := ⟨{}, 2, "[tags]".toList⟩
      header := ⟨"tags", ⟨⟨2, 1⟩, ⟨2, 5⟩⟩⟩
      tags := [⟨{}, 3, "k = v".toList⟩]
      ending := ⟨{}, 4, []⟩
      continuation := [⟨{}, 5, "metric = m".toList⟩, ⟨{}, 6, "table = t".toList⟩]
      opens := by decide +kernel
      isTags := rfl
      unended := by decide +kernel
      ends := by decide +kernel
      unheaded := by decide +kernel }]
  later := []
  split := by decide +kernel
  opens := by decide +kernel
  unheaded := by decide +kernel
  lasting := by decide +kernel
  interrupted := List.cons_ne_nil _ _

theorem interrupted_section_demands_series :
    chartRegistry.PlainSlots ∧ (∀ x ∈ Document.readings interruptedText, Line.keyword? x.line ≠ some .ifBlock) ∧
      ∃ found, validate interruptedText chartRegistry = .ok found ∧
        Diagnostic.demandsAt ⟨⟨0, 1⟩, ⟨0, 7⟩⟩ found = [.error ⟨⟨0, 1⟩, ⟨0, 7⟩⟩ "metric is required"] := by
  have unconditional : ∀ x ∈ Document.readings interruptedText, Line.keyword? x.line ≠ some .ifBlock := by
    decide +kernel
  obtain ⟨found, ran, sections⟩ := interrupted_section_demands chartRegistry interruptedText chartRegistry_plainSlots unconditional
  obtain ⟨-, -, exactly, -⟩ := sections interruptedSeries
  exact ⟨chartRegistry_plainSlots, unconditional, found, ran, exactly.trans (by decide +kernel)⟩

end ChartConfig
