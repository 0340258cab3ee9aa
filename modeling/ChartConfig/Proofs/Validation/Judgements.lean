import ChartConfig.Proofs.Validation.Performance

/-!
# Each section is judged once

A header waits until its section is judged. Reading a line lets at most the waiting header be judged and makes that of
the line wait, so the headers that are judged are those that are read, in their order. Since nothing else demands
anything of a header, all demands on it stand together, where its section is judged.
-/

namespace ChartConfig

open Text Finding

namespace Act

def judgement? : Act → Option Judgement
  | judges j => some j
  | _ => none

@[simp] theorem judgement?_judges (j : Judgement) : (judges j).judgement? = some j :=
  rfl

@[simp] theorem judgement?_misses (kind : Lookup) (m : Miss) : (misses kind m).judgement? = none :=
  rfl

@[simp] theorem judgement?_repeatsAlias (m : Mention) : (repeatsAlias m).judgement? = none :=
  rfl

@[simp] theorem judgement?_tells (found : List Finding) : (tells found).judgement? = none :=
  rfl

end Act

def Event.header? : Event → Option Header
  | header h => some h
  | _ => none

namespace Judgement

/-- What a judgement demands. -/
def demands (r : Registry) (j : Judgement) : List Diagnostic :=
  r.demandsFor j.header.range j.missing

/-- A judgement looks at the slots of the section, of the registry first, and finds some of them missing. -/
structure Sound (r : Registry) (j : Judgement) : Prop where
  slots : r.slotsOf j.header.name <+: j.slots
  missing : j.missing.Sublist j.slots

end Judgement

/-! ## Judging along events -/

namespace Ledger

variable {r : Registry} {l : Ledger} {e : Event} {es : List Event}

def waiting (l : Ledger) : List Header :=
  if l.scope.judged then [] else l.scope.current.toList

def judgementsOn (r : Registry) (l : Ledger) : Event → List Judgement
  | .header _ => (l.judgement? r).toList
  | .blank => if l.scope.name? == some "tags" then (l.judgement? r).toList else []
  | .entry _ => []

def judgements (r : Registry) (l : Ledger) : List Event → List Judgement
  | [] => []
  | e :: es => l.judgementsOn r e ++ judgements r (l.read r e).1 es

theorem header_judgement? : (l.judgement? r).toList.map Judgement.header = l.waiting := by
  unfold judgement? waiting
  cases l.scope.judged with
  | true => rfl
  | false => cases l.scope.current <;> rfl

theorem sound_of_mem_judgement? {j : Judgement} (member : j ∈ (l.judgement? r).toList) : j.Sound r := by
  unfold judgement? at member
  split at member
  · cases member
  · obtain ⟨h, -, rfl⟩ := Option.map_eq_some_iff.mp (Option.mem_toList.mp member)
    exact ⟨List.prefix_append .., List.filter_sublist⟩

theorem demands_judgement? : diagnostics (l.verdict r) = (l.judgement? r).toList.flatMap (Judgement.demands r) := by
  rw [diagnostics_verdict, List.flatMap_map]
  rfl

theorem waiting_of_sameSection {after : Ledger} (same : Scope.SameSection l.scope after.scope) :
    after.waiting = l.waiting := by
  simp only [waiting, same.judged, same.current]

theorem waiting_resume_close : (l.close r).resume.waiting = [] := by
  simp only [waiting, resume_judged close_judged, if_true]

theorem waiting_read (r : Registry) (l : Ledger) (e : Event) :
    (l.judgementsOn r e).map Judgement.header ++ (l.read r e).1.waiting = l.waiting ++ e.header?.toList := by
  cases e with
  | header h =>
    have entered : ((l.close r).enter r h).waiting = [h] := by
      obtain ⟨current, notJudged, -⟩ := @scope_entered r l h
      simp [waiting, current, notJudged]
    simp only [judgementsOn, read, header_judgement?, entered, Event.header?, Option.toList_some]
  | blank =>
    simp only [judgementsOn, read]
    split
    · simp only [header_judgement?, waiting_resume_close, Event.header?, Option.toList_none]
    · exact (List.append_nil _).symm
  | entry e =>
    simp only [judgementsOn, read, List.map_nil, List.nil_append, Event.header?, Option.toList_none, List.append_nil]
    exact waiting_of_sameSection (assign_sameSection e)

/-- The headers that are judged along events, and the one that still waits then, are those that came up. -/
theorem header_judgements (r : Registry) (l : Ledger) (es : List Event) :
    (l.judgements r es).map Judgement.header ++ (l.readAll r es).1.waiting =
      l.waiting ++ es.filterMap Event.header? := by
  induction es generalizing l with
  | nil => simp [judgements, readAll]
  | cons e es inductionHypothesis =>
    calc (l.judgements r (e :: es)).map Judgement.header ++ (l.readAll r (e :: es)).1.waiting
        = (l.judgementsOn r e).map Judgement.header ++ ((l.read r e).1.waiting ++ es.filterMap Event.header?) := by
          rw [judgements, List.map_append, List.append_assoc, readAll, inductionHypothesis]
      _ = l.waiting ++ (e :: es).filterMap Event.header? := by
          rw [← List.append_assoc, waiting_read, List.append_assoc]
          cases e <;> rfl

theorem demands_judgements (r : Registry) (l : Ledger) (es : List Event) :
    diagnostics (l.readAll r es).2 = (l.judgements r es).flatMap (Judgement.demands r) := by
  induction es generalizing l with
  | nil => rfl
  | cons e es inductionHypothesis =>
    have first : diagnostics (l.read r e).2 = (l.judgementsOn r e).flatMap (Judgement.demands r) := by
      cases e with
      | header h => exact demands_judgement?
      | blank =>
        simp only [read, judgementsOn]
        split
        · exact demands_judgement?
        · rfl
      | entry e => rfl
    rw [readAll, diagnostics_append, judgements, List.flatMap_append, first, inductionHypothesis]

theorem sound_of_mem_judgements {j : Judgement} (member : j ∈ l.judgements r es) : j.Sound r := by
  induction es generalizing l with
  | nil => cases member
  | cons e es inductionHypothesis =>
    rcases List.mem_append.mp member with now | later
    · cases e with
      | header h => exact sound_of_mem_judgement? now
      | blank =>
        simp only [judgementsOn] at now
        split at now
        · exact sound_of_mem_judgement? now
        · cases now
      | entry e => cases now
    · exact inductionHypothesis later

theorem judgements_append (more : List Event) :
    l.judgements r (es ++ more) = l.judgements r es ++ (l.readAll r es).1.judgements r more := by
  induction es generalizing l with
  | nil => rfl
  | cons e es inductionHypothesis => simp [judgements, readAll, inductionHypothesis]

end Ledger

/-! ## Judging along a run -/

namespace Step

variable {r : Registry} {number : Nat} {line : List Char} {s : State}

theorem judgements_settingActs (a : Assignment) (setting : Setting) :
    (s.settingActs r number line a setting).filterMap Act.judgement? = [] := by
  simp only [State.settingActs, List.filterMap_cons, Act.judgement?_tells, List.filterMap_append,
    List.append_eq_nil_iff]
  constructor
  · split <;> simp
  · split <;> simp

theorem judgements_plainActs : (s.plainActs r number line).filterMap Act.judgement? = [] := by
  have assignment (a : Assignment) : (s.assignmentActs r number line a).filterMap Act.judgement? = [] := by
    simp only [State.assignmentActs, List.filterMap_append, List.append_eq_nil_iff]
    constructor
    · split
      · simp
      · split
        · simp
        · exact judgements_settingActs a _
    · split <;> simp
  simp only [State.plainActs, List.filterMap_append, List.append_eq_nil_iff]
  refine ⟨⟨?_, ?_⟩, rfl⟩
  · cases Line.assignment? line <;> simp [assignment]
  · cases Line.templateDeclaration? line <;> simp

theorem judgements_judgementActs : (s.judgementActs r).filterMap Act.judgement? = (s.ledger.judgement? r).toList := by
  simp [State.judgementActs, List.filterMap_map, Function.comp_def]

theorem judgements_contentActs : (s.contentActs r number line).filterMap Act.judgement? =
    s.ledger.judgements r (Reading.event? r ⟨s.control, number, line⟩).toList := by
  simp only [State.contentActs, Reading.event?, List.filterMap_cons, Act.judgement?_tells]
  cases headed : Line.header? line number with
  | some h =>
    simp only [State.sectionActs, List.filterMap_append, judgements_judgementActs]
    split <;> simp [List.filterMap_map, Function.comp_def, Ledger.judgements, Ledger.judgementsOn]
  | none =>
    cases blank : allBlank line with
    | true =>
      simp only [Bool.true_and, if_true, Option.toList_some, Ledger.judgements, Ledger.judgementsOn, List.append_nil]
      change _ = if (s.scope.name? == some "tags") = true then _ else _
      split
      · exact judgements_judgementActs
      · exact judgements_plainActs
    | false =>
      simp only [Bool.false_and, Bool.false_eq_true, if_false, judgements_plainActs]
      cases Line.assignment? line <;> rfl

theorem judgements_lineActs {following : List (List Char)} :
    (s.lineActs r number line following).filterMap Act.judgement? =
      s.ledger.judgements r (s.control.eventsAt r number line) := by
  simp only [State.lineActs, Control.eventsAt, Control.reads]
  cases script : s.blocks.inBody .script .endScript (Line.keyword? line) with
  | true => simp [State.control, script, Ledger.judgements]
  | false =>
    cases table : s.blocks.inBody .csv .endCsv (Line.keyword? line) with
    | true => simp [State.control, script, table, Ledger.judgements]
    | false =>
      have keyword : ((Line.keywordAt? line number).elim [] fun found =>
          [Act.tells ((keywordLine number line following found).found ((content r number line).after s))]).filterMap
            Act.judgement? = [] := by
        cases Line.keywordAt? line number <;> rfl
      simp only [State.control, script, table, Bool.false_eq_true, if_false, Bool.not_false, Bool.and_self, if_true,
        List.filterMap_append, keyword, List.append_nil]
      exact judgements_contentActs

theorem judgements_acts {lines : List (List Char)} (armed : s.control.Armed) :
    (Step.acts r number lines s).filterMap Act.judgement? =
      s.ledger.judgements r (s.control.eventsFrom r number lines) ++
        ((s.ledger.readAll r (s.control.eventsFrom r number lines)).1.judgement? r).toList := by
  induction lines generalizing number s with
  | nil =>
    simp only [Step.acts, State.lastActs, List.filterMap_append, judgements_judgementActs]
    simp [List.filterMap_map, Function.comp_def, Control.eventsFrom, Control.readings, Ledger.judgements,
      Ledger.readAll]
  | cons line following inductionHypothesis =>
    have follows := @line_follows r number line s following armed
    rw [Step.acts, List.filterMap_append, judgements_lineActs, inductionHypothesis follows.armed, follows.control,
      follows.ledger, Control.eventsFrom_cons, Ledger.judgements_append, Ledger.readAll_append, List.append_assoc]

end Step

def Document.judgements (r : Registry) (text : String) : List Judgement :=
  (Document.acts r text).filterMap Act.judgement?

namespace Document

variable (r : Registry) (text : String)

theorem judgements_eq : Document.judgements r text =
    ({} : Ledger).judgements r (Document.events r text) ++
      ((({} : Ledger).readAll r (Document.events r text)).1.judgement? r).toList :=
  Step.judgements_acts State.armed_initial

theorem header_judgements : (Document.judgements r text).map Judgement.header =
    (Document.readings text).filterMap fun x => Line.header? x.line x.number := by
  rw [judgements_eq, List.map_append, Ledger.header_judgement?, Ledger.header_judgements, ← header_passages r,
    Document.passages, Event.header_passages]
  exact List.nil_append _

theorem judgements_increasing : (Document.judgements r text).Pairwise fun j k =>
    j.header.range.start.line < k.header.range.start.line := by
  have increasing := Document.passages_increasing r text
  rw [← List.pairwise_map (f := Passage.header) (R := fun h k => h.range.start.line < k.range.start.line),
    header_passages, ← header_judgements r, List.pairwise_map] at increasing
  exact increasing

theorem diagnostics_verdicts :
    diagnostics (Document.verdicts r text) = (Document.judgements r text).flatMap (Judgement.demands r) := by
  rw [Document.verdicts, diagnostics_append, Ledger.demands_judgements, Ledger.demands_judgement?,
    ← List.flatMap_append, judgements_eq]

end Document

/-! ## Where demands stand -/

theorem demandsAt_demands (r : Registry) (j : Judgement) :
    Diagnostic.demandsAt j.header.range (j.demands r) = j.demands r := by
  apply List.filter_eq_self.mpr
  intro d member
  obtain ⟨atHeader, demand⟩ := range_demandsFor member
  simp [atHeader, demand]

theorem demandsAt_judgements {r : Registry} {range : Range} {js : List Judgement}
    (apart : ∀ j ∈ js, j.header.range ≠ range) :
    Diagnostic.demandsAt range (js.flatMap (Judgement.demands r)) = [] := by
  apply List.filter_eq_nil_iff.mpr
  intro d member
  obtain ⟨j, isJudged, demanded⟩ := List.mem_flatMap.mp member
  simp [(range_demandsFor demanded).1, apart j isJudged]

theorem demandsAt_validate {r : Registry} {text : String} {found : List Diagnostic}
    (ran : validate text r = .ok found) {j : Judgement} (judged : j ∈ Document.judgements r text) :
    Diagnostic.demandsAt j.header.range found = j.demands r := by
  obtain ⟨_, ranToo, demands⟩ := validate_demands r text
  cases ran.symm.trans ranToo
  have isHeader := List.mem_map_of_mem (f := Judgement.header) judged
  rw [Document.header_judgements] at isHeader
  obtain ⟨x, isRead, headed⟩ := List.mem_filterMap.mp isHeader
  have onLine : j.header.range.start.line = x.number := Line.line_header? headed
  obtain ⟨before, after, split⟩ := List.append_of_mem judged
  have increasing := Document.judgements_increasing r text
  rw [split, List.pairwise_append, List.pairwise_cons] at increasing
  have apartBefore : ∀ k ∈ before, k.header.range ≠ j.header.range := by
    intro k member same
    have less := increasing.2.2 k member j (List.mem_cons_self ..)
    rw [same] at less
    exact Nat.lt_irrefl _ less
  have apartAfter : ∀ k ∈ after, k.header.range ≠ j.header.range := by
    intro k member same
    have less := increasing.2.1.1 k member
    rw [same] at less
    exact Nat.lt_irrefl _ less
  calc Diagnostic.demandsAt j.header.range found
      = Diagnostic.demandsAt j.header.range (diagnostics (Document.verdicts r text)) := by
        rw [Diagnostic.demandsAt_eq_filter, onLine, demands x isRead (by simp [headed]), demandsOn, ← onLine,
          ← Diagnostic.demandsAt_eq_filter]
    _ = j.demands r := by
        rw [Document.diagnostics_verdicts, split, List.flatMap_append, List.flatMap_cons, Diagnostic.demandsAt,
          List.filter_append, List.filter_append, ← Diagnostic.demandsAt, ← Diagnostic.demandsAt,
          ← Diagnostic.demandsAt, demandsAt_judgements apartBefore, demandsAt_judgements apartAfter,
          demandsAt_demands, List.nil_append, List.append_nil]

theorem Act.split_of_mem_judgements {acts : List Act} {j : Judgement} (judged : j ∈ acts.filterMap judgement?) :
    ∃ before after, acts = before ++ judges j :: after := by
  obtain ⟨act, member, isJudgement⟩ := List.mem_filterMap.mp judged
  cases act with
  | judges k =>
    cases Option.some.inj isJudgement
    exact List.append_of_mem member
  | misses kind m => cases isJudgement
  | repeatsAlias m => cases isJudgement
  | tells found => cases isJudgement

/-- The sections that are judged are those whose headers are read, each once and in their order. A judgement looks at
    the slots of its section in their order, and what it demands stands together: nothing before or after it is
    demanded of the header. -/
theorem sections_judged_once (r : Registry) (text : String) :
    (Document.judgements r text).map Judgement.header =
      (Document.readings text).filterMap (fun x => Line.header? x.line x.number) ∧
    ((Document.judgements r text).map Judgement.header).Nodup ∧
    ∃ found, validate text r = .ok found ∧ ∀ j ∈ Document.judgements r text,
      r.slotsOf j.header.name <+: j.slots ∧ j.missing.Sublist j.slots ∧
      ∃ before after, found = before ++ r.demandsFor j.header.range j.missing ++ after ∧
        Diagnostic.demandsAt j.header.range before = [] ∧ Diagnostic.demandsAt j.header.range after = [] := by
  refine ⟨Document.header_judgements r text, ?_, _, validate_eq_acts r text, ?_⟩
  · refine List.pairwise_map.mpr ((Document.judgements_increasing r text).imp ?_)
    intro j k less same
    rw [same] at less
    exact Nat.lt_irrefl _ less
  intro j judged
  have sound : j.Sound r := by
    rw [Document.judgements_eq] at judged
    rcases List.mem_append.mp judged with along | last
    · exact Ledger.sound_of_mem_judgements along
    · exact Ledger.sound_of_mem_judgement? last
  obtain ⟨before, after, split⟩ := Act.split_of_mem_judgements judged
  have told : (Document.acts r text).flatMap (Act.said r) =
      before.flatMap (Act.said r) ++ j.demands r ++ after.flatMap (Act.said r) := by
    simp [split, Judgement.demands]
  refine ⟨sound.slots, sound.missing, _, _, told, ?_⟩
  -- All demands at the header are those of its judgement, so none is left for what comes before and after.
  have whole := demandsAt_validate (validate_eq_acts r text) judged
  rw [told, Diagnostic.demandsAt, List.filter_append, List.filter_append, ← Diagnostic.demandsAt,
    ← Diagnostic.demandsAt, ← Diagnostic.demandsAt, demandsAt_demands] at whole
  have lengths := congrArg List.length whole
  simp only [List.length_append] at lengths
  exact ⟨List.length_eq_zero_iff.mp (by omega), List.length_eq_zero_iff.mp (by omega)⟩

end ChartConfig
