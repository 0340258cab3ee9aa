import ChartConfig.Proofs.Validation.Demands

/-!
# Passages

The events of a document fall into a preamble and passages, each a header with what follows it up to the
next. A section is judged once, after its own body: the whole passage, or for tags what comes before the
first blank line. The demands on a header are those of that one verdict.
-/

namespace ChartConfig

open Text Finding

/-- A header and the events up to the next header. -/
structure Passage where
  header : Header
  body : List Event
  deriving Inhabited

namespace Passage

def events (p : Passage) : List Event :=
  .header p.header :: p.body

/-- The events before the section ends: a blank line ends a section of tags. -/
def ownBody (p : Passage) : List Event :=
  if p.header.name == "tags" then p.body.takeWhile (!·.isBlank) else p.body

def ended (p : Passage) (r : Registry) (l : Ledger) : Ledger :=
  (((l.close r).enter r p.header).readAll r p.ownBody).1

def read (p : Passage) (r : Registry) (l : Ledger) : Ledger :=
  (l.readAll r p.events).1

end Passage

/-! ## Cutting events at headers -/

/-- The events before the first header. -/
def Event.preamble (es : List Event) : List Event :=
  es.takeWhile Event.isInner

def Event.passages : List Event → List Passage
  | [] => []
  | .header h :: es => ⟨h, es.takeWhile Event.isInner⟩ :: passages es
  | .blank :: es => passages es
  | .entry _ :: es => passages es

def Document.passages (r : Registry) (text : String) : List Passage :=
  Event.passages (Document.events r text)

namespace Event

theorem preamble_append_passages (es : List Event) :
    preamble es ++ (passages es).flatMap Passage.events = es := by
  induction es with
  | nil => rfl
  | cons e es inductionHypothesis =>
    cases e with
    | header h => simpa [preamble, passages, isInner, Passage.events] using inductionHypothesis
    | blank => simpa [preamble, passages, isInner, List.takeWhile_cons] using inductionHypothesis
    | entry e => simpa [preamble, passages, isInner, List.takeWhile_cons] using inductionHypothesis

theorem inner_of_mem_preamble {es : List Event} {e : Event} (member : e ∈ preamble es) : e.isInner = true := by
  induction es with
  | nil => cases member
  | cons first es inductionHypothesis =>
    simp only [preamble, List.takeWhile_cons] at member
    split at member
    · next inner =>
      rcases List.mem_cons.mp member with rfl | later
      · exact inner
      · exact inductionHypothesis later
    · cases member

theorem inner_of_mem_body {es : List Event} {p : Passage} (isPassage : p ∈ passages es) {e : Event}
    (member : e ∈ p.body) : e.isInner = true := by
  induction es with
  | nil => cases isPassage
  | cons first es inductionHypothesis =>
    cases first with
    | header h =>
      rcases List.mem_cons.mp isPassage with rfl | later
      · exact inner_of_mem_preamble member
      · exact inductionHypothesis later
    | blank => exact inductionHypothesis isPassage
    | entry _ => exact inductionHypothesis isPassage

end Event

/-! ## One verdict for each section -/

namespace Ledger

variable {r : Registry} {l : Ledger} {e : Event} {es : List Event}

theorem verdict_of_judged (judged : l.scope.judged = true) : l.verdict r = [] := by
  simp [verdict, Scope.judge, judged]

theorem close_scope (l : Ledger) (r : Registry) : (l.close r).scope =
    { l.scope with inherited := l.scope.bequeath.inherited, extraSlots := [], judged := true } := by
  obtain ⟨⟨current, settings, previous, previousSettings, inherited, branches, extraSlots, judged⟩, values⟩ := l
  cases judged <;> cases current <;> rfl

theorem close_judged : (l.close r).scope.judged = true := by
  rw [close_scope]

theorem resume_judged (judged : l.scope.judged = true) : l.resume.scope.judged = true := by
  unfold resume
  split
  · rfl
  · exact judged

end Ledger

namespace Scope

variable (s : Scope) (r : Registry) (branch : Option Branch) (setting : Setting)

/-- Declaring a setting changes what the section has declared and nothing else. -/
structure SameSection (s after : Scope) : Prop where
  current : after.current = s.current
  previous : after.previous = s.previous
  inherited : after.inherited = s.inherited
  judged : after.judged = s.judged

theorem addCounterpart_sameSection : SameSection s (s.addCounterpart r setting) := by
  unfold addCounterpart
  simp only
  split
  · unfold addSlot
    split <;> exact ⟨rfl, rfl, rfl, rfl⟩
  · exact ⟨rfl, rfl, rfl, rfl⟩

theorem recordUnder_sameSection : SameSection s (s.recordUnder branch setting) := by
  unfold recordUnder
  split
  · exact ⟨rfl, rfl, rfl, rfl⟩
  · unfold record
    split <;> exact ⟨rfl, rfl, rfl, rfl⟩

theorem SameSection.trans {s between after : Scope} (first : SameSection s between)
    (second : SameSection between after) : SameSection s after :=
  ⟨second.current.trans first.current, second.previous.trans first.previous,
    second.inherited.trans first.inherited, second.judged.trans first.judged⟩

theorem declare_sameSection : SameSection s (Ledger.declare s r branch setting) := by
  unfold Ledger.declare
  split
  · exact addCounterpart_sameSection s r setting
  · exact (addCounterpart_sameSection s r setting).trans (recordUnder_sameSection _ branch setting)

end Scope

namespace Ledger

variable {r : Registry} {l : Ledger} {e : Event} {es : List Event}

theorem assign_sameSection (entry : Entry) : Scope.SameSection l.scope (l.assign r entry).scope := by
  unfold assign
  split
  · exact ⟨rfl, rfl, rfl, rfl⟩
  · split
    · exact Scope.declare_sameSection l.scope r _ _
    · exact ⟨rfl, rfl, rfl, rfl⟩

theorem read_judged (inner : e.isInner = true) (judged : l.scope.judged = true) :
    (l.read r e).2 = [] ∧ (l.read r e).1.scope.judged = true := by
  cases e with
  | header h => cases inner
  | blank =>
    simp only [read]
    split
    · exact ⟨verdict_of_judged judged, resume_judged close_judged⟩
    · exact ⟨rfl, judged⟩
  | entry e => exact ⟨rfl, (assign_sameSection e).judged.trans judged⟩

theorem readAll_judged (inner : ∀ e ∈ es, e.isInner = true) (judged : l.scope.judged = true) :
    (l.readAll r es).2 = [] ∧ (l.readAll r es).1.scope.judged = true := by
  induction es generalizing l with
  | nil => exact ⟨rfl, judged⟩
  | cons e es inductionHypothesis =>
    obtain ⟨silent, stillJudged⟩ := read_judged (inner e (List.mem_cons_self ..)) judged
    obtain ⟨later, endJudged⟩ :=
      inductionHypothesis (fun e member => inner e (List.mem_cons_of_mem _ member)) stillJudged
    exact ⟨by simp [readAll, silent, later], endJudged⟩

theorem readAll_within (inner : ∀ e ∈ es, e.isInner = true)
    (lasting : l.scope.name? = some "tags" → ∀ e ∈ es, e.isBlank = false) :
    (l.readAll r es).2 = [] ∧ Scope.SameSection l.scope (l.readAll r es).1.scope := by
  induction es generalizing l with
  | nil => exact ⟨rfl, rfl, rfl, rfl, rfl⟩
  | cons e es inductionHypothesis =>
    have step : (l.read r e).2 = [] ∧ Scope.SameSection l.scope (l.read r e).1.scope := by
      cases e with
      | header h => cases inner _ (List.mem_cons_self ..)
      | blank =>
        have notTags : (l.scope.name? == some "tags") = false := by
          rw [beq_eq_false_iff_ne]
          intro tags
          cases lasting tags .blank (List.mem_cons_self ..)
        simp only [read, notTags]
        exact ⟨rfl, rfl, rfl, rfl, rfl⟩
      | entry e => exact ⟨rfl, assign_sameSection e⟩
    obtain ⟨silent, same⟩ := step
    have name : (l.read r e).1.scope.name? = l.scope.name? := by simp [Scope.name?, same.current]
    obtain ⟨later, sameLater⟩ :=
      @inductionHypothesis (l.read r e).1 (fun e member => inner e (List.mem_cons_of_mem _ member))
        (fun tags e member => lasting (name ▸ tags) e (List.mem_cons_of_mem _ member))
    exact ⟨by simp [readAll, silent, later], same.trans sameLater⟩

theorem scope_entered (h : Header) :
    ((l.close r).enter r h).scope.current = some h ∧ ((l.close r).enter r h).scope.judged = false ∧
      ((l.close r).enter r h).scope.settings = [] ∧ ((l.close r).enter r h).scope.branches = [] ∧
      ((l.close r).enter r h).scope.extraSlots = [] := by
  have bequeathed (scope : Scope) : scope.bequeath.extraSlots = scope.extraSlots := by
    unfold Scope.bequeath
    split <;> rfl
  refine ⟨rfl, rfl, rfl, rfl, ?_⟩
  simp only [close, enter, Scope.enter, bequeathed, Scope.judge]
  split <;> rfl

end Ledger

namespace Passage

variable {r : Registry} {l : Ledger} {p : Passage}

theorem mem_body_of_mem_ownBody {e : Event} (member : e ∈ p.ownBody) : e ∈ p.body := by
  unfold ownBody at member
  split at member
  · exact List.takeWhile_subset _ member
  · exact member

theorem not_blank_of_mem_ownBody (tags : p.header.name = "tags") {e : Event} (member : e ∈ p.ownBody) :
    e.isBlank = false := by
  simp only [ownBody, tags, beq_self_eq_true, if_true] at member
  simpa using List.mem_takeWhile_imp member

theorem lasting_ownBody (tags : ((l.close r).enter r p.header).scope.name? = some "tags") :
    ∀ e ∈ p.ownBody, e.isBlank = false := by
  have isTags : some p.header.name = some "tags" := tags
  intro e member
  exact not_blank_of_mem_ownBody (Option.some.inj isTags) member

theorem ended_within (inner : ∀ e ∈ p.body, e.isInner = true) :
    (((l.close r).enter r p.header).readAll r p.ownBody).2 = [] ∧
      Scope.SameSection ((l.close r).enter r p.header).scope (p.ended r l).scope := by
  apply Ledger.readAll_within
  · exact fun e member => inner e (mem_body_of_mem_ownBody member)
  · exact lasting_ownBody

theorem verdict_ended (inner : ∀ e ∈ p.body, e.isInner = true) :
    (p.ended r l).verdict r = (p.ended r l).scope.missing r (p.ended r l).waived p.header := by
  obtain ⟨-, same⟩ := @ended_within r l p inner
  obtain ⟨current, judged, -⟩ := @Ledger.scope_entered r l p.header
  simp [Ledger.verdict, Scope.judge, same.judged.trans judged, same.current.trans current]

theorem body_of_ownBody_ne (shorter : p.ownBody ≠ p.body) :
    p.header.name = "tags" ∧ ∃ rest, p.body = p.ownBody ++ .blank :: rest := by
  by_cases tags : p.header.name = "tags"
  · refine ⟨tags, ?_⟩
    have own : p.ownBody = p.body.takeWhile (!·.isBlank) := by simp [ownBody, tags]
    have whole := List.takeWhile_append_dropWhile (p := fun e : Event => !e.isBlank) (l := p.body)
    rw [← own] at whole
    cases left : p.body.dropWhile (!·.isBlank) with
    | nil => simp [left] at whole; exact absurd whole shorter
    | cons e rest =>
      have isBlank := List.head?_dropWhile_not (fun e : Event => !e.isBlank) p.body
      simp only [left, List.head?_cons, Bool.not_eq_false'] at isBlank
      cases e with
      | blank => exact ⟨rest, by rw [← left, whole]⟩
      | header _ | entry _ => cases isBlank
  · simp [ownBody, tags] at shorter

/-- Of all that a passage says after the verdict on the section before, the verdict on its own section is
    left. -/
theorem readAll_events (inner : ∀ e ∈ p.body, e.isInner = true) :
    (l.readAll r p.events).2 ++ (p.read r l).verdict r = l.verdict r ++ (p.ended r l).verdict r := by
  obtain ⟨silent, same⟩ := @ended_within r l p inner
  -- Either the section lasts to the end of its passage, or it is one of tags and a blank line ends it.
  by_cases whole : p.ownBody = p.body
  · rw [whole] at silent
    have ended : p.read r l = p.ended r l := by
      simp [read, events, Passage.ended, Ledger.readAll, Ledger.read, whole]
    rw [ended]
    simp [events, Ledger.readAll, Ledger.read, silent]
  · obtain ⟨tags, rest, body⟩ := body_of_ownBody_ne whole
    have inTags : ((p.ended r l).scope.name? == some "tags") = true := by
      obtain ⟨current, -⟩ := @Ledger.scope_entered r l p.header
      simp [Scope.name?, same.current.trans current, tags]
    have restInner : ∀ e ∈ rest, e.isInner = true := by
      intro e member
      exact inner e (by rw [body]; exact List.mem_append_right _ (List.mem_cons_of_mem _ member))
    have leaving : (p.ended r l).read r .blank = (((p.ended r l).close r).resume, (p.ended r l).verdict r) := by
      simp [Ledger.read, inTags]
    -- From the blank line on the section has been judged, so nothing more is said about it.
    have judged : (((p.ended r l).close r).resume).scope.judged = true :=
      Ledger.resume_judged Ledger.close_judged
    obtain ⟨restSilent, endJudged⟩ := Ledger.readAll_judged (r := r) restInner judged
    have after : ((l.close r).enter r p.header).readAll r p.body =
        ((((p.ended r l).close r).resume.readAll r rest).1, (p.ended r l).verdict r) := by
      rw [body, Ledger.readAll_append, silent]
      change (((p.ended r l).readAll r (.blank :: rest)).1, [] ++ ((p.ended r l).readAll r (.blank :: rest)).2) = _
      simp [Ledger.readAll, leaving, restSilent]
    have finished : (p.read r l).verdict r = [] := by
      apply Ledger.verdict_of_judged
      simp only [read, events, Ledger.readAll, Ledger.read, after]
      exact endJudged
    rw [finished, List.append_nil]
    simp [events, Ledger.readAll, Ledger.read, after]

end Passage

/-! ## The verdicts of a document -/

def Ledger.afterPassages (r : Registry) (l : Ledger) (ps : List Passage) : Ledger :=
  ps.foldl (fun l p => p.read r l) l

def Ledger.verdictsOn (r : Registry) : Ledger → List Passage → List Finding
  | _, [] => []
  | l, p :: ps => (p.ended r l).verdict r ++ verdictsOn r (p.read r l) ps

def Document.preambleLedger (r : Registry) (text : String) : Ledger :=
  (({} : Ledger).readAll r (Event.preamble (Document.events r text))).1

namespace Ledger

variable {r : Registry} {l : Ledger}

theorem verdictsOn_append (before after : List Passage) :
    l.verdictsOn r (before ++ after) =
      l.verdictsOn r before ++ (l.afterPassages r before).verdictsOn r after := by
  induction before generalizing l with
  | nil => rfl
  | cons p before inductionHypothesis => simp [verdictsOn, inductionHypothesis, afterPassages]

theorem readAll_flatMap {ps : List Passage} (inner : ∀ p ∈ ps, ∀ e ∈ p.body, e.isInner = true) :
    (l.readAll r (ps.flatMap Passage.events)).2 ++ (l.readAll r (ps.flatMap Passage.events)).1.verdict r =
      l.verdict r ++ l.verdictsOn r ps := by
  induction ps generalizing l with
  | nil => simp [readAll, verdictsOn]
  | cons p ps inductionHypothesis =>
    have first := Passage.readAll_events (r := r) (l := l) (inner p (List.mem_cons_self ..))
    have later := @inductionHypothesis (p.read r l) fun q member => inner q (List.mem_cons_of_mem _ member)
    rw [List.flatMap_cons, readAll_append]
    -- Each verdict is made by the header after its section, hence the shift by one passage.
    change (l.readAll r p.events).2 ++ ((p.read r l).readAll r _).2 ++ ((p.read r l).readAll r _).1.verdict r = _
    rw [List.append_assoc, later, ← List.append_assoc, first, verdictsOn, List.append_assoc]

end Ledger

/-- The verdicts of a document are those on its passages. -/
theorem Document.verdicts_eq (r : Registry) (text : String) :
    Document.verdicts r text = (preambleLedger r text).verdictsOn r (Document.passages r text) := by
  have inner : ∀ e ∈ Event.preamble (Document.events r text), e.isInner = true :=
    fun e member => Event.inner_of_mem_preamble member
  obtain ⟨silent, same⟩ := @Ledger.readAll_within r {} _ inner (by intro tags; cases tags)
  have noVerdict : (preambleLedger r text).verdict r = [] := by
    simp [Ledger.verdict, Scope.judge, preambleLedger, same.judged, same.current]
  have later := @Ledger.readAll_flatMap r (preambleLedger r text) (Document.passages r text)
    fun p isPassage e member => Event.inner_of_mem_body isPassage member
  rw [noVerdict, List.nil_append] at later
  unfold Document.verdicts
  rw [← Event.preamble_append_passages (Document.events r text), Ledger.readAll_append]
  simp only [silent, List.nil_append]
  exact later

/-! ## Where headers stand -/

theorem Control.readings_increasing (c : Control) (number : Nat) (lines : List (List Char)) :
    (c.readings number lines).Pairwise fun x y => x.number < y.number := by
  induction lines generalizing c number with
  | nil => exact .nil
  | cons line following inductionHypothesis =>
    simp only [readings]
    split
    · refine .cons (fun y member => ?_) (inductionHypothesis _ _)
      exact Nat.lt_of_succ_le (le_number_of_mem_readings member)
    · exact inductionHypothesis _ _

theorem Event.header_passages (es : List Event) :
    (passages es).map Passage.header = es.filterMap fun
      | .header h => some h
      | _ => none := by
  induction es with
  | nil => rfl
  | cons e es inductionHypothesis => cases e <;> simpa [passages] using inductionHypothesis

theorem Document.header_passages (r : Registry) (text : String) :
    (Document.passages r text).map Passage.header =
      (Document.readings text).filterMap fun x => Line.header? x.line x.number := by
  rw [Document.passages, Event.header_passages, Document.events, Control.eventsFrom, List.filterMap_filterMap]
  congr 1
  funext x
  unfold Reading.event?
  cases Line.header? x.line x.number with
  | some h => rfl
  | none =>
    simp only
    split
    · rfl
    · cases Line.assignment? x.line <;> rfl

theorem Line.line_header? {line : List Char} {number : Nat} {h : Header} (headed : header? line number = some h) :
    h.range.start.line = number := by
  obtain ⟨name, -, rfl⟩ := Option.map_eq_some_iff.mp headed
  rfl

theorem Document.passages_increasing (r : Registry) (text : String) :
    (Document.passages r text).Pairwise fun p q => p.header.range.start.line < q.header.range.start.line := by
  rw [← List.pairwise_map (f := Passage.header) (R := fun h k => h.range.start.line < k.range.start.line),
    Document.header_passages]
  apply (Control.readings_increasing {} 0 (Document.analysed text)).filterMap
  intro x y less h isHeader k isAlso
  rw [Line.line_header? isHeader, Line.line_header? isAlso]
  exact less

theorem Document.reading_of_passage {r : Registry} {text : String} {p : Passage}
    (isPassage : p ∈ Document.passages r text) :
    ∃ x ∈ Document.readings text, Line.header? x.line x.number = some p.header := by
  have member := List.mem_map_of_mem (f := Passage.header) isPassage
  rw [Document.header_passages, List.mem_filterMap] at member
  exact member

/-! ## The demands on a header -/

def Diagnostic.demandsAt (range : Range) (found : List Diagnostic) : List Diagnostic :=
  found.filter fun d => d.isDemand && d.range == range

theorem Diagnostic.demandsAt_eq_filter (range : Range) (found : List Diagnostic) :
    demandsAt range found =
      demandsAt range (found.filter fun d => d.isDemand && d.range.start.line == range.start.line) := by
  simp only [demandsAt, List.filter_filter]
  apply List.filter_congr
  intro d _
  by_cases anchored : d.range = range
  · simp [anchored]
  · simp [anchored]

def Registry.demandsFor (r : Registry) (range : Range) (slots : List Slot) : List Diagnostic :=
  slots.filterMap fun slot => (Scope.slotName? r slot).map fun name => .error range (Message.required name)

theorem Registry.demandsFor_append (r : Registry) (range : Range) (slots more : List Slot) :
    r.demandsFor range (slots ++ more) = r.demandsFor range slots ++ r.demandsFor range more :=
  List.filterMap_append

theorem required_isDemand (range : Range) (name : String) :
    (Diagnostic.error range (Message.required name)).isDemand = true := by
  simp only [Diagnostic.isDemand, Diagnostic.error, Message.required, Bool.and_eq_true, beq_self_eq_true,
    true_and, List.isSuffixOf_iff_suffix, String.toList_append]
  exact List.suffix_append _ _

theorem diagnostics_missing (s : Scope) (r : Registry) (waived : Bool) (h : Header) :
    diagnostics (s.missing r waived h) = r.demandsFor h.range
      ((r.slotsOf h.name ++ s.extraSlots).filter fun slot => !s.satisfies waived (r.ancestors h.name) slot) := by
  simp only [diagnostics, Scope.missing, Registry.demandsFor, List.filterMap_filterMap]
  congr 1
  funext slot
  cases Scope.slotName? r slot <;> rfl

theorem range_demandsFor {r : Registry} {range : Range} {slots : List Slot} {d : Diagnostic}
    (member : d ∈ r.demandsFor range slots) : d.range = range ∧ d.isDemand = true := by
  obtain ⟨slot, -, said⟩ := List.mem_filterMap.mp member
  obtain ⟨name, -, rfl⟩ := Option.map_eq_some_iff.mp said
  exact ⟨rfl, required_isDemand range name⟩

namespace Ledger

variable {r : Registry} {l : Ledger}

theorem demandsOn_verdictsOn {number : Nat} {ps : List Passage}
    (inner : ∀ p ∈ ps, ∀ e ∈ p.body, e.isInner = true)
    (apart : ∀ p ∈ ps, p.header.range.start.line ≠ number) :
    demandsOn number (l.verdictsOn r ps) = [] := by
  induction ps generalizing l with
  | nil => rfl
  | cons p ps inductionHypothesis =>
    rw [verdictsOn, demandsOn_append,
      inductionHypothesis (fun q member => inner q (List.mem_cons_of_mem _ member))
        (fun q member => apart q (List.mem_cons_of_mem _ member)),
      Passage.verdict_ended (inner p (List.mem_cons_self ..)), List.append_nil, demandsOn, diagnostics_missing,
      List.filter_eq_nil_iff]
    intro d member
    have different := apart p (List.mem_cons_self ..)
    simp [(range_demandsFor member).1, different]

end Ledger

theorem validate_demandsAt (r : Registry) (text : String) :
    ∃ found, validate text r = .ok found ∧
      ∀ before p after, Document.passages r text = before ++ p :: after →
        let ended := p.ended r ((Document.preambleLedger r text).afterPassages r before)
        Diagnostic.demandsAt p.header.range found =
          r.demandsFor p.header.range ((r.slotsOf p.header.name ++ ended.scope.extraSlots).filter fun slot =>
            !ended.scope.satisfies ended.waived (r.ancestors p.header.name) slot) := by
  obtain ⟨found, ran, demands⟩ := validate_demands r text
  refine ⟨found, ran, ?_⟩
  intro before p after split
  have isPassage : p ∈ Document.passages r text := by simp [split]
  obtain ⟨x, isRead, headed⟩ := Document.reading_of_passage isPassage
  have onLine : p.header.range.start.line = x.number := Line.line_header? headed
  have inner : ∀ q ∈ before ++ p :: after, ∀ e ∈ q.body, e.isInner = true := by
    rw [← split]
    exact fun q isPassage e member => Event.inner_of_mem_body isPassage member
  have increasing := Document.passages_increasing r text
  rw [split, List.pairwise_append, List.pairwise_cons] at increasing
  have onlyOwn : demandsOn x.number (Document.verdicts r text) =
      demandsOn x.number ((p.ended r ((Document.preambleLedger r text).afterPassages r before)).verdict r) := by
    rw [Document.verdicts_eq, split, Ledger.verdictsOn_append, Ledger.verdictsOn, demandsOn_append,
      demandsOn_append, Ledger.demandsOn_verdictsOn, Ledger.demandsOn_verdictsOn, List.nil_append,
      List.append_nil]
    · exact fun q member => inner q (by simp [member])
    · intro q member same
      have less := increasing.2.1.1 q member
      omega
    · exact fun q member => inner q (by simp [member])
    · intro q member same
      have less := increasing.2.2 q member p (List.mem_cons_self ..)
      omega
  have own := (demands x isRead (by simp [headed])).trans onlyOwn
  rw [Passage.verdict_ended (inner p (by simp)), demandsOn, diagnostics_missing] at own
  rw [← onLine] at own
  rw [Diagnostic.demandsAt_eq_filter, own, ← Diagnostic.demandsAt_eq_filter]
  apply List.filter_eq_self.mpr
  intro d member
  obtain ⟨atHeader, demand⟩ := range_demandsFor member
  simp [atHeader, demand]

end ChartConfig
