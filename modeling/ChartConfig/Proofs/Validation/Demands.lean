import Mathlib.Data.List.TakeWhile
import ChartConfig.Proofs.Validation.Projection

/-!
# Demands

A demand is an error that says that something is required. On the line of a section header every demand
comes from a verdict of the ledger: nothing else that a run reports there has that wording, and what is kept
for later was found on other lines.
-/

namespace ChartConfig

open Text Finding State

/-! ## Demands among findings -/

/-- The wording of a demand. -/
def Diagnostic.isDemand (d : Diagnostic) : Bool :=
  d.severity == .error && " is required".toList.isSuffixOf d.message.toList

def Finding.demandsOn (number : Nat) (found : List Finding) : List Diagnostic :=
  (diagnostics found).filter fun d => d.isDemand && d.range.start.line == number

namespace Finding

variable {number : Nat}

@[simp] theorem diagnostics_note (n : Note) (found : List Finding) :
    diagnostics (.note n :: found) = diagnostics found :=
  rfl

@[simp] theorem diagnostics_nil : diagnostics [] = [] :=
  rfl

@[simp] theorem demandsOn_nil : demandsOn number [] = [] := rfl

@[simp] theorem demandsOn_append (found more : List Finding) :
    demandsOn number (found ++ more) = demandsOn number found ++ demandsOn number more := by
  simp [demandsOn]

theorem demandsOn_eq_nil {found : List Finding}
    (none : ∀ d, .problem d ∈ found → d.isDemand = true → d.range.start.line ≠ number) :
    demandsOn number found = [] := by
  rw [demandsOn, List.filter_eq_nil_iff]
  intro d member
  obtain ⟨f, inFound, isProblem⟩ := List.mem_filterMap.mp member
  have demands : ¬ (d.isDemand = true ∧ d.range.start.line = number) := by
    rintro ⟨demand, onLine⟩
    cases f with
    | note n => simp [diagnostic?] at isProblem
    | problem e =>
      simp only [diagnostic?, Option.some.injEq] at isProblem
      exact none d (isProblem ▸ inFound) demand onLine
  simpa using demands

theorem demandsOn_of_allOn {other : Nat} {found : List Finding} (foundOn : AllOn other found)
    (different : other ≠ number) : demandsOn number found = [] := by
  apply demandsOn_eq_nil
  intro d member _ onLine
  exact different ((foundOn _ member).symm.trans onLine)

end Finding

theorem not_isDemand_of_ending {range : Range} {start ending : String} {c : Char}
    (last : ending.toList.getLast? = some c) (different : c ≠ 'd') :
    (Diagnostic.error range (start ++ ending)).isDemand = false := by
  rw [Bool.eq_false_iff]
  intro demand
  simp only [Diagnostic.isDemand, Diagnostic.error, Bool.and_eq_true, List.isSuffixOf_iff_suffix,
    String.toList_append] at demand
  obtain ⟨before, same⟩ := demand.2
  have ends := congrArg List.getLast? same
  rw [List.getLast?_append, List.getLast?_append, last] at ends
  simp only [Option.some_or] at ends
  have isD : (" is required".toList.getLast?) = some 'd' := by decide
  rw [isD] at ends
  simp only [Option.some_or, Option.some.injEq] at ends
  exact different ends.symm

theorem unknownAmong_not_isDemand (range : Range) (found : String) (candidates : List String) (measure : Measure) :
    (Diagnostic.error range (Message.unknownAmong found candidates measure)).isDemand = false := by
  unfold Message.unknownAmong
  split
  · exact not_isDemand_of_ending (c := '?') (by decide) (by decide)
  · exact not_isDemand_of_ending (c := '.') (by decide) (by decide)

/-! ## Changes and the demands on one line -/

/-- Nothing on the given line is kept for later. -/
def State.Clear (number : Nat) (s : State) : Prop :=
  ∀ range ∈ s.kept, range.start.line ≠ number

/-- A change under which the demands on a line are those of the verdicts `said`. -/
structure State.Heeds (number : Nat) (control : Control) (ledger : Ledger) (said : List Finding)
    (s after : State) (found : List Finding) : Prop where
  control_eq : after.control = control
  ledger_eq : after.ledger = ledger
  clear : s.Clear number → after.Clear number
  demands : s.Clear number → demandsOn number found = demandsOn number said

namespace State

variable {number other : Nat} {control betweenControl : Control} {ledger betweenLedger : Ledger}
  {s between after : State} {said also found more : List Finding}

theorem Heeds.trans (first : Heeds number betweenControl betweenLedger said s between found)
    (second : Heeds number control ledger also between after more) :
    Heeds number control ledger (said ++ also) s after (found ++ more) where
  control_eq := second.control_eq
  ledger_eq := second.ledger_eq
  clear := fun clear => second.clear (first.clear clear)
  demands := fun clear => by
    rw [demandsOn_append, demandsOn_append, first.demands clear, second.demands (first.clear clear)]

theorem Moves.heeds (moved : Moves other control ledger s after found) (different : other ≠ number) :
    Heeds number control ledger [] s after found where
  control_eq := moved.control_eq
  ledger_eq := moved.ledger_eq
  clear := by
    intro clear range member onLine
    rcases moved.kept range member with old | new
    · exact clear range old onLine
    · exact different (new.symm.trans onLine)
  demands := fun _ => demandsOn_of_allOn moved.foundOn different

theorem Heeds.silent (foundSilent : s.Clear number → demandsOn number found = []) :
    Heeds number s.control s.ledger [] s s found :=
  ⟨rfl, rfl, id, foundSilent⟩

end State

namespace Step

variable {number : Nat} {control betweenControl : Control} {ledger betweenLedger : Ledger} {s : State}
  {step second : Step} {rest : List Step} {said also : List Finding}

theorem heeds_andThen (first : step.Ensures s (Heeds number betweenControl betweenLedger said s))
    (thenSecond : ∀ between : State, between.control = betweenControl → between.ledger = betweenLedger →
      second.Ensures between (Heeds number control ledger also between)) :
    (step.andThen second).Ensures s (Heeds number control ledger (said ++ also) s) := by
  apply ensures_andThen
  apply first.mono
  intro between found heeded
  apply (thenSecond between heeded.control_eq heeded.ledger_eq).mono
  intro after more heededOn
  exact heeded.trans heededOn

theorem heeds_cons (first : step.Ensures s (Heeds number betweenControl betweenLedger said s))
    (thenRest : ∀ between : State, between.control = betweenControl → between.ledger = betweenLedger →
      (all rest).Ensures between (Heeds number control ledger also between)) :
    (all (step :: rest)).Ensures s (Heeds number control ledger (said ++ also) s) :=
  heeds_andThen first thenRest

theorem heeds_nil (sameControl : s.control = control) (sameLedger : s.ledger = ledger) :
    (all []).Ensures s (Heeds number control ledger [] s) := by
  subst sameControl sameLedger
  exact ensures_all_nil (.silent fun _ => rfl)

theorem heeds_report {f : State → List Finding} (silent : s.Clear number → demandsOn number (f s) = []) :
    (report f).Ensures s (Heeds number s.control s.ledger [] s) :=
  ensures_report (.silent silent)

/-! ## Headers -/

variable {r : Registry} {other : Nat} {header : Header}

theorem spelling_ensures : (spelling r header).Ensures s (Heeds number s.control s.ledger [] s) := by
  apply heeds_report
  intro _
  apply demandsOn_eq_nil
  intro d member demand
  split at member
  · cases member
  · rw [List.mem_singleton] at member
    cases member
    rw [unknownAmong_not_isDemand] at demand
    cases demand

theorem judge_ensures :
    (judge r).Ensures s (Heeds number s.control
      ⟨(s.scope.judge r s.ledger.waived).1, s.values⟩ (s.ledger.verdict r) s) :=
  ensures_of_eq rfl ⟨rfl, rfl, id, fun _ => rfl⟩

theorem bequeath_ensures :
    bequeath.Ensures s (Heeds number s.control ⟨s.scope.bequeath, s.values⟩ [] s) :=
  ensures_update ⟨rfl, rfl, id, fun _ => rfl⟩

theorem unresolvedAliases_silent {measure : Measure} (clear : s.Clear number) :
    demandsOn number (s.aliases.unresolved measure) = [] := by
  apply demandsOn_eq_nil
  intro d member _
  simp only [Aliases.unresolved, List.mem_map, List.mem_filter] at member
  obtain ⟨m, ⟨used, -⟩, same⟩ := member
  cases same
  exact clear m.range (mem_kept.mpr (.inl ⟨m, used, rfl⟩))

theorem widget_ensures :
    (if occursIn "widget".toList header.name.toList then newWidget r else skip).Ensures s
      (Heeds number s.control
        ⟨s.scope, if occursIn "widget".toList header.name.toList then [] else s.values⟩ [] s) := by
  cases occursIn "widget".toList header.name.toList with
  | false => exact ensures_skip (.silent fun _ => rfl)
  | true =>
    simp only [if_true, newWidget]
    apply heeds_cons (heeds_report unresolvedAliases_silent)
    intro s₁ control₁ ledger₁
    apply ensures_all_cons
    apply ensures_update
    apply ensures_all_nil
    refine ⟨control₁, congrArg (fun l : Ledger => { l with values := [] }) ledger₁, ?_, fun _ => rfl⟩
    intro clear range member
    rcases mem_kept.mp member with ⟨m, used, -⟩ | others
    · cases used
    · exact clear range (mem_kept.mpr (.inr others))

theorem heading_silent :
    demandsOn number
      ((if header.name == "tag" then [.warning header.range Message.deprecatedTagSection] else []) ++
        [.note (.entering other header.name)]) = [] := by
  apply demandsOn_eq_nil
  intro d member demand
  simp only [List.mem_append, List.mem_singleton, reduceCtorEq, or_false] at member
  split at member
  · rw [List.mem_singleton] at member
    cases member
    cases demand
  · cases member

theorem enterSection_ensures :
    (enterSection r other header).Ensures s (Heeds number s.control
      (s.ledger.read r (.header header)).1 (s.ledger.read r (.header header)).2 s) := by
  have said : (s.ledger.read r (.header header)).2 =
      [] ++ (s.ledger.verdict r ++ ([] ++ ([] ++ ([] ++ ([] ++ []))))) := by
    simp [Ledger.read]
  rw [said]
  unfold enterSection
  apply heeds_cons spelling_ensures
  intro s₁ control₁ ledger₁
  rw [← ledger₁]
  apply heeds_cons judge_ensures
  intro s₂ control₂ ledger₂
  apply heeds_cons bequeath_ensures
  intro s₃ control₃ ledger₃
  apply heeds_cons widget_ensures
  intro s₄ control₄ ledger₄
  apply heeds_cons (heeds_report (f := fun _ => _) fun _ => heading_silent)
  intro s₅ control₅ ledger₅
  apply heeds_cons (ensures_update (f := fun s => { s with scope := s.scope.enter r header })
    ⟨rfl, rfl, id, fun _ => rfl⟩)
  intro s₆ control₆ ledger₆
  apply heeds_nil
  · change s₆.control = s₅.control at control₆
    rw [control₆, control₅, control₄, control₃, control₂, control₁]
  · simp only [State.ledger, Ledger.mk.injEq] at ledger₂ ledger₃ ledger₄ ledger₅ ledger₆
    simp only [State.ledger, Ledger.read, Ledger.enter, Ledger.close, Ledger.mk.injEq]
    constructor
    · rw [ledger₆.1, ledger₅.1, ledger₄.1, ledger₃.1, ledger₂.1]
    · rw [ledger₆.2, ledger₅.2, ledger₄.2, ledger₃.2, ledger₂.2]

theorem resume_ensures :
    Ensures (fun s => match s.scope.previous with
      | some header => .ok ({ s with scope := s.scope.resume header }, [.note (.leavingTags header.name)])
      | none => .ok (s, [])) s (Heeds number s.control s.ledger.resume [] s) := by
  cases before : s.scope.previous with
  | none =>
    refine ⟨s, [], by simp only [before], rfl, ?_, id, fun _ => rfl⟩
    simp [Ledger.resume, State.ledger, before]
  | some header =>
    refine ⟨{ s with scope := s.scope.resume header }, [.note (.leavingTags header.name)],
      by simp only [before], rfl, ?_, id, fun _ => rfl⟩
    simp [Ledger.resume, State.ledger, before]

theorem leaveTags_ensures :
    (leaveTags r).Ensures s (Heeds number s.control (s.ledger.close r).resume (s.ledger.verdict r) s) := by
  have said : s.ledger.verdict r = s.ledger.verdict r ++ ([] ++ ([] ++ [])) := by simp
  rw [said]
  unfold leaveTags
  apply heeds_cons judge_ensures
  intro s₁ control₁ ledger₁
  apply heeds_cons bequeath_ensures
  intro s₂ control₂ ledger₂
  apply heeds_cons resume_ensures
  intro s₃ control₃ ledger₃
  apply heeds_nil
  · rw [control₃, control₂, control₁]
  · rw [ledger₃, ledger₂]
    simp only [State.ledger, Ledger.mk.injEq] at ledger₁
    rw [ledger₁.1, ledger₁.2]
    rfl

/-! ## Lines -/

variable {line : List Char} {following : List (List Char)}

theorem templateMark_ensures :
    (templateMark other line).Ensures s (Heeds number s.control s.ledger [] s) := by
  apply heeds_report
  intro _
  apply demandsOn_eq_nil
  intro d member demand
  split at member
  · rw [List.mem_singleton] at member
    cases member
    cases demand
  · cases member

theorem tableRow_ensures (different : other ≠ number) :
    (tableRow other line).Ensures s (Heeds number s.control s.ledger [] s) := by
  apply heeds_report
  intro _
  refine demandsOn_of_allOn (?_ : AllOn other _) different
  split
  · exact allOn_nil
  · simp [Range.onLine]

theorem assignment?_of_allBlank (blank : allBlank line = true) : Line.assignment? line = none := by
  have empty : trimStart line = [] := List.dropWhile_eq_nil_iff.mpr (List.all_eq_true.mp blank)
  simp [Line.assignment?, empty]

theorem readAll_plain (notHeader : Line.header? line other = none)
    (notLeaving : (allBlank line && s.scope.name? == some "tags") = false) :
    s.ledger.readAll r (Reading.event? r ⟨s.control, other, line⟩).toList = (plainLedger r line s, []) := by
  cases blank : allBlank line with
  | true =>
    have notTags : (s.ledger.scope.name? == some "tags") = false := by
      simpa [blank, State.ledger] using notLeaving
    simp [Reading.event?, notHeader, blank, Ledger.readAll, Ledger.read, notTags, plainLedger,
      assignment?_of_allBlank blank]
  | false =>
    cases assigned : Line.assignment? line with
    | none => simp [Reading.event?, notHeader, blank, assigned, plainLedger, Ledger.readAll]
    | some a => simp [Reading.event?, notHeader, blank, assigned, plainLedger, Ledger.readAll, Ledger.read]

theorem content_ensures (armed : s.control.Armed) (apart : other = number → (Line.header? line other).isSome) :
    (content r other line).Ensures s (Heeds number s.control
      (s.ledger.readAll r (Reading.event? r ⟨s.control, other, line⟩).toList).1
      (s.ledger.readAll r (Reading.event? r ⟨s.control, other, line⟩).toList).2 s) := by
  unfold content
  rw [← List.nil_append (s.ledger.readAll r _).2]
  apply heeds_andThen templateMark_ensures
  intro s₁ control₁ ledger₁
  rw [← control₁, ← ledger₁]
  rw [← control₁] at armed
  cases headed : Line.header? line other with
  | some header =>
    simp only [Reading.event?, headed, Option.toList_some, Ledger.readAll, List.append_nil]
    exact enterSection_ensures
  | none =>
    cases leaving : (allBlank line && s₁.scope.name? == some "tags") with
    | true =>
      apply Ensures.congr (leaveTags r) (by simp only [leaving, if_true])
      have both := Bool.and_eq_true_iff.mp leaving
      have tags : (s₁.ledger.scope.name? == some "tags") = true := both.2
      simp only [Reading.event?, headed, both.1, if_true, Option.toList_some, Ledger.readAll, Ledger.read, tags,
        List.append_nil]
      exact leaveTags_ensures
    | false =>
      apply Ensures.congr (plainLine r other line) (by simp only [leaving, Bool.false_eq_true, if_false])
      rw [readAll_plain headed leaving]
      apply (plainLine_ensures armed).mono
      intro after found moved
      apply moved.heeds
      intro same
      have some := apart same
      rw [headed] at some
      cases some

theorem line_of_read (isRead : s.control.reads line = true) :
    Step.line r other line following s = ((content r other line).andThen
      ((Line.keywordAt? line other).elim skip (keywordLine other line following))) s := by
  simp only [Control.reads, State.control, Bool.and_eq_true, Bool.not_eq_true'] at isRead
  simp only [Step.line, Line.keyword_keywordAt?, isRead, Bool.false_eq_true, if_false]
  cases Line.keywordAt? line other <;> rfl

/-- Reading a line: the control and the ledger change by the line, and the demands on the line of a header
    are those of the verdict. -/
theorem line_ensures (armed : s.control.Armed)
    (apart : other = number → s.control.reads line = true ∧ (Line.header? line other).isSome) :
    (Step.line r other line following).Ensures s (Heeds number (s.control.next other line following)
      (s.ledger.readAll r (s.control.eventsAt r other line)).1
      (s.ledger.readAll r (s.control.eventsAt r other line)).2 s) := by
  have passed (notRead : s.control.reads line = false) : other ≠ number := by
    intro same
    rw [(apart same).1] at notRead
    cases notRead
  have passedOver (notRead : s.control.reads line = false) (step : Step)
      (ensured : step.Ensures s (Heeds number s.control s.ledger [] s)) :
      step.Ensures s (Heeds number (s.control.next other line following)
        (s.ledger.readAll r (s.control.eventsAt r other line)).1
        (s.ledger.readAll r (s.control.eventsAt r other line)).2 s) := by
    simpa [Control.next, Control.eventsAt, notRead, Ledger.readAll] using ensured
  cases script : s.blocks.inBody .script .endScript (Line.keyword? line) with
  | true =>
    have notRead : s.control.reads line = false := by simp [Control.reads, State.control, script]
    apply Ensures.congr skip (by simp only [Step.line, Line.keyword_keywordAt?, script, if_true])
    exact passedOver notRead _ (ensures_skip (.silent fun _ => rfl))
  | false =>
    cases table : s.blocks.inBody .csv .endCsv (Line.keyword? line) with
    | true =>
      have notRead : s.control.reads line = false := by simp [Control.reads, State.control, table]
      apply Ensures.congr (tableRow other line)
        (by simp only [Step.line, Line.keyword_keywordAt?, script, table, Bool.false_eq_true, if_false, if_true])
      exact passedOver notRead _ (tableRow_ensures (passed notRead))
    | false =>
      have isRead : s.control.reads line = true := by simp [Control.reads, State.control, script, table]
      apply Ensures.congr _ (line_of_read isRead)
      simp only [isRead, if_true, Control.next, Control.eventsAt]
      rw [← List.append_nil (s.ledger.readAll r _).2]
      apply heeds_andThen (content_ensures armed fun same => (apart same).2)
      intro s₁ control₁ ledger₁
      rw [← ledger₁, ← control₁]
      cases found : Line.keywordAt? line other with
      | none => exact ensures_skip (.silent fun _ => rfl)
      | some found =>
        apply (keywordLine_ensures (Line.line_keywordAt? found)).mono
        intro after more moved
        apply moved.heeds
        intro same
        -- A header has no keyword, so what a keyword reports stands on other lines.
        rw [Line.keywordAt?_of_header (apart same).2] at found
        cases found

theorem line_succeeds (r : Registry) (number : Nat) (line : List Char) (following : List (List Char))
    (armed : s.control.Armed) :
    ∃ after found, Step.line r number line following s = .ok (after, found) ∧ after.control.Armed ∧
      after.control = s.control.next number line following ∧
      after.ledger = (s.ledger.readAll r (s.control.eventsAt r number line)).1 := by
  -- The demands do not matter here, so those of another line are followed.
  obtain ⟨after, found, ran, heeds⟩ := @line_ensures (number + 1) s r number line following armed (by omega)
  have control : after.control = s.control.next number line following := heeds.control_eq
  refine ⟨after, found, ran, ?_, control, heeds.ledger_eq⟩
  rw [control]
  exact Control.next_armed armed

theorem control_of_line {after : State} {found : List Finding} (armed : s.control.Armed)
    (ran : Step.line r number line following s = .ok (after, found)) :
    after.control = s.control.next number line following := by
  obtain ⟨last, said, ranToo, -, control, -⟩ := line_succeeds r number line following armed
  obtain ⟨rfl, -⟩ := Prod.mk.inj (Except.ok.inj (ran.symm.trans ranToo))
  exact control

theorem armed_of_line {after : State} {found : List Finding} (armed : s.control.Armed)
    (ran : Step.line r number line following s = .ok (after, found)) : after.control.Armed := by
  rw [control_of_line armed ran]
  exact Control.next_armed armed

/-! ## Runs -/

/-- The given line is a header that is read, or it is none of the lines. -/
def HeaderOn (number : Nat) (c : Control) (other : Nat) (lines : List (List Char)) : Prop :=
  number < other ∨ other + lines.length ≤ number ∨
    ∃ x ∈ c.readings other lines, x.number = number ∧ (Line.header? x.line x.number).isSome

theorem HeaderOn.head {c : Control} (on : HeaderOn number c other (line :: following)) :
    other = number → c.reads line = true ∧ (Line.header? line other).isSome := by
  intro same
  rcases on with before | beyond | ⟨x, member, isNumber, headed⟩
  · omega
  · simp only [List.length_cons] at beyond
    omega
  · simp only [Control.readings] at member
    split at member
    · next isRead =>
      rcases List.mem_cons.mp member with rfl | later
      · exact ⟨isRead, headed⟩
      · have bound := Control.le_number_of_mem_readings later
        omega
    · have bound := Control.le_number_of_mem_readings member
      omega

theorem HeaderOn.tail {c : Control} (on : HeaderOn number c other (line :: following)) :
    HeaderOn number (c.next other line following) (other + 1) following := by
  rcases on with before | beyond | ⟨x, member, isNumber, headed⟩
  · exact .inl (by omega)
  · simp only [List.length_cons] at beyond
    exact .inr (.inl (by omega))
  · simp only [Control.readings] at member
    split at member
    · rcases List.mem_cons.mp member with rfl | later
      · exact .inl (by simp only at isNumber; omega)
      · exact .inr (.inr ⟨x, later, isNumber, headed⟩)
    · exact .inr (.inr ⟨x, member, isNumber, headed⟩)

theorem lines_ensures {lines : List (List Char)} (armed : s.control.Armed)
    (on : HeaderOn number s.control other lines) :
    (Step.lines r other lines).Ensures s (Heeds number (s.control.afterLines other lines)
      (s.ledger.readAll r (s.control.eventsFrom r other lines)).1
      (s.ledger.readAll r (s.control.eventsFrom r other lines)).2 s) := by
  induction lines generalizing other s with
  | nil => exact ensures_skip (.silent fun _ => rfl)
  | cons line following inductionHypothesis =>
    rw [Control.eventsFrom_cons, Ledger.readAll_append]
    apply heeds_andThen (line_ensures armed on.head)
    intro s₁ control₁ ledger₁
    rw [← ledger₁, Control.afterLines, ← control₁]
    apply inductionHypothesis
    · rw [control₁]
      exact Control.next_armed armed
    · rw [control₁]
      exact on.tail

theorem leftOpen_silent (clear : s.Clear number) : demandsOn number s.blocks.leftOpen = [] := by
  apply demandsOn_eq_nil
  intro d member _
  simp only [Blocks.leftOpen, List.mem_map] at member
  obtain ⟨b, isOpen, same⟩ := member
  cases same
  exact clear b.range (mem_kept.mpr (.inr (.inr ⟨b, isOpen, rfl⟩)))

theorem unresolvedNames_silent {measure : Measure} (clear : s.Clear number) :
    demandsOn number (s.names.unresolved measure) = [] := by
  apply demandsOn_eq_nil
  intro d member _
  simp only [Names.unresolved, List.mem_map, List.mem_filter] at member
  obtain ⟨m, ⟨pending, -⟩, same⟩ := member
  cases same
  exact clear m.range (mem_kept.mpr (.inr (.inl ⟨m, pending, rfl⟩)))

theorem finish_ensures :
    (finish r).Ensures s (Heeds number s.control ⟨(s.scope.judge r s.ledger.waived).1, s.values⟩
      (s.ledger.verdict r) s) := by
  have said : s.ledger.verdict r = [] ++ ([] ++ (s.ledger.verdict r ++ ([] ++ []))) := by simp
  rw [said]
  unfold finish
  apply heeds_cons (heeds_report unresolvedAliases_silent)
  intro s₁ control₁ ledger₁
  apply heeds_cons (heeds_report leftOpen_silent)
  intro s₂ control₂ ledger₂
  rw [← ledger₁, ← ledger₂]
  apply heeds_cons judge_ensures
  intro s₃ control₃ ledger₃
  apply heeds_cons (heeds_report unresolvedNames_silent)
  intro s₄ control₄ ledger₄
  apply heeds_nil
  · rw [control₄, control₃, control₂, control₁]
  · have same : s₂.ledger = s.ledger := ledger₂.trans ledger₁
    simp only [State.ledger, Ledger.mk.injEq] at same
    rw [ledger₄, ledger₃, same.1, same.2]

end Step

/-- What is said about the sections of a document, each when it ends. -/
def Document.verdicts (r : Registry) (text : String) : List Finding :=
  let read := ({} : Ledger).readAll r (Document.events r text)
  read.2 ++ read.1.verdict r

/-- A run never fails, and its demands on the line of a header are those of the verdicts. -/
theorem run_ensures {number : Nat} (r : Registry) (text : String)
    (on : Step.HeaderOn number {} 0 (Document.analysed text)) :
    ((Step.lines r 0 (Document.analysed text)).andThen (Step.finish r)).Ensures {} fun _ found =>
      demandsOn number found = demandsOn number (Document.verdicts r text) := by
  have armed : ({} : State).control.Armed := by
    intro conditional
    cases conditional
  have clear : State.Clear number {} := by
    intro range member
    cases member
  apply Step.ensures_andThen
  apply (Step.lines_ensures armed on).mono
  intro between found heeded
  apply Step.finish_ensures.mono
  intro after more finished
  rw [demandsOn_append, heeded.demands clear, finished.demands (heeded.clear clear), heeded.ledger_eq,
    ← demandsOn_append]
  rfl

theorem validate_demands (r : Registry) (text : String) :
    ∃ found, validate text r = .ok found ∧
      ∀ x ∈ Document.readings text, (Line.header? x.line x.number).isSome →
        (found.filter fun d => d.isDemand && d.range.start.line == x.number) =
          demandsOn x.number (Document.verdicts r text) := by
  obtain ⟨after, found, ran, -⟩ := run_ensures r text (.inr (.inl (Nat.le_refl _)))
  refine ⟨Finding.diagnostics found, ?_, ?_⟩
  · simp [validate, findings, Validator.run, Validator.new, runLines, ran, Except.map]
  · intro x member headed
    obtain ⟨_, _, ranToo, demands⟩ := run_ensures r text (.inr (.inr ⟨x, member, rfl, headed⟩))
    rw [ran] at ranToo
    cases ranToo
    exact demands

end ChartConfig
