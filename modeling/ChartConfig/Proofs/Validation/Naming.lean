import ChartConfig.Proofs.Validation.BlankLines
import ChartConfig.Proofs.Validation.Remark

/-!
# A run, seen by its names

Besides its control and its ledger, the names in use are a third part of a state that goes its own way: `Names.next`
says from the control and the line alone what a line does to them. Names are declared by template directives and by
the keywords of lists, variables, tables and loops; only `endfor` puts names out of use.
-/

namespace ChartConfig

open Text

/-! ## What lines do to names -/

namespace Names

def afterContent (n : Names) (number : Nat) (line : List Char) : Names :=
  if (Line.header? line number).isSome then n
  else (Line.templateDeclaration? line).elim n fun d => (n.declare .template number d.name).1

def afterKeyword (n : Names) (number : Nat) (line : List Char) : Keyword → Names
  | .endFor => n.closeLoop
  | .forBlock => (n.openLoop number line).1
  | .list => (n.declare? .list number (Line.listName? line)).1
  | .var => (n.declare? .var number (Line.varName? line)).1
  | .csv => (n.declare? .csv number (Line.csvName? line)).1
  | _ => n

def next (n : Names) (c : Control) (number : Nat) (line : List Char) : Names :=
  if c.reads line then
    (Line.keyword? line).elim (n.afterContent number line) ((n.afterContent number line).afterKeyword number line)
  else n

end Names

/-! ## Steps, seen by what they do to names -/

namespace Step

/-- If the step succeeds in the given state, the names given are in use after it. -/
def GivesNames (step : Step) (s : State) (n : Names) : Prop :=
  ∀ after found, step s = .ok (after, found) → after.names = n

variable {r : Registry} {number : Nat} {line : List Char} {first second step : Step} {s : State} {n : Names}

theorem GivesNames.andThen_keeps (given : first.GivesNames s n) (kept : second.Preserves State.names) :
    (first.andThen second).GivesNames s n := by
  intro after found ran
  obtain ⟨between, seen, more, firstRan, secondRan, -⟩ := andThen_eq_ok ran
  rw [kept between after more secondRan, given between seen firstRan]

theorem Preserves.givesNames (kept : step.Preserves State.names) (s : State) : step.GivesNames s s.names :=
  kept s

theorem Preserves.andThen_gives (kept : first.Preserves State.names)
    (given : ∀ between : State, between.names = s.names → second.GivesNames between n) :
    (first.andThen second).GivesNames s n := by
  intro after found ran
  obtain ⟨between, seen, more, firstRan, secondRan, -⟩ := andThen_eq_ok ran
  exact given between (kept s between seen firstRan) after more secondRan

theorem givesNames_onNames {between : State} (same : between.names = s.names)
    (change : Names → Names × List Finding) : (onNames change).GivesNames between (change s.names).1 := by
  intro after found ran
  cases ran
  rw [← same]

/-! ## The steps of a line -/

theorem keepsNames_known (a : Assignment) (setting : Setting) :
    (Assign.known r number line a setting).Preserves State.names := by
  refine preserves_all ?_
  simp only [List.forall_mem_cons]
  refine ⟨preserves_report _, preserves_update fun _ => rfl,
    preserves_ite preserves_skip (preserves_declare _ _ _ fun _ _ => rfl), preserves_report _, preserves_report _,
    preserves_ite (preserves_update fun _ => rfl) (preserves_report _),
    preserves_ite (preserves_onAliases _ fun _ _ => rfl) preserves_skip, preserves_update fun _ => rfl,
    List.forall_mem_nil _⟩

theorem keepsNames_assign (a : Assignment) : (Assign.step r number line a).Preserves State.names := by
  intro s after found ran
  simp only [Assign.step] at ran
  split at ran
  · cases ran
    rfl
  · split at ran
    · cases ran
      rfl
    · next setting isKnown =>
      have kept := keepsNames_known a setting _ after found ran
      exact kept

theorem keepsNames_enterSection (header : Header) : (enterSection r number header).Preserves State.names := by
  have widget : (newWidget r).Preserves State.names := by
    refine preserves_all ?_
    simp only [List.forall_mem_cons]
    exact ⟨preserves_report _, preserves_update fun _ => rfl, List.forall_mem_nil _⟩
  have bequeath : bequeath.Preserves State.names := preserves_update fun _ => rfl
  refine preserves_all ?_
  simp only [List.forall_mem_cons]
  exact ⟨preserves_report _, preserves_judge fun _ _ => rfl, bequeath, preserves_ite widget preserves_skip,
    preserves_report _, preserves_update fun _ => rfl, List.forall_mem_nil _⟩

theorem keepsNames_leaveTags : (leaveTags r).Preserves State.names := by
  have bequeath : bequeath.Preserves State.names := preserves_update fun _ => rfl
  refine preserves_all ?_
  simp only [List.forall_mem_cons]
  refine ⟨preserves_judge fun _ _ => rfl, bequeath, ?_, List.forall_mem_nil _⟩
  intro s after found ran
  cases previous : s.scope.previous with
  | some header =>
    simp only [previous] at ran
    cases ran
    rfl
  | none =>
    simp only [previous] at ran
    cases ran
    rfl

theorem assignmentPart_keepsNames :
    (match Line.assignment? line with
      | some a =>
        (Assign.step r number line a).andThen
          (onlyIf (·.blocks.isIn .forBlock) (report (Assign.loopIdentifiers r number line)))
      | none => skip).Preserves State.names := by
  cases Line.assignment? line with
  | none => exact preserves_skip
  | some a => exact (keepsNames_assign _).andThen (preserves_onlyIf (preserves_report _))

theorem plainLine_givesNames : (plainLine r number line).GivesNames s
    ((Line.templateDeclaration? line).elim s.names fun d => (s.names.declare .template number d.name).1) := by
  refine assignmentPart_keepsNames.andThen_gives fun between same => ?_
  refine GivesNames.andThen_keeps ?_ ((preserves_report _).andThen preserves_skip)
  cases Line.templateDeclaration? line with
  | some d => exact givesNames_onNames same _
  | none => exact same ▸ preserves_skip.givesNames between

theorem content_givesNames : (content r number line).GivesNames s (s.names.afterContent number line) := by
  refine (preserves_report _).andThen_gives fun between same => ?_
  simp only [Names.afterContent]
  cases headed : Line.header? line number with
  | some header => exact same ▸ (keepsNames_enterSection header).givesNames between
  | none =>
    intro after found ran
    simp only [Option.isSome_none, Bool.false_eq_true, if_false] at ran ⊢
    rw [← same]
    split at ran
    · next leaves =>
      rw [Bool.and_eq_true] at leaves
      rw [Line.templateDeclaration?_of_blank leaves.1]
      exact keepsNames_leaveTags between after found ran
    · exact plainLine_givesNames after found ran

theorem keyword_givesNames {following : List (List Char)} (found : KeywordAt) :
    (keyword number line following found).GivesNames s (s.names.afterKeyword number line found.keyword) := by
  have opening : (openBlock found).Preserves State.names := preserves_openBlock found fun _ _ => rfl
  have closing : (closeBlock found).Preserves State.names := preserves_closeBlock found fun _ _ => rfl
  have condition : (setCondition found).Preserves State.names := preserves_update fun _ => rfl
  obtain ⟨kind, range⟩ := found
  simp only [keyword, Names.afterKeyword]
  cases kind with
  | importing => exact preserves_skip.givesNames s
  | ifBlock => exact condition s
  | elseIf | elseBlock => exact (condition.andThen (preserves_report _)).givesNames s
  | endIf | endList | endVar | endCsv | endScript => exact closing s
  | forBlock => exact givesNames_onNames rfl _
  | endFor =>
    have left : (update fun s => { s with names := s.names.closeLoop }).GivesNames s s.names.closeLoop := by
      intro after said ran
      cases ran
      rfl
    exact left.andThen_keeps closing
  | list =>
    exact (givesNames_onNames rfl _).andThen_keeps (preserves_ite opening preserves_skip)
  | var =>
    exact (preserves_ite opening preserves_skip).andThen_gives fun between same =>
      givesNames_onNames same _
  | csv =>
    have header : (update fun s =>
        { s with csvColumns := ((tableHeader line following).map Csv.columns).getD 0 }).Preserves State.names :=
      preserves_update fun _ => rfl
    have declared := givesNames_onNames (s := s) rfl (·.declare? .csv number (Line.csvName? line))
    exact declared.andThen_keeps (header.andThen preserves_skip)
  | script =>
    exact (preserves_ite preserves_skip (opening.andThen (preserves_report _))).givesNames s

theorem keywordLine_givesNames {following : List (List Char)} (found : KeywordAt) :
    (keywordLine number line following found).GivesNames s
      (s.names.afterKeyword number line found.keyword) := by
  refine (preserves_report _).andThen_gives fun first same => ?_
  have opening : (openBlock found).Preserves State.names := preserves_openBlock found fun _ _ => rfl
  refine (preserves_ite opening preserves_skip).andThen_gives fun second sameToo => ?_
  rw [← same, ← sameToo]
  exact (keyword_givesNames found).andThen_keeps preserves_skip

/-- What a line does to the names in use is told by the control and the line. -/
theorem names_of_line {following : List (List Char)} {after : State} {found : List Finding}
    (ran : Step.line r number line following s = .ok (after, found)) :
    after.names = s.names.next s.control number line := by
  simp only [Step.line, Line.keyword_keywordAt?] at ran
  simp only [Names.next, Control.reads, State.control]
  split at ran
  · next script =>
    cases ran
    simp [script]
  · next script =>
    split at ran
    · next table =>
      cases ran
      simp [table]
    · next table =>
      simp only [Bool.not_eq_true] at script table
      simp only [script, table, Bool.not_false, Bool.and_self, if_true]
      obtain ⟨between, seen, more, content, rest, -⟩ := andThen_eq_ok ran
      rw [← content_givesNames between seen content]
      cases isFound : Line.keywordAt? line number with
      | none =>
        have noKeyword : Line.keyword? line = none := Line.keywordAt?_eq_none.mp isFound
        rw [isFound] at rest
        rw [noKeyword]
        exact preserves_skip.givesNames between after more rest
      | some keyword =>
        rw [isFound] at rest
        rw [Line.keyword?_eq isFound]
        exact keywordLine_givesNames keyword after more rest

end Step

end ChartConfig
