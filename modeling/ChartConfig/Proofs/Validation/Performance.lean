import ChartConfig.Proofs.Validation.Account

/-!
# Runs do what their accounts say

Each step that a line is made of leaves the aliases and the parameters, and tells what it tells, as the account says.
So the diagnostics of a run are those of its account, and every part of the state after a line is told from those
before it.
-/

namespace ChartConfig

open Text Finding

/-! ## Steps, seen by their acts -/

namespace Step

/-- If the step succeeds in the given state, it leaves aliases and parameters as given and tells what the acts
    tell. -/
def Performs (step : Step) (r : Registry) (s : State) (aliases : Aliases) (parameters : List String)
    (acts : List Act) : Prop :=
  ∀ after found, step s = .ok (after, found) →
    after.aliases = aliases ∧ after.parameters = parameters ∧ diagnostics found = acts.flatMap (Act.said r)

variable {r : Registry} {number : Nat} {line : List Char} {first second step : Step} {rest : List Step} {s : State}
  {aliases moreAliases : Aliases} {parameters moreParameters : List String} {acts more : List Act}

theorem Performs.andThen (performed : first.Performs r s aliases parameters acts)
    (thenSecond : ∀ between found, first s = .ok (between, found) → between.aliases = aliases →
      between.parameters = parameters → second.Performs r between moreAliases moreParameters more) :
    (first.andThen second).Performs r s moreAliases moreParameters (acts ++ more) := by
  intro after found ran
  obtain ⟨between, seen, rest, firstRan, secondRan, rfl⟩ := andThen_eq_ok ran
  obtain ⟨sameAliases, sameParameters, told⟩ := performed between seen firstRan
  obtain ⟨aliasesAfter, parametersAfter, toldMore⟩ :=
    thenSecond between seen firstRan sameAliases sameParameters after rest secondRan
  exact ⟨aliasesAfter, parametersAfter, by rw [diagnostics_append, told, toldMore, List.flatMap_append]⟩

theorem performs_tells (preserved : step.Preserves fun s => (s.aliases, s.parameters)) :
    step.Performs r s s.aliases s.parameters [.tells (step.found s)] := by
  intro after found ran
  obtain ⟨sameAliases, sameParameters⟩ := Prod.mk.injEq .. ▸ preserved s after found ran
  exact ⟨sameAliases, sameParameters, by simp [Step.found, ran]⟩

theorem performs_skip : skip.Performs r s s.aliases s.parameters [] := by
  intro after found ran
  cases ran
  exact ⟨rfl, rfl, rfl⟩

theorem performs_update {change : State → State} :
    (update change).Performs r s (change s).aliases (change s).parameters [] := by
  intro after found ran
  cases ran
  exact ⟨rfl, rfl, rfl⟩

theorem performs_report {told : State → List Finding} (same : diagnostics (told s) = acts.flatMap (Act.said r)) :
    (report told).Performs r s s.aliases s.parameters acts := by
  intro after found ran
  cases ran
  exact ⟨rfl, rfl, same⟩

theorem Performs.cons (performed : step.Performs r s aliases parameters acts)
    (thenRest : ∀ between found, step s = .ok (between, found) → between.aliases = aliases →
      between.parameters = parameters → (all rest).Performs r between moreAliases moreParameters more) :
    (all (step :: rest)).Performs r s moreAliases moreParameters (acts ++ more) :=
  performed.andThen thenRest

theorem Performs.single (performed : step.Performs r s aliases parameters acts) :
    (all [step]).Performs r s aliases parameters acts := by
  change (step.andThen skip).Performs r s aliases parameters acts
  rwa [andThen_skip]

theorem Performs.acts_eq (performed : step.Performs r s aliases parameters acts) (same : acts = more) :
    step.Performs r s aliases parameters more :=
  same ▸ performed

/-! ### Assignments -/

theorem preserves_declaring {α : Type} {part : State → α} (a : Assignment) (setting : Setting)
    (same : ∀ s scope, part { s with scope } = part s) :
    (Assign.declaring r number a setting).Preserves part := by
  refine preserves_all ?_
  simp only [List.forall_mem_cons]
  exact ⟨preserves_report _, preserves_update fun s => same s _,
    preserves_ite preserves_skip (preserves_declare _ _ _ same), preserves_report _, preserves_report _,
    List.forall_mem_nil _⟩

theorem naming_performs (a : Assignment) (setting : Setting) :
    (Assign.naming r number line a setting).Performs r s
      ((if setting.name == "alias" then (s.aliases.declare number line).1 else s.aliases).use number line)
      (if setting.name == "urlparameters" then Assign.addressParameters a.value else s.parameters)
      ((if setting.name == "urlparameters" then []
        else (Assign.templateMisses number a.value s.names).map (.misses .templateWord)) ++
      if setting.name == "alias" then (s.aliases.repeated number line).map .repeatsAlias else []) := by
  have value : (if setting.name == "urlparameters" then
        update fun s => { s with parameters := Assign.addressParameters a.value }
      else report (Assign.templateWords r number a.value)).Performs r s s.aliases
      (if setting.name == "urlparameters" then Assign.addressParameters a.value else s.parameters)
      (if setting.name == "urlparameters" then []
        else (Assign.templateMisses number a.value s.names).map (.misses .templateWord)) := by
    split
    · exact performs_update
    · exact performs_report (by rw [Assign.diagnostics_templateWords, Act.said_misses])
  have declared (s : State) : (if setting.name == "alias" then onAliases (·.declare number line) else skip).Performs r s
      (if setting.name == "alias" then (s.aliases.declare number line).1 else s.aliases) s.parameters
      (if setting.name == "alias" then (s.aliases.repeated number line).map .repeatsAlias else []) := by
    split
    · intro after found ran
      cases ran
      exact ⟨rfl, rfl, Aliases.diagnostics_declare r s.aliases number line⟩
    · exact performs_skip
  refine value.andThen fun s₁ _ _ aliases₁ parameters₁ => ?_
  rw [← aliases₁, ← parameters₁]
  rw [← List.append_nil (if setting.name == "alias" then _ else [])]
  refine (declared s₁).andThen fun s₂ _ _ aliases₂ parameters₂ => ?_
  rw [← aliases₂, ← parameters₂]
  exact performs_update.single

theorem known_performs (a : Assignment) (setting : Setting) :
    (Assign.known r number line a setting).Performs r s
      ((if setting.name == "alias" then (s.aliases.declare number line).1 else s.aliases).use number line)
      (if setting.name == "urlparameters" then Assign.addressParameters a.value else s.parameters)
      (s.settingActs r number line a setting) := by
  have declared : (Assign.declaring r number a setting).Preserves fun s => (s.aliases, s.parameters) :=
    preserves_declaring a setting fun _ _ => rfl
  intro after found ran
  rw [Assign.known_eq] at ran
  refine (performs_tells declared).andThen (fun s₁ found₁ ran₁ aliases₁ parameters₁ => ?_) after found ran
  have names₁ : s₁.names = s.names := preserves_declaring a setting (fun _ _ => rfl) s s₁ found₁ ran₁
  rw [← aliases₁, ← parameters₁, ← names₁]
  exact naming_performs a setting

theorem assign_performs (a : Assignment) (assigned : Line.assignment? line = some a)
    (notHeader : Line.header? line number = none) :
    (Assign.step r number line a).Performs r s (s.aliasesAfter r number line) (s.parametersAfter r number line)
      (if s.scope.holdsTags then [.tells (Assign.tag r a.name (a.name.range number))]
        else match r.lookup a.name.word with
          | none => (Assign.settingMisses r a.name (a.name.range number) s).map (.misses .settingName)
          | some setting => (s.noting a).settingActs r number line a setting) := by
  intro after found ran
  simp only [State.aliasesAfter, State.parametersAfter, notHeader, State.setting?, assigned, Option.bind_some]
  simp only [Assign.step] at ran
  cases tags : s.scope.holdsTags with
  | true =>
    simp only [tags, if_true] at ran ⊢
    cases ran
    exact ⟨rfl, rfl, by simp⟩
  | false =>
    simp only [tags, Bool.false_eq_true, if_false] at ran ⊢
    cases isSetting : r.lookup a.name.word with
    | none =>
      simp only [isSetting] at ran
      cases ran
      exact ⟨rfl, rfl, by rw [Act.said_misses]; exact Assign.diagnostics_unknownSetting r a.name _ s⟩
    | some setting =>
      simp only [isSetting] at ran
      exact known_performs a setting after found ran

theorem assignment_performs (armed : s.control.Armed) (a : Assignment) (assigned : Line.assignment? line = some a)
    (notHeader : Line.header? line number = none) :
    ((Assign.step r number line a).andThen
      (onlyIf (·.blocks.isIn .forBlock) (report (Assign.loopIdentifiers r number line)))).Performs r s
      (s.aliasesAfter r number line) (s.parametersAfter r number line) (s.assignmentActs r number line a) := by
  refine (assign_performs a assigned notHeader).andThen fun s₁ found₁ ran₁ aliases₁ parameters₁ => ?_
  have names₁ : s₁.names = s.names := keepsNames_assign a s s₁ found₁ ran₁
  have blocks₁ : s₁.blocks = s.blocks := by
    obtain ⟨_, _, ranToo, moved⟩ := @Assign.step_ensures r number line s armed a
    rw [ran₁] at ranToo
    cases ranToo
    exact congrArg Control.blocks moved.control_eq
  rw [← aliases₁, ← parameters₁, ← names₁, ← blocks₁]
  intro after found ran
  cases looping : s₁.blocks.isIn .forBlock with
  | false =>
    simp only [onlyIf, looping, Bool.false_eq_true, if_false] at ran ⊢
    exact performs_skip after found ran
  | true =>
    simp only [onlyIf, looping, if_true] at ran ⊢
    refine performs_report ?_ after found ran
    rw [Assign.diagnostics_loopIdentifiers, Act.said_misses]

/-! ### Plain lines -/

theorem assignmentPart_performs (armed : s.control.Armed) (notHeader : Line.header? line number = none) :
    (match Line.assignment? line with
      | some a =>
        (Assign.step r number line a).andThen
          (onlyIf (·.blocks.isIn .forBlock) (report (Assign.loopIdentifiers r number line)))
      | none => skip).Performs r s (s.aliasesAfter r number line) (s.parametersAfter r number line)
      ((Line.assignment? line).elim [] (s.assignmentActs r number line)) := by
  cases assigned : Line.assignment? line with
  | none =>
    have noSetting : s.setting? r line = none := by simp [State.setting?, assigned]
    simp only [State.aliasesAfter, State.parametersAfter, notHeader, noSetting, Option.elim_none]
    exact performs_skip
  | some a => exact assignment_performs armed a assigned notHeader

theorem templatePart_performs :
    (match Line.templateDeclaration? line with
      | some d => onNames (·.declareTemplate r.measure number d)
      | none => skip).Performs r s s.aliases s.parameters ((Line.templateDeclaration? line).elim []
        (fun d => (s.names.templateMisses number d).map (.misses .templateCollection))) := by
  cases Line.templateDeclaration? line with
  | none => exact performs_skip
  | some d =>
    intro after found ran
    cases ran
    refine ⟨rfl, rfl, ?_⟩
    rw [Option.elim_some, Act.said_misses]
    exact Names.diagnostics_declareTemplate s.names r.measure number d

theorem plainLine_performs (armed : s.control.Armed) (notHeader : Line.header? line number = none) :
    (plainLine r number line).Performs r s (s.aliasesAfter r number line) (s.parametersAfter r number line)
      (s.plainActs r number line) := by
  rw [State.plainActs, List.append_assoc]
  refine (assignmentPart_performs armed notHeader).andThen fun s₁ found₁ ran₁ aliases₁ parameters₁ => ?_
  have names₁ : s₁.names = s.names := assignmentPart_keepsNames s s₁ found₁ ran₁
  rw [← aliases₁, ← parameters₁, ← names₁]
  refine templatePart_performs.andThen fun s₂ _ _ aliases₂ parameters₂ => ?_
  rw [← aliases₂, ← parameters₂]
  refine (performs_report ?_).single
  cases Line.unclosedHeader? line number <;> simp

/-! ### Sections -/

theorem judge_performs : (judge r).Performs r s s.aliases s.parameters (s.judgementActs r) := by
  intro after found ran
  cases ran
  exact ⟨rfl, rfl, Ledger.diagnostics_verdict s.ledger r⟩

theorem spelling_performs (h : Header) :
    (spelling r h).Performs r s s.aliases s.parameters (h.misses.map (.misses .sectionName)) := by
  refine performs_report ?_
  rw [Act.said_misses]
  simp only [Header.misses]
  split <;> rfl

theorem unresolvedAliases_performs :
    (report fun s => s.aliases.unresolved r.measure).Performs r s s.aliases s.parameters
      (s.aliases.misses.map (.misses .aliasUse)) :=
  performs_report (by rw [Act.said_misses, Aliases.diagnostics_unresolved])

theorem newWidget_performs :
    (newWidget r).Performs r s {} s.parameters (s.aliases.misses.map (.misses .aliasUse)) := by
  refine (unresolvedAliases_performs.cons fun s₁ _ _ _ parameters₁ => ?_).acts_eq (List.append_nil _)
  rw [← parameters₁]
  exact performs_update.single

theorem enterSection_performs (h : Header) :
    (enterSection r number h).Performs r s
      (if occursIn "widget".toList h.name.toList then {} else s.aliases) s.parameters (s.sectionActs r h) := by
  have widget (s : State) : (if occursIn "widget".toList h.name.toList then newWidget r else skip).Performs r s
      (if occursIn "widget".toList h.name.toList then {} else s.aliases) s.parameters
      (if occursIn "widget".toList h.name.toList then s.aliases.misses.map (.misses .aliasUse) else []) := by
    split
    · exact newWidget_performs
    · exact performs_skip
  have headed (s : State) : (report fun _ =>
      (if h.name == "tag" then [.warning h.range Message.deprecatedTagSection] else []) ++
        [.note (.entering number h.name)]).Performs r s s.aliases s.parameters
      [.tells (if h.name == "tag" then [.warning h.range Message.deprecatedTagSection] else [])] :=
    performs_report (by simp [diagnostics, diagnostic?])
  simp only [State.sectionActs, List.append_assoc]
  refine (spelling_performs h).andThen fun s₁ found₁ ran₁ aliases₁ parameters₁ => ?_
  -- Looking at the name changes nothing, so the section that ends is judged as it stood before.
  have ledger₁ : s₁.ledger = s.ledger := by
    cases ran₁
    rfl
  rw [← aliases₁, ← parameters₁, State.judgementActs, ← ledger₁, ← State.judgementActs]
  refine judge_performs.andThen fun s₂ _ _ aliases₂ parameters₂ => ?_
  rw [← aliases₂, ← parameters₂, ← List.nil_append (_ ++ [_])]
  refine performs_update.andThen fun s₃ _ _ aliases₃ parameters₃ => ?_
  dsimp only at aliases₃ parameters₃
  rw [← aliases₃, ← parameters₃]
  refine (widget s₃).andThen fun s₄ _ _ aliases₄ parameters₄ => ?_
  rw [← aliases₄, ← parameters₄]
  refine ((headed s₄).cons fun s₅ _ _ aliases₅ parameters₅ => ?_).acts_eq (List.append_nil _)
  rw [← aliases₅, ← parameters₅]
  exact performs_update.single

theorem resume_performs :
    Performs (fun s => match s.scope.previous with
      | some header => .ok ({ s with scope := s.scope.resume header }, [.note (.leavingTags header.name)])
      | none => .ok (s, [])) r s s.aliases s.parameters [] := by
  intro after found ran
  cases isPrevious : s.scope.previous <;>
  · simp only [isPrevious] at ran
    cases ran
    exact ⟨rfl, rfl, rfl⟩

theorem leaveTags_performs : (leaveTags r).Performs r s s.aliases s.parameters (s.judgementActs r) := by
  refine (judge_performs.cons fun s₁ _ _ aliases₁ parameters₁ => ?_).acts_eq (List.append_nil _)
  rw [← aliases₁, ← parameters₁]
  refine (performs_update.cons fun s₂ _ _ aliases₂ parameters₂ => ?_).acts_eq (List.append_nil _)
  rw [← aliases₂, ← parameters₂]
  exact resume_performs.single

/-! ### Lines -/

theorem content_performs (armed : s.control.Armed) :
    (content r number line).Performs r s (s.aliasesAfter r number line) (s.parametersAfter r number line)
      (s.contentActs r number line) := by
  refine Performs.andThen (performs_tells (preserves_report _)) fun s₁ found₁ ran₁ _ _ => ?_
  obtain rfl : s₁ = s := by
    cases ran₁
    rfl
  cases headed : Line.header? line number with
  | some h =>
    simp only [State.aliasesAfter, State.parametersAfter, headed]
    exact enterSection_performs h
  | none =>
    intro after found ran
    dsimp only at ran ⊢
    split at ran
    · next leaves =>
      have noSetting : s₁.setting? r line = none := by
        simp [State.setting?, assignment?_of_allBlank (Bool.and_eq_true_iff.mp leaves).1]
      simp only [State.aliasesAfter, State.parametersAfter, headed, noSetting, leaves, if_true]
      exact leaveTags_performs after found ran
    · next goesOn =>
      rw [if_neg goesOn]
      exact plainLine_performs armed headed after found ran

theorem preserves_openTable {α : Type} {part : State → α} {following : List (List Char)}
    (sameNames : ∀ s names, part { s with names } = part s)
    (sameColumns : ∀ s csvColumns, part { s with csvColumns } = part s) :
    (openTable number line following).Preserves part := by
  refine preserves_all ?_
  simp only [List.forall_mem_cons]
  exact ⟨preserves_onNames _ sameNames, preserves_update fun s => sameColumns s _, List.forall_mem_nil _⟩

theorem preserves_keywordLine {α : Type} {part : State → α} {following : List (List Char)} (found : KeywordAt)
    (sameBlocks : ∀ s blocks, part { s with blocks } = part s)
    (sameNames : ∀ s names, part { s with names } = part s)
    (sameColumns : ∀ s csvColumns, part { s with csvColumns } = part s)
    (sameCondition : ∀ s condition, part { s with condition } = part s) :
    (keywordLine number line following found).Preserves part := by
  have opening : (openBlock found).Preserves part := preserves_openBlock found sameBlocks
  have closing : (closeBlock found).Preserves part := preserves_closeBlock found sameBlocks
  have condition : (setCondition found).Preserves part := preserves_update fun s => sameCondition s _
  have handled : (keyword number line following found).Preserves part := by
    obtain ⟨kind, range⟩ := found
    simp only [keyword]
    cases kind with
    | importing => exact preserves_skip
    | ifBlock => exact condition
    | elseIf | elseBlock => exact condition.andThen (preserves_report _)
    | endIf | endList | endVar | endCsv | endScript => exact closing
    | forBlock => exact preserves_onNames _ sameNames
    | endFor => exact Preserves.andThen (preserves_update fun s => sameNames s _) closing
    | list => exact Preserves.andThen (preserves_onNames _ sameNames) (preserves_ite opening preserves_skip)
    | var => exact Preserves.andThen (preserves_ite opening preserves_skip) (preserves_onNames _ sameNames)
    | csv => exact preserves_openTable sameNames sameColumns
    | script => exact preserves_ite preserves_skip (opening.andThen (preserves_report _))
  refine preserves_all ?_
  simp only [List.forall_mem_cons]
  exact ⟨preserves_report _, preserves_ite opening preserves_skip, handled, List.forall_mem_nil _⟩

theorem line_performs {following : List (List Char)} (armed : s.control.Armed) :
    (Step.line r number line following).Performs r s
      (if s.control.reads line then s.aliasesAfter r number line else s.aliases)
      (if s.control.reads line then s.parametersAfter r number line else s.parameters)
      (s.lineActs r number line following) := by
  intro after found ran
  simp only [Step.line, Line.keyword_keywordAt?] at ran
  simp only [State.lineActs, Control.reads, State.control]
  split at ran
  · next script =>
    cases ran
    simp [script]
  · next script =>
    split at ran
    · next table =>
      obtain ⟨sameAliases, sameParameters, told⟩ := performs_tells (preserves_report _) after found ran
      simp only [script, table, Bool.not_true, Bool.and_false, Bool.false_eq_true, if_false, if_true]
      exact ⟨sameAliases, sameParameters, told⟩
    · next table =>
      simp only [Bool.not_eq_true] at script table
      simp only [script, table, Bool.not_false, Bool.and_self, Bool.false_eq_true, if_false, if_true]
      refine (content_performs armed).andThen (fun s₁ found₁ ran₁ aliases₁ parameters₁ => ?_) after found ran
      rw [← aliases₁, ← parameters₁]
      cases isFound : Line.keywordAt? line number with
      | none => exact performs_skip
      | some keyword =>
        have same : (content r number line).after s = s₁ := by simp [Step.after, ran₁]
        rw [Option.elim_some, same]
        exact performs_tells (preserves_keywordLine keyword (fun _ _ => rfl) (fun _ _ => rfl) (fun _ _ => rfl)
          fun _ _ => rfl)

theorem finish_performs : (finish r).Performs r s s.aliases s.parameters (s.lastActs r) := by
  have blocks (s : State) : (report fun s => s.blocks.leftOpen).Performs r s s.aliases s.parameters
      [.tells s.blocks.leftOpen] :=
    performs_report (by simp)
  have names (s : State) : (report fun s => s.names.unresolved r.measure).Performs r s s.aliases s.parameters
      (s.names.misses.map (.misses .loopCollection)) :=
    performs_report (by rw [Act.said_misses, Names.diagnostics_unresolved])
  simp only [State.lastActs, List.append_assoc]
  refine unresolvedAliases_performs.cons fun s₁ _ ran₁ _ _ => ?_
  cases ran₁
  refine (blocks s).cons fun s₂ _ ran₂ _ _ => ?_
  cases ran₂
  refine judge_performs.cons fun s₃ _ ran₃ aliases₃ parameters₃ => ?_
  have names₃ : s₃.names = s.names := by
    cases ran₃
    rfl
  rw [← aliases₃, ← parameters₃, ← names₃]
  exact (names s₃).single

/-! ## Runs -/

/-- The parts of the state after a line are told from those before it. -/
structure Follows (s : State) (r : Registry) (number : Nat) (line : List Char)
    (following : List (List Char)) (after : State) : Prop where
  armed : after.control.Armed
  control : after.control = s.control.next number line following
  ledger : after.ledger = (s.ledger.readAll r (s.control.eventsAt r number line)).1
  names : after.names = s.names.next s.control number line
  aliases : after.aliases = if s.control.reads line then s.aliasesAfter r number line else s.aliases
  parameters : after.parameters = if s.control.reads line then s.parametersAfter r number line else s.parameters

theorem line_follows {following : List (List Char)} (armed : s.control.Armed) :
    Follows s r number line following ((Step.line r number line following).after s) := by
  obtain ⟨after, found, ran, stillArmed, control, ledger⟩ := line_succeeds r number line following armed
  have same : (Step.line r number line following).after s = after := by simp only [Step.after, ran]
  obtain ⟨aliases, parameters, -⟩ := line_performs armed after found ran
  rw [same]
  exact ⟨stillArmed, control, ledger, names_of_line ran, aliases, parameters⟩

theorem run_performs {lines : List (List Char)} {after : State} {found : List Finding} (armed : s.control.Armed)
    (ran : ((Step.lines r number lines).andThen (finish r)) s = .ok (after, found)) :
    diagnostics found = (Step.acts r number lines s).flatMap (Act.said r) := by
  induction lines generalizing number s found with
  | nil =>
    simp only [Step.lines, skip_andThen] at ran
    exact (finish_performs after found ran).2.2
  | cons line following inductionHypothesis =>
    simp only [Step.lines, andThen_assoc] at ran
    obtain ⟨between, seen, more, first, rest, rfl⟩ := andThen_eq_ok ran
    have same : (Step.line r number line following).after s = between := by simp [Step.after, first]
    rw [Step.acts, same, List.flatMap_append, diagnostics_append, (line_performs armed between seen first).2.2,
      inductionHypothesis (armed_of_line armed first) rest]

end Step

/-- The diagnostics of a document are those of its account. -/
theorem validate_eq_acts (r : Registry) (text : String) :
    validate text r = .ok ((Document.acts r text).flatMap (Act.said r)) := by
  obtain ⟨after, found, ran⟩ := Step.run_succeeds r 0 (Document.analysed text) State.armed_initial
  rw [validate_of_run ran, Step.run_performs State.armed_initial ran, Document.acts]

end ChartConfig
