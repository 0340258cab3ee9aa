import ChartConfig.Validation.Step

/-!
# Outcomes of steps

`Ensures` says that a step succeeds and that the state and the findings it gives are as asked. Each way of
putting steps together has one lemma, so a proof about a line follows the way the line is read and never
opens the result of a step by hand.
-/

namespace ChartConfig.Step

/-- The step succeeds in the given state, with a state and findings as asked. -/
def Ensures (step : Step) (s : State) (post : State → List Finding → Prop) : Prop :=
  ∃ after found, step s = .ok (after, found) ∧ post after found

variable {s : State} {step first second : Step} {post weaker : State → List Finding → Prop}

theorem Ensures.mono (ensured : step.Ensures s post)
    (implied : ∀ after found, post after found → weaker after found) : step.Ensures s weaker := by
  obtain ⟨after, found, ran, holds⟩ := ensured
  exact ⟨after, found, ran, implied after found holds⟩

theorem Ensures.congr (second : Step) (same : first s = second s) (ensured : second.Ensures s post) :
    first.Ensures s post := by
  obtain ⟨after, found, ran, holds⟩ := ensured
  exact ⟨after, found, same.trans ran, holds⟩

theorem ensures_of_eq {after : State} {found : List Finding} (ran : step s = .ok (after, found))
    (holds : post after found) : step.Ensures s post :=
  ⟨after, found, ran, holds⟩

theorem ensures_skip (holds : post s []) : skip.Ensures s post :=
  ensures_of_eq rfl holds

theorem ensures_update {f : State → State} (holds : post (f s) []) : (update f).Ensures s post :=
  ensures_of_eq rfl holds

theorem ensures_report {f : State → List Finding} (holds : post s (f s)) : (report f).Ensures s post :=
  ensures_of_eq rfl holds

theorem ensures_onNames {f : Names → Names × List Finding}
    (holds : post { s with names := (f s.names).1 } (f s.names).2) : (onNames f).Ensures s post :=
  ensures_of_eq rfl holds

theorem ensures_onAliases {f : Aliases → Aliases × List Finding}
    (holds : post { s with aliases := (f s.aliases).1 } (f s.aliases).2) : (onAliases f).Ensures s post :=
  ensures_of_eq rfl holds

theorem ensures_andThen
    (ensured : first.Ensures s fun between found =>
      second.Ensures between fun after more => post after (found ++ more)) :
    (first.andThen second).Ensures s post := by
  obtain ⟨between, found, firstRan, after, more, secondRan, holds⟩ := ensured
  refine ⟨after, found ++ more, ?_, holds⟩
  simp only [andThen, firstRan, secondRan]

theorem ensures_all_cons {rest : List Step}
    (ensured : step.Ensures s fun between found =>
      (all rest).Ensures between fun after more => post after (found ++ more)) :
    (all (step :: rest)).Ensures s post :=
  ensures_andThen ensured

theorem ensures_all_nil (holds : post s []) : (all []).Ensures s post :=
  ensures_skip holds

/-! ## What a step leaves alone -/

theorem andThen_eq_ok {after : State} {found : List Finding} (ran : first.andThen second s = .ok (after, found)) :
    ∃ between some more, first s = .ok (between, some) ∧ second between = .ok (after, more) ∧ found = some ++ more := by
  simp only [andThen] at ran
  split at ran
  · cases ran
  · next between some firstRan =>
    split at ran
    · cases ran
    · next last more secondRan =>
      cases ran
      exact ⟨between, some, more, firstRan, secondRan, rfl⟩

/-- Whenever the step succeeds, the part of the state is what it was before. -/
def Preserves {α : Type} (step : Step) (part : State → α) : Prop :=
  ∀ s after found, step s = .ok (after, found) → part after = part s

variable {α : Type} {part : State → α}

theorem Preserves.andThen (ofFirst : first.Preserves part) (ofSecond : second.Preserves part) :
    (first.andThen second).Preserves part := by
  intro s after found ran
  obtain ⟨between, seen, more, firstRan, secondRan, -⟩ := andThen_eq_ok ran
  rw [ofSecond between after more secondRan, ofFirst s between seen firstRan]

theorem preserves_skip : skip.Preserves part := by
  intro s after found ran
  cases ran
  rfl

theorem preserves_report (told : State → List Finding) : (report told).Preserves part := by
  intro s after found ran
  cases ran
  rfl

theorem preserves_update {change : State → State} (same : ∀ s, part (change s) = part s) :
    (update change).Preserves part := by
  intro s after found ran
  cases ran
  exact same s

theorem preserves_onNames (change : Names → Names × List Finding)
    (same : ∀ s names, part { s with names } = part s) : (onNames change).Preserves part := by
  intro s after found ran
  cases ran
  exact same s _

theorem preserves_onAliases (change : Aliases → Aliases × List Finding)
    (same : ∀ s aliases, part { s with aliases } = part s) : (onAliases change).Preserves part := by
  intro s after found ran
  cases ran
  exact same s _

theorem preserves_judge {r : Registry} (same : ∀ s scope, part { s with scope } = part s) :
    (judge r).Preserves part := by
  intro s after found ran
  cases ran
  exact same s _

theorem preserves_declare (setting : Setting) (name : String) (range : Range)
    (same : ∀ s scope, part { s with scope } = part s) : (Assign.declare setting name range).Preserves part := by
  intro s after found ran
  simp only [Assign.declare] at ran
  split at ran
  · split at ran <;> cases ran
    exact same s _
  · cases ran
    exact same s _

theorem preserves_openBlock (found : KeywordAt) (same : ∀ s blocks, part { s with blocks } = part s) :
    (openBlock found).Preserves part :=
  preserves_update fun s => same s _

theorem preserves_closeBlock (found : KeywordAt) (same : ∀ s blocks, part { s with blocks } = part s) :
    (closeBlock found).Preserves part := by
  intro s after told ran
  simp only [closeBlock] at ran
  split at ran <;> cases ran
  exact same s _

theorem preserves_all {steps : List Step} (each : ∀ step ∈ steps, step.Preserves part) :
    (all steps).Preserves part := by
  induction steps with
  | nil => exact preserves_skip
  | cons step rest inductionHypothesis =>
    exact (each step (List.mem_cons_self ..)).andThen
      (inductionHypothesis fun other member => each other (List.mem_cons_of_mem _ member))

theorem preserves_onlyIf {p : State → Bool} (preserved : step.Preserves part) : (onlyIf p step).Preserves part := by
  intro s after found ran
  simp only [onlyIf] at ran
  split at ran
  · exact preserved s after found ran
  · cases ran
    rfl

theorem preserves_ite {p : Bool} (ofFirst : first.Preserves part) (ofSecond : second.Preserves part) :
    (if p then first else second).Preserves part := by
  cases p with
  | true => exact ofFirst
  | false => exact ofSecond

end ChartConfig.Step
