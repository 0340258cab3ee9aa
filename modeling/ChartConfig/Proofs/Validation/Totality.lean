import ChartConfig.Proofs.Validation.Demands

/-!
# Runs succeed, once

A run can fail on a line in two ways only: a terminator may close nothing, or a setting may stand in a condition
without a branch in force. The first is excluded by the keyword that leads to a terminator, the second by the
invariant that an open condition is armed, which every line keeps. So the first run of a validator succeeds,
whatever the document; every later run is refused and changes nothing.
-/

namespace ChartConfig

open Text

theorem Step.run_succeeds (r : Registry) (number : Nat) (lines : List (List Char)) {s : State}
    (armed : s.control.Armed) :
    ∃ after found, ((Step.lines r number lines).andThen (Step.finish r)) s = .ok (after, found) := by
  -- No line is singled out: the demands that are followed are those on the line after the last.
  have noHeader : HeaderOn (number + lines.length) s.control number lines := .inr (.inl (Nat.le_refl _))
  have succeeds : ((Step.lines r number lines).andThen (Step.finish r)).Ensures s fun _ _ => True := by
    apply ensures_andThen
    apply (lines_ensures armed noHeader).mono
    intro between _ _
    exact (@finish_ensures (number + lines.length) between r).mono fun _ _ _ => trivial
  obtain ⟨after, found, ran, -⟩ := succeeds
  exact ⟨after, found, ran⟩

theorem State.armed_initial : ({} : State).control.Armed := by
  intro conditional
  cases conditional

theorem runLines_succeeds (r : Registry) (lines : List (List Char)) : ∃ found, runLines r lines = .ok found := by
  obtain ⟨after, found, ran⟩ := Step.run_succeeds r 0 lines State.armed_initial
  simp only [runLines, ran]
  exact ⟨_, rfl⟩

theorem validate_eq (r : Registry) (text : String) :
    validate text r = (runLines r (Document.analysed text)).map Finding.diagnostics := by
  simp only [validate, findings, Validator.run, Validator.new, Bool.false_eq_true, if_false]

/-- What a document is answered is what reading its lines and the checks at the end have found. -/
theorem validate_of_run {r : Registry} {text : String} {after : State} {found : List Finding}
    (ran : ((Step.lines r 0 (Document.analysed text)).andThen (Step.finish r)) {} = .ok (after, found)) :
    validate text r = .ok (Finding.diagnostics found) := by
  simp [validate_eq, runLines, ran, Except.map]

/-! ## One run after another -/

namespace Validator

variable {v : Validator}

def after (v : Validator) : (count : Nat) → Validator
  | 0 => v
  | count + 1 => v.run.2.after count

theorem run_of_used (used : v.used = true) : v.run = (.error .alreadyProcessed, v) := by
  simp [run, used]

theorem used_run (v : Validator) : v.run.2.used = true := by
  cases used : v.used <;> simp [run, used]

theorem used_after (v : Validator) (count : Nat) : (v.after (count + 1)).used = true := by
  induction count generalizing v with
  | zero => exact v.used_run
  | succ count inductionHypothesis => exact inductionHypothesis v.run.2

theorem runs_of_used (used : v.used = true) (count : Nat) :
    v.runs count = List.replicate count (.error .alreadyProcessed) := by
  induction count with
  | zero => rfl
  | succ count inductionHypothesis => rw [runs, run_of_used used, inductionHypothesis, List.replicate_succ]

end Validator

/-- The first run of a validator succeeds, on every document and with every registry; however often it is run
    after that, it refuses and stays as it is. -/
theorem validator_runs_once (r : Registry) (text : String) :
    ∃ found, findings text r = .ok found ∧ ∀ count,
      (Validator.new text r).runs (count + 1) = .ok found :: List.replicate count (.error .alreadyProcessed) ∧
      ((Validator.new text r).after (count + 1)).run =
        (.error .alreadyProcessed, (Validator.new text r).after (count + 1)) := by
  obtain ⟨found, ran⟩ := runLines_succeeds r (Document.analysed text)
  have first : findings text r = .ok found := by
    simpa [findings, Validator.run, Validator.new] using ran
  refine ⟨found, first, fun count => ⟨?_, ?_⟩⟩
  · rw [Validator.runs, ← findings, first, Validator.runs_of_used (Validator.used_run _)]
  · exact Validator.run_of_used (Validator.used_after _ count)

end ChartConfig
