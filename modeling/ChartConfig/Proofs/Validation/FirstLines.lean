import ChartConfig.Proofs.Validation.Lookahead
import ChartConfig.Proofs.Validation.Remark

/-!
# Reading the first lines

A run over the first lines of a document reads each of them with all that follows it at hand, the lines that it does
not come to included. Its control and its ledger are told here from the lines that it reads, as those of a whole run
are; reading all lines is reading the first of them and then the others.
-/

namespace ChartConfig

open Text

/-! ## Readings -/

namespace Control

def afterFirst (c : Control) : (number count : Nat) → List (List Char) → Control
  | _, 0, _ => c
  | _, _ + 1, [] => c
  | number, count + 1, line :: following => (c.next number line following).afterFirst (number + 1) count following

def firstReadings (c : Control) : (number count : Nat) → List (List Char) → List Reading
  | _, 0, _ => []
  | _, _ + 1, [] => []
  | number, count + 1, line :: following =>
    let later := (c.next number line following).firstReadings (number + 1) count following
    if c.reads line then ⟨c, number, line⟩ :: later else later

variable {c : Control} {number : Nat}

theorem readings_append (lines more : List (List Char)) :
    c.readings number (lines ++ more) = c.firstReadings number lines.length (lines ++ more) ++
      (c.afterFirst number lines.length (lines ++ more)).readings (number + lines.length) more := by
  induction lines generalizing c number with
  | nil => rfl
  | cons line following inductionHypothesis =>
    have next := @inductionHypothesis (c.next number line (following ++ more)) (number + 1)
    have place : number + 1 + following.length = number + (line :: following).length := by
      rw [List.length_cons]
      omega
    rw [place] at next
    simp only [List.cons_append, List.length_cons, readings, firstReadings, afterFirst] at next ⊢
    rw [next]
    split <;> rfl

end Control

/-! ## Runs -/

namespace Step

variable {r : Registry} {number : Nat} {s : State}

theorem andThen_assoc (first second third : Step) :
    (first.andThen second).andThen third = first.andThen (second.andThen third) := by
  funext s
  simp only [andThen]
  cases ofFirst : first s with
  | error e => rfl
  | ok between =>
    simp only
    cases ofSecond : second between.1 with
    | error e => rfl
    | ok after =>
      simp only
      cases third after.1 <;> simp

theorem skip_andThen (step : Step) : skip.andThen step = step := by
  funext s
  simp only [andThen, skip]
  cases step s <;> simp

theorem andThen_skip (step : Step) : step.andThen skip = step := by
  funext s
  simp only [andThen, skip]
  cases step s <;> simp

theorem lines_append (lines more : List (List Char)) :
    Step.lines r number (lines ++ more) = (firstLines r number lines.length (lines ++ more)).andThen
      (Step.lines r (number + lines.length) more) := by
  induction lines generalizing number with
  | nil => exact (skip_andThen _).symm
  | cons line following inductionHypothesis =>
    have place : number + 1 + following.length = number + (line :: following).length := by
      rw [List.length_cons]
      omega
    have next := @inductionHypothesis (number + 1)
    rw [place] at next
    rw [List.cons_append, Step.lines, next, ← andThen_assoc, List.length_cons, firstLines]

theorem firstLines_succ (number count : Nat) (lines : List (List Char)) :
    firstLines r number (count + 1) lines = (firstLines r number count lines).andThen
      (lines[count]?.elim skip fun line => Step.line r (number + count) line (lines.drop (count + 1))) := by
  induction lines generalizing number count with
  | nil => cases count <;> exact (skip_andThen _).symm
  | cons line following inductionHypothesis =>
    cases count with
    | zero => exact (andThen_skip _).trans (skip_andThen _).symm
    | succ count =>
      have place : number + 1 + count = number + (count + 1) := by omega
      have next := inductionHypothesis (number + 1) count
      rw [place] at next
      rw [firstLines, firstLines, andThen_assoc, next]
      rfl

theorem control_of_firstLines {count : Nat} {lines : List (List Char)} {after : State} {found : List Finding}
    (armed : s.control.Armed) (ran : firstLines r number count lines s = .ok (after, found)) :
    after.control = s.control.afterFirst number count lines ∧ after.control.Armed := by
  induction lines generalizing number count s found with
  | nil =>
    cases count <;>
    · cases ran
      exact ⟨rfl, armed⟩
  | cons line following inductionHypothesis =>
    cases count with
    | zero =>
      cases ran
      exact ⟨rfl, armed⟩
    | succ count =>
      obtain ⟨between, seen, more, first, later, -⟩ := andThen_eq_ok ran
      rw [Control.afterFirst, ← control_of_line armed first]
      exact inductionHypothesis (armed_of_line armed first) later

end Step

end ChartConfig
