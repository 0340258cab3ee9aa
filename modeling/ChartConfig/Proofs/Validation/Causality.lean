import ChartConfig.Proofs.Validation.BlankLines
import ChartConfig.Proofs.Validation.FirstLines

/-!
# Scanning is causal

What a run has found does not depend on lines that it has not come to, save where a line looks ahead: a list or a
table at the end of the lines read so far sees the first line that is not blank among those to come. If every line that
looks ahead has such a line among those read, then the lines below can be put to a document without touching the state
that its own lines lead to or what was found on them.
-/

namespace ChartConfig

open Text Finding

theorem firstNonBlank?_append {lines : List (List Char)} (shielded : ∃ line ∈ lines, allBlank line = false)
    (more : List (List Char)) : firstNonBlank? (lines ++ more) = firstNonBlank? lines := by
  obtain ⟨line, member, notBlank⟩ := shielded
  have seen : (lines.find? fun line => !allBlank line).isSome := by
    rw [List.find?_isSome]
    exact ⟨line, member, by rw [notBlank]; rfl⟩
  rw [firstNonBlank?_eq_find?, List.find?_append, Option.or_of_isSome seen, firstNonBlank?_eq_find?]

namespace Step

variable {r : Registry} {number : Nat} {s : State}

/-- Every line that is read and looks ahead has a line that is not blank among the lines after it. -/
def Sighted (c : Control) (number : Nat) (lines : List (List Char)) : Prop :=
  ∀ x ∈ c.readings number lines, Line.looksAhead x.line = true →
    ∃ line ∈ lines.drop (x.number + 1 - number), allBlank line = false

theorem Sighted.head {c : Control} {line : List Char} {following : List (List Char)}
    (sighted : Sighted c number (line :: following)) (isRead : c.reads line = true)
    (looks : Line.looksAhead line = true) : ∃ line ∈ following, allBlank line = false := by
  have first : ⟨c, number, line⟩ ∈ c.readings number (line :: following) := by
    simp [Control.readings, isRead]
  have seen := sighted _ first looks
  have place : number + 1 - number = 1 := by omega
  rw [place, List.drop_one, List.tail_cons] at seen
  exact seen

theorem Sighted.tail {c : Control} {line : List Char} {following : List (List Char)}
    (sighted : Sighted c number (line :: following)) :
    Sighted (c.next number line following) (number + 1) following := by
  intro x later looks
  have member : x ∈ c.readings number (line :: following) := by
    simp only [Control.readings]
    split
    · exact List.mem_cons_of_mem _ later
    · exact later
  have seen := sighted x member looks
  have bound := Control.le_number_of_mem_readings later
  have place : x.number + 1 - number = x.number + 1 - (number + 1) + 1 := by omega
  rw [place, List.drop_succ_cons] at seen
  exact seen

theorem line_append {line : List Char} {following : List (List Char)} (more : List (List Char))
    (sighted : s.control.reads line = true → Line.looksAhead line = true →
      ∃ line ∈ following, allBlank line = false) :
    Step.line r number line (following ++ more) s = Step.line r number line following s := by
  by_cases looks : s.control.reads line = true ∧ Line.looksAhead line = true
  · rw [line_lookahead (firstNonBlank?_append (sighted looks.1 looks.2) more)]
  · apply line_decided
    intro isRead
    exact Bool.eq_false_iff.mpr fun ahead => looks ⟨isRead, ahead⟩

theorem firstLines_append (more : List (List Char)) {lines : List (List Char)} (armed : s.control.Armed)
    (sighted : Sighted s.control number lines) :
    firstLines r number lines.length (lines ++ more) s = Step.lines r number lines s := by
  induction lines generalizing number s with
  | nil => rfl
  | cons line following inductionHypothesis =>
    have first := @line_append r number s line following more sighted.head
    simp only [List.cons_append, List.length_cons, firstLines, Step.lines, andThen, first]
    cases ran : Step.line r number line following s with
    | error e => rfl
    | ok answer =>
      obtain ⟨between, found⟩ := answer
      have onward : Sighted between.control (number + 1) following := by
        rw [control_of_line armed ran]
        exact sighted.tail
      simp only [inductionHypothesis (armed_of_line armed ran) onward]

end Step

/-- Put lines below others of which each `list` and `csv` that is read, and does not tell by itself how it goes on, has
    a line that is not blank below it. The run over all of them comes, after the first ones, to the state that the run
    over these alone comes to, and has found the same; so it reports all that the run over the first lines reports
    before its checks at the end, in the same order, and only then anything else. -/
theorem scanning_is_causal (r : Registry) (lines more : List (List Char))
    (sighted : ∀ x ∈ Control.readings {} 0 lines, Line.looksAhead x.line = true →
      ∃ line ∈ lines.drop (x.number + 1), allBlank line = false) :
    ∃ s found last atEnd later,
      Step.lines r 0 lines {} = .ok (s, found) ∧
      Step.firstLines r 0 lines.length (lines ++ more) {} = .ok (s, found) ∧
      Step.finish r s = .ok (last, atEnd) ∧
      (runLines r lines).map diagnostics = .ok (diagnostics found ++ diagnostics atEnd) ∧
      (runLines r (lines ++ more)).map diagnostics = .ok (diagnostics found ++ later) := by
  obtain ⟨last, whole, ran⟩ := Step.run_succeeds r 0 lines State.armed_initial
  obtain ⟨longerLast, longerWhole, longerRan⟩ := Step.run_succeeds r 0 (lines ++ more) State.armed_initial
  obtain ⟨s, found, atEnd, scanned, finished, rfl⟩ := Step.andThen_eq_ok ran
  have scannedToo : Step.firstLines r 0 lines.length (lines ++ more) {} = .ok (s, found) :=
    (Step.firstLines_append more State.armed_initial sighted).trans scanned
  obtain ⟨later, isLater⟩ : ∃ later, longerWhole = found ++ later := by
    rw [Step.lines_append, Step.andThen_assoc] at longerRan
    obtain ⟨between, seen, later, first, -, rfl⟩ := Step.andThen_eq_ok longerRan
    rw [scannedToo] at first
    cases first
    exact ⟨later, rfl⟩
  refine ⟨s, found, last, atEnd, diagnostics later, scanned, scannedToo, finished, ?_, ?_⟩
  · rw [diagnostics_of_run ran, diagnostics_append]
  · rw [diagnostics_of_run longerRan, isLater, diagnostics_append]

/-- A list that goes on below a blank line, and a table with its header below it. -/
def enumerationLines : List (List Char) :=
  ["list hosts = a", "", ", b", "endlist", "csv rows", "name, value", "x", "endcsv"].map String.toList

theorem scanning_is_causal_enumerations :
    (∀ x ∈ Control.readings {} 0 enumerationLines, Line.looksAhead x.line = true →
      ∃ line ∈ enumerationLines.drop (x.number + 1), allBlank line = false) ∧
    ∃ s found last atEnd later,
      Step.lines chartRegistry 0 enumerationLines {} = .ok (s, found) ∧
      Step.firstLines chartRegistry 0 enumerationLines.length (enumerationLines ++ listLines) {} = .ok (s, found) ∧
      Step.finish chartRegistry s = .ok (last, atEnd) ∧
      (runLines chartRegistry enumerationLines).map diagnostics = .ok (diagnostics found ++ diagnostics atEnd) ∧
      (runLines chartRegistry (enumerationLines ++ listLines)).map diagnostics = .ok (diagnostics found ++ later) := by
  have sighted : ∀ x ∈ Control.readings {} 0 enumerationLines, Line.looksAhead x.line = true →
      ∃ line ∈ enumerationLines.drop (x.number + 1), allBlank line = false := by
    decide +kernel
  exact ⟨sighted, scanning_is_causal chartRegistry enumerationLines listLines sighted⟩

/-- Without that a list may change its mind: it ends with its line, or goes on if the line put below goes on with it. -/
example : (Step.lines chartRegistry 0 ["list hosts = a".toList] {}).toOption.map (·.1.blocks.length) = some 0 ∧
    (Step.firstLines chartRegistry 0 1 ["list hosts = a".toList, ", b".toList] {}).toOption.map
      (·.1.blocks.length) = some 1 := by
  decide +kernel

end ChartConfig
