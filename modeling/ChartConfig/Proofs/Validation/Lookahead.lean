import ChartConfig.Proofs.Validation.Totality

/-!
# Looking ahead

A line is read with the lines after it at hand, but all that it sees of them is the first that is not blank, and only
a `list` or a `csv` looks. So a change further down does not reach the lines above a line that is not blank.
-/

namespace ChartConfig

open Text

/-! ## The first line that is not blank -/

theorem firstNonBlank?_cons_blank {line : List Char} (blank : allBlank line = true) (rest : List (List Char)) :
    firstNonBlank? (line :: rest) = firstNonBlank? rest := by
  simp [firstNonBlank?_eq_find?, blank]

theorem firstNonBlank?_cons_other {line : List Char} (other : allBlank line = false) (rest : List (List Char)) :
    firstNonBlank? (line :: rest) = some line := by
  simp [firstNonBlank?_eq_find?, other]

theorem firstNonBlank?_insertIdx {blank : List Char} (isBlank : allBlank blank = true) (lines : List (List Char))
    (position : Nat) : firstNonBlank? (lines.insertIdx position blank) = firstNonBlank? lines := by
  induction lines generalizing position with
  | nil =>
    cases position with
    | zero => exact firstNonBlank?_cons_blank isBlank []
    | succ position => rfl
  | cons line rest inductionHypothesis =>
    cases position with
    | zero => exact firstNonBlank?_cons_blank isBlank _
    | succ position =>
      rw [List.insertIdx_succ_cons]
      cases ofLine : allBlank line with
      | true => rw [firstNonBlank?_cons_blank ofLine, firstNonBlank?_cons_blank ofLine, inductionHypothesis]
      | false => rw [firstNonBlank?_cons_other ofLine, firstNonBlank?_cons_other ofLine]

theorem firstNonBlank?_set {lines : List (List Char)} {position : Nat}
    (shielded : ∃ line ∈ lines.take position, allBlank line = false) (other : List Char) :
    firstNonBlank? (lines.set position other) = firstNonBlank? lines := by
  obtain ⟨shield, isAbove, notBlank⟩ := shielded
  induction lines generalizing position with
  | nil => rfl
  | cons line rest inductionHypothesis =>
    cases position with
    | zero => cases isAbove
    | succ position =>
      rw [List.set_cons_succ]
      cases ofLine : allBlank line with
      | false => rw [firstNonBlank?_cons_other ofLine, firstNonBlank?_cons_other ofLine]
      | true =>
        have below : shield ∈ rest.take position := by
          rcases List.mem_cons.mp isAbove with rfl | below
          · rw [ofLine] at notBlank
            cases notBlank
          · exact below
        rw [firstNonBlank?_cons_blank ofLine, firstNonBlank?_cons_blank ofLine, inductionHypothesis below]

/-- The keyword of the line looks at the lines after it: a list that its own line does not leave open, and a table
    whose header may stand below. -/
def Line.looksAhead (line : List Char) : Bool :=
  match keyword? line with
  | some .list => !listOpens line
  | some .csv => csvHeaderBelow line
  | _ => false

theorem Line.keyword?_of_looksAhead {line : List Char} (looks : looksAhead line = true) :
    keyword? line = some .list ∨ keyword? line = some .csv := by
  unfold looksAhead at looks
  split at looks
  · next isList => exact .inl isList
  · next isTable => exact .inr isTable
  · cases looks

namespace Step

variable {r : Registry} {number : Nat} {line : List Char} {following others : List (List Char)} {s : State}

/-! ## What a line sees -/

theorem keyword_lookahead {found : KeywordAt} (same : firstNonBlank? following = firstNonBlank? others) :
    keyword number line following found = keyword number line others found := by
  have header : tableHeader line following = tableHeader line others := by rw [tableHeader, tableHeader, same]
  have goesOn : Line.listNeedsEnd line following = Line.listNeedsEnd line others := by
    rw [Line.listNeedsEnd, Line.listNeedsEnd, same]
  obtain ⟨kind, range⟩ := found
  cases kind with
  | csv => simp only [keyword, openTable, header]
  | list => simp only [keyword, goesOn]
  | _ => rfl

theorem line_lookahead (same : firstNonBlank? following = firstNonBlank? others) :
    Step.line r number line following = Step.line r number line others := by
  funext s
  simp only [Step.line, keywordLine, keyword_lookahead same]

theorem keyword_decided {found : KeywordAt} (decided : Line.looksAhead line = false)
    (isFound : Line.keyword? line = some found.keyword) :
    keyword number line following found = keyword number line others found := by
  obtain ⟨kind, range⟩ := found
  cases kind with
  | csv =>
    have onLine : Line.csvHeaderBelow line = false := by simpa [Line.looksAhead, isFound] using decided
    simp only [keyword, openTable, tableHeader, onLine, Bool.false_eq_true, if_false]
  | list =>
    have leftOpen : Line.listOpens line = true := by simpa [Line.looksAhead, isFound] using decided
    simp only [keyword, Line.listNeedsEnd, leftOpen, Bool.true_or]
  | _ => rfl

theorem line_decided (decided : s.control.reads line = true → Line.looksAhead line = false) :
    Step.line r number line following s = Step.line r number line others s := by
  simp only [Step.line, Line.keyword_keywordAt?]
  split
  · rfl
  · next script =>
    split
    · rfl
    · next table =>
      have isRead : s.control.reads line = true := by
        simp only [Control.reads, State.control]
        simp [script, table]
      cases isFound : Line.keywordAt? line number with
      | none => rfl
      | some found =>
        have same := @keyword_decided number line following others found (decided isRead) (Line.keyword?_eq isFound)
        simp only [keywordLine, same]

theorem line_unsighted
    (unsighted : s.control.reads line = true → Line.keyword? line ≠ some .list ∧ Line.keyword? line ≠ some .csv) :
    Step.line r number line following s = Step.line r number line others s := by
  apply line_decided
  intro isRead
  obtain ⟨notList, notTable⟩ := unsighted isRead
  cases looks : Line.looksAhead line with
  | false => rfl
  | true => exact absurd (Line.keyword?_of_looksAhead looks) (by simp [notList, notTable])

/-! ## The first lines of a document -/

def firstLines (r : Registry) : (number count : Nat) → List (List Char) → Step
  | _, 0, _ => skip
  | _, _ + 1, [] => skip
  | number, count + 1, line :: following =>
    (Step.line r number line following).andThen (firstLines r (number + 1) count following)

theorem firstLines_succeeds (count : Nat) (lines : List (List Char)) (armed : s.control.Armed) :
    ∃ after found, firstLines r number count lines s = .ok (after, found) := by
  induction lines generalizing number count s with
  | nil => cases count <;> exact ⟨s, [], rfl⟩
  | cons line following inductionHypothesis =>
    cases count with
    | zero => exact ⟨s, [], rfl⟩
    | succ count =>
      obtain ⟨between, found, ran, stillArmed, -⟩ := line_succeeds r number line following armed
      obtain ⟨after, more, ranOn⟩ := @inductionHypothesis (number + 1) between count stillArmed
      exact ⟨after, found ++ more, by simp only [firstLines, andThen, ran, ranOn]⟩

end Step

end ChartConfig
