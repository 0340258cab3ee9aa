import ChartConfig.Proofs.Validation.Lookahead
import ChartConfig.Proofs.Validation.Remark
import ChartConfig.Proofs.Validation.Renumbering
import ChartConfig.Proofs.Validation.Required

/-!
# Blank lines mean nothing outside tags

A blank line ends a section of tags. Anywhere else reading it changes nothing and finds nothing, and the lines above it
look past it. The lines below it are read under numbers greater by one, so putting a blank line into a document moves
the diagnostics below it down a line and leaves everything else about them as it was.
-/

namespace ChartConfig

open Text Finding

/-- The number of the line `n` once a line has been put in at the given position. -/
def movedDown (position n : Nat) : Nat :=
  if n < position then n else n + 1

theorem movedDown_injective (position : Nat) : Function.Injective (movedDown position) := by
  intro m n same
  unfold movedDown at same
  split at same <;> split at same <;> omega

/-! ## What a blank line is not -/

namespace Line

variable {line : List Char}

theorem expect_of_blank (blank : allBlank line = true) {literal : String} (nonempty : literal.toList ≠ []) :
    ((Cursor.start line).skip isBlank).expect literal = none := by
  have nothing : ((Cursor.start line).skip isBlank).ahead = [] :=
    List.dropWhile_eq_nil_iff.mpr (List.all_eq_true.mp blank)
  cases passed : ((Cursor.start line).skip isBlank).expect literal with
  | none => rfl
  | some cursor =>
    have leads := Cursor.prefix_of_expect passed
    rw [nothing, List.prefix_nil] at leads
    exact absurd leads nonempty

theorem templateDeclaration?_of_blank (blank : allBlank line = true) : templateDeclaration? line = none := by
  rw [templateDeclaration?, templateAssign?, templateList?, expect_of_blank blank (by decide),
    expect_of_blank blank (by decide)]
  rfl

theorem unclosedHeader?_of_blank (blank : allBlank line = true) (number : Nat) :
    unclosedHeader? line number = none := by
  rw [unclosedHeader?, unclosedHeaderName?, expect_of_blank blank (by decide)]
  rfl

theorem header?_of_blank (blank : allBlank line = true) (number : Nat) : header? line number = none := by
  rw [header?, headerName?_of_blank blank]
  rfl

theorem templateMark?_of_blank (blank : allBlank line = true) : templateMark? line = none := by
  have nowhere (column : Nat) : templateMark?.go column line = none := by
    induction line generalizing column with
    | nil => rfl
    | cons c cs inductionHypothesis =>
      have blanks := List.all_eq_true.mp blank
      have notMark : c ≠ '<' := by
        rintro rfl
        exact absurd (blanks _ (List.mem_cons_self ..)) (by decide)
      have later : allBlank cs = true := List.all_eq_true.mpr fun d member => blanks d (List.mem_cons_of_mem _ member)
      simp [templateMark?.go, Ne.symm notMark, inductionHypothesis later]
  exact nowhere 0

end Line

/-! ## Reading a blank line -/

/-- A blank line means nothing here: it belongs to a script or a table, or the section is not that of tags. -/
def State.IgnoresBlanks (s : State) : Prop :=
  s.blocks.isIn .script = true ∨ s.blocks.isIn .csv = true ∨ s.scope.name? ≠ some "tags"

theorem State.IgnoresBlanks.renumber {s : State} (ignores : s.IgnoresBlanks) (ρ : Nat → Nat) :
    (s.renumber ρ).IgnoresBlanks := by
  unfold IgnoresBlanks
  rw [s.isIn_renumber, s.isIn_renumber, s.name?_renumber]
  exact ignores

namespace Step

variable {r : Registry} {number : Nat} {blank : List Char} {s : State}

theorem plainLine_blank (isBlank : allBlank blank = true) : plainLine r number blank s = .ok (s, []) := by
  simp only [plainLine, assignment?_of_allBlank isBlank, Line.templateDeclaration?_of_blank isBlank,
    Line.unclosedHeader?_of_blank isBlank]
  rfl

theorem line_blank (isBlank : allBlank blank = true) (following : List (List Char)) (ignores : s.IgnoresBlanks) :
    Step.line r number blank following s = .ok (s, []) := by
  have noKeywordAt : Line.keywordAt? blank number = none :=
    Line.keywordAt?_eq_none.mpr (Line.keyword?_of_blank isBlank)
  have inBody (opener terminator : Keyword) : s.blocks.inBody opener terminator none = s.blocks.isIn opener := by
    simp [Blocks.inBody]
  simp only [Step.line, noKeywordAt, Option.map_none, inBody]
  cases script : s.blocks.isIn .script with
  | true => rfl
  | false =>
    cases table : s.blocks.isIn .csv with
    | true => simp [tableRow, report, isBlank]
    | false =>
      have notTags : (s.scope.name? == some "tags") = false := by
        simpa [State.IgnoresBlanks, script, table] using ignores
      have content : content r number blank s = .ok (s, []) := by
        simp only [Step.content, andThen, templateMark, report, Line.templateMark?_of_blank isBlank,
          Line.header?_of_blank isBlank, notTags, Bool.and_false, Bool.false_eq_true, if_false,
          plainLine_blank isBlank]
        rfl
      simp [andThen, content, skip]

/-! ## Putting a blank line in -/

theorem lines_insertIdx (isBlank : allBlank blank = true) {lines : List (List Char)} {position : Nat}
    (within : position ≤ lines.length) (armed : s.control.Armed)
    (ignores : ∀ after seen, firstLines r number position lines s = .ok (after, seen) → after.IgnoresBlanks) :
    Renumbered (movedDown (number + position)) (Step.lines r number lines s)
      (Step.lines r number (lines.insertIdx position blank) (s.renumber (movedDown (number + position)))) := by
  induction position generalizing number lines s with
  | zero =>
    have here : (s.renumber (movedDown number)).IgnoresBlanks := (ignores s [] rfl).renumber _
    have below : Renumbers (movedDown number) (Step.lines r number lines) (Step.lines r (number + 1) lines) := by
      apply lines_renumbers (movedDown_injective number)
      intro i
      have notAbove : ¬ number + i < number := by omega
      rw [movedDown, if_neg notAbove]
      omega
    have passed : Step.lines r number (lines.insertIdx 0 blank) (s.renumber (movedDown number)) =
        Step.lines r (number + 1) lines (s.renumber (movedDown number)) := by
      simp only [List.insertIdx_zero, Step.lines, andThen, line_blank isBlank lines here, List.nil_append]
      cases Step.lines r (number + 1) lines (s.renumber (movedDown number)) <;> rfl
    rw [Nat.add_zero, passed]
    exact below s
  | succ position inductionHypothesis =>
    cases lines with
    | nil => cases within
    | cons line following =>
      have above : movedDown (number + (position + 1)) number = number := by
        rw [movedDown, if_pos (by omega)]
      have unseen : Step.line r number line (following.insertIdx position blank) =
          Step.line r number line following :=
        line_lookahead (firstNonBlank?_insertIdx isBlank following position)
      rw [List.insertIdx_succ_cons, Step.lines, Step.lines, unseen]
      have first := @line_renumbers _ r number line following (movedDown_injective (number + (position + 1))) s
      rw [above] at first
      refine renumbered_andThen first fun after found ran => ?_
      have moved : number + (position + 1) = number + 1 + position := by omega
      rw [moved]
      apply inductionHypothesis (Nat.le_of_succ_le_succ within) (armed_of_line armed ran)
      intro last seen reached
      exact ignores last (found ++ seen) (by simp only [firstLines, andThen, ran, reached])

end Step

theorem diagnostics_of_run {r : Registry} {lines : List (List Char)} {after : State} {found : List Finding}
    (ran : ((Step.lines r 0 lines).andThen (Step.finish r)) {} = .ok (after, found)) :
    (runLines r lines).map diagnostics = .ok (diagnostics found) := by
  simp [runLines, ran, Except.map]

/-- Put a blank line anywhere into the lines of a document where, after the lines above it, a run is inside a script or
    a table or in a section other than that of tags. The diagnostics are the same, in the same order; those on the
    lines below have their lines increased by one. -/
theorem blank_lines_mean_nothing (r : Registry) (lines : List (List Char)) (position : Nat) (blank : List Char)
    (within : position ≤ lines.length) (isBlank : allBlank blank = true) :
    ∃ s seen, Step.firstLines r 0 position lines {} = .ok (s, seen) ∧
      (s.blocks.isIn .script = true ∨ s.blocks.isIn .csv = true ∨ s.scope.name? ≠ some "tags" →
        ∃ found, (runLines r lines).map diagnostics = .ok found ∧
          (runLines r (lines.insertIdx position blank)).map diagnostics =
            .ok (found.map (Diagnostic.renumber (movedDown position)))) := by
  obtain ⟨s, seen, reached⟩ :=
    @Step.firstLines_succeeds r 0 {} position lines State.armed_initial
  refine ⟨s, seen, reached, fun ignores => ?_⟩
  have ignoring : ∀ after found, Step.firstLines r 0 position lines {} = .ok (after, found) →
      after.IgnoresBlanks := by
    intro after found ran
    obtain ⟨rfl, -⟩ := Prod.mk.inj (Except.ok.inj (reached.symm.trans ran))
    exact ignores
  have read := Step.lines_insertIdx isBlank within State.armed_initial ignoring
  rw [Nat.zero_add] at read
  have initial : ({} : State).renumber (movedDown position) = {} := rfl
  have whole : Renumbered (movedDown position) (((Step.lines r 0 lines).andThen (Step.finish r)) {})
      (((Step.lines r 0 (lines.insertIdx position blank)).andThen (Step.finish r)) {}) :=
    Step.renumbered_andThen (initial ▸ read) fun after _ _ => Step.finish_renumbers after
  obtain ⟨after, found, ran⟩ := Step.run_succeeds r 0 lines State.armed_initial
  rw [ran] at whole
  cases outcome : ((Step.lines r 0 (lines.insertIdx position blank)).andThen (Step.finish r)) {} with
  | error e =>
    rw [outcome] at whole
    cases whole
  | ok answer =>
    rw [outcome] at whole
    cases whole with
    | ok same =>
      refine ⟨diagnostics found, diagnostics_of_run ran, ?_⟩
      rw [diagnostics_of_run outcome, same]

/-- A list that is left off and then goes on, and a setting that no registry knows. -/
def listLines : List (List Char) :=
  ["[widget]", "list hosts = a", ", b", "endlist", "typo = x"].map String.toList

theorem blank_lines_mean_nothing_list :
    2 ≤ listLines.length ∧ allBlank [' '] = true ∧
      ∃ found, (runLines chartRegistry listLines).map diagnostics = .ok found ∧
        (runLines chartRegistry (listLines.insertIdx 2 [' '])).map diagnostics =
          .ok (found.map (Diagnostic.renumber (movedDown 2))) := by
  have within : 2 ≤ listLines.length := by decide
  have isBlank : allBlank [' '] = true := by decide
  obtain ⟨s, seen, reached, same⟩ :=
    blank_lines_mean_nothing chartRegistry listLines 2 [' '] within isBlank
  have inWidget : ((Step.firstLines chartRegistry 0 2 listLines {}).toOption.map
      fun answer => answer.1.scope.name?) = some (some "widget") := by
    decide +kernel
  rw [reached] at inWidget
  have named : s.scope.name? = some "widget" := Option.some.inj inWidget
  have notTags : s.scope.name? ≠ some "tags" := by
    rw [named]
    decide
  exact ⟨within, isBlank, same (.inr (.inr notTags))⟩

end ChartConfig
