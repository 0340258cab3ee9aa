import ChartConfig.Proofs.Format.Shape
import ChartConfig.Proofs.Validation.Lookahead
import ChartConfig.Proofs.Validation.Remark
import ChartConfig.Proofs.Validation.Required

/-!
# Scripts are opaque

What stands on a line of a script is seen by nobody: neither the validator nor the formatter reads the line itself, and
the lines above it do not look that far. A line looks ahead only if its keyword is `list` or `csv`, to the first line
below it that is not blank; such a line opens no script, so between it and the script there is the line that does.
-/

namespace ChartConfig

open Text Finding

/-! ## Documents without comments -/

/-- There is no comment in the document: overwriting its comments changes nothing. -/
def Document.IsCommentFree (text : String) : Prop :=
  eraseComments (normalizeBreaks text.toList) = normalizeBreaks text.toList

theorem Document.IsCommentFree.analysed {text : String} (free : Document.IsCommentFree text) :
    Document.analysed text = (Document.lines text).map (·.map Char.toLower) := by
  have normal : normalizeBreaks (normalizeBreaks text.toList) = normalizeBreaks text.toList :=
    normalizeBreaks_eq_self (return_not_mem_normalizeBreaks text.toList)
  rw [Document.analysed, free, Document.lines, splitLines, splitLines, normal]

/-! ## The validator -/

variable {r : Registry} {number count position : Nat} {line analysed other : List Char}
  {following lines : List (List Char)}

theorem Control.next_blank {c : Control} (blank : allBlank line = true) : c.next number line following = c := by
  have noKeyword : Line.keywordAt? line number = none := Line.keywordAt?_eq_none.mpr (Line.keyword?_of_blank blank)
  simp [Control.next, noKeyword]

theorem Control.isIn_script_of_next {c : Control} (other : Line.keyword? line ≠ some .script)
    (isOpen : (c.next number line following).blocks.isIn .script = true) : c.blocks.isIn .script = true := by
  unfold next at isOpen
  split at isOpen
  · split at isOpen
    · next found isFound =>
      rw [Line.keyword?_eq isFound] at other
      exact Blocks.isIn_of_afterKeyword isOpen fun same => other (congrArg some same)
    · exact isOpen
  · exact isOpen

namespace Step

variable {s after : State} {found : List Finding}

theorem line_of_skipped (skipped : s.blocks.inBody .script .endScript (Line.keyword? line) = true) :
    Step.line r number line following s = .ok (s, []) := by
  simp only [Step.line, Line.keyword_keywordAt?, skipped, if_true]
  rfl

theorem control_of_blanks (armed : s.control.Armed) (blanks : ∀ line ∈ lines.take count, allBlank line = true)
    (ran : firstLines r number count lines s = .ok (after, found)) : after.control = s.control := by
  induction count generalizing number lines s found with
  | zero =>
    cases ran
    rfl
  | succ count inductionHypothesis =>
    cases lines with
    | nil =>
      cases ran
      rfl
    | cons line following =>
      obtain ⟨between, some, more, first, rest, rfl⟩ := andThen_eq_ok ran
      have here := control_of_line armed first
      rw [Control.next_blank (blanks line (List.mem_cons_self ..))] at here
      have below : ∀ line ∈ following.take count, allBlank line = true :=
        fun line member => blanks line (List.mem_cons_of_mem _ member)
      rw [inductionHypothesis (armed_of_line armed first) below rest, here]

/-- A line of a script may be another, as long as that does not end the script: the lines above it do not see it. -/
theorem lines_set (armed : s.control.Armed) (isLine : lines[position]? = some line)
    (reached : firstLines r number position lines s = .ok (after, found))
    (skipped : after.blocks.inBody .script .endScript (Line.keyword? line) = true)
    (stays : Line.keyword? other ≠ some .endScript) :
    Step.lines r number (lines.set position other) s = Step.lines r number lines s := by
  induction position generalizing number lines s found with
  | zero =>
    obtain ⟨following, rfl⟩ : ∃ following, lines = line :: following := by
      cases lines with
      | nil => cases isLine
      | cons first following =>
        cases isLine
        exact ⟨following, rfl⟩
    cases reached
    have skippedToo : after.blocks.inBody .script .endScript (Line.keyword? other) = true := by
      simp only [Blocks.inBody, Bool.and_eq_true] at skipped ⊢
      exact ⟨skipped.1, bne_iff_ne.mpr stays⟩
    simp only [List.set_cons_zero, Step.lines, andThen, line_of_skipped skipped, line_of_skipped skippedToo]
  | succ position inductionHypothesis =>
    cases lines with
    | nil => cases isLine
    | cons first following =>
      obtain ⟨between, some, more, ran, rest, rfl⟩ := andThen_eq_ok reached
      have unseen : Step.line r number first (following.set position other) s =
          Step.line r number first following s := by
        by_cases shielded : ∃ line ∈ following.take position, allBlank line = false
        · exact congrFun (line_lookahead (firstNonBlank?_set shielded other)) s
        · have blanks : ∀ line ∈ following.take position, allBlank line = true := by
            intro line member
            by_contra notBlank
            exact shielded ⟨line, member, Bool.eq_false_iff.mpr notBlank⟩
          have isOpen : after.control.blocks.isIn .script = true := (Bool.and_eq_true_iff.mp skipped).1
          rw [control_of_blanks (armed_of_line armed ran) blanks rest, control_of_line armed ran] at isOpen
          apply line_unsighted
          intro isRead
          constructor
          all_goals
            intro sighted
            have wasOpen : s.control.blocks.isIn .script = true :=
              Control.isIn_script_of_next (by rw [sighted]; decide) isOpen
            simp [Control.reads, Blocks.inBody, wasOpen, sighted] at isRead
      simp only [List.set_cons_succ, Step.lines, andThen, unseen, ran,
        inductionHypothesis (armed_of_line armed ran) isLine rest]

end Step

/-! ## The formatter -/

namespace Layout

variable {α : Type} {k : Ruler α} {l : Layout α} {others : List (List Char)}

theorem step_lookahead (same : firstNonBlank? following = firstNonBlank? others) :
    step k r l line analysed following = step k r l line analysed others := by
  have waits : Line.needsTerminator analysed following = Line.needsTerminator analysed others := by
    simp only [Line.needsTerminator, Line.listNeedsEnd, same]
  simp only [step, plain, waits]

theorem step_unsighted
    (unsighted : Line.keyword? analysed = some .list → l.inScript = true) :
    step k r l line analysed following = step k r l line analysed others := by
  by_cases isList : Line.keyword? analysed = some .list
  · simp [step, unsighted isList, isList]
  · have waits : Line.needsTerminator analysed following = Line.needsTerminator analysed others := by
      unfold Line.needsTerminator
      split <;> first | rfl | contradiction
    simp only [step, plain, waits]

theorem step_blank (blank : allBlank line = true) (stillBlank : allBlank analysed = true) :
    (step k r l line analysed following).2 = l := by
  unfold step
  split
  · rfl
  · rw [Line.headerName?_of_blank stillBlank]

theorem afterLines_blanks (blanks : ∀ line ∈ lines.take count, allBlank line = true) :
    l.afterLines k r count lines (lines.map (·.map Char.toLower)) = l := by
  induction count generalizing lines with
  | zero => rfl
  | succ count inductionHypothesis =>
    cases lines with
    | nil => rfl
    | cons line following =>
      have blank := blanks line (List.mem_cons_self ..)
      rw [List.map_cons, afterLines, step_blank blank (by rwa [allBlank_lower])]
      exact inductionHypothesis fun line member => blanks line (List.mem_cons_of_mem _ member)

theorem indentsFrom_set (onTop : l.ScriptOnTop) (isLine : lines[position]? = some line)
    (inScript : (l.afterLines k r position lines (lines.map (·.map Char.toLower))).inScript = true)
    (skipped : Line.keyword? (line.map Char.toLower) ≠ some .endScript)
    (stays : Line.keyword? (other.map Char.toLower) ≠ some .endScript) :
    indentsFrom k r l (lines.set position other) ((lines.set position other).map (·.map Char.toLower)) =
        indentsFrom k r l lines (lines.map (·.map Char.toLower)) ∧
      (indentsFrom k r l lines (lines.map (·.map Char.toLower)))[position]? = some .keep := by
  induction position generalizing l lines with
  | zero =>
    cases lines with
    | nil => cases isLine
    | cons first following =>
      cases isLine
      have inside : l.inScript = true := inScript
      simp only [List.set_cons_zero, List.map_cons, indentsFrom, step_of_script inside skipped,
        step_of_script inside stays, true_and]
      rfl
  | succ position inductionHypothesis =>
    cases lines with
    | nil => cases isLine
    | cons first following =>
      obtain ⟨-, opens, stillOnTop⟩ := @step_scripts α k r l first (first.map Char.toLower)
        (following.map (·.map Char.toLower)) onTop fun blank => (allBlank_lower first).trans blank
      have unseen : step k r l first (first.map Char.toLower)
          ((following.set position other).map (·.map Char.toLower)) =
          step k r l first (first.map Char.toLower) (following.map (·.map Char.toLower)) := by
        by_cases shielded : ∃ line ∈ following.take position, allBlank line = false
        · apply step_lookahead
          rw [List.map_set]
          apply firstNonBlank?_set
          obtain ⟨shield, isAbove, notBlank⟩ := shielded
          exact ⟨_, List.map_take .. ▸ List.mem_map_of_mem isAbove, (allBlank_lower shield).trans notBlank⟩
        · have blanks : ∀ line ∈ following.take position, allBlank line = true := by
            intro line member
            by_contra notBlank
            exact shielded ⟨line, member, Bool.eq_false_iff.mpr notBlank⟩
          rw [List.map_cons, afterLines, afterLines_blanks blanks, opens] at inScript
          apply step_unsighted
          intro isList
          simpa [Line.opensScript, isList] using inScript
      obtain ⟨same, keeps⟩ := inductionHypothesis stillOnTop isLine inScript
      simp only [List.set_cons_succ, List.map_cons, indentsFrom, unseen, same, true_and]
      exact keeps

end Layout

namespace Format

variable {indent : Indent (List Char)} {indents : List (Indent (List Char))}

theorem editsFrom_set (isLine : lines[position]? = some line) (asked : indents[position]? = some indent)
    (other : List Char) :
    ∃ above below,
      editsFrom number lines indents = above ++ lineEdits (number + position) line indent ++ below ∧
        editsFrom number (lines.set position other) indents =
          above ++ lineEdits (number + position) other indent ++ below ∧
        ∀ e ∈ above ++ below, e.range.start.line ≠ number + position := by
  induction position generalizing number lines indents with
  | zero =>
    cases lines with
    | nil => cases isLine
    | cons first following =>
      cases indents with
      | nil => cases asked
      | cons ofFirst indents =>
        cases isLine
        cases asked
        refine ⟨[], editsFrom (number + 1) following indents, ?_, ?_, ?_⟩
        · simp only [editsFrom, List.nil_append, Nat.add_zero]
        · simp only [List.set_cons_zero, editsFrom, List.nil_append, Nat.add_zero]
        · intro e member
          exact Nat.ne_of_gt (le_line_of_mem_editsFrom member)
  | succ position inductionHypothesis =>
    cases lines with
    | nil => cases isLine
    | cons first following =>
      cases indents with
      | nil => cases asked
      | cons ofFirst indents =>
        obtain ⟨above, below, same, sameToo, elsewhere⟩ :=
          @inductionHypothesis (number + 1) following indents isLine asked
        rw [Nat.add_right_comm, Nat.add_assoc] at same sameToo elsewhere
        refine ⟨lineEdits number first ofFirst ++ above, below, ?_, ?_, ?_⟩
        · rw [editsFrom, same, List.append_assoc, List.append_assoc, List.append_assoc]
        · rw [List.set_cons_succ, editsFrom, sameToo, List.append_assoc, List.append_assoc, List.append_assoc]
        · intro e member
          rw [List.append_assoc] at member
          rcases List.mem_append.mp member with here | there
          · rw [line_of_mem_lineEdits here]
            omega
          · exact elsewhere e there

theorem filter_line {i : Nat} {above own below : List Edit} (onLine : ∀ e ∈ own, e.range.start.line = i)
    (elsewhere : ∀ e ∈ above ++ below, e.range.start.line ≠ i) :
    (above ++ own ++ below).filter (fun e => e.range.start.line == i) = own ∧
      (above ++ own ++ below).filter (fun e => e.range.start.line != i) = above ++ below := by
  have others {es : List Edit} (part : es ⊆ above ++ below) :
      es.filter (fun e => e.range.start.line == i) = [] ∧ es.filter (fun e => e.range.start.line != i) = es := by
    rw [List.filter_eq_nil_iff, List.filter_eq_self]
    exact ⟨fun e member => by simp [elsewhere e (part member)], fun e member => by simp [elsewhere e (part member)]⟩
  have mine : own.filter (fun e => e.range.start.line == i) = own ∧
      own.filter (fun e => e.range.start.line != i) = [] := by
    rw [List.filter_eq_nil_iff, List.filter_eq_self]
    exact ⟨fun e member => by simp [onLine e member], fun e member => by simp [onLine e member]⟩
  obtain ⟨noneAbove, allAbove⟩ := others (List.subset_append_left above below)
  obtain ⟨noneBelow, allBelow⟩ := others (List.subset_append_right above below)
  simp only [List.filter_append, noneAbove, allAbove, noneBelow, allBelow, mine, List.nil_append, List.append_nil,
    and_self]

end Format

/-- Put another line in the place of a line of a document without comments, so that there is still no comment in it
    and the line is no `endscript`. If the validator passes over the line in the body of a script, it finds the same. If
    the line lies in a script for the formatter, the edits of the other lines are the same, and on the line itself there
    is at most one, which takes away blanks at its end. -/
theorem script_bodies_opaque (r : Registry) (o : FormatOptions) (text replaced : String) (i : Nat)
    (line other : List Char) (free : Document.IsCommentFree text) (stillFree : Document.IsCommentFree replaced)
    (isLine : (Document.lines text)[i]? = some line)
    (replaces : Document.lines replaced = (Document.lines text).set i other)
    (stays : Line.keyword? (other.map Char.toLower) ≠ some .endScript) :
    (∃ s found, Step.firstLines r 0 i (Document.analysed text) {} = .ok (s, found) ∧
      (s.blocks.inBody .script .endScript (Line.keyword? (line.map Char.toLower)) = true →
        validate replaced r = validate text r)) ∧
    ((Layout.after o.ruler r text i).inScript = true → Line.keyword? (line.map Char.toLower) ≠ some .endScript →
      (Format.edits replaced o r).filter (fun e => e.range.start.line != i) =
          (Format.edits text o r).filter (fun e => e.range.start.line != i) ∧
        ((Format.edits replaced o r).filter (fun e => e.range.start.line == i)).length ≤ 1 ∧
        ∀ e ∈ Format.edits replaced o r, e.range.start.line = i → e.Trails i other) := by
  have analysed : Document.analysed replaced = (Document.analysed text).set i (other.map Char.toLower) := by
    rw [stillFree.analysed, free.analysed, replaces, List.map_set]
  constructor
  · obtain ⟨s, found, reached⟩ :=
      @Step.firstLines_succeeds r 0 {} i (Document.analysed text) State.armed_initial
    refine ⟨s, found, reached, fun skipped => ?_⟩
    have analysedLine : (Document.analysed text)[i]? = some (line.map Char.toLower) := by
      rw [free.analysed, List.getElem?_map, isLine, Option.map_some]
    have same := Step.lines_set State.armed_initial analysedLine reached skipped stays
    have sameRun : runLines r (Document.analysed replaced) = runLines r (Document.analysed text) := by
      simp only [runLines, analysed, Step.andThen, same, List.length_set]
    rw [validate_eq, validate_eq, sameRun]
  · intro inScript skipped
    rw [Layout.after, free.analysed] at inScript
    obtain ⟨same, keeps⟩ :=
      @Layout.indentsFrom_set r i line other (Document.lines text) _ o.ruler _ (Layout.scriptOnTop_start o.ruler)
        isLine inScript skipped stays
    obtain ⟨above, below, edits, editsToo, elsewhere⟩ := @Format.editsFrom_set 0 i line _ _ _ isLine keeps other
    rw [Nat.zero_add] at edits editsToo elsewhere
    have kept (line : List Char) : Format.lineEdits i line .keep = Format.trailing i line := List.append_nil _
    rw [kept] at edits editsToo
    have ofText : Format.edits text o r = above ++ Format.trailing i line ++ below := by
      rw [Format.edits, Layout.indents, free.analysed, edits]
    have ofReplaced : Format.edits replaced o r = above ++ Format.trailing i other ++ below := by
      rw [Format.edits, Layout.indents, stillFree.analysed, replaces, same, editsToo]
    have onLine (line : List Char) : ∀ e ∈ Format.trailing i line, e.range.start.line = i :=
      fun e member => Format.line_of_mem_lineEdits (kept line ▸ member)
    obtain ⟨-, others⟩ := Format.filter_line (onLine line) elsewhere
    obtain ⟨own, othersToo⟩ := Format.filter_line (onLine other) elsewhere
    rw [ofText, ofReplaced, others, othersToo, own]
    refine ⟨rfl, ?_, ?_⟩
    · rcases Format.trailing_cases i other with ⟨-, none⟩ | ⟨-, one⟩
      · simp [none]
      · simp [one]
    · intro e member isHere
      have inOwn : e ∈ Format.trailing i other := by
        rw [← own]
        exact List.mem_filter.mpr ⟨member, beq_iff_eq.mpr isHere⟩
      exact Format.trails_of_mem inOwn

/-- A script below a list, and what might pass for more of the list inside it. -/
def listedScriptText (body : String) : String :=
  "list hosts = a\nscript\n" ++ body ++ "\nendscript\ntypo = x"

theorem script_bodies_opaque_list :
    Document.IsCommentFree (listedScriptText "x = 1") ∧ Document.IsCommentFree (listedScriptText ", b ") ∧
      validate (listedScriptText ", b ") chartRegistry = validate (listedScriptText "x = 1") chartRegistry ∧
      (Format.edits (listedScriptText ", b ") {} chartRegistry).filter (fun e => e.range.start.line != 2) =
        (Format.edits (listedScriptText "x = 1") {} chartRegistry).filter (fun e => e.range.start.line != 2) ∧
      ∀ e ∈ Format.edits (listedScriptText ", b ") {} chartRegistry, e.range.start.line = 2 →
        e.Trails 2 ", b ".toList := by
  have free : Document.IsCommentFree (listedScriptText "x = 1") := by
    unfold Document.IsCommentFree
    decide +kernel
  have stillFree : Document.IsCommentFree (listedScriptText ", b ") := by
    unfold Document.IsCommentFree
    decide +kernel
  obtain ⟨⟨s, found, reached, validates⟩, formats⟩ :=
    script_bodies_opaque chartRegistry {} (listedScriptText "x = 1") (listedScriptText ", b ") 2 "x = 1".toList
      ", b ".toList free stillFree (by decide +kernel) (by decide +kernel) (by decide +kernel)
  have inBody : ((Step.firstLines chartRegistry 0 2 (Document.analysed (listedScriptText "x = 1")) {}).toOption.map
      fun answer => answer.1.blocks.inBody .script .endScript (Line.keyword? ("x = 1".toList.map Char.toLower))) =
        some true := by
    decide +kernel
  rw [reached] at inBody
  have skipped : s.blocks.inBody .script .endScript (Line.keyword? ("x = 1".toList.map Char.toLower)) = true :=
    Option.some.inj inBody
  obtain ⟨others, -, own⟩ := formats (by decide +kernel) (by decide +kernel)
  exact ⟨free, stillFree, validates skipped, others, own⟩

end ChartConfig
