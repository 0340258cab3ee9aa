import ChartConfig.Format.Run
import ChartConfig.Hover
import ChartConfig.Proofs.Text.Breaks
import ChartConfig.Proofs.Text.Lowering
import ChartConfig.Validation.Run

/-!
# Breaks and case mean nothing

How the lines of a document are broken is gone as soon as its lines are found, and of the case of its letters the
analysis keeps nothing. Validation only reads the analysis; the formatter also looks at the lines as they are written,
but only for blanks and lengths, and those have no case.
-/

namespace ChartConfig

open Text

/-! ## Breaks -/

namespace Document

variable {first second : String}

theorem analysed_eq_of_lines (same : lines first = lines second) : analysed first = analysed second := by
  rw [analysed_eq, analysed_eq, same]

end Document

theorem validate_eq_of_analysed {first second : String} (same : Document.analysed first = Document.analysed second)
    (r : Registry) : validate first r = validate second r := by
  rw [validate, validate, findings, findings, Validator.new, Validator.new, same]

/-! ## Case -/

namespace Format

variable (number : Nat) (line : List Char)

theorem trailing_lowered : trailing number (lowered line) = trailing number line := by
  rw [trailing, trailing, trimEnd_lowered, lowered, lowered, List.length_map, List.length_map]

theorem leading_lowered (wanted : List Char) : leading number (lowered line) wanted = leading number line wanted := by
  rw [leading, leading, leadingBlanks_lowered]

theorem lineEdits_lowered (indent : Indent (List Char)) :
    lineEdits number (lowered line) indent = lineEdits number line indent := by
  rw [lineEdits, lineEdits, trailing_lowered]
  cases indent.wanted? with
  | none => rfl
  | some wanted => exact congrArg (trailing number line ++ ·) (leading_lowered number line wanted)

theorem editsFrom_lowered (lines : List (List Char)) (indents : List (Indent (List Char))) :
    editsFrom number (lines.map lowered) indents = editsFrom number lines indents := by
  induction lines generalizing number indents with
  | nil => rfl
  | cons line lines inductionHypothesis =>
    cases indents with
    | nil => rfl
    | cons indent indents =>
      rw [List.map_cons, editsFrom, editsFrom, lineEdits_lowered, inductionHypothesis]

end Format

namespace Layout

variable {α : Type} (k : Ruler α) (r : Registry)

/-- Of a line as it is written, the layout asks only whether it is blank. -/
theorem step_lowered (l : Layout α) (line analysed : List Char) (following : List (List Char)) :
    step k r l (lowered line) analysed following = step k r l line analysed following := by
  rw [step, step, lowered, allBlank_lower]

theorem indentsFrom_lowered (l : Layout α) (lines analysed : List (List Char)) :
    indentsFrom k r l (lines.map lowered) analysed = indentsFrom k r l lines analysed := by
  induction lines generalizing l analysed with
  | nil => rfl
  | cons line lines inductionHypothesis =>
    cases analysed with
    | nil => rfl
    | cons current following =>
      simp only [List.map_cons, indentsFrom, step_lowered, inductionHypothesis]

theorem indents_lowered (text : String) : indents k r (Document.lowered text) = indents k r text := by
  rw [indents, indents, Document.lines_lowered, Document.analysed_lowered, indentsFrom_lowered]

end Layout

theorem Format.edits_lowered (text : String) (o : FormatOptions) (r : Registry) :
    edits (Document.lowered text) o r = edits text o r := by
  rw [edits, edits, Layout.indents_lowered, Document.lines_lowered, editsFrom_lowered]

/-- The texts differ at most in the case of ASCII letters. -/
def Document.SameLetters (first second : String) : Prop :=
  lowered first = lowered second

instance (first second : String) : Decidable (Document.SameLetters first second) :=
  inferInstanceAs (Decidable (_ = _))

theorem Document.SameLetters.analysed {first second : String} (same : SameLetters first second) :
    analysed first = analysed second := by
  rw [← analysed_lowered first, same, analysed_lowered]

theorem Document.SameLetters.edits {first second : String} (same : SameLetters first second) (o : FormatOptions)
    (r : Registry) : Format.edits first o r = Format.edits second o r := by
  rw [← Format.edits_lowered first, same, Format.edits_lowered]

/-! ## Both -/

/-- Lines that are free of breaks come back from a text that joins them by breaks of any kind, as long as none by LF
    follows one by CR. Validation, formatting and hovering give for it what they give for the lines joined by line
    feeds; and validation and formatting give the same for texts that differ in the case of ASCII letters. -/
theorem breaks_and_case_mean_nothing (r : Registry) (o : FormatOptions) :
    (∀ (first : List Char) (further : List (Break × List Char)),
      (∀ line ∈ first :: further.map Prod.snd, IsLine line) → Apart further →
      let broken := String.ofList (joinBroken first further)
      let fed := String.ofList (joinLines (first :: further.map Prod.snd))
      splitLines (joinBroken first further) = first :: further.map Prod.snd ∧
      validate broken r = validate fed r ∧
      Format.edits broken o r = Format.edits fed o r ∧
      ∀ position, Hover.find? broken position r = Hover.find? fed position r) ∧
    ∀ text other : String, Document.SameLetters text other →
      validate text r = validate other r ∧ Format.edits text o r = Format.edits other o r := by
  constructor
  · intro first further areLines apart broken fed
    have sameLines : Document.lines broken = Document.lines fed := by
      rw [Document.lines, Document.lines, String.toList_ofList, String.toList_ofList,
        splitLines_joinBroken areLines apart, splitLines_joinLines (List.cons_ne_nil _ _) areLines]
    have sameAnalysis : Document.analysed broken = Document.analysed fed := Document.analysed_eq_of_lines sameLines
    refine ⟨splitLines_joinBroken areLines apart, validate_eq_of_analysed sameAnalysis r, ?_, ?_⟩
    · rw [Format.edits, Format.edits, Layout.indents, Layout.indents, sameLines, sameAnalysis]
    · intro position
      rw [Hover.find?, Hover.find?, sameLines]
  · intro text other same
    exact ⟨validate_eq_of_analysed same.analysed r, same.edits o r⟩

/-- A section with breaks of all three kinds around a comment and an empty line, and the section in other letters. -/
theorem breaks_and_case_mean_nothing_mixed :
    let r : Registry := .of [] [] []
    let further := [(Break.crlf, "Mode = /* a".toList), (.lf, "*/ x".toList), (.cr, []), (.crlf, "endif".toList)]
    (∀ line ∈ "[Widget]".toList :: further.map Prod.snd, IsLine line) ∧ Apart further ∧
    splitLines (joinBroken "[Widget]".toList further) = "[Widget]".toList :: further.map Prod.snd ∧
    Document.SameLetters "[Widget]\nMode = x" "[wIDGET]\nmode = X" ∧
    validate "[Widget]\nMode = x" r = validate "[wIDGET]\nmode = X" r := by
  intro r further
  have areLines : ∀ line ∈ "[Widget]".toList :: further.map Prod.snd, IsLine line := by simp [IsLine, further]
  have apart : Apart further := by simp [Apart, further]
  have same : Document.SameLetters "[Widget]\nMode = x" "[wIDGET]\nmode = X" := by decide
  exact ⟨areLines, apart, ((breaks_and_case_mean_nothing r {}).1 _ _ areLines apart).1, same,
    ((breaks_and_case_mean_nothing r {}).2 _ _ same).1⟩

end ChartConfig
