import ChartConfig.Proofs.Format.Shape
import ChartConfig.Proofs.Language.Spacing

/-!
# Formatting again

Formatting changes the padding of lines, and a layout does not look at padding: two documents whose lines are
alike take the layout through the same states. So the levels of a formatted document are the levels it had
before, and formatting it once more, with whatever options, comes to the same as formatting the document as it
was.
-/

namespace ChartConfig

open Text

/-! ## Layouts of lines that are alike -/

namespace Layout

variable {α : Type} {k : Ruler α} {r : Registry} {analysed other : List Char} {following others : List (List Char)}

theorem plain_alike (l : Layout α) (alike : Alike analysed other) (later : List.Forall₂ Alike following others) :
    plain k l analysed following = plain k l other others := by
  have sameClosing : Line.isClosing analysed = Line.isClosing other :=
    alike.congr fun _ _ => Line.leadsWith_padded Keyword.isClosing
  have sameOpening : Line.opensLevel analysed = Line.opensLevel other :=
    alike.congr fun _ _ => Line.leadsWith_padded Keyword.opensLevel
  have sameKeyword : Line.keyword? analysed = Line.keyword? other :=
    alike.congr fun _ _ => Line.keyword?_padded
  rw [plain, plain, sameClosing, sameOpening, sameKeyword, Line.needsTerminator_alike alike later]

theorem step_alike (l : Layout α) {line written : List Char} (sameLine : Alike line written)
    (alike : Alike analysed other) (later : List.Forall₂ Alike following others) :
    step k r l line analysed following = step k r l written other others := by
  have sameBlank : allBlank line = allBlank written := sameLine.congr fun _ _ => allBlank_padded
  have sameKeyword : Line.keyword? analysed = Line.keyword? other :=
    alike.congr fun _ _ => Line.keyword?_padded
  have byName (line analysed : List Char) (following : List (List Char)) : step k r l line analysed following =
      if l.inScript && Line.keyword? analysed != some .endScript then (.keep, l)
      else
        ((Line.headerName? analysed).map Piece.word).elim
          (if allBlank line then (.keep, l) else plain k l analysed following) (header k r l) := by
    unfold step
    cases Line.headerName? analysed <;> rfl
  have sameName : (Line.headerName? analysed).map Piece.word = (Line.headerName? other).map Piece.word :=
    alike.congr fun _ _ => Line.headerName?_padded
  rw [byName, byName, sameBlank, sameKeyword, sameName, plain_alike l alike later]

theorem indentsFrom_alike (l : Layout α) {lines written : List (List Char)}
    (sameLines : List.Forall₂ Alike lines written) (alike : List.Forall₂ Alike following others) :
    indentsFrom k r l lines following = indentsFrom k r l written others := by
  induction sameLines generalizing l following others with
  | nil => rw [indentsFrom, indentsFrom] <;> simp
  | cons first rest inductionHypothesis =>
    cases alike with
    | nil => rw [indentsFrom, indentsFrom] <;> simp
    | cons sameFirst sameRest =>
      rw [indentsFrom, indentsFrom, step_alike l first sameFirst sameRest]
      exact congrArg _ (inductionHypothesis _ sameRest)

theorem levels_alike {text formatted : String}
    (alike : List.Forall₂ Alike (Document.lines text) (Document.lines formatted)) :
    levels r text = levels r formatted := by
  have sameAnalysis : List.Forall₂ Alike (Document.analysed text) (Document.analysed formatted) := by
    rw [Document.analysed_eq, Document.analysed_eq]
    exact analysed_alike alike false
  rw [levels, levels, indents, indents, indentsFrom_alike (start Ruler.levels) alike sameAnalysis]

end Layout

/-! ## Shaped lines -/

namespace Format

variable {line : List Char}

/-- Where every blank is a gap, shaping a line changes its padding only. -/
theorem alike_shaped (gaps : ∀ c ∈ line, isBlank c = true → isGap c = true) (o : FormatOptions) (level : Option Nat) :
    Alike line (shaped line (level.map o.indent)) := by
  obtain ⟨after, blankAfter, whole⟩ := exists_trimEnd_append line
  obtain ⟨inner, blankInner, text⟩ := exists_trimEnd_append (trimStart line)
  have gapsOf {part : List Char} (isPart : part ⊆ line) (blank : ∀ c ∈ part, isBlank c = true) : Gaps part :=
    fun c member => gaps c (isPart member) (blank c member)
  cases level with
  | none =>
    refine ⟨trimEnd line, ⟨[], after, .nil, gapsOf ?_ blankAfter, by rw [List.nil_append, whole]⟩, .refl _⟩
    rw [← whole]
    exact List.subset_append_right ..
  | some depth =>
    refine ⟨trim line, ⟨leadingBlanks line, inner, ?_, ?_, ?_⟩, ⟨o.indent depth, [], ?_, .nil, ?_⟩⟩
    · exact gapsOf (List.takeWhile_prefix isBlank).subset fun c => isBlank_of_mem_leadingBlanks
    · refine gapsOf ?_ blankInner
      have isSuffix : inner <:+ trimStart line := ⟨_, text⟩
      exact (isSuffix.trans (List.dropWhile_suffix isBlank)).subset
    · rw [List.append_assoc, trim, text, leadingBlanks_append_trimStart]
    · exact fun c => o.isGap_of_mem_indent
    · exact (List.append_nil _).symm

theorem shaped_shaped (o again : FormatOptions) (line : List Char) (level : Option Nat) :
    shaped (shaped line (level.map o.indent)) (level.map again.indent) = shaped line (level.map again.indent) := by
  cases level with
  | none => exact trimEnd_trimEnd line
  | some depth =>
    change again.indent depth ++ trim (o.indent depth ++ trim line) = again.indent depth ++ trim line
    rw [trim_append_trim fun c member => isBlank_of_isGap (o.isGap_of_mem_indent member)]

theorem forall₂_shapedLines (o : FormatOptions) (r : Registry) {text : String} {related : List Char → List Char → Prop}
    (each : ∀ line ∈ Document.lines text, ∀ level : Option Nat, related line (shaped line (level.map o.indent))) :
    List.Forall₂ related (Document.lines text) (shapedLines o r text) := by
  have sameLength := length_levels r text
  unfold shapedLines
  generalize Layout.levels r text = levels at sameLength ⊢
  generalize Document.lines text = lines at each sameLength ⊢
  induction lines generalizing levels with
  | nil => exact .nil
  | cons line lines inductionHypothesis =>
    cases levels with
    | nil => cases sameLength
    | cons level levels =>
      refine .cons (each line (List.mem_cons_self ..) level) ?_
      exact inductionHypothesis levels (fun line member => each line (List.mem_cons_of_mem _ member))
        (Nat.succ.inj sameLength)

theorem alike_shapedLines (o : FormatOptions) (r : Registry) {text : String}
    (gaps : ∀ line ∈ Document.lines text, ∀ c ∈ line, isBlank c = true → isGap c = true) :
    List.Forall₂ Alike (Document.lines text) (shapedLines o r text) :=
  forall₂_shapedLines o r fun line member => alike_shaped (gaps line member) o

theorem shapedLines_shapedLines (o again : FormatOptions) (r : Registry) {text : String}
    (gaps : ∀ line ∈ Document.lines text, ∀ c ∈ line, isBlank c = true → isGap c = true) :
    shapedLines again r (Document.ofLines (shapedLines o r text)) = shapedLines again r text := by
  have sameLevels : Layout.levels r (Document.ofLines (shapedLines o r text)) = Layout.levels r text := by
    refine (Layout.levels_alike ?_).symm
    rw [lines_ofLines_shapedLines]
    exact alike_shapedLines o r gaps
  rw [shapedLines, sameLevels, lines_ofLines_shapedLines, shapedLines, shapedLines]
  generalize Layout.levels r text = levels
  induction Document.lines text generalizing levels with
  | nil => rfl
  | cons line lines inductionHypothesis =>
    cases levels with
    | nil => rfl
    | cons level levels =>
      simp only [List.zipWith_cons_cons, shaped_shaped]
      rw [inductionHypothesis]

/-! ## No edits -/

theorem lines_ofLines_lines (text : String) :
    Document.lines (Document.ofLines (Document.lines text)) = Document.lines text := by
  rw [Document.lines, Document.ofLines, String.toList_ofList]
  exact splitLines_joinLines (splitLines_ne_nil _) fun line member => isLine_of_mem_splitLines member

theorem apply_nil (text : String) : Edit.apply text [] = some (Document.ofLines (Document.lines text)) := by
  rw [Edit.apply, Edit.applyTo, Edit.laterFirst, List.mergeSort_nil]
  rfl

theorem lineEdits_of_shaped {number : Nat} {indent : Indent (List Char)} (fits : Fits line indent)
    (same : shaped line indent.wanted? = line) : lineEdits number line indent = [] := by
  unfold lineEdits
  cases asked : indent.wanted? with
  | none =>
    rw [asked] at same
    have trimmed : trimEnd line = line := same
    simp [trailing, trimmed]
  | some wanted =>
    rw [asked] at same
    have whole : wanted ++ trim line = line := same
    have notBlank : allBlank line = false := fits.notBlank asked
    have trimmed : trimEnd line = line := by
      calc trimEnd line
          = trimEnd (wanted ++ trim line) := by rw [whole]
        _ = wanted ++ trimEnd (trim line) := trimEnd_append wanted (allBlank_trim notBlank)
        _ = wanted ++ trim line := by rw [trim, trimEnd_trimEnd]
        _ = line := whole
    -- No need to know that the wanted indent is blank: it stands before the same text.
    have indented : leadingBlanks line = wanted := by
      apply List.append_cancel_right
      rw [leadingBlanks_append_trim notBlank, trimmed, whole]
    simp [trailing, leading, trimmed, indented]

theorem editsFrom_of_shaped {number : Nat} {lines : List (List Char)} {indents : List (Indent (List Char))}
    (fits : List.Forall₂ Fits lines indents)
    (same : List.zipWith (fun line indent => shaped line indent.wanted?) lines indents = lines) :
    editsFrom number lines indents = [] := by
  induction fits generalizing number with
  | nil => rfl
  | cons first rest inductionHypothesis =>
    obtain ⟨sameFirst, sameRest⟩ := List.cons.inj same
    rw [editsFrom, lineEdits_of_shaped first sameFirst, inductionHypothesis sameRest, List.append_nil]

theorem edits_eq_nil_iff (o : FormatOptions) (r : Registry) (text : String) :
    edits text o r = [] ↔ shapedLines o r text = Document.lines text := by
  constructor
  · intro none
    have applied := apply_edits o r text
    rw [none, apply_nil] at applied
    rw [← lines_ofLines_shapedLines, ← Option.some.inj applied, lines_ofLines_lines]
  · intro same
    exact editsFrom_of_shaped (Layout.indents_blank o.ruler r text) ((zipWith_indents o r text).trans same)

end Format

/-! ## Confluence -/

/-- Formatting with some options and then with others gives what formatting with the others gives at once. A
    formatted document is not edited again, and a document is not edited exactly if applying its edits does no
    more than make its line breaks line feeds. -/
theorem format_confluent (r : Registry) (o again : FormatOptions) (text : String)
    (plain : ∀ c ∈ text.toList, isBlank c = true → c = ' ' ∨ c = '\t' ∨ c = '\n' ∨ c = '\r') :
    ∃ once twice,
      Edit.apply text (Format.edits text o r) = some once ∧
      Edit.apply text (Format.edits text again r) = some twice ∧
      Edit.apply once (Format.edits once again r) = some twice ∧
      Format.edits once o r = [] ∧
      (Format.edits text o r = [] ↔
        Edit.apply text (Format.edits text o r) = some (String.ofList (normalizeBreaks text.toList))) := by
  have gaps : ∀ line ∈ Document.lines text, ∀ c ∈ line, isBlank c = true → isGap c = true := by
    intro line isLine c member blank
    obtain ⟨noBreak, noReturn⟩ := isLine_of_mem_splitLines isLine
    rcases plain c (mem_of_mem_splitLines isLine member) blank with rfl | rfl | rfl | rfl
    · decide
    · decide
    · exact absurd member noBreak
    · exact absurd member noReturn
  refine ⟨Document.ofLines (Format.shapedLines o r text), Document.ofLines (Format.shapedLines again r text),
    Format.apply_edits o r text, Format.apply_edits again r text, ?_, ?_, ?_⟩
  · rw [Format.apply_edits, Format.shapedLines_shapedLines o again r gaps]
  · rw [Format.edits_eq_nil_iff, Format.shapedLines_shapedLines o o r gaps, Format.lines_ofLines_shapedLines]
  · rw [Format.edits_eq_nil_iff, Format.apply_edits, Option.some_inj, ← joinLines_splitLines]
    constructor
    · intro same
      rw [same]
      rfl
    · intro same
      rw [← Format.lines_ofLines_shapedLines, same]
      exact Format.lines_ofLines_lines text

def unevenText : String :=
  "[widget] \r\n\t  if a\n script\n   x = 1\t\nendscript\nendif"

theorem format_confluent_uneven :
    (∀ c ∈ unevenText.toList, isBlank c = true → c = ' ' ∨ c = '\t' ∨ c = '\n' ∨ c = '\r') ∧
      Format.edits unevenText ⟨2, true⟩ default ≠ [] ∧
      ∃ once, Edit.apply unevenText (Format.edits unevenText ⟨2, true⟩ default) = some once ∧
        Format.edits once ⟨2, true⟩ default = [] ∧
        Edit.apply once (Format.edits once ⟨2, false⟩ default) =
          some "[widget]\n\tif a\n\t\tscript\n   x = 1\n\t\tendscript\n\tendif" := by
  have plain : ∀ c ∈ unevenText.toList, isBlank c = true → c = ' ' ∨ c = '\t' ∨ c = '\n' ∨ c = '\r' := by
    have blanks : unevenText.toList.all (fun c => !isBlank c || [' ', '\t', '\n', '\r'].contains c) = true := by
      decide +kernel
    intro c member blank
    simpa [blank] using List.all_eq_true.mp blanks c member
  have withTabs : Format.shapedLines ⟨2, false⟩ default unevenText =
      Document.lines "[widget]\n\tif a\n\t\tscript\n   x = 1\n\t\tendscript\n\tendif" := by
    decide +kernel
  obtain ⟨once, twice, first, second, both, stable, -⟩ := format_confluent default ⟨2, true⟩ ⟨2, false⟩ unevenText plain
  refine ⟨plain, by decide +kernel, once, first, stable, ?_⟩
  rw [both, ← second, Format.apply_edits, withTabs]
  rfl

end ChartConfig
