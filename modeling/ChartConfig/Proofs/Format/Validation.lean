import ChartConfig.Proofs.Format.Confluence
import ChartConfig.Proofs.Validation.Alike
import ChartConfig.Proofs.Validation.Pointing

/-!
# Formatting and validation

A formatted line has other gaps before its text and none behind it. The run of a validator does not look at them, but
for one case: a sign with nothing but blanks behind it assigns the last of the blanks, and the formatter takes them
away. Where no assignment is lost like that, a document and its formatted form have the same diagnostics but for
columns.
-/

namespace ChartConfig

open Text

namespace Text

/-! ## Lines without trailing gaps -/

/-- The second line is the first, cut where its text ends, with other gaps before the text. -/
def Reindented (cut : Nat) (line other : List Char) : Prop :=
  ∃ before core after indent, Gaps before ∧ Gaps after ∧ Gaps indent ∧ before.length + core.length = cut ∧
    line = before ++ core ++ after ∧ other = indent ++ core

namespace Reindented

variable {cut : Nat} {line other : List Char}

theorem alike (re : Reindented cut line other) : Alike line other := by
  obtain ⟨before, core, after, indent, gapsBefore, gapsAfter, gapsIndent, -, rfl, rfl⟩ := re
  exact ⟨core, ⟨before, after, gapsBefore, gapsAfter, rfl⟩, ⟨indent, [], gapsIndent, .nil, by simp⟩⟩

theorem map (re : Reindented cut line other) {f : Char → Char}
    (keeps : ∀ c, isGap c = true → isGap (f c) = true) : Reindented cut (line.map f) (other.map f) := by
  obtain ⟨before, core, after, indent, gapsBefore, gapsAfter, gapsIndent, isCut, rfl, rfl⟩ := re
  exact ⟨before.map f, core.map f, after.map f, indent.map f, gapsBefore.map keeps, gapsAfter.map keeps,
    gapsIndent.map keeps, by simpa using isCut, by simp, by simp⟩

theorem blankSpan (re : Reindented cut line other) (later inside : Bool) :
    Reindented cut (blankSpan later inside line).1 (blankSpan later inside other).1 := by
  obtain ⟨before, core, after, indent, gapsBefore, gapsAfter, gapsIndent, isCut, rfl, rfl⟩ := re
  obtain ⟨stop, gapsStop, sameStop⟩ := blankSpan_after gapsAfter later inside core
  obtain ⟨start, gapsStart, sameStart⟩ := blankSpan_before gapsBefore later inside (core ++ after)
  obtain ⟨first, gapsFirst, sameFirst⟩ := blankSpan_before gapsIndent later inside core
  refine ⟨start, (Text.blankSpan later inside core).1, stop, first, gapsStart, gapsStop, gapsFirst, ?_, ?_, ?_⟩
  · have whole := congrArg (·.1.length) sameStart
    simp only [List.length_append, length_blankSpan] at whole
    rw [length_blankSpan]
    omega
  · rw [List.append_assoc, sameStart, sameStop, List.append_assoc]
  · rw [sameFirst]

theorem blankCommentLine (re : Reindented cut line other) :
    Reindented cut (blankCommentLine line) (blankCommentLine other) := by
  simp only [Text.blankCommentLine, re.alike.congr fun _ _ => isCommentLine_padded]
  split
  · exact re.map isGap_blanked
  · exact re

end Reindented

theorem reindented_analysed {lines others : List (List Char)}
    (re : List.Forall₂ (fun line other => Reindented (trimEnd line).length line other) lines others) {inside : Bool}
    {i : Nat} {source first second : List Char} (isSource : lines[i]? = some source)
    (isFirst : ((blankLines inside lines).map fun line => (blankCommentLine line).map Char.toLower)[i]? = some first)
    (isSecond : ((blankLines inside others).map fun line => (blankCommentLine line).map Char.toLower)[i]? =
      some second) :
    Reindented (trimEnd source).length first second := by
  induction re generalizing inside i with
  | nil => cases isSource
  | @cons line other following others here rest inductionHypothesis =>
    have alike : List.Forall₂ Alike following others := rest.imp fun _ _ re => re.alike
    have sameLater : following.any closesComment = others.any closesComment :=
      any_of_alike alike fun _ _ => closesComment_padded
    simp only [blankLines, List.map_cons, sameLater] at isFirst isSecond
    cases i with
    | zero =>
      simp only [List.getElem?_cons_zero, Option.some.injEq] at isSource isFirst isSecond
      subst isSource isFirst isSecond
      exact ((here.blankSpan _ inside).blankCommentLine).map isGap_toLower
    | succ i =>
      have state := here.alike.congr fun _ _ padded => (blankSpan_padded padded (others.any closesComment) inside).2
      rw [state] at isFirst
      exact inductionHypothesis isSource isFirst isSecond

end Text

/-- A line and its reindented form assign the same, if a blank that the line assigns is not lost with its end. -/
theorem Line.assignsSame_of_reindented {cut : Nat} {line other : List Char} (re : Reindented cut line other)
    (kept : ∀ a, assignment? line = some a → allBlank a.value.text = true →
      (assignment? (line.take cut)).map Assignment.texts = some a.texts) : AssignsSame line other := by
  obtain ⟨before, core, after, indent, gapsBefore, gapsAfter, gapsIndent, isCut, rfl, rfl⟩ := re
  have byCore {gaps : List Char} (areGaps : Gaps gaps) : AssignsSame (gaps ++ core) core :=
    assignment?_before areGaps core
  have uncut : AssignsSame (before ++ core ++ after) (before ++ core) := by
    cases assignment?_append (before ++ core) gapsAfter with
    | inl same => exact same
    | inr blank =>
      obtain ⟨a, found, isBlank⟩ := blank
      have still := kept a found isBlank
      rw [List.take_left' (by rw [List.length_append, isCut])] at still
      rw [AssignsSame, found, still]
      rfl
  exact uncut.trans ((byCore gapsBefore).trans (byCore gapsIndent).symm)

namespace Format

theorem reindented_shaped {line : List Char} (gaps : ∀ c ∈ line, isBlank c = true → isGap c = true) (o : FormatOptions)
    (level : Option Nat) : Reindented (trimEnd line).length line (shaped line (level.map o.indent)) := by
  have gapsOf {part : List Char} (isPart : part ⊆ line) (blank : ∀ c ∈ part, isBlank c = true) : Gaps part :=
    fun c member => gaps c (isPart member) (blank c member)
  have isIndent (depth : Nat) : Gaps (o.indent depth) := fun c => o.isGap_of_mem_indent
  obtain ⟨after, blankAfter, whole⟩ := exists_trimEnd_append line
  have gapsAfter : Gaps after := by
    refine gapsOf ?_ blankAfter
    rw [← whole]
    exact List.subset_append_right ..
  cases level with
  | none => exact ⟨[], trimEnd line, after, [], .nil, gapsAfter, .nil, by simp, whole.symm, rfl⟩
  | some depth =>
    cases blank : allBlank line with
    | true =>
      have nothing : trim line = [] := trimEnd_eq_nil.mpr ((allBlank_trimStart line).trans blank)
      refine ⟨[], [], line, o.indent depth, .nil, gapsOf (List.Subset.refl line) (allBlank_iff.mp blank),
        isIndent depth, ?_, rfl, ?_⟩
      · rw [trimEnd_eq_nil.mpr blank]
        rfl
      · change o.indent depth ++ trim line = _
        rw [nothing]
    | false =>
      have text : leadingBlanks line ++ trim line = trimEnd line := leadingBlanks_append_trim blank
      refine ⟨leadingBlanks line, trim line, after, o.indent depth, ?_, gapsAfter, isIndent depth, ?_, ?_, rfl⟩
      · exact gapsOf (List.takeWhile_prefix isBlank).subset fun c => isBlank_of_mem_leadingBlanks
      · rw [← text, List.length_append]
      · rw [text, whole]

end Format

/-! ## Validation -/

/-- The two diagnostics are the same but for columns. -/
structure Diagnostic.SameButColumns (d e : Diagnostic) : Prop where
  severity : d.severity = e.severity
  message : d.message = e.message
  startLine : d.range.start.line = e.range.start.line
  stopLine : d.range.stop.line = e.range.stop.line

theorem Diagnostic.sameButColumns_of_flat {d e : Diagnostic} (flat : d.flat = e.flat) : d.SameButColumns e := by
  obtain ⟨range, severity, message⟩ := Diagnostic.mk.inj flat
  obtain ⟨start, stop⟩ := Range.mk.inj range
  exact ⟨severity, message, (Position.mk.inj start).1, (Position.mk.inj stop).1⟩

/-- A document whose blanks are spaces, tabs and breaks has the same diagnostics before and after formatting, one for
    one: the same severities, messages and lines, if not the same columns. What is asked of it is that a line that is
    read as the assignment of a blank still is when the blanks at its end are cut off. -/
theorem format_preserves_validation (r : Registry) (o : FormatOptions) (text : String)
    (plain : ∀ c ∈ text.toList, isBlank c = true → c = ' ' ∨ c = '\t' ∨ c = '\n' ∨ c = '\r')
    (kept : ∀ x ∈ Document.readings text, ∀ line, (Document.lines text)[x.number]? = some line →
      ∀ a, Line.assignment? x.line = some a → allBlank a.value.text = true →
        (Line.assignment? (x.line.take (trimEnd line).length)).map Assignment.texts = some a.texts) :
    ∃ formatted before after,
      Edit.apply text (Format.edits text o r) = some formatted ∧
      validate text r = .ok before ∧ validate formatted r = .ok after ∧
      List.Forall₂ Diagnostic.SameButColumns before after := by
  have gaps : ∀ line ∈ Document.lines text, ∀ c ∈ line, isBlank c = true → isGap c = true := by
    intro line isLine c member blank
    obtain ⟨noBreak, noReturn⟩ := isLine_of_mem_splitLines isLine
    rcases plain c (mem_of_mem_splitLines isLine member) blank with rfl | rfl | rfl | rfl
    · rfl
    · rfl
    · exact absurd member noBreak
    · exact absurd member noReturn
  let formatted := Document.ofLines (Format.shapedLines o r text)
  have lines : Document.lines formatted = Format.shapedLines o r text := Format.lines_ofLines_shapedLines o r text
  have re : List.Forall₂ (fun line other => Reindented (trimEnd line).length line other) (Document.lines text)
      (Document.lines formatted) := by
    rw [lines]
    exact Format.forall₂_shapedLines o r fun line member => Format.reindented_shaped (gaps line member) o
  have alike : List.Forall₂ Alike (Document.analysed text) (Document.analysed formatted) := by
    rw [Document.analysed_eq, Document.analysed_eq]
    exact analysed_alike (re.imp fun _ _ re => re.alike) false
  have assigns : ∀ x ∈ Document.readings text, ∀ line, (Document.analysed formatted)[x.number]? = some line →
      Line.AssignsSame x.line line := by
    intro x member line isLine
    have isRead : (Document.analysed text)[x.number]? = some x.line := Document.getElem?_of_mem_readings member
    obtain ⟨source, isSource, -⟩ := Document.getElem?_analysed isRead
    rw [Document.analysed_eq] at isRead isLine
    exact Line.assignsSame_of_reindented (reindented_analysed re isSource isRead isLine) (kept x member source isSource)
  obtain ⟨before, after, first, second, flat⟩ := validate_alike r alike assigns
  refine ⟨formatted, before, after, Format.apply_edits o r text, first, second, ?_⟩
  rw [← List.forall₂_eq_eq_eq, List.forall₂_map_left_iff, List.forall₂_map_right_iff] at flat
  exact flat.imp fun _ _ => Diagnostic.sameButColumns_of_flat

/-- A widget with uneven padding, a comment for a value and a condition that is not closed. -/
def looseText : String :=
  "[widget] \r\n\t\ttitle = /* none */ \n   if a\t\n width = 10 \nendfor "

theorem format_preserves_validation_loose :
    (∀ c ∈ looseText.toList, isBlank c = true → c = ' ' ∨ c = '\t' ∨ c = '\n' ∨ c = '\r') ∧
      (∀ x ∈ Document.readings looseText, ∀ line, (Document.lines looseText)[x.number]? = some line →
        ∀ a, Line.assignment? x.line = some a → allBlank a.value.text = true →
          (Line.assignment? (x.line.take (trimEnd line).length)).map Assignment.texts = some a.texts) ∧
      ∃ formatted before after,
        Edit.apply looseText (Format.edits looseText ⟨2, true⟩ default) = some formatted ∧
        validate looseText default = .ok before ∧ validate formatted default = .ok after ∧
        before.map Diagnostic.message =
          ["title is unknown.", "width is unknown.", "endfor has no matching for", "if has no matching endif"] ∧
        List.Forall₂ Diagnostic.SameButColumns before after := by
  have plain : ∀ c ∈ looseText.toList, isBlank c = true → c = ' ' ∨ c = '\t' ∨ c = '\n' ∨ c = '\r' := by
    have blanks : looseText.toList.all (fun c => !isBlank c || [' ', '\t', '\n', '\r'].contains c) = true := by
      decide +kernel
    intro c member blank
    simpa [blank] using List.all_eq_true.mp blanks c member
  have kept : ∀ x ∈ Document.readings looseText, ∀ line, (Document.lines looseText)[x.number]? = some line →
      ∀ a, Line.assignment? x.line = some a → allBlank a.value.text = true →
        (Line.assignment? (x.line.take (trimEnd line).length)).map Assignment.texts = some a.texts := by
    have lines : (Document.readings looseText).all (fun x => (Document.lines looseText)[x.number]?.all fun line =>
        (Line.assignment? x.line).all fun a => !allBlank a.value.text ||
          (Line.assignment? (x.line.take (trimEnd line).length)).map Assignment.texts == some a.texts) = true := by
      decide +kernel
    intro x member line isLine a found blank
    simpa [found, blank, isLine] using List.all_eq_true.mp lines x member
  obtain ⟨formatted, before, after, applied, first, second, same⟩ :=
    format_preserves_validation default ⟨2, true⟩ looseText plain kept
  have messages : (validate looseText default).map (·.map Diagnostic.message) =
      .ok ["title is unknown.", "width is unknown.", "endfor has no matching for", "if has no matching endif"] := by
    decide +kernel
  rw [first] at messages
  exact ⟨plain, kept, formatted, before, after, applied, first, second, Except.ok.inj messages, same⟩

-- Blanks that are a value are cut off, and then the line assigns nothing: what was reported of it is lost.
example : Format.shapedLines ⟨2, true⟩ default "[widget]\ntitle = " = Document.lines "[widget]\n  title =" ∧
    (validate "[widget]\ntitle = " default).map List.length = .ok 1 ∧
    (validate "[widget]\n  title =" default).map List.length = .ok 0 := by
  decide +kernel

end ChartConfig
