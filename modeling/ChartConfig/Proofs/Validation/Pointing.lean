import ChartConfig.Proofs.Text.Comment
import ChartConfig.Proofs.Validation.Sources
import ChartConfig.Proofs.Validation.Totality
import ChartConfig.Report.Span

/-!
# Diagnostics point at their text

A diagnostic is a remark on the characters in its range. The range lies on one line of the document and is not
empty; the wording quotes the characters of the analysed line; and the span of the range cuts out of the source,
byte by byte, the characters that the analysed ones stand for.
-/

namespace ChartConfig

open Text Finding

/-! ## What a run reports -/

theorem validate_reports (r : Registry) (text : String) :
    ∃ said, validate text r = .ok (diagnostics said) ∧
      Reports r.measure text (Control.complaintsFrom {} 0 (Document.analysed text) ++
        (Control.afterLines {} 0 (Document.analysed text)).blocks.leftOpen) said := by
  have areLines : ∀ i line, (Document.analysed text)[i]? = some line →
      (Document.analysed text)[0 + i]? = some line := by
    simp
  have areRead : ∀ x ∈ ({} : State).control.readings 0 (Document.analysed text), x ∈ Document.readings text :=
    fun _ member => member
  have reported : ((Step.lines r 0 (Document.analysed text)).andThen (Step.finish r)).Ensures {} fun _ said =>
      Reports r.measure text (Control.complaintsFrom {} 0 (Document.analysed text) ++
        (Control.afterLines {} 0 (Document.analysed text)).blocks.leftOpen) said := by
    apply Step.ensures_andThen
    apply (Step.lines_reports areLines areRead State.armed_initial State.sourced_initial).mono
    rintro between said ⟨sourced, control, reports⟩
    apply (Step.finish_reports sourced).mono
    intro after more reportsMore
    have sameBlocks : between.blocks = (Control.afterLines {} 0 (Document.analysed text)).blocks :=
      congrArg Control.blocks control
    rw [sameBlocks] at reportsMore
    exact reports.append reportsMore
  obtain ⟨after, said, ran, reports⟩ := reported
  exact ⟨said, validate_of_run ran, reports⟩

/-! ## Lines keep their length -/

theorem length_blankSpan (later inside : Bool) (line : List Char) :
    (blankSpan later inside line).1.length = line.length := by
  fun_induction blankSpan later inside line with
  | case1 inside => rfl
  | _ => simp_all

theorem getElem?_blankLines {inside : Bool} {lines : List (List Char)} {i : Nat} {blank : List Char}
    (isThere : (blankLines inside lines)[i]? = some blank) :
    ∃ line, lines[i]? = some line ∧ blank.length = line.length := by
  induction lines generalizing inside i with
  | nil => cases isThere
  | cons line following inductionHypothesis =>
    cases i with
    | zero =>
      simp only [blankLines, List.getElem?_cons_zero, Option.some.injEq] at isThere
      exact ⟨line, rfl, by rw [← isThere, length_blankSpan]⟩
    | succ i => exact inductionHypothesis isThere

theorem Document.getElem?_analysed {text : String} {number : Nat} {line : List Char}
    (isLine : (analysed text)[number]? = some line) :
    ∃ source, (lines text)[number]? = some source ∧ line.length = source.length := by
  rw [Document.analysed_eq, List.getElem?_map, Option.map_eq_some_iff] at isLine
  obtain ⟨blank, isThere, rfl⟩ := isLine
  obtain ⟨source, isSource, sameLength⟩ := getElem?_blankLines isThere
  refine ⟨source, isSource, ?_⟩
  rw [List.length_map, ← sameLength, blankCommentLine]
  split <;> simp

/-! ## Spans -/

def Range.slice (range : Range) (line : List Char) : List Char :=
  (line.drop range.start.character).take (range.stop.character - range.start.character)

/-- A line cuts the text in three, and the bytes before it are those of the lines before it and their breaks. -/
theorem joinLines_at {lines : List (List Char)} {i : Nat} {line : List Char} (isLine : lines[i]? = some line) :
    ∃ before after, joinLines lines = before ++ line ++ after ∧
      byteLength before = (lines.take i).foldr (fun earlier bytes => byteLength earlier + 1 + bytes) 0 := by
  induction lines generalizing i with
  | nil => cases isLine
  | cons first rest inductionHypothesis =>
    cases i with
    | zero =>
      simp only [List.getElem?_cons_zero, Option.some.injEq] at isLine
      subst isLine
      cases rest with
      | nil => exact ⟨[], [], by simp [joinLines], rfl⟩
      | cons next rest => exact ⟨[], '\n' :: joinLines (next :: rest), by simp [joinLines], rfl⟩
    | succ i =>
      obtain ⟨before, after, cut, bytes⟩ := inductionHypothesis isLine
      cases rest with
      | nil => cases isLine
      | cons next rest =>
        refine ⟨first ++ '\n' :: before, after, by simp [joinLines, cut], ?_⟩
        have oneByte : '\n'.utf8Size = 1 := by decide
        rw [byteLength_append, byteLength_cons, oneByte, bytes, List.take_succ_cons, List.foldr_cons]
        omega

theorem Span.of_onLine {text : List Char} {number first last : Nat} {line : List Char}
    (isLine : (splitAtBreaks text)[number]? = some line) (ordered : first ≤ last) :
    ∃ before after, text = before ++ (Range.onLine number first last).slice line ++ after ∧
      Span.of text (Range.onLine number first last) =
        ⟨byteLength before, byteLength ((Range.onLine number first last).slice line)⟩ := by
  obtain ⟨before, after, cut, bytes⟩ := joinLines_at isLine
  rw [joinLines_splitAtBreaks] at cut
  have upTo : line.take last = line.take first ++ (line.drop first).take (last - first) := by
    rw [← List.take_add, Nat.add_sub_of_le ordered]
  have parts : line = line.take first ++ (line.drop first).take (last - first) ++ line.drop last := by
    rw [← upTo, List.take_append_drop]
  refine ⟨before ++ line.take first, line.drop last ++ after, ?_, ?_⟩
  · conv_lhs => rw [cut, parts]
    simp [Range.slice, Range.onLine]
  · have offset (column : Nat) :
        byteOffset text ⟨number, column⟩ = byteLength before + byteLength (line.take column) := by
      simp only [byteOffset, isLine, ← bytes, bytesBefore]
    simp only [Span.of, Range.onLine, offset, upTo, byteLength_append, Range.slice, Span.mk.injEq, true_and]
    omega

/-! ## Diagnostics -/

/-- The diagnostic is a remark on the characters of its range: on the analysed line it finds what the wording
    quotes, and its span cuts the same characters out of the source. A demand is made of a header that is read. -/
structure Diagnostic.PointsAt {measure : Measure} (text : String) (remark : Remark measure) (source line : List Char) (d : Diagnostic) : Prop where
  isSource : (Document.lines text)[d.range.start.line]? = some source
  isLine : (Document.analysed text)[d.range.start.line]? = some line
  oneLine : d.range.stop.line = d.range.start.line
  nonempty : d.range.start.character < d.range.stop.character
  inBounds : d.range.stop.character ≤ source.length
  severity_eq : d.severity = remark.severity
  message_eq : d.message = remark.message (String.ofList (d.range.slice line))
  demand : remark.isDemand = true → ∃ x ∈ Document.readings text,
    Line.header? x.line x.number = some ⟨String.ofList (d.range.slice line), d.range⟩
  span : ∃ before after, normalizeBreaks text.toList = before ++ d.range.slice source ++ after ∧
    Span.of (normalizeBreaks text.toList) d.range = ⟨byteLength before, byteLength (d.range.slice source)⟩

theorem Finding.Told.pointsAt {measure : Measure} {text : String} {d : Diagnostic}
    (told : (Finding.problem d).Told text fun _ : Remark measure => True) :
    ∃ remark : Remark measure, ∃ source line, d.PointsAt text remark source line := by
  obtain ⟨number, p, remark, ⟨line, isLine, inLine⟩, -, demand, rfl⟩ := told
  obtain ⟨source, isSource, sameLength⟩ := Document.getElem?_analysed isLine
  have quoted : String.ofList ((p.range number).slice line) = p.word := congrArg String.ofList inLine.slice
  refine ⟨remark, source, line, isSource, isLine, rfl, inLine.column_lt_stop, ?_, rfl, ?_, ?_, ?_⟩
  · rw [← sameLength]
    exact inLine.stop_le_length
  · exact congrArg remark.message quoted.symm
  · intro isDemand
    obtain ⟨x, isRead, isHeader⟩ := demand isDemand
    refine ⟨x, isRead, ?_⟩
    rw [isHeader]
    exact congrArg (fun name => some (Header.mk name (p.range number))) quoted.symm
  · exact Span.of_onLine isSource (Nat.le_of_lt inLine.column_lt_stop)

/-- Every diagnostic of a run points at the text that it talks about. -/
theorem diagnostics_point_at_text (r : Registry) (text : String) :
    ∃ found, validate text r = .ok found ∧
      ∀ d ∈ found, ∃ remark : Remark r.measure, ∃ source line, d.PointsAt text remark source line := by
  obtain ⟨said, ran, reports⟩ := validate_reports r text
  refine ⟨diagnostics said, ran, ?_⟩
  intro d member
  obtain ⟨f, isSaid, isProblem⟩ := List.mem_filterMap.mp member
  have told := reports.told f isSaid
  cases f with
  | note n => cases isProblem
  | problem e =>
    cases isProblem
    exact told.pointsAt

end ChartConfig
