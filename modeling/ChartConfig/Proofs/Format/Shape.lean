import ChartConfig.Proofs.Format.Apply
import ChartConfig.Proofs.Format.Script

/-!
# The shape of a formatted document

Formatting touches the blanks at the ends of lines and nothing else. Which lines are indented, and how deep,
depends on the document and the registry; the options only say how a level is written.
-/

namespace ChartConfig

open Text

theorem FormatOptions.isGap_of_mem_indent {o : FormatOptions} {level : Nat} {c : Char} (member : c ∈ o.indent level) :
    isGap c = true := by
  obtain ⟨copy, isCopy, inCopy⟩ := List.mem_flatten.mp member
  rw [List.eq_of_mem_replicate isCopy] at inCopy
  unfold FormatOptions.step at inCopy
  split at inCopy
  · rw [List.eq_of_mem_replicate inCopy]
    decide
  · rw [List.mem_singleton.mp inCopy]
    decide

theorem isLine_of_gaps {cs : List Char} (gaps : ∀ c ∈ cs, isGap c = true) : IsLine cs :=
  ⟨fun member => absurd (gaps _ member) (by decide), fun member => absurd (gaps _ member) (by decide)⟩

theorem Text.IsLine.shaped {line : List Char} (isLine : IsLine line) (o : FormatOptions) (level : Option Nat) :
    IsLine (Format.shaped line (level.map o.indent)) := by
  have trimmed (cs : List Char) : trimEnd cs ⊆ cs := (prefix_trimEnd cs).subset
  cases level with
  | none => exact isLine.subset (trimmed line)
  | some level =>
    have text : trim line ⊆ line := List.Subset.trans (trimmed _) (List.dropWhile_suffix isBlank).subset
    exact (isLine_of_gaps fun c member => o.isGap_of_mem_indent member).append (isLine.subset text)

namespace Format

def shapedLines (o : FormatOptions) (r : Registry) (text : String) : List (List Char) :=
  List.zipWith (fun line level => shaped line (level.map o.indent)) (Document.lines text) (Layout.levels r text)

theorem length_levels (r : Registry) (text : String) :
    (Layout.levels r text).length = (Document.lines text).length := by
  rw [Layout.levels, List.length_map, (Layout.indents_blank Ruler.levels r text).length_eq]

theorem length_shapedLines (o : FormatOptions) (r : Registry) (text : String) :
    (shapedLines o r text).length = (Document.lines text).length := by
  rw [shapedLines, List.length_zipWith, length_levels, Nat.min_self]

theorem lines_ofLines_shapedLines (o : FormatOptions) (r : Registry) (text : String) :
    Document.lines (Document.ofLines (shapedLines o r text)) = shapedLines o r text := by
  have nonempty : shapedLines o r text ≠ [] := by
    intro empty
    have sameLength := length_shapedLines o r text
    rw [empty] at sameLength
    exact splitLines_ne_nil text.toList (List.length_eq_zero_iff.mp sameLength.symm)
  rw [Document.lines, Document.ofLines, String.toList_ofList]
  apply splitLines_joinLines nonempty
  intro shapedLine member
  obtain ⟨i, inBounds, rfl⟩ := List.mem_iff_getElem.mp member
  simp only [shapedLines, List.getElem_zipWith]
  exact (isLine_of_mem_splitLines (List.getElem_mem _)).shaped o _

theorem getElem?_shapedLines (o : FormatOptions) (r : Registry) (text : String) {i : Nat} {line : List Char}
    (isLine : (Document.lines text)[i]? = some line) :
    (shapedLines o r text)[i]? = some
      (if allBlank line then []
      else if (Document.scriptBodies text)[i]? = some true then trimEnd line
      else o.indent (((Layout.levels r text)[i]?.join).getD 0) ++ trim line) := by
  obtain ⟨inBounds, -⟩ := List.getElem?_eq_some_iff.mp isLine
  obtain ⟨level, isLevel⟩ : ∃ level, (Layout.levels r text)[i]? = some level :=
    ⟨_, List.getElem?_eq_getElem (by rwa [length_levels])⟩
  -- A line has no level if and only if it lies in a script or is blank.
  have kept := congrArg (·[i]?) (Layout.isNone_levels r text)
  simp only [List.getElem?_map, isLevel, Option.map_some, List.getElem?_zipWith', isLine] at kept
  obtain ⟨script, isScript, said⟩ : ∃ script, (Document.scriptBodies text)[i]? = some script ∧
      level.isNone = (script || allBlank line) := by
    cases script : (Document.scriptBodies text)[i]? with
    | none => simp [script] at kept
    | some script => simpa [script] using kept
  have shape : (shapedLines o r text)[i]? = some (shaped line (level.map o.indent)) := by
    simp [shapedLines, List.getElem?_zipWith', isLine, isLevel]
  rw [shape, isScript, isLevel]
  cases blank : allBlank line with
  | true =>
    rw [blank, Bool.or_true] at said
    rw [Option.isNone_iff_eq_none.mp said]
    simpa [shaped] using trimEnd_eq_nil.mpr blank
  | false =>
    rw [blank, Bool.or_false] at said
    cases level with
    | none => simp [shaped, ← said]
    | some depth => simp [shaped, ← said]

theorem zipWith_indents (o : FormatOptions) (r : Registry) (text : String) :
    List.zipWith (fun line indent => shaped line indent.wanted?) (Document.lines text)
      (Layout.indents o.ruler r text) = shapedLines o r text := by
  calc List.zipWith (fun line indent => shaped line indent.wanted?) (Document.lines text)
        (Layout.indents o.ruler r text)
      = List.zipWith shaped (Document.lines text) ((Layout.indents o.ruler r text).map Indent.wanted?) :=
        (List.zipWith_map_right).symm
    _ = List.zipWith shaped (Document.lines text) ((Layout.levels r text).map (Option.map o.indent)) := by
        rw [Layout.wanted_indents]
    _ = shapedLines o r text := List.zipWith_map_right

theorem apply_edits (o : FormatOptions) (r : Registry) (text : String) :
    Edit.apply text (edits text o r) = some (Document.ofLines (shapedLines o r text)) := by
  have applied := applyTo_editsFrom (Layout.indents_blank o.ruler r text)
  rw [zipWith_indents] at applied
  unfold Edit.apply edits
  rw [← Document.lines, applied]
  rfl

end Format

/-! ## The edits -/

namespace Edit

/-- The edit stays within one line, and its start is not after its end. -/
structure Within (lines : List (List Char)) (e : Edit) : Prop where
  oneLine : e.range.stop.line = e.range.start.line
  ordered : e.range.start.character ≤ e.range.stop.character
  inBounds : ∃ line, lines[e.range.start.line]? = some line ∧ e.range.stop.character ≤ line.length

/-- The edits share no character. -/
def Disjoint (a b : Edit) : Prop :=
  a.range.start.line ≠ b.range.start.line ∨ a.range.stop.character ≤ b.range.start.character ∨
    b.range.stop.character ≤ a.range.start.character

/-- The edit takes away the blanks at the end of a line that has some. -/
structure Trails (number : Nat) (line : List Char) (e : Edit) : Prop where
  range : e.range = Range.onLine number (trimEnd line).length line.length
  newText : e.newText = ""
  changes : (trimEnd line).length < line.length

/-- The edit puts other gaps in place of the blanks before the text of a line. -/
structure Leads (number : Nat) (line : List Char) (e : Edit) : Prop where
  range : e.range = Range.onLine number 0 (leadingBlanks line).length
  gaps : ∀ c ∈ e.newText.toList, isGap c = true
  changes : e.newText.toList ≠ leadingBlanks line
  hasText : allBlank line = false

end Edit

namespace Format

variable {number : Nat} {line : List Char} {indent : Indent (List Char)} {e : Edit}

def Gapped (line : List Char) (indent : Indent (List Char)) : Prop :=
  ∀ wanted, indent.wanted? = some wanted → (∀ c ∈ wanted, isGap c = true) ∧ allBlank line = false

theorem trails_of_mem (member : e ∈ trailing number line) : e.Trails number line := by
  obtain ⟨rfl, shorter⟩ := mem_trailing member
  exact ⟨rfl, rfl, shorter⟩

theorem leads_of_mem {wanted : List Char} (member : e ∈ leading number line wanted)
    (gaps : ∀ c ∈ wanted, isGap c = true) (hasText : allBlank line = false) : e.Leads number line := by
  obtain ⟨rfl, different⟩ := mem_leading member
  exact ⟨rfl, by simpa using gaps, by simpa using Ne.symm different, hasText⟩

theorem lineEdits_eq (gapped : Gapped line indent) :
    ∃ ends starts, lineEdits number line indent = ends ++ starts ∧ ends.length ≤ 1 ∧ starts.length ≤ 1 ∧
      (∀ e ∈ ends, e.Trails number line) ∧ ∀ e ∈ starts, e.Leads number line := by
  have oneEnd : (trailing number line).length ≤ 1 := by
    rcases trailing_cases number line with ⟨-, none⟩ | ⟨-, one⟩
    · simp [none]
    · simp [one]
  unfold lineEdits
  cases asked : indent.wanted? with
  | none => exact ⟨trailing number line, [], rfl, oneEnd, by simp, fun e member => trails_of_mem member, by simp⟩
  | some wanted =>
    have oneStart : (leading number line wanted).length ≤ 1 := by
      rcases leading_cases number line wanted with ⟨-, none⟩ | ⟨-, one⟩
      · simp [none]
      · simp [one]
    obtain ⟨gaps, hasText⟩ := gapped wanted asked
    exact ⟨trailing number line, leading number line wanted, rfl, oneEnd, oneStart,
      fun e member => trails_of_mem member, fun e member => leads_of_mem member gaps hasText⟩

theorem disjoint_of_trails_of_leads {a b : Edit} (trails : a.Trails number line) (leads : b.Leads number line) :
    a.Disjoint b := by
  have whole := congrArg List.length (leadingBlanks_append_trim leads.hasText)
  rw [List.length_append] at whole
  refine .inr (.inr ?_)
  rw [trails.range, leads.range]
  change (leadingBlanks line).length ≤ (trimEnd line).length
  omega

theorem pairwise_disjoint_lineEdits (gapped : Gapped line indent) :
    (lineEdits number line indent).Pairwise Edit.Disjoint := by
  obtain ⟨ends, starts, same, oneEnd, oneStart, trails, leads⟩ := @lineEdits_eq number line indent gapped
  have single {es : List Edit} (one : es.length ≤ 1) : es.Pairwise Edit.Disjoint := by
    match es with
    | [] => exact .nil
    | [_] => exact List.pairwise_singleton _ _
    | _ :: _ :: _ => simp at one
  rw [same, List.pairwise_append]
  refine ⟨single oneEnd, single oneStart, ?_⟩
  exact fun a atEnd b atStart => disjoint_of_trails_of_leads (trails a atEnd) (leads b atStart)

theorem within_of_mem_lineEdits {lines : List (List Char)} (gapped : Gapped line indent)
    (isLine : lines[number]? = some line) (member : e ∈ lineEdits number line indent) : e.Within lines := by
  obtain ⟨ends, starts, same, -, -, trails, leads⟩ := @lineEdits_eq number line indent gapped
  rw [same] at member
  rcases List.mem_append.mp member with atEnd | atStart
  · have range := (trails e atEnd).range
    have shorter := (trails e atEnd).changes
    refine ⟨by rw [range]; rfl, by rw [range]; exact Nat.le_of_lt shorter, line, by rw [range]; exact isLine, ?_⟩
    rw [range]
    exact Nat.le_refl _
  · have range := (leads e atStart).range
    refine ⟨by rw [range]; rfl, by rw [range]; exact Nat.zero_le _, line, by rw [range]; exact isLine, ?_⟩
    rw [range]
    exact (List.takeWhile_prefix isBlank).length_le

variable {lines : List (List Char)} {indents : List (Indent (List Char))}

theorem line_of_mem_editsFrom (gapped : List.Forall₂ Gapped lines indents)
    (member : e ∈ editsFrom number lines indents) :
    ∃ i line indent, lines[i]? = some line ∧ Gapped line indent ∧ e ∈ lineEdits (number + i) line indent := by
  induction gapped generalizing number with
  | nil => cases member
  | @cons line indent lines indents first rest inductionHypothesis =>
    rcases List.mem_append.mp member with here | later
    · exact ⟨0, line, indent, rfl, first, here⟩
    · obtain ⟨i, line, indent, isLine, gapped, inLine⟩ := inductionHypothesis later
      exact ⟨i + 1, line, indent, isLine, gapped, by rwa [Nat.add_right_comm, Nat.add_assoc] at inLine⟩

theorem le_line_of_mem_editsFrom (member : e ∈ editsFrom number lines indents) : number ≤ e.range.start.line := by
  fun_induction editsFrom number lines indents with
  | case1 number line lines indent indents inductionHypothesis =>
    rcases List.mem_append.mp member with here | later
    · exact Nat.le_of_eq (line_of_mem_lineEdits here).symm
    · exact Nat.le_of_succ_le (inductionHypothesis later)
  | case2 => cases member

theorem pairwise_disjoint_editsFrom (gapped : List.Forall₂ Gapped lines indents) (number : Nat) :
    (editsFrom number lines indents).Pairwise Edit.Disjoint := by
  induction gapped generalizing number with
  | nil => exact .nil
  | cons first rest inductionHypothesis =>
    unfold editsFrom
    rw [List.pairwise_append]
    refine ⟨pairwise_disjoint_lineEdits first, inductionHypothesis (number + 1), ?_⟩
    intro a here b later
    have below := le_line_of_mem_editsFrom later
    have onLine := line_of_mem_lineEdits here
    refine .inl ?_
    omega

theorem filter_editsFrom (gapped : List.Forall₂ Gapped lines indents) {i : Nat} (isLine : lines[i]? = some line) :
    ∃ indent, Gapped line indent ∧
      (editsFrom number lines indents).filter (fun e => e.range.start.line == number + i) =
        lineEdits (number + i) line indent := by
  induction gapped generalizing number i with
  | nil => cases isLine
  | @cons first indent lines indents fits rest inductionHypothesis =>
    unfold editsFrom
    rw [List.filter_append]
    cases i with
    | zero =>
      cases isLine
      have own : (lineEdits number line indent).filter (fun e => e.range.start.line == number + 0) =
          lineEdits number line indent := by
        refine List.filter_eq_self.mpr fun e member => ?_
        simp [line_of_mem_lineEdits member]
      have others : (editsFrom (number + 1) lines indents).filter (fun e => e.range.start.line == number + 0) = [] := by
        refine List.filter_eq_nil_iff.mpr fun e member => ?_
        have below := le_line_of_mem_editsFrom member
        simp only [beq_iff_eq]
        omega
      exact ⟨indent, fits, by rw [own, others, List.append_nil]; rfl⟩
    | succ i =>
      have others : (lineEdits number first indent).filter (fun e => e.range.start.line == number + (i + 1)) = [] := by
        refine List.filter_eq_nil_iff.mpr fun e member => ?_
        have onLine := line_of_mem_lineEdits member
        simp only [beq_iff_eq]
        omega
      obtain ⟨indent, gapped, same⟩ := @inductionHypothesis (number + 1) i isLine
      have shift : number + 1 + i = number + (i + 1) := by omega
      rw [shift] at same
      exact ⟨indent, gapped, by rw [others, same, List.nil_append]⟩

theorem gapped_indents (o : FormatOptions) (r : Registry) (text : String) :
    List.Forall₂ Gapped (Document.lines text) (Layout.indents o.ruler r text) := by
  have gaps : ∀ indent ∈ Layout.indents o.ruler r text, ∀ wanted, indent.wanted? = some wanted →
      ∀ c ∈ wanted, isGap c = true := by
    intro indent member wanted asked c inWanted
    have isLevel : indent.wanted? ∈ (Layout.levels r text).map (Option.map o.indent) := by
      rw [← Layout.wanted_indents]
      exact List.mem_map_of_mem member
    obtain ⟨level, -, same⟩ := List.mem_map.mp isLevel
    rw [asked] at same
    obtain ⟨depth, -, rfl⟩ := Option.map_eq_some_iff.mp same
    exact o.isGap_of_mem_indent inWanted
  have blank := Layout.indents_blank o.ruler r text
  generalize Layout.indents o.ruler r text = indents at gaps blank ⊢
  generalize Document.lines text = lines at blank ⊢
  induction blank with
  | nil => exact .nil
  | cons first rest inductionHypothesis =>
    refine .cons ?_ (inductionHypothesis fun indent member => gaps indent (List.mem_cons_of_mem _ member))
    intro wanted asked
    exact ⟨gaps _ (List.mem_cons_self ..) wanted asked, Fits.notBlank first asked⟩

end Format

/-! ## Levels and lines -/

/-- Every line has a level, whatever the options. The edits touch the blanks at the ends of lines, each line once
    at most at either end; they can be applied; and the lines then are empty, as they were up to the blanks at
    their end, or indented by their level. -/
theorem format_by_levels (r : Registry) (text : String) :
    ∃ level : Nat → Nat, ∀ o : FormatOptions,
      (∀ e ∈ Format.edits text o r, e.Within (Document.lines text)) ∧
      (Format.edits text o r).Pairwise Edit.Disjoint ∧
      (∀ i line, (Document.lines text)[i]? = some line →
        ∃ ends starts, (Format.edits text o r).filter (fun e => e.range.start.line == i) = ends ++ starts ∧
          ends.length ≤ 1 ∧ starts.length ≤ 1 ∧
          (∀ e ∈ ends, e.Trails i line) ∧ ∀ e ∈ starts, e.Leads i line) ∧
      ∃ out, Edit.apply text (Format.edits text o r) = some out ∧
        (Document.lines out).length = (Document.lines text).length ∧
        ∀ i line, (Document.lines text)[i]? = some line →
          (Document.lines out)[i]? = some
            (if allBlank line then []
            else if (Document.scriptBodies text)[i]? = some true then trimEnd line
            else o.indent (level i) ++ trim line) := by
  refine ⟨fun i => ((Layout.levels r text)[i]?.join).getD 0, fun o => ?_⟩
  have gapped := Format.gapped_indents o r text
  refine ⟨?_, Format.pairwise_disjoint_editsFrom gapped 0, ?_, ?_⟩
  · intro e member
    obtain ⟨i, line, indent, isLine, fits, inLine⟩ := Format.line_of_mem_editsFrom gapped member
    rw [Nat.zero_add] at inLine
    exact Format.within_of_mem_lineEdits fits isLine inLine
  · intro i line isLine
    obtain ⟨indent, fits, same⟩ := @Format.filter_editsFrom 0 line _ _ gapped i isLine
    rw [Nat.zero_add] at same
    rw [Format.edits, same]
    exact Format.lineEdits_eq fits
  · refine ⟨_, Format.apply_edits o r text, ?_, ?_⟩
    · rw [Format.lines_ofLines_shapedLines, Format.length_shapedLines]
    · intro i line isLine
      rw [Format.lines_ofLines_shapedLines]
      exact Format.getElem?_shapedLines o r text isLine

end ChartConfig
