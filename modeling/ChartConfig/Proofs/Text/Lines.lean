import ChartConfig.Text.Lines

/-!
# Lines and breaks

Cutting a text into lines and joining lines are inverse to each other, as long as no line holds a break.
-/

namespace ChartConfig.Text

def IsLine (cs : List Char) : Prop :=
  '\n' ∉ cs ∧ '\r' ∉ cs

theorem IsLine.append {cs more : List Char} (first : IsLine cs) (second : IsLine more) : IsLine (cs ++ more) := by
  constructor
  · simp [first.1, second.1]
  · simp [first.2, second.2]

theorem IsLine.subset {cs part : List Char} (whole : IsLine cs) (isPart : part ⊆ cs) : IsLine part :=
  ⟨fun member => whole.1 (isPart member), fun member => whole.2 (isPart member)⟩

/-! ## Normal breaks -/

theorem return_not_mem_normalizeBreaks (text : List Char) : '\r' ∉ normalizeBreaks text := by
  fun_induction normalizeBreaks text with
  | case1 => simp
  | case2 cs inductionHypothesis => simp [inductionHypothesis]
  | case3 c cs _ inductionHypothesis =>
    by_cases isReturn : c = '\r'
    · simp [isReturn, inductionHypothesis]
    · simp [isReturn, Ne.symm isReturn, inductionHypothesis]

theorem normalizeBreaks_eq_self {text : List Char} (normal : '\r' ∉ text) : normalizeBreaks text = text := by
  fun_induction normalizeBreaks text with
  | case1 => rfl
  | case2 cs inductionHypothesis => simp at normal
  | case3 c cs _ inductionHypothesis =>
    rw [List.mem_cons, not_or] at normal
    rw [if_neg (Ne.symm normal.1), inductionHypothesis normal.2]

theorem mem_of_mem_normalizeBreaks {text : List Char} {c : Char} (member : c ∈ normalizeBreaks text) :
    c = '\n' ∨ c ∈ text := by
  fun_induction normalizeBreaks text with
  | case1 => cases member
  | case2 cs inductionHypothesis =>
    rcases List.mem_cons.mp member with isBreak | later
    · exact .inl isBreak
    · exact (inductionHypothesis later).imp id fun inText => List.mem_cons_of_mem _ (List.mem_cons_of_mem _ inText)
  | case3 first cs _ inductionHypothesis =>
    rcases List.mem_cons.mp member with here | later
    · split at here
      · exact .inl here
      · exact .inr (here ▸ List.mem_cons_self ..)
    · exact (inductionHypothesis later).imp id fun inText => List.mem_cons_of_mem _ inText

/-! ## Splitting and joining -/

theorem splitAtBreaks_line {line : List Char} (free : '\n' ∉ line) : splitAtBreaks line = [line] := by
  induction line with
  | nil => rfl
  | cons c cs inductionHypothesis =>
    rw [List.mem_cons, not_or] at free
    rw [splitAtBreaks, if_neg (Ne.symm free.1), inductionHypothesis free.2]

theorem splitAtBreaks_append {line : List Char} (free : '\n' ∉ line) (rest : List Char) :
    splitAtBreaks (line ++ '\n' :: rest) = line :: splitAtBreaks rest := by
  induction line with
  | nil => simp [splitAtBreaks]
  | cons c cs inductionHypothesis =>
    rw [List.mem_cons, not_or] at free
    rw [List.cons_append, splitAtBreaks, if_neg (Ne.symm free.1), inductionHypothesis free.2]

theorem splitAtBreaks_joinLines {lines : List (List Char)} (nonempty : lines ≠ [])
    (free : ∀ line ∈ lines, '\n' ∉ line) : splitAtBreaks (joinLines lines) = lines := by
  induction lines with
  | nil => exact absurd rfl nonempty
  | cons line rest inductionHypothesis =>
    have here := free line (List.mem_cons_self ..)
    cases rest with
    | nil => exact splitAtBreaks_line here
    | cons next rest =>
      rw [joinLines, splitAtBreaks_append here]
      · rw [inductionHypothesis (List.cons_ne_nil _ _) fun line member => free line (List.mem_cons_of_mem _ member)]
      · exact List.cons_ne_nil _ _

theorem mem_joinLines {lines : List (List Char)} {c : Char} (member : c ∈ joinLines lines) :
    c = '\n' ∨ ∃ line ∈ lines, c ∈ line := by
  fun_induction joinLines lines with
  | case1 => cases member
  | case2 line => exact .inr ⟨line, List.mem_cons_self .., member⟩
  | case3 line rest _ inductionHypothesis =>
    rcases List.mem_append.mp member with here | later
    · exact .inr ⟨line, List.mem_cons_self .., here⟩
    · rcases List.mem_cons.mp later with isBreak | later
      · exact .inl isBreak
      · rcases inductionHypothesis later with isBreak | ⟨other, isLine, there⟩
        · exact .inl isBreak
        · exact .inr ⟨other, List.mem_cons_of_mem _ isLine, there⟩

theorem splitLines_joinLines {lines : List (List Char)} (nonempty : lines ≠ [])
    (areLines : ∀ line ∈ lines, IsLine line) : splitLines (joinLines lines) = lines := by
  have normal : '\r' ∉ joinLines lines := by
    intro member
    rcases mem_joinLines member with isBreak | ⟨line, isThere, inLine⟩
    · cases isBreak
    · exact (areLines line isThere).2 inLine
  rw [splitLines, normalizeBreaks_eq_self normal]
  exact splitAtBreaks_joinLines nonempty fun line member => (areLines line member).1

theorem splitLines_ne_nil (text : List Char) : splitLines text ≠ [] :=
  splitAtBreaks_ne_nil _

theorem joinLines_splitLines (text : List Char) : joinLines (splitLines text) = normalizeBreaks text :=
  joinLines_splitAtBreaks _

theorem mem_of_mem_splitAtBreaks {text line : List Char} {c : Char} (isLine : line ∈ splitAtBreaks text)
    (member : c ∈ line) : c ∈ text := by
  induction text generalizing line with
  | nil => simp_all [splitAtBreaks]
  | cons first text inductionHypothesis =>
    unfold splitAtBreaks at isLine
    split at isLine
    · rcases List.mem_cons.mp isLine with rfl | later
      · cases member
      · exact List.mem_cons_of_mem _ (inductionHypothesis later member)
    · cases lines : splitAtBreaks text with
      | nil => exact absurd lines (splitAtBreaks_ne_nil text)
      | cons head rest =>
        rw [lines] at isLine inductionHypothesis
        rcases List.mem_cons.mp isLine with rfl | later
        · rcases List.mem_cons.mp member with rfl | inHead
          · exact List.mem_cons_self ..
          · exact List.mem_cons_of_mem _ (inductionHypothesis (List.mem_cons_self ..) inHead)
        · exact List.mem_cons_of_mem _ (inductionHypothesis (List.mem_cons_of_mem _ later) member)

theorem isLine_of_mem_splitLines {text line : List Char} (member : line ∈ splitLines text) : IsLine line :=
  ⟨not_mem_of_mem_splitAtBreaks member,
    fun isReturn => return_not_mem_normalizeBreaks text (mem_of_mem_splitAtBreaks member isReturn)⟩

theorem mem_of_mem_splitLines {text line : List Char} {c : Char} (isLine : line ∈ splitLines text)
    (member : c ∈ line) : c ∈ text := by
  rcases mem_of_mem_normalizeBreaks (mem_of_mem_splitAtBreaks isLine member) with rfl | inText
  · exact absurd member (not_mem_of_mem_splitAtBreaks isLine)
  · exact inText

end ChartConfig.Text
