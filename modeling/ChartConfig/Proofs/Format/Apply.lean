import Mathlib.Data.List.Forall2
import Mathlib.Data.List.Pairwise
import ChartConfig.Format.Run
import ChartConfig.Proofs.Text.Blank

/-!
# Applying the edits of a document

Edits are sorted before they are applied. Those that formatting makes stand at different places, so the sorted
edits are known: line by line from the last to the first, on each line the end before the start. Each line is
then edited on its own.
-/

namespace ChartConfig

open Text

namespace Format

/-- The line with the blanks at its end taken away and, if an indent is wanted, indented so. -/
def shaped (line : List Char) : (wanted : Option (List Char)) → List Char
  | some indent => indent ++ trim line
  | none => trimEnd line

def Fits (line : List Char) (indent : Indent (List Char)) : Prop :=
  allBlank line = true → indent.wanted? = none

/-! ## The edits of one line -/

variable {number : Nat} {line wanted : List Char} {indent : Indent (List Char)} {e : Edit}

theorem Fits.notBlank (fits : Fits line indent) (asked : indent.wanted? = some wanted) : allBlank line = false := by
  rw [Bool.eq_false_iff]
  intro blank
  rw [fits blank] at asked
  cases asked

theorem trailing_cases (number : Nat) (line : List Char) :
    (trimEnd line = line ∧ trailing number line = []) ∨
      ((trimEnd line).length < line.length ∧
        trailing number line = [⟨Range.onLine number (trimEnd line).length line.length, ""⟩]) := by
  have shorter := (prefix_trimEnd line).length_le
  by_cases whole : (trimEnd line).length = line.length
  · exact .inl ⟨(prefix_trimEnd line).eq_of_length whole, by simp [trailing, whole]⟩
  · exact .inr ⟨by omega, by simp [trailing, whole]⟩

theorem leading_cases (number : Nat) (line wanted : List Char) :
    (leadingBlanks line = wanted ∧ leading number line wanted = []) ∨
      (leadingBlanks line ≠ wanted ∧ leading number line wanted =
        [⟨Range.onLine number 0 (leadingBlanks line).length, String.ofList wanted⟩]) := by
  by_cases same : leadingBlanks line = wanted
  · exact .inl ⟨same, by simp [leading, same]⟩
  · exact .inr ⟨same, by simp [leading, same]⟩

theorem mem_trailing (member : e ∈ trailing number line) :
    e = ⟨Range.onLine number (trimEnd line).length line.length, ""⟩ ∧ (trimEnd line).length < line.length := by
  rcases trailing_cases number line with ⟨-, none⟩ | ⟨shorter, one⟩
  · rw [none] at member
    cases member
  · rw [one] at member
    exact ⟨List.mem_singleton.mp member, shorter⟩

theorem mem_leading (member : e ∈ leading number line wanted) :
    e = ⟨Range.onLine number 0 (leadingBlanks line).length, String.ofList wanted⟩ ∧
      leadingBlanks line ≠ wanted := by
  rcases leading_cases number line wanted with ⟨-, none⟩ | ⟨different, one⟩
  · rw [none] at member
    cases member
  · rw [one] at member
    exact ⟨List.mem_singleton.mp member, different⟩

theorem mem_lineEdits (member : e ∈ lineEdits number line indent) :
    e ∈ trailing number line ∨ ∃ wanted, indent.wanted? = some wanted ∧ e ∈ leading number line wanted := by
  rcases List.mem_append.mp member with atEnd | atStart
  · exact .inl atEnd
  · split at atStart
    · next wanted asked => exact .inr ⟨wanted, asked, atStart⟩
    · cases atStart

theorem line_of_mem_lineEdits (member : e ∈ lineEdits number line indent) : e.range.start.line = number := by
  rcases mem_lineEdits member with atEnd | ⟨wanted, -, atStart⟩
  · rw [(mem_trailing atEnd).1]
    rfl
  · rw [(mem_leading atStart).1]
    rfl

theorem pairwise_lineEdits (fits : Fits line indent) :
    (lineEdits number line indent).Pairwise fun a b => b.range.start.lt a.range.start = true := by
  unfold lineEdits
  rw [List.pairwise_append]
  refine ⟨?_, ?_, ?_⟩
  · rcases trailing_cases number line with ⟨-, none⟩ | ⟨-, one⟩
    · simp [none]
    · simp [one]
  · split
    · next wanted _ =>
      rcases leading_cases number line wanted with ⟨-, none⟩ | ⟨-, one⟩
      · simp [none]
      · simp [one]
    · exact .nil
  · intro a atEnd b atStart
    split at atStart
    · next wanted asked =>
      have someText : trimEnd line ≠ [] := by
        intro nothing
        have notBlank := fits.notBlank asked
        rw [trimEnd_eq_nil.mp nothing] at notBlank
        cases notBlank
      have kept : 0 < (trimEnd line).length := List.length_pos_iff.mpr someText
      rw [(mem_trailing atEnd).1, (mem_leading atStart).1]
      simp [Position.lt, Range.onLine, kept]
    · cases atStart

theorem trailing_onLine (number : Nat) (line : List Char) :
    (trailing number line).foldlM (fun line e => e.onLine line) line = some (trimEnd line) := by
  rcases trailing_cases number line with ⟨whole, none⟩ | ⟨shorter, one⟩
  · rw [none, whole]
    rfl
  · have kept : line.take (trimEnd line).length = trimEnd line :=
      (List.prefix_iff_eq_take.mp (prefix_trimEnd line)).symm
    rw [one]
    simp [Edit.onLine, Range.onLine, Nat.min_eq_left (Nat.le_of_lt shorter), Nat.not_lt.mpr (Nat.le_of_lt shorter),
      kept]

theorem leading_onLine (number : Nat) (notBlank : allBlank line = false) (wanted : List Char) :
    (leading number line wanted).foldlM (fun line e => e.onLine line) (trimEnd line) =
      some (wanted ++ trim line) := by
  rcases leading_cases number line wanted with ⟨same, none⟩ | ⟨-, one⟩
  · rw [none, ← same, leadingBlanks_append_trim notBlank]
    rfl
  · rw [one]
    simp [Edit.onLine, Range.onLine, ← leadingBlanks_append_trim notBlank]

theorem lineEdits_onLine (number : Nat) (fits : Fits line indent) :
    (lineEdits number line indent).foldlM (fun line e => e.onLine line) line =
      some (shaped line indent.wanted?) := by
  unfold lineEdits
  rw [List.foldlM_append, trailing_onLine]
  cases asked : indent.wanted? with
  | none => rfl
  | some wanted => exact leading_onLine number (fits.notBlank asked) wanted

/-! ## The order of edits -/

def editsDown : (number : Nat) → List (List Char) → List (Indent (List Char)) → List Edit
  | number, line :: lines, indent :: indents =>
    editsDown (number + 1) lines indents ++ lineEdits number line indent
  | _, _, _ => []

variable {lines : List (List Char)} {indents : List (Indent (List Char))}

theorem le_line_of_mem_editsDown (fits : List.Forall₂ Fits lines indents)
    (member : e ∈ editsDown number lines indents) : number ≤ e.range.start.line := by
  induction fits generalizing number with
  | nil => cases member
  | cons first rest inductionHypothesis =>
    rcases List.mem_append.mp member with later | here
    · exact Nat.le_of_succ_le (inductionHypothesis later)
    · rw [line_of_mem_lineEdits here]

theorem pairwise_editsDown (fits : List.Forall₂ Fits lines indents) (number : Nat) :
    (editsDown number lines indents).Pairwise fun a b => b.range.start.lt a.range.start = true := by
  induction fits generalizing number with
  | nil => exact .nil
  | cons first rest inductionHypothesis =>
    unfold editsDown
    rw [List.pairwise_append]
    refine ⟨inductionHypothesis (number + 1), pairwise_lineEdits first, ?_⟩
    intro a later b here
    have below := le_line_of_mem_editsDown rest later
    rw [← line_of_mem_lineEdits here] at below
    simp only [Position.lt, Bool.or_eq_true, decide_eq_true_eq]
    exact .inl below

theorem editsFrom_perm (fits : List.Forall₂ Fits lines indents) (number : Nat) :
    (editsFrom number lines indents).Perm (editsDown number lines indents) := by
  induction fits generalizing number with
  | nil => exact .refl _
  | cons first rest inductionHypothesis =>
    exact ((inductionHypothesis (number + 1)).append_left _).trans List.perm_append_comm

theorem le_of_lt {a b : Position} (less : a.lt b = true) : a.le b = true := by
  simp only [Position.lt, Position.le, Bool.or_eq_true, Bool.and_eq_true, beq_iff_eq, decide_eq_true_eq] at less ⊢
  omega

theorem not_le_of_lt {a b : Position} (less : a.lt b = true) : b.le a = false := by
  rw [Bool.eq_false_iff]
  simp only [Position.lt, Position.le, Bool.or_eq_true, Bool.and_eq_true, beq_iff_eq, decide_eq_true_eq,
    ne_eq] at less ⊢
  omega

theorem pairwise_laterFirst (edits : List Edit) :
    (Edit.laterFirst edits).Pairwise fun a b => b.range.start.le a.range.start = true := by
  refine List.pairwise_mergeSort ?_ ?_ edits
  · intro a b c first second
    simp only [Position.le, Bool.or_eq_true, Bool.and_eq_true, beq_iff_eq, decide_eq_true_eq] at first second ⊢
    omega
  · intro a b
    simp only [Position.le, Bool.or_eq_true, Bool.and_eq_true, beq_iff_eq, decide_eq_true_eq]
    omega

theorem laterFirst_perm (edits : List Edit) : (Edit.laterFirst edits).Perm edits :=
  List.mergeSort_perm ..

theorem laterFirst_editsFrom (fits : List.Forall₂ Fits lines indents) (number : Nat) :
    Edit.laterFirst (editsFrom number lines indents) = editsDown number lines indents := by
  have strict := pairwise_editsDown fits number
  have sorted := pairwise_laterFirst (editsFrom number lines indents)
  -- Two sorted permutations of one list are equal if the order is antisymmetric on it.
  have same := (laterFirst_perm (editsFrom number lines indents)).trans (editsFrom_perm fits number)
  refine List.Perm.eq_of_pairwise ?_ sorted (strict.imp fun less => le_of_lt less) same
  have apart {a b : Edit} (less : b.range.start.lt a.range.start = true)
      (le : a.range.start.le b.range.start = true) : a = b := by
    rw [not_le_of_lt less] at le
    cases le
  have unique := List.Pairwise.forall_of_forall_of_flip
    (R := fun a b : Edit => a.range.start.le b.range.start = true → b.range.start.le a.range.start = true → a = b)
    (fun _ _ _ _ => rfl) (strict.imp fun less le _ => apart less le)
    (strict.imp (by intro a b less _ ge; exact (apart less ge).symm))
  intro a b inFirst inSecond le ge
  exact unique (same.subset inFirst) inSecond ge le

/-! ## Lines edited on their own -/

theorem onLines_append (before rest : List (List Char)) (line : List Char) (here : e.range.start.line = before.length) :
    e.onLines (before ++ line :: rest) = (e.onLine line).map fun edited => before ++ edited :: rest := by
  have found : (before ++ line :: rest)[e.range.start.line]? = some line := by simp [here]
  unfold Edit.onLines
  rw [found]
  simp [here]

theorem foldlM_onLines {edits : List Edit} (before rest : List (List Char)) (line : List Char)
    (here : ∀ e ∈ edits, e.range.start.line = before.length) :
    edits.foldlM (fun lines e => e.onLines lines) (before ++ line :: rest) =
      (edits.foldlM (fun line (e : Edit) => e.onLine line) line).map fun edited => before ++ edited :: rest := by
  induction edits generalizing line with
  | nil => rfl
  | cons e edits inductionHypothesis =>
    rw [List.foldlM_cons, List.foldlM_cons, onLines_append before rest line (here e (List.mem_cons_self ..))]
    cases e.onLine line with
    | none => rfl
    | some edited => exact inductionHypothesis edited fun e member => here e (List.mem_cons_of_mem _ member)

theorem editsDown_onLines (fits : List.Forall₂ Fits lines indents) (before : List (List Char)) :
    (editsDown before.length lines indents).foldlM (fun lines e => e.onLines lines) (before ++ lines) =
      some (before ++ List.zipWith (fun line indent => shaped line indent.wanted?) lines indents) := by
  induction fits generalizing before with
  | nil => rfl
  | @cons line indent lines indents first rest inductionHypothesis =>
    -- The lines below are edited first; that leaves this line and those above as they are.
    have later := inductionHypothesis (before ++ [line])
    simp only [List.length_append, List.length_singleton, List.append_assoc, List.singleton_append] at later
    rw [editsDown, List.foldlM_append, later]
    refine (foldlM_onLines before _ line fun e member => line_of_mem_lineEdits member).trans ?_
    rw [lineEdits_onLine before.length first]
    rfl

/-- The edits can be applied, and each line gets its shape. -/
theorem applyTo_editsFrom (fits : List.Forall₂ Fits lines indents) :
    Edit.applyTo lines (editsFrom 0 lines indents) =
      some (List.zipWith (fun line indent => shaped line indent.wanted?) lines indents) := by
  rw [Edit.applyTo, laterFirst_editsFrom fits]
  exact editsDown_onLines fits []

end Format

end ChartConfig
