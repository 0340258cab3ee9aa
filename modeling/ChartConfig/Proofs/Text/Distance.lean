import ChartConfig.Text.Distance

/-!
# Words at no distance

A row of the table of distances has one entry for each suffix of the second word. `Zeros` says where such a row is
zero: only at the suffix that is the word of the row. Each row keeps this from the row below it, so two words are at no
distance exactly if they are equal.
-/

namespace ChartConfig.Text

/-- The row has one entry for each suffix of the second word, and is zero where that is the first word. -/
def Zeros (word : List Char) : (row : List Nat) → (suffix : List Char) → Prop
  | [n], [] => n = 0 ↔ word = []
  | n :: row, c :: suffix => (n = 0 ↔ word = c :: suffix) ∧ Zeros word row suffix
  | _, _ => False

namespace Zeros

variable {word suffix : List Char} {row : List Nat}

theorem cons_iff {n : Nat} {c : Char} :
    Zeros word (n :: row) (c :: suffix) ↔ (n = 0 ↔ word = c :: suffix) ∧ Zeros word row suffix := by
  simp only [Zeros]

theorem head (zeros : Zeros word row suffix) : row.headD 0 = 0 ↔ word = suffix := by
  cases suffix with
  | nil =>
    match row, zeros with
    | [n], zeros => exact zeros
  | cons c suffix =>
    match row, zeros with
    | n :: row, zeros => exact (cons_iff.mp zeros).1

theorem tail {c : Char} (zeros : Zeros word row (c :: suffix)) : Zeros word row.tail suffix := by
  match row, zeros with
  | n :: row, zeros => exact (cons_iff.mp zeros).2

end Zeros

theorem zeros_insertionRow (b : List Char) : Zeros [] (insertionRow b) b := by
  induction b with
  | nil => simp [insertionRow, Zeros]
  | cons c suffix inductionHypothesis =>
    exact Zeros.cons_iff.mpr ⟨by simp, inductionHypothesis⟩

/-- A zero of the next row can only come from a substitution that changes nothing: all else costs something. -/
theorem zeros_nextRow (a : Char) (s : List Char) (below : List (List Nat)) {column : Nat} {under : List Nat}
    {suffix : List Char} (zeros : Zeros s under suffix) :
    Zeros (a :: s) (nextRow a s below column under suffix) suffix := by
  induction suffix generalizing column under with
  | nil => simp [nextRow, Zeros]
  | cons c t inductionHypothesis =>
    have unchanged : under.tail.headD 0 + (if a = c then 0 else 1) = 0 ↔ a :: s = c :: t := by
      rw [List.cons.injEq, ← zeros.tail.head]
      split <;> simp_all
    refine Zeros.cons_iff.mpr ⟨?_, inductionHypothesis zeros.tail⟩
    rw [← unchanged]
    cases s.idxOf? c with
    | none => simp
    | some k => cases t.idxOf? a <;> simp

theorem zeros_distanceRows (b a : List Char) : Zeros a ((distanceRows b a).headD []) b := by
  induction a with
  | nil => exact zeros_insertionRow b
  | cons a s inductionHypothesis => exact zeros_nextRow a s _ inductionHypothesis

theorem distance_eq_zero (a b : List Char) : distance a b = 0 ↔ a = b :=
  (zeros_distanceRows b a).head

end ChartConfig.Text
