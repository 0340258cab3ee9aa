import Mathlib.Data.List.Infix
import ChartConfig.Text.Piece

/-!
# Pieces in their line

A piece is in a line if its text stands there, at its column, and is not empty. What a cursor reads is in the
line as long as the cursor keeps to it, and a piece of a piece is a piece of the line.
-/

namespace ChartConfig.Text

/-- The text of the piece stands in the line at the column of the piece, and is not empty. -/
structure Piece.In (p : Piece) (line : List Char) : Prop where
  nonempty : p.text ≠ []
  there : p.text <+: line.drop p.column

namespace Piece.In

variable {p part : Piece} {line : List Char}

theorem column_lt_stop (inLine : p.In line) : p.column < p.stop := by
  have some := List.length_pos_iff.mpr inLine.nonempty
  simp only [stop]
  omega

theorem stop_le_length (inLine : p.In line) : p.stop ≤ line.length := by
  have some := List.length_pos_iff.mpr inLine.nonempty
  have fits := inLine.there.length_le
  simp only [List.length_drop, stop] at fits ⊢
  omega

theorem slice (inLine : p.In line) : (line.drop p.column).take (p.stop - p.column) = p.text := by
  have size : p.stop - p.column = p.text.length := by simp [stop]
  rw [size]
  exact (List.prefix_iff_eq_take.mp inLine.there).symm

theorem shift (inPiece : part.In p.text) (inLine : p.text <+: line.drop p.column) :
    (part.shift p.column).In line := by
  refine ⟨inPiece.nonempty, inPiece.there.trans ?_⟩
  simpa [Piece.shift, List.drop_drop] using inLine.drop part.column

end Piece.In

/-! ## Cursors -/

def Cursor.On (c : Cursor) (line : List Char) : Prop :=
  c.ahead = line.drop c.column

namespace Cursor.On

variable {c after : Cursor} {line : List Char} {p : Char → Bool}

theorem start (line : List Char) : (Cursor.start line).On line := by
  simp [On, Cursor.start]

theorem within (line : List Char) (n : Nat) : (Cursor.within line n).On line :=
  rfl

theorem skip (on : c.On line) (p : Char → Bool) : (c.skip p).On line := by
  simp only [On] at on
  have passed (cs : List Char) : cs.drop (cs.takeWhile p).length = cs.dropWhile p := by
    have whole := @List.drop_left _ (cs.takeWhile p) (cs.dropWhile p)
    rwa [List.takeWhile_append_dropWhile] at whole
  simp only [On, Cursor.skip, on, ← List.drop_drop, passed]

theorem expect {literal : String} (on : c.On line) (passed : c.expect literal = some after) : after.On line := by
  simp only [Cursor.expect] at passed
  split at passed
  · cases passed
    simp only [On] at on
    simp [On, on, List.drop_drop]
  · cases passed

theorem take {piece : Piece} (on : c.On line) (passed : c.take p = some (piece, after)) :
    piece.In line ∧ after.On line := by
  simp only [Cursor.take] at passed
  split at passed
  · cases passed
  · next run =>
    cases passed
    refine ⟨⟨?_, ?_⟩, on.skip p⟩
    · exact fun none => run none
    · simp only [On] at on
      rw [← on]
      exact List.takeWhile_prefix p

theorem skipSome (on : c.On line) (passed : c.skipSome p = some after) : after.On line := by
  simp only [Cursor.skipSome, Option.map_eq_some_iff] at passed
  obtain ⟨⟨piece, between⟩, taken, rfl⟩ := passed
  exact (on.take taken).2

end Cursor.On

/-! ## Searches -/

/-- The piece is in a text that starts at the given column of its line. -/
structure Piece.InFrom (p : Piece) (column : Nat) (cs : List Char) : Prop where
  start : column ≤ p.column
  here : Piece.In ⟨p.column - column, p.text⟩ cs

namespace Piece.InFrom

variable {p : Piece} {column : Nat} {c : Char} {cs : List Char}

theorem toIn (inText : p.InFrom 0 cs) : p.In cs :=
  inText.here

theorem first {text : List Char} (nonempty : text ≠ []) (leads : text <+: cs) :
    InFrom ⟨column, text⟩ column cs :=
  ⟨Nat.le_refl _, nonempty, by simpa using leads⟩

theorem later (inTail : p.InFrom (column + 1) cs) : p.InFrom column (c :: cs) := by
  obtain ⟨start, nonempty, there⟩ := inTail
  have shift : p.column - column = p.column - (column + 1) + 1 := by omega
  exact ⟨by omega, nonempty, by simpa only [shift, List.drop_succ_cons] using there⟩

theorem shift (inText : p.In cs) : (p.shift column).InFrom column cs :=
  ⟨Nat.le_add_right .., inText.nonempty, by simpa [Piece.shift] using inText.there⟩

theorem ofDrop {line : List Char} (inRest : p.InFrom column (line.drop column)) : p.In line := by
  obtain ⟨start, nonempty, there⟩ := inRest
  exact ⟨nonempty, by simpa only [List.drop_drop, Nat.add_sub_cancel' start] using there⟩

end Piece.InFrom

theorem inFrom_of_mem_runs {p : Char → Bool} {column : Nat} {cs : List Char} {run : Piece}
    (member : run ∈ runs p column cs) : run.InFrom column cs := by
  induction cs generalizing column run with
  | nil => cases member
  | cons c cs inductionHypothesis =>
    simp only [runs] at member
    split at member
    · cases rest : runs p (column + 1) cs with
      | nil =>
        simp only [rest, List.mem_singleton] at member
        exact member ▸ .first (by simp) (by simp)
      | cons next others =>
        simp only [rest] at member inductionHypothesis
        split at member
        · next adjoining =>
          cases member with
          | head =>
            obtain ⟨-, -, there⟩ := @inductionHypothesis (column + 1) next (by simp [rest])
            exact .first (by simp) (by simpa [adjoining] using there)
          | tail _ member => exact (inductionHypothesis (by rw [rest]; exact .tail _ member)).later
        · cases member with
          | head => exact .first (by simp) (by simp)
          | tail _ member => exact (inductionHypothesis (by rw [rest]; exact member)).later
    · exact (inductionHypothesis member).later

theorem in_of_mem_words {cs : List Char} {word : Piece} (member : word ∈ words cs) : word.In cs :=
  (inFrom_of_mem_runs member).toIn

end ChartConfig.Text
