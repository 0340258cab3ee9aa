import Mathlib.Data.List.Chain
import ChartConfig.Proofs.Text.Lines

/-!
# Kinds of line breaks

A text may break its lines by LF, by CR LF and by CR, each line by another of them. A CR and an LF that follow one
another are one break, so the one thing to avoid is a break by LF straight after one by CR. A text without that has the
lines that it was made of, and differs from the lines joined by line feeds in its breaks alone.
-/

namespace ChartConfig.Text

/-- The ways to break a line. -/
inductive Break where
  | lf
  | crlf
  | cr
  deriving Repr, DecidableEq, Inhabited

def Break.chars : Break → List Char
  | lf => ['\n']
  | crlf => ['\r', '\n']
  | cr => ['\r']

def joinBroken (first : List Char) : List (Break × List Char) → List Char
  | [] => first
  | (b, line) :: further => first ++ b.chars ++ joinBroken line further

/-- No break by CR is directly followed by one by LF: a line that is not empty lies between them. -/
def Apart (further : List (Break × List Char)) : Prop :=
  further.IsChain fun x y => x.1 = .cr → x.2 = [] → y.1 ≠ .lf

/-! ## Normal breaks -/

theorem normalizeBreaks_append {line : List Char} (free : '\r' ∉ line) (rest : List Char) :
    normalizeBreaks (line ++ rest) = line ++ normalizeBreaks rest := by
  induction line with
  | nil => rfl
  | cons c cs inductionHypothesis =>
    rw [List.mem_cons, not_or] at free
    rw [List.cons_append, normalizeBreaks, if_neg (Ne.symm free.1), inductionHypothesis free.2, List.cons_append]
    rintro more rfl
    exact absurd rfl free.1

theorem normalizeBreaks_break (b : Break) {rest : List Char} (apart : b = .cr → rest.head? ≠ some '\n') :
    normalizeBreaks (b.chars ++ rest) = '\n' :: normalizeBreaks rest := by
  cases b with
  | lf => rfl
  | crlf => rfl
  | cr =>
    cases rest with
    | nil => rfl
    | cons c cs =>
      have other : c ≠ '\n' := by simpa using apart rfl
      rw [Break.chars, List.singleton_append, normalizeBreaks, if_pos rfl]
      rintro more - same
      exact other (List.cons.inj same).1

theorem head?_joinBroken {line : List Char} {further : List (Break × List Char)} (isLine : IsLine line)
    (apart : line = [] → ∀ y ∈ further.head?, y.1 ≠ .lf) : (joinBroken line further).head? ≠ some '\n' := by
  cases line with
  | cons c cs =>
    have other : c ≠ '\n' := by
      rintro rfl
      exact isLine.1 (List.mem_cons_self ..)
    cases further <;> simpa [joinBroken] using other
  | nil =>
    cases further with
    | nil => simp [joinBroken]
    | cons y further =>
      have notFeed := apart rfl y rfl
      obtain ⟨b, next⟩ := y
      cases b with
      | lf => exact absurd rfl notFeed
      | crlf | cr => simp [joinBroken, Break.chars]

/-- Whatever the breaks, what is left of them is a line feed each. -/
theorem normalizeBreaks_joinBroken {first : List Char} {further : List (Break × List Char)}
    (areLines : ∀ line ∈ first :: further.map Prod.snd, IsLine line) (apart : Apart further) :
    normalizeBreaks (joinBroken first further) = joinLines (first :: further.map Prod.snd) := by
  induction further generalizing first with
  | nil => exact normalizeBreaks_eq_self (areLines first (List.mem_cons_self ..)).2
  | cons x further inductionHypothesis =>
    obtain ⟨b, line⟩ := x
    have isLine : IsLine line := areLines line (by simp)
    obtain ⟨here, later⟩ := List.isChain_cons.mp apart
    have notFeed : b = .cr → (joinBroken line further).head? ≠ some '\n' := fun isReturn =>
      head?_joinBroken isLine fun empty y isNext => here y isNext isReturn empty
    rw [joinBroken, List.append_assoc, normalizeBreaks_append (areLines first (List.mem_cons_self ..)).2,
      normalizeBreaks_break b notFeed,
      inductionHypothesis (fun other member => areLines other (List.mem_cons_of_mem _ member)) later]
    rfl

theorem splitLines_joinBroken {first : List Char} {further : List (Break × List Char)}
    (areLines : ∀ line ∈ first :: further.map Prod.snd, IsLine line) (apart : Apart further) :
    splitLines (joinBroken first further) = first :: further.map Prod.snd := by
  rw [splitLines, normalizeBreaks_joinBroken areLines apart]
  exact splitAtBreaks_joinLines (List.cons_ne_nil _ _) fun line member => (areLines line member).1

end ChartConfig.Text
