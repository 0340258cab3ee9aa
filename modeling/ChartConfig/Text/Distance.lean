/-!
# Edit distance

The number of insertions, deletions, substitutions and transpositions that turn one word into another,
where a transposed pair may be edited further. The table is filled from the ends of the two words: one
row for each suffix of the first, with one entry for each suffix of the second.
-/

namespace ChartConfig.Text

def insertionRow : List Char → List Nat
  | [] => [0]
  | _ :: t => (t.length + 1) :: insertionRow t

/-- The row of the suffix `a :: s`. `below` holds the rows of `s` and of its suffixes, longest first;
    `under` is the part of the first of them from the current column on, and `column` is that column. -/
def nextRow (a : Char) (s : List Char) (below : List (List Nat)) :
    (column : Nat) → (under : List Nat) → List Char → List Nat
  | _, _, [] => [s.length + 1]
  | column, under, c :: t =>
    let row := nextRow a s below (column + 1) under.tail t
    let insertion := row.headD 0 + 1
    let deletion := under.headD 0 + 1
    let substitution := under.tail.headD 0 + (if a = c then 0 else 1)
    let plain := min (min insertion deletion) substitution
    let best :=
      match s.idxOf? c, t.idxOf? a with
      | some k, some l =>
        min plain (((below.getD (k + 1) []).getD (column + l + 2) 0) + k + l + 1)
      | _, _ => plain
    best :: row

def distanceRows (b : List Char) : List Char → List (List Nat)
  | [] => [insertionRow b]
  | a :: s =>
    let below := distanceRows b s
    nextRow a s below 0 (below.headD []) b :: below

def distance (a b : List Char) : Nat :=
  ((distanceRows b a).headD []).headD 0

end ChartConfig.Text
