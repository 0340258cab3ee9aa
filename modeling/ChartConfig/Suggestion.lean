import ChartConfig.Proofs.Text.Distance

/-!
# Suggestions

An unknown word is reported together with the known word closest to it, provided that no more than one
character in three is wrong. Of several words as close, the first in the list is suggested. What is close
is for a `Measure` to say, of which nothing is used but that it tells equal words from others.
-/

namespace ChartConfig

/-- How far words are from one another: equal words, and only these, are at no distance. -/
structure Measure where
  distance : String → String → Nat
  distance_eq_zero : ∀ found candidate, distance found candidate = 0 ↔ found = candidate

def Measure.edits : Measure where
  distance found candidate := Text.distance found.toList candidate.toList
  distance_eq_zero found candidate := by rw [Text.distance_eq_zero, String.toList_inj]

namespace Suggestion

/-- The edits that a word may be away from a suggestion: a third of its length, rounded down. -/
def limit (found : String) : Nat :=
  found.length / 3

def nearestWithin (measure : Measure) (found : String) (bound : Nat) : List String → Option (Nat × String)
  | [] => none
  | candidate :: rest =>
    let d := measure.distance found candidate
    match nearestWithin measure found bound rest with
    | some (e, other) => if d ≤ e then some (d, candidate) else some (e, other)
    | none => if d ≤ bound then some (d, candidate) else none

def closest (found : String) (candidates : List String) (measure : Measure := .edits) : Option String :=
  (nearestWithin measure found (limit found) candidates).map Prod.snd

end Suggestion

end ChartConfig
