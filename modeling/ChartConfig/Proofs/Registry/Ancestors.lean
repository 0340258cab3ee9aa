import Mathlib.Logic.Relation
import ChartConfig.Registry.Basic

/-!
# Ancestors

The search for the sections that may enclose a section goes from section to parent only, so everything it
finds is reached by one parent step or more. Where no section is reached from itself, no two sections may
enclose each other.
-/

namespace ChartConfig.Registry

variable {r : Registry} {origin name : String} {pending found : List String}

/-- The second section may directly enclose the first. -/
def Parent (r : Registry) (child parent : String) : Prop :=
  parent ∈ r.parentsOf child

/-- No section is above itself. -/
def Acyclic (r : Registry) : Prop :=
  ∀ name, ¬ Relation.TransGen r.Parent name name

theorem exists_entry {child parent : String} (isParent : r.Parent child parent) :
    ∃ entry ∈ r.parents, entry.1 = child ∧ parent ∈ entry.2 := by
  unfold Parent parentsOf tableValue? at isParent
  cases found : r.parents.find? fun entry => entry.1 == child with
  | none => simp [found] at isParent
  | some entry =>
    rw [found] at isParent
    exact ⟨entry, List.mem_of_find?_eq_some found, by simpa using List.find?_some found, isParent⟩

theorem mem_freshParents {parents : List String} :
    name ∈ freshParents origin found parents ↔ name ∈ parents ∧ name ∉ origin :: found := by
  induction parents generalizing found with
  | nil => simp [freshParents]
  | cons parent parents inductionHypothesis =>
    unfold freshParents
    split
    · next seen =>
      have old : parent ∈ origin :: found := by simpa using seen
      rw [inductionHypothesis]
      refine and_congr_left fun isNew => ?_
      have other : name ≠ parent := by
        rintro rfl
        exact isNew old
      rw [List.mem_cons, or_iff_right other]
    · next unseen =>
      have isNew : parent ∉ origin :: found := by simpa using unseen
      by_cases same : name = parent
      · subst same
        simpa using isNew
      · simp [inductionHypothesis, same]

theorem above_of_mem_searchUp {steps : Nat}
    (pendingAbove : ∀ x ∈ pending, Relation.ReflTransGen r.Parent origin x)
    (foundAbove : ∀ x ∈ found, Relation.TransGen r.Parent origin x)
    (member : name ∈ r.searchUp origin steps pending found) : Relation.TransGen r.Parent origin name := by
  induction steps generalizing pending found with
  | zero => exact foundAbove name member
  | succ steps inductionHypothesis =>
    cases pending with
    | nil => exact foundAbove name member
    | cons current pending =>
      have freshAbove : ∀ x ∈ freshParents origin found (r.parentsOf current),
          Relation.TransGen r.Parent origin x := by
        intro x fresh
        have isParent : r.Parent current x := (mem_freshParents.mp fresh).1
        exact Relation.TransGen.tail' (pendingAbove current (List.mem_cons_self ..)) isParent
      apply inductionHypothesis _ _ member
      · intro x waiting
        rcases List.mem_append.mp waiting with old | fresh
        · exact pendingAbove x (List.mem_cons_of_mem _ old)
        · exact (freshAbove x fresh).to_reflTransGen
      · intro x reached
        rcases List.mem_append.mp reached with old | fresh
        · exact foundAbove x old
        · exact freshAbove x fresh

theorem above_of_mem_ancestors (member : name ∈ r.ancestors origin) :
    Relation.TransGen r.Parent origin name := by
  apply above_of_mem_searchUp _ _ member
  · intro x waiting
    rw [List.mem_singleton.mp waiting]
  · intro x reached
    cases reached

theorem Acyclic.not_mem_ancestors (acyclic : r.Acyclic) (member : name ∈ r.ancestors origin) :
    name ≠ origin ∧ origin ∉ r.ancestors name := by
  have up := above_of_mem_ancestors member
  constructor
  · rintro rfl
    exact acyclic name up
  · intro down
    exact acyclic origin (up.trans (above_of_mem_ancestors down))

/-- A rank that grows from section to parent leaves no room for a cycle. -/
theorem acyclic_of_rank (rank : String → Nat)
    (grows : ∀ entry ∈ r.parents, ∀ parent ∈ entry.2, rank entry.1 < rank parent) : r.Acyclic := by
  have step (child parent : String) (isParent : r.Parent child parent) : rank child < rank parent := by
    obtain ⟨entry, listed, rfl, isListed⟩ := exists_entry isParent
    exact grows entry listed parent isListed
  have climbs (low high : String) (up : Relation.TransGen r.Parent low high) : rank low < rank high := by
    induction up with
    | single isParent => exact step _ _ isParent
    | tail _ isParent inductionHypothesis => exact Nat.lt_trans inductionHypothesis (step _ _ isParent)
  exact fun name up => Nat.lt_irrefl _ (climbs name name up)

end ChartConfig.Registry
