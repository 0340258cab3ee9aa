import Mathlib.Data.List.Nodup
import Mathlib.Order.Lattice.Nat
import ChartConfig.Proofs.Registry.Ancestors

/-!
# Nearest ancestors first

The search for ancestors expands the sections in the order in which it finds them. Whatever the table of parents, cycles
and repetitions included, it comes to an end, and it has then found every section above the first one, each once, and
those that fewer parent steps lead to before those that need more.
-/

namespace ChartConfig.Registry

variable {r : Registry} {origin name : String} {pending found expanded parents : List String} {steps : Nat}

/-! ## Steps and distances -/

/-- So many parent steps lead from one section to another. -/
inductive Climbs (r : Registry) (origin : String) : (steps : Nat) → (name : String) → Prop
  | start : Climbs r origin 0 origin
  | up {steps : Nat} {name parent : String} (climbs : Climbs r origin steps name) (isParent : r.Parent name parent) :
      Climbs r origin (steps + 1) parent

/-- The least number of parent steps that lead from one section to another. -/
noncomputable def distance (r : Registry) (origin name : String) : Nat :=
  sInf {steps | r.Climbs origin steps name}

theorem exists_climbs (above : Relation.TransGen r.Parent origin name) : ∃ steps, r.Climbs origin steps name := by
  induction above with
  | single isParent => exact ⟨1, .up .start isParent⟩
  | tail _ isParent inductionHypothesis =>
    obtain ⟨steps, climbs⟩ := inductionHypothesis
    exact ⟨steps + 1, .up climbs isParent⟩

def allParents (r : Registry) : List String :=
  r.parents.flatMap Prod.snd

theorem mem_allParents {child : String} (isParent : r.Parent child name) : name ∈ r.allParents := by
  obtain ⟨entry, listed, -, isListed⟩ := exists_entry isParent
  exact List.mem_flatMap.mpr ⟨entry, listed, isListed⟩

/-! ## The search -/

/-- The search goes on from the sections that wait and those found so far until nothing waits, with the given result. -/
inductive Search (r : Registry) (origin : String) : (pending found result : List String) → Prop
  | finished {found : List String} : Search r origin [] found found
  | expands {current : String} {pending found result : List String}
      (search : Search r origin (pending ++ freshParents origin found (r.parentsOf current))
        (found ++ freshParents origin found (r.parentsOf current)) result) :
      Search r origin (current :: pending) found result

theorem nodup_freshParents : (freshParents origin found parents).Nodup := by
  induction parents generalizing found with
  | nil => exact .nil
  | cons parent parents inductionHypothesis =>
    unfold freshParents
    split
    · exact inductionHypothesis
    · refine List.nodup_cons.mpr ⟨fun again => ?_, inductionHypothesis⟩
      exact (mem_freshParents.mp again).2 (by simp)

/-- What holds while the search goes on. Each section found has a depth, the number of steps in which it was reached; it
    waits until all before it are expanded, and those that wait are at most one step apart. -/
structure Searched (r : Registry) (origin : String) (expanded pending found : List String) (depth : String → Nat) :
    Prop where
  parts : expanded ++ pending = origin :: found
  distinct : (origin :: found).Nodup
  atOrigin : depth origin = 0
  reached : ∀ x ∈ origin :: found, r.Climbs origin (depth x) x
  sorted : (origin :: found).Pairwise fun x y => depth x ≤ depth y
  level : ∀ current ∈ pending, ∀ x ∈ origin :: found, depth x ≤ depth current + 1
  closed : ∀ x ∈ expanded, ∀ parent, r.Parent x parent → parent ∈ origin :: found ∧ depth parent ≤ depth x + 1

namespace Searched

variable {depth : String → Nat} {current : String}

theorem initial (r : Registry) (origin : String) : Searched r origin [] [origin] [] fun _ => 0 where
  parts := rfl
  distinct := List.nodup_singleton origin
  atOrigin := rfl
  reached x member := by
    rw [List.mem_singleton.mp member]
    exact .start
  sorted := List.pairwise_singleton ..
  level _ _ _ _ := Nat.zero_le _
  closed x member := nomatch member

theorem mem_of_pending (searched : Searched r origin expanded pending found depth) (waits : name ∈ pending) :
    name ∈ origin :: found :=
  searched.parts ▸ List.mem_append_right expanded waits

theorem depth_le_of_pending (searched : Searched r origin expanded (current :: pending) found depth)
    (waits : name ∈ pending) : depth current ≤ depth name := by
  have sorted := searched.sorted
  rw [← searched.parts, List.pairwise_append, List.pairwise_cons] at sorted
  exact sorted.2.1.1 name waits

theorem expand (searched : Searched r origin expanded (current :: pending) found depth) :
    ∃ deeper, Searched r origin (expanded ++ [current])
      (pending ++ freshParents origin found (r.parentsOf current))
      (found ++ freshParents origin found (r.parentsOf current)) deeper := by
  have isNew : ∀ x ∈ freshParents origin found (r.parentsOf current), x ∉ origin :: found :=
    fun x member => (mem_freshParents.mp member).2
  have isParent : ∀ x ∈ freshParents origin found (r.parentsOf current), r.Parent current x :=
    fun x member => (mem_freshParents.mp member).1
  have missing : ∀ x, r.Parent current x → x ∉ origin :: found →
      x ∈ freshParents origin found (r.parentsOf current) :=
    fun x isParent isNew => mem_freshParents.mpr ⟨isParent, isNew⟩
  have once : (freshParents origin found (r.parentsOf current)).Nodup := nodup_freshParents
  generalize freshParents origin found (r.parentsOf current) = fresh at isNew isParent missing once ⊢
  let deeper (x : String) : Nat := if x ∈ fresh then depth current + 1 else depth x
  have ofFresh : ∀ x ∈ fresh, deeper x = depth current + 1 := fun x member => if_pos member
  have ofOld : ∀ x ∈ origin :: found, deeper x = depth x := fun x old => if_neg fun member => isNew x member old
  have isOld : current ∈ origin :: found := searched.mem_of_pending (List.mem_cons_self ..)
  have atMost : ∀ x ∈ origin :: found, depth x ≤ depth current + 1 := searched.level current (List.mem_cons_self ..)
  refine ⟨deeper, ?parts, ?distinct, ?atOrigin, ?reached, ?sorted, ?level, ?closed⟩
  case parts =>
    calc (expanded ++ [current]) ++ (pending ++ fresh) = (expanded ++ current :: pending) ++ fresh := by simp
      _ = (origin :: found) ++ fresh := by rw [searched.parts]
  case distinct =>
    refine List.nodup_append.mpr ⟨searched.distinct, once, fun x old y member same => ?_⟩
    exact isNew y member (same ▸ old)
  case atOrigin => rw [ofOld origin (List.mem_cons_self ..), searched.atOrigin]
  case reached =>
    intro x member
    rcases List.mem_append.mp (show x ∈ (origin :: found) ++ fresh from member) with old | member
    · rw [ofOld x old]
      exact searched.reached x old
    · rw [ofFresh x member]
      exact .up (searched.reached current isOld) (isParent x member)
  case sorted =>
    change ((origin :: found) ++ fresh).Pairwise _
    refine List.pairwise_append.mpr ⟨?_, ?_, fun x old y member => ?_⟩
    · refine searched.sorted.imp_of_mem fun {x y} first second le => ?_
      rwa [ofOld x first, ofOld y second]
    · refine List.pairwise_of_forall_mem_list fun x first y second => ?_
      rw [ofFresh x first, ofFresh y second]
    · rw [ofOld x old, ofFresh y member]
      exact atMost x old
  case level =>
    -- Nothing is more than one step deeper than what has just been expanded, and what waits is as deep at least.
    intro next waits x member
    have notDeeper : deeper x ≤ depth current + 1 := by
      rcases List.mem_append.mp (show x ∈ (origin :: found) ++ fresh from member) with old | member
      · exact (ofOld x old).trans_le (atMost x old)
      · exact (ofFresh x member).le
    have asDeep : depth current ≤ deeper next := by
      rcases List.mem_append.mp waits with old | member
      · rw [ofOld next (searched.mem_of_pending (List.mem_cons_of_mem _ old))]
        exact searched.depth_le_of_pending old
      · rw [ofFresh next member]
        exact Nat.le_succ _
    omega
  case closed =>
    intro x isExpanded parent above
    rcases List.mem_append.mp isExpanded with earlier | isCurrent
    · obtain ⟨old, le⟩ := searched.closed x earlier parent above
      have isFound : x ∈ origin :: found := searched.parts ▸ List.mem_append_left _ earlier
      rw [ofOld parent old, ofOld x isFound]
      exact ⟨List.mem_append_left fresh old, le⟩
    · obtain rfl := List.mem_singleton.mp isCurrent
      rw [ofOld x isOld]
      by_cases old : parent ∈ origin :: found
      · rw [ofOld parent old]
        exact ⟨List.mem_append_left fresh old, atMost parent old⟩
      · rw [ofFresh parent (missing parent above old)]
        exact ⟨List.mem_append_right (origin :: found) (missing parent above old), Nat.le_refl _⟩

theorem length_found_le (searched : Searched r origin expanded pending found depth) :
    found.length ≤ r.allParents.length := by
  obtain ⟨notOrigin, once⟩ := List.nodup_cons.mp searched.distinct
  refine (once.subperm fun x member => ?_).length_le
  have climbs := searched.reached x (List.mem_cons_of_mem origin member)
  generalize depth x = steps at climbs
  cases climbs with
  | start => exact absurd member notOrigin
  | up _ isParent => exact mem_allParents isParent

/-- As many steps as there are parents in the table, and one for the section of departure, empty the queue. -/
theorem searchUp (searched : Searched r origin expanded pending found depth)
    (enough : r.allParents.length < expanded.length + steps) :
    r.Search origin pending found (r.searchUp origin steps pending found) ∧
      ∃ depth, Searched r origin (origin :: r.searchUp origin steps pending found) []
        (r.searchUp origin steps pending found) depth := by
  induction steps generalizing expanded pending found depth with
  | zero =>
    have bound := searched.length_found_le
    have lengths := congrArg List.length searched.parts
    rw [List.length_append, List.length_cons] at lengths
    obtain rfl : pending = [] := List.length_eq_zero_iff.mp (by omega)
    have parts := searched.parts
    rw [List.append_nil] at parts
    exact ⟨.finished, depth, parts ▸ searched⟩
  | succ steps inductionHypothesis =>
    cases pending with
    | nil =>
      have parts := searched.parts
      rw [List.append_nil] at parts
      exact ⟨.finished, depth, parts ▸ searched⟩
    | cons current pending =>
      obtain ⟨deeper, onward⟩ := searched.expand
      obtain ⟨search, last⟩ := inductionHypothesis onward (by
        rw [List.length_append, List.length_singleton]
        omega)
      exact ⟨.expands search, last⟩

/-- Where nothing waits any more, no way to a section is shorter than its depth. -/
theorem depth_le (searched : Searched r origin (origin :: found) [] found depth)
    (climbs : r.Climbs origin steps name) : name ∈ origin :: found ∧ depth name ≤ steps := by
  induction climbs with
  | start => exact ⟨List.mem_cons_self .., searched.atOrigin.le⟩
  | up _ isParent inductionHypothesis =>
    obtain ⟨isFound, le⟩ := inductionHypothesis
    obtain ⟨isFoundToo, next⟩ := searched.closed _ isFound _ isParent
    exact ⟨isFoundToo, by omega⟩

theorem distance_eq (searched : Searched r origin (origin :: found) [] found depth) (isFound : name ∈ found) :
    r.distance origin name = depth name := by
  have climbs := searched.reached name (List.mem_cons_of_mem origin isFound)
  have shortest : r.Climbs origin (r.distance origin name) name :=
    Nat.sInf_mem (s := {steps | r.Climbs origin steps name}) ⟨depth name, climbs⟩
  exact Nat.le_antisymm (Nat.sInf_le climbs) (searched.depth_le shortest).2

end Searched

/-- Whatever the table of parents, the search for ancestors comes to an end. It gives no section twice; it gives exactly
    the sections, other than that of departure, that one parent step or more lead to; and where one section stands before
    another, no fewer steps lead to the second than to the first. -/
theorem ancestors_breadth_first (r : Registry) (origin : String) :
    r.Search origin [origin] [] (r.ancestors origin) ∧
      (r.ancestors origin).Nodup ∧
      (∀ name, name ∈ r.ancestors origin ↔ name ≠ origin ∧ Relation.TransGen r.Parent origin name) ∧
      (r.ancestors origin).Pairwise fun nearer farther => r.distance origin nearer ≤ r.distance origin farther := by
  have enough : r.allParents.length < ([] : List String).length + (r.allParents.length + 1) := by simp
  obtain ⟨search, depth, searched⟩ := (Searched.initial r origin).searchUp enough
  change r.Search origin [origin] [] (r.ancestors origin) at search
  change Searched r origin (origin :: r.ancestors origin) [] (r.ancestors origin) depth at searched
  obtain ⟨notOrigin, once⟩ := List.nodup_cons.mp searched.distinct
  refine ⟨search, once, fun name => ⟨fun member => ?_, fun ⟨other, above⟩ => ?_⟩, ?_⟩
  · refine ⟨?_, above_of_mem_ancestors member⟩
    rintro rfl
    exact notOrigin member
  · obtain ⟨steps, climbs⟩ := exists_climbs above
    exact (List.mem_cons.mp (searched.depth_le climbs).1).resolve_left other
  · have sorted := (List.pairwise_cons.mp searched.sorted).2
    refine sorted.imp_of_mem fun {nearer farther} first second le => ?_
    rwa [searched.distance_eq first, searched.distance_eq second]

/-- A section that is its own parent, one that lists a parent twice, and a cycle through both. -/
example :
    (Registry.of [] [] [("a", ["a", "b", "b", "c"]), ("b", ["d", "a"]), ("c", ["e", "b"]), ("d", ["c"])]).ancestors "a" =
      ["b", "c", "d", "e"] := by
  decide

end ChartConfig.Registry
