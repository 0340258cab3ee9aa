import ChartConfig.Registry.Tables
import ChartConfig.Suggestion

/-!
# Registries

A registry holds the known settings, the settings that sections require, and which sections may enclose
which. Its tables are filled by storing one setting after another and stay well formed as they are.
-/

namespace ChartConfig

/-- Tables that are well formed, and the measure by which misspelled words are recognised. -/
structure Registry extends Tables where
  measure : Measure
  wellFormed : toTables.WellFormed

namespace Tables

variable {t : Tables} {s : Setting} {key : String}

theorem WellFormed.stored?_isSome (wellFormed : t.WellFormed) : (t.stored? key).isSome ↔ key ∈ t.order := by
  rw [stored?, tableValue?_isSome, wellFormed.mem_order]

theorem WellFormed.named_of_stored? (wellFormed : t.WellFormed) (isStored : t.stored? key = some s) :
    s.name = key ∧ canonicalName s.displayName = key :=
  wellFormed.named key s (mem_of_tableValue? isStored)

theorem WellFormed.empty (required : List (String × List Slot)) (parents : List (String × List String)) :
    WellFormed { required, parents } :=
  ⟨.nil, fun _ => Iff.rfl, .nil, nofun⟩

theorem nodup_concat {keys : List String} {key : String} (distinct : keys.Nodup) (new : key ∉ keys) :
    (keys ++ [key]).Nodup := by
  refine List.nodup_append.mpr ⟨distinct, by simp, ?_⟩
  rintro other member _ last rfl
  exact new (List.mem_singleton.mp last ▸ member)

theorem WellFormed.store (wellFormed : t.WellFormed) (free : ¬ (t.stored? s.name).isSome)
    (named : s.name = canonicalName s.displayName) : (t.store s).WellFormed := by
  rw [stored?, tableValue?_isSome] at free
  have kept : t.settings.filter (fun entry => entry.1 != s.name) = t.settings := by
    refine List.filter_eq_self.mpr fun entry member => ?_
    simpa using fun same : entry.1 = s.name => free (same ▸ List.mem_map_of_mem member)
  have stored : (t.store s).settings = t.settings ++ [(s.name, s)] := by rw [Tables.store, tableInsert, kept]
  have keys : (t.store s).settings.map Prod.fst = t.settings.map Prod.fst ++ [s.name] := by
    rw [stored, List.map_append, List.map_singleton]
  have unlisted : s.name ∉ t.order := mt (wellFormed.mem_order s.name).mp free
  exact {
    nodup_order := nodup_concat wellFormed.nodup_order unlisted
    mem_order := by
      intro key
      rw [keys, List.mem_append, ← wellFormed.mem_order, ← List.mem_append]
      rfl
    nodup_keys := keys ▸ nodup_concat wellFormed.nodup_keys free
    named := by
      intro key other member
      rw [stored, List.mem_append, List.mem_singleton, Prod.mk.injEq] at member
      obtain before | ⟨rfl, rfl⟩ := member
      · exact wellFormed.named key other before
      · exact ⟨rfl, named.symm⟩ }

theorem WellFormed.add (wellFormed : t.WellFormed) (named : s.name = canonicalName s.displayName) :
    (t.add s).WellFormed := by
  rw [Tables.add]
  split
  · exact wellFormed
  · next free => exact wellFormed.store free named

theorem WellFormed.addAll (wellFormed : t.WellFormed) {settings : List Setting}
    (named : ∀ s ∈ settings, s.name = canonicalName s.displayName) :
    (settings.foldl Tables.add t).WellFormed := by
  induction settings generalizing t with
  | nil => exact wellFormed
  | cons s rest inductionHypothesis =>
    rw [List.forall_mem_cons] at named
    exact inductionHypothesis (wellFormed.add named.1) named.2

end Tables

namespace Registry

theorem name_of_lookup {r : Registry} {name : String} {s : Setting} (found : r.lookup name = some s) :
    s.name = canonicalName name :=
  (r.wellFormed.named_of_stored? (r.lookup_eq_stored? name ▸ found)).1

theorem canonicalName_of_lookup {r : Registry} {name : String} {s : Setting} (found : r.lookup name = some s) :
    canonicalName name = canonicalName s.displayName :=
  (r.wellFormed.named_of_stored? (r.lookup_eq_stored? name ▸ found)).2.symm

/-- The registry of some settings, the first of each name, and section rules. -/
def of (settings : List Setting) (required : List (String × List Slot)) (parents : List (String × List String))
    (named : ∀ s ∈ settings, s.name = canonicalName s.displayName := by simp) (measure : Measure := .edits) :
    Registry where
  toTables := settings.foldl Tables.add { required, parents }
  measure
  wellFormed := (Tables.WellFormed.empty required parents).addAll named

instance : Inhabited Registry := ⟨of [] [] []⟩

def slotsOf (r : Registry) (name : String) : List Slot :=
  (tableValue? r.required name).getD []

def parentsOf (r : Registry) (name : String) : List String :=
  (tableValue? r.parents name).getD []

def isSection (name : String) : Bool :=
  Section.known.contains name

/-- Parents of one section that are neither the section of departure nor found before, in order and
    without repetition. -/
def freshParents (origin : String) : (found : List String) → List String → List String
  | _, [] => []
  | found, p :: ps =>
    if p == origin || found.contains p then freshParents origin found ps
    else p :: freshParents origin (found ++ [p]) ps

/-- Breadth-first search upwards: `pending` waits to be expanded, `found` has been reached. Each of at
    most `steps` sections is expanded once. -/
def searchUp (r : Registry) (origin : String) : (steps : Nat) → (pending found : List String) →
    List String
  | 0, _, found => found
  | _ + 1, [], found => found
  | steps + 1, current :: pending, found =>
    let fresh := freshParents origin found (r.parentsOf current)
    r.searchUp origin steps (pending ++ fresh) (found ++ fresh)

/-- All sections that may enclose a section, nearest first. -/
def ancestors (r : Registry) (name : String) : List String :=
  r.searchUp name ((r.parents.flatMap Prod.snd).length + 1) [name] []

end Registry

end ChartConfig
