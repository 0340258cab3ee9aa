import ChartConfig.Registry.Section
import ChartConfig.Setting.Basic

/-!
# The tables of a registry

The settings are stored under their names, and the names are listed apart, in dictionary order. Every
setting that is added must be entered in both, and the two agree only because each addition is: that they
do is `Tables.WellFormed`.
-/

namespace ChartConfig

/-- The value that a table of pairs gives to a key: that of the first pair with the key. -/
def tableValue? {α : Type} (table : List (String × α)) (key : String) : Option α :=
  (table.find? fun entry => entry.1 == key).map Prod.snd

def tableInsert {α : Type} (table : List (String × α)) (key : String) (value : α) :
    List (String × α) :=
  table.filter (fun entry => entry.1 != key) ++ [(key, value)]

theorem tableValue?_insert {α : Type} (table : List (String × α)) (key : String) (value : α)
    (other : String) :
    tableValue? (tableInsert table key value) other =
      if other = key then some value else tableValue? table other := by
  rw [tableValue?, tableInsert, List.find?_append, List.find?_singleton, tableValue?]
  by_cases same : other = key
  · have removed : (table.filter fun entry => entry.1 != key).find? (fun entry => entry.1 == other) = none := by
      simp [same]
    rw [removed, Option.none_or, if_pos (by simp [same]), if_pos same, Option.map_some]
  · have unchanged : (table.filter fun entry => entry.1 != key).find? (fun entry => entry.1 == other) =
        table.find? fun entry => entry.1 == other := by
      rw [List.find?_filter]
      refine congrArg (table.find? ·) (funext fun entry => ?_)
      by_cases here : entry.1 = other <;> simp [here, same]
    rw [unchanged, if_neg (by simpa using Ne.symm same), if_neg same, Option.or_none]

theorem tableValue?_isSome {α : Type} {table : List (String × α)} {key : String} :
    (tableValue? table key).isSome ↔ key ∈ table.map Prod.fst := by
  simp [tableValue?]

theorem mem_of_tableValue? {α : Type} {table : List (String × α)} {key : String} {value : α}
    (found : tableValue? table key = some value) : (key, value) ∈ table := by
  obtain ⟨⟨here, _⟩, isFound, rfl⟩ := Option.map_eq_some_iff.mp found
  obtain rfl : here = key := by simpa using List.find?_some isFound
  exact List.mem_of_find?_eq_some isFound

structure Tables where
  settings : List (String × Setting) := []
  /-- The names of the settings, in dictionary order. -/
  order : List String := []
  required : List (String × List Slot) := []
  parents : List (String × List String) := []
  deriving Inhabited

namespace Tables

def stored? (t : Tables) (key : String) : Option Setting :=
  tableValue? t.settings key

/-- The setting that a name, in any spelling, stands for. -/
def lookup (t : Tables) (name : String) : Option Setting :=
  t.stored? (canonicalName (String.ofList (Text.trim name.toList)))

theorem lookup_eq_stored? (t : Tables) (name : String) : t.lookup name = t.stored? (canonicalName name) := by
  rw [lookup, canonicalName_trim]

def all (t : Tables) : List Setting :=
  t.settings.map Prod.snd

theorem mem_all_of_lookup {t : Tables} {name : String} {s : Setting} (found : t.lookup name = some s) : s ∈ t.all :=
  List.mem_map_of_mem (mem_of_tableValue? found)

def displayNames (t : Tables) : List String :=
  t.order.filterMap fun key => (t.stored? key).map Setting.displayName

/-- Stores a setting under its name and lists the name. -/
def store (t : Tables) (s : Setting) : Tables :=
  { t with
    settings := tableInsert t.settings s.name s
    order := t.order ++ [s.name] }

def add (t : Tables) (s : Setting) : Tables :=
  if (t.stored? s.name).isSome then t else t.store s

/-- The order lists the keys of the settings, each once, and every setting stands under its name, which is the canonical
    form of its display name. -/
structure WellFormed (t : Tables) : Prop where
  nodup_order : t.order.Nodup
  mem_order : ∀ key, key ∈ t.order ↔ key ∈ t.settings.map Prod.fst
  nodup_keys : (t.settings.map Prod.fst).Nodup
  named : ∀ key s, (key, s) ∈ t.settings → s.name = key ∧ canonicalName s.displayName = key

end Tables

end ChartConfig
