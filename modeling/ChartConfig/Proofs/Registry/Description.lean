import ChartConfig.Proofs.Distinct
import ChartConfig.Proofs.Text.Lowering
import ChartConfig.Registry.Dictionary

/-!
# A registry is what its dictionary describes

The records of a dictionary are read in order, and a record either spoils the whole dictionary, says nothing, describes a
setting that is there already, or adds one. What is known of the tables filled so far speaks of the records read so far
only: the order lists the canonical names of the complete records, each at its first place, and under each name stands
the setting of the first record that has it.
-/

namespace ChartConfig

open Text

/-! ## Canonical names -/

theorem canonicalName_canonicalName (name : String) : canonicalName (canonicalName name) = canonicalName name := by
  have unchanged : ∀ c ∈ (name.toList.map Char.toLower).filter isLowerLetter, c.toLower = c := by
    intro c member
    have range := range_of_isLowerLetter (List.mem_filter.mp member).2
    exact toLower_of_not_upper fun upper => by omega
  simp only [canonicalName, String.toList_ofList]
  rw [List.map_congr_left unchanged, List.map_id', List.filter_filter]
  simp only [Bool.and_self]

/-! ## Records -/

namespace Record

/-- The canonical name of a complete record. -/
def key? (r : Record) : Option String :=
  match r.displayName, r.type, r.sample with
  | some displayName, some _, some _ => some (canonicalName displayName)
  | _, _, _ => none

def setting? (compile? : PatternCompiler) (r : Record) : Option Setting :=
  match r.toSetting? compile? with
  | .ok described => described
  | .error _ => none

/-- A complete record of an unsupported type, or with a choice that does not compile. -/
def IsBroken (compile? : PatternCompiler) (r : Record) : Prop :=
  ∃ displayName type sample, r.displayName = some displayName ∧ r.type = some type ∧ r.sample = some sample ∧
    (ValueType.ofName? type = none ∨ ∃ choice ∈ r.choices, Choice.compiled? compile? choice = none)

variable {compile? : PatternCompiler}

theorem mapM_eq_none {α β : Type} {f : α → Option β} {xs : List α} :
    xs.mapM f = none ↔ ∃ x ∈ xs, f x = none := by
  induction xs with
  | nil => simp
  | cons x xs inductionHypothesis =>
    rw [List.mapM_cons, List.exists_mem_cons_iff, ← inductionHypothesis]
    cases f x with
    | none => simp
    | some y => cases xs.mapM f <;> simp

theorem toSetting?_spec (r : Record) :
    match r.toSetting? compile? with
    | .error _ => r.IsBroken compile?
    | .ok described => ¬ r.IsBroken compile? ∧ described.map Setting.name = r.key? := by
  fun_cases toSetting? compile? r with
  | case1 displayName type sample shown typed named unknown =>
    exact ⟨displayName, type, sample, named, typed, shown, .inl unknown⟩
  | case2 displayName type sample shown typed named _ known notCompiled =>
    exact ⟨displayName, type, sample, named, typed, shown, .inr (mapM_eq_none.mp notCompiled)⟩
  | case3 displayName type sample shown typed named _ known choices compiled =>
    constructor
    · rintro ⟨_, _, _, -, typed', -, unknown | notCompiled⟩
      · rw [typed, Option.some.injEq] at typed'
        rw [← typed', known] at unknown
        cases unknown
      · rw [mapM_eq_none.mpr notCompiled] at compiled
        cases compiled
    · rw [key?, named, typed, shown]
      rfl
  | case4 incomplete =>
    constructor
    · rintro ⟨displayName, type, sample, named, typed, shown, -⟩
      exact incomplete displayName type sample named typed shown
    · rw [key?]
      split
      · next displayName type sample named typed shown =>
        exact absurd shown (incomplete displayName type sample named typed)
      · rfl

theorem isBroken_of_error {r : Record} {e : RegistryError} (failed : r.toSetting? compile? = .error e) :
    r.IsBroken compile? := by
  have spec := @toSetting?_spec compile? r
  rwa [failed] at spec

end Record

structure Record.Reads (compile? : PatternCompiler) (r : Record) (described : Option Setting) : Prop where
  sound : ¬ r.IsBroken compile?
  setting : r.setting? compile? = described
  key : r.key? = described.map Setting.name

theorem Record.reads {compile? : PatternCompiler} {r : Record} {described : Option Setting}
    (isRead : r.toSetting? compile? = .ok described) : r.Reads compile? described := by
  have spec := @toSetting?_spec compile? r
  rw [isRead] at spec
  exact ⟨spec.1, by rw [setting?, isRead], spec.2.symm⟩

def Record.first? (records : List Record) (key : String) : Option Record :=
  records.find? fun record => record.key? == some key

/-! ## Collecting settings -/

/-- What is known of the tables that the records read so far have filled. -/
structure Collected (compile? : PatternCompiler) (records : List Record) (t : Tables) : Prop where
  reads : ∀ record ∈ records, ∃ described, record.Reads compile? described
  order : t.order = (records.filterMap Record.key?).eraseDups
  found : ∀ key, t.stored? key = (Record.first? records key).bind (Record.setting? compile?)

namespace Collected

variable {compile? : PatternCompiler} {records rest : List Record} {t : Tables} {record : Record} {s : Setting}

theorem nil : Collected compile? [] {} where
  reads := nofun
  order := rfl
  found _ := rfl

theorem first?_concat (key : String) : Record.first? (records ++ [record]) key =
    (Record.first? records key).or (if record.key? = some key then some record else none) := by
  rw [Record.first?, List.find?_append, Record.first?, List.find?_singleton]
  simp only [beq_iff_eq]

theorem first?_isSome (collected : Collected compile? records t) (key : String) :
    (Record.first? records key).isSome ↔ key ∈ t.order := by
  rw [collected.order, List.mem_eraseDups, Record.first?, List.find?_isSome, List.mem_filterMap]
  simp only [beq_iff_eq]

theorem stored?_isSome (collected : Collected compile? records t) (key : String) :
    (t.stored? key).isSome ↔ key ∈ t.order := by
  rw [← collected.first?_isSome, collected.found]
  cases isFirst : Record.first? records key with
  | none => exact Iff.rfl
  | some record =>
    obtain ⟨described, reads⟩ := collected.reads record (List.mem_of_find?_eq_some isFirst)
    have isKey : record.key? = some key := by simpa using List.find?_some isFirst
    have hasKey : described.map Setting.name = some key := reads.key ▸ isKey
    obtain ⟨s, rfl, -⟩ := Option.map_eq_some_iff.mp hasKey
    simp only [Option.bind_some, reads.setting, Option.isSome_some]

theorem reads_concat (collected : Collected compile? records t) {described : Option Setting}
    (reads : record.Reads compile? described) :
    ∀ other ∈ records ++ [record], ∃ described, other.Reads compile? described := by
  intro other member
  obtain before | last := List.mem_append.mp member
  · exact collected.reads other before
  · exact List.mem_singleton.mp last ▸ ⟨described, reads⟩

theorem skip (collected : Collected compile? records t) (reads : record.Reads compile? none) :
    Collected compile? (records ++ [record]) t where
  reads := collected.reads_concat reads
  order := by rw [collected.order, List.filterMap_append, List.filterMap_cons_none reads.key, List.filterMap_nil,
    List.append_nil]
  found key := by
    rw [collected.found, first?_concat, reads.key, Option.map_none, if_neg nofun, Option.or_none]

theorem collide (collected : Collected compile? records t) (reads : record.Reads compile? (some s))
    (taken : (t.stored? s.name).isSome) : Collected compile? (records ++ [record]) t where
  reads := collected.reads_concat reads
  order := by
    rw [List.filterMap_append, List.filterMap_cons_some reads.key, List.filterMap_nil, eraseDups_concat,
      ← collected.order, if_pos ((collected.stored?_isSome s.name).mp taken)]
  found key := by
    rw [collected.found, first?_concat, reads.key]
    by_cases same : s.name = key
    · rw [collected.stored?_isSome, ← collected.first?_isSome, same] at taken
      obtain ⟨first, isFirst⟩ := Option.isSome_iff_exists.mp taken
      rw [isFirst, Option.some_or]
    · rw [if_neg (by simpa using same), Option.or_none]

theorem store (collected : Collected compile? records t) (reads : record.Reads compile? (some s))
    (free : ¬ (t.stored? s.name).isSome) : Collected compile? (records ++ [record]) (t.store s) where
  reads := collected.reads_concat reads
  order := by
    rw [List.filterMap_append, List.filterMap_cons_some reads.key, List.filterMap_nil, eraseDups_concat,
      ← collected.order, if_neg (mt (collected.stored?_isSome s.name).mpr free)]
    rfl
  found key := by
    rw [Tables.stored?, Tables.store, tableValue?_insert, ← Tables.stored?, collected.found, first?_concat, reads.key]
    by_cases same : key = s.name
    · have none : Record.first? records key = none := by
        rwa [← Option.not_isSome_iff_eq_none, collected.first?_isSome, ← collected.stored?_isSome, same]
      rw [none, if_pos same, Option.none_or, Option.map_some, if_pos (congrArg some same.symm), Option.bind_some]
      exact reads.setting.symm
    · rw [if_neg same, if_neg (by simpa using Ne.symm same), Option.or_none]

end Collected

/-- What comes of more records: one of them is broken, or the tables are those of all records. -/
def Collected.Outcome (compile? : PatternCompiler) (records rest : List Record) : Except RegistryError Tables → Prop
  | .error _ => ∃ record ∈ rest, record.IsBroken compile?
  | .ok t => Collected compile? (records ++ rest) t

namespace Collected

variable {compile? : PatternCompiler} {records rest : List Record} {record : Record} {t : Tables}

theorem Outcome.cons {answer : Except RegistryError Tables}
    (outcome : Outcome compile? (records ++ [record]) rest answer) : Outcome compile? records (record :: rest) answer := by
  cases answer with
  | error e =>
    obtain ⟨broken, member, isBroken⟩ := outcome
    exact ⟨broken, List.mem_cons_of_mem _ member, isBroken⟩
  | ok t => rwa [Outcome, List.append_assoc] at outcome

theorem collect (collected : Collected compile? records t) (rest : List Record) :
    Outcome compile? records rest (Dictionary.collect compile? t rest).2 := by
  fun_induction Dictionary.collect compile? t rest generalizing records with
  | case1 t => rwa [Outcome, List.append_nil]
  | case2 t record rest e failed => exact ⟨record, List.mem_cons_self .., Record.isBroken_of_error failed⟩
  | case3 t record rest isRead notes answer same inductionHypothesis =>
    have outcome := inductionHypothesis (collected.skip (Record.reads isRead))
    rw [same] at outcome
    exact outcome.cons
  | case4 t record rest s isRead taken notes answer same inductionHypothesis =>
    have outcome := inductionHypothesis (collected.collide (Record.reads isRead) taken)
    rw [same] at outcome
    exact outcome.cons
  | case5 t record rest s isRead free inductionHypothesis =>
    exact (inductionHypothesis (collected.store (Record.reads isRead) free)).cons

end Collected

/-! ## Required settings -/

def Slot.names (table : List (String × List Slot)) : List String :=
  table.flatMap fun entry => entry.2.flatten

namespace Dictionary

/-- A slot of a section, of those that the dictionary lists or else of those that hold without it, has the name in some
    spelling. -/
def Requires (d : Dictionary) (key : String) : Prop :=
  ∃ name ∈ Slot.names (d.required.getD Section.requiredSettings), canonicalName name = key

/-- A record is broken, or a slot has a name that no complete record has. -/
def IsBroken (compile? : PatternCompiler) (d : Dictionary) : Prop :=
  (∃ record ∈ d.records, record.IsBroken compile?) ∨
    ∃ key, d.Requires key ∧ ∀ record ∈ d.records, record.key? ≠ some key

theorem names_canonical (table : List (String × List Slot)) :
    Slot.names (table.map fun (name, slots) => (name, slots.map (·.map canonicalName))) =
      (Slot.names table).map canonicalName := by
  rw [Slot.names, Slot.names, List.flatMap_map, List.map_flatMap]
  exact List.flatMap_congr fun entry _ => List.map_flatten.symm

theorem mem_names_requiredTable {d : Dictionary} {key : String} : key ∈ Slot.names d.requiredTable ↔ d.Requires key := by
  rw [requiredTable, Requires]
  cases d.required with
  | some table =>
    rw [names_canonical, List.mem_map]
    rfl
  | none =>
    have canonical : ∀ name ∈ Slot.names Section.requiredSettings, canonicalName name = name := by decide
    constructor
    · intro member
      exact ⟨key, member, canonical key member⟩
    · rintro ⟨name, member, rfl⟩
      rwa [canonical name member]

theorem unresolved?_eq_none {t : Tables} {table : List (String × List Slot)} :
    unresolved? t table = none ↔ ∀ name ∈ Slot.names table, (t.stored? name).isSome := by
  rw [unresolved?, List.findSome?_eq_none_iff]
  simp only [Option.map_eq_none_iff, List.find?_eq_none, Slot.names, List.mem_flatMap, Bool.not_eq_true', Bool.not_eq_false,
    forall_exists_index, and_imp]
  exact ⟨fun all name entry member => all entry member name, fun all entry member name => all name entry member⟩

theorem Requires.canonical {d : Dictionary} {key : String} (required : d.Requires key) : canonicalName key = key := by
  obtain ⟨name, -, rfl⟩ := required
  exact canonicalName_canonicalName name

end Dictionary

/-! ## Well-formed tables -/

namespace Tables.WellFormed

variable {t : Tables}

theorem length_displayNames (wellFormed : t.WellFormed) : t.displayNames.length = t.settings.length := by
  have stored : ∀ key ∈ t.order, ((t.stored? key).map Setting.displayName).isSome := by
    intro key member
    rw [Option.isSome_map]
    exact wellFormed.stored?_isSome.mpr member
  have sameKeys : t.order.Perm (t.settings.map Prod.fst) :=
    (List.perm_ext_iff_of_nodup wellFormed.nodup_order wellFormed.nodup_keys).mpr wellFormed.mem_order
  calc t.displayNames.length
    _ = t.order.length := List.filterMap_length_eq_length.mpr stored
    _ = (t.settings.map Prod.fst).length := sameKeys.length_eq
    _ = t.settings.length := List.length_map _

end Tables.WellFormed

/-! ## The tables of a dictionary -/

/-- The tables are well formed and describe the dictionary: their order is that of the complete records, each name
    stands for the setting of the first record that has it, and all that sections require is there. -/
structure Tables.Describes (compile? : PatternCompiler) (t : Tables) (d : Dictionary) : Prop extends t.WellFormed where
  order_eq : t.order = (d.records.filterMap Record.key?).eraseDups
  described : ∀ record ∈ d.records, record.key? = (record.setting? compile?).map Setting.name
  lookup_eq : ∀ name,
    t.lookup name = (Record.first? d.records (canonicalName name)).bind (Record.setting? compile?)
  length_eq : t.settings.length = t.displayNames.length
  resolves : ∀ name ∈ Slot.names t.required, (t.lookup name).isSome

namespace Collected

variable {compile? : PatternCompiler} {d : Dictionary} {t : Tables}

theorem stored?_isSome_iff (collected : Collected compile? d.records t) {key : String} :
    (t.stored? key).isSome ↔ ∃ record ∈ d.records, record.key? = some key := by
  rw [collected.stored?_isSome, collected.order, List.mem_eraseDups, List.mem_filterMap]

theorem isBroken_of_missing (collected : Collected compile? d.records t) {key : String} (required : d.Requires key)
    (missing : ¬ (t.stored? key).isSome) : d.IsBroken compile? := by
  rw [collected.stored?_isSome_iff] at missing
  exact .inr ⟨key, required, fun record member isKey => missing ⟨record, member, isKey⟩⟩

theorem not_isBroken (collected : Collected compile? d.records t)
    (resolved : ∀ name ∈ Slot.names d.requiredTable, (t.stored? name).isSome) : ¬ d.IsBroken compile? := by
  rintro (⟨record, member, broken⟩ | ⟨key, required, missing⟩)
  · obtain ⟨described, reads⟩ := collected.reads record member
    exact reads.sound broken
  · obtain ⟨record, member, isKey⟩ :=
      collected.stored?_isSome_iff.mp (resolved key (Dictionary.mem_names_requiredTable.mpr required))
    exact missing record member isKey

theorem describes (collected : Collected compile? d.records t)
    (resolved : ∀ name ∈ Slot.names d.requiredTable, (t.stored? name).isSome)
    {parents : List (String × List String)} {filled : Tables}
    (isFilled : filled = { t with required := d.requiredTable, parents }) (wellFormed : filled.WellFormed) :
    filled.Describes compile? d := by
  subst isFilled
  exact {
    toWellFormed := wellFormed
    order_eq := collected.order
    described := by
      intro record member
      obtain ⟨described, reads⟩ := collected.reads record member
      rw [reads.key, reads.setting]
    lookup_eq := by
      intro name
      rw [Tables.lookup_eq_stored?]
      exact collected.found (canonicalName name)
    length_eq := wellFormed.length_displayNames.symm
    resolves := by
      intro name member
      have canonical := (Dictionary.mem_names_requiredTable.mp member).canonical
      rw [Tables.lookup_eq_stored?, canonical]
      exact resolved name member }

end Collected

theorem Dictionary.isBroken_of_load {compile? : PatternCompiler} {d : Dictionary} {e : RegistryError}
    (failed : (d.load compile?).2 = .error e) : d.IsBroken compile? := by
  have outcome := (@Collected.nil compile?).collect d.records
  revert failed
  fun_cases Dictionary.load compile? d with
  | case1 notes e broken =>
    rw [broken] at outcome
    exact fun _ => .inl outcome
  | case2 notes t collected inSection name missing =>
    rw [collected] at outcome
    have unresolved : ¬ ∀ name ∈ Slot.names d.requiredTable, (t.stored? name).isSome := by
      rw [← Dictionary.unresolved?_eq_none, missing]
      rintro ⟨⟩
    obtain ⟨key, member, isMissing⟩ := not_forall₂.mp unresolved
    exact fun _ => Collected.isBroken_of_missing outcome (Dictionary.mem_names_requiredTable.mp member) isMissing
  | case3 => rintro ⟨⟩

theorem Dictionary.describes_of_load {compile? : PatternCompiler} {d : Dictionary} {t : Tables}
    (loaded : (d.load compile?).2 = .ok t) : ¬ d.IsBroken compile? ∧ t.Describes compile? d := by
  have outcome := (@Collected.nil compile?).collect d.records
  have wellFormed := Dictionary.load_wellFormed loaded
  revert loaded
  fun_cases Dictionary.load compile? d with
  | case1 | case2 => rintro ⟨⟩
  | case3 notes filled collected nothingMissing =>
    rw [collected] at outcome
    have resolved := Dictionary.unresolved?_eq_none.mp nothingMissing
    intro loaded
    exact ⟨Collected.not_isBroken outcome resolved,
      Collected.describes outcome resolved (Except.ok.inj loaded).symm wellFormed⟩

/-- Building a registry fails just in case its dictionary is broken. Otherwise the tables that the dictionary fills are
    well formed and describe it, and they are the registry's: whatever compiles the choices, whatever measures words. -/
theorem ofDictionary_describes (compile? : PatternCompiler) (measure : Measure) (d : Dictionary) :
    match (d.load compile?).2 with
    | .error e => d.IsBroken compile? ∧ Registry.ofDictionary compile? measure d = .error e
    | .ok t => ¬ d.IsBroken compile? ∧ t.Describes compile? d ∧
        ∃ r, Registry.ofDictionary compile? measure d = .ok r ∧ r.toTables = t := by
  fun_cases Registry.ofDictionary compile? measure d with
  | case1 e failed =>
    rw [failed]
    exact ⟨Dictionary.isBroken_of_load failed, rfl⟩
  | case2 t loaded =>
    rw [loaded]
    obtain ⟨sound, describes⟩ := Dictionary.describes_of_load loaded
    exact ⟨sound, describes, _, rfl, rfl⟩

def collidingRecords : List Record :=
  [{ displayName := some "type", type := none, sample := some "chart" },
    { displayName := some "start-time", type := some "date", sample := some "now" },
    { displayName := some "Start Time", type := some "string", sample := some "today" }]

/-- The first record is incomplete, and of the others the first counts. -/
example :
    (Dictionary.load (fun _ => none) { records := collidingRecords, required := some [] }).2.map
      (fun t => (t.order, (t.lookup " startTime ").map Setting.sample)) = .ok (["starttime"], some "now") := by
  decide +kernel

end ChartConfig
