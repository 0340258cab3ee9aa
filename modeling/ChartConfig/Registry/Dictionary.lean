import ChartConfig.Log
import ChartConfig.Registry.Basic

/-!
# Dictionaries

A dictionary is the data from which a registry is built: records of settings and, if it wishes to replace
the built-in section rules, tables of required settings and of parents. Records without a display name, a
type or an example are passed over, and of records for the same setting the first counts. A record of an
unsupported type, a choice that does not compile, and a required setting without a record each make the
dictionary unusable. Whether a choice compiles is for the compiler of patterns to say.
-/

namespace ChartConfig

structure Record where
  displayName : Option String
  type : Option String
  sample : Option String
  description : Option String := none
  defaultValue : Option String := none
  choices : List String := []
  minValue : Option Float := none
  maxValue : Option Float := none
  excluded : List String := []
  multiLine : Bool := false
  home : Option String := none
  deriving Repr, Inhabited

structure Dictionary where
  records : List Record := []
  required : Option (List (String × List Slot)) := none
  parents : Option (List (String × List String)) := none
  deriving Repr, Inhabited

inductive RegistryError where
  | malformed
  /-- A setting has a choice that does not compile. -/
  | badChoice (setting : String)
  | unknownType (setting type : String)
  | unknownRequired (inSection setting : String)
  | unreadable
  deriving Repr, DecidableEq, Inhabited

namespace RegistryError

/-- What to say; nothing is said of a text that could not be read. -/
def message : RegistryError → Option String
  | malformed => some "Malformed settings dictionary"
  | badChoice setting =>
    some ("Malformed settings dictionary: invalid enum value of '" ++ setting ++ "'")
  | unknownType setting type =>
    some ("Setting '" ++ setting ++ "' has an unsupported type '" ++ type ++ "'")
  | unknownRequired inSection setting =>
    some ("Required setting '" ++ setting ++ "' of section [" ++ inSection ++
      "] is not in the dictionary")
  | unreadable => none

def code : RegistryError → String
  | malformed | badChoice _ => "registry::malformed"
  | unknownType _ _ => "registry::unknown_type"
  | unknownRequired _ _ => "registry::unknown_required_setting"
  | unreadable => "registry::io"

def help : RegistryError → Option String
  | malformed | badChoice _ =>
    some "The dictionary must be a JSON or YAML object with a `settings` array."
  | unknownType _ _ =>
    some "Supported types are: string, number, integer, boolean, enum, interval, date."
  | unknownRequired _ _ =>
    some "Every name listed in `requiredSettings` must be declared in `settings`."
  | unreadable => none

end RegistryError

namespace Note

def incompleteRecord : Note :=
  ⟨.warn, "Skipping an incomplete dictionary record"⟩

def collision (s : Setting) : Note :=
  ⟨.warn, "Setting '" ++ s.displayName ++ "' collides with an earlier setting named '" ++ s.name ++
    "', keeping the first"⟩

def loaded (count : Nat) : Note :=
  ⟨.debug, "Loaded " ++ toString count ++ " settings"⟩

end Note

namespace Record

def toSetting? (compile? : PatternCompiler) (r : Record) : Except RegistryError (Option Setting) :=
  match r.displayName, r.type, r.sample with
  | some displayName, some typeName, some shown =>
    match ValueType.ofName? typeName with
    | none => .error (.unknownType displayName typeName)
    | some type =>
      match r.choices.mapM (Choice.compiled? compile?) with
      | none => .error (.badChoice displayName)
      | some choices =>
        .ok (some {
          displayName, type, choices
          sample := shown
          description := r.description.getD ""
          defaultValue := r.defaultValue
          minValue := r.minValue
          maxValue := r.maxValue
          excluded := r.excluded
          multiLine := r.multiLine
          home := r.home })
  | _, _, _ => .ok none

theorem named_of_toSetting? {compile? : PatternCompiler} {r : Record} {s : Setting}
    (described : r.toSetting? compile? = .ok (some s)) : s.name = canonicalName s.displayName := by
  revert described
  fun_cases toSetting? compile? r with
  | case3 =>
    rintro ⟨⟩
    rfl
  | case1 | case2 | case4 => exact nofun

end Record

namespace Dictionary

/-- Stores the settings of the records beside those stored so far, with the notes made on the way. Of
    settings with the same name the first is kept. -/
def collect (compile? : PatternCompiler) : (t : Tables) → List Record →
    List Note × Except RegistryError Tables
  | t, [] => ([], .ok t)
  | t, record :: rest =>
    match record.toSetting? compile? with
    | .error e => ([], .error e)
    | .ok none =>
      let (notes, answer) := collect compile? t rest
      (.incompleteRecord :: notes, answer)
    | .ok (some s) =>
      if (t.stored? s.name).isSome then
        let (notes, answer) := collect compile? t rest
        (.collision s :: notes, answer)
      else collect compile? (t.store s) rest

/-- The slots of every section; names that the dictionary lists are taken in any spelling. -/
def requiredTable (d : Dictionary) : List (String × List Slot) :=
  match d.required with
  | some table => table.map fun (name, slots) => (name, slots.map (·.map canonicalName))
  | none => Section.requiredSettings

/-- The first name of a slot under which no setting is stored, and the section of the slot. -/
def unresolved? (t : Tables) (table : List (String × List Slot)) : Option (String × String) :=
  table.findSome? fun (inSection, slots) =>
    (slots.flatten.find? fun name => !(t.stored? name).isSome).map fun name => (inSection, name)

/-- The tables that a dictionary fills, and the notes made while filling them. -/
def load (compile? : PatternCompiler) (d : Dictionary) : List Note × Except RegistryError Tables :=
  match collect compile? {} d.records with
  | (notes, .error e) => (notes, .error e)
  | (notes, .ok t) =>
    match unresolved? t d.requiredTable with
    | some (inSection, name) => (notes, .error (.unknownRequired inSection name))
    | none =>
      (notes ++ [.loaded t.settings.length],
        .ok { t with required := d.requiredTable, parents := d.parents.getD Section.parents })

theorem collect_wellFormed {compile? : PatternCompiler} {t filled : Tables} {records : List Record}
    (wellFormed : t.WellFormed) (isFilled : (collect compile? t records).2 = .ok filled) :
    filled.WellFormed := by
  fun_induction collect compile? t records with
  | case1 => exact Except.ok.inj isFilled ▸ wellFormed
  | case2 => exact nomatch isFilled
  | case3 t record rest _ notes answer same inductionHypothesis =>
    exact inductionHypothesis wellFormed (by rwa [same])
  | case4 t record rest s _ _ notes answer same inductionHypothesis =>
    exact inductionHypothesis wellFormed (by rwa [same])
  | case5 t record rest s described free inductionHypothesis =>
    exact inductionHypothesis (wellFormed.store free (Record.named_of_toSetting? described)) isFilled

theorem load_wellFormed {compile? : PatternCompiler} {d : Dictionary} {t : Tables}
    (loaded : (d.load compile?).2 = .ok t) : t.WellFormed := by
  revert loaded
  fun_cases load compile? d with
  | case1 | case2 => exact nofun
  | case3 notes filled collected =>
    rintro ⟨⟩
    have wellFormed := collect_wellFormed (Tables.WellFormed.empty [] []) (congrArg Prod.snd collected)
    exact ⟨wellFormed.nodup_order, wellFormed.mem_order, wellFormed.nodup_keys, wellFormed.named⟩

end Dictionary

namespace Registry

def ofDictionary (compile? : PatternCompiler) (measure : Measure) (d : Dictionary) :
    Except RegistryError Registry :=
  match loaded : (d.load compile?).2 with
  | .error e => .error e
  | .ok t => .ok { t with measure, wellFormed := Dictionary.load_wellFormed loaded }

end Registry

end ChartConfig
