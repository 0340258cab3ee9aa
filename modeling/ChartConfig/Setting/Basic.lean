import ChartConfig.Text.Blank
import ChartConfig.Text.Case
import ChartConfig.Text.Word

/-!
# Settings

The description of one configuration setting: the type of its values, the values allowed, an example and
a text. A setting is known by its canonical name, the ASCII letters of its display name in lower case, so
every spelling with other punctuation, case or digits is the same setting.
-/

namespace ChartConfig

inductive ValueType where
  | string
  | number
  | integer
  | boolean
  | enum
  | interval
  | date
  deriving Repr, DecidableEq, Inhabited

namespace ValueType

def all : List ValueType :=
  [string, number, integer, boolean, enum, interval, date]

def name : ValueType → String
  | string => "string"
  | number => "number"
  | integer => "integer"
  | boolean => "boolean"
  | enum => "enum"
  | interval => "interval"
  | date => "date"

def ofName? (name : String) : Option ValueType :=
  all.find? fun t => t.name == name

end ValueType

/-- The ASCII letters of a text, in lower case. -/
def canonicalName (text : String) : String :=
  String.ofList ((text.toList.map Char.toLower).filter Text.isLowerLetter)

theorem canonicalName_trim (name : String) :
    canonicalName (String.ofList (Text.trim name.toList)) = canonicalName name := by
  have noLetter : ∀ c, Text.isBlank c = true → (Text.isLowerLetter ∘ Char.toLower) c = false := by
    intro c blank
    have notLetter : ¬ (65 ≤ c.toNat ∧ c.toNat ≤ 90) ∧ ¬ (97 ≤ c.toNat ∧ c.toNat ≤ 122) := by
      simp only [Text.isBlank, Bool.or_eq_true, Bool.and_eq_true, decide_eq_true_eq] at blank
      omega
    have unchanged : c.toLower = c := dif_neg notLetter.1
    rw [Function.comp_apply, unchanged, ← Bool.not_eq_true, Text.isLowerLetter, Bool.and_eq_true, decide_eq_true_eq, decide_eq_true_eq]
    exact notLetter.2
  rw [canonicalName, String.toList_ofList, List.filter_map, Text.filter_trim noLetter, canonicalName, List.filter_map]

/-- What a library of regular expressions does: it compiles a text to a test of values, or says that the text
    is no regular expression. -/
abbrev PatternCompiler := String → Option (List Char → Bool)

/-- A value that an enumerated setting allows: its text in lower case, and the test that it spells. -/
structure Choice where
  text : String
  allows : List Char → Bool
  deriving Inhabited

/-- The choice that a dictionary spells, a pattern for the whole value in any case; `none` if it does not
    compile. -/
def Choice.compiled? (compile? : PatternCompiler) (text : String) : Option Choice :=
  let lowered := String.ofList (Text.toLowerCase text.toList)
  (compile? ("(?i)^(?:" ++ lowered ++ ")$")).map fun allows => ⟨lowered, allows⟩

structure Setting where
  displayName : String
  /-- The canonical form of the display name, under which the setting is looked up. -/
  name : String := canonicalName displayName
  type : ValueType
  sample : String
  description : String := ""
  defaultValue : Option String := none
  choices : List Choice := []
  minValue : Option Float := none
  maxValue : Option Float := none
  /-- Names, in any spelling, of settings that must not appear in the same section. -/
  excluded : List String := []
  /-- The setting may be repeated. -/
  multiLine : Bool := false
  home : Option String := none
  deriving Inhabited

namespace Setting

def same (s t : Setting) : Bool :=
  s.name == t.name

def isIn (s : Setting) (settings : List Setting) : Bool :=
  settings.any s.same

def excludes (s t : Setting) : Bool :=
  s.excluded.any fun name => canonicalName name == t.name

end Setting

end ChartConfig
