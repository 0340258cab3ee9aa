import ChartConfig.Data.Json
import ChartConfig.Data.Yaml.Reader
import ChartConfig.Registry.Builtin

/-!
# Loading registries

A dictionary is written in JSON or in YAML, as a record of `settings`, `requiredSettings` and
`parentSections`. Fields that are not known are ignored. A list in the place of a record gives the fields in
order. A file is read as YAML if its name ends in `.yaml` or `.yml`, and as JSON otherwise.
-/

namespace ChartConfig

open Data

namespace Record

def fieldNames : List String :=
  ["displayName", "type", "example", "description", "defaultValue", "enum", "minValue", "maxValue",
    "excludes", "multiLine", "section"]

/-- The record of a setting. The first three fields of a list must be there. -/
def ofData? (d : Data) : Option Record := do
  match ← d.fields? fieldNames 3 with
  | [displayName, type, sample, description, defaultValue, choices, least, most, excluded, multiLine,
      home] =>
    return {
      displayName := ← optionalField? text? displayName
      type := ← optionalField? text? type
      sample := ← optionalField? shown? sample
      description := ← optionalField? text? description
      defaultValue := ← optionalField? shown? defaultValue
      choices := ← fieldOr? [] (listOf? text?) choices
      minValue := ← optionalField? number? least
      maxValue := ← optionalField? number? most
      excluded := ← fieldOr? [] (listOf? text?) excluded
      multiLine := ← fieldOr? false flag? multiLine
      home := ← optionalField? text? home }
  | _ => none

end Record

namespace Dictionary

def fieldNames : List String :=
  ["settings", "requiredSettings", "parentSections"]

def ofData? (d : Data) : Option Dictionary := do
  match ← d.fields? fieldNames 0 with
  | [settings, required, parents] =>
    return {
      records := ← fieldOr? [] (listOf? Record.ofData?) settings
      required := ← optionalField? (tableOf? (listOf? (listOf? text?))) required
      parents := ← optionalField? (tableOf? (listOf? text?)) parents }
  | _ => none

def ofJson? (text : String) : Option Dictionary := do
  ofData? (← Json.parse? text).toData

def ofYaml? (text : String) : Option Dictionary := do
  ofData? (← Yaml.parse? text)

end Dictionary

namespace Registry

def build : Option Dictionary → List Note × Except RegistryError Registry
  | some d => ((d.load Pattern.compile?).1, ofDictionary Pattern.compile? .edits d)
  | none => ([], .error .malformed)

def ofJson (text : String) : List Note × Except RegistryError Registry :=
  build (Dictionary.ofJson? text)

def ofYaml (text : String) : List Note × Except RegistryError Registry :=
  build (Dictionary.ofYaml? text)

/-- What follows the last point of a file name, unless the point comes first. -/
def extension? (fileName : String) : Option String :=
  let ending := fileName.toList.reverse.takeWhile (· != '.')
  if ending.length + 1 < fileName.length && fileName != ".." then some (String.ofList ending.reverse)
  else none

/-- The registry in a file; the content is missing if there is no such file, and must be valid UTF-8. -/
def ofFile (fileName : String) (content : Option ByteArray) :
    List Note × Except RegistryError Registry :=
  match content.bind String.fromUTF8? with
  | none => ([], .error .unreadable)
  | some text =>
    match extension? fileName with
    | some "yaml" | some "yml" => ofYaml text
    | _ => ofJson text

end Registry

end ChartConfig
