import ChartConfig.Suggestion
import ChartConfig.Text.Piece

/-!
# Messages

The wording of what is said about names: unknown ones with a suggestion, repeated ones, and names with
blanks in them.
-/

namespace ChartConfig.Message

def unknown (found : String) : String :=
  found ++ " is unknown."

def alreadyDefined (name : String) : String :=
  name ++ " is already defined"

def unknownAmong (found : String) (candidates : List String) (measure : Measure := .edits) : String :=
  match Suggestion.closest found candidates measure with
  | some suggestion => unknown found ++ " Did you mean " ++ suggestion ++ "?"
  | none => unknown found

def dashed (name : String) : String :=
  "-".intercalate ((Text.splitBlanks name.toList).map String.ofList)

def settingWithBlanks (found : String) : String :=
  "The setting " ++ found ++ " contains whitespaces. Replace them with the dash\n " ++ dashed found ++ "."

def tagWithBlanks (found : String) : String :=
  "The tag name " ++ found ++ " contains whitespaces. Wrap it in double quotes."

def required (name : String) : String :=
  name ++ " is required"

def conflict (name other : String) : String :=
  name ++ " can not be specified simultaneously with " ++ other

def tagIsSetting (name : String) : String :=
  name ++ " is interpreted as a series tag and is sent to the server. Remove the setting from the " ++
    "[tags] section or enclose it double-quotes to suppress the warning."

def deprecatedTagSection : String :=
  "Replace [tag] sections with [tags].\n" ++
  "Enclose the tag name in double quotes in case it contains special characters.\n\n" ++
  "[tag]\n  name = k\n  value = v\n[tag]\n  name = my column\n  value = my value\n\n" ++
  "[tags]\n  k = v\n  \"my column\" = my value\n"

def deprecatedTemplate : String :=
  "Freemarker expressions are deprecated. Use a native collection: list, csv table, var object."

def repeatedScript : String :=
  "Multi-line scripts are deprecated.\nGroup multiple scripts into blocks:\nscript\nendscript"

def repeatedThresholds : String :=
  "Replace multiple `thresholds` settings with one, for example:\n" ++
  "thresholds = 0\nthresholds = 60\nthresholds = 80\n\nthresholds = 0, 60, 80"

def repeatedColors : String :=
  "Replace multiple `colors` settings with one, for example:\n" ++
  "colors = red\ncolors = yellow\ncolors = green\n\ncolors = red, yellow, green"

def unclosedHeader : String := "Section tag is unclosed"

def emptyLoop : String := "Empty 'in' statement"

def scriptNeedsBreak : String := "A linefeed character after 'script' keyword is required"

def columnCount (expected found : Nat) : String :=
  "Expected " ++ toString expected ++ " columns, but found " ++ toString found

end ChartConfig.Message
