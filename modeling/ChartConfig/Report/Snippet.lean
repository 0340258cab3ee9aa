import ChartConfig.Report.Basic
import ChartConfig.Report.Span
import ChartConfig.Text.Width

/-!
# Reports for the eye

Each problem is shown with its message and the line it is on, one line before and one after it. The characters
it is about are underlined, and the severity stands below the middle of the line.
-/

namespace ChartConfig

open Text

namespace Snippet

def sign : Severity → String
  | .error => "x"
  | .warning => "!"
  | .information => ">"

def spaces (n : Nat) : String :=
  String.ofList (List.replicate n ' ')

/-- The lines of a text that a break ends, and the one after the last break if it is not empty. -/
def sourceLines (source : List Char) : List (List Char) :=
  let lines := splitAtBreaks source
  if lines.getLast? == some [] then lines.dropLast else lines

def messageRows (d : Diagnostic) : List String :=
  match splitAtBreaks d.message.toList with
  | [] => []
  | first :: rest =>
    ("  " ++ sign d.severity ++ " " ++ String.ofList first) ::
      rest.map fun line => "  | " ++ String.ofList line

/-- The first and the last display column of the characters that a problem is about; there is at least one. -/
def columnsOf (line : List Char) (range : Range) : Nat × Nat :=
  let first := displayWidth (line.take range.start.character)
  let last := displayWidth (line.take range.stop.character)
  (first, max last (first + 1))

def underline (first last : Nat) : String :=
  let middle := (first + last) / 2
  spaces first ++ String.ofList ((List.range (last - first)).map fun i =>
    if first + i = middle then '|' else '^')

def sourceRow (width number : Nat) (line : List Char) : String :=
  let digits := toString number
  " " ++ spaces (width - digits.length) ++ digits ++ " | " ++ String.ofList (expandTabs line)

def rows (fileName : String) (lines : List (List Char)) (d : Diagnostic) : List String :=
  let at_ := d.range.start.line
  let line := lines.getD at_ []
  let after := lines[at_ + 1]?
  let width := (toString (if after.isSome then at_ + 2 else at_ + 1)).length
  let (first, last) := columnsOf line d.range
  let margin := " " ++ spaces width ++ " : "
  let place := fileName ++ ":" ++ toString (at_ + 1) ++ ":" ++
    toString (bytesBefore line d.range.start.character + 1)
  [Diagnostic.source, ""] ++ messageRows d ++
    [spaces (width + 2) ++ ",-[" ++ place ++ "]"] ++
    (if at_ = 0 then [] else [sourceRow width at_ (lines.getD (at_ - 1) [])]) ++
    [sourceRow width (at_ + 1) line, margin ++ underline first last,
      margin ++ spaces ((first + last) / 2) ++ "`-- " ++ d.severity.label] ++
    (match after with
      | some next => [sourceRow width (at_ + 2) next]
      | none => []) ++
    [spaces (width + 2) ++ "`----"]

end Snippet

def Report.render (r : Report) : String :=
  let lines := Snippet.sourceLines r.source
  String.join (r.diagnostics.map fun d =>
    String.join ((Snippet.rows r.fileName lines d).map (· ++ "\n")))

end ChartConfig
