import ChartConfig.Language.Terminator
import ChartConfig.Validation.Assign

/-!
# One line

What a line does to the state of a run. Lines in the body of a script are passed over, and lines in the
body of a table are rows. Any other line is read for its content, a section header, an assignment, a
template directive, and then for its keyword.
-/

namespace ChartConfig

open Text

namespace Note

def keyword (number : Nat) (k : Keyword) : Note :=
  ⟨.trace, "Line " ++ toString number ++ ": keyword '" ++ k.name ++ "'"⟩

end Note

namespace Step

/-- A row must have as many cells as the header of its table; a blank line is no row. -/
def tableRow (number : Nat) (line : List Char) : Step := report fun s =>
  if allBlank line || Csv.columns line == s.csvColumns then []
  else
    [.error (Range.onLine number 0 line.length)
      (Message.columnCount s.csvColumns (Csv.columns line))]

def templateMark (number : Nat) (line : List Char) : Step := report fun _ =>
  match Line.templateMark? line with
  | some mark => [.problem (.information (mark.range number) Message.deprecatedTemplate)]
  | none => []

def spelling (r : Registry) (header : Header) : Step := report fun _ =>
  if Registry.isSection header.name then []
  else [.error header.range (Message.unknownAmong header.name Section.known r.measure)]

def bequeath : Step :=
  update fun s => { s with scope := s.scope.bequeath }

def newWidget (r : Registry) : Step :=
  all [
    report fun s => s.aliases.unresolved r.measure,
    update fun s => { s with aliases := {}, values := [] }]

def enterSection (r : Registry) (number : Nat) (header : Header) : Step :=
  all [
    spelling r header,
    judge r,
    bequeath,
    if occursIn "widget".toList header.name.toList then newWidget r else skip,
    report fun _ =>
      (if header.name == "tag" then [.warning header.range Message.deprecatedTagSection] else []) ++
        [.note (.entering number header.name)],
    update fun s => { s with scope := s.scope.enter r header }]

def leaveTags (r : Registry) : Step :=
  all [
    judge r,
    bequeath,
    fun s => match s.scope.previous with
      | some header => .ok ({ s with scope := s.scope.resume header }, [.note (.leavingTags header.name)])
      | none => .ok (s, [])]

def plainLine (r : Registry) (number : Nat) (line : List Char) : Step :=
  all [
    match Line.assignment? line with
      | some a =>
        (Assign.step r number line a).andThen
          (onlyIf (·.blocks.isIn .forBlock) (report (Assign.loopIdentifiers r number line)))
      | none => skip,
    match Line.templateDeclaration? line with
      | some d => onNames (·.declareTemplate r.measure number d)
      | none => skip,
    report fun _ => match Line.unclosedHeader? line number with
      | some header => [.error header.range Message.unclosedHeader]
      | none => []]

def content (r : Registry) (number : Nat) (line : List Char) : Step :=
  (templateMark number line).andThen <|
    match Line.header? line number with
    | some header => enterSection r number header
    | none => fun s =>
      if allBlank line && s.scope.name? == some "tags" then leaveTags r s
      else plainLine r number line s

/-- The header of a table: on the line of the keyword, or the next line that is not blank. -/
def tableHeader (line : List Char) (following : List (List Char)) : Option (List Char) :=
  if Line.csvHeaderBelow line then firstNonBlank? following else some (Line.afterSign line)

def openTable (number : Nat) (line : List Char) (following : List (List Char)) : Step :=
  all [
    onNames (·.declare? .csv number (Line.csvName? line)),
    update fun s => { s with csvColumns := ((tableHeader line following).map Csv.columns).getD 0 }]

def openScript (found : KeywordAt) (line : List Char) : Step :=
  if Line.isOneLineScript line then skip
  else
    (openBlock found).andThen <| report fun _ =>
      if Line.hasScriptContent line then [.error found.range Message.scriptNeedsBreak] else []

def setCondition (found : KeywordAt) : Step :=
  update fun s => { s with condition := some (Branch.ofKeyword found) }

/-- What the keyword of a line does, once blocks that always nest have been opened. -/
def keyword (number : Nat) (line : List Char) (following : List (List Char)) (found : KeywordAt) :
    Step :=
  match found.keyword with
  | .endFor => (update fun s => { s with names := s.names.closeLoop }).andThen (closeBlock found)
  | .endIf | .endVar | .endCsv | .endList | .endScript => closeBlock found
  | .elseBlock | .elseIf =>
    (setCondition found).andThen (report fun s => s.blocks.alternative found)
  | .csv => openTable number line following
  | .var =>
    (if Line.varNeedsEnd line then openBlock found else skip).andThen
      (onNames (·.declare? .var number (Line.varName? line)))
  | .list =>
    (onNames (·.declare? .list number (Line.listName? line))).andThen
      (if Line.listNeedsEnd line following then openBlock found else skip)
  | .forBlock => onNames (·.openLoop number line)
  | .ifBlock => setCondition found
  | .script => openScript found line
  | .importing => skip

def keywordLine (number : Nat) (line : List Char) (following : List (List Char))
    (found : KeywordAt) : Step :=
  all [
    report fun _ => [.note (.keyword number found.keyword)],
    if found.keyword.alwaysNests then openBlock found else skip,
    keyword number line following found]

/-- Reads a line; `following` are the lines after it. -/
def line (r : Registry) (number : Nat) (line : List Char) (following : List (List Char)) : Step :=
  fun s =>
    let found := Line.keywordAt? line number
    let k := found.map KeywordAt.keyword
    if s.blocks.inBody .script .endScript k then skip s
    else if s.blocks.inBody .csv .endCsv k then tableRow number line s
    else
      ((content r number line).andThen
        (match found with
          | some found => keywordLine number line following found
          | none => skip)) s

def lines (r : Registry) : (number : Nat) → List (List Char) → Step
  | _, [] => skip
  | number, first :: rest => (line r number first rest).andThen (lines r (number + 1) rest)

def finish (r : Registry) : Step :=
  all [
    report fun s => s.aliases.unresolved r.measure,
    report fun s => s.blocks.leftOpen,
    judge r,
    report fun s => s.names.unresolved r.measure]

end Step

end ChartConfig
