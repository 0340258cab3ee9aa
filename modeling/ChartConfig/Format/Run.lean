import ChartConfig.Format.Edit
import ChartConfig.Format.Layout
import ChartConfig.Log

/-!
# Formatting

The edits that bring a document into shape: blanks at the end of a line are taken away, and a line that is
not indented as the layout asks is indented anew. Nothing but blanks at the ends of lines is touched.
-/

namespace ChartConfig

open Text

structure FormatOptions where
  tabSize : Nat := 2
  insertSpaces : Bool := true
  deriving Repr, DecidableEq, Inhabited

namespace FormatOptions

def step (o : FormatOptions) : List Char :=
  if o.insertSpaces then List.replicate o.tabSize ' ' else ['\t']

/-- Indents as texts: none at the margin, and one level more for each step. -/
def ruler (o : FormatOptions) : Ruler (List Char) where
  margin := []
  deepen indent := indent ++ o.step

end FormatOptions

namespace Note

def formatting (lines : Nat) : Note :=
  ⟨.debug, "Formatting a document of " ++ toString lines ++ " lines"⟩

def headerIndent (number : Nat) (name : String) (width : Nat) : Note :=
  ⟨.trace, "Line " ++ toString number ++ ": [" ++ name ++ "] at indent " ++ toString width⟩

def formatted (edits : Nat) : Note :=
  ⟨.debug, "Formatting produced " ++ toString edits ++ " edits"⟩

end Note

namespace Format

def trailing (number : Nat) (line : List Char) : List Edit :=
  let kept := (trimEnd line).length
  if kept = line.length then [] else [⟨Range.onLine number kept line.length, ""⟩]

def leading (number : Nat) (line wanted : List Char) : List Edit :=
  let actual := leadingBlanks line
  if actual = wanted then [] else [⟨Range.onLine number 0 actual.length, String.ofList wanted⟩]

def lineEdits (number : Nat) (line : List Char) (indent : Indent (List Char)) : List Edit :=
  trailing number line ++
    match indent.wanted? with
    | some wanted => leading number line wanted
    | none => []

def editsFrom : (number : Nat) → List (List Char) → List (Indent (List Char)) → List Edit
  | number, line :: lines, indent :: indents =>
    lineEdits number line indent ++ editsFrom (number + 1) lines indents
  | _, _, _ => []

/-- The edits that bring a document into shape. -/
def edits (text : String) (o : FormatOptions) (r : Registry) : List Edit :=
  editsFrom 0 (Document.lines text) (Layout.indents o.ruler r text)

def headerNote? (indent : Indent (List Char)) (number : Nat) : Option Note :=
  match indent with
  | .header name wanted => some (.headerIndent number name wanted.length)
  | _ => none

def notes (text : String) (o : FormatOptions) (r : Registry) : List Note :=
  .formatting (Document.lines text).length ::
    (Layout.indents o.ruler r text).zipIdx.filterMap (fun (indent, number) => headerNote? indent number) ++
    [.formatted (edits text o r).length]

end Format

end ChartConfig
