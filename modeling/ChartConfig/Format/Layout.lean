import ChartConfig.Document
import ChartConfig.Language.Header
import ChartConfig.Language.Terminator
import ChartConfig.Registry.Basic
import ChartConfig.Text.Blank

/-!
# Layout

How each line of a document is to be indented. Sections nest by the registry's parents, and every block nests
its body one step deeper. What an indent is stays open here: a `Ruler` says which indent the margin has and
which comes next, and all that a layout does with indents is to keep them and to ask for the next.
-/

namespace ChartConfig

open Text

structure Ruler (α : Type) where
  margin : α
  deepen : α → α

structure OpenSection (α : Type) where
  name : String
  indent : α
  deriving Repr, DecidableEq, Inhabited

structure OpenBlock (α : Type) where
  /-- Indent of the opening line, to which the terminator goes back. -/
  indent : α
  content : α
  /-- Number of open sections when the block began. -/
  depth : Nat
  isScript : Bool
  deriving Repr, DecidableEq, Inhabited

inductive Indent (α : Type) where
  /-- It stays as it is: the line is blank, or belongs to a script. -/
  | keep
  | header (name : String) (indent : α)
  | at (indent : α)
  deriving Repr, DecidableEq, Inhabited

def Indent.wanted? {α : Type} : Indent α → Option α
  | .keep => none
  | .header _ indent => some indent
  | .at indent => some indent

/-- Where the layout stands between two lines. Both stacks have their innermost entry first. -/
structure Layout (α : Type) where
  indent : α
  sections : List (OpenSection α) := []
  blocks : List (OpenBlock α) := []
  deriving Repr, DecidableEq, Inhabited

namespace Layout

variable {α : Type} (k : Ruler α)

def start : Layout α :=
  ⟨k.margin, [], []⟩

/-- The indent of a header among the open sections above the floor of the innermost block, and the sections
    that remain open. A header goes one step below an ancestor and takes the place of a section of the
    same name or the same level; other sections are closed. Without a section left, it goes to `base`. -/
def place (name : String) (enclosing : List String) (floor : Nat) (base : α) :
    List (OpenSection α) → α × List (OpenSection α)
  | [] => (base, [])
  | top :: rest =>
    if (top :: rest).length ≤ floor then (base, top :: rest)
    else if enclosing.contains top.name then (k.deepen top.indent, top :: rest)
    else if top.name == name || Section.sharesLevel name top.name || enclosing.isEmpty then
      (top.indent, rest)
    else place name enclosing floor base rest

/-- The indent of a header, and the sections that remain open around it. Groups and the configuration stand
    at the margin. -/
def placeHeader (r : Registry) (l : Layout α) (name : String) : α × List (OpenSection α) :=
  if name == "group" || name == "configuration" then (k.margin, [])
  else
    match l.blocks with
    | [] => place k name (r.ancestors name) 0 k.margin l.sections
    | b :: _ => place k name (r.ancestors name) b.depth b.content l.sections

def header (r : Registry) (l : Layout α) (name : String) : Indent α × Layout α :=
  let (indent, around) := placeHeader k r l name
  (.header name indent, { l with indent := k.deepen indent, sections := ⟨name, indent⟩ :: around })

def closeBlock (l : Layout α) : Layout α :=
  match l.blocks with
  | [] => l
  | b :: rest =>
    ⟨b.indent, l.sections.drop (l.sections.length - b.depth), rest⟩

def openBlock (l : Layout α) (isScript : Bool) : Layout α :=
  let content := k.deepen l.indent
  { l with indent := content, blocks := ⟨l.indent, content, l.sections.length, isScript⟩ :: l.blocks }

def inScript (l : Layout α) : Bool :=
  match l.blocks with
  | b :: _ => b.isScript
  | [] => false

/-- Reads a line that is neither in a script nor a header nor blank. -/
def plain (l : Layout α) (analysed : List Char) (following : List (List Char)) : Indent α × Layout α :=
  let l := if Line.isClosing analysed then l.closeBlock else l
  (.at l.indent,
    if Line.opensLevel analysed && Line.needsTerminator analysed following then
      openBlock k l (Line.keyword? analysed == some .script)
    else l)

/-- Reads a line: as written, as analysed, and the analysed lines after it. -/
def step (r : Registry) (l : Layout α) (line analysed : List Char) (following : List (List Char)) :
    Indent α × Layout α :=
  if l.inScript && Line.keyword? analysed != some .endScript then (.keep, l)
  else
    match Line.headerName? analysed with
    | some name => header k r l name.word
    | none => if allBlank line then (.keep, l) else plain k l analysed following

def indentsFrom (r : Registry) (l : Layout α) : List (List Char) → List (List Char) → List (Indent α)
  | line :: lines, analysed :: following =>
    let (indent, l) := step k r l line analysed following
    indent :: indentsFrom r l lines following
  | _, _ => []

def indents (r : Registry) (text : String) : List (Indent α) :=
  indentsFrom k r (start k) (Document.lines text) (Document.analysed text)

end Layout

end ChartConfig
