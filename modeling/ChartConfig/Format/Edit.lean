import ChartConfig.Text.Lines
import ChartConfig.Text.Position

/-!
# Edits

An edit replaces a range of one line by a text. Edits are applied from the end of the document to its
start, so that columns keep their meaning; columns past the end of a line mean its end, and edits of lines
that do not exist do nothing. An edit whose start lies after its end cannot be applied.
-/

namespace ChartConfig

open Text

structure Edit where
  range : Range
  newText : String
  deriving Repr, DecidableEq, Inhabited

namespace Edit

/-- The edited line; `none` if the start, within the line, is after the end. -/
def onLine (e : Edit) (line : List Char) : Option (List Char) :=
  let first := min e.range.start.character line.length
  let last := min e.range.stop.character line.length
  if last < first then none
  else some (line.take first ++ e.newText.toList ++ line.drop last)

def onLines (e : Edit) (lines : List (List Char)) : Option (List (List Char)) :=
  match lines[e.range.start.line]? with
  | none => some lines
  | some line => (e.onLine line).map fun edited => lines.set e.range.start.line edited

/-- Later edits come first; edits with the same start keep their order. -/
def laterFirst (edits : List Edit) : List Edit :=
  edits.mergeSort fun a b => b.range.start.le a.range.start

def applyTo (lines : List (List Char)) (edits : List Edit) : Option (List (List Char)) :=
  (laterFirst edits).foldlM (fun lines e => e.onLines lines) lines

/-- The text with all edits applied and with line feeds for breaks. -/
def apply (text : String) (edits : List Edit) : Option String :=
  (applyTo (splitLines text.toList) edits).map fun lines => String.ofList (joinLines lines)

end Edit

end ChartConfig
