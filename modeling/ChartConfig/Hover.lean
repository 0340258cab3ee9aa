import ChartConfig.Document
import ChartConfig.Registry.Basic
import ChartConfig.Text.Byte
import ChartConfig.Text.Piece

/-!
# Hover

The description of the setting under the cursor: its name is what stands before the first `=` of a line,
without the blanks around it. A cursor on the indent or in the value gets nothing.
-/

namespace ChartConfig

open Text

structure Hover where
  contents : String
  range : Range
  deriving Repr, DecidableEq, Inhabited

namespace Hover

/-- The text before the first `=` of a line. -/
def beforeSign? (line : List Char) : Option (List Char) :=
  if line.contains '=' then some (line.takeWhile (· != '=')) else none

/-- The hover for a name, which is looked for in the text before the sign. -/
def onName (line before name : List Char) (position : Position) (r : Registry) : Option Hover := do
  let setting ← r.lookup (String.ofList name)
  let first ← byteOf? name before
  let range :=
    Range.onLine position.line (columnOfByte line first) (columnOfByte line (first + byteLength name))
  if range.contains position then return ⟨setting.description, range⟩ else none

def onLine (line : List Char) (position : Position) (r : Registry) : Option Hover := do
  let before ← beforeSign? line
  let name := trim before
  if name.isEmpty then none else onName line before name position r

def find? (text : String) (position : Position) (r : Registry) : Option Hover := do
  let line ← (Document.lines text)[position.line]?
  onLine line position r

end Hover

end ChartConfig
