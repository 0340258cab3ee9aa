import ChartConfig.Text.Byte
import ChartConfig.Text.Lines
import ChartConfig.Text.Position

/-!
# Spans

Positions count characters line by line; a span counts the bytes of the whole text. `Span.of` turns a range
into a span. A column past the end of its line stands for the end of that line, and a line past the last one
for the end of the text.
-/

namespace ChartConfig

open Text

def bytesBefore (line : List Char) (column : Nat) : Nat :=
  byteLength (line.take column)

def byteOffset (text : List Char) (p : Position) : Nat :=
  let lines := splitAtBreaks text
  match lines[p.line]? with
  | some line =>
    (lines.take p.line).foldr (fun earlier bytes => byteLength earlier + 1 + bytes) 0 +
      bytesBefore line p.character
  | none => byteLength text

structure Span where
  offset : Nat
  length : Nat
  deriving Repr, DecidableEq, Inhabited

/-- The bytes of a range; none if it ends before it starts. -/
def Span.of (text : List Char) (range : Range) : Span :=
  let start := byteOffset text range.start
  ⟨start, byteOffset text range.stop - start⟩

end ChartConfig
