import ChartConfig.Text.Blank
import ChartConfig.Text.Position
import ChartConfig.Text.Word

/-!
# Pieces of a line

A `Piece` is a stretch of a line together with the column at which it starts. A `Cursor` is a place in
a line: the column reached and the characters ahead. Recognisers of the language's lines move a cursor
and return pieces, so a column is never computed apart from the text it belongs to.
-/

namespace ChartConfig.Text

/-- A stretch of a line and the column of its first character. -/
structure Piece where
  column : Nat
  text : List Char
  deriving Repr, DecidableEq, Inhabited

namespace Piece

def stop (p : Piece) : Nat :=
  p.column + p.text.length

def word (p : Piece) : String :=
  String.ofList p.text

def range (p : Piece) (line : Nat) : Range :=
  Range.onLine line p.column p.stop

/-- The piece as seen from a line in which its text starts `n` columns further right. -/
def shift (p : Piece) (n : Nat) : Piece :=
  { p with column := n + p.column }

end Piece

/-- The maximal runs of characters with `p`, from left to right; the text starts at `column`. -/
def runs (p : Char → Bool) : (column : Nat) → List Char → List Piece
  | _, [] => []
  | column, c :: cs =>
    let later := runs p (column + 1) cs
    if p c then
      match later with
      | next :: rest =>
        if next.column = column + 1 then ⟨column, c :: next.text⟩ :: rest
        else ⟨column, [c]⟩ :: later
      | [] => [⟨column, [c]⟩]
    else later

def words (cs : List Char) : List Piece :=
  runs isWord 0 cs

def splitBlanks (cs : List Char) : List (List Char) :=
  (runs (fun c => !isBlank c) 0 cs).map Piece.text

def occursIn (part : List Char) : List Char → Bool
  | [] => part.isEmpty
  | c :: cs => part.isPrefixOf (c :: cs) || occursIn part cs

structure Cursor where
  column : Nat
  ahead : List Char
  deriving Repr, DecidableEq, Inhabited

namespace Cursor

def start (line : List Char) : Cursor :=
  ⟨0, line⟩

def within (line : List Char) (n : Nat) : Cursor :=
  ⟨n, line.drop n⟩

def skip (p : Char → Bool) (c : Cursor) : Cursor :=
  ⟨c.column + (c.ahead.takeWhile p).length, c.ahead.dropWhile p⟩

def take (p : Char → Bool) (c : Cursor) : Option (Piece × Cursor) :=
  match c.ahead.takeWhile p with
  | [] => none
  | run => some (⟨c.column, run⟩, c.skip p)

def skipSome (p : Char → Bool) (c : Cursor) : Option Cursor :=
  (c.take p).map Prod.snd

def expect (literal : String) (c : Cursor) : Option Cursor :=
  if literal.toList.isPrefixOf c.ahead then
    some ⟨c.column + literal.length, c.ahead.drop literal.length⟩
  else none

def name (c : Cursor) : Option (Piece × Cursor) :=
  c.take isWord

end Cursor

end ChartConfig.Text
