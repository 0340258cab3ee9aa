import ChartConfig.Format.Run
import ChartConfig.Hover
import ChartConfig.Validation.Run

/-!
# Sessions

A document that is edited line by line and, in between, validated, formatted and asked for hovers, under a
registry that may be changed as well.
-/

namespace ChartConfig

open Text

structure Session where
  lines : List (List Char) := [[]]
  registry : Registry := Registry.builtin
  deriving Inhabited

namespace Session

def text (s : Session) : String :=
  Document.ofLines s.lines

def load (s : Session) (text : String) : Session :=
  { s with lines := Document.lines text }

/-- Inserts a line at a place, by default and at most at the end. -/
def insert (s : Session) (line : String) (place : Option Nat) : Session :=
  let n := min (place.getD s.lines.length) s.lines.length
  { s with lines := s.lines.take n ++ line.toList :: s.lines.drop n }

def replace (s : Session) (place : Nat) (line : String) : Option Session :=
  if place < s.lines.length then some { s with lines := s.lines.set place line.toList } else none

def remove (s : Session) (place : Nat) : Option Session :=
  if place < s.lines.length then some { s with lines := s.lines.eraseIdx place } else none

def use (s : Session) (r : Registry) : Session :=
  { s with registry := r }

def validate (s : Session) : Except EngineError (List Diagnostic) :=
  ChartConfig.validate s.text s.registry

def format (s : Session) (o : FormatOptions) : List Edit × Option Session :=
  let edits := Format.edits s.text o s.registry
  (edits, (Edit.apply s.text edits).map s.load)

def hover (s : Session) (position : Position) : Option Hover :=
  Hover.find? s.text position s.registry

end Session

end ChartConfig
