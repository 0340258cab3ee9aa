import ChartConfig.Language.Declaration
import ChartConfig.Message
import ChartConfig.Validation.Finding

/-!
# Declared names

A document declares names of five kinds. Those of template variables may be declared again and again; any
other name must not be in use when it is declared. A loop variable is in use until its loop ends. The
collection of a loop may be declared after the loop, so it is looked up again at the end.
-/

namespace ChartConfig

open Text

inductive NameKind where
  | template
  | loop
  | list
  | var
  | csv
  deriving Repr, DecidableEq, Inhabited

structure Names where
  /-- Template variables; three are there from the start. -/
  template : List String := ["entity", "entities", "type"]
  loop : List String := []
  list : List String := []
  var : List String := []
  csv : List String := []
  /-- For each open loop, the outermost first, whether it brought its variable into use. -/
  scopes : List Bool := []
  /-- Collections of loops that were unknown when their loop began. -/
  pending : List Mention := []
  deriving Repr, DecidableEq, Inhabited

namespace Note

def unknownCollection (name : String) : Note :=
  ⟨.trace, "Loop collection '" ++ name ++ "' is not declared yet"⟩

end Note

namespace Names

def all (n : Names) : List String :=
  n.template ++ n.loop ++ n.list ++ n.var ++ n.csv

def contains (n : Names) (name : String) : Bool :=
  n.all.contains name

def add (n : Names) (name : String) : NameKind → Names
  | .template => { n with template := n.template ++ [name] }
  | .loop => { n with loop := n.loop ++ [name] }
  | .list => { n with list := n.list ++ [name] }
  | .var => { n with var := n.var ++ [name] }
  | .csv => { n with csv := n.csv ++ [name] }

/-- The name may be declared: it is a template variable or not in use. -/
def admits (n : Names) (kind : NameKind) (name : String) : Bool :=
  kind == .template || !n.contains name

def declare (n : Names) (kind : NameKind) (number : Nat) (piece : Piece) : Names × List Finding :=
  if n.admits kind piece.word then (n.add piece.word kind, [])
  else (n, [.error (piece.range number) (Message.alreadyDefined piece.word)])

def declare? (n : Names) (kind : NameKind) (number : Nat) : Option Piece → Names × List Finding
  | some piece => n.declare kind number piece
  | none => (n, [])

def useCollection (n : Names) (number : Nat) (sign : Piece) : Option Piece → Names × List Finding
  | none => (n, [.error (sign.range number) Message.emptyLoop])
  | some piece =>
    if n.contains piece.word then (n, [])
    else
      ({ n with pending := n.pending ++ [⟨piece.word, piece.range number⟩] },
        [.note (.unknownCollection piece.word)])

def openLoop (n : Names) (number : Nat) (line : List Char) : Names × List Finding :=
  match Line.loopVariable? line with
  | none => ({ n with scopes := n.scopes ++ [false] }, [])
  | some (item, sign) =>
    let (n, first) := n.useCollection number sign (Line.loopCollection? line)
    let fresh := n.admits .loop item.word
    let (n, second) := n.declare .loop number item
    ({ n with scopes := n.scopes ++ [fresh] }, first ++ second)

/-- Leaves the innermost loop, and with it the variable that it brought into use. -/
def closeLoop (n : Names) : Names :=
  { n with
    loop := if n.scopes.getLast? == some true then n.loop.dropLast else n.loop
    scopes := n.scopes.dropLast }

def declareTemplate (n : Names) (measure : Measure) (number : Nat) (d : TemplateDeclaration) :
    Names × List Finding :=
  let problems := match d.collection with
    | some piece =>
      if n.template.contains piece.word then []
      else [.error (piece.range number) (Message.unknownAmong piece.word n.template measure)]
    | none => []
  let (n, more) := n.declare .template number d.name
  (n, problems ++ more)

def unresolved (n : Names) (measure : Measure) : List Finding :=
  (n.pending.filter fun m => !n.contains m.name).map fun m =>
    .error m.range (Message.unknownAmong m.name n.all measure)

end Names

end ChartConfig
