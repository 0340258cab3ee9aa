import ChartConfig.Text.Piece

/-!
# Declarations

Lines that bring a name into being: `csv name =`, `var name =`, `list name =`, `for name in collection`
and the two template directives. Each recogniser returns the pieces of the line that hold the names.
Lines are lowered before they are read.
-/

namespace ChartConfig

open Text

/-- A template directive: the collection of a template loop and the name it declares. -/
structure TemplateDeclaration where
  collection : Option Piece
  name : Piece
  deriving Repr, DecidableEq, Inhabited

namespace Line

/-- The first template directive on a line, complete or not. -/
def templateMark? (line : List Char) : Option Piece :=
  go 0 line
where
  go : Nat → List Char → Option Piece
    | _, [] => none
    | column, c :: cs =>
      if "<#list".toList.isPrefixOf (c :: cs) then some ⟨column, "<#list".toList⟩
      else if "<#assign".toList.isPrefixOf (c :: cs) then some ⟨column, "<#assign".toList⟩
      else go (column + 1) cs

def templateAssign? (line : List Char) : Option TemplateDeclaration := do
  let cursor ← ((Cursor.start line).skip isBlank).expect "<#assign"
  let cursor ← cursor.skipSome isBlank
  let (name, _) ← cursor.name
  return ⟨none, name⟩

def templateList? (line : List Char) : Option TemplateDeclaration := do
  let cursor ← ((Cursor.start line).skip isBlank).expect "<#list"
  let cursor ← cursor.skipSome isBlank
  let (collection, cursor) ← cursor.name
  let cursor ← cursor.skipSome isBlank
  let cursor ← cursor.expect "as"
  let cursor ← cursor.skipSome isBlank
  let (name, _) ← cursor.name
  return ⟨some collection, name⟩

def templateDeclaration? (line : List Char) : Option TemplateDeclaration :=
  templateAssign? line <|> templateList? line

def csvName? (line : List Char) : Option Piece := do
  let cursor ← ((Cursor.start line).skip isGap).expect "csv"
  let cursor ← cursor.skipSome isGap
  let (name, cursor) ← cursor.name
  let _ ← (cursor.skip isGap).expect "="
  return name

/-- The name in the first `var name =` of a line, which need not stand at its start. -/
def varName? (line : List Char) : Option Piece :=
  (words line).findSome? fun word =>
    if word.text = "var".toList then do
      let cursor ← (Cursor.within line word.stop).skipSome isBlank
      let (name, cursor) ← cursor.name
      let _ ← (cursor.skip isBlank).expect "="
      return name
    else none

def listName? (line : List Char) : Option Piece := do
  let cursor ← ((Cursor.start line).skip isBlank).expect "list"
  let cursor ← cursor.skipSome isBlank
  let (name, cursor) ← cursor.name
  let _ ← (cursor.skip isBlank).expect "="
  return name

def loopVariable? (line : List Char) : Option (Piece × Piece) := do
  let cursor ← ((Cursor.start line).skip isBlank).expect "for"
  let cursor ← cursor.skipSome isBlank
  let (item, cursor) ← cursor.name
  let cursor ← cursor.skipSome isBlank
  let (sign, _) ← cursor.name
  if sign.text = "in".toList then return (item, sign) else none

def keysArgument? (cursor : Cursor) : Option Piece := do
  let cursor ← cursor.expect "object.keys("
  let (name, cursor) ← cursor.name
  let _ ← cursor.expect ")"
  return name

/-- The collection of `for name in collection` or `for name in object.keys(collection)`. -/
def loopCollection? (line : List Char) : Option Piece := do
  let cursor ← ((Cursor.start line).skip isGap).expect "for"
  let cursor ← cursor.skipSome isGap
  let (_, cursor) ← cursor.name
  let cursor ← cursor.skipSome isGap
  let cursor ← cursor.expect "in"
  let cursor ← cursor.skipSome isGap
  keysArgument? cursor <|> cursor.name.map Prod.fst

def hasScriptContent (line : List Char) : Bool :=
  match ((Cursor.start line).skip isBlank).expect "script" with
  | some cursor => !allBlank cursor.ahead
  | none => false

/-- The names of the columns stand on the line after `csv`: the line has no `=`, or ends with one. -/
def csvHeaderBelow (line : List Char) : Bool :=
  (line.reverse.dropWhile isGap).head? == some '=' || !line.contains '='

def afterSign (line : List Char) : List Char :=
  (line.dropWhile (· != '=')).drop 1

end Line

end ChartConfig
