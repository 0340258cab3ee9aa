import ChartConfig.Text.Piece

/-!
# References

Places inside a line that use a name declared elsewhere: template expressions `${…}`, loop expressions
`@{…}`, uses of an alias `value('…')`, parameters `{…}` of an address, and the `alias = …` setting itself.
Occurrences are found from left to right and do not overlap.
-/

namespace ChartConfig

open Text

namespace Reference

/-- The occurrences that `read` finds in a text, from left to right, each search starting after the
    occurrence before. `read` gets the text ahead and returns a piece, relative to that text, and the
    number of characters the occurrence takes. `busy` counts the characters still to pass. -/
def scan (read : List Char → Option (Piece × Nat)) :
    (column : Nat) → (busy : Nat) → List Char → List Piece
  | _, _, [] => []
  | column, busy + 1, _ :: cs => scan read (column + 1) busy cs
  | column, 0, c :: cs =>
    match read (c :: cs) with
    | some (piece, size) => piece.shift column :: scan read (column + 1) (size - 1) cs
    | none => scan read (column + 1) 0 cs

def untilBrace? (cs : List Char) : Option (List Char) :=
  if cs.contains '}' then some (cs.takeWhile (· != '}')) else none

/-- The body of `${…}`, which starts with a word character. -/
def templateBody? : List Char → Option (Piece × Nat)
  | '$' :: '{' :: c :: cs =>
    if isWord c then (untilBrace? cs).map fun body => (⟨2, c :: body⟩, body.length + 4) else none
  | _ => none

/-- The text inside `{…}`: at least one character, on one line, up to the first brace after it. -/
def braced? : List Char → Option (List Char)
  | c :: cs => do
    let body ← untilBrace? cs
    if (c :: body).contains '\n' then none else return c :: body
  | [] => none

def parameter? : List Char → Option (Piece × Nat)
  | '{' :: cs => (braced? cs).map fun body => (⟨1, body⟩, body.length + 2)
  | _ => none

def loopExpression? : List Char → Option (Piece × Nat)
  | '@' :: '{' :: cs =>
    (braced? cs).map fun body => (⟨0, '@' :: '{' :: body ++ ['}']⟩, body.length + 3)
  | _ => none

/-- The text up to the first quote that is followed by a parenthesis, without blanks; `taken` is what
    has been passed, in reverse. -/
def quoted? (quote : Char) : (taken : List Char) → List Char → Option (List Char)
  | _, [] => none
  | taken, c :: cs =>
    if c == quote && cs.head? == some ')' && !taken.isEmpty then some taken.reverse
    else if isBlank c then none
    else quoted? quote (c :: taken) cs

def aliasUse? (cs : List Char) : Option (Piece × Nat) :=
  if "value(".toList.isPrefixOf cs then
    match cs.drop 6 with
    | c :: rest =>
      if c.toNat = 0x27 || c == '"' then
        (quoted? c [] rest).map fun body => (⟨7, body⟩, body.length + 9)
      else none
    | [] => none
  else none

def templates (cs : List Char) : List Piece :=
  scan templateBody? 0 0 cs

def loopExpressions (cs : List Char) : List Piece :=
  scan loopExpression? 0 0 cs

def parameters (cs : List Char) : List Piece :=
  scan parameter? 0 0 cs

def aliasUses (cs : List Char) : List Piece :=
  scan aliasUse? 0 0 cs

structure Identifier where
  before : Option Char
  piece : Piece
  after : Option Char
  deriving Repr, DecidableEq

/-- The identifiers of a text: runs of word characters that start with an ASCII letter or an underscore.
    `before` is the character before the text and `busy` counts the characters still to pass. -/
def identifiersFrom : (column : Nat) → (before : Option Char) → (busy : Nat) → List Char →
    List Identifier
  | _, _, _, [] => []
  | column, _, busy + 1, c :: cs => identifiersFrom (column + 1) (some c) busy cs
  | column, before, 0, c :: cs =>
    if isIdentifierStart c then
      let tail := cs.takeWhile isWord
      ⟨before, ⟨column, c :: tail⟩, (cs.dropWhile isWord).head?⟩ ::
        identifiersFrom (column + 1) (some c) tail.length cs
    else identifiersFrom (column + 1) (some c) 0 cs

def identifiers (cs : List Char) : List Identifier :=
  identifiersFrom 0 none 0 cs

/-- A property name (after a dot), a call (before a parenthesis) or quoted text (before a quote), none of
    which refers to a declared name. -/
def Identifier.isExempt (i : Identifier) : Bool :=
  i.before == some '.' ||
    match i.after with
    | some c => c == '"' || c == '(' || c.toNat = 0x27
    | none => false

end Reference

namespace Line

def aliasName? (line : List Char) : Option Piece := do
  let cursor ← ((Cursor.start line).skip isBlank).expect "alias"
  let cursor ← (cursor.skip isBlank).expect "="
  let (name, cursor) ← (cursor.skip isBlank).take fun c => !isBlank c
  if allBlank cursor.ahead then return name else none

end Line

end ChartConfig
