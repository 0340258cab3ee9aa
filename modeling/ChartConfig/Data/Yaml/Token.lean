import ChartConfig.Data.Yaml.Scalar
import ChartConfig.Data.Yaml.Style

/-!
# Tokens of YAML

A text is a sequence of tokens. Most are a mark or a scalar; three are read off the layout: a block collection
starts where its first entry stands further right than the collection around it, and ends before the first
token that stands further left. That a scalar is the key of a record shows only at the colon after it, so the
lexer keeps the place of the last token that may turn out to be a key, one for the block and one for each open
flow collection, and puts the marks for the key before it once the colon is met. A key that needs no mark of
its own stands on one line and is at most 1024 characters long.
-/

namespace ChartConfig.Yaml

inductive Token where
  | documentStart
  | documentEnd
  | version (major minor : Nat)
  | listStart
  | recordStart
  | blockEnd
  | flowListStart
  | flowListEnd
  | flowRecordStart
  | flowRecordEnd
  | entry
  | comma
  | key
  | value
  | anchor (name : String)
  | reference (name : String)
  | tag (handle suffix : String)
  | scalar (style : Style) (text : String)
  deriving Repr, DecidableEq, Inhabited

/-- A token that may turn out to be the start of a key. -/
structure PendingKey where
  required : Bool
  number : Nat
  mark : Mark
  deriving Repr, Inhabited

structure Lexer where
  place : Place
  /-- The columns of the open block collections, the innermost first. -/
  indents : List Nat := []
  keyAllowed : Bool := true
  /-- The pending keys, that of the innermost flow collection first and that of the block last. -/
  pending : List (Option PendingKey) := [none]
  tokens : List Token := []
  count : Nat := 0
  deriving Repr, Inhabited

namespace Lexer

def inFlow (l : Lexer) : Bool :=
  1 < l.pending.length

def floor (l : Lexer) : Nat :=
  match l.indents with
  | [] => 0
  | column :: _ => column + 1

def emit (l : Lexer) (t : Token) : Lexer :=
  { l with tokens := t :: l.tokens, count := l.count + 1 }

def insert (l : Lexer) (number : Nat) (t : Token) : Lexer :=
  let later := l.count - number
  { l with tokens := l.tokens.take later ++ t :: l.tokens.drop later, count := l.count + 1 }

def openBlock (l : Lexer) (column number : Nat) (start : Token) : Lexer :=
  if l.inFlow || column < l.floor then l
  else { l.insert number start with indents := column :: l.indents }

def closeBlocks (l : Lexer) (column : Nat) : Lexer :=
  if l.inFlow then l
  else
    let closed := l.indents.takeWhile (column ≤ ·)
    { l with
      indents := l.indents.dropWhile (column ≤ ·)
      tokens := List.replicate closed.length .blockEnd ++ l.tokens
      count := l.count + closed.length }

/-- Gives up the pending key, unless a key is required there. -/
def dropPending? (l : Lexer) : Option Lexer :=
  match l.pending with
  | some key :: outer => if key.required then none else some { l with pending := none :: outer }
  | _ => some l

def savePending? (l : Lexer) : Option Lexer :=
  if l.keyAllowed then
    l.dropPending?.map fun l =>
      let column := l.place.mark.column
      let required := !l.inFlow && l.indents.head? == some column
      { l with pending := some ⟨required, l.count, l.place.mark⟩ :: l.pending.drop 1 }
  else some l

def skip (l : Lexer) (n : Nat) : Lexer :=
  { l with place := l.place.skip n }

/-- Passes over space, comments and line breaks. After a break in a block a key may start, and a tab does not
    count as space where a key may start. -/
def filler (inFlow : Bool) : (keyAllowed inComment : Bool) → Mark → List Char → Bool × Place
  | keyAllowed, _, m, [] => (keyAllowed, ⟨m, []⟩)
  | keyAllowed, inComment, m, c :: rest =>
    if isBreak c then filler inFlow (keyAllowed || !inFlow) false (m.after c) rest
    else if inComment then filler inFlow keyAllowed true (m.after c) rest
    else if c == '#' then filler inFlow keyAllowed true (m.after c) rest
    else if c == ' ' || (c == '\t' && (inFlow || !keyAllowed)) ||
        (m.column == 0 && c.toNat = 0xFEFF) then
      filler inFlow keyAllowed false (m.after c) rest
    else (keyAllowed, ⟨m, c :: rest⟩)

def skipFiller (l : Lexer) : Lexer :=
  let (keyAllowed, place) := filler l.inFlow l.keyAllowed false l.place.mark l.place.ahead
  { l with keyAllowed, place }

def documentMark? (l : Lexer) (t : Token) : Option Lexer :=
  (l.closeBlocks 0).dropPending?.map fun l => { (l.skip 3).emit t with keyAllowed := false }

def version? (p : Place) : Option (Token × Place) := do
  let number (p : Place) : Option (Nat × Place) :=
    match p.takeWhile Char.isDigit with
    | ([], _) => none
    | (ds, rest) => if 9 < ds.length then none else some (Text.natOfDigits ds, rest)
  let (major, p) ← number (p.skipWhile isSpace)
  if p.ahead.head? != some '.' then none
  else
    let (minor, p) ← number (p.skip 1)
    let p ← p.restOfLine?
    return (.version major minor, p)

def directive? (l : Lexer) : Option Lexer := do
  let l ← (l.closeBlocks 0).dropPending?
  let (name, p) := (l.place.skip 1).takeWhile isNameChar
  if name = "YAML".toList && endsWord p.ahead then
    let (t, place) ← version? p
    return { l.emit t with place, keyAllowed := false }
  else none

def openFlow? (l : Lexer) (t : Token) : Option Lexer :=
  l.savePending?.map fun l =>
    { (l.skip 1).emit t with pending := none :: l.pending, keyAllowed := true }

def closeFlow? (l : Lexer) (t : Token) : Option Lexer :=
  l.dropPending?.map fun l =>
    { (l.skip 1).emit t with
      pending := if l.inFlow then l.pending.drop 1 else l.pending
      keyAllowed := false }

def comma? (l : Lexer) : Option Lexer :=
  l.dropPending?.map fun l => { (l.skip 1).emit .comma with keyAllowed := true }

def blockMark? (l : Lexer) (start t : Token) (keyAllowed : Bool) : Option Lexer :=
  if !l.inFlow && !l.keyAllowed then none
  else
    (l.openBlock l.place.mark.column l.count start).dropPending?.map fun l =>
      { (l.skip 1).emit t with keyAllowed }

/-- The pending key, if a colon here can belong to it. -/
def keyHere? (l : Lexer) : Option PendingKey :=
  match l.pending with
  | some key :: _ =>
    if key.mark.line = l.place.mark.line && l.place.mark.index ≤ key.mark.index + 1024 then some key
    else none
  | _ => none

def value? (l : Lexer) : Option Lexer :=
  match l.keyHere? with
  | some key =>
    let l := (l.insert key.number .key).openBlock key.mark.column key.number .recordStart
    some { (l.skip 1).emit .value with pending := none :: l.pending.drop 1, keyAllowed := false }
  | none =>
    l.dropPending?.bind fun l =>
      if !l.inFlow && !l.keyAllowed then none
      else
        let l := l.openBlock l.place.mark.column l.count .recordStart
        some { (l.skip 1).emit .value with keyAllowed := !l.inFlow }

def content? (l : Lexer) (read : Place → Option (Token × Place)) : Option Lexer := do
  let l ← l.savePending?
  let (t, place) ← read l.place
  return { l.emit t with place, keyAllowed := false }

def anchorName? (p : Place) : Option (String × Place) :=
  let (name, p) := (p.skip 1).takeWhile isNameChar
  let stops := endsWord p.ahead ||
    (p.ahead.head?.map fun c => ['?', ':', ',', ']', '}', '%', '@'].contains c || c.toNat = 0x60).getD true
  if name.isEmpty || !stops then none else some (String.ofList name, p)

/-- Characters of a tag; those that are marks of flow collections only between angle brackets. -/
def isTagChar (bracketed : Bool) (c : Char) : Bool :=
  isNameChar c || [';', '/', '?', ':', '@', '&', '=', '+', '$', '.', '!', '~', '*', '(', ')'].contains c ||
    c.toNat = 0x27 || (bracketed && (c == ',' || c == '[' || c == ']'))

/-- A tag; it stands in angle brackets, or after a handle between exclamation marks, or after one mark. -/
def tag? (inFlow : Bool) (p : Place) : Option (Token × Place) := do
  let (handle, suffix, rest) ←
    if p.ahead[1]? == some '<' then
      let (suffix, rest) := (p.skip 2).takeWhile (isTagChar true)
      if suffix.isEmpty || rest.ahead.head? != some '>' then none
      else some ([], suffix, rest.skip 1)
    else
      let (name, rest) := (p.skip 1).takeWhile isNameChar
      if rest.ahead.head? == some '!' then
        let (suffix, rest) := (rest.skip 1).takeWhile (isTagChar false)
        if suffix.isEmpty then none else some ('!' :: name ++ ['!'], suffix, rest)
      else
        let (more, rest) := rest.takeWhile (isTagChar false)
        let suffix := name ++ more
        some (if suffix.isEmpty then ([], ['!'], rest) else (['!'], suffix, rest))
  if endsWord rest.ahead || (inFlow && rest.ahead.head? == some ',') then
    return (.tag (String.ofList handle) (String.ofList suffix), rest)
  else none

def block? (l : Lexer) (folded : Bool) : Option Lexer := do
  let l ← l.dropPending?
  let (s, place) ← readBlock? folded l.floor (l.place.skip 1)
  return { l.emit (.scalar (if folded then .quoted else .literal) (String.ofList s)) with
    place, keyAllowed := true }

def quoted? (p : Place) : Option (Token × Place) :=
  let p' := p.skip 1
  let answer :=
    if p.ahead.head? == some '"' then readDouble? 0 {} p'.mark p'.ahead
    else readSingle? {} p'.mark p'.ahead
  answer.map fun (s, rest) => (.scalar .quoted (String.ofList s), rest)

def plain? (l : Lexer) : Option Lexer := do
  let l ← l.savePending?
  let (s, broke, place) ← readPlain? l.inFlow l.floor {} l.place.mark l.place.ahead
  return { l.emit (.scalar .plain (String.ofList s)) with place, keyAllowed := broke }

def isReserved (inFlow : Bool) (c : Char) (rest : List Char) : Bool :=
  if c == '-' then (rest.head?.map isSpace).getD false
  else if c == '?' || c == ':' then inFlow || endsWord rest
  else
    isSpace c || isFlowMark c || ['#', '&', '*', '!', '|', '>', '"', '%', '@'].contains c ||
      c.toNat = 0x27 || c.toNat = 0x60

def token? (l : Lexer) (c : Char) (rest : List Char) : Option Lexer :=
  let m := l.place.mark
  if m.column == 0 && c == '%' then l.directive?
  else if isDocumentMark m (c :: rest) then
    l.documentMark? (if c == '-' then .documentStart else .documentEnd)
  else if c == '[' then l.openFlow? .flowListStart
  else if c == '{' then l.openFlow? .flowRecordStart
  else if c == ']' then l.closeFlow? .flowListEnd
  else if c == '}' then l.closeFlow? .flowRecordEnd
  else if c == ',' then l.comma?
  else if c == '-' && endsWord rest then l.blockMark? .listStart .entry true
  else if c == '?' && (l.inFlow || endsWord rest) then l.blockMark? .recordStart .key (!l.inFlow)
  else if c == ':' && (l.inFlow || endsWord rest) then l.value?
  else if c == '*' then l.content? fun p => (anchorName? p).map fun (n, p) => (.reference n, p)
  else if c == '&' then l.content? fun p => (anchorName? p).map fun (n, p) => (.anchor n, p)
  else if c == '!' then l.content? (tag? l.inFlow)
  else if c == '|' && !l.inFlow then l.block? false
  else if c == '>' && !l.inFlow then l.block? true
  else if c == '"' || c.toNat = 0x27 then l.content? quoted?
  else if isReserved l.inFlow c rest then none
  else l.plain?

def run? : (bound : Nat) → Lexer → Option (List Token)
  | 0, _ => none
  | bound + 1, l =>
    let l := l.skipFiller
    let l := l.closeBlocks (l.place.mark.column + 1)
    match l.place.ahead with
    | [] => (l.closeBlocks 0).dropPending?.map fun l => l.tokens.reverse
    | c :: rest =>
      match l.token? c rest with
      | some l => run? bound l
      | none => none

end Lexer

def tokens? (text : List Char) : Option (List Token) :=
  Lexer.run? (text.length + 1) { place := { ahead := text } }

end ChartConfig.Yaml
