import ChartConfig.Data.Yaml.Place
import ChartConfig.Text.Numeral

/-!
# Scalar styles of YAML

Reading of the text of a scalar in each of its styles: plain, in single and in double quotes, and in a literal
or folded block. Line breaks in the first three are folded: a line feed alone becomes a space, and of several
breaks the first is dropped if it is a line feed. `floor` is the least column at which the further lines of a
scalar may start.
-/

namespace ChartConfig.Yaml

structure Folding where
  done : List Char := []
  /-- Space that is lost if a line break follows, in reverse. -/
  space : List Char := []
  breaks : List Char := []
  /-- The last break was escaped and leaves no space. -/
  joined : Bool := false
  deriving Repr

namespace Folding

def settle (f : Folding) : List Char :=
  if f.joined then f.breaks ++ f.done
  else
    match f.breaks.reverse with
    | [] => f.space ++ f.done
    | first :: more =>
      if first ≠ '\n' then f.breaks ++ f.done
      else if more.isEmpty then ' ' :: f.done
      else more.reverse ++ f.done

def push (f : Folding) (c : Char) : Folding :=
  { done := c :: f.settle }

def pushSpace (f : Folding) (c : Char) : Folding :=
  if !f.breaks.isEmpty || f.joined then f else { f with space := c :: f.space }

def pushBreak (f : Folding) (c : Char) : Folding :=
  { f with space := [], breaks := c :: f.breaks }

def join (f : Folding) : Folding :=
  { done := f.settle, joined := true }

def text (f : Folding) : List Char :=
  f.settle.reverse

end Folding

def readSingle? : Folding → Mark → List Char → Option (List Char × Place)
  | _, _, [] => none
  | f, m, c :: d :: rest =>
    if isDocumentMark m (c :: d :: rest) then none
    else if c.toNat = 0x27 then
      if d.toNat = 0x27 then readSingle? (f.push c) ((m.after c).after d) rest
      else some (f.text, ⟨m.after c, d :: rest⟩)
    else if isBreak c then readSingle? (f.pushBreak c) (m.after c) (d :: rest)
    else if isSpace c then readSingle? (f.pushSpace c) (m.after c) (d :: rest)
    else readSingle? (f.push c) (m.after c) (d :: rest)
  | f, m, [c] => if c.toNat = 0x27 then some (f.text, ⟨m.after c, []⟩) else none

def escape? (c : Char) : Option Char :=
  match c with
  | '0' => some (Char.ofNat 0)
  | 'a' => some (Char.ofNat 7)
  | 'b' => some (Char.ofNat 8)
  | 't' => some '\t'
  | '\t' => some '\t'
  | 'n' => some '\n'
  | 'v' => some (Char.ofNat 11)
  | 'f' => some (Char.ofNat 12)
  | 'r' => some '\r'
  | 'e' => some (Char.ofNat 27)
  | ' ' => some ' '
  | '"' => some '"'
  | '/' => some '/'
  | '\\' => some '\\'
  | 'N' => some (Char.ofNat 0x85)
  | '_' => some (Char.ofNat 0xA0)
  | 'L' => some (Char.ofNat 0x2028)
  | 'P' => some (Char.ofNat 0x2029)
  | _ => none

def hexSize? (c : Char) : Option Nat :=
  match c with
  | 'x' => some 2
  | 'u' => some 4
  | 'U' => some 8
  | _ => none

/-- The character of an escape after its backslash, and the number of characters that spell it. -/
def readEscape? : List Char → Option (Char × Nat)
  | [] => none
  | e :: rest =>
    match hexSize? e with
    | some size =>
      if rest.length < size then none
      else (Text.charOfHex? (rest.take size)).map fun h => (h, size + 1)
    | none => (escape? e).map fun h => (h, 1)

/-- A text in double quotes after the opening one. `busy` counts the characters of an escape that have been
    read already. -/
def readDouble? : (busy : Nat) → Folding → Mark → List Char → Option (List Char × Place)
  | _, _, _, [] => none
  | busy + 1, f, m, c :: rest => readDouble? busy f (m.after c) rest
  | 0, f, m, c :: rest =>
    if isDocumentMark m (c :: rest) then none
    else if c == '"' then some (f.text, ⟨m.after c, rest⟩)
    else if isBreak c then readDouble? 0 (f.pushBreak c) (m.after c) rest
    else if isSpace c then readDouble? 0 (f.pushSpace c) (m.after c) rest
    else if c == '\\' then
      if (rest.head?.map isBreak).getD false then readDouble? 1 f.join (m.after c) rest
      else
        match readEscape? rest with
        | some (h, size) => readDouble? size (f.push h) (m.after c) rest
        | none => none
    else readDouble? 0 (f.push c) (m.after c) rest

/-- A plain scalar, whether the place after it is on a further line, and that place. It ends before a colon or
    a comment that is set off by space, in a flow collection before a mark, and before a line that starts
    left of `floor`. -/
def readPlain? (inFlow : Bool) (floor : Nat) : Folding → Mark → List Char →
    Option (List Char × Bool × Place)
  | f, m, [] => some (f.done.reverse, !f.breaks.isEmpty, ⟨m, []⟩)
  | f, m, c :: rest =>
    let finish := some (f.done.reverse, !f.breaks.isEmpty, ⟨m, c :: rest⟩)
    let setOff := !f.breaks.isEmpty || !f.space.isEmpty
    if isBreak c then readPlain? inFlow floor (f.pushBreak c) (m.after c) rest
    else if isSpace c then
      if c == '\t' && !f.breaks.isEmpty && m.column < floor then none
      else readPlain? inFlow floor (f.pushSpace c) (m.after c) rest
    else if !inFlow && !f.breaks.isEmpty && m.column < floor then finish
    else if setOff && (c == '#' || isDocumentMark m (c :: rest)) then finish
    else if inFlow && c == ':' && (rest.head?.map fun d => isFlowMark d || d == '?').getD false then none
    else if (c == ':' && endsWord rest) || (inFlow && isFlowMark c) then finish
    else readPlain? inFlow floor (f.push c) (m.after c) rest

inductive Chomp where
  | strip
  | clip
  | keep
  deriving Repr, DecidableEq

def chomp? : Char → Option Chomp
  | '-' => some .strip
  | '+' => some .keep
  | _ => none

/-- How far a block is indented; not at all is refused. -/
def indentMark? (c : Char) : Option Nat :=
  if '1' ≤ c && c ≤ '9' then some (c.toNat - 48) else none

def blockMarks (cs : List Char) : Chomp × Option Nat × Nat :=
  match cs with
  | [] => (.clip, none, 0)
  | a :: rest =>
    match chomp? a, indentMark? a with
    | some chomp, _ =>
      match rest.head?.bind indentMark? with
      | some n => (chomp, some n, 2)
      | none => (chomp, none, 1)
    | none, some n =>
      match rest.head?.bind chomp? with
      | some chomp => (chomp, some n, 2)
      | none => (.clip, some n, 1)
    | none, none => (.clip, none, 0)

/-- Passes over blank lines and the indent of the line after them. Returns the breaks, in reverse, the greatest
    column reached and the place. With no `indent` every space is passed over. A tab in place of indent is
    refused. -/
def blockBreaks? (indent : Option Nat) : (breaks : List Char) → (deepest : Nat) → Mark → List Char →
    Option (List Char × Nat × Place)
  | breaks, deepest, m, [] => some (breaks, max deepest m.column, ⟨m, []⟩)
  | breaks, deepest, m, c :: rest =>
    let within := (indent.map fun n => decide (m.column < n)).getD true
    if c == ' ' && within then blockBreaks? indent breaks deepest (m.after c) rest
    else if c == '\t' && within then none
    else if isBreak c then blockBreaks? indent (c :: breaks) (max deepest m.column) (m.after c) rest
    else some (breaks, max deepest m.column, ⟨m, c :: rest⟩)

structure Block where
  done : List Char := []
  ending : List Char := []
  blank : List Char := []
  /-- That line started with space. -/
  deep : Bool := false
  deriving Repr

namespace Block

/-- Adds a line with the break after it. In a folded block the break between two lines that do not start with
    space becomes a space, or is dropped if blank lines follow. -/
def push (b : Block) (folded : Bool) (line ending : List Char) : Block :=
  let deep := (line.head?.map isSpace).getD false
  let between :=
    if folded && b.ending == ['\n'] && !b.deep && !deep then
      if b.blank.isEmpty then [' '] else []
    else b.ending
  { done := line.reverse ++ b.blank ++ between ++ b.done, ending, deep }

def text (b : Block) (chomp : Chomp) : List Char :=
  let tail := match chomp with
    | .strip => []
    | .clip => b.ending
    | .keep => b.blank ++ b.ending
  (tail ++ b.done).reverse

end Block

def blockLines? (folded : Bool) (indent : Nat) : (bound : Nat) → Block → Place →
    Option (Block × Place)
  | 0, b, p => some (b, p)
  | bound + 1, b, p =>
    if p.mark.column ≠ indent || p.ahead.isEmpty then some (b, p)
    else
      let (line, p) := p.takeWhile fun c => !isBreak c
      let b := b.push folded line (p.ahead.take 1)
      let p := p.skip 1
      match blockBreaks? (some indent) [] 0 p.mark p.ahead with
      | none => none
      | some (blank, _, p) => blockLines? folded indent bound { b with blank } p

def readBlock? (folded : Bool) (floor : Nat) (p : Place) : Option (List Char × Place) := do
  let (chomp, explicit, size) := blockMarks p.ahead
  let p ← (p.skip size).restOfLine?
  let asked := explicit.map fun n => (floor - 1) + n
  let (blank, deepest, p) ← blockBreaks? asked [] 0 p.mark p.ahead
  let indent := asked.getD (max (max deepest floor) 1)
  let (b, p) ← blockLines? folded indent (p.ahead.length + 1) { blank } p
  return (b.text chomp, p)

end ChartConfig.Yaml
