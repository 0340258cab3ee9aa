import ChartConfig.Data.Yaml.Place
import ChartConfig.Data.Yaml.Scalar
import ChartConfig.Report.Basic

/-!
# Reports in YAML

Block style, two spaces a level; the dash of a list item stands in the column of the key before. A text is
plain if it reads back as itself, a literal block if it has a line feed, and in quotes otherwise: in single
ones, or in double ones if some character has to be escaped. The line and paragraph separators break lines
too: what follows one is indented, and a block that ends with one needs no line feed after it.
-/

namespace ChartConfig

namespace Yaml

def isBlankOrEnd : Option Char → Bool
  | none => true
  | some c => c == ' ' || c == '\t' || isBreak c || c.toNat = 0

def isPrintable (c : Char) : Bool :=
  let n := c.toNat
  n = 10 || (0x20 ≤ n && n ≤ 0x7E) || (0xA0 ≤ n && n ≤ 0xD7FF) ||
    (0xE000 ≤ n && n ≤ 0xFFFD && n ≠ 0xFEFF) || 0x10000 ≤ n

/-- Characters that mean something else at the start of a plain text. -/
def isIndicator (c : Char) : Bool :=
  ['#', ',', '[', ']', '{', '}', '&', '*', '!', '|', '>', '"', '%', '@'].contains c ||
    c.toNat = 0x27 || c.toNat = 0x60

def startsBadly : List Char → Bool
  | [] => true
  | c :: rest =>
    isIndicator c || ((c == '?' || c == ':' || c == '-') && isBlankOrEnd rest.head?) ||
      "---".toList.isPrefixOf (c :: rest) || "...".toList.isPrefixOf (c :: rest)

def hasInnerMark : (before : Char) → List Char → Bool
  | _, [] => false
  | before, c :: rest =>
    (c == ':' && isBlankOrEnd rest.head?) || (c == '#' && isBlankOrEnd (some before)) ||
      hasInnerMark c rest

/-- A text that stands for itself without quotes, as far as its characters go. -/
def isPlain (cs : List Char) : Bool :=
  !startsBadly cs && !hasInnerMark (cs.headD ' ') cs.tail && cs.head? != some ' ' &&
    cs.getLast? != some ' ' && !cs.any isBreak

def readsOtherwise (s : String) : Bool :=
  match Scalar.of s with
  | .text => isZeroPadded s.toList
  | _ => true

def hasSpaceBeforeBreak : List Char → Bool
  | c :: d :: cs => (c == ' ' && isBreak d) || hasSpaceBeforeBreak (d :: cs)
  | _ => false

def hasSpaceAfterBreak : List Char → Bool
  | c :: d :: cs => (isBreak c && d == ' ') || hasSpaceAfterBreak (d :: cs)
  | _ => false

def fitsSingleQuotes (cs : List Char) : Bool :=
  cs.all isPrintable && !hasSpaceBeforeBreak cs && !hasSpaceAfterBreak cs

/-- A text whose lines after the first are indented, and after the last break the end too if asked. `fresh`
    tells that a break was just passed. -/
def indentLines (columns : Nat) (atEnd : Bool) : (fresh : Bool) → List Char → List Char
  | fresh, [] => if fresh && atEnd then List.replicate columns ' ' else []
  | fresh, c :: cs =>
    if isBreak c then c :: indentLines columns atEnd true cs
    else (if fresh then List.replicate columns ' ' else []) ++ c :: indentLines columns atEnd false cs

def singleQuoted (columns : Nat) (cs : List Char) : String :=
  let quote := Char.ofNat 0x27
  let doubled := cs.flatMap fun c => if c = quote then [c, c] else [c]
  String.ofList (quote :: indentLines columns true false doubled ++ [quote])

def hexDigits (size n : Nat) : List Char :=
  let ds := (Nat.toDigits 16 n).map Char.toUpper
  List.replicate (size - ds.length) '0' ++ ds

def escapeChar (c : Char) : List Char :=
  let n := c.toNat
  if c == '"' || c == '\\' then ['\\', c]
  else if isPrintable c && !isBreak c then [c]
  else if n = 0 then ['\\', '0']
  else if n = 7 then ['\\', 'a']
  else if n = 8 then ['\\', 'b']
  else if n = 9 then ['\\', 't']
  else if n = 10 then ['\\', 'n']
  else if n = 11 then ['\\', 'v']
  else if n = 12 then ['\\', 'f']
  else if n = 13 then ['\\', 'r']
  else if n = 27 then ['\\', 'e']
  else if n = 0x85 then ['\\', 'N']
  else if n = 0x2028 then ['\\', 'L']
  else if n = 0x2029 then ['\\', 'P']
  else if n < 0x100 then '\\' :: 'x' :: hexDigits 2 n
  else if n < 0x10000 then '\\' :: 'u' :: hexDigits 4 n
  else '\\' :: 'U' :: hexDigits 8 n

def doubleQuoted (cs : List Char) : String :=
  String.ofList ('"' :: cs.flatMap escapeChar ++ ['"'])

def isLiteral (cs : List Char) : Bool :=
  cs.all isPrintable && !hasSpaceBeforeBreak cs && cs.getLast? != some ' '

def startsBlank (cs : List Char) : Bool :=
  match cs with
  | c :: _ => c == ' ' || isBreak c
  | [] => false

/-- The marks of a literal block: how far it is indented, where its first line would not tell, and what
    becomes of the break at its end. -/
def literalMarks (cs : List Char) : String :=
  (if startsBlank cs then "2" else "") ++
    match cs.reverse with
    | c :: rest =>
      if !isBreak c then "-"
      else if (rest.head?.map isBreak).getD true then "+"
      else ""
    | [] => "-"

def literalBlock (columns : Nat) (cs : List Char) : String :=
  let final := if (cs.getLast?.map isBreak).getD false then "" else "\n"
  "|" ++ literalMarks cs ++ "\n" ++ String.ofList (indentLines columns false true cs) ++ final

/-- A text as a value, with the break after it; `columns` is the indent of its further lines. -/
def scalarText (columns : Nat) (s : String) : String :=
  let cs := s.toList
  if cs.contains '\n' then
    if isLiteral cs then literalBlock columns cs else doubleQuoted cs ++ "\n"
  else if cs.all isPrintable && isPlain cs && !readsOtherwise s then s ++ "\n"
  else if fitsSingleQuotes cs then singleQuoted columns cs ++ "\n"
  else doubleQuoted cs ++ "\n"

end Yaml

namespace Tree

def yamlIndent (columns : Nat) : String :=
  String.ofList (List.replicate columns ' ')

mutual

def yamlValue (columns : Nat) : Tree → String
  | number n => " " ++ toString n ++ "\n"
  | text s => " " ++ Yaml.scalarText (columns + 2) s
  | list [] => " []\n"
  | list (item :: items) => "\n" ++ yamlItems columns (item :: items)
  | record [] => " \x7b\x7d\n"
  | record (entry :: entries) => "\n" ++ yamlEntries (columns + 2) true (entry :: entries)

def yamlItems (columns : Nat) : List Tree → String
  | [] => ""
  | record (entry :: entries) :: items =>
    yamlIndent columns ++ "- " ++ yamlEntries (columns + 2) false (entry :: entries) ++
      yamlItems columns items
  | item :: items => yamlIndent columns ++ "-" ++ item.yamlValue columns ++ yamlItems columns items

def yamlEntries (columns : Nat) (indented : Bool) : List (String × Tree) → String
  | [] => ""
  | (key, value) :: entries =>
    (if indented then yamlIndent columns else "") ++ key ++ ":" ++ value.yamlValue columns ++
      yamlEntries columns true entries

end

end Tree

def Report.toYaml (r : Report) : String :=
  match Tree.ofReport r with
  | .record entries => Tree.yamlEntries 0 true entries
  | _ => ""

end ChartConfig
