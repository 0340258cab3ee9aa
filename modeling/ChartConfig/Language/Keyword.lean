import ChartConfig.Text.Case
import ChartConfig.Text.Piece

/-!
# Keywords

A line may begin, after gaps, with a reserved word. Six of the words open a block, six close one, and
`else` and `elseif` both close a branch and open the next. Case carries no meaning: `keywordAt?` reads a
word that lowers to a keyword by the ASCII rules, and `leadsWith` compares by simple case folding, which
also takes the long s for an `s`.
-/

namespace ChartConfig

open Text

inductive Keyword where
  | importing
  | ifBlock
  | elseIf
  | elseBlock
  | endIf
  | forBlock
  | endFor
  | list
  | endList
  | var
  | endVar
  | csv
  | endCsv
  | script
  | endScript
  deriving Repr, DecidableEq, Inhabited

namespace Keyword

def all : List Keyword :=
  [importing, ifBlock, elseIf, elseBlock, endIf, forBlock, endFor, list, endList, var, endVar, csv,
    endCsv, script, endScript]

def name : Keyword → String
  | importing => "import"
  | ifBlock => "if"
  | elseIf => "elseif"
  | elseBlock => "else"
  | endIf => "endif"
  | forBlock => "for"
  | endFor => "endfor"
  | list => "list"
  | endList => "endlist"
  | var => "var"
  | endVar => "endvar"
  | csv => "csv"
  | endCsv => "endcsv"
  | script => "script"
  | endScript => "endscript"

def closes : Keyword → Option Keyword
  | endIf => some ifBlock
  | endFor => some forBlock
  | endList => some list
  | endVar => some var
  | endCsv => some csv
  | endScript => some script
  | _ => none

/-- Blocks that are open as soon as their keyword is seen; `list`, `var` and `script` open one only
    when they span several lines. -/
def alwaysNests : Keyword → Bool
  | ifBlock | forBlock | csv => true
  | _ => false

def isAlternative : Keyword → Bool
  | elseBlock | elseIf => true
  | _ => false

def isClosing (k : Keyword) : Bool :=
  k.closes.isSome || k.isAlternative

/-- Words after which the following lines may be indented one level deeper. -/
def opensLevel : Keyword → Bool
  | forBlock | ifBlock | elseBlock | elseIf | script | csv | var | list => true
  | _ => false

/-- The keyword that a word spells, whatever the case of its ASCII letters. -/
def ofWord? (word : List Char) : Option Keyword :=
  all.find? fun k => k.name.toList == word.map Char.toLower

end Keyword

structure KeywordAt where
  keyword : Keyword
  range : Range
  deriving Repr, DecidableEq, Inhabited

namespace Line

def leadingWord? (line : List Char) : Option Piece :=
  (((Cursor.start line).skip isGap).name).map Prod.fst

def keywordAt? (line : List Char) (number : Nat) : Option KeywordAt := do
  let word ← leadingWord? line
  let keyword ← Keyword.ofWord? word.text
  return ⟨keyword, word.range number⟩

def keyword? (line : List Char) : Option Keyword :=
  (keywordAt? line 0).map KeywordAt.keyword

/-- The leading word is, up to case folding, one of the keywords with `p`. -/
def leadsWith (p : Keyword → Bool) (line : List Char) : Bool :=
  match leadingWord? line with
  | none => false
  | some word => Keyword.all.any fun k => p k && sameFold word.text k.name.toList

def startsWithKeyword (line : List Char) : Bool :=
  leadsWith (fun _ => true) line

def isClosing (line : List Char) : Bool :=
  leadsWith Keyword.isClosing line

/-- The line begins a block or a branch that may need a terminator. -/
def opensLevel (line : List Char) : Bool :=
  leadsWith Keyword.opensLevel line

end Line

end ChartConfig
