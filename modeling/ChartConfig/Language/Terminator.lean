import ChartConfig.Language.Keyword

/-!
# Which openers need a terminator

`for`, `if`, `csv` and the alternatives always do. A `script` does unless it is written `script = …`, a
`var` when its value opens a bracket and is not finished on the line, and a `list` when the line ends
in the middle of an enumeration or the next line that is not blank goes on with it. Look-ahead is over
the lines that follow, given as a list.
-/

namespace ChartConfig

open Text

def firstNonBlankIndex? (lines : List (List Char)) : Option Nat :=
  lines.findIdx? fun line => !allBlank line

def firstNonBlank? (lines : List (List Char)) : Option (List Char) :=
  (firstNonBlankIndex? lines).bind fun i => lines[i]?

theorem firstNonBlank?_eq_find? (lines : List (List Char)) :
    firstNonBlank? lines = lines.find? fun line => !allBlank line := by
  induction lines with
  | nil => rfl
  | cons line rest inductionHypothesis =>
    rw [firstNonBlank?, firstNonBlankIndex?, List.findIdx?_cons, List.find?_cons, ← inductionHypothesis]
    cases !allBlank line with
    | true => rfl
    | false =>
      rw [if_neg Bool.false_ne_true, Option.bind_map]
      rfl

namespace Line

/-- `script = …` is complete on its own line. -/
def isOneLineScript (line : List Char) : Bool :=
  match ((Cursor.start line).skip isBlank).name with
  | none => false
  | some (word, cursor) =>
    sameFold word.text "script".toList && (cursor.skip isBlank).ahead.head? == some '='

/-- What follows an opening bracket leaves the value unfinished: nothing, or a text up to a comma. -/
def isUnfinished (rest : List Char) : Bool :=
  allBlank rest ||
    match (trimEnd rest).reverse with
    | ',' :: before => !before.contains '\n'
    | _ => false

/-- Some `=` is followed by a bracket that is left unfinished: `var name = [` or `var name = {a: 1,`. -/
def varNeedsEnd : List Char → Bool
  | [] => false
  | c :: cs =>
    (c == '=' &&
        match trimStart cs with
        | '[' :: rest => isUnfinished rest
        | '{' :: rest => isUnfinished rest
        | _ => false) ||
      varNeedsEnd cs

def listOpens (line : List Char) : Bool :=
  match line.reverse.dropWhile isGap with
  | c :: _ => c == '=' || c == ','
  | [] => false

/-- The line goes on with an enumeration: it starts with a comma, or holds the word `endlist`. -/
def listContinues (line : List Char) : Bool :=
  (line.dropWhile isGap).head? == some ',' ||
    (words line).any fun word => sameFold word.text Keyword.endList.name.toList

def listNeedsEnd (line : List Char) (following : List (List Char)) : Bool :=
  listOpens line ||
    match firstNonBlank? following with
    | some next => listContinues next
    | none => false

/-- The block that `line` opens expects a terminator in the lines that follow. -/
def needsTerminator (line : List Char) (following : List (List Char)) : Bool :=
  match keyword? line with
  | some .var => varNeedsEnd line
  | some .list => listNeedsEnd line following
  | some .script => !isOneLineScript line
  | some .forBlock | some .ifBlock | some .elseBlock | some .elseIf | some .csv => true
  | _ => false

end Line

end ChartConfig
