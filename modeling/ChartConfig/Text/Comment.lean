import ChartConfig.Text.Lines

/-!
# Comments

A block comment runs from `/*` to the nearest `*/`, over any number of lines; one that is never closed
is plain text. A line whose first character other than a gap is `#` is a comment as a whole. Comments
are overwritten with spaces, line by line, so that everything else keeps its line and column.
-/

namespace ChartConfig.Text

/-- What stands for a character of a comment: a space, and for a line feed itself. -/
def blanked (c : Char) : Char :=
  if c = '\n' then '\n' else ' '

def closesComment : List Char → Bool
  | '*' :: '/' :: _ => true
  | _ :: cs => closesComment cs
  | [] => false

/-- Overwrites the block comments; `inside` tells whether the text starts within one. -/
def blankBlocks : (inside : Bool) → List Char → List Char
  | _, [] => []
  | true, '*' :: '/' :: cs => ' ' :: ' ' :: blankBlocks false cs
  | true, c :: cs => blanked c :: blankBlocks true cs
  | false, '/' :: '*' :: cs =>
    if closesComment cs then ' ' :: ' ' :: blankBlocks true cs
    else '/' :: '*' :: blankBlocks false cs
  | false, c :: cs => c :: blankBlocks false cs

/-- A line that starts, after gaps, with `#`. -/
def isCommentLine (line : List Char) : Bool :=
  (line.dropWhile fun c => c = ' ' || c = '\t').head? == some '#'

def blankCommentLine (line : List Char) : List Char :=
  if isCommentLine line then line.map blanked else line

/-- The text with its comments overwritten; block comments are found first. -/
def eraseComments (text : List Char) : List Char :=
  joinLines ((splitAtBreaks (blankBlocks false text)).map blankCommentLine)

end ChartConfig.Text
