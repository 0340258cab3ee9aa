import ChartConfig.Text.Comment

/-!
# Documents

A document is read twice over: as it is written, and with its comments overwritten and its ASCII letters in
lower case. The second reading has the same lines and columns as the first, and it is the one in which
keywords, headers and settings are recognised.
-/

namespace ChartConfig.Document

open Text

def lines (text : String) : List (List Char) :=
  splitLines text.toList

/-- The lines of a document without comments and in lower case. -/
def analysed (text : String) : List (List Char) :=
  (splitLines (eraseComments (normalizeBreaks text.toList))).map (·.map Char.toLower)

def ofLines (lines : List (List Char)) : String :=
  String.ofList (joinLines lines)

end ChartConfig.Document
