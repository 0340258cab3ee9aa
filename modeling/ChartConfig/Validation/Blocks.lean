import ChartConfig.Validation.Finding

/-!
# Open blocks

The keywords whose blocks are open, in the order in which they were opened. A terminator closes the last
one if it fits; if it does not, the first block of its kind is closed instead and the disorder reported.
-/

namespace ChartConfig

/-- The blocks that are open, the outermost first. -/
abbrev Blocks := List KeywordAt

namespace Blocks

def isIn (blocks : Blocks) (keyword : Keyword) : Bool :=
  blocks.any fun b => b.keyword == keyword

def innermost? (blocks : Blocks) : Option Keyword :=
  blocks.getLast?.map KeywordAt.keyword

/-- A line with the given keyword lies in the body of a block: the block is open and the keyword does not
    close it. -/
def inBody (blocks : Blocks) (opener terminator : Keyword) (found : Option Keyword) : Bool :=
  blocks.isIn opener && found != some terminator

def closedEarly (opener inner : Keyword) : String :=
  opener.name ++ " has finished before " ++ inner.name

def noOpener (found opener : Keyword) : String :=
  found.name ++ " has no matching " ++ opener.name

def startedEarly (found inner : Keyword) : String :=
  found.name ++ " has started before " ++ inner.name ++ " has finished"

def noTerminator (opener : Keyword) : String :=
  opener.name ++ " has no matching end" ++ opener.name

def close (blocks : Blocks) (found : KeywordAt) : Except EngineError (Blocks × List Finding) :=
  match found.keyword.closes with
  | none => .error (.unhandledKeyword found.keyword)
  | some opener =>
    match blocks.innermost? with
    | none => .ok (blocks, [.error found.range (noOpener found.keyword opener)])
    | some inner =>
      if inner == opener then .ok (blocks.dropLast, [])
      else if blocks.isIn opener then
        .ok (blocks.eraseP (·.keyword == opener), [.error found.range (closedEarly opener inner)])
      else .ok (blocks, [.error found.range (noOpener found.keyword opener)])

def alternative (blocks : Blocks) (found : KeywordAt) : List Finding :=
  if !blocks.isIn .ifBlock then [.error found.range (noOpener found.keyword .ifBlock)]
  else
    match blocks.innermost? with
    | some inner =>
      if inner == .ifBlock then [] else [.error found.range (startedEarly found.keyword inner)]
    | none => []

def leftOpen (blocks : Blocks) : List Finding :=
  blocks.map fun b => .error b.range (noTerminator b.keyword)

end Blocks

end ChartConfig
