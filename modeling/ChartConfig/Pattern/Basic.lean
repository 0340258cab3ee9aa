import ChartConfig.Text.Blank
import ChartConfig.Text.Case
import ChartConfig.Text.Word

/-!
# Patterns

Regular expressions as data, with the assertions for the start and the end of the text and for the edge
of a word. A pattern relates a place in a text to the places it can reach; since only the question
whether a text matches is ever asked, the set of reachable places is all there is to know.
-/

namespace ChartConfig

open Text

inductive CharSet where
  /-- Every character but the line feed. -/
  | any
  | full
  | digit
  | blank
  | word
  /-- The characters from `lo` to `hi`; `caseless` adds their variants of other case. -/
  | span (caseless : Bool) (lo hi : Char)
  | either (a b : CharSet)
  | other (a : CharSet)
  deriving Repr, DecidableEq, Inhabited

namespace CharSet

def has (c : Char) : CharSet → Bool
  | any => c != '\n'
  | full => true
  | digit => isDigit c
  | blank => isBlank c
  | word => isWord c
  | span false lo hi => lo ≤ c && c ≤ hi
  | span true lo hi => (caseVariants c).any fun v => lo ≤ v && v ≤ hi
  | either a b => a.has c || b.has c
  | other a => !a.has c

end CharSet

inductive Pattern where
  | empty
  | set (s : CharSet)
  | seq (a b : Pattern)
  | alt (a b : Pattern)
  | star (a : Pattern)
  | start
  | stop
  /-- Between a word character and a place without one. -/
  | edge
  | noEdge
  deriving Repr, DecidableEq, Inhabited

namespace Pattern

instance : Append Pattern := ⟨seq⟩

instance : OrOp Pattern := ⟨alt⟩

def char (c : Char) : Pattern :=
  set (.span false c c)

def span (lo hi : Char) : Pattern :=
  set (.span false lo hi)

def digit : Pattern :=
  set .digit

def all (ps : List Pattern) : Pattern :=
  ps.foldr seq empty

/-- One of the patterns; `none` of an empty list can match. -/
def oneOf : List Pattern → Pattern
  | [] => set (.other .full)
  | [p] => p
  | p :: ps => p ||| oneOf ps

def literal (text : String) : Pattern :=
  all (text.toList.map char)

def caseless (text : String) : Pattern :=
  all (text.toList.map fun c => set (.span true c c))

def optional (p : Pattern) : Pattern :=
  p ||| empty

def plus (p : Pattern) : Pattern :=
  p ++ star p

def times (p : Pattern) (n : Nat) : Pattern :=
  all (List.replicate n p)

def upTo (p : Pattern) : (n : Nat) → Pattern
  | 0 => empty
  | n + 1 => optional (p ++ upTo p n)

def between (p : Pattern) (n m : Nat) : Pattern :=
  times p n ++ upTo p (m - n)

def gaps : Pattern :=
  star (char ' ' ||| char '\t')

end Pattern

end ChartConfig
