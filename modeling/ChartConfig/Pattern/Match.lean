import ChartConfig.Pattern.Basic

/-!
# Matching

`reach` lists the places at which a match that starts at a given place can end. Repetition goes on from
the places reached last as long as each round consumes something, so its rounds are bounded by the
characters ahead.
-/

namespace ChartConfig

open Text

/-- A place in a text: the characters passed so far, the last of them, and those ahead. -/
structure Spot where
  passed : Nat
  before : Option Char
  ahead : List Char
  deriving Repr, DecidableEq, Inhabited

namespace Spot

def atEdge (s : Spot) : Bool :=
  let word (c : Option Char) : Bool := match c with
    | some c => isWord c
    | none => false
  word s.before != word s.ahead.head?

def distinct (spots : List Spot) : List Spot :=
  (spots.foldl (fun kept s => if kept.any (·.passed == s.passed) then kept else s :: kept) []).reverse

/-- Everything that rounds of `next`, each of which consumes something, can reach from `spots`. -/
def closure (next : Spot → List Spot) : (rounds : Nat) → List Spot → List Spot
  | 0, spots => spots
  | rounds + 1, spots =>
    match distinct (spots.flatMap fun s => (next s).filter fun t => s.passed < t.passed) with
    | [] => spots
    | further => spots ++ closure next rounds further

end Spot

namespace Pattern

def reach : Pattern → Spot → List Spot
  | empty, s => [s]
  | set cs, s =>
    match s.ahead with
    | c :: rest => if cs.has c then [⟨s.passed + 1, some c, rest⟩] else []
    | [] => []
  | seq a b, s => (a.reach s).flatMap b.reach
  | alt a b, s => a.reach s ++ b.reach s
  | star a, s => Spot.closure a.reach s.ahead.length [s]
  | start, s => if s.passed = 0 then [s] else []
  | stop, s => if s.ahead.isEmpty then [s] else []
  | edge, s => if s.atEdge then [s] else []
  | noEdge, s => if s.atEdge then [] else [s]

def foundFrom (p : Pattern) : (passed : Nat) → (before : Option Char) → List Char → Bool
  | passed, before, [] => !(p.reach ⟨passed, before, []⟩).isEmpty
  | passed, before, c :: cs =>
    !(p.reach ⟨passed, before, c :: cs⟩).isEmpty || p.foundFrom (passed + 1) (some c) cs

def found (p : Pattern) (text : List Char) : Bool :=
  p.foundFrom 0 none text

def whole (p : Pattern) (text : List Char) : Bool :=
  (p.reach ⟨0, none, text⟩).any fun s => s.ahead.isEmpty

end Pattern

end ChartConfig
