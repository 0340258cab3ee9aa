import ChartConfig.Language.Reference
import ChartConfig.Message
import ChartConfig.Validation.Finding

/-!
# Aliases

A series may be given an alias, by which values of the same widget refer to it. Uses are looked up when the
widget ends, so an alias may be used before it is declared.
-/

namespace ChartConfig

open Text

structure Aliases where
  declared : List String := []
  uses : List Mention := []
  deriving Repr, DecidableEq, Inhabited

namespace Aliases

def declare (a : Aliases) (number : Nat) (line : List Char) : Aliases × List Finding :=
  match Line.aliasName? line with
  | none => (a, [])
  | some piece =>
    if a.declared.contains piece.word then
      (a, [.error (piece.range number) (Message.alreadyDefined piece.word)])
    else ({ a with declared := a.declared ++ [piece.word] }, [])

def use (a : Aliases) (number : Nat) (line : List Char) : Aliases :=
  { a with
    uses := a.uses ++ (Reference.aliasUses line).map fun p => ⟨p.word, p.range number⟩ }

def unresolved (a : Aliases) (measure : Measure) : List Finding :=
  (a.uses.filter fun m => !a.declared.contains m.name).map fun m =>
    .error m.range (Message.unknownAmong m.name a.declared measure)

end Aliases

end ChartConfig
