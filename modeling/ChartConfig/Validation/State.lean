import ChartConfig.Language.Csv
import ChartConfig.Validation.Aliases
import ChartConfig.Validation.Blocks
import ChartConfig.Validation.Names
import ChartConfig.Validation.Scope

/-!
# The state of a run

Everything that a validation run remembers from one line to the next, and `Step`, a change of that state
that also brings findings to light. Steps are put one after another; the first that fails ends the run.
-/

namespace ChartConfig

structure State where
  blocks : Blocks := []
  scope : Scope := {}
  names : Names := {}
  aliases : Aliases := {}
  /-- Canonical values of the settings of the widget, by canonical name, the latest first. -/
  values : List (String × String) := []
  /-- Parameters of the latest address. -/
  parameters : List String := []
  csvColumns : Nat := 0
  /-- The latest branch of a condition. -/
  condition : Option Branch := none
  deriving Inhabited

abbrev Step := State → Except EngineError (State × List Finding)

namespace Step

def skip : Step :=
  fun s => .ok (s, [])

def update (f : State → State) : Step :=
  fun s => .ok (f s, [])

def report (f : State → List Finding) : Step :=
  fun s => .ok (s, f s)

def andThen (first second : Step) : Step := fun s =>
  match first s with
  | .error e => .error e
  | .ok (s, found) =>
    match second s with
    | .error e => .error e
    | .ok (s, more) => .ok (s, found ++ more)

def all (steps : List Step) : Step :=
  steps.foldr andThen skip

def onlyIf (p : State → Bool) (step : Step) : Step :=
  fun s => if p s then step s else skip s

def onNames (f : Names → Names × List Finding) : Step := fun s =>
  let (names, found) := f s.names
  .ok ({ s with names }, found)

def onAliases (f : Aliases → Aliases × List Finding) : Step := fun s =>
  let (aliases, found) := f s.aliases
  .ok ({ s with aliases }, found)

def judge (r : Registry) : Step := fun s =>
  let isNull (name : String) := tableValue? s.values name == some "null"
  let (scope, found) := s.scope.judge r (isNull "columnmetric" && isNull "columnvalue")
  .ok ({ s with scope }, found)

def openBlock (found : KeywordAt) : Step :=
  update fun s => { s with blocks := s.blocks ++ [found] }

def closeBlock (found : KeywordAt) : Step := fun s =>
  match s.blocks.close found with
  | .error e => .error e
  | .ok (blocks, problems) => .ok ({ s with blocks }, problems)

end Step

end ChartConfig
