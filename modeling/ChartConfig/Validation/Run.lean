import ChartConfig.Document
import ChartConfig.Registry.Builtin
import ChartConfig.Validation.Step

/-!
# Validation

A run reads the lines of a document once, from top to bottom, and then does the checks that need the whole
document. A `Validator` is good for one run.
-/

namespace ChartConfig

open Text

namespace Note

def validating (lines : Nat) : Note :=
  ⟨.debug, "Validating a document of " ++ toString lines ++ " lines"⟩

def validated (problems : Nat) : Note :=
  ⟨.debug, "Validation finished with " ++ toString problems ++ " diagnostics"⟩

end Note

def runLines (r : Registry) (lines : List (List Char)) : Except EngineError (List Finding) :=
  match ((Step.lines r 0 lines).andThen (Step.finish r)) {} with
  | .error e => .error e
  | .ok (_, found) =>
    .ok (.note (.validating lines.length) :: found ++
      [.note (.validated (Finding.diagnostics found).length)])

/-- A document that is to be validated once. -/
structure Validator where
  registry : Registry
  lines : List (List Char)
  used : Bool := false
  deriving Inhabited

namespace Validator

def new (text : String) (r : Registry) : Validator :=
  { registry := r, lines := Document.analysed text }

/-- Runs the validator; a second run is refused. -/
def run (v : Validator) : Except EngineError (List Finding) × Validator :=
  if v.used then (.error .alreadyProcessed, v)
  else (runLines v.registry v.lines, { v with used := true })

def runs (v : Validator) : (count : Nat) → List (Except EngineError (List Finding))
  | 0 => []
  | count + 1 => v.run.1 :: v.run.2.runs count

end Validator

def findings (text : String) (r : Registry) : Except EngineError (List Finding) :=
  (Validator.new text r).run.1

/-- The problems of a document, in the order of discovery. -/
def validate (text : String) (r : Registry) : Except EngineError (List Diagnostic) :=
  (findings text r).map Finding.diagnostics

end ChartConfig
