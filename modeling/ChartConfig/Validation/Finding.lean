import ChartConfig.Diagnostic
import ChartConfig.Language.Keyword
import ChartConfig.Log

/-!
# Findings

What a validation run brings to light, in the order of discovery: problems of the document, and notes on
the run itself. `EngineError` is for a run that cannot go on; none of its causes lies in a document.
-/

namespace ChartConfig

inductive Finding where
  | problem (d : Diagnostic)
  | note (n : Note)
  deriving Repr, DecidableEq, Inhabited

namespace Finding

def diagnostic? : Finding → Option Diagnostic
  | problem d => some d
  | note _ => none

def note? : Finding → Option Note
  | problem _ => none
  | note n => some n

def error (range : Range) (message : String) : Finding :=
  problem (.error range message)

def warning (range : Range) (message : String) : Finding :=
  problem (.warning range message)

def diagnostics (findings : List Finding) : List Diagnostic :=
  findings.filterMap diagnostic?

def notes (findings : List Finding) : List Note :=
  findings.filterMap note?

@[simp] theorem diagnostics_append (a b : List Finding) :
    diagnostics (a ++ b) = diagnostics a ++ diagnostics b := by
  simp [diagnostics]

end Finding

inductive EngineError where
  | alreadyProcessed
  /-- A keyword that closes nothing was taken for a terminator. -/
  | unhandledKeyword (keyword : Keyword)
  /-- A setting stands inside an `if`, but no condition is in force. -/
  | missingCondition (line : Nat)
  deriving Repr, DecidableEq, Inhabited

namespace EngineError

def message : EngineError → String
  | alreadyProcessed => "This validator has already processed a document"
  | unhandledKeyword k => "Keyword '" ++ k.name ++ "' reached a handler that does not accept it"
  | missingCondition line =>
    "A setting inside 'if' was found on line " ++ toString line ++ ", but no condition is active"

def code : EngineError → String
  | alreadyProcessed => "engine::already_processed"
  | unhandledKeyword _ => "engine::unhandled_keyword"
  | missingCondition _ => "engine::missing_condition"

def help : EngineError → Option String
  | alreadyProcessed => some "Create a new Validator for every document."
  | _ => none

end EngineError

structure Mention where
  name : String
  range : Range
  deriving Repr, DecidableEq, Inhabited

end ChartConfig
