import ChartConfig.Text.Position

/-!
# Diagnostics

A diagnostic is a problem found in a document: where it is, how grave it is, and what to say about it.
-/

namespace ChartConfig

inductive Severity where
  | error
  | warning
  | information
  deriving Repr, DecidableEq, Inhabited

namespace Severity

def title : Severity → String
  | error => "Error"
  | warning => "Warning"
  | information => "Information"

def label : Severity → String
  | error => "error"
  | warning => "warning"
  | information => "information"

end Severity

structure Diagnostic where
  range : Range
  severity : Severity
  message : String
  deriving Repr, DecidableEq, Inhabited

namespace Diagnostic

def source : String := "Axibase Charts"

def error (range : Range) (message : String) : Diagnostic :=
  ⟨range, .error, message⟩

def warning (range : Range) (message : String) : Diagnostic :=
  ⟨range, .warning, message⟩

def information (range : Range) (message : String) : Diagnostic :=
  ⟨range, .information, message⟩

def display (d : Diagnostic) : String :=
  d.severity.label ++ " [" ++ d.range.display ++ "]: " ++ d.message

end Diagnostic

end ChartConfig
