import ChartConfig.Validation.Run

/-!
# Reports

The outcome of validating a document: its problems in the order of discovery, with the name and the text of
the document. `Tree` is the form in which a report is handed on as data.
-/

namespace ChartConfig

open Text

structure Report where
  fileName : String
  /-- The text of the document with line feeds for breaks. -/
  source : List Char
  diagnostics : List Diagnostic
  deriving Repr, Inhabited

namespace Report

def of (text fileName : String) (r : Registry) : Except EngineError Report :=
  (validate text r).map fun diagnostics => ⟨fileName, normalizeBreaks text.toList, diagnostics⟩

def count (report : Report) (severity : Severity) : Nat :=
  report.diagnostics.countP fun d => d.severity == severity

def hasErrors (report : Report) : Bool :=
  0 < report.count .error

end Report

inductive Tree where
  | number (n : Nat)
  | text (s : String)
  | list (items : List Tree)
  | record (entries : List (String × Tree))
  deriving Repr, Inhabited

namespace Tree

def ofPosition (p : Position) : Tree :=
  record [("line", number p.line), ("character", number p.character)]

def ofRange (r : Range) : Tree :=
  record [("start", ofPosition r.start), ("end", ofPosition r.stop)]

def ofDiagnostic (d : Diagnostic) : Tree :=
  record [("range", ofRange d.range), ("severity", text d.severity.title), ("message", text d.message),
    ("source", text Diagnostic.source)]

def ofReport (r : Report) : Tree :=
  record [("fileName", text r.fileName), ("diagnostics", list (r.diagnostics.map ofDiagnostic))]

end Tree

end ChartConfig
