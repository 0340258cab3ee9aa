/-!
# Notes

What the library remarks on while it works, for whoever follows a run. A note has a level and a text and
changes no result.
-/

namespace ChartConfig

inductive Level where
  | warn
  | debug
  | trace
  deriving Repr, DecidableEq, Inhabited

def Level.name : Level → String
  | .warn => "WARN"
  | .debug => "DEBUG"
  | .trace => "TRACE"

structure Note where
  level : Level
  text : String
  deriving Repr, DecidableEq, Inhabited

def Note.display (n : Note) : String :=
  n.level.name ++ " " ++ n.text

end ChartConfig
