import ChartConfig.Decimal.Text
import ChartConfig.Diagnostic
import ChartConfig.Message
import ChartConfig.Setting.Basic
import ChartConfig.Setting.Value

/-!
# Checking values

Whether a value fits the type of its setting, and what to say if it does not. A `Fault` is the reason; its
message quotes the name as the user wrote it.
-/

namespace ChartConfig

open Text

inductive Fault where
  | empty
  | notNumber
  | notInteger
  | below (bound : Float)
  | above (bound : Float)
  | notBoolean
  | notChosen
  /-- An interval given as a bare number of seconds. -/
  | bareSeconds
  | notInterval
  | notDate
  deriving Repr

namespace Fault

/-- Every fault is an error but the interval in seconds, which was once allowed. -/
def severity : Fault → Severity
  | bareSeconds => .warning
  | _ => .error

/-- The text with every `\d+`, which stands for a number, shown as a placeholder. -/
def showPlaceholders : List Char → List Char
  | [] => []
  | '\\' :: 'd' :: '+' :: cs => "\x7bnum\x7d".toList ++ showPlaceholders cs
  | c :: cs => c :: showPlaceholders cs

def intervalHint (s : Setting) : String :=
  ".\nFor example, " ++ s.sample ++ ". Supported units:\n * " ++
    "\n * ".intercalate Value.intervalUnits

def message (s : Setting) (name : String) : Fault → String
  | empty => name ++ " can not be empty"
  | notNumber =>
    name ++ " should be a real (floating-point) number. For example, " ++ s.sample
  | notInteger => name ++ " should be an integer number. For example, " ++ s.sample
  | below bound => name ++ " should be greater than or equal to " ++ Decimal.render bound
  | above bound => name ++ " should be less than or equal to " ++ Decimal.render bound
  | notBoolean => name ++ " should be a boolean value. For example, " ++ s.sample
  | notChosen =>
    name ++ " must be one of:\n" ++
      String.ofList (showPlaceholders (";\n".intercalate (s.choices.map Choice.text)).toList)
  | bareSeconds =>
    "Specifying the interval in seconds is deprecated.\nUse `count unit` format" ++ intervalHint s
  | notInterval => name ++ " should be set as `count unit`" ++ intervalHint s
  | notDate => name ++ " should be a date. For example, " ++ s.sample

end Fault

namespace Setting

/-- The setting whose interval was once given in seconds. -/
def updateInterval : String := "updateinterval"

/-- The fault of a number outside the bounds. Digits of other scripts are not evaluated. -/
def boundsFault? (s : Setting) (value : List Char) : Option Fault := do
  let number ← Decimal.read? value
  match s.minValue, s.maxValue with
  | some least, some most =>
    if number < least then return .below least
    else if most < number then return .above most
    else none
  | some least, none => if number < least then return .below least else none
  | none, some most => if most < number then return .above most else none
  | none, none => none

def plainFault? (s : Setting) (value : List Char) : Option Fault :=
  match s.type with
  | .string => if allBlank value then some .empty else none
  | .number => if Value.isNumber value then s.boundsFault? value else some .notNumber
  | .integer => if Value.isInteger value then s.boundsFault? value else some .notInteger
  | .boolean => if Value.isBoolean value then none else some .notBoolean
  | .enum => if s.choices.any (·.allows value) then none else some .notChosen
  | .interval =>
    if Value.isInterval value then none
    else if s.name == updateInterval && Value.isDigits value then some .bareSeconds
    else some .notInterval
  | .date => if Value.isDate value then none else some .notDate

/-- The fault of a value. A value computed when the chart is drawn has none. -/
def fault? (s : Setting) (value : List Char) : Option Fault :=
  if Value.isCalculated value then none else s.plainFault? value

def check (s : Setting) (value : List Char) (range : Range) (name : String) : Option Diagnostic :=
  (s.fault? value).map fun fault => ⟨range, fault.severity, fault.message s name⟩

/-- The problem with a setting that is declared twice in one section. Three settings that were once
    repeated on purpose get a hint. -/
def repetition (s : Setting) (range : Range) (name : String) : Diagnostic :=
  if s.name == "script" then .warning range Message.repeatedScript
  else if s.name == "thresholds" then .warning range Message.repeatedThresholds
  else if s.name == "colors" then .warning range Message.repeatedColors
  else .error range (Message.alreadyDefined name)

end Setting

end ChartConfig
