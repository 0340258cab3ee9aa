import ChartConfig.Language.Assignment
import ChartConfig.Validation.State

/-!
# Assignments

What a line `name = value` does. In a section of tags the name is a tag. Elsewhere it must be a known
setting; the value must fit, and the setting must neither repeat nor contradict what the section has
declared. Names that the value uses are looked up or noted for later.
-/

namespace ChartConfig

open Text

namespace Assign

def hasSeveralWords (name : List Char) : Bool :=
  2 ≤ (splitBlanks name).length

/-- A tag that has the name of a setting, or several words. -/
def tag (r : Registry) (name : Piece) (range : Range) : List Finding :=
  (if (r.lookup name.word).isSome then
    [.problem (.information range (Message.tagIsSetting name.word))] else []) ++
  (if hasSeveralWords name.text then [.warning range (Message.tagWithBlanks name.word)] else [])

def candidates (r : Registry) (s : State) (name : String) : List String :=
  (if s.scope.name? == some "placeholders" then s.parameters else []) ++ r.displayNames ++
    s.names.all.filter (· != name)

/-- A name that no setting has. Keywords, columns of a table and, among placeholders, the parameters of the
    address are let pass. -/
def unknownSetting (r : Registry) (name : Piece) (range : Range) (s : State) : List Finding :=
  if Line.startsWithKeyword name.text || "column".toList.isPrefixOf name.text then []
  else if s.scope.name? == some "placeholders" &&
      s.parameters.contains (canonicalName name.word) then []
  else [.error range (Message.unknownAmong name.word (candidates r s name.word) r.measure)]

/-- Declares a setting that may not be repeated, in the branch in force if a condition is open. -/
def declare (setting : Setting) (name : String) (range : Range) : Step := fun s =>
  let answer (declared : Scope × Bool) : Except EngineError (State × List Finding) :=
    .ok ({ s with scope := declared.1 },
      if declared.2 then [] else [.problem (setting.repetition range name)])
  if s.blocks.isIn .ifBlock then
    match s.condition with
    | some branch => answer (s.scope.recordIn branch setting)
    | none => .error (.missingCondition range.start.line)
  else answer (s.scope.record setting)

/-- The words of template expressions that are no template variables. A word with a digit in it is
    arithmetic. -/
def templateWords (r : Registry) (number : Nat) (value : Piece) (s : State) : List Finding :=
  (Reference.templates value.text).flatMap fun body =>
    ((words body.text).filter fun w =>
        !w.text.any Char.isDigit && !s.names.template.contains w.word).map fun w =>
      .error ((w.shift (value.column + body.column)).range number)
        (Message.unknownAmong w.word s.names.template r.measure)

def addressParameters (value : Piece) : List String :=
  (Reference.parameters value.text).map fun p => canonicalName p.word

def known (r : Registry) (number : Nat) (line : List Char) (a : Assignment) (setting : Setting) :
    Step :=
  let name := a.name.word
  let range := a.name.range number
  .all [
    .report fun _ =>
      if hasSeveralWords a.name.text then [.warning range (Message.settingWithBlanks name)] else [],
    .update fun s => { s with scope := s.scope.addCounterpart r setting },
    if setting.multiLine then .skip else declare setting name range,
    .report fun _ =>
      -- a script on one line may be empty
      if setting.name == "script" then []
      else ((setting.check a.value.text range name).map Finding.problem).toList,
    .report fun s => s.scope.conflicts setting range,
    if setting.name == "urlparameters" then
      .update fun s => { s with parameters := addressParameters a.value }
    else .report (templateWords r number a.value),
    if setting.name == "alias" then .onAliases (·.declare number line) else .skip,
    .update fun s => { s with aliases := s.aliases.use number line }]

def step (r : Registry) (number : Nat) (line : List Char) (a : Assignment) : Step := fun s =>
  let range := a.name.range number
  if s.scope.holdsTags then .ok (s, tag r a.name range)
  else
    let s := { s with values := (canonicalName a.name.word, canonicalName a.value.word) :: s.values }
    match r.lookup a.name.word with
    | none => .ok (s, unknownSetting r a.name range s)
    | some setting => known r number line a setting s

def loopIdentifiers (r : Registry) (number : Nat) (line : List Char) (s : State) : List Finding :=
  (Reference.loopExpressions line).flatMap fun e =>
    ((Reference.identifiers e.text).filter fun i =>
        !i.isExempt && !s.names.contains i.piece.word).map fun i =>
      .error ((i.piece.shift e.column).range number)
        (Message.unknownAmong i.piece.word s.names.all r.measure)

end Assign

end ChartConfig
