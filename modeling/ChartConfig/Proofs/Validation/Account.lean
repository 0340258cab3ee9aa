import ChartConfig.Proofs.Validation.FirstLines
import ChartConfig.Proofs.Validation.Naming

/-!
# An account of a run

The diagnostics of a run tell neither which check they come from nor which checks had nothing to say. The account of a
run does: it lists, in order, the sections that are judged, the words that are looked up in vain with the names among
which they were looked for, the aliases that are declared again, and what else is told. It is read off the states that
the run goes through, and the diagnostics of the run are exactly those of its account.
-/

namespace ChartConfig

open Text Finding

/-! ## Acts -/

/-- What a word is looked up as. -/
inductive Lookup where
  | sectionName
  | settingName
  | templateWord
  | templateCollection
  | aliasUse
  | loopWord
  | loopCollection
  deriving Repr, DecidableEq, Inhabited

/-- A word that was looked up in vain, where it stands, and the names among which it was looked for. -/
structure Miss where
  word : String
  range : Range
  candidates : List String
  deriving Repr, DecidableEq, Inhabited

def Miss.diagnostic (measure : Measure) (m : Miss) : Diagnostic :=
  .error m.range (Message.unknownAmong m.word m.candidates measure)

/-- A section whose slots were looked at, all of them and those that nothing fills. -/
structure Judgement where
  header : Header
  slots : List Slot
  missing : List Slot
  deriving Repr, DecidableEq, Inhabited

/-- One thing that a run does besides remembering. -/
inductive Act where
  | judges (j : Judgement)
  | misses (kind : Lookup) (m : Miss)
  | repeatsAlias (m : Mention)
  | tells (found : List Finding)
  deriving Repr, Inhabited

namespace Act

def said (r : Registry) : Act → List Diagnostic
  | judges j => r.demandsFor j.header.range j.missing
  | misses _ m => [m.diagnostic r.measure]
  | repeatsAlias m => [.error m.range (Message.alreadyDefined m.name)]
  | tells found => diagnostics found

@[simp] theorem said_judges {r : Registry} {j : Judgement} :
    (judges j).said r = r.demandsFor j.header.range j.missing :=
  rfl

@[simp] theorem said_tells {r : Registry} {found : List Finding} : (tells found).said r = diagnostics found :=
  rfl

@[simp] theorem said_misses {r : Registry} {kind : Lookup} {ms : List Miss} :
    (ms.map (misses kind)).flatMap (said r) = ms.map (Miss.diagnostic r.measure) := by
  induction ms with
  | nil => rfl
  | cons m ms inductionHypothesis => simp [said, inductionHypothesis]

end Act

@[simp] theorem Finding.diagnostics_map_error {α : Type} (range : α → Range) (message : α → String)
    (xs : List α) : diagnostics (xs.map fun x => .error (range x) (message x)) =
      xs.map fun x => Diagnostic.error (range x) (message x) := by
  induction xs with
  | nil => rfl
  | cons x xs inductionHypothesis => simpa [diagnostics, diagnostic?, error] using inductionHypothesis

/-! ## What is judged, looked up and repeated -/

/-- The section that would be judged now: the current one, unless that was done before. -/
def Ledger.judgement? (l : Ledger) (r : Registry) : Option Judgement :=
  if l.scope.judged then none
  else l.scope.current.map fun h =>
    { header := h
      slots := r.slotsOf h.name ++ l.scope.extraSlots
      missing := (r.slotsOf h.name ++ l.scope.extraSlots).filter fun slot =>
        !l.scope.satisfies l.waived (r.ancestors h.name) slot }

theorem Ledger.judgement?_eq_some {l : Ledger} {r : Registry} {j : Judgement} (judged : l.judgement? r = some j) :
    l.scope.judged = false ∧ l.scope.current = some j.header ∧ ∀ slot, slot ∈ j.missing ↔
      slot ∈ j.slots ∧ l.scope.satisfies l.waived (r.ancestors j.header.name) slot = false := by
  unfold judgement? at judged
  split at judged
  · cases judged
  · next waits =>
    obtain ⟨h, isCurrent, rfl⟩ := Option.map_eq_some_iff.mp judged
    refine ⟨Bool.eq_false_iff.mpr waits, isCurrent, fun slot => ?_⟩
    rw [List.mem_filter, Bool.not_eq_true']

theorem Ledger.diagnostics_verdict (l : Ledger) (r : Registry) :
    diagnostics (l.verdict r) = ((l.judgement? r).toList.map Act.judges).flatMap (Act.said r) := by
  unfold verdict judgement? Scope.judge
  cases l.scope.judged with
  | true => rfl
  | false =>
    cases l.scope.current with
    | none => rfl
    | some h => simp [diagnostics_missing]

def Header.misses (h : Header) : List Miss :=
  if Registry.isSection h.name then [] else [⟨h.name, h.range, Section.known⟩]

namespace Aliases

def misses (a : Aliases) : List Miss :=
  (a.uses.filter fun m => !a.declared.contains m.name).map fun m => ⟨m.name, m.range, a.declared⟩

def repeated (a : Aliases) (number : Nat) (line : List Char) : List Mention :=
  ((Line.aliasName? line).filter fun p => a.declared.contains p.word).toList.map fun p => ⟨p.word, p.range number⟩

theorem diagnostics_unresolved (a : Aliases) (measure : Measure) :
    diagnostics (a.unresolved measure) = a.misses.map (Miss.diagnostic measure) := by
  simp [unresolved, misses, Miss.diagnostic]

theorem diagnostics_declare (r : Registry) (a : Aliases) (number : Nat) (line : List Char) :
    diagnostics (a.declare number line).2 = ((a.repeated number line).map Act.repeatsAlias).flatMap (Act.said r) := by
  unfold declare repeated
  cases Line.aliasName? line with
  | none => rfl
  | some p =>
    by_cases known : p.word ∈ a.declared <;>
      simp [known, Act.said, diagnostics, diagnostic?, error, Option.filter]

end Aliases

namespace Names

def misses (n : Names) : List Miss :=
  (n.pending.filter fun m => !n.contains m.name).map fun m => ⟨m.name, m.range, n.all⟩

theorem diagnostics_unresolved (n : Names) (measure : Measure) :
    diagnostics (n.unresolved measure) = n.misses.map (Miss.diagnostic measure) := by
  simp [unresolved, misses, Miss.diagnostic]

def templateMisses (n : Names) (number : Nat) (d : TemplateDeclaration) : List Miss :=
  (d.collection.filter fun p => !n.template.contains p.word).toList.map fun p => ⟨p.word, p.range number, n.template⟩

theorem diagnostics_declareTemplate (n : Names) (measure : Measure) (number : Nat) (d : TemplateDeclaration) :
    diagnostics (n.declareTemplate measure number d).2 = (n.templateMisses number d).map (Miss.diagnostic measure) := by
  unfold declareTemplate templateMisses
  simp only [declare, admits, beq_self_eq_true, Bool.true_or, if_true, List.append_nil]
  cases d.collection with
  | none => rfl
  | some p =>
    by_cases known : p.word ∈ n.template <;>
      simp [known, Miss.diagnostic, diagnostics, diagnostic?, error, Option.filter]

end Names

namespace Assign

def settingMisses (r : Registry) (name : Piece) (range : Range) (s : State) : List Miss :=
  if Line.startsWithKeyword name.text || "column".toList.isPrefixOf name.text then []
  else if s.scope.name? == some "placeholders" && s.parameters.contains (canonicalName name.word) then []
  else [⟨name.word, range, candidates r s name.word⟩]

theorem diagnostics_unknownSetting (r : Registry) (name : Piece) (range : Range) (s : State) :
    diagnostics (unknownSetting r name range s) = (settingMisses r name range s).map (Miss.diagnostic r.measure) := by
  unfold unknownSetting settingMisses
  split
  · rfl
  · split <;> rfl

def templateMisses (number : Nat) (value : Piece) (n : Names) : List Miss :=
  (Reference.templates value.text).flatMap fun body =>
    ((words body.text).filter fun w => !w.text.any Char.isDigit && !n.template.contains w.word).map fun w =>
      ⟨w.word, (w.shift (value.column + body.column)).range number, n.template⟩

theorem diagnostics_templateWords (r : Registry) (number : Nat) (value : Piece) (s : State) :
    diagnostics (templateWords r number value s) =
      (templateMisses number value s.names).map (Miss.diagnostic r.measure) := by
  simp only [templateWords, templateMisses, List.map_flatMap, List.map_map]
  induction Reference.templates value.text with
  | nil => rfl
  | cons body bodies inductionHypothesis =>
    rw [List.flatMap_cons, diagnostics_append, inductionHypothesis, List.flatMap_cons, diagnostics_map_error]
    rfl

def loopMisses (number : Nat) (line : List Char) (n : Names) : List Miss :=
  (Reference.loopExpressions line).flatMap fun e =>
    ((Reference.identifiers e.text).filter fun i => !i.isExempt && !n.contains i.piece.word).map fun i =>
      ⟨i.piece.word, (i.piece.shift e.column).range number, n.all⟩

theorem diagnostics_loopIdentifiers (r : Registry) (number : Nat) (line : List Char) (s : State) :
    diagnostics (loopIdentifiers r number line s) =
      (loopMisses number line s.names).map (Miss.diagnostic r.measure) := by
  simp only [loopIdentifiers, loopMisses, List.map_flatMap, List.map_map]
  induction Reference.loopExpressions line with
  | nil => rfl
  | cons e es inductionHypothesis =>
    rw [List.flatMap_cons, diagnostics_append, inductionHypothesis, List.flatMap_cons, diagnostics_map_error]
    rfl

/-- What the assignment of a known setting tells before it looks at the names in its value. -/
def declaring (r : Registry) (number : Nat) (a : Assignment) (setting : Setting) : Step :=
  .all [
    .report fun _ =>
      if hasSeveralWords a.name.text then
        [.warning (a.name.range number) (Message.settingWithBlanks a.name.word)]
      else [],
    .update fun s => { s with scope := s.scope.addCounterpart r setting },
    if setting.multiLine then .skip else declare setting a.name.word (a.name.range number),
    .report fun _ =>
      if setting.name == "script" then []
      else ((setting.check a.value.text (a.name.range number) a.name.word).map Finding.problem).toList,
    .report fun s => s.scope.conflicts setting (a.name.range number)]

def naming (r : Registry) (number : Nat) (line : List Char) (a : Assignment) (setting : Setting) : Step :=
  .all [
    if setting.name == "urlparameters" then
      .update fun s => { s with parameters := addressParameters a.value }
    else .report (templateWords r number a.value),
    if setting.name == "alias" then .onAliases (·.declare number line) else .skip,
    .update fun s => { s with aliases := s.aliases.use number line }]

end Assign

namespace Step

def found (step : Step) (s : State) : List Finding :=
  match step s with
  | .ok (_, found) => found
  | .error _ => []

/-- The state after the step; a step that fails leaves the state as it is. -/
def after (step : Step) (s : State) : State :=
  match step s with
  | .ok (after, _) => after
  | .error _ => s

theorem all_append (steps more : List Step) (s : State) : all (steps ++ more) s = (all steps).andThen (all more) s := by
  induction steps generalizing s with
  | nil =>
    simp only [List.nil_append, all, List.foldr_nil, andThen, skip]
    cases List.foldr andThen skip more s with
    | error e => rfl
    | ok result => rfl
  | cons step steps inductionHypothesis =>
    change (step.andThen (all (steps ++ more))) s = ((step.andThen (all steps)).andThen (all more)) s
    rw [andThen_assoc]
    simp only [andThen]
    cases step s with
    | error e => rfl
    | ok result => simp only [inductionHypothesis, andThen]

end Step

theorem Assign.known_eq (r : Registry) (number : Nat) (line : List Char) (a : Assignment) (setting : Setting)
    (s : State) : known r number line a setting s =
      ((declaring r number a setting).andThen (naming r number line a setting)) s :=
  Step.all_append [_, _, _, _, _] [_, _, _] s

/-! ## The acts of a line -/

namespace State

variable (s : State) (r : Registry) (number : Nat) (line : List Char)

def setting? : Option (Assignment × Setting) :=
  if s.scope.holdsTags then none
  else (Line.assignment? line).bind fun a => (r.lookup a.name.word).map fun setting => (a, setting)

def aliasesAfter : Aliases :=
  match Line.header? line number with
  | some h => if occursIn "widget".toList h.name.toList then {} else s.aliases
  | none =>
    match s.setting? r line with
    | some (_, setting) =>
      (if setting.name == "alias" then (s.aliases.declare number line).1 else s.aliases).use number line
    | none => s.aliases

def parametersAfter : List String :=
  match Line.header? line number with
  | some _ => s.parameters
  | none =>
    match s.setting? r line with
    | some (a, setting) =>
      if setting.name == "urlparameters" then Assign.addressParameters a.value else s.parameters
    | none => s.parameters

def judgementActs : List Act :=
  (s.ledger.judgement? r).toList.map .judges

def sectionActs (h : Header) : List Act :=
  h.misses.map (.misses .sectionName) ++ s.judgementActs r ++
    (if occursIn "widget".toList h.name.toList then s.aliases.misses.map (.misses .aliasUse) else []) ++
    [.tells (if h.name == "tag" then [.warning h.range Message.deprecatedTagSection] else [])]

def settingActs (a : Assignment) (setting : Setting) : List Act :=
  .tells ((Assign.declaring r number a setting).found s) ::
    ((if setting.name == "urlparameters" then []
      else (Assign.templateMisses number a.value s.names).map (.misses .templateWord)) ++
    if setting.name == "alias" then (s.aliases.repeated number line).map .repeatsAlias else [])

/-- The state in which a setting is looked at: its value has been noted. -/
def noting (a : Assignment) : State :=
  { s with values := (canonicalName a.name.word, canonicalName a.value.word) :: s.values }

def assignmentActs (a : Assignment) : List Act :=
  (if s.scope.holdsTags then [.tells (Assign.tag r a.name (a.name.range number))]
    else match r.lookup a.name.word with
      | none => (Assign.settingMisses r a.name (a.name.range number) s).map (.misses .settingName)
      | some setting => (s.noting a).settingActs r number line a setting) ++
    if s.blocks.isIn .forBlock then (Assign.loopMisses number line s.names).map (.misses .loopWord) else []

def plainActs : List Act :=
  (Line.assignment? line).elim [] (s.assignmentActs r number line) ++
    (Line.templateDeclaration? line).elim []
      (fun d => (s.names.templateMisses number d).map (.misses .templateCollection)) ++
    [.tells ((Line.unclosedHeader? line number).elim [] fun h => [.error h.range Message.unclosedHeader])]

def contentActs : List Act :=
  .tells ((Step.templateMark number line).found s) ::
    match Line.header? line number with
    | some h => s.sectionActs r h
    | none => if allBlank line && s.scope.name? == some "tags" then s.judgementActs r else s.plainActs r number line

def lineActs (following : List (List Char)) : List Act :=
  if s.blocks.inBody .script .endScript (Line.keyword? line) then []
  else if s.blocks.inBody .csv .endCsv (Line.keyword? line) then [.tells ((Step.tableRow number line).found s)]
  else
    s.contentActs r number line ++
      (Line.keywordAt? line number).elim [] fun found =>
        [.tells ((Step.keywordLine number line following found).found ((Step.content r number line).after s))]

def lastActs : List Act :=
  s.aliases.misses.map (.misses .aliasUse) ++ [.tells s.blocks.leftOpen] ++ s.judgementActs r ++
    s.names.misses.map (.misses .loopCollection)

end State

def Step.acts (r : Registry) : (number : Nat) → List (List Char) → State → List Act
  | _, [], s => s.lastActs r
  | number, line :: following, s =>
    s.lineActs r number line following ++
      acts r (number + 1) following ((Step.line r number line following).after s)

/-- All that a run over a document does, in order. -/
def Document.acts (r : Registry) (text : String) : List Act :=
  Step.acts r 0 (analysed text) {}

/-! ## What can happen on a line -/

namespace State

section

variable (s : State) (r : Registry) (number : Nat) (line : List Char) (following : List (List Char))

/-- A word that is looked up in vain when the line is read. -/
inductive MissesOn : Lookup → Miss → Prop
  | sectionName {h : Header} {m : Miss} (headed : Line.header? line number = some h) (missed : m ∈ h.misses) :
      MissesOn .sectionName m
  | aliasUse {m : Miss} (missed : m ∈ s.aliases.misses) : MissesOn .aliasUse m
  | settingName {a : Assignment} {m : Miss} (assigned : Line.assignment? line = some a)
      (unknown : r.lookup a.name.word = none) (missed : m ∈ Assign.settingMisses r a.name (a.name.range number) s) :
      MissesOn .settingName m
  | templateWord {a : Assignment} {m : Miss} (assigned : Line.assignment? line = some a)
      (missed : m ∈ Assign.templateMisses number a.value s.names) : MissesOn .templateWord m
  | templateCollection {d : TemplateDeclaration} {m : Miss} (declared : Line.templateDeclaration? line = some d)
      (missed : m ∈ s.names.templateMisses number d) : MissesOn .templateCollection m
  | loopWord {m : Miss} (missed : m ∈ Assign.loopMisses number line s.names) : MissesOn .loopWord m

inductive TellsOn : List Finding → Prop
  | templateMark : TellsOn ((Step.templateMark number line).found s)
  | tableRow : TellsOn ((Step.tableRow number line).found s)
  | heading {h : Header} (headed : Line.header? line number = some h) :
      TellsOn (if h.name == "tag" then [.warning h.range Message.deprecatedTagSection] else [])
  | tag (a : Assignment) : TellsOn (Assign.tag r a.name (a.name.range number))
  | setting (a : Assignment) (setting : Setting) :
      TellsOn ((Assign.declaring r number a setting).found (s.noting a))
  | unclosedHeader :
      TellsOn ((Line.unclosedHeader? line number).elim [] fun h => [.error h.range Message.unclosedHeader])
  | keyword {found : KeywordAt} (isKeyword : Line.keywordAt? line number = some found) (between : State) :
      TellsOn ((Step.keywordLine number line following found).found between)

/-- One of the things that can happen on a line. Words are only looked up on lines that are read. -/
inductive Does : Act → Prop
  | judges {j : Judgement} (judged : s.ledger.judgement? r = some j) : Does (.judges j)
  | misses {kind : Lookup} {m : Miss} (isRead : s.control.reads line = true)
      (missed : s.MissesOn r number line kind m) : Does (.misses kind m)
  | repeatsAlias {m : Mention} (repeated : m ∈ s.aliases.repeated number line) : Does (.repeatsAlias m)
  | tells {found : List Finding} (told : s.TellsOn r number line following found) : Does (.tells found)

end

variable {s : State} {r : Registry} {number : Nat} {line : List Char} {following : List (List Char)} {act : Act}

theorem does_misses {kind : Lookup} {ms : List Miss} (isRead : s.control.reads line = true)
    (missed : ∀ m ∈ ms, s.MissesOn r number line kind m) (member : act ∈ ms.map (.misses kind)) :
    s.Does r number line following act := by
  obtain ⟨m, isMiss, rfl⟩ := List.mem_map.mp member
  exact .misses isRead (missed m isMiss)

theorem does_judgementActs (member : act ∈ s.judgementActs r) : s.Does r number line following act := by
  obtain ⟨j, judged, rfl⟩ := List.mem_map.mp member
  exact .judges (Option.mem_toList.mp judged)

theorem does_sectionActs {h : Header} (isRead : s.control.reads line = true)
    (headed : Line.header? line number = some h) (member : act ∈ s.sectionActs r h) :
    s.Does r number line following act := by
  simp only [sectionActs, List.mem_append, List.mem_singleton] at member
  obtain ((unknown | judged) | aliases) | rfl := member
  · exact does_misses isRead (fun m => .sectionName headed) unknown
  · exact does_judgementActs judged
  · split at aliases
    · exact does_misses isRead (fun m => .aliasUse) aliases
    · cases aliases
  · exact .tells (.heading headed)

theorem does_settingActs {a : Assignment} {setting : Setting} (isRead : s.control.reads line = true)
    (assigned : Line.assignment? line = some a) (member : act ∈ (s.noting a).settingActs r number line a setting) :
    s.Does r number line following act := by
  rcases List.mem_cons.mp member with rfl | named
  · exact .tells (.setting a setting)
  rcases List.mem_append.mp named with words | repeated
  · split at words
    · cases words
    · exact does_misses isRead (fun m => .templateWord assigned) words
  · split at repeated
    · obtain ⟨m, isRepeated, rfl⟩ := List.mem_map.mp repeated
      exact .repeatsAlias isRepeated
    · cases repeated

theorem does_assignmentActs {a : Assignment} (isRead : s.control.reads line = true)
    (assigned : Line.assignment? line = some a) (member : act ∈ s.assignmentActs r number line a) :
    s.Does r number line following act := by
  rcases List.mem_append.mp member with sets | looping
  · split at sets
    · cases List.mem_singleton.mp sets
      exact .tells (.tag a)
    · split at sets
      · next unknown => exact does_misses isRead (fun m => .settingName assigned unknown) sets
      · exact does_settingActs isRead assigned sets
  · split at looping
    · exact does_misses isRead (fun m => .loopWord) looping
    · cases looping

theorem does_plainActs (isRead : s.control.reads line = true) (member : act ∈ s.plainActs r number line) :
    s.Does r number line following act := by
  simp only [plainActs, List.mem_append, List.mem_singleton] at member
  obtain (assigned | declared) | rfl := member
  · cases isAssigned : Line.assignment? line with
    | none => simp [isAssigned] at assigned
    | some a =>
      rw [isAssigned] at assigned
      exact does_assignmentActs isRead isAssigned assigned
  · cases isDeclared : Line.templateDeclaration? line with
    | none => simp [isDeclared] at declared
    | some d =>
      rw [isDeclared] at declared
      exact does_misses isRead (fun m => .templateCollection isDeclared) declared
  · exact .tells .unclosedHeader

theorem does_contentActs (isRead : s.control.reads line = true) (member : act ∈ s.contentActs r number line) :
    s.Does r number line following act := by
  rcases List.mem_cons.mp member with rfl | rest
  · exact .tells .templateMark
  split at rest
  · next h headed => exact does_sectionActs isRead headed rest
  · split at rest
    · exact does_judgementActs rest
    · exact does_plainActs isRead rest

theorem does_lineActs (member : act ∈ s.lineActs r number line following) : s.Does r number line following act := by
  unfold lineActs at member
  -- Nothing happens in the body of a script, and in that of a table the cells of a row are counted.
  split at member
  · cases member
  · next script =>
    split at member
    · cases List.mem_singleton.mp member
      exact .tells .tableRow
    · next table =>
      have isRead : s.control.reads line = true := by simp [Control.reads, State.control, script, table]
      rcases List.mem_append.mp member with content | keyword
      · exact does_contentActs isRead content
      · cases isFound : Line.keywordAt? line number with
        | none => simp [isFound] at keyword
        | some found =>
          rw [isFound] at keyword
          cases List.mem_singleton.mp keyword
          exact .tells (.keyword isFound _)

end State

end ChartConfig
