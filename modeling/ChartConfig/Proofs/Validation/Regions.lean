import ChartConfig.Proofs.Validation.Performance

/-!
# The regions of aliases

Headers of widgets cut a document into regions. Within a region it matters neither where an alias is declared nor where
it is used: the uses that are unknown when the region ends are those of names that no line of the region declares.
-/

namespace ChartConfig

open Text Finding

/-! ## Lines and their sections -/

structure Sections where
  current : Option Header := none
  previous : Option Header := none
  deriving Repr, DecidableEq, Inhabited

/-- A line that is read, and the section in which it stands. -/
structure SectionLine where
  reading : Reading
  sections : Sections
  deriving Repr, Inhabited

namespace Sections

/-- The sections after a line: a header begins one, and a blank line among tags goes back to the one before. -/
def next (s : Sections) (x : Reading) : Sections :=
  match Line.header? x.line x.number with
  | some h => ⟨some h, s.current⟩
  | none =>
    if allBlank x.line && s.current.map Header.name == some "tags" then ⟨s.previous.or s.current, s.previous⟩ else s

def place (s : Sections) : List Reading → List SectionLine
  | [] => []
  | x :: xs => ⟨x, s⟩ :: (s.next x).place xs

end Sections

def Scope.sections (s : Scope) : Sections :=
  ⟨s.current, s.previous⟩

namespace Scope

variable {r : Registry}

theorem sections_of_sameSection {s after : Scope} (same : SameSection s after) : after.sections = s.sections := by
  simp only [sections, same.current, same.previous]

theorem sections_read (l : Ledger) (x : Reading) :
    (l.readAll r (x.event? r).toList).1.scope.sections = l.scope.sections.next x := by
  simp only [Reading.event?, Sections.next]
  cases Line.header? x.line x.number with
  | some h =>
    simp only [Option.toList_some, Ledger.readAll, Ledger.read, Ledger.enter, enter, sections, Ledger.close_scope]
  | none =>
    cases blank : allBlank x.line with
    | true =>
      simp only [if_true, Option.toList_some, Ledger.readAll, Ledger.read, Bool.true_and]
      have sameTest : (l.scope.sections.current.map Header.name == some "tags") = (l.scope.name? == some "tags") := rfl
      rw [sameTest]
      split
      · simp only [Ledger.resume, Ledger.close_scope]
        cases before : l.scope.previous with
        | some h => simp [sections, resume, before]
        | none => simp [sections, Ledger.close_scope, before]
      · rfl
    | false =>
      simp only [Bool.false_eq_true, if_false, Bool.false_and]
      cases Line.assignment? x.line with
      | none => rfl
      | some a => exact sections_of_sameSection (Ledger.assign_sameSection _)

end Scope

namespace SectionLine

def setting? (r : Registry) (x : SectionLine) : Option (Assignment × Setting) :=
  if (Line.header? x.reading.line x.reading.number).isSome then none
  else if x.sections.current.any fun h =>
      occursIn "tag".toList h.name.toList || occursIn "key".toList h.name.toList then none
  else (Line.assignment? x.reading.line).bind fun a => (r.lookup a.name.word).map fun setting => (a, setting)

def startsWidget (x : SectionLine) : Bool :=
  (Line.header? x.reading.line x.reading.number).any fun h => occursIn "widget".toList h.name.toList

def uses (r : Registry) (x : SectionLine) : List Mention :=
  if (x.setting? r).isSome then
    (Reference.aliasUses x.reading.line).map fun p => ⟨p.word, p.range x.reading.number⟩
  else []

def declarations (r : Registry) (x : SectionLine) : List Mention :=
  if (x.setting? r).any fun y => y.2.name == "alias" then
    (Line.aliasName? x.reading.line).toList.map fun p => ⟨p.word, p.range x.reading.number⟩
  else []

end SectionLine

/-- The mentions of a list whose name came up before, in the list or among the names seen already. -/
def Mention.repeated (seen : List String) : List Mention → List Mention
  | [] => []
  | m :: ms => (if m.name ∈ seen then [m] else []) ++ repeated (seen ++ [m.name]) ms

/-- The lines of a region. -/
abbrev Region := List SectionLine

namespace Region

variable (r : Registry) (g : Region)

def uses : List Mention :=
  g.flatMap (SectionLine.uses r)

def declarations : List Mention :=
  g.flatMap (SectionLine.declarations r)

def names : List String :=
  ((declarations r g).map Mention.name).eraseDups

/-- The uses of names that no line of the region declares. -/
def unknown : List Mention :=
  (uses r g).filter fun m => m.name ∉ (declarations r g).map Mention.name

end Region

/-- The regions of a document: its lines, cut at the headers of widgets. -/
def Document.regions (text : String) : List Region :=
  (Sections.place {} (Document.readings text)).splitOnP SectionLine.startsWidget

def Act.concernsAlias : Act → Bool
  | misses kind _ => kind == .aliasUse
  | repeatsAlias _ => true
  | _ => false

namespace Region

variable (r : Registry) (g : Region)

/-- What is done about the aliases of a region: repeated declarations come up on their lines, unknown uses at the
    end. -/
def aliasActs : List Act :=
  (Mention.repeated [] (declarations r g)).map .repeatsAlias ++
    (unknown r g).map fun m => .misses .aliasUse ⟨m.name, m.range, names r g⟩

def aliases : Aliases :=
  ⟨names r g, uses r g⟩

end Region

/-! ## One line of a region -/

namespace Mention

theorem repeated_append (seen : List String) (ms more : List Mention) :
    repeated seen (ms ++ more) = repeated seen ms ++ repeated (seen ++ ms.map Mention.name) more := by
  induction ms generalizing seen with
  | nil => simp [repeated]
  | cons m ms inductionHypothesis => simp [repeated, inductionHypothesis]

theorem repeated_toList (seen : List String) (m : Option Mention) :
    repeated seen m.toList = m.toList.filter fun m => m.name ∈ seen := by
  cases m with
  | none => rfl
  | some m => by_cases known : m.name ∈ seen <;> simp [repeated, known]

end Mention

namespace SectionLine

variable {r : Registry} {x : SectionLine}

theorem declarations_eq_toList : ∃ m : Option Mention, x.declarations r = m.toList := by
  unfold declarations
  split
  · cases Line.aliasName? x.reading.line with
    | none => exact ⟨none, rfl⟩
    | some p => exact ⟨some ⟨p.word, p.range x.reading.number⟩, rfl⟩
  · exact ⟨none, rfl⟩

end SectionLine

theorem Aliases.declare_eq (a : Aliases) (number : Nat) (line : List Char) : (a.declare number line).1 =
    { a with
      declared := a.declared ++ ((Line.aliasName? line).toList.map Piece.word).filter fun name =>
        !a.declared.contains name } := by
  unfold declare
  cases Line.aliasName? line with
  | none => simp
  | some p => by_cases known : p.word ∈ a.declared <;> simp [known]

def Aliases.next (a : Aliases) (r : Registry) (x : SectionLine) : Aliases where
  declared := a.declared ++ ((x.declarations r).map Mention.name).filter fun name => !a.declared.contains name
  uses := a.uses ++ x.uses r

namespace Region

variable {r : Registry} {g : Region} {x : SectionLine}

theorem mem_names {name : String} : name ∈ names r g ↔ name ∈ (declarations r g).map Mention.name :=
  List.mem_eraseDups

theorem misses_aliases : (aliases r g).misses.map (Act.misses .aliasUse) =
    (unknown r g).map fun m => .misses .aliasUse ⟨m.name, m.range, names r g⟩ := by
  simp only [Aliases.misses, aliases, unknown, List.map_map]
  have sameTest : (fun m : Mention => !(names r g).contains m.name) = fun m =>
      decide (m.name ∉ (declarations r g).map Mention.name) := by
    funext m
    simp only [List.contains_eq_mem, mem_names, decide_not]
  rw [sameTest]
  rfl

theorem eraseDups_concat (names : List String) (name : String) : (names ++ [name]).eraseDups =
    names.eraseDups ++ [name].filter fun name => !names.eraseDups.contains name := by
  rw [List.eraseDups_append]
  by_cases known : name ∈ names <;> simp [List.removeAll, known, List.eraseDups_cons]

theorem names_concat : names r (g ++ [x]) =
    names r g ++ ((x.declarations r).map Mention.name).filter fun name => !(names r g).contains name := by
  obtain ⟨m, same⟩ := @SectionLine.declarations_eq_toList r x
  have whole : declarations r (g ++ [x]) = declarations r g ++ m.toList := by simp [declarations, same]
  rw [same, names, whole, List.map_append]
  cases m with
  | none => simp [names]
  | some m => exact eraseDups_concat _ m.name

theorem aliases_concat : aliases r (g ++ [x]) = (aliases r g).next r x := by
  simp only [aliases, Aliases.next, uses, names_concat, List.flatMap_append, List.flatMap_cons, List.flatMap_nil,
    List.append_nil]

theorem repeated_concat : Mention.repeated [] (declarations r (g ++ [x])) =
    Mention.repeated [] (declarations r g) ++ (x.declarations r).filter fun m => (names r g).contains m.name := by
  obtain ⟨m, same⟩ := @SectionLine.declarations_eq_toList r x
  have sameTest : (fun m : Mention => (names r g).contains m.name) = fun m =>
      decide (m.name ∈ (declarations r g).map Mention.name) := by
    funext m
    simp only [List.contains_eq_mem, mem_names]
  have split : declarations r (g ++ [x]) = declarations r g ++ x.declarations r := by simp [declarations]
  rw [split, Mention.repeated_append, List.nil_append, same, Mention.repeated_toList, sameTest]

end Region

/-! ## From line to line -/

namespace Aliases

variable {r : Registry} {a : Aliases} {x : SectionLine} {xs : List SectionLine} {g : Region}

def acts (r : Registry) (a : Aliases) : List SectionLine → List Act
  | [] => a.misses.map (.misses .aliasUse)
  | x :: xs =>
    if x.startsWidget then a.misses.map (.misses .aliasUse) ++ acts r {} xs
    else ((x.declarations r).filter fun m => a.declared.contains m.name).map .repeatsAlias ++ acts r (a.next r x) xs

/-- From a region that has begun, the acts are those of the regions that it and the lines are cut into. -/
theorem acts_aliases (inside : ∀ x ∈ g, x.startsWidget = false) :
    (Mention.repeated [] (g.declarations r)).map .repeatsAlias ++ (g.aliases r).acts r xs =
      ((g ++ xs).splitOnP SectionLine.startsWidget).flatMap (Region.aliasActs r) := by
  induction xs generalizing g with
  | nil =>
    rw [List.append_nil, List.splitOnP_eq_singleton inside, List.flatMap_singleton, acts, Region.misses_aliases,
      Region.aliasActs]
  | cons x xs inductionHypothesis =>
    cases starts : x.startsWidget with
    | true =>
      have rest := @inductionHypothesis [] (List.forall_mem_nil _)
      simp only [acts, starts, if_true]
      rw [List.splitOnP_append_cons _ _ starts, List.flatMap_append, ← List.nil_append xs, ← rest,
        List.splitOnP_eq_singleton inside, List.flatMap_singleton, Region.aliasActs, Region.misses_aliases,
        List.append_assoc]
      rfl
    | false =>
      have inside' : ∀ y ∈ g ++ [x], y.startsWidget = false := by
        intro y member
        rcases List.mem_append.mp member with old | new
        · exact inside y old
        · exact List.mem_singleton.mp new ▸ starts
      have rest := inductionHypothesis inside'
      rw [Region.aliases_concat, Region.repeated_concat, List.append_assoc, List.singleton_append] at rest
      simp only [acts, starts, Bool.false_eq_true, if_false]
      rw [← rest, List.map_append, List.append_assoc]
      rfl

end Aliases

/-! ## A run, seen by its aliases -/

namespace State

variable {s : State} {r : Registry} {number : Nat} {line : List Char}

def sectionLine (s : State) (number : Nat) (line : List Char) : SectionLine :=
  ⟨⟨s.control, number, line⟩, s.scope.sections⟩

theorem setting?_sectionLine (notHeader : Line.header? line number = none) :
    (s.sectionLine number line).setting? r = s.setting? r line := by
  have sameTest : (s.scope.sections.current.any fun h =>
      occursIn "tag".toList h.name.toList || occursIn "key".toList h.name.toList) = s.scope.holdsTags := by
    simp only [Scope.sections, Scope.holdsTags, Scope.name?]
    cases s.scope.current <;> rfl
  simp only [SectionLine.setting?, sectionLine, notHeader, Option.isSome_none, Bool.false_eq_true, if_false,
    setting?, sameTest]

theorem startsWidget_sectionLine : (s.sectionLine number line).startsWidget =
    (Line.header? line number).any fun h => occursIn "widget".toList h.name.toList :=
  rfl

theorem setting?_sectionLine_header {h : Header} (headed : Line.header? line number = some h) :
    (s.sectionLine number line).setting? r = none := by
  simp [SectionLine.setting?, sectionLine, headed]

theorem declarations_sectionLine (notHeader : Line.header? line number = none) :
    (s.sectionLine number line).declarations r =
      if (s.setting? r line).any fun y => y.2.name == "alias" then
        (Line.aliasName? line).toList.map fun p => ⟨p.word, p.range number⟩
      else [] := by
  rw [SectionLine.declarations, setting?_sectionLine notHeader]
  rfl

theorem uses_sectionLine (notHeader : Line.header? line number = none) :
    (s.sectionLine number line).uses r =
      if (s.setting? r line).isSome then
        (Reference.aliasUses line).map fun p => ⟨p.word, p.range number⟩
      else [] := by
  rw [SectionLine.uses, setting?_sectionLine notHeader]
  rfl

theorem next_sectionLine_header {h : Header} (headed : Line.header? line number = some h) :
    s.aliases.next r (s.sectionLine number line) = s.aliases := by
  simp [Aliases.next, SectionLine.declarations, SectionLine.uses, setting?_sectionLine_header headed]

theorem aliasesAfter_eq : s.aliasesAfter r number line =
    if (s.sectionLine number line).startsWidget then {} else s.aliases.next r (s.sectionLine number line) := by
  rw [startsWidget_sectionLine]
  cases headed : Line.header? line number with
  | some h => simp only [aliasesAfter, headed, Option.any_some, next_sectionLine_header headed]
  | none =>
    simp only [aliasesAfter, headed, Option.any_none, Bool.false_eq_true, if_false, Aliases.next,
      declarations_sectionLine headed, uses_sectionLine headed]
    cases s.setting? r line with
    | none => simp
    | some y =>
      by_cases isAlias : y.2.name = "alias"
      · simp [isAlias, Aliases.use, Aliases.declare_eq, Function.comp_def]
      · simp [isAlias, Aliases.use]

theorem repeated_sectionLine (notHeader : Line.header? line number = none) :
    (if (s.setting? r line).any fun y => y.2.name == "alias" then s.aliases.repeated number line else []) =
      ((s.sectionLine number line).declarations r).filter fun m => s.aliases.declared.contains m.name := by
  rw [declarations_sectionLine notHeader, apply_ite (List.filter _), List.filter_nil]
  congr 1
  rw [Aliases.repeated]
  cases Line.aliasName? line with
  | none => rfl
  | some p => by_cases known : p.word ∈ s.aliases.declared <;> simp [known, Option.filter]

end State

namespace Act

@[simp] theorem concernsAlias_judges (j : Judgement) : (judges j).concernsAlias = false :=
  rfl

@[simp] theorem concernsAlias_tells (found : List Finding) : (tells found).concernsAlias = false :=
  rfl

@[simp] theorem concernsAlias_repeatsAlias (m : Mention) : (repeatsAlias m).concernsAlias = true :=
  rfl

@[simp] theorem concernsAlias_misses (kind : Lookup) (m : Miss) :
    (misses kind m).concernsAlias = (kind == .aliasUse) :=
  rfl

end Act

namespace Step

variable {s : State} {r : Registry} {number : Nat} {line : List Char}

theorem aliasActs_judgementActs : (s.judgementActs r).filter Act.concernsAlias = [] := by
  simp [State.judgementActs]

theorem aliasActs_misses {kind : Lookup} (other : kind ≠ .aliasUse) (ms : List Miss) :
    (ms.map (.misses kind)).filter Act.concernsAlias = [] := by
  simp [other]

theorem aliasActs_assignmentActs (a : Assignment) (assigned : Line.assignment? line = some a) :
    (s.assignmentActs r number line a).filter Act.concernsAlias =
      (if (s.setting? r line).any fun y => y.2.name == "alias" then s.aliases.repeated number line else []).map
        .repeatsAlias := by
  have looping : (if s.blocks.isIn .forBlock then
      (Assign.loopMisses number line s.names).map (.misses .loopWord) else []).filter Act.concernsAlias = [] := by
    split
    · exact aliasActs_misses (by decide) _
    · rfl
  rw [State.assignmentActs, List.filter_append, looping, List.append_nil]
  simp only [State.setting?, assigned, Option.bind_some]
  cases s.scope.holdsTags with
  | true => rfl
  | false =>
    cases r.lookup a.name.word with
    | none => exact aliasActs_misses (by decide) _
    | some setting =>
      have words : (if setting.name == "urlparameters" then []
          else (Assign.templateMisses number a.value (s.noting a).names).map (.misses .templateWord)).filter
            Act.concernsAlias = [] := by
        split
        · rfl
        · exact aliasActs_misses (by decide) _
      simp only [Bool.false_eq_true, if_false, State.settingActs, List.filter_cons, Act.concernsAlias_tells,
        List.filter_append, words, List.nil_append, Option.map_some, Option.any_some]
      split
      · simp [State.noting]
      · rfl

theorem aliasActs_plainActs (notHeader : Line.header? line number = none) :
    (s.plainActs r number line).filter Act.concernsAlias =
      (((s.sectionLine number line).declarations r).filter fun m => s.aliases.declared.contains m.name).map
        .repeatsAlias := by
  have directive : ((Line.templateDeclaration? line).elim []
      (fun d => (s.names.templateMisses number d).map (.misses .templateCollection))).filter
        Act.concernsAlias = [] := by
    cases Line.templateDeclaration? line with
    | none => rfl
    | some d => exact aliasActs_misses (by decide) _
  rw [← State.repeated_sectionLine notHeader, State.plainActs, List.filter_append, List.filter_append, directive]
  simp only [List.filter_cons, Act.concernsAlias_tells, List.filter_nil, Bool.false_eq_true, if_false, List.append_nil]
  cases assigned : Line.assignment? line with
  | none => simp [State.setting?, assigned]
  | some a => exact aliasActs_assignmentActs a assigned

theorem aliasActs_contentActs : (s.contentActs r number line).filter Act.concernsAlias =
    if (s.sectionLine number line).startsWidget then s.aliases.misses.map (.misses .aliasUse)
    else (((s.sectionLine number line).declarations r).filter fun m => s.aliases.declared.contains m.name).map
      .repeatsAlias := by
  simp only [State.contentActs, List.filter_cons, Act.concernsAlias_tells, Bool.false_eq_true, if_false]
  rw [State.startsWidget_sectionLine]
  cases headed : Line.header? line number with
  | some h =>
    have noDeclaration : (s.sectionLine number line).declarations r = [] := by
      simp [SectionLine.declarations, State.setting?_sectionLine_header headed]
    simp only [State.sectionActs, List.filter_append, aliasActs_judgementActs, aliasActs_misses, noDeclaration,
      Option.any_some, ne_eq, reduceCtorEq, not_false_eq_true, List.nil_append, List.filter_nil, List.map_nil,
      List.filter_cons, Act.concernsAlias_tells, Bool.false_eq_true, if_false, List.append_nil]
    split
    · simp
    · rfl
  | none =>
    simp only [Option.any_none, Bool.false_eq_true, if_false]
    split
    · next leaves =>
      have noSetting : s.setting? r line = none := by
        simp [State.setting?, assignment?_of_allBlank (Bool.and_eq_true_iff.mp leaves).1]
      rw [aliasActs_judgementActs, ← State.repeated_sectionLine headed, noSetting]
      rfl
    · exact aliasActs_plainActs headed

theorem aliasActs_lineActs {following : List (List Char)} :
    (s.lineActs r number line following).filter Act.concernsAlias =
      if s.control.reads line then
        if (s.sectionLine number line).startsWidget then s.aliases.misses.map (.misses .aliasUse)
        else (((s.sectionLine number line).declarations r).filter fun m => s.aliases.declared.contains m.name).map
          .repeatsAlias
      else [] := by
  simp only [State.lineActs, Control.reads]
  cases script : s.blocks.inBody .script .endScript (Line.keyword? line) with
  | true => simp [State.control, script]
  | false =>
    cases table : s.blocks.inBody .csv .endCsv (Line.keyword? line) with
    | true => simp [State.control, script, table]
    | false =>
      have keyword : ((Line.keywordAt? line number).elim [] fun found =>
          [Act.tells ((keywordLine number line following found).found ((content r number line).after s))]).filter
            Act.concernsAlias = [] := by
        cases Line.keywordAt? line number <;> rfl
      simp only [State.control, script, table, Bool.false_eq_true, if_false, Bool.not_false, Bool.and_self, if_true,
        List.filter_append, keyword, List.append_nil]
      exact aliasActs_contentActs

theorem aliasActs_acts {lines : List (List Char)} (armed : s.control.Armed) :
    (Step.acts r number lines s).filter Act.concernsAlias =
      s.aliases.acts r (s.scope.sections.place (s.control.readings number lines)) := by
  induction lines generalizing number s with
  | nil =>
    simp [Step.acts, State.lastActs, State.judgementActs, Control.readings, Sections.place, Aliases.acts,
      List.filter_map, Function.comp_def]
  | cons line following inductionHypothesis =>
    have follows := @line_follows r number line s following armed
    rw [Step.acts, List.filter_append, aliasActs_lineActs, inductionHypothesis follows.armed, follows.control,
      follows.aliases]
    have sections : ((Step.line r number line following).after s).scope.sections =
        if s.control.reads line then s.scope.sections.next ⟨s.control, number, line⟩ else s.scope.sections := by
      have scope := congrArg Ledger.scope follows.ledger
      change ((Step.line r number line following).after s).scope = _ at scope
      rw [scope, Control.eventsAt]
      split
      · exact Scope.sections_read (r := r) s.ledger ⟨s.control, number, line⟩
      · rfl
    rw [sections, Control.readings]
    split
    · rw [Sections.place, Aliases.acts, State.aliasesAfter_eq, ← State.sectionLine]
      cases (s.sectionLine number line).startsWidget <;> rfl
    · rfl

end Step

theorem Document.aliasActs_eq (r : Registry) (text : String) :
    (Document.acts r text).filter Act.concernsAlias = (Document.regions text).flatMap (Region.aliasActs r) := by
  have placed : ({} : State).scope.sections.place (({} : State).control.readings 0 (analysed text)) =
      Sections.place {} (Document.readings text) := rfl
  have none : ((Mention.repeated [] (Region.declarations r [])).map Act.repeatsAlias) = [] := rfl
  have start : ({} : State).aliases = Region.aliases r [] := rfl
  rw [Document.acts, Step.aliasActs_acts State.armed_initial, placed, start, Document.regions]
  have cut := @Aliases.acts_aliases r (Sections.place {} (Document.readings text)) [] (List.forall_mem_nil _)
  rw [none, List.nil_append, List.nil_append] at cut
  exact cut

theorem Region.perm_unknown {r : Registry} {g h : Region} (moved : g.Perm h) : (g.unknown r).Perm (h.unknown r) := by
  have declared (name : String) :
      name ∈ (declarations r g).map Mention.name ↔ name ∈ (declarations r h).map Mention.name :=
    ((moved.flatMap_right (SectionLine.declarations r)).map Mention.name).mem_iff
  have sameTest : (fun m : Mention => decide (m.name ∉ (declarations r g).map Mention.name)) =
      fun m => decide (m.name ∉ (declarations r h).map Mention.name) := by
    funext m
    simp only [declared]
  simp only [unknown, sameTest]
  exact (moved.flatMap_right (SectionLine.uses r)).filter _

/-- Aliases are looked up by region, in any order: of the uses in a region, those are unknown whose name no setting of
    the region declares, and a declaration is an error if its name was declared in the region before. There is one
    error for each of these, in the order of the regions, and no other act is about an alias. -/
theorem aliases_resolve_by_region (r : Registry) (text : String) :
    validate text r = .ok ((Document.acts r text).flatMap (Act.said r)) ∧
    ((Document.acts r text).filter Act.concernsAlias = (Document.regions text).flatMap fun g =>
      (Mention.repeated [] (g.declarations r)).map .repeatsAlias ++
        ((g.uses r).filter fun m => m.name ∉ (g.declarations r).map Mention.name).map fun m =>
          .misses .aliasUse ⟨m.name, m.range, g.names r⟩) ∧
    ∀ g h : Region, g.Perm h → (g.unknown r).Perm (h.unknown r) :=
  ⟨validate_eq_acts r text, Document.aliasActs_eq r text, fun _ _ => Region.perm_unknown⟩

end ChartConfig
