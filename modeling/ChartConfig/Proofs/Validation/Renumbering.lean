import Mathlib.Logic.Function.Basic
import ChartConfig.Proofs.Language.Leading
import ChartConfig.Validation.Run

/-!
# Line numbers are names

A run keeps the numbers of lines to report places and to tell branches of conditions apart, and it does nothing else
with them. So reading a line under another number, from a state in which all numbers are changed alike, comes to the
state and the diagnostics with the numbers changed, for every change that keeps different numbers different.
-/

namespace ChartConfig

open Text Finding

/-! ## Other numbers -/

section

variable (ρ : Nat → Nat)

def Range.renumber (r : Range) : Range :=
  ⟨⟨ρ r.start.line, r.start.character⟩, ⟨ρ r.stop.line, r.stop.character⟩⟩

def Diagnostic.renumber (d : Diagnostic) : Diagnostic :=
  { d with range := d.range.renumber ρ }

/-- A finding with another number; the texts of notes stay. -/
def Finding.renumber : Finding → Finding
  | problem d => problem (d.renumber ρ)
  | note n => note n

def EngineError.renumber : EngineError → EngineError
  | missingCondition line => missingCondition (ρ line)
  | alreadyProcessed => alreadyProcessed
  | unhandledKeyword k => unhandledKeyword k

def KeywordAt.renumber (k : KeywordAt) : KeywordAt :=
  { k with range := k.range.renumber ρ }

def Header.renumber (h : Header) : Header :=
  { h with range := h.range.renumber ρ }

def Mention.renumber (m : Mention) : Mention :=
  { m with range := m.range.renumber ρ }

def Branch.renumber (b : Branch) : Branch :=
  { b with line := ρ b.line }

def Scope.renumber (s : Scope) : Scope :=
  { s with
    current := s.current.map (Header.renumber ρ)
    previous := s.previous.map (Header.renumber ρ)
    branches := s.branches.map (Prod.map (Branch.renumber ρ) id) }

def Names.renumber (n : Names) : Names :=
  { n with pending := n.pending.map (Mention.renumber ρ) }

def Aliases.renumber (a : Aliases) : Aliases :=
  { a with uses := a.uses.map (Mention.renumber ρ) }

def State.renumber (s : State) : State :=
  { s with
    blocks := s.blocks.map (KeywordAt.renumber ρ)
    scope := s.scope.renumber ρ
    names := s.names.renumber ρ
    aliases := s.aliases.renumber ρ
    condition := s.condition.map (Branch.renumber ρ) }

end

variable {ρ : Nat → Nat}

@[simp] theorem Text.Piece.renumber_range (p : Piece) (number : Nat) :
    (p.range number).renumber ρ = p.range (ρ number) := rfl

@[simp] theorem Finding.renumber_error (range : Range) (message : String) :
    (Finding.error range message).renumber ρ = .error (range.renumber ρ) message := rfl

@[simp] theorem Finding.renumber_warning (range : Range) (message : String) :
    (Finding.warning range message).renumber ρ = .warning (range.renumber ρ) message := rfl

theorem Finding.diagnostics_renumber (found : List Finding) :
    diagnostics (found.map (Finding.renumber ρ)) = (diagnostics found).map (Diagnostic.renumber ρ) := by
  simp only [diagnostics, List.filterMap_map, List.map_filterMap]
  congr 1
  funext f
  cases f <;> rfl

theorem Branch.renumber_injective (injective : Function.Injective ρ) : Function.Injective (Branch.renumber ρ) := by
  rintro ⟨line, keyword⟩ ⟨other, kind⟩ same
  obtain ⟨sameLine, sameKeyword⟩ := Branch.mk.inj same
  exact Branch.mk.injEq .. ▸ ⟨injective sameLine, sameKeyword⟩

/-! ## Steps under other numbers -/

inductive Renumbered (ρ : Nat → Nat) :
    Except EngineError (State × List Finding) → Except EngineError (State × List Finding) → Prop
  | ok {s : State} {found more : List Finding}
      (same : diagnostics more = (diagnostics found).map (Diagnostic.renumber ρ)) :
      Renumbered ρ (.ok (s, found)) (.ok (s.renumber ρ, more))
  | error (e : EngineError) : Renumbered ρ (.error e) (.error (e.renumber ρ))

namespace Step

/-- The second step does under other numbers what the first does. -/
def Renumbers (ρ : Nat → Nat) (first second : Step) : Prop :=
  ∀ s, Renumbered ρ (first s) (second (s.renumber ρ))

variable {first second third fourth : Step}

theorem renumbers_skip : Renumbers ρ skip skip :=
  fun _ => .ok rfl

theorem renumbers_update {f g : State → State} (agree : ∀ s, g (s.renumber ρ) = (f s).renumber ρ) :
    Renumbers ρ (update f) (update g) := by
  intro s
  rw [update, update, agree]
  exact .ok rfl

theorem renumbers_remark {f g : State → List Finding}
    (agree : ∀ s, diagnostics (g (s.renumber ρ)) = (diagnostics (f s)).map (Diagnostic.renumber ρ)) :
    Renumbers ρ (report f) (report g) :=
  fun s => .ok (agree s)

theorem renumbers_report {f g : State → List Finding}
    (agree : ∀ s, g (s.renumber ρ) = (f s).map (Finding.renumber ρ)) : Renumbers ρ (report f) (report g) :=
  renumbers_remark fun s => by rw [agree, diagnostics_renumber]

theorem renumbered_andThen {s t : State} (agreed : Renumbered ρ (first s) (second t))
    (next : ∀ after found, first s = .ok (after, found) → Renumbered ρ (third after) (fourth (after.renumber ρ))) :
    Renumbered ρ (first.andThen third s) (second.andThen fourth t) := by
  simp only [andThen]
  generalize first s = one at agreed next ⊢
  generalize second t = other at agreed ⊢
  cases agreed with
  | error e => exact .error e
  | @ok after found more same =>
    have agreedNext := next after found rfl
    simp only
    generalize third after = one at agreedNext ⊢
    generalize fourth (after.renumber ρ) = other at agreedNext ⊢
    cases agreedNext with
    | error e => exact .error e
    | ok later => exact .ok (by rw [diagnostics_append, diagnostics_append, List.map_append, same, later])

theorem Renumbers.andThen (agree : Renumbers ρ first second) (next : Renumbers ρ third fourth) :
    Renumbers ρ (first.andThen third) (second.andThen fourth) :=
  fun s => renumbered_andThen (agree s) fun after _ _ => next after

theorem renumbers_nil : Renumbers ρ (all []) (all []) :=
  renumbers_skip

theorem Renumbers.cons {steps others : List Step} (agree : Renumbers ρ first second)
    (rest : Renumbers ρ (all steps) (all others)) : Renumbers ρ (all (first :: steps)) (all (second :: others)) :=
  agree.andThen rest

theorem renumbers_ite {p : Prop} [Decidable p] (agree : Renumbers ρ first second)
    (otherwise : Renumbers ρ third fourth) :
    Renumbers ρ (if p then first else third) (if p then second else fourth) := by
  split
  · exact agree
  · exact otherwise

theorem renumbers_onlyIf {p : State → Bool} (sees : ∀ s, p (s.renumber ρ) = p s) (agree : Renumbers ρ first second) :
    Renumbers ρ (onlyIf p first) (onlyIf p second) := by
  intro s
  simp only [onlyIf, sees]
  split
  · exact agree s
  · exact renumbers_skip s

theorem renumbers_onNames {f g : Names → Names × List Finding}
    (agree : ∀ n : Names, g (n.renumber ρ) = ((f n).1.renumber ρ, (f n).2.map (Finding.renumber ρ))) :
    Renumbers ρ (onNames f) (onNames g) := by
  intro s
  have names : (s.renumber ρ).names = s.names.renumber ρ := rfl
  simp only [onNames, names, agree]
  exact .ok (diagnostics_renumber _)

theorem renumbers_onAliases {f g : Aliases → Aliases × List Finding}
    (agree : ∀ a : Aliases, g (a.renumber ρ) = ((f a).1.renumber ρ, (f a).2.map (Finding.renumber ρ))) :
    Renumbers ρ (onAliases f) (onAliases g) := by
  intro s
  have aliases : (s.renumber ρ).aliases = s.aliases.renumber ρ := rfl
  simp only [onAliases, aliases, agree]
  exact .ok (diagnostics_renumber _)

end Step

/-! ## Blocks -/

namespace Blocks

variable (blocks : Blocks) (found : KeywordAt)

theorem isIn_renumber (keyword : Keyword) :
    isIn (blocks.map (KeywordAt.renumber ρ)) keyword = isIn blocks keyword := by
  rw [isIn, isIn, List.any_map]
  rfl

theorem innermost?_renumber : innermost? (blocks.map (KeywordAt.renumber ρ)) = innermost? blocks := by
  rw [innermost?, innermost?, List.getLast?_map, Option.map_map]
  rfl

theorem close_renumber : close (blocks.map (KeywordAt.renumber ρ)) (found.renumber ρ) =
    match close blocks found with
    | .ok (after, problems) => .ok (after.map (KeywordAt.renumber ρ), problems.map (Finding.renumber ρ))
    | .error e => .error (e.renumber ρ) := by
  have keyword : (found.renumber ρ).keyword = found.keyword := rfl
  simp only [close, innermost?_renumber, isIn_renumber, keyword]
  cases found.keyword.closes with
  | none => rfl
  | some opener =>
    cases innermost? blocks with
    | none => rfl
    | some inner =>
      simp only
      split
      · simp
      · split
        · simp only [List.eraseP_map]
          rfl
        · rfl

theorem alternative_renumber : alternative (blocks.map (KeywordAt.renumber ρ)) (found.renumber ρ) =
    (alternative blocks found).map (Finding.renumber ρ) := by
  simp only [alternative, innermost?_renumber, isIn_renumber]
  split
  · rfl
  · cases innermost? blocks with
    | none => rfl
    | some inner =>
      simp only
      split <;> rfl

theorem leftOpen_renumber :
    leftOpen (blocks.map (KeywordAt.renumber ρ)) = (leftOpen blocks).map (Finding.renumber ρ) := by
  simp only [leftOpen, List.map_map]
  rfl

end Blocks

/-! ## Sections -/

namespace Scope

variable (s : Scope) (r : Registry)

theorem name?_renumber : (s.renumber ρ).name? = s.name? := by
  simp only [name?, renumber, Option.map_map]
  rfl

theorem holdsTags_renumber : (s.renumber ρ).holdsTags = s.holdsTags := by
  rw [holdsTags, holdsTags, name?_renumber]

theorem branchesFill_renumber (slot : Slot) : (s.renumber ρ).branchesFill slot = s.branchesFill slot := by
  simp only [branchesFill, renumber, List.isEmpty_map, List.all_map, List.countP_map]
  rfl

theorem missing_renumber (waived : Bool) (header : Header) :
    (s.renumber ρ).missing r waived (header.renumber ρ) = (s.missing r waived header).map (Finding.renumber ρ) := by
  have satisfies (slot : Slot) : (s.renumber ρ).satisfies waived (r.ancestors header.name) slot =
      s.satisfies waived (r.ancestors header.name) slot := by
    rw [Scope.satisfies, Scope.satisfies, branchesFill_renumber]
    rfl
  have name : (header.renumber ρ).name = header.name := rfl
  simp only [missing, name, satisfies, List.map_filterMap, Option.map_map]
  rfl

theorem judge_renumber (waived : Bool) : (s.renumber ρ).judge r waived =
    ((s.judge r waived).1.renumber ρ, (s.judge r waived).2.map (Finding.renumber ρ)) := by
  simp only [judge]
  change (if s.judged then _ else _) = _
  split
  · rfl
  · refine Prod.ext rfl ?_
    have current : (s.renumber ρ).current = s.current.map (Header.renumber ρ) := rfl
    simp only [current]
    cases s.current with
    | none => rfl
    | some header => exact s.missing_renumber r waived header

theorem bequeath_renumber : (s.renumber ρ).bequeath = s.bequeath.renumber ρ := by
  obtain ⟨current, _, _, _, _, _, _, _⟩ := s
  cases current <;> rfl

theorem addCounterpart_renumber (setting : Setting) :
    (s.renumber ρ).addCounterpart r setting = (s.addCounterpart r setting).renumber ρ := by
  simp only [addCounterpart]
  split
  · simp only [addSlot]
    change (if s.extraSlots.contains _ then _ else _) = _
    split <;> rfl
  · rfl

theorem record_renumber (setting : Setting) :
    (s.renumber ρ).record setting = ((s.record setting).1.renumber ρ, (s.record setting).2) := by
  simp only [record]
  change (if setting.isIn s.settings then _ else _) = _
  split <;> rfl

/-- Branches are told apart by their lines, so here different lines must stay different. -/
theorem addToBranch_renumber (injective : Function.Injective ρ) (branch : Branch) (setting : Setting)
    (branches : List (Branch × List Setting)) :
    addToBranch (branch.renumber ρ) setting (branches.map (Prod.map (Branch.renumber ρ) id)) =
      ((addToBranch branch setting branches).1.map (Prod.map (Branch.renumber ρ) id),
        (addToBranch branch setting branches).2) := by
  induction branches with
  | nil => rfl
  | cons first rest inductionHypothesis =>
    obtain ⟨other, known⟩ := first
    have sameBranch : other.renumber ρ = branch.renumber ρ ↔ other = branch :=
      (Branch.renumber_injective injective).eq_iff
    simp only [List.map_cons, Prod.map_apply, id_eq, addToBranch, sameBranch, inductionHypothesis]
    split
    · split <;> rfl
    · rfl

theorem recordIn_renumber (injective : Function.Injective ρ) (branch : Branch) (setting : Setting) :
    (s.renumber ρ).recordIn (branch.renumber ρ) setting =
      ((s.recordIn branch setting).1.renumber ρ, (s.recordIn branch setting).2) := by
  have branches : (s.renumber ρ).branches = s.branches.map (Prod.map (Branch.renumber ρ) id) := rfl
  simp only [recordIn, branches, addToBranch_renumber injective]
  rfl

theorem conflicts_renumber (setting : Setting) (range : Range) :
    (s.renumber ρ).conflicts setting (range.renumber ρ) = (s.conflicts setting range).map (Finding.renumber ρ) := by
  simp only [conflicts, List.map_map]
  rfl

end Scope

/-! ## Names and aliases -/

namespace Names

variable (n : Names) (number : Nat)

theorem declare_renumber (kind : NameKind) (piece : Piece) : (n.renumber ρ).declare kind (ρ number) piece =
    ((n.declare kind number piece).1.renumber ρ, (n.declare kind number piece).2.map (Finding.renumber ρ)) := by
  have admits : (n.renumber ρ).admits kind piece.word = n.admits kind piece.word := rfl
  simp only [declare, admits]
  split
  · cases kind <;> rfl
  · rfl

theorem declare?_renumber (kind : NameKind) (piece : Option Piece) : (n.renumber ρ).declare? kind (ρ number) piece =
    ((n.declare? kind number piece).1.renumber ρ, (n.declare? kind number piece).2.map (Finding.renumber ρ)) := by
  cases piece with
  | none => rfl
  | some piece => exact n.declare_renumber number kind piece

theorem useCollection_renumber (sign : Piece) (collection : Option Piece) :
    (n.renumber ρ).useCollection (ρ number) sign collection =
      ((n.useCollection number sign collection).1.renumber ρ,
        (n.useCollection number sign collection).2.map (Finding.renumber ρ)) := by
  cases collection with
  | none => rfl
  | some piece =>
    have stillKnown : (n.renumber ρ).contains piece.word = n.contains piece.word := rfl
    cases known : n.contains piece.word with
    | true =>
      simp only [useCollection, stillKnown, known, if_true]
      rfl
    | false =>
      simp only [useCollection, stillKnown, known, Bool.false_eq_true, if_false]
      simp [renumber, Mention.renumber, Finding.renumber]

theorem openLoop_renumber (line : List Char) : (n.renumber ρ).openLoop (ρ number) line =
    ((n.openLoop number line).1.renumber ρ, (n.openLoop number line).2.map (Finding.renumber ρ)) := by
  simp only [openLoop]
  cases Line.loopVariable? line with
  | none => rfl
  | some pair =>
    obtain ⟨item, sign⟩ := pair
    simp only [useCollection_renumber, declare_renumber, List.map_append]
    rfl

theorem declareTemplate_renumber {measure : Measure} (d : TemplateDeclaration) :
    (n.renumber ρ).declareTemplate measure (ρ number) d =
      ((n.declareTemplate measure number d).1.renumber ρ,
        (n.declareTemplate measure number d).2.map (Finding.renumber ρ)) := by
  have template : (n.renumber ρ).template = n.template := rfl
  simp only [declareTemplate, declare_renumber, template, List.map_append]
  cases d.collection with
  | none => rfl
  | some piece =>
    simp only
    split <;> rfl

theorem unresolved_renumber {measure : Measure} :
    (n.renumber ρ).unresolved measure = (n.unresolved measure).map (Finding.renumber ρ) := by
  simp only [unresolved, renumber, List.filter_map, List.map_map]
  rfl

end Names

namespace Aliases

variable (a : Aliases) (number : Nat) (line : List Char)

theorem declare_renumber : (a.renumber ρ).declare (ρ number) line =
    ((a.declare number line).1.renumber ρ, (a.declare number line).2.map (Finding.renumber ρ)) := by
  have declared : (a.renumber ρ).declared = a.declared := rfl
  simp only [declare, declared]
  cases Line.aliasName? line with
  | none => rfl
  | some piece =>
    simp only
    split <;> rfl

theorem use_renumber : (a.renumber ρ).use (ρ number) line = (a.use number line).renumber ρ := by
  simp only [use, renumber, List.map_append, List.map_map]
  rfl

theorem unresolved_renumber {measure : Measure} :
    (a.renumber ρ).unresolved measure = (a.unresolved measure).map (Finding.renumber ρ) := by
  simp only [unresolved, renumber, List.filter_map, List.map_map]
  rfl

end Aliases

/-! ## Assignments -/

theorem Setting.repetition_renumber (setting : Setting) (range : Range) (name : String) :
    (setting.repetition range name).renumber ρ = setting.repetition (range.renumber ρ) name := by
  simp only [repetition]
  repeat' split
  all_goals rfl

theorem Setting.check_renumber (setting : Setting) (value : List Char) (range : Range) (name : String) :
    setting.check value (range.renumber ρ) name = (setting.check value range name).map (Diagnostic.renumber ρ) := by
  simp only [check, Option.map_map]
  rfl

namespace State

variable (s : State)

theorem isIn_renumber (keyword : Keyword) : (s.renumber ρ).blocks.isIn keyword = s.blocks.isIn keyword :=
  Blocks.isIn_renumber s.blocks keyword

theorem name?_renumber : (s.renumber ρ).scope.name? = s.scope.name? :=
  s.scope.name?_renumber

end State

namespace Assign

variable {r : Registry} {number : Nat} {line : List Char}

theorem declare_renumbers (injective : Function.Injective ρ) (setting : Setting) (name : String) (range : Range) :
    Step.Renumbers ρ (declare setting name range) (declare setting name (range.renumber ρ)) := by
  have reported (fresh : Bool) :
      (if fresh then [] else [Finding.problem (setting.repetition (range.renumber ρ) name)]) =
        (if fresh then [] else [Finding.problem (setting.repetition range name)]).map (Finding.renumber ρ) := by
    cases fresh with
    | true => rfl
    | false => simp [Finding.renumber, Setting.repetition_renumber]
  intro s
  have scope : (s.renumber ρ).scope = s.scope.renumber ρ := rfl
  have condition : (s.renumber ρ).condition = s.condition.map (Branch.renumber ρ) := rfl
  simp only [declare, s.isIn_renumber, condition, scope]
  split
  · cases s.condition with
    | none => exact .error _
    | some branch =>
      simp only [Option.map_some, Scope.recordIn_renumber _ injective, reported]
      exact .ok (diagnostics_renumber _)
  · simp only [Scope.record_renumber, reported]
    exact .ok (diagnostics_renumber _)

theorem templateWords_renumber (value : Piece) (s : State) :
    templateWords r (ρ number) value (s.renumber ρ) = (templateWords r number value s).map (Finding.renumber ρ) := by
  simp only [templateWords, List.map_flatMap, List.map_map]
  rfl

theorem loopIdentifiers_renumber (s : State) :
    loopIdentifiers r (ρ number) line (s.renumber ρ) = (loopIdentifiers r number line s).map (Finding.renumber ρ) := by
  simp only [loopIdentifiers, List.map_flatMap, List.map_map]
  rfl

theorem known_renumbers (injective : Function.Injective ρ) (a : Assignment) (setting : Setting) :
    Step.Renumbers ρ (known r number line a setting) (known r (ρ number) line a setting) := by
  have place : a.name.range (ρ number) = (a.name.range number).renumber ρ := rfl
  simp only [known, place]
  refine .cons (Step.renumbers_report fun s => ?severalWords) ?_
  case severalWords => split <;> rfl
  refine .cons (Step.renumbers_update fun s => ?counterpart) ?_
  case counterpart =>
    have scope : (s.renumber ρ).scope = s.scope.renumber ρ := rfl
    simp only [scope, Scope.addCounterpart_renumber]
    rfl
  refine .cons (Step.renumbers_ite Step.renumbers_skip (declare_renumbers injective setting _ _)) ?_
  refine .cons (Step.renumbers_report fun s => ?check) ?_
  case check =>
    split
    · rfl
    · rw [Setting.check_renumber]
      cases setting.check a.value.text (a.name.range number) a.name.word <;> rfl
  refine .cons (Step.renumbers_report fun s => s.scope.conflicts_renumber setting _) ?_
  refine .cons (Step.renumbers_ite (Step.renumbers_update fun s => rfl)
    (Step.renumbers_report fun s => templateWords_renumber a.value s)) ?_
  refine .cons (Step.renumbers_ite (Step.renumbers_onAliases fun aliases => aliases.declare_renumber number line)
    Step.renumbers_skip) ?_
  refine .cons (Step.renumbers_update fun s => ?uses) Step.renumbers_nil
  case uses =>
    have aliases : (s.renumber ρ).aliases = s.aliases.renumber ρ := rfl
    simp only [aliases, Aliases.use_renumber]
    rfl

theorem tag_renumber (name : Piece) (range : Range) :
    tag r name (range.renumber ρ) = (tag r name range).map (Finding.renumber ρ) := by
  simp only [tag, List.map_append]
  congr 1 <;> split <;> rfl

theorem unknownSetting_renumber (name : Piece) (range : Range) (s : State) :
    unknownSetting r name (range.renumber ρ) (s.renumber ρ) =
      (unknownSetting r name range s).map (Finding.renumber ρ) := by
  have names : (s.renumber ρ).names.all = s.names.all := rfl
  have parameters : (s.renumber ρ).parameters = s.parameters := rfl
  simp only [unknownSetting, candidates, s.name?_renumber, names, parameters]
  repeat' split
  all_goals rfl

theorem step_renumbers (injective : Function.Injective ρ) (a : Assignment) :
    Step.Renumbers ρ (step r number line a) (step r (ρ number) line a) := by
  intro s
  have place : a.name.range (ρ number) = (a.name.range number).renumber ρ := rfl
  have tags : (s.renumber ρ).scope.holdsTags = s.scope.holdsTags := s.scope.holdsTags_renumber
  simp only [step, place, tags]
  split
  · rw [tag_renumber]
    exact .ok (diagnostics_renumber _)
  · let noted : State :=
      { s with values := (canonicalName a.name.word, canonicalName a.value.word) :: s.values }
    have renumbered : { s.renumber ρ with
        values := (canonicalName a.name.word, canonicalName a.value.word) :: (s.renumber ρ).values } =
          noted.renumber ρ := rfl
    rw [renumbered]
    cases r.lookup a.name.word with
    | none =>
      simp only
      rw [unknownSetting_renumber]
      exact .ok (diagnostics_renumber _)
    | some setting => exact known_renumbers injective a setting noted

end Assign

/-! ## Lines -/

namespace Line

variable (line : List Char) (number : Nat)

theorem header?_renumber : header? line (ρ number) = (header? line number).map (Header.renumber ρ) := by
  simp only [header?, Option.map_map]
  rfl

theorem unclosedHeader?_renumber :
    unclosedHeader? line (ρ number) = (unclosedHeader? line number).map (Header.renumber ρ) := by
  simp only [unclosedHeader?, Option.map_map]
  rfl

theorem keywordAt?_renumber : keywordAt? line (ρ number) = (keywordAt? line number).map (KeywordAt.renumber ρ) := by
  simp only [keywordAt?_eq_bind, Option.map_bind, Function.comp_def, Option.map_map]
  rfl

end Line

namespace Step

variable {r : Registry} {number : Nat} {line : List Char} {following : List (List Char)} {header : Header}
  {found : KeywordAt}

theorem judge_renumbers : Renumbers ρ (judge r) (judge r) := by
  intro s
  have scope : (s.renumber ρ).scope = s.scope.renumber ρ := rfl
  have values : (s.renumber ρ).values = s.values := rfl
  simp only [judge, scope, values, Scope.judge_renumber]
  exact .ok (diagnostics_renumber _)

theorem bequeath_renumbers : Renumbers ρ bequeath bequeath :=
  renumbers_update fun s => by
    have scope : (s.renumber ρ).scope = s.scope.renumber ρ := rfl
    simp only [scope, Scope.bequeath_renumber]
    rfl

theorem newWidget_renumbers : Renumbers ρ (newWidget r) (newWidget r) :=
  .cons (renumbers_report fun s => s.aliases.unresolved_renumber) (.cons (renumbers_update fun _ => rfl) renumbers_nil)

theorem enterSection_renumbers :
    Renumbers ρ (enterSection r number header) (enterSection r (ρ number) (header.renumber ρ)) := by
  have name : (header.renumber ρ).name = header.name := rfl
  simp only [enterSection, spelling, name]
  refine .cons (renumbers_report fun s => ?spelled) ?_
  case spelled => split <;> rfl
  refine .cons judge_renumbers (.cons bequeath_renumbers (.cons (renumbers_ite newWidget_renumbers renumbers_skip) ?_))
  -- The note on the new section quotes the number of its line, so the findings differ in notes.
  refine .cons (renumbers_remark fun s => ?deprecated) (.cons (renumbers_update fun s => rfl) renumbers_nil)
  case deprecated => split <;> rfl

theorem leaveTags_renumbers : Renumbers ρ (leaveTags r) (leaveTags r) := by
  refine .cons judge_renumbers (.cons bequeath_renumbers (.cons ?_ renumbers_nil))
  intro s
  have previous : (s.renumber ρ).scope.previous = s.scope.previous.map (Header.renumber ρ) := rfl
  simp only [previous]
  cases s.scope.previous with
  | none => exact .ok rfl
  | some h =>
    change Renumbered ρ _ (.ok ({ s with scope := s.scope.resume h }.renumber ρ, _))
    exact .ok rfl

theorem templateMark_renumbers : Renumbers ρ (templateMark number line) (templateMark (ρ number) line) := by
  refine renumbers_report fun s => ?_
  cases Line.templateMark? line <;> rfl

theorem plainLine_renumbers (injective : Function.Injective ρ) :
    Renumbers ρ (plainLine r number line) (plainLine r (ρ number) line) := by
  refine .cons ?assigns (.cons ?declares (.cons (renumbers_report fun s => ?unclosed) renumbers_nil))
  case assigns =>
    cases Line.assignment? line with
    | none => exact renumbers_skip
    | some a =>
      refine (Assign.step_renumbers injective a).andThen (renumbers_onlyIf (fun s => s.isIn_renumber .forBlock) ?_)
      exact renumbers_report fun s => Assign.loopIdentifiers_renumber s
  case declares =>
    cases Line.templateDeclaration? line with
    | none => exact renumbers_skip
    | some d => exact renumbers_onNames fun n => n.declareTemplate_renumber number d
  case unclosed =>
    rw [Line.unclosedHeader?_renumber]
    cases Line.unclosedHeader? line number <;> rfl

theorem content_renumbers (injective : Function.Injective ρ) :
    Renumbers ρ (content r number line) (content r (ρ number) line) := by
  refine templateMark_renumbers.andThen ?_
  rw [Line.header?_renumber]
  cases Line.header? line number with
  | some header => exact enterSection_renumbers
  | none =>
    intro s
    simp only [Option.map_none, s.name?_renumber]
    split
    · exact leaveTags_renumbers s
    · exact plainLine_renumbers injective s

theorem tableRow_renumbers : Renumbers ρ (tableRow number line) (tableRow (ρ number) line) := by
  refine renumbers_report fun s => ?_
  have columns : (s.renumber ρ).csvColumns = s.csvColumns := rfl
  simp only [columns]
  split <;> rfl

theorem openBlock_renumbers : Renumbers ρ (openBlock found) (openBlock (found.renumber ρ)) :=
  renumbers_update fun s => by simp [State.renumber]

theorem closeBlock_renumbers : Renumbers ρ (closeBlock found) (closeBlock (found.renumber ρ)) := by
  intro s
  have blocks : (s.renumber ρ).blocks = s.blocks.map (KeywordAt.renumber ρ) := rfl
  simp only [closeBlock, blocks, Blocks.close_renumber]
  cases s.blocks.close found with
  | error e => exact .error e
  | ok answer => exact .ok (diagnostics_renumber _)

theorem setCondition_renumbers : Renumbers ρ (setCondition found) (setCondition (found.renumber ρ)) :=
  renumbers_update fun _ => rfl

theorem openScript_renumbers : Renumbers ρ (openScript found line) (openScript (found.renumber ρ) line) := by
  refine renumbers_ite renumbers_skip (openBlock_renumbers.andThen (renumbers_report fun s => ?_))
  split <;> rfl

theorem keyword_renumbers :
    Renumbers ρ (keyword number line following found) (keyword (ρ number) line following (found.renumber ρ)) := by
  have kind : (found.renumber ρ).keyword = found.keyword := rfl
  simp only [keyword, kind]
  cases found.keyword with
  | endFor => exact Renumbers.andThen (renumbers_update fun _ => rfl) closeBlock_renumbers
  | endIf | endVar | endCsv | endList | endScript => exact closeBlock_renumbers
  | elseBlock | elseIf =>
    exact setCondition_renumbers.andThen (renumbers_report fun s => Blocks.alternative_renumber s.blocks found)
  | csv =>
    exact .cons (renumbers_onNames fun n => n.declare?_renumber number .csv _)
      (.cons (renumbers_update fun _ => rfl) renumbers_nil)
  | var =>
    exact (renumbers_ite openBlock_renumbers renumbers_skip).andThen
      (renumbers_onNames fun n => n.declare?_renumber number .var _)
  | list =>
    exact (renumbers_onNames fun n => n.declare?_renumber number .list _).andThen
      (renumbers_ite openBlock_renumbers renumbers_skip)
  | forBlock => exact renumbers_onNames fun n => n.openLoop_renumber number line
  | ifBlock => exact setCondition_renumbers
  | script => exact openScript_renumbers
  | importing => exact renumbers_skip

theorem keywordLine_renumbers : Renumbers ρ (keywordLine number line following found)
    (keywordLine (ρ number) line following (found.renumber ρ)) :=
  .cons (renumbers_remark fun _ => rfl) (.cons (renumbers_ite openBlock_renumbers renumbers_skip)
    (.cons keyword_renumbers renumbers_nil))

theorem line_renumbers (injective : Function.Injective ρ) :
    Renumbers ρ (Step.line r number line following) (Step.line r (ρ number) line following) := by
  intro s
  have bodies (opener terminator : Keyword) (k : Option Keyword) :
      (s.renumber ρ).blocks.inBody opener terminator k = s.blocks.inBody opener terminator k := by
    rw [Blocks.inBody, Blocks.inBody, s.isIn_renumber]
  simp only [Step.line, Line.keyword_keywordAt?, bodies]
  split
  · exact renumbers_skip s
  · split
    · exact tableRow_renumbers s
    · refine (content_renumbers injective).andThen ?_ s
      rw [Line.keywordAt?_renumber]
      cases Line.keywordAt? line number with
      | none => exact renumbers_skip
      | some found => exact keywordLine_renumbers

theorem lines_renumbers (injective : Function.Injective ρ) {other : Nat} {lines : List (List Char)}
    (shifted : ∀ i, ρ (number + i) = other + i) :
    Renumbers ρ (Step.lines r number lines) (Step.lines r other lines) := by
  induction lines generalizing number other with
  | nil => exact renumbers_skip
  | cons line following inductionHypothesis =>
    have here : ρ number = other := shifted 0
    rw [Step.lines, Step.lines, ← here]
    refine (line_renumbers injective).andThen (inductionHypothesis fun i => ?_)
    rw [here, Nat.add_assoc, shifted, Nat.add_assoc]

theorem finish_renumbers : Renumbers ρ (finish r) (finish r) :=
  .cons (renumbers_report fun s => s.aliases.unresolved_renumber)
    (.cons (renumbers_report fun s => Blocks.leftOpen_renumber s.blocks)
      (.cons judge_renumbers (.cons (renumbers_report fun s => s.names.unresolved_renumber) renumbers_nil)))

end Step

end ChartConfig
