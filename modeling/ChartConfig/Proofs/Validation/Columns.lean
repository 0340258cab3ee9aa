import ChartConfig.Proofs.Language.Contents
import ChartConfig.Proofs.Validation.Totality

/-!
# Columns have no influence

A run keeps columns only to report them. `flat` takes them out of whatever has a place, and two steps agree if, from
states that are the same but for columns, they come to such states and to findings that are the same but for columns.
The same line with other padding gives a step that agrees, so whole documents do too.
-/

namespace ChartConfig

open Text

theorem cases_of_map_eq {α β : Type} {f : α → β} {first second : Option α} (same : first.map f = second.map f) :
    (first = none ∧ second = none) ∨ ∃ a b, first = some a ∧ second = some b ∧ f a = f b := by
  cases first with
  | none =>
    cases second with
    | none => exact .inl ⟨rfl, rfl⟩
    | some b => cases same
  | some a =>
    cases second with
    | none => cases same
    | some b => exact .inr ⟨a, b, rfl, rfl, Option.some.inj same⟩

/-! ## Places without columns -/

def Range.flat (r : Range) : Range :=
  ⟨⟨r.start.line, 0⟩, ⟨r.stop.line, 0⟩⟩

def Diagnostic.flat (d : Diagnostic) : Diagnostic :=
  { d with range := d.range.flat }

def Finding.flat : Finding → Finding
  | problem d => problem d.flat
  | note n => note n

def KeywordAt.flat (k : KeywordAt) : KeywordAt :=
  { k with range := k.range.flat }

def Header.flat (h : Header) : Header :=
  { h with range := h.range.flat }

def Mention.flat (m : Mention) : Mention :=
  { m with range := m.range.flat }

def Scope.flat (s : Scope) : Scope :=
  { s with current := s.current.map Header.flat, previous := s.previous.map Header.flat }

def Names.flat (n : Names) : Names :=
  { n with pending := n.pending.map Mention.flat }

def Aliases.flat (a : Aliases) : Aliases :=
  { a with uses := a.uses.map Mention.flat }

@[simp] theorem Text.Piece.flat_range (p : Piece) (number : Nat) :
    (p.range number).flat = Range.onLine number 0 0 := rfl

@[simp] theorem Finding.flat_error (range : Range) (message : String) :
    (Finding.error range message).flat = .error range.flat message := rfl

@[simp] theorem Finding.flat_warning (range : Range) (message : String) :
    (Finding.warning range message).flat = .warning range.flat message := rfl

def SameAnswer {α : Type} (flat : α → α) (first second : α × List Finding) : Prop :=
  flat first.1 = flat second.1 ∧ first.2.map Finding.flat = second.2.map Finding.flat

/-- The two states are the same but for columns. -/
structure State.Same (s t : State) : Prop where
  blocks : s.blocks.map KeywordAt.flat = t.blocks.map KeywordAt.flat
  scope : s.scope.flat = t.scope.flat
  names : s.names.flat = t.names.flat
  aliases : s.aliases.flat = t.aliases.flat
  values : s.values = t.values
  parameters : s.parameters = t.parameters
  csvColumns : s.csvColumns = t.csvColumns
  condition : s.condition = t.condition

theorem State.Same.refl (s : State) : s.Same s :=
  ⟨rfl, rfl, rfl, rfl, rfl, rfl, rfl, rfl⟩

/-! ## Steps that agree -/

/-- Two outcomes of a step are the same but for columns. -/
inductive SameOutcome : Except EngineError (State × List Finding) → Except EngineError (State × List Finding) → Prop
  | ok {s t : State} {found more : List Finding} (same : s.Same t)
      (findings : found.map Finding.flat = more.map Finding.flat) : SameOutcome (.ok (s, found)) (.ok (t, more))
  | error (e : EngineError) : SameOutcome (.error e) (.error e)

namespace Step

def Agrees (first second : Step) : Prop :=
  ∀ s t, State.Same s t → SameOutcome (first s) (second t)

variable {first second third fourth : Step}

theorem agrees_skip : Agrees skip skip :=
  fun _ _ same => .ok same rfl

theorem agrees_update {f g : State → State} (agree : ∀ s t, State.Same s t → (f s).Same (g t)) :
    Agrees (update f) (update g) :=
  fun s t same => .ok (agree s t same) rfl

theorem agrees_report {f g : State → List Finding}
    (agree : ∀ s t, State.Same s t → (f s).map Finding.flat = (g t).map Finding.flat) :
    Agrees (report f) (report g) :=
  fun s t same => .ok same (agree s t same)

theorem sameOutcome_andThen {s t : State} (agreed : SameOutcome (first s) (second t))
    (next : ∀ s₁ t₁ found, first s = .ok (s₁, found) → State.Same s₁ t₁ → SameOutcome (third s₁) (fourth t₁)) :
    SameOutcome (first.andThen third s) (second.andThen fourth t) := by
  simp only [andThen]
  generalize first s = one at agreed next ⊢
  generalize second t = other at agreed ⊢
  cases agreed with
  | error e => exact .error e
  | @ok s₁ t₁ found more same findings =>
    have agreedNext := next s₁ t₁ found rfl same
    simp only
    generalize third s₁ = one at agreedNext ⊢
    generalize fourth t₁ = other at agreedNext ⊢
    cases agreedNext with
    | error e => exact .error e
    | ok same later => exact .ok same (by rw [List.map_append, List.map_append, findings, later])

theorem Agrees.andThen (agree : Agrees first second) (next : Agrees third fourth) :
    Agrees (first.andThen third) (second.andThen fourth) :=
  fun s t same => sameOutcome_andThen (agree s t same) fun s₁ t₁ _ _ same => next s₁ t₁ same

theorem agrees_nil : Agrees (all []) (all []) :=
  agrees_skip

theorem Agrees.cons {steps others : List Step} (agree : Agrees first second) (rest : Agrees (all steps) (all others)) :
    Agrees (all (first :: steps)) (all (second :: others)) :=
  agree.andThen rest

theorem agrees_ite {p : Prop} [Decidable p] (agree : Agrees first second) (otherwise : Agrees third fourth) :
    Agrees (if p then first else third) (if p then second else fourth) := by
  split
  · exact agree
  · exact otherwise

theorem agrees_onlyIf {p : State → Bool} (sees : ∀ s t, State.Same s t → p s = p t) (agree : Agrees first second) :
    Agrees (onlyIf p first) (onlyIf p second) := by
  intro s t same
  simp only [onlyIf, sees s t same]
  split
  · exact agree s t same
  · exact agrees_skip s t same

theorem agrees_onNames {f g : Names → Names × List Finding}
    (agree : ∀ m n : Names, m.flat = n.flat → SameAnswer Names.flat (f m) (g n)) :
    Agrees (onNames f) (onNames g) := by
  intro s t same
  obtain ⟨names, findings⟩ := agree s.names t.names same.names
  exact .ok { same with names } findings

theorem agrees_onAliases {f g : Aliases → Aliases × List Finding}
    (agree : ∀ a b : Aliases, a.flat = b.flat → SameAnswer Aliases.flat (f a) (g b)) :
    Agrees (onAliases f) (onAliases g) := by
  intro s t same
  obtain ⟨aliases, findings⟩ := agree s.aliases t.aliases same.aliases
  exact .ok { same with aliases } findings

end Step

/-! ## Blocks -/

namespace Blocks

variable (blocks : Blocks) (found : KeywordAt)

theorem isIn_flat (keyword : Keyword) : isIn (blocks.map KeywordAt.flat) keyword = isIn blocks keyword := by
  rw [isIn, isIn, List.any_map]
  rfl

theorem innermost?_flat : innermost? (blocks.map KeywordAt.flat) = innermost? blocks := by
  rw [innermost?, innermost?, List.getLast?_map, Option.map_map]
  rfl

theorem close_flat : close (blocks.map KeywordAt.flat) found.flat =
    (close blocks found).map fun answer => (answer.1.map KeywordAt.flat, answer.2.map Finding.flat) := by
  have sameKeyword : found.flat.keyword = found.keyword := rfl
  simp only [close, innermost?_flat, isIn_flat, sameKeyword]
  cases found.keyword.closes with
  | none => rfl
  | some opener =>
    cases innermost? blocks with
    | none => rfl
    | some inner =>
      simp only
      split
      · simp [Except.map, List.map_dropLast]
      · split
        · simp only [Except.map, List.eraseP_map]
          rfl
        · rfl

theorem alternative_flat :
    alternative (blocks.map KeywordAt.flat) found.flat = (alternative blocks found).map Finding.flat := by
  simp only [alternative, innermost?_flat, isIn_flat]
  split
  · rfl
  · cases innermost? blocks with
    | none => rfl
    | some inner =>
      simp only
      split <;> rfl

theorem leftOpen_flat : leftOpen (blocks.map KeywordAt.flat) = (leftOpen blocks).map Finding.flat := by
  simp only [leftOpen, List.map_map]
  rfl

end Blocks

/-! ## Sections -/

namespace Scope

variable (s : Scope) (r : Registry)

theorem name?_flat : s.flat.name? = s.name? := by
  simp only [name?, flat, Option.map_map]
  rfl

theorem holdsTags_flat : s.flat.holdsTags = s.holdsTags := by
  rw [holdsTags, holdsTags, name?_flat]

theorem missing_flat (waived : Bool) (header : Header) :
    s.flat.missing r waived header.flat = (s.missing r waived header).map Finding.flat := by
  simp only [missing, List.map_filterMap, Option.map_map]
  rfl

theorem judge_flat (waived : Bool) :
    s.flat.judge r waived = ((s.judge r waived).1.flat, (s.judge r waived).2.map Finding.flat) := by
  simp only [judge]
  change (if s.judged then _ else _) = _
  split
  · rfl
  · refine Prod.ext rfl ?_
    simp only [flat]
    cases s.current with
    | none => rfl
    | some header => exact s.missing_flat r waived header

theorem bequeath_flat : s.flat.bequeath = s.bequeath.flat := by
  obtain ⟨current, _, _, _, _, _, _, _⟩ := s
  cases current <;> rfl

theorem addCounterpart_flat (setting : Setting) :
    s.flat.addCounterpart r setting = (s.addCounterpart r setting).flat := by
  simp only [addCounterpart]
  split
  · simp only [addSlot]
    change (if s.extraSlots.contains _ then _ else _) = _
    split <;> rfl
  · rfl

theorem record_flat (setting : Setting) :
    s.flat.record setting = ((s.record setting).1.flat, (s.record setting).2) := by
  simp only [record]
  change (if setting.isIn s.settings then _ else _) = _
  split <;> rfl

theorem recordIn_flat (branch : Branch) (setting : Setting) :
    s.flat.recordIn branch setting = ((s.recordIn branch setting).1.flat, (s.recordIn branch setting).2) := rfl

theorem conflicts_flat (setting : Setting) (range : Range) :
    s.flat.conflicts setting range.flat = (s.conflicts setting range).map Finding.flat := by
  simp only [conflicts, List.map_map]
  rfl

end Scope

/-! ## Names -/

namespace Names

variable {m n : Names} {number : Nat} {p q : Piece}

theorem add_flat (n : Names) (name : String) (kind : NameKind) : (n.add name kind).flat = n.flat.add name kind := by
  cases kind <;> rfl

theorem template_of_flat (same : m.flat = n.flat) : m.template = n.template := by
  change m.flat.template = n.flat.template
  rw [same]

theorem all_of_flat (same : m.flat = n.flat) : m.all = n.all := by
  change m.flat.all = n.flat.all
  rw [same]

theorem contains_of_flat (same : m.flat = n.flat) (name : String) : m.contains name = n.contains name := by
  rw [contains, contains, all_of_flat same]

theorem admits_of_flat (same : m.flat = n.flat) (kind : NameKind) (name : String) :
    m.admits kind name = n.admits kind name := by
  rw [admits, admits, contains_of_flat same]

theorem declare_same (same : m.flat = n.flat) (kind : NameKind) (text : p.text = q.text) :
    SameAnswer Names.flat (m.declare kind number p) (n.declare kind number q) := by
  have word : p.word = q.word := congrArg String.ofList text
  simp only [declare, word, admits_of_flat same]
  split
  · exact ⟨by rw [add_flat, add_flat, same], rfl⟩
  · exact ⟨same, rfl⟩

theorem declare?_same (same : m.flat = n.flat) (kind : NameKind) {first second : Option Piece}
    (texts : first.map Piece.text = second.map Piece.text) :
    SameAnswer Names.flat (m.declare? kind number first) (n.declare? kind number second) := by
  cases cases_of_map_eq texts with
  | inl none => rw [none.1, none.2]; exact ⟨same, rfl⟩
  | inr some =>
    obtain ⟨p, q, rfl, rfl, text⟩ := some
    exact declare_same same kind text

theorem useCollection_same (same : m.flat = n.flat) {first second : Option Piece}
    (texts : first.map Piece.text = second.map Piece.text) :
    SameAnswer Names.flat (m.useCollection number p first) (n.useCollection number q second) := by
  cases cases_of_map_eq texts with
  | inl none => rw [none.1, none.2]; exact ⟨same, rfl⟩
  | inr some =>
    obtain ⟨a, b, rfl, rfl, text⟩ := some
    have word : a.word = b.word := congrArg String.ofList text
    simp only [useCollection, word, contains_of_flat same]
    split
    · exact ⟨same, rfl⟩
    · refine ⟨?_, rfl⟩
      have noted (n : Names) (c : Piece) : Names.flat { n with pending := n.pending ++ [⟨b.word, c.range number⟩] } =
          { n.flat with pending := n.flat.pending ++ [⟨b.word, Range.onLine number 0 0⟩] } := by
        simp [Names.flat, Mention.flat]
      rw [noted, noted, same]

theorem openLoop_same (same : m.flat = n.flat) {line other : List Char} (alike : Alike line other) :
    SameAnswer Names.flat (m.openLoop number line) (n.openLoop number other) := by
  have collection : (Line.loopCollection? line).map Piece.text = (Line.loopCollection? other).map Piece.text :=
    alike.congr fun _ _ => Line.loopCollection?_padded
  have pair : (Line.loopVariable? line).map (Prod.map Piece.text Piece.text) =
      (Line.loopVariable? other).map (Prod.map Piece.text Piece.text) :=
    alike.congr fun _ _ => Line.loopVariable?_padded
  simp only [openLoop]
  have nested (n : Names) (fresh : Bool) : Names.flat { n with scopes := n.scopes ++ [fresh] } =
      { n.flat with scopes := n.flat.scopes ++ [fresh] } := rfl
  cases cases_of_map_eq pair with
  | inl none =>
    rw [none.1, none.2]
    exact ⟨by rw [nested, nested, same], rfl⟩
  | inr some =>
    obtain ⟨⟨item, sign⟩, ⟨otherItem, otherSign⟩, first, second, texts⟩ := some
    have text : item.text = otherItem.text := congrArg Prod.fst texts
    have word : item.word = otherItem.word := congrArg String.ofList text
    rw [first, second]
    simp only
    obtain ⟨used, usedFindings⟩ := @useCollection_same m n number sign otherSign same _ _ collection
    obtain ⟨declared, declaredFindings⟩ := @declare_same _ _ number _ _ used .loop text
    refine ⟨?_, by rw [List.map_append, List.map_append, usedFindings, declaredFindings]⟩
    rw [nested, nested, declared, word, admits_of_flat used]

theorem closeLoop_flat (n : Names) : n.closeLoop.flat = n.flat.closeLoop := rfl

theorem declareTemplate_same {measure : Measure} (same : m.flat = n.flat) {d e : TemplateDeclaration} (texts : d.texts = e.texts) :
    SameAnswer Names.flat (m.declareTemplate measure number d) (n.declareTemplate measure number e) := by
  have collection : d.collection.map Piece.text = e.collection.map Piece.text := congrArg Prod.fst texts
  have name : d.name.text = e.name.text := congrArg Prod.snd texts
  obtain ⟨declared, findings⟩ := @declare_same m n number d.name e.name same .template name
  refine ⟨declared, ?_⟩
  simp only [declareTemplate, List.map_append, findings]
  congr 1
  cases cases_of_map_eq collection with
  | inl none => rw [none.1, none.2]
  | inr some =>
    obtain ⟨a, b, first, second, text⟩ := some
    have word : a.word = b.word := congrArg String.ofList text
    rw [first, second]
    simp only [template_of_flat same, word]
    split <;> rfl

theorem unresolved_flat {measure : Measure} (n : Names) :
    n.flat.unresolved measure = (n.unresolved measure).map Finding.flat := by
  simp only [unresolved, flat, List.filter_map, List.map_map]
  rfl

end Names

/-! ## Aliases -/

namespace Aliases

variable {a b : Aliases} {number : Nat} {line other : List Char}

theorem declare_same (same : a.flat = b.flat) (alike : Alike line other) :
    SameAnswer Aliases.flat (a.declare number line) (b.declare number other) := by
  have name : (Line.aliasName? line).map Piece.text = (Line.aliasName? other).map Piece.text :=
    alike.congr fun _ _ => Line.aliasName?_padded
  obtain ⟨declared, uses⟩ := Aliases.mk.inj same
  simp only [declare]
  cases cases_of_map_eq name with
  | inl none => rw [none.1, none.2]; exact ⟨same, rfl⟩
  | inr some =>
    obtain ⟨p, q, first, second, text⟩ := some
    have word : p.word = q.word := congrArg String.ofList text
    rw [first, second]
    simp only [word, declared]
    split
    · exact ⟨same, rfl⟩
    · exact ⟨by simp only [flat, uses], rfl⟩

theorem use_same (same : a.flat = b.flat) (alike : Alike line other) :
    (a.use number line).flat = (b.use number other).flat := by
  have texts : (Reference.aliasUses line).map Piece.text = (Reference.aliasUses other).map Piece.text :=
    alike.congr fun _ _ => Reference.aliasUses_padded
  have byTexts (a : Aliases) (line : List Char) : (a.use number line).flat =
      { a.flat with
        uses := a.flat.uses ++ ((Reference.aliasUses line).map Piece.text).map fun text =>
          ⟨String.ofList text, Range.onLine number 0 0⟩ } := by
    simp only [use, flat, List.map_append, List.map_map]
    rfl
  rw [byTexts, byTexts, same, texts]

theorem unresolved_flat {measure : Measure} (a : Aliases) :
    a.flat.unresolved measure = (a.unresolved measure).map Finding.flat := by
  simp only [unresolved, flat, List.filter_map, List.map_map]
  rfl

end Aliases

/-! ## Assignments -/

namespace State.Same

variable {s t : State}

theorem isIn (same : s.Same t) (keyword : Keyword) : s.blocks.isIn keyword = t.blocks.isIn keyword := by
  rw [← Blocks.isIn_flat s.blocks, same.blocks, Blocks.isIn_flat]

theorem name? (same : s.Same t) : s.scope.name? = t.scope.name? := by
  rw [← s.scope.name?_flat, same.scope, t.scope.name?_flat]

end State.Same

theorem Setting.repetition_flat (setting : Setting) (range : Range) (name : String) :
    (setting.repetition range name).flat = setting.repetition range.flat name := by
  simp only [repetition]
  repeat' split
  all_goals rfl

theorem Setting.check_flat (setting : Setting) (value : List Char) (range : Range) (name : String) :
    (setting.check value range name).map Diagnostic.flat = setting.check value range.flat name := by
  simp only [check, Option.map_map]
  rfl

namespace Assign

variable {r : Registry} {number : Nat} {line other : List Char} {a b : Assignment} {s t : State}

theorem declare_agrees (setting : Setting) (name : String) {range place : Range} (flat : range.flat = place.flat) :
    Step.Agrees (declare setting name range) (declare setting name place) := by
  have reported (fresh : Bool) :
      (if fresh then [] else [Finding.problem (setting.repetition range name)]).map Finding.flat =
        (if fresh then [] else [Finding.problem (setting.repetition place name)]).map Finding.flat := by
    cases fresh with
    | true => simp
    | false =>
      simp only [Bool.false_eq_true, if_false, List.map_cons, List.map_nil, Finding.flat, Setting.repetition_flat, flat]
  have line : range.start.line = place.start.line := congrArg (·.start.line) flat
  intro s t same
  simp only [declare, same.isIn, same.condition, line]
  split
  · cases t.condition with
    | none => exact .error _
    | some branch =>
      have recorded := s.scope.recordIn_flat branch setting
      rw [same.scope, t.scope.recordIn_flat branch setting] at recorded
      obtain ⟨scope, fresh⟩ := Prod.mk.inj recorded
      simp only [fresh]
      exact .ok { same with scope := scope.symm, condition := rfl } (reported _)
  · have recorded := s.scope.record_flat setting
    rw [same.scope, t.scope.record_flat setting] at recorded
    obtain ⟨scope, fresh⟩ := Prod.mk.inj recorded
    simp only [fresh]
    exact .ok { same with scope := scope.symm, condition := rfl } (reported _)

theorem templateWords_same (same : s.Same t) {value copy : Piece} (text : value.text = copy.text) :
    (templateWords r number value s).map Finding.flat = (templateWords r number copy t).map Finding.flat := by
  simp only [templateWords, List.map_flatMap, List.map_map, text, Names.template_of_flat same.names]
  rfl

theorem loopIdentifiers_same (same : s.Same t) (alike : Alike line other) :
    (loopIdentifiers r number line s).map Finding.flat = (loopIdentifiers r number other t).map Finding.flat := by
  have texts : (Reference.loopExpressions line).map Piece.text = (Reference.loopExpressions other).map Piece.text :=
    alike.congr fun _ _ => Reference.loopExpressions_padded
  have byTexts (s : State) (line : List Char) : (loopIdentifiers r number line s).map Finding.flat =
      ((Reference.loopExpressions line).map Piece.text).flatMap fun text =>
        ((Reference.identifiers text).filter fun i => !i.isExempt && !s.names.contains i.piece.word).map fun i =>
          .error (Range.onLine number 0 0) (Message.unknownAmong i.piece.word s.names.all r.measure) := by
    simp only [loopIdentifiers, List.map_flatMap, List.flatMap_map, List.map_map]
    rfl
  simp only [byTexts, texts, Names.contains_of_flat same.names, Names.all_of_flat same.names]

theorem known_agrees (alike : Alike line other) (texts : a.texts = b.texts) (setting : Setting) :
    Step.Agrees (known r number line a setting) (known r number other b setting) := by
  obtain ⟨name, value⟩ := Prod.mk.inj texts
  have word : a.name.word = b.name.word := congrArg String.ofList name
  have flat : (a.name.range number).flat = (b.name.range number).flat := rfl
  simp only [known, name, value, word]
  refine .cons (Step.agrees_report fun s t same => ?severalWords) ?_
  case severalWords => split <;> rfl
  refine .cons (Step.agrees_update fun s t same => { same with scope := ?counterpart }) ?_
  case counterpart => rw [← s.scope.addCounterpart_flat, same.scope, t.scope.addCounterpart_flat]
  refine .cons (Step.agrees_ite Step.agrees_skip (declare_agrees setting _ flat)) ?_
  refine .cons (Step.agrees_report fun s t same => ?check) ?_
  case check =>
    split
    · rfl
    · have problems (range : Range) : ((setting.check b.value.text range b.name.word).map Finding.problem).toList.map
          Finding.flat = ((setting.check b.value.text range.flat b.name.word).map Finding.problem).toList := by
        rw [← Setting.check_flat]
        cases setting.check b.value.text range b.name.word <;> rfl
      rw [problems, problems, flat]
  refine .cons (Step.agrees_report fun s t same => ?conflicts) ?_
  case conflicts => rw [← Scope.conflicts_flat, same.scope, flat, Scope.conflicts_flat]
  refine .cons (Step.agrees_ite (Step.agrees_update fun s t same => { same with parameters := ?address })
    (Step.agrees_report fun s t same => templateWords_same same value)) ?_
  case address => rw [addressParameters, addressParameters, value]
  refine .cons (Step.agrees_ite (Step.agrees_onAliases fun _ _ same => Aliases.declare_same same alike)
    Step.agrees_skip) ?_
  exact .cons (Step.agrees_update fun s t same => { same with aliases := Aliases.use_same same.aliases alike })
    Step.agrees_nil

theorem tag_same (texts : a.texts = b.texts) :
    (tag r a.name (a.name.range number)).map Finding.flat = (tag r b.name (b.name.range number)).map Finding.flat := by
  have name : a.name.text = b.name.text := congrArg Prod.fst texts
  have word : a.name.word = b.name.word := congrArg String.ofList name
  simp only [tag, name, word, List.map_append]
  congr 1 <;> split <;> rfl

theorem unknownSetting_same (same : s.Same t) (texts : a.texts = b.texts) :
    (unknownSetting r a.name (a.name.range number) s).map Finding.flat =
      (unknownSetting r b.name (b.name.range number) t).map Finding.flat := by
  have name : a.name.text = b.name.text := congrArg Prod.fst texts
  have word : a.name.word = b.name.word := congrArg String.ofList name
  simp only [unknownSetting, candidates, name, word, same.name?, same.parameters, Names.all_of_flat same.names]
  repeat' split
  all_goals rfl

theorem step_agrees (alike : Alike line other) (texts : a.texts = b.texts) :
    Step.Agrees (step r number line a) (step r number other b) := by
  intro s t same
  obtain ⟨name, value⟩ := Prod.mk.inj texts
  have word : a.name.word = b.name.word := congrArg String.ofList name
  have valueWord : a.value.word = b.value.word := congrArg String.ofList value
  have holdsTags : s.scope.holdsTags = t.scope.holdsTags := by
    rw [← s.scope.holdsTags_flat, same.scope, t.scope.holdsTags_flat]
  simp only [step, word, valueWord, holdsTags]
  split
  · exact .ok same (tag_same texts)
  · have noted : State.Same
        { s with values := (canonicalName b.name.word, canonicalName b.value.word) :: s.values }
        { t with values := (canonicalName b.name.word, canonicalName b.value.word) :: t.values } :=
      { same with values := by rw [same.values] }
    cases r.lookup b.name.word with
    | none => exact .ok noted (unknownSetting_same noted texts)
    | some setting => exact known_agrees alike texts setting _ _ noted

end Assign

end ChartConfig
