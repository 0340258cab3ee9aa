import ChartConfig.Proofs.Validation.Location

/-!
# A run, seen by its control and its ledger

Reading a line changes the control and the ledger of a state as `Control.next` and `Ledger.read` say, and it
never fails while an open condition has a branch in force. Of the demands that a run makes of a header, all
come from the verdicts of the ledger: nothing else is reported as required on the line of a header.
-/

namespace ChartConfig

open Text Finding

/-! ## Lines that are no headers -/

/-- A change on a line that is no header: the control and the ledger become the given ones, and whatever is
    found or kept stands on the line. -/
structure State.Moves (number : Nat) (control : Control) (ledger : Ledger) (s after : State)
    (found : List Finding) : Prop where
  control_eq : after.control = control
  ledger_eq : after.ledger = ledger
  kept : State.KeepsOn number s after
  foundOn : AllOn number found

namespace State

variable {number : Nat} {control : Control} {ledger : Ledger} {s between after : State}
  {found more : List Finding}

theorem KeepsOn.of_eq (aliases : after.aliases.uses = s.aliases.uses)
    (names : after.names.pending = s.names.pending) (blocks : after.blocks = s.blocks) :
    KeepsOn number s after := by
  intro range member
  rw [mem_kept, aliases, names, blocks] at member
  exact .inl (mem_kept.mpr member)

theorem KeepsOn.trans (first : KeepsOn number s between) (second : KeepsOn number between after) :
    KeepsOn number s after := by
  intro range member
  rcases second range member with old | new
  · exact first range old
  · exact .inr new

theorem Moves.trans {control' : Control} {ledger' : Ledger}
    (first : Moves number control' ledger' s between found)
    (second : Moves number control ledger between after more) :
    Moves number control ledger s after (found ++ more) :=
  ⟨second.control_eq, second.ledger_eq, first.kept.trans second.kept,
    allOn_append.mpr ⟨first.foundOn, second.foundOn⟩⟩

theorem Moves.report (moved : Moves number control ledger s after found) (moreOn : AllOn number more) :
    Moves number control ledger s after (found ++ more) :=
  { moved with foundOn := allOn_append.mpr ⟨moved.foundOn, moreOn⟩ }

theorem Moves.refl (foundOn : AllOn number found) : Moves number s.control s.ledger s s found :=
  ⟨rfl, rfl, .of_eq rfl rfl rfl, foundOn⟩

end State

open State

namespace Step

variable {number : Nat} {control betweenControl : Control} {ledger betweenLedger : Ledger} {s : State}
  {step : Step} {rest : List Step}

theorem moves_andThen {second : Step}
    (first : step.Ensures s (Moves number betweenControl betweenLedger s))
    (thenSecond : ∀ between : State, between.control = betweenControl → between.ledger = betweenLedger →
      second.Ensures between (Moves number control ledger between)) :
    (step.andThen second).Ensures s (Moves number control ledger s) := by
  apply ensures_andThen
  apply first.mono
  intro between found moved
  apply (thenSecond between moved.control_eq moved.ledger_eq).mono
  intro after more movedOn
  exact moved.trans movedOn

theorem moves_cons (first : step.Ensures s (Moves number betweenControl betweenLedger s))
    (thenRest : ∀ between : State, between.control = betweenControl → between.ledger = betweenLedger →
      (all rest).Ensures between (Moves number control ledger between)) :
    (all (step :: rest)).Ensures s (Moves number control ledger s) :=
  moves_andThen first thenRest

theorem moves_nil (sameControl : s.control = control) (sameLedger : s.ledger = ledger) :
    (all []).Ensures s (Moves number control ledger s) := by
  subst sameControl sameLedger
  exact ensures_all_nil (.refl allOn_nil)

theorem moves_report {f : State → List Finding} (foundOn : AllOn number (f s)) :
    (report f).Ensures s (Moves number s.control s.ledger s) :=
  ensures_report (.refl foundOn)

end Step

/-! ### Assignments -/

namespace Assign

variable {r : Registry} {number : Nat} {line : List Char} {s : State}

theorem tag_on (name : Piece) (range : Range) (place : range.start.line = number) :
    AllOn number (tag r name range) := by
  unfold tag
  rw [allOn_append]
  constructor
  · split
    · simp [Diagnostic.information, place]
    · exact allOn_nil
  · split
    · simp [place]
    · exact allOn_nil

theorem unknownSetting_on (name : Piece) (range : Range) (place : range.start.line = number) :
    AllOn number (unknownSetting r name range s) := by
  unfold unknownSetting
  split
  · exact allOn_nil
  · split
    · exact allOn_nil
    · simp [place]

theorem templateWords_on (value : Piece) : AllOn number (templateWords r number value s) := by
  intro f member
  simp only [templateWords, List.mem_flatMap, List.mem_map] at member
  obtain ⟨body, -, word, -, rfl⟩ := member
  simp

theorem loopIdentifiers_on : AllOn number (loopIdentifiers r number line s) := by
  intro f member
  simp only [loopIdentifiers, List.mem_flatMap, List.mem_map] at member
  obtain ⟨expression, -, identifier, -, rfl⟩ := member
  simp

theorem conflicts_on (scope : Scope) (setting : Setting) (range : Range)
    (place : range.start.line = number) : AllOn number (scope.conflicts setting range) := by
  intro f member
  simp only [Scope.conflicts, List.mem_map] at member
  obtain ⟨other, -, rfl⟩ := member
  simp [place]

theorem repetition_on (setting : Setting) (range : Range) (name : String) :
    (setting.repetition range name).range = range := by
  unfold Setting.repetition
  split
  · rfl
  · split
    · rfl
    · split <;> rfl

theorem check_on (setting : Setting) (value : List Char) (range : Range) (name : String)
    (place : range.start.line = number) :
    AllOn number ((setting.check value range name).map Finding.problem).toList := by
  simp only [Setting.check]
  cases setting.fault? value with
  | none => exact allOn_nil
  | some fault => simp [place]

theorem declare_ensures (armed : s.control.Armed) (setting : Setting) (name : String) (range : Range)
    (place : range.start.line = number) :
    (declare setting name range).Ensures s fun after found =>
      after = { s with scope := s.scope.recordUnder s.control.branch? setting } ∧ AllOn number found := by
  have answerOn (fresh : Bool) :
      AllOn number (if fresh then [] else [.problem (setting.repetition range name)]) := by
    cases fresh with
    | true => exact allOn_nil
    | false => simp [repetition_on, place]
  cases conditional : s.blocks.isIn .ifBlock with
  | false =>
    refine ⟨_, _, ?_, rfl, answerOn (s.scope.record setting).2⟩
    simp [declare, conditional, Control.branch?, State.control, Scope.recordUnder]
  | true =>
    -- The one place where a run could fail: a condition is open and no branch is in force.
    obtain ⟨branch, inForce⟩ := Option.isSome_iff_exists.mp (armed conditional)
    change s.condition = some branch at inForce
    refine ⟨_, _, ?_, rfl, answerOn (s.scope.recordIn branch setting).2⟩
    simp [declare, conditional, inForce, Control.branch?, State.control, Scope.recordUnder]

theorem moves_scope {scope : Scope} {found : List Finding} (foundOn : AllOn number found) :
    State.Moves number s.control ⟨scope, s.values⟩ s { s with scope } found :=
  ⟨rfl, rfl, .of_eq rfl rfl rfl, foundOn⟩

theorem declareOnce_ensures (armed : s.control.Armed) (setting : Setting) (name : String) (range : Range)
    (place : range.start.line = number) :
    (if setting.multiLine then Step.skip else declare setting name range).Ensures s
      (State.Moves number s.control
        ⟨if setting.multiLine then s.scope else s.scope.recordUnder s.control.branch? setting, s.values⟩ s) := by
  cases setting.multiLine with
  | true => exact Step.ensures_skip (.refl allOn_nil)
  | false =>
    apply (declare_ensures armed setting name range place).mono
    rintro after found ⟨rfl, foundOn⟩
    exact moves_scope foundOn

theorem value_ensures (value : Piece) (setting : Setting) :
    (if setting.name == "urlparameters" then
        Step.update fun s => { s with parameters := addressParameters value }
      else .report (templateWords r number value)).Ensures s
      (State.Moves number s.control s.ledger s) := by
  split
  · exact Step.ensures_update ⟨rfl, rfl, .of_eq rfl rfl rfl, allOn_nil⟩
  · exact Step.ensures_report (.refl (templateWords_on value))

theorem alias_ensures (setting : Setting) :
    (if setting.name == "alias" then Step.onAliases (·.declare number line) else .skip).Ensures s
      (State.Moves number s.control s.ledger s) := by
  split
  · obtain ⟨same, foundOn⟩ := Aliases.declare_on s.aliases number line
    exact Step.ensures_onAliases ⟨rfl, rfl, .of_eq same rfl rfl, foundOn⟩
  · exact Step.ensures_skip (.refl allOn_nil)

theorem uses_ensures :
    (Step.update fun s => { s with aliases := s.aliases.use number line }).Ensures s
      (State.Moves number s.control s.ledger s) := by
  refine Step.ensures_update ⟨rfl, rfl, ?_, allOn_nil⟩
  intro range member
  rcases mem_kept.mp member with ⟨m, used, rfl⟩ | others
  · rcases Aliases.mem_use s.aliases number line used with old | new
    · exact .inl (mem_kept.mpr (.inl ⟨m, old, rfl⟩))
    · exact .inr new
  · exact .inl (mem_kept.mpr (.inr others))

theorem known_ensures (armed : s.control.Armed) (a : Assignment) (setting : Setting) :
    (known r number line a setting).Ensures s
      (State.Moves number s.control ⟨Ledger.declare s.scope r s.control.branch? setting, s.values⟩ s) := by
  have place : (a.name.range number).start.line = number := line_range a.name
  unfold known
  apply Step.moves_cons (Step.moves_report (f := fun _ => _) ?severalWords)
  case severalWords => split <;> simp
  intro s₁ control₁ ledger₁
  apply Step.moves_cons (Step.ensures_update (moves_scope allOn_nil))
  intro s₂ control₂ ledger₂
  have armed₂ : s₂.control.Armed := by rw [control₂, control₁]; exact armed
  apply Step.moves_cons (declareOnce_ensures armed₂ setting _ _ place)
  intro s₃ control₃ ledger₃
  apply Step.moves_cons (Step.moves_report (f := fun _ => _) ?check)
  case check =>
    split
    · exact allOn_nil
    · exact check_on setting _ _ _ place
  intro s₄ control₄ ledger₄
  apply Step.moves_cons (Step.moves_report (conflicts_on s₄.scope setting _ place))
  intro s₅ control₅ ledger₅
  apply Step.moves_cons (value_ensures a.value setting)
  intro s₆ control₆ ledger₆
  apply Step.moves_cons (alias_ensures setting)
  intro s₇ control₇ ledger₇
  apply Step.moves_cons uses_ensures
  intro s₈ control₈ ledger₈
  apply Step.moves_nil
  · rw [control₈, control₇, control₆, control₅, control₄, control₃, control₂, control₁]
  · rw [ledger₈, ledger₇, ledger₆, ledger₅, ledger₄, ledger₃, control₂, control₁]
    have scope₁ : s₁.scope = s.scope := congrArg Ledger.scope ledger₁
    have values₁ : s₁.values = s.values := congrArg Ledger.values ledger₁
    have scope₂ : s₂.scope = s₁.scope.addCounterpart r setting := congrArg Ledger.scope ledger₂
    have values₂ : s₂.values = s₁.values := congrArg Ledger.values ledger₂
    rw [scope₂, values₂, scope₁, values₁]
    rfl

theorem step_ensures (armed : s.control.Armed) (a : Assignment) :
    (step r number line a).Ensures s (State.Moves number s.control
      (s.ledger.assign r ⟨canonicalName a.name.word, canonicalName a.value.word, r.lookup a.name.word,
        s.control.branch?⟩) s) := by
  have place : (a.name.range number).start.line = number := line_range a.name
  cases tags : s.scope.holdsTags with
  | true =>
    have unchanged (e : Entry) : s.ledger.assign r e = s.ledger := by
      simp [Ledger.assign, State.ledger, tags]
    rw [unchanged]
    exact ⟨s, tag r a.name (a.name.range number), by simp [step, tags], .refl (tag_on a.name _ place)⟩
  | false =>
    cases found : r.lookup a.name.word with
    | none =>
      refine ⟨_, _, by simp only [step, tags, found, Bool.false_eq_true, if_false]; rfl, ?_⟩
      refine ⟨rfl, ?_, .of_eq rfl rfl rfl, unknownSetting_on a.name _ place⟩
      simp [Ledger.assign, State.ledger, tags]
    | some setting =>
      let noted : State :=
        { s with values := (canonicalName a.name.word, canonicalName a.value.word) :: s.values }
      have notedArmed : noted.control.Armed := armed
      obtain ⟨after, more, ran, moved⟩ := @known_ensures r number line noted notedArmed a setting
      refine ⟨after, more, by simp only [step, tags, found, Bool.false_eq_true, if_false]; exact ran, ?_⟩
      refine ⟨moved.control_eq, ?_, moved.kept, moved.foundOn⟩
      rw [moved.ledger_eq]
      simp [noted, Ledger.assign, State.ledger, tags, State.control]

end Assign

/-! ### Plain lines -/

namespace Step

variable {r : Registry} {number : Nat} {line : List Char} {s : State}

theorem assignment_ensures (armed : s.control.Armed) (a : Assignment) :
    ((Assign.step r number line a).andThen
      (onlyIf (·.blocks.isIn .forBlock) (report (Assign.loopIdentifiers r number line)))).Ensures s
      (Moves number s.control
        (s.ledger.assign r ⟨canonicalName a.name.word, canonicalName a.value.word, r.lookup a.name.word,
          s.control.branch?⟩) s) := by
  apply ensures_andThen
  apply (Assign.step_ensures armed a).mono
  intro between found moved
  cases looping : between.blocks.isIn .forBlock with
  | true =>
    refine ⟨_, _, by simp only [onlyIf, looping, if_true]; rfl, ?_⟩
    exact moved.report Assign.loopIdentifiers_on
  | false =>
    refine ⟨_, _, by simp only [onlyIf, looping, Bool.false_eq_true, if_false]; rfl, ?_⟩
    exact moved.report allOn_nil

def plainLedger (r : Registry) (line : List Char) (s : State) : Ledger :=
  match Line.assignment? line with
  | some a =>
    s.ledger.assign r
      ⟨canonicalName a.name.word, canonicalName a.value.word, r.lookup a.name.word, s.control.branch?⟩
  | none => s.ledger

theorem template_ensures :
    (match Line.templateDeclaration? line with
      | some d => onNames (·.declareTemplate r.measure number d)
      | none => skip).Ensures s (Moves number s.control s.ledger s) := by
  split
  · next d _ =>
    obtain ⟨same, foundOn⟩ := Names.declareTemplate_on s.names number d
    exact ensures_onNames ⟨rfl, rfl, .of_eq rfl same rfl, foundOn⟩
  · exact ensures_skip (.refl allOn_nil)

theorem plainLine_ensures (armed : s.control.Armed) :
    (plainLine r number line).Ensures s (Moves number s.control (plainLedger r line s) s) := by
  unfold plainLine
  have assigned : (match Line.assignment? line with
      | some a =>
        (Assign.step r number line a).andThen
          (onlyIf (·.blocks.isIn .forBlock) (report (Assign.loopIdentifiers r number line)))
      | none => skip).Ensures s (Moves number s.control (plainLedger r line s) s) := by
    unfold plainLedger
    cases Line.assignment? line with
    | none => exact ensures_skip (.refl allOn_nil)
    | some a => exact assignment_ensures armed a
  apply moves_cons assigned
  intro s₁ control₁ ledger₁
  apply moves_cons template_ensures
  intro s₂ control₂ ledger₂
  apply moves_cons (moves_report (f := fun _ => _) ?unclosed)
  case unclosed =>
    cases unclosed : Line.unclosedHeaderName? line with
    | none => simp [Line.unclosedHeader?, unclosed]
    | some name => simp [Line.unclosedHeader?, unclosed]
  intro s₃ control₃ ledger₃
  apply moves_nil
  · rw [control₃, control₂, control₁]
  · rw [ledger₃, ledger₂, ledger₁]

/-! ### Keywords -/

variable {following : List (List Char)} {found : KeywordAt}

theorem moves_blocks {blocks : Blocks} {problems : List Finding}
    (members : ∀ b ∈ blocks, b ∈ s.blocks ∨ b.range.start.line = number) (problemsOn : AllOn number problems) :
    Moves number ⟨blocks, s.condition⟩ s.ledger s { s with blocks } problems := by
  refine ⟨rfl, rfl, ?_, problemsOn⟩
  intro range member
  rcases mem_kept.mp member with used | pending | ⟨b, inBlocks, rfl⟩
  · exact .inl (mem_kept.mpr (.inl used))
  · exact .inl (mem_kept.mpr (.inr (.inl pending)))
  · rcases members b inBlocks with old | new
    · exact .inl (mem_kept.mpr (.inr (.inr ⟨b, old, rfl⟩)))
    · exact .inr new

theorem openBlock_ensures (place : found.range.start.line = number) :
    (openBlock found).Ensures s (Moves number ⟨s.blocks ++ [found], s.condition⟩ s.ledger s) := by
  refine ensures_update (moves_blocks (fun b member => ?_) allOn_nil)
  rcases List.mem_append.mp member with old | new
  · exact .inl old
  · rw [List.mem_singleton] at new
    exact .inr (new ▸ place)

theorem closeBlock_ensures {opener : Keyword} (closes : found.keyword.closes = some opener)
    (place : found.range.start.line = number) :
    (closeBlock found).Ensures s (Moves number ⟨s.blocks.without opener, s.condition⟩ s.ledger s) := by
  obtain ⟨problems, closed, problemsOn⟩ := Blocks.close_eq s.blocks closes place
  refine ⟨{ s with blocks := s.blocks.without opener }, problems, by simp only [closeBlock, closed], ?_⟩
  exact moves_blocks (fun b member => .inl (Blocks.mem_of_mem_without member)) problemsOn

theorem names_ensures {f : Names → Names × List Finding}
    (pending : ∀ m ∈ (f s.names).1.pending, m ∈ s.names.pending ∨ m.range.start.line = number)
    (foundOn : AllOn number (f s.names).2) :
    (onNames f).Ensures s (Moves number s.control s.ledger s) := by
  refine ensures_onNames ⟨rfl, rfl, ?_, foundOn⟩
  intro range member
  rcases mem_kept.mp member with used | ⟨m, inPending, rfl⟩ | blocks
  · exact .inl (mem_kept.mpr (.inl used))
  · rcases pending m inPending with old | new
    · exact .inl (mem_kept.mpr (.inr (.inl ⟨m, old, rfl⟩)))
    · exact .inr new
  · exact .inl (mem_kept.mpr (.inr (.inr blocks)))

theorem declare?_ensures (kind : NameKind) (piece : Option Piece) :
    (onNames (·.declare? kind number piece)).Ensures s (Moves number s.control s.ledger s) := by
  obtain ⟨same, foundOn⟩ := Names.declare?_on s.names number kind piece
  exact names_ensures (fun m member => .inl (same ▸ member)) foundOn

theorem setCondition_ensures :
    (setCondition found).Ensures s
      (Moves number ⟨s.blocks, some (Branch.ofKeyword found)⟩ s.ledger s) :=
  ensures_update ⟨rfl, rfl, .of_eq rfl rfl rfl, allOn_nil⟩

theorem openWhen_ensures (opens : Bool) (place : found.range.start.line = number) :
    (if opens then openBlock found else skip).Ensures s
      (Moves number ⟨if opens then s.blocks ++ [found] else s.blocks, s.condition⟩ s.ledger s) := by
  cases opens with
  | true => exact openBlock_ensures place
  | false => exact ensures_skip (.refl allOn_nil)

theorem openTable_ensures :
    (openTable number line following).Ensures s (Moves number s.control s.ledger s) := by
  unfold openTable
  apply moves_cons (declare?_ensures .csv _)
  intro s₁ control₁ ledger₁
  apply moves_cons (ensures_update ⟨rfl, rfl, .of_eq rfl rfl rfl, allOn_nil⟩)
  intro s₂ control₂ ledger₂
  exact moves_nil (control₂.trans control₁) (ledger₂.trans ledger₁)

theorem openScript_ensures (place : found.range.start.line = number) :
    (openScript found line).Ensures s
      (Moves number ⟨if !Line.isOneLineScript line then s.blocks ++ [found] else s.blocks, s.condition⟩
        s.ledger s) := by
  unfold openScript
  cases Line.isOneLineScript line with
  | true => exact ensures_skip (.refl allOn_nil)
  | false =>
    simp only [Bool.false_eq_true, if_false, Bool.not_false, if_true]
    apply moves_andThen (openBlock_ensures place)
    intro s₁ control₁ ledger₁
    apply ensures_report
    refine ⟨control₁, ledger₁, .of_eq rfl rfl rfl, ?_⟩
    split
    · simp [place]
    · exact allOn_nil

/-- The control after the keyword itself, once a block that always nests has been opened. -/
def afterHandler (c : Control) (line : List Char) (following : List (List Char)) (found : KeywordAt) :
    Control where
  blocks := if found.keyword.alwaysNests then c.blocks else c.blocks.afterKeyword line following found
  condition := if found.keyword.startsBranch then some (Branch.ofKeyword found) else c.condition

theorem keyword_ensures (place : found.range.start.line = number) :
    (keyword number line following found).Ensures s
      (Moves number (afterHandler s.control line following found) s.ledger s) := by
  obtain ⟨kind, range⟩ := found
  cases kind with
  | endFor =>
    apply moves_andThen (ensures_update ⟨rfl, rfl, .of_eq rfl rfl rfl, allOn_nil⟩)
    intro s₁ control₁ ledger₁
    change s₁.control = s.control at control₁
    change s₁.ledger = s.ledger at ledger₁
    rw [← control₁, ← ledger₁]
    exact closeBlock_ensures rfl place
  | endIf | endVar | endCsv | endList | endScript => exact closeBlock_ensures rfl place
  | elseBlock | elseIf =>
    simp only [keyword]
    apply moves_andThen setCondition_ensures
    intro s₁ control₁ ledger₁
    exact ensures_report ⟨control₁, ledger₁, .of_eq rfl rfl rfl, Blocks.alternative_on _ place⟩
  | csv => exact openTable_ensures
  | var =>
    simp only [keyword]
    apply moves_andThen (openWhen_ensures (Line.varNeedsEnd line) place)
    intro s₁ control₁ ledger₁
    have declared := @declare?_ensures number s₁ .var (Line.varName? line)
    rw [control₁, ledger₁] at declared
    exact declared
  -- A list is declared first and opened then, a variable the other way round.
  | list =>
    simp only [keyword]
    apply moves_andThen (declare?_ensures .list _)
    intro s₁ control₁ ledger₁
    rw [← control₁, ← ledger₁]
    exact openWhen_ensures (Line.listNeedsEnd line following) place
  | forBlock =>
    obtain ⟨pending, foundOn⟩ := Names.openLoop_on s.names number line
    exact @names_ensures number s (·.openLoop number line) pending foundOn
  | ifBlock => exact setCondition_ensures
  | script => exact openScript_ensures place
  | importing => exact ensures_skip (.refl allOn_nil)

theorem afterHandler_opened (c : Control) :
    afterHandler ⟨if found.keyword.alwaysNests then c.blocks ++ [found] else c.blocks, c.condition⟩ line
      following found = c.onKeyword line following found := by
  obtain ⟨kind, range⟩ := found
  cases kind <;> rfl

theorem keywordLine_ensures (place : found.range.start.line = number) :
    (keywordLine number line following found).Ensures s
      (Moves number (s.control.onKeyword line following found) s.ledger s) := by
  unfold keywordLine
  apply moves_cons (moves_report (f := fun _ => _) (by simp))
  intro s₁ control₁ ledger₁
  apply moves_cons (openWhen_ensures found.keyword.alwaysNests place)
  intro s₂ control₂ ledger₂
  apply moves_cons (keyword_ensures place)
  intro s₃ control₃ ledger₃
  apply moves_nil
  · rw [control₃, control₂, ← control₁]
    exact afterHandler_opened s₁.control
  · rw [ledger₃, ledger₂, ledger₁]

end Step

end ChartConfig
