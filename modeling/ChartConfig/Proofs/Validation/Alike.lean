import ChartConfig.Proofs.Validation.Columns

/-!
# Runs over lines that are alike

Lines that differ in their padding give steps that agree, provided that both assign the same texts. That has to be
asked of lines that are read only; the blanks behind a sign are where it may fail.
-/

namespace ChartConfig

open Text

/-- Both lines assign the same texts, or both assign nothing. -/
def Line.AssignsSame (line other : List Char) : Prop :=
  (assignment? line).map Assignment.texts = (assignment? other).map Assignment.texts

namespace Line

variable {line other : List Char} (number : Nat)

theorem flat_header? (alike : Alike line other) :
    (header? line number).map Header.flat = (header? other number).map Header.flat := by
  have names : (headerName? line).map Piece.word = (headerName? other).map Piece.word :=
    alike.congr fun _ _ => headerName?_padded
  have byWord (line : List Char) : (header? line number).map Header.flat =
      ((headerName? line).map Piece.word).map fun name => ⟨name, Range.onLine number 0 0⟩ := by
    simp only [header?, Option.map_map]
    rfl
  rw [byWord, byWord, names]

theorem flat_keywordAt? (alike : Alike line other) :
    (keywordAt? line number).map KeywordAt.flat = (keywordAt? other number).map KeywordAt.flat := by
  have words : (leadingWord? line).map Piece.text = (leadingWord? other).map Piece.text :=
    alike.congr fun _ _ => leadingWord?_padded
  have byText (line : List Char) : (keywordAt? line number).map KeywordAt.flat =
      ((leadingWord? line).map Piece.text).bind fun text =>
        (Keyword.ofWord? text).map fun keyword => ⟨keyword, Range.onLine number 0 0⟩ := by
    rw [Option.bind_map]
    simp only [keywordAt?_eq_bind, Option.map_bind, Function.comp_def, Option.map_map]
    rfl
  rw [byText, byText, words]

end Line

namespace Step

variable {r : Registry} {number : Nat} {line other : List Char} {following others : List (List Char)}
  {header place : Header} {found spot : KeywordAt}

/-! ## Sections -/

theorem judge_agrees : Agrees (judge r) (judge r) := by
  intro s t same
  simp only [judge, same.values]
  generalize (tableValue? t.values "columnmetric" == some "null" && tableValue? t.values "columnvalue" == some "null") =
    waived
  have judged := s.scope.judge_flat r waived
  rw [same.scope, t.scope.judge_flat r waived] at judged
  obtain ⟨scope, findings⟩ := Prod.mk.inj judged
  exact .ok { same with scope := scope.symm, values := rfl } findings.symm

theorem bequeath_agrees : Agrees bequeath bequeath :=
  agrees_update fun s t same =>
    { same with scope := by rw [← s.scope.bequeath_flat, same.scope, t.scope.bequeath_flat] }

theorem aliasesUnresolved_same {s t : State} (same : s.Same t) :
    (s.aliases.unresolved r.measure).map Finding.flat = (t.aliases.unresolved r.measure).map Finding.flat := by
  rw [← Aliases.unresolved_flat, same.aliases, Aliases.unresolved_flat]

theorem newWidget_agrees : Agrees (newWidget r) (newWidget r) :=
  .cons (agrees_report fun _ _ same => aliasesUnresolved_same same) <|
    .cons (agrees_update fun _ _ same => { same with aliases := rfl, values := rfl }) agrees_nil

theorem enterSection_agrees (flat : header.flat = place.flat) :
    Agrees (enterSection r number header) (enterSection r number place) := by
  obtain ⟨name, range⟩ := Header.mk.inj flat
  simp only [enterSection, spelling, name]
  refine .cons (agrees_report fun s t same => ?spelled) ?_
  case spelled =>
    split
    · rfl
    · simp only [List.map_cons, List.map_nil, Finding.flat_error, range]
  refine .cons judge_agrees (.cons bequeath_agrees (.cons (agrees_ite newWidget_agrees agrees_skip) ?_))
  refine .cons (agrees_report fun s t same => ?deprecated) ?_
  case deprecated =>
    rw [List.map_append, List.map_append]
    congr 1
    split
    · simp only [List.map_cons, List.map_nil, Finding.flat_warning, range]
    · rfl
  refine .cons (agrees_update fun s t same => { same with scope := ?entered }) agrees_nil
  case entered =>
    have entered (scope : Scope) (h : Header) : (scope.enter r h).flat = scope.flat.enter r h.flat := rfl
    rw [entered, entered, same.scope, flat]

theorem leaveTags_agrees : Agrees (leaveTags r) (leaveTags r) := by
  refine .cons judge_agrees (.cons bequeath_agrees (.cons ?_ agrees_nil))
  intro s t same
  have previous : s.scope.previous.map Header.flat = t.scope.previous.map Header.flat :=
    congrArg Scope.previous same.scope
  cases cases_of_map_eq previous with
  | inl none =>
    simp only [none.1, none.2]
    exact .ok same rfl
  | inr some =>
    obtain ⟨h, k, first, second, flat⟩ := some
    have name : h.name = k.name := (Header.mk.inj flat).1
    have resumed (scope : Scope) (h : Header) : (scope.resume h).flat = scope.flat.resume h.flat := rfl
    simp only [first, second, name]
    exact .ok { same with scope := by rw [resumed, resumed, same.scope, flat] } rfl

/-! ## Contents -/

theorem templateMark_agrees (alike : Alike line other) :
    Agrees (templateMark number line) (templateMark number other) := by
  have marks : (Line.templateMark? line).map Piece.text = (Line.templateMark? other).map Piece.text :=
    alike.congr fun _ _ => Line.templateMark?_padded
  refine agrees_report fun s t same => ?_
  cases cases_of_map_eq marks with
  | inl none => rw [none.1, none.2]
  | inr some =>
    obtain ⟨p, q, first, second, -⟩ := some
    rw [first, second]
    rfl

theorem assignment_agrees (alike : Alike line other) (assigns : Line.AssignsSame line other) :
    Agrees
      (match Line.assignment? line with
        | some a => (Assign.step r number line a).andThen
            (onlyIf (·.blocks.isIn .forBlock) (report (Assign.loopIdentifiers r number line)))
        | none => skip)
      (match Line.assignment? other with
        | some a => (Assign.step r number other a).andThen
            (onlyIf (·.blocks.isIn .forBlock) (report (Assign.loopIdentifiers r number other)))
        | none => skip) := by
  cases cases_of_map_eq assigns with
  | inl none =>
    rw [none.1, none.2]
    exact agrees_skip
  | inr some =>
    obtain ⟨a, b, first, second, texts⟩ := some
    rw [first, second]
    refine (Assign.step_agrees alike texts).andThen (agrees_onlyIf (fun _ _ same => same.isIn .forBlock) ?_)
    exact agrees_report fun _ _ same => Assign.loopIdentifiers_same same alike

theorem plainLine_agrees (alike : Alike line other) (assigns : Line.AssignsSame line other) :
    Agrees (plainLine r number line) (plainLine r number other) := by
  have declarations : (Line.templateDeclaration? line).map TemplateDeclaration.texts =
      (Line.templateDeclaration? other).map TemplateDeclaration.texts :=
    alike.congr fun _ _ => Line.templateDeclaration?_padded
  have unclosed : (Line.unclosedHeaderName? line).map Piece.text = (Line.unclosedHeaderName? other).map Piece.text :=
    alike.congr fun _ _ => Line.unclosedHeaderName?_padded
  refine .cons (assignment_agrees alike assigns)
    (.cons ?declares (.cons (agrees_report fun s t same => ?header) agrees_nil))
  case declares =>
    cases cases_of_map_eq declarations with
    | inl none =>
      rw [none.1, none.2]
      exact agrees_skip
    | inr some =>
      obtain ⟨d, e, first, second, texts⟩ := some
      rw [first, second]
      exact agrees_onNames fun _ _ same => Names.declareTemplate_same same texts
  case header =>
    simp only [Line.unclosedHeader?]
    cases cases_of_map_eq unclosed with
    | inl none => rw [none.1, none.2]
    | inr some =>
      obtain ⟨p, q, first, second, -⟩ := some
      rw [first, second]
      rfl

theorem content_agrees (alike : Alike line other) (assigns : Line.AssignsSame line other) :
    Agrees (content r number line) (content r number other) := by
  refine (templateMark_agrees alike).andThen ?_
  cases cases_of_map_eq (Line.flat_header? number alike) with
  | inl none =>
    rw [none.1, none.2]
    intro s t same
    simp only [alike.congr fun _ _ => allBlank_padded, same.name?]
    split
    · exact leaveTags_agrees s t same
    · exact plainLine_agrees alike assigns s t same
  | inr some =>
    obtain ⟨h, k, first, second, flat⟩ := some
    rw [first, second]
    exact enterSection_agrees flat

/-! ## Keywords -/

theorem openBlock_agrees (flat : found.flat = spot.flat) : Agrees (openBlock found) (openBlock spot) :=
  agrees_update fun s t same => { same with blocks := by simp only [List.map_append, same.blocks, List.map_cons, flat] }

theorem closeBlock_agrees (flat : found.flat = spot.flat) : Agrees (closeBlock found) (closeBlock spot) := by
  intro s t same
  have closed := Blocks.close_flat s.blocks found
  rw [same.blocks, flat, Blocks.close_flat t.blocks spot] at closed
  simp only [closeBlock]
  generalize Blocks.close s.blocks found = one at closed ⊢
  generalize Blocks.close t.blocks spot = two at closed ⊢
  cases one with
  | error e =>
    cases two with
    | error e' =>
      cases closed
      exact .error e
    | ok answer => cases closed
  | ok answer =>
    cases two with
    | error e => cases closed
    | ok answer' =>
      obtain ⟨blocks, findings⟩ := Prod.mk.inj (Except.ok.inj closed)
      exact .ok { same with blocks := blocks.symm } findings.symm

theorem setCondition_agrees (flat : found.flat = spot.flat) : Agrees (setCondition found) (setCondition spot) := by
  have branch : Branch.ofKeyword found = Branch.ofKeyword spot := by
    change Branch.ofKeyword found.flat = Branch.ofKeyword spot.flat
    rw [flat]
  exact agrees_update fun s t same => { same with condition := by simp only [branch] }

theorem openTable_agrees (alike : Alike line other) (later : List.Forall₂ Alike following others) :
    Agrees (openTable number line following) (openTable number other others) := by
  have name : (Line.csvName? line).map Piece.text = (Line.csvName? other).map Piece.text :=
    alike.congr fun _ _ => Line.csvName?_padded
  have columns : (tableHeader line following).map Csv.columns = (tableHeader other others).map Csv.columns := by
    simp only [tableHeader, alike.congr fun _ _ => Line.csvHeaderBelow_padded]
    split
    · exact Line.firstNonBlank?_alike (fun _ _ => Csv.columns_padded) later
    · exact congrArg some (alike.congr fun _ _ => Line.columns_afterSign_padded)
  refine .cons (agrees_onNames fun _ _ same => Names.declare?_same same .csv name) (.cons ?_ agrees_nil)
  exact agrees_update fun s t same => { same with csvColumns := by simp only [columns] }

theorem openScript_agrees (flat : found.flat = spot.flat) (alike : Alike line other) :
    Agrees (openScript found line) (openScript spot other) := by
  have range : found.range.flat = spot.range.flat := congrArg KeywordAt.range flat
  simp only [openScript, alike.congr fun _ _ => Line.isOneLineScript_padded]
  refine agrees_ite agrees_skip ((openBlock_agrees flat).andThen (agrees_report fun s t same => ?_))
  simp only [alike.congr fun _ _ => Line.hasScriptContent_padded]
  split
  · simp only [List.map_cons, List.map_nil, Finding.flat_error, range]
  · rfl

theorem keyword_agrees (flat : found.flat = spot.flat) (alike : Alike line other)
    (later : List.Forall₂ Alike following others) :
    Agrees (keyword number line following found) (keyword number other others spot) := by
  have kind : found.keyword = spot.keyword := (KeywordAt.mk.inj flat).1
  simp only [keyword, kind]
  cases spot.keyword with
  | endFor =>
    refine Agrees.andThen (agrees_update fun s t same => { same with names := ?_ }) (closeBlock_agrees flat)
    rw [Names.closeLoop_flat, Names.closeLoop_flat, same.names]
  | endIf | endVar | endCsv | endList | endScript => exact closeBlock_agrees flat
  | elseBlock | elseIf =>
    refine (setCondition_agrees flat).andThen (agrees_report fun s t same => ?_)
    rw [← Blocks.alternative_flat, same.blocks, flat, Blocks.alternative_flat]
  | csv => exact openTable_agrees alike later
  | var =>
    simp only [alike.congr fun _ _ => Line.varNeedsEnd_padded]
    refine Agrees.andThen (agrees_ite (openBlock_agrees flat) agrees_skip) (agrees_onNames fun _ _ same => ?_)
    exact Names.declare?_same same .var (alike.congr fun _ _ => Line.varName?_padded)
  | list =>
    simp only [Line.listNeedsEnd_alike alike later]
    refine Agrees.andThen (agrees_onNames fun _ _ same => ?_) (agrees_ite (openBlock_agrees flat) agrees_skip)
    exact Names.declare?_same same .list (alike.congr fun _ _ => Line.listName?_padded)
  | forBlock => exact agrees_onNames fun _ _ same => Names.openLoop_same same alike
  | ifBlock => exact setCondition_agrees flat
  | script => exact openScript_agrees flat alike
  | importing => exact agrees_skip

theorem keywordLine_agrees (flat : found.flat = spot.flat) (alike : Alike line other)
    (later : List.Forall₂ Alike following others) :
    Agrees (keywordLine number line following found) (keywordLine number other others spot) := by
  have kind : found.keyword = spot.keyword := (KeywordAt.mk.inj flat).1
  simp only [keywordLine, kind]
  refine .cons (agrees_report fun _ _ _ => rfl) (.cons (agrees_ite (openBlock_agrees flat) agrees_skip) ?_)
  exact .cons (keyword_agrees flat alike later) agrees_nil

/-! ## Lines -/

theorem tableRow_agrees (alike : Alike line other) : Agrees (tableRow number line) (tableRow number other) := by
  refine agrees_report fun s t same => ?_
  simp only [alike.congr fun _ _ => allBlank_padded, alike.congr fun _ _ => Csv.columns_padded, same.csvColumns]
  split <;> rfl

theorem line_agrees (alike : Alike line other) (later : List.Forall₂ Alike following others) {s t : State}
    (same : s.Same t) (assigns : s.control.reads line = true → Line.AssignsSame line other) :
    SameOutcome (Step.line r number line following s) (Step.line r number other others t) := by
  have keywords : Line.keyword? line = Line.keyword? other := alike.congr fun _ _ => Line.keyword?_padded
  have bodies (opener terminator : Keyword) (k : Option Keyword) :
      s.blocks.inBody opener terminator k = t.blocks.inBody opener terminator k := by
    rw [Blocks.inBody, Blocks.inBody, same.isIn]
  simp only [Step.line, Line.keyword_keywordAt?, keywords, bodies]
  split
  · exact agrees_skip s t same
  · next script =>
    split
    · exact tableRow_agrees alike s t same
    · next table =>
      have isRead : s.control.reads line = true := by
        simp only [Control.reads, State.control, keywords, bodies]
        simp [script, table]
      refine (content_agrees alike (assigns isRead)).andThen ?_ s t same
      cases cases_of_map_eq (Line.flat_keywordAt? number alike) with
      | inl none =>
        rw [none.1, none.2]
        exact agrees_skip
      | inr some =>
        obtain ⟨found, spot, first, second, flat⟩ := some
        rw [first, second]
        exact keywordLine_agrees flat alike later

/-- Reading the lines gives the same as reading others that are alike, if each line that is read assigns the same
    texts as the one with its number among the others. -/
theorem lines_agree {lines : List (List Char)} (document : List (List Char)) (here : document.drop number = others)
    (alike : List.Forall₂ Alike lines others) {s t : State} (armed : s.control.Armed) (same : s.Same t)
    (assigns : ∀ x ∈ s.control.readings number lines, ∀ other, document[x.number]? = some other →
      Line.AssignsSame x.line other) :
    SameOutcome (Step.lines r number lines s) (Step.lines r number others t) := by
  induction alike generalizing number s t with
  | nil => exact .ok same rfl
  | @cons line other following others first rest inductionHypothesis =>
    have isThere : document[number]? = some other := by
      rw [← List.head?_drop, here]
      rfl
    have ahead : document.drop (number + 1) = others := by
      rw [← List.tail_drop, here]
      rfl
    have assignsHere : s.control.reads line = true → Line.AssignsSame line other := by
      intro isRead
      exact assigns ⟨s.control, number, line⟩ (by simp [Control.readings, isRead]) other isThere
    refine sameOutcome_andThen (line_agrees first rest same assignsHere) fun after between found ran sameBetween => ?_
    refine inductionHypothesis ahead (armed_of_line armed ran) sameBetween ?_
    rw [control_of_line armed ran]
    intro x member
    refine assigns x ?_
    simp only [Control.readings]
    split
    · exact List.mem_cons_of_mem _ member
    · exact member

theorem finish_agrees : Agrees (finish r) (finish r) := by
  refine .cons (agrees_report fun _ _ same => aliasesUnresolved_same same) (.cons (agrees_report fun s t same => ?left)
    (.cons judge_agrees (.cons (agrees_report fun s t same => ?names) agrees_nil)))
  case left => rw [← Blocks.leftOpen_flat, same.blocks, Blocks.leftOpen_flat]
  case names => rw [← Names.unresolved_flat, same.names, Names.unresolved_flat]

end Step

/-! ## Runs -/

theorem Finding.diagnostics_flat (found : List Finding) :
    diagnostics (found.map Finding.flat) = (diagnostics found).map Diagnostic.flat := by
  simp only [diagnostics, List.filterMap_map, List.map_filterMap]
  congr 1
  funext f
  cases f <;> rfl

theorem validate_alike (r : Registry) {text other : String}
    (alike : List.Forall₂ Alike (Document.analysed text) (Document.analysed other))
    (assigns : ∀ x ∈ Document.readings text, ∀ line, (Document.analysed other)[x.number]? = some line →
      Line.AssignsSame x.line line) :
    ∃ before after, validate text r = .ok before ∧ validate other r = .ok after ∧
      before.map Diagnostic.flat = after.map Diagnostic.flat := by
  have agreed : SameOutcome (((Step.lines r 0 (Document.analysed text)).andThen (Step.finish r)) {})
      (((Step.lines r 0 (Document.analysed other)).andThen (Step.finish r)) {}) :=
    Step.sameOutcome_andThen
      (Step.lines_agree (Document.analysed other) rfl alike State.armed_initial (State.Same.refl {}) assigns)
      fun s t _ _ same => Step.finish_agrees s t same
  obtain ⟨after, found, ran⟩ := Step.run_succeeds r 0 (Document.analysed text) State.armed_initial
  rw [ran] at agreed
  cases outcome : ((Step.lines r 0 (Document.analysed other)).andThen (Step.finish r)) {} with
  | error e =>
    rw [outcome] at agreed
    cases agreed
  | ok answer =>
    rw [outcome] at agreed
    cases agreed with
    | ok same findings =>
      refine ⟨_, _, validate_of_run ran, validate_of_run outcome, ?_⟩
      rw [← Finding.diagnostics_flat, ← Finding.diagnostics_flat, findings]

end ChartConfig
