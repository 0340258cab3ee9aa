import ChartConfig.Proofs.Validation.Demands
import ChartConfig.Proofs.Validation.Remark

/-!
# What is said comes from the document

Every step of a run keeps the state sourced and tells what it finds of pieces of the document. There is one lemma
for each part of a line: the content of a line says nothing about the order of blocks, its keyword may.
-/

namespace ChartConfig

open Text Document Finding

variable {measure : Measure} {text : String} {number : Nat} {line : List Char}

/-! ## Names and aliases -/

namespace Names

variable {n : Names} {p : Piece}

theorem declare_plain (holds : Holds text number p) (kind : NameKind) :
    AllPlain measure text (n.declare kind number p).2 := by
  simp only [declare]
  split
  · exact allPlain_nil
  · exact @allPlain_on _ text number p .alreadyDefined holds rfl rfl

theorem declare?_plain {piece : Option Piece} (holds : ∀ p, piece = some p → Holds text number p) (kind : NameKind) :
    AllPlain measure text (n.declare? kind number piece).2 := by
  cases piece with
  | none => exact allPlain_nil
  | some p => exact declare_plain (holds p rfl) kind

theorem useCollection_plain {sign : Piece} {collection : Option Piece} (signHolds : Holds text number sign)
    (holds : ∀ p, collection = some p → Holds text number p) :
    (∀ m ∈ (n.useCollection number sign collection).1.pending, m ∈ n.pending ∨ Mentions text m) ∧
      AllPlain measure text (n.useCollection number sign collection).2 := by
  cases collection with
  | none => exact ⟨fun m member => .inl member, @allPlain_on _ text number sign .emptyLoop signHolds rfl rfl⟩
  | some p =>
    simp only [useCollection]
    split
    · exact ⟨fun m member => .inl member, allPlain_nil⟩
    · refine ⟨fun m member => ?_, by simp⟩
      cases List.mem_append.mp member with
      | inl old => exact .inl old
      | inr new => exact .inr ⟨number, p, holds p rfl, List.mem_singleton.mp new⟩

theorem openLoop_plain (isLine : (analysed text)[number]? = some line) :
    (∀ m ∈ (n.openLoop number line).1.pending, m ∈ n.pending ∨ Mentions text m) ∧
      AllPlain measure text (n.openLoop number line).2 := by
  simp only [openLoop]
  split
  · exact ⟨fun m member => .inl member, allPlain_nil⟩
  · next item sign isLoop =>
    obtain ⟨itemIn, signIn⟩ := Line.in_of_loopVariable? isLoop
    obtain ⟨kept, firstPlain⟩ := @useCollection_plain _ text number n sign (Line.loopCollection? line)
      ⟨line, isLine, signIn⟩ fun p found => ⟨line, isLine, Line.in_of_loopCollection? found⟩
    obtain ⟨same, -⟩ := declare_on (n.useCollection number sign (Line.loopCollection? line)).1 number .loop item
    refine ⟨fun m member => kept m ?_, allPlain_append.mpr ⟨firstPlain, declare_plain ⟨line, isLine, itemIn⟩ .loop⟩⟩
    rw [← same]
    exact member

theorem declareTemplate_plain {d : TemplateDeclaration} (nameHolds : Holds text number d.name)
    (holds : ∀ p, d.collection = some p → Holds text number p) :
    AllPlain measure text (n.declareTemplate measure number d).2 := by
  refine allPlain_append.mpr ⟨?_, @declare_plain _ text number n d.name nameHolds .template⟩
  split
  · next p collects =>
    split
    · exact allPlain_nil
    · exact @allPlain_on _ text number p (.unknown n.template) (holds p collects) rfl rfl
  · exact allPlain_nil

theorem unresolved_plain (pending : ∀ m ∈ n.pending, Mentions text m) :
    AllPlain measure text (n.unresolved measure) := by
  intro f member
  obtain ⟨m, inPending, rfl⟩ := List.mem_map.mp member
  obtain ⟨number, p, holds, rfl⟩ := pending m (List.mem_of_mem_filter inPending)
  exact @told_on _ text _ number p (.unknown n.all) holds rfl rfl

end Names

namespace Aliases

variable {a : Aliases}

theorem declare_plain (isLine : (analysed text)[number]? = some line) :
    AllPlain measure text (a.declare number line).2 := by
  simp only [declare]
  split
  · exact allPlain_nil
  · next p isAlias =>
    split
    · exact @allPlain_on _ text number p .alreadyDefined ⟨line, isLine, Line.in_of_aliasName? isAlias⟩ rfl rfl
    · exact allPlain_nil

theorem use_mentions (isLine : (analysed text)[number]? = some line) (uses : ∀ m ∈ a.uses, Mentions text m) :
    ∀ m ∈ (a.use number line).uses, Mentions text m := by
  intro m member
  cases List.mem_append.mp member with
  | inl old => exact uses m old
  | inr new =>
    obtain ⟨p, isUse, rfl⟩ := List.mem_map.mp new
    exact ⟨number, p, ⟨line, isLine, Reference.in_of_mem_aliasUses isUse⟩, rfl⟩

theorem unresolved_plain (uses : ∀ m ∈ a.uses, Mentions text m) :
    AllPlain measure text (a.unresolved measure) := by
  intro f member
  obtain ⟨m, isUse, rfl⟩ := List.mem_map.mp member
  obtain ⟨number, p, holds, rfl⟩ := uses m (List.mem_of_mem_filter isUse)
  exact @told_on _ text _ number p (.unknown a.declared) holds rfl rfl

end Aliases

/-! ## Sections -/

namespace State.Sourced

variable {s : State}

theorem setScope {scope : Scope} (sourced : s.Sourced text) (current : scope.current = s.scope.current)
    (previous : scope.previous = s.scope.previous) : { s with scope }.Sourced text :=
  { sourced with
    current := fun h isCurrent => sourced.current h (current ▸ isCurrent)
    previous := fun h isPrevious => sourced.previous h (previous ▸ isPrevious) }

end State.Sourced

namespace Scope

variable {scope : Scope} {r : Registry}

theorem judge_headers (waived : Bool) :
    (scope.judge r waived).1.current = scope.current ∧ (scope.judge r waived).1.previous = scope.previous := by
  simp only [judge]
  split <;> exact ⟨rfl, rfl⟩

theorem judge_plain (current : ∀ h, scope.current = some h → Heads text h) (waived : Bool) :
    AllPlain r.measure text (scope.judge r waived).2 := by
  simp only [judge]
  split
  · exact allPlain_nil
  · split
    · next header isCurrent =>
      intro f member
      simp only [missing, List.mem_filterMap, Option.map_eq_some_iff] at member
      obtain ⟨slot, -, name, -, rfl⟩ := member
      obtain ⟨number, p, holds, rfl⟩ := (current header isCurrent).holds
      exact ⟨number, p, .required name, holds, rfl, fun _ => current _ isCurrent, rfl⟩
    · exact allPlain_nil

theorem bequeath_headers : scope.bequeath.current = scope.current ∧ scope.bequeath.previous = scope.previous := by
  simp only [bequeath]
  split <;> simp_all

theorem addCounterpart_headers (setting : Setting) :
    (scope.addCounterpart r setting).current = scope.current ∧
      (scope.addCounterpart r setting).previous = scope.previous := by
  simp only [addCounterpart]
  split
  · simp only [addSlot]
    split <;> exact ⟨rfl, rfl⟩
  · exact ⟨rfl, rfl⟩

theorem record_headers (setting : Setting) :
    (scope.record setting).1.current = scope.current ∧ (scope.record setting).1.previous = scope.previous := by
  simp only [record]
  split <;> exact ⟨rfl, rfl⟩

end Scope

namespace Step

variable {r : Registry} {header : Header}

theorem judge_keeps : (judge r).Keeps text (Plain r.measure text) := by
  intro s after found sourced ran
  cases ran
  exact ⟨sourced.setScope (Scope.judge_headers _).1 (Scope.judge_headers _).2, Scope.judge_plain sourced.current _⟩

theorem bequeath_keeps : bequeath.Keeps text (Plain measure text) :=
  keeps_update fun _ sourced => sourced.setScope Scope.bequeath_headers.1 Scope.bequeath_headers.2

theorem newWidget_keeps : (newWidget r).Keeps text (Plain r.measure text) := by
  apply keeps_cons (keeps_report fun s sourced => Aliases.unresolved_plain sourced.uses)
  refine keeps_cons ?_ keeps_nil
  apply keeps_update
  intro s sourced
  exact { sourced with uses := by simp }

theorem enterSection_keeps (heads : Heads text header) :
    (enterSection r number header).Keeps text (Plain r.measure text) := by
  obtain ⟨place, p, holds, rfl⟩ := heads.holds
  simp only [enterSection]
  apply keeps_cons
  · apply keeps_report
    intro s _
    split
    · exact allPlain_nil
    · exact @allPlain_on _ text place p (.unknown Section.known) holds rfl rfl
  apply keeps_cons judge_keeps
  apply keeps_cons bequeath_keeps
  apply keeps_cons
  · split
    · exact newWidget_keeps
    · exact keeps_skip
  apply keeps_cons
  · apply keeps_report
    intro s _
    refine allPlain_append.mpr ⟨?_, by simp⟩
    split
    · exact @allPlain_on _ text place p .deprecatedTagSection holds rfl rfl
    · exact allPlain_nil
  apply keeps_cons
  · apply keeps_update
    intro s sourced
    exact { sourced with
      current := fun h isCurrent => Option.some.inj isCurrent ▸ heads
      previous := fun h isPrevious => sourced.current h isPrevious }
  exact keeps_nil

theorem leaveTags_keeps : (leaveTags r).Keeps text (Plain r.measure text) := by
  apply keeps_cons judge_keeps
  apply keeps_cons bequeath_keeps
  refine keeps_cons ?_ keeps_nil
  intro s after found sourced ran
  dsimp only at ran
  split at ran
  · next header before =>
    cases ran
    refine ⟨{ sourced with current := fun h isCurrent => ?_ }, by simp [Told]⟩
    exact Option.some.inj isCurrent ▸ sourced.previous header before
  · cases ran
    exact ⟨sourced, by simp⟩

end Step

/-! ## Assignments -/

namespace Assign

variable {r : Registry} {p : Piece}

theorem tag_plain (holds : Holds text number p) : AllPlain r.measure text (tag r p (p.range number)) := by
  refine allPlain_append.mpr ⟨?_, ?_⟩
  · split
    · exact @allPlain_on _ text number p .tagIsSetting holds rfl rfl
    · exact allPlain_nil
  · split
    · exact @allPlain_on _ text number p .tagWithBlanks holds rfl rfl
    · exact allPlain_nil

theorem unknownSetting_plain (holds : Holds text number p) (s : State) :
    AllPlain r.measure text (unknownSetting r p (p.range number) s) := by
  simp only [unknownSetting]
  split
  · exact allPlain_nil
  · split
    · exact allPlain_nil
    · exact @allPlain_on _ text number p (.unknown (candidates r s p.word)) holds rfl rfl

theorem repetition_plain (holds : Holds text number p) (setting : Setting) :
    AllPlain measure text [.problem (setting.repetition (p.range number) p.word)] := by
  simp only [Setting.repetition]
  split
  · exact @allPlain_on _ text number p .repeatedScript holds rfl rfl
  · split
    · exact @allPlain_on _ text number p .repeatedThresholds holds rfl rfl
    · split
      · exact @allPlain_on _ text number p .repeatedColors holds rfl rfl
      · exact @allPlain_on _ text number p .alreadyDefined holds rfl rfl

theorem check_plain (holds : Holds text number p) (setting : Setting) (value : List Char) :
    AllPlain measure text ((setting.check value (p.range number) p.word).map Finding.problem).toList := by
  simp only [Setting.check]
  cases setting.fault? value with
  | none => exact allPlain_nil
  | some fault => exact @allPlain_on _ text number p (.fault setting fault) holds rfl rfl

theorem conflicts_plain (holds : Holds text number p) (scope : Scope) (setting : Setting) :
    AllPlain measure text (scope.conflicts setting (p.range number)) := by
  intro f member
  obtain ⟨other, -, rfl⟩ := List.mem_map.mp member
  exact @told_on _ text _ number p (.conflict setting other) holds rfl rfl

theorem templateWords_plain (isLine : (analysed text)[number]? = some line) {value : Piece} (inLine : value.In line)
    (s : State) : AllPlain r.measure text (templateWords r number value s) := by
  intro f member
  simp only [templateWords, List.mem_flatMap, List.mem_map] at member
  obtain ⟨body, isBody, word, isWord, rfl⟩ := member
  have inValue := Piece.In.shift (in_of_mem_words (List.mem_of_mem_filter isWord))
    (Reference.in_of_mem_templates isBody).there
  have inTheLine := Piece.In.shift inValue inLine.there
  have shifted : (word.shift body.column).shift value.column = word.shift (value.column + body.column) := by
    simp [Piece.shift, Nat.add_assoc]
  rw [shifted] at inTheLine
  exact @told_on _ text _ number _ (.unknown s.names.template) ⟨line, isLine, inTheLine⟩ rfl rfl

theorem loopIdentifiers_plain (isLine : (analysed text)[number]? = some line) (s : State) :
    AllPlain r.measure text (loopIdentifiers r number line s) := by
  intro f member
  simp only [loopIdentifiers, List.mem_flatMap, List.mem_map] at member
  obtain ⟨expression, isExpression, i, isIdentifier, rfl⟩ := member
  have inLine := Piece.In.shift (Reference.in_of_mem_identifiers (List.mem_of_mem_filter isIdentifier))
    (Reference.in_of_mem_loopExpressions isExpression).there
  exact @told_on _ text _ number _ (.unknown s.names.all) ⟨line, isLine, inLine⟩ rfl rfl

theorem declare_keeps (holds : Holds text number p) (setting : Setting) :
    (declare setting p.word (p.range number)).Keeps text (Plain measure text) := by
  have answered (fresh : Bool) :
      AllPlain measure text (if fresh then [] else [.problem (setting.repetition (p.range number) p.word)]) := by
    cases fresh with
    | true => exact allPlain_nil
    | false => exact repetition_plain holds setting
  intro s after found sourced ran
  simp only [declare] at ran
  split at ran
  · split at ran
    · cases ran
      exact ⟨sourced.setScope rfl rfl, answered _⟩
    · cases ran
  · cases ran
    exact ⟨sourced.setScope (Scope.record_headers _).1 (Scope.record_headers _).2, answered _⟩

theorem known_keeps (isLine : (analysed text)[number]? = some line) {a : Assignment} (nameIn : a.name.In line)
    (valueIn : a.value.In line) (setting : Setting) :
    (known r number line a setting).Keeps text (Plain r.measure text) := by
  have holds : Holds text number a.name := ⟨line, isLine, nameIn⟩
  simp only [known]
  apply Step.keeps_cons
  · apply Step.keeps_report
    intro s _
    split
    · exact @allPlain_on _ text number a.name .settingWithBlanks holds rfl rfl
    · exact allPlain_nil
  apply Step.keeps_cons (Step.keeps_update fun s sourced =>
    sourced.setScope (Scope.addCounterpart_headers setting).1 (Scope.addCounterpart_headers setting).2)
  apply Step.keeps_cons
  · split
    · exact Step.keeps_skip
    · exact declare_keeps holds setting
  apply Step.keeps_cons
  · apply Step.keeps_report
    intro s _
    split
    · exact allPlain_nil
    · exact check_plain holds setting _
  apply Step.keeps_cons (Step.keeps_report fun s _ => conflicts_plain holds s.scope setting)
  apply Step.keeps_cons
  · split
    · exact Step.keeps_update fun s sourced => { sourced with }
    · exact Step.keeps_report fun s _ => templateWords_plain isLine valueIn s
  apply Step.keeps_cons
  · split
    · intro s after found sourced ran
      have sameUses := (Aliases.declare_on s.aliases number line).1
      cases ran
      exact ⟨{ sourced with uses := fun m member => sourced.uses m (sameUses ▸ member) },
        Aliases.declare_plain isLine⟩
    · exact Step.keeps_skip
  refine Step.keeps_cons ?_ Step.keeps_nil
  apply Step.keeps_update
  intro s sourced
  exact { sourced with uses := Aliases.use_mentions isLine sourced.uses }

theorem step_keeps (isLine : (analysed text)[number]? = some line) {a : Assignment}
    (assigned : Line.assignment? line = some a) :
    (step r number line a).Keeps text (Plain r.measure text) := by
  obtain ⟨nameIn, valueIn⟩ := Line.in_of_assignment? assigned
  have holds : Holds text number a.name := ⟨line, isLine, nameIn⟩
  intro s after found sourced ran
  simp only [step] at ran
  split at ran
  · cases ran
    exact ⟨sourced, tag_plain holds⟩
  · split at ran
    · cases ran
      exact ⟨{ sourced with }, unknownSetting_plain holds _⟩
    · refine known_keeps isLine nameIn valueIn _ _ after found ?_ ran
      exact { sourced with }

end Assign

/-! ## The content of a line -/

namespace Step

variable {r : Registry}

theorem plainLine_keeps (isLine : (analysed text)[number]? = some line) :
    (plainLine r number line).Keeps text (Plain r.measure text) := by
  simp only [plainLine]
  apply keeps_cons
  · split
    · next a assigned =>
      apply keeps_andThen (Assign.step_keeps isLine assigned)
      exact keeps_ite (keeps_report fun s _ => Assign.loopIdentifiers_plain isLine s) keeps_skip
    · exact keeps_skip
  apply keeps_cons
  · split
    · next d declared =>
      obtain ⟨nameIn, collectionIn⟩ := Line.in_of_templateDeclaration? declared
      apply keeps_onNames
      · intro n m member
        rw [(Names.declareTemplate_on n number d).1] at member
        exact .inl member
      · intro n
        exact Names.declareTemplate_plain ⟨line, isLine, nameIn⟩ fun p is => ⟨line, isLine, collectionIn p is⟩
    · exact keeps_skip
  apply keeps_cons
  · apply keeps_report
    intro s _
    simp only [Line.unclosedHeader?]
    cases unclosed : Line.unclosedHeaderName? line with
    | none => exact allPlain_nil
    | some p =>
      exact @allPlain_on _ text number p .unclosedHeader ⟨line, isLine, Line.in_of_unclosedHeaderName? unclosed⟩ rfl rfl
  exact keeps_nil

theorem content_keeps (isLine : (analysed text)[number]? = some line)
    (heads : ∀ h, Line.header? line number = some h → Heads text h) :
    (content r number line).Keeps text (Plain r.measure text) := by
  apply keeps_andThen
  · apply keeps_report
    intro s _
    split
    · next mark marked =>
      exact @allPlain_on _ text number mark .deprecatedTemplate ⟨line, isLine, Line.in_of_templateMark? marked⟩ rfl rfl
    · exact allPlain_nil
  · split
    · next header headed => exact enterSection_keeps (heads header headed)
    · exact keeps_ite leaveTags_keeps (plainLine_keeps isLine)

theorem tableRow_keeps (isLine : (analysed text)[number]? = some line) :
    (tableRow number line).Keeps text (Plain measure text) := by
  apply keeps_report
  intro s _
  split
  · exact allPlain_nil
  · next wrong =>
    have nonempty : line ≠ [] := by
      rintro rfl
      simp [allBlank] at wrong
    have row : Holds text number ⟨0, line⟩ := ⟨line, isLine, nonempty, by simp⟩
    have told := @allPlain_on measure text number ⟨0, line⟩ (.columnCount s.csvColumns (Csv.columns line)) row rfl rfl
    simp only [Remark.on, Piece.range, Piece.stop, Nat.zero_add] at told
    exact told

end Step

/-! ## The keyword of a line -/

namespace Blocks

variable {blocks : Blocks} {found : KeywordAt}

def complaints (blocks : Blocks) (found : KeywordAt) : List Finding :=
  match blocks.close found with
  | .ok (_, problems) => problems
  | .error _ => if found.keyword.isAlternative then blocks.alternative found else []

theorem complaints_of_not_isClosing (other : found.keyword.isClosing = false) : blocks.complaints found = [] := by
  simp only [Keyword.isClosing, Bool.or_eq_false_iff, Option.isSome_eq_false_iff, Option.isNone_iff_eq_none] at other
  simp [complaints, close, other.1, other.2]

/-- A disorder that the keyword of a line brings to light, other than a block that is left open. -/
def Shows (k : Keyword) : Disorder → Prop
  | .closedEarly _ _ => True
  | .noOpener found _ | .startedEarly found _ => found = k
  | .noTerminator _ => False

theorem exists_disorder_of_mem_alternative {f : Finding} (member : f ∈ blocks.alternative found) :
    ∃ kind, Shows found.keyword kind ∧ f = .error found.range kind.message := by
  simp only [Blocks.alternative] at member
  split at member
  · exact ⟨.noOpener found.keyword .ifBlock, rfl, List.mem_singleton.mp member⟩
  · split at member
    · next inner _ =>
      split at member
      · cases member
      · exact ⟨.startedEarly found.keyword inner, rfl, List.mem_singleton.mp member⟩
    · cases member

theorem exists_disorder_of_mem_complaints {f : Finding} (member : f ∈ blocks.complaints found) :
    ∃ kind, Shows found.keyword kind ∧ f = .error found.range kind.message := by
  simp only [complaints, close] at member
  cases closes : found.keyword.closes with
  | none =>
    simp only [closes] at member
    split at member
    · exact exists_disorder_of_mem_alternative member
    · cases member
  | some opener =>
    cases inner : blocks.innermost? with
    | none =>
      simp only [closes, inner] at member
      exact ⟨.noOpener found.keyword opener, rfl, List.mem_singleton.mp member⟩
    | some kind =>
      by_cases fits : kind = opener
      · simp [closes, inner, fits] at member
      · cases present : blocks.isIn opener with
        | true =>
          simp only [closes, inner, beq_iff_eq, fits, present, if_false, if_true] at member
          exact ⟨.closedEarly opener kind, trivial, List.mem_singleton.mp member⟩
        | false =>
          simp only [closes, inner, beq_iff_eq, fits, present, if_false, Bool.false_eq_true] at member
          exact ⟨.noOpener found.keyword opener, rfl, List.mem_singleton.mp member⟩

theorem reports_complaints (opens : Opens text found) :
    Reports measure text (blocks.complaints found) (blocks.complaints found) := by
  apply reports_self
  intro f member
  obtain ⟨kind, -, same⟩ := exists_disorder_of_mem_complaints member
  exact ⟨found, kind, opens, same⟩

theorem reports_leftOpen (opens : ∀ b ∈ blocks, Opens text b) : Reports measure text blocks.leftOpen blocks.leftOpen := by
  apply reports_self
  intro f member
  obtain ⟨b, isOpen, rfl⟩ := List.mem_map.mp member
  exact ⟨b, .noTerminator b.keyword, opens b isOpen, rfl⟩

end Blocks

namespace Step

variable {r : Registry} {following : List (List Char)} {found : KeywordAt}

theorem openBlock_keeps {ok : Finding → Prop} (opens : Opens text found) : (openBlock found).Keeps text ok := by
  apply keeps_update
  intro s sourced
  refine { sourced with blocks := fun b member => ?_ }
  cases List.mem_append.mp member with
  | inl old => exact sourced.blocks b old
  | inr new => exact List.mem_singleton.mp new ▸ opens

theorem declare?_keeps (kind : NameKind) {piece : Option Piece} (holds : ∀ p, piece = some p → Holds text number p) :
    (onNames (·.declare? kind number piece)).Keeps text (Plain measure text) := by
  apply keeps_onNames
  · intro n m member
    rw [(Names.declare?_on n number kind piece).1] at member
    exact .inl member
  · intro n
    exact Names.declare?_plain holds kind

theorem openScript_keeps (isLine : (analysed text)[number]? = some line)
    (isFound : Line.keywordAt? line number = some found) :
    (openScript found line).Keeps text (Plain measure text) := by
  simp only [openScript]
  split
  · exact keeps_skip
  · apply keeps_andThen (openBlock_keeps ⟨number, line, isLine, isFound⟩)
    apply keeps_report
    intro s _
    split
    · obtain ⟨word, inLine, place, -⟩ := Line.in_of_keywordAt? isFound
      rw [place]
      exact @allPlain_on _ text number word .scriptNeedsBreak ⟨line, isLine, inLine⟩ rfl rfl
    · exact allPlain_nil

theorem openTable_keeps (isLine : (analysed text)[number]? = some line) :
    (openTable number line following).Keeps text (Plain measure text) := by
  apply keeps_cons (declare?_keeps .csv fun p named => ⟨line, isLine, Line.in_of_csvName? named⟩)
  refine keeps_cons ?_ keeps_nil
  apply keeps_update
  intro s sourced
  exact { sourced with }

theorem keyword_keeps (isLine : (analysed text)[number]? = some line)
    (isFound : Line.keywordAt? line number = some found) (other : found.keyword.isClosing = false) :
    (keyword number line following found).Keeps text (Plain measure text) := by
  have opens : Opens text found := ⟨number, line, isLine, isFound⟩
  obtain ⟨kind, range⟩ := found
  cases kind with
  | csv => exact openTable_keeps isLine
  | var =>
    simp only [keyword]
    apply keeps_andThen
    · split
      · exact openBlock_keeps opens
      · exact keeps_skip
    · exact declare?_keeps .var fun p named => ⟨line, isLine, Line.in_of_varName? named⟩
  | list =>
    simp only [keyword]
    apply keeps_andThen
    · exact declare?_keeps .list fun p named => ⟨line, isLine, Line.in_of_listName? named⟩
    · split
      · exact openBlock_keeps opens
      · exact keeps_skip
  | forBlock =>
    exact keeps_onNames (fun n => (@Names.openLoop_plain measure _ _ _ _ isLine).1) fun n => (Names.openLoop_plain isLine).2
  | ifBlock =>
    apply keeps_update
    intro s sourced
    exact { sourced with }
  | script => exact openScript_keeps isLine isFound
  | importing => exact keeps_skip
  | endIf | endFor | endList | endVar | endCsv | endScript | elseIf | elseBlock => cases other

theorem closeBlock_reports {s after : State} {said : List Finding} (sourced : s.Sourced text)
    (ran : closeBlock found s = .ok (after, said)) : after.Sourced text ∧ said = s.blocks.complaints found := by
  cases closes : found.keyword.closes with
  | none => simp [closeBlock, Blocks.close, closes] at ran
  | some opener =>
    obtain ⟨problems, same, -⟩ := Blocks.close_eq s.blocks closes rfl
    simp only [closeBlock, same, Except.ok.injEq, Prod.mk.injEq] at ran
    obtain ⟨rfl, rfl⟩ := ran
    refine ⟨{ sourced with blocks := fun b member => ?_ }, by simp only [Blocks.complaints, same]⟩
    exact sourced.blocks b (Blocks.mem_of_mem_without member)

theorem closing_reports {s after : State} {said : List Finding} (closing : found.keyword.isClosing = true)
    (sourced : s.Sourced text) (ran : keyword number line following found s = .ok (after, said)) :
    after.Sourced text ∧ said = s.blocks.complaints found := by
  obtain ⟨kind, range⟩ := found
  cases kind with
  | endFor =>
    simp only [keyword] at ran
    obtain ⟨between, none, more, firstRan, secondRan, rfl⟩ := andThen_eq_ok ran
    cases firstRan
    refine @closeBlock_reports text _ { s with names := s.names.closeLoop } after more ?_ secondRan
    exact { sourced with }
  | endIf | endList | endVar | endCsv | endScript => exact closeBlock_reports sourced ran
  | elseIf | elseBlock =>
    simp only [keyword] at ran
    obtain ⟨between, none, more, firstRan, secondRan, rfl⟩ := andThen_eq_ok ran
    cases firstRan
    cases secondRan
    exact ⟨{ sourced with }, rfl⟩
  | importing | ifBlock | forBlock | list | var | csv | script => cases closing

theorem keywordLine_reports {s after : State} {said : List Finding} (isLine : (analysed text)[number]? = some line)
    (isFound : Line.keywordAt? line number = some found) (sourced : s.Sourced text)
    (ran : keywordLine number line following found s = .ok (after, said)) :
    after.Sourced text ∧ Reports measure text (s.blocks.complaints found) said := by
  have opens : Opens text found := ⟨number, line, isLine, isFound⟩
  have noted : AllPlain measure text [.note (.keyword number found.keyword)] := by simp
  cases closing : found.keyword.isClosing with
  | false =>
    have opened : (if found.keyword.alwaysNests then openBlock found else skip).Keeps text
        (Plain measure text) := by
      split
      · exact openBlock_keeps opens
      · exact keeps_skip
    have keeps : (keywordLine number line following found).Keeps text (Plain measure text) :=
      keeps_cons (keeps_report fun _ _ => noted)
        (keeps_cons opened (keeps_cons (keyword_keeps isLine isFound closing) keeps_nil))
    obtain ⟨still, plain⟩ := keeps s after said sourced ran
    rw [Blocks.complaints_of_not_isClosing closing]
    exact ⟨still, AllPlain.reports plain⟩
  | true =>
    have nests : found.keyword.alwaysNests = false := by
      obtain ⟨kind, range⟩ := found
      cases kind <;> first | rfl | cases closing
    simp only [keywordLine, nests, Bool.false_eq_true, if_false, all, List.foldr_cons, List.foldr_nil] at ran
    obtain ⟨s₁, note, said₁, reported, ran₁, rfl⟩ := andThen_eq_ok ran
    cases reported
    obtain ⟨s₂, nothing, said₂, opened, ran₂, rfl⟩ := andThen_eq_ok ran₁
    cases opened
    obtain ⟨s₃, complaints, nothing, keywordRan, ended, rfl⟩ := andThen_eq_ok ran₂
    cases ended
    obtain ⟨still, rfl⟩ := closing_reports closing sourced keywordRan
    refine ⟨still, ?_⟩
    rw [List.nil_append, List.append_nil, ← List.nil_append (s.blocks.complaints found)]
    exact noted.reports.append (Blocks.reports_complaints opens)

end Step

/-! ## Lines and runs -/

namespace Control

def complaintsAt (c : Control) (number : Nat) (line : List Char) : List Finding :=
  if c.reads line then (Line.keywordAt? line number).elim [] c.blocks.complaints else []

def complaintsFrom (c : Control) : (number : Nat) → List (List Char) → List Finding
  | _, [] => []
  | number, line :: following =>
    c.complaintsAt number line ++ (c.next number line following).complaintsFrom (number + 1) following

end Control

namespace Step

variable {r : Registry} {following : List (List Char)} {s : State}

theorem blocks_of_content {after : State} {said : List Finding} (armed : s.control.Armed)
    (ran : content r number line s = .ok (after, said)) : after.control = s.control := by
  obtain ⟨last, found, ranToo, heeds⟩ := @content_ensures (number + 1) s r number line armed (by omega)
  rw [ran] at ranToo
  cases ranToo
  exact heeds.control_eq

theorem line_reports (isLine : (analysed text)[number]? = some line)
    (heads : s.control.reads line = true → ∀ h, Line.header? line number = some h → Heads text h)
    (armed : s.control.Armed) (sourced : s.Sourced text) :
    (Step.line r number line following).Ensures s fun after said =>
      after.Sourced text ∧ after.control = s.control.next number line following ∧
        Reports r.measure text (s.control.complaintsAt number line) said := by
  obtain ⟨after, said, ran, -, control, -⟩ := line_succeeds r number line following armed
  refine ⟨after, said, ran, ?_⟩
  suffices kept : after.Sourced text ∧ Reports r.measure text (s.control.complaintsAt number line) said from
    ⟨kept.1, control, kept.2⟩
  simp only [Step.line, Line.keyword_keywordAt?] at ran
  cases script : s.blocks.inBody .script .endScript (Line.keyword? line) with
  | true =>
    have notRead : s.control.reads line = false := by simp [Control.reads, State.control, script]
    simp only [script, if_true] at ran
    cases ran
    simp only [Control.complaintsAt, notRead, Bool.false_eq_true, if_false]
    exact ⟨sourced, allPlain_nil.reports⟩
  | false =>
    cases table : s.blocks.inBody .csv .endCsv (Line.keyword? line) with
    | true =>
      have notRead : s.control.reads line = false := by simp [Control.reads, State.control, table]
      simp only [script, table, Bool.false_eq_true, if_false, if_true] at ran
      obtain ⟨still, plain⟩ := tableRow_keeps isLine s after said sourced ran
      simp only [Control.complaintsAt, notRead, Bool.false_eq_true, if_false]
      exact ⟨still, AllPlain.reports plain⟩
    | false =>
      have isRead : s.control.reads line = true := by simp [Control.reads, State.control, script, table]
      simp only [script, table, Bool.false_eq_true, if_false] at ran
      obtain ⟨between, first, second, contentRan, keywordRan, rfl⟩ := andThen_eq_ok ran
      obtain ⟨sourced, plain⟩ := content_keeps isLine (heads isRead) s between first sourced contentRan
      have sameBlocks : between.blocks = s.control.blocks :=
        congrArg Control.blocks (blocks_of_content armed contentRan)
      simp only [Control.complaintsAt, isRead, if_true, ← sameBlocks]
      cases isFound : Line.keywordAt? line number with
      | none =>
        rw [isFound] at keywordRan
        cases keywordRan
        exact ⟨sourced, by simpa using AllPlain.reports plain⟩
      | some found =>
        rw [isFound] at keywordRan
        obtain ⟨still, reports⟩ := keywordLine_reports isLine isFound sourced keywordRan
        exact ⟨still, (AllPlain.reports plain).append reports⟩

/-- All that is said while lines are read comes from the document, and its complaints are those of the lines. -/
theorem lines_reports {lines : List (List Char)}
    (areLines : ∀ i line, lines[i]? = some line → (analysed text)[number + i]? = some line)
    (areRead : ∀ x ∈ s.control.readings number lines, x ∈ readings text) (armed : s.control.Armed)
    (sourced : s.Sourced text) :
    (Step.lines r number lines).Ensures s fun after said =>
      after.Sourced text ∧ after.control = s.control.afterLines number lines ∧
        Reports r.measure text (s.control.complaintsFrom number lines) said := by
  induction lines generalizing number s with
  | nil => exact ensures_skip ⟨sourced, rfl, allPlain_nil.reports⟩
  | cons line following inductionHypothesis =>
    have isLine : (analysed text)[number]? = some line := areLines 0 line rfl
    have later : ∀ x ∈ (s.control.next number line following).readings (number + 1) following, x ∈ readings text := by
      intro x member
      apply areRead
      simp only [Control.readings]
      split
      · exact List.mem_cons_of_mem _ member
      · exact member
    have heads (isRead : s.control.reads line = true) (h : Header) (isHeader : Line.header? line number = some h) :
        Heads text h := by
      refine ⟨⟨s.control, number, line⟩, areRead _ ?_, isHeader⟩
      simp [Control.readings, isRead]
    apply ensures_andThen
    apply (line_reports isLine heads armed sourced).mono
    rintro between said ⟨sourced, control, reports⟩
    have rest := @inductionHypothesis (number + 1) between
      (fun i line isThere => by simpa [Nat.add_assoc, Nat.add_comm 1] using areLines (i + 1) line isThere)
      (by rw [control]; exact later) (by rw [control]; exact Control.next_armed armed) sourced
    apply rest.mono
    rintro after more ⟨sourced, controlAfter, reportsMore⟩
    rw [control] at controlAfter reportsMore
    exact ⟨sourced, controlAfter, reports.append reportsMore⟩

theorem finish_reports (sourced : s.Sourced text) :
    (finish r).Ensures s fun _ said => Reports r.measure text s.blocks.leftOpen said := by
  have judged := @Scope.judge_plain text s.scope r sourced.current s.ledger.waived
  have judgement : judge r s = .ok ({ s with scope := (s.scope.judge r s.ledger.waived).1 },
      (s.scope.judge r s.ledger.waived).2) := rfl
  apply ensures_all_cons
  apply ensures_report
  apply ensures_all_cons
  apply ensures_report
  apply ensures_all_cons
  apply ensures_of_eq judgement
  apply ensures_all_cons
  apply ensures_report
  apply ensures_all_nil
  have reports := (Aliases.unresolved_plain sourced.uses).reports.append
    ((Blocks.reports_leftOpen sourced.blocks).append
      (judged.reports.append (Names.unresolved_plain sourced.pending).reports))
  simpa using reports

end Step

theorem State.sourced_initial : ({} : State).Sourced text := by
  constructor <;> simp

end ChartConfig
