import ChartConfig.Proofs.Format.Script
import ChartConfig.Proofs.Validation.Lookahead
import ChartConfig.Proofs.Validation.Events
import ChartConfig.Proofs.Validation.Required

/-!
# The blocks of a run and those of a layout

A run and a layout keep a stack of open blocks each. A run changes its stack on the lines that it scans; a layout looks
at the rows of tables too, and takes a word for a keyword that is one up to case folding only. Without complaints of the
run, and unless such a line moves a block of the layout, the one stack mirrors the other: every open block stands in
both, and the layout has kept the indent of the line that opened it.
-/

namespace ChartConfig

open Text Finding BlockEvent

variable {α : Type} {k : Ruler α} {r : Registry} {l : Layout α} {line analysed : List Char}
  {following : List (List Char)} {x : Passing}

/-! ## Rows and other text -/

namespace Passing

/-- The line is data to a run: a row of a table, or a line outside of scripts that begins with no keyword. -/
def IsData (x : Passing) : Prop :=
  x.event? = none ∧ x.before.blocks.isIn .script = false ∧
    (x.before.blocks.isIn .csv = true ∨ Line.keyword? x.line = none)

instance (x : Passing) : Decidable x.IsData :=
  inferInstanceAs (Decidable (_ ∧ _ ∧ (_ ∨ _)))

end Passing

/-! ## What a layout does with a keyword -/

/-- What the layout has kept of the line that opened a block: its indent, and whether it began a script. -/
def OpenBlock.mark (b : OpenBlock α) : Option (Indent α) × Bool :=
  (some (.at b.indent), b.isScript)

namespace Layout

variable {word : Keyword}

theorem step_of_keyword (isKeyword : Line.keyword? analysed = some word)
    (blank : allBlank line = true → allBlank analysed = true) (outside : l.inScript = true → word = .endScript) :
    step k r l line analysed following = plain k l analysed following := by
  have noHeader : Line.headerName? analysed = none := by
    by_contra named
    obtain ⟨name, isName⟩ := Option.ne_none_iff_exists'.mp named
    rw [Line.keyword?_of_header isName] at isKeyword
    cases isKeyword
  have notBlank : allBlank line = false := by
    rw [Bool.eq_false_iff]
    intro isBlank
    rw [Line.keyword?_of_blank (blank isBlank)] at isKeyword
    cases isKeyword
  have isLaidOut : (l.inScript && Line.keyword? analysed != some .endScript) = false := by
    cases inside : l.inScript with
    | false => rfl
    | true => simp [isKeyword, outside inside]
  simp [step, isLaidOut, noHeader, notBlank]

theorem plain_terminator {opener : Keyword} (isKeyword : Line.keyword? analysed = some word)
    (closes : word.closes = some opener) :
    plain k l analysed following = (.at l.closeBlock.indent, l.closeBlock) := by
  have closing : Line.isClosing analysed = true :=
    Line.leadsWith_of_keyword? isKeyword (by simp [Keyword.isClosing, closes])
  have opensNothing : Line.opensLevel analysed = false := by
    rw [Line.opensLevel, Line.leadsWith_eq_of_keyword? isKeyword]
    revert closes
    cases word <;> simp [Keyword.closes, Keyword.opensLevel]
  simp [plain, closing, opensNothing]

theorem plain_alternative (isKeyword : Line.keyword? analysed = some word) (alternative : word.isAlternative = true) :
    plain k l analysed following = (.at l.closeBlock.indent, l.closeBlock.openBlock k false) := by
  have closing : Line.isClosing analysed = true :=
    Line.leadsWith_of_keyword? isKeyword (by simp [Keyword.isClosing, alternative])
  have opens : Line.opensLevel analysed = true := by
    rw [Line.opensLevel, Line.leadsWith_eq_of_keyword? isKeyword]
    revert alternative
    cases word <;> simp [Keyword.isAlternative, Keyword.opensLevel]
  have waits : Line.needsTerminator analysed following = true := by
    rw [Line.needsTerminator, isKeyword]
    revert alternative
    cases word <;> simp [Keyword.isAlternative]
  have noScript : (Line.keyword? analysed == some .script) = false := by
    rw [isKeyword]
    revert alternative
    cases word <;> simp [Keyword.isAlternative]
  simp [plain, closing, opens, waits, noScript]

theorem plain_opener (isKeyword : Line.keyword? analysed = some word)
    (opensBlock : Line.opensBlock analysed following word = true) :
    plain k l analysed following = (.at l.indent, l.openBlock k (word == .script)) := by
  have closesNothing : Line.isClosing analysed = false := by
    rw [Line.isClosing, Line.leadsWith_eq_of_keyword? isKeyword]
    revert opensBlock
    cases word <;> simp [Line.opensBlock, Keyword.isClosing, Keyword.closes, Keyword.isAlternative]
  have opens : Line.opensLevel analysed = true := by
    rw [Line.opensLevel, Line.leadsWith_eq_of_keyword? isKeyword]
    revert opensBlock
    cases word <;> simp [Line.opensBlock, Keyword.opensLevel]
  have waits : Line.needsTerminator analysed following = true := by
    rw [Line.needsTerminator, isKeyword]
    revert opensBlock
    cases word <;> simp [Line.opensBlock]
  simp [plain, closesNothing, opens, waits, isKeyword]

theorem plain_other (isKeyword : Line.keyword? analysed = some word) (notClosing : word.isClosing = false)
    (notOpening : Line.opensBlock analysed following word = false) :
    plain k l analysed following = (.at l.indent, l) := by
  have closesNothing : Line.isClosing analysed = false := by
    rw [Line.isClosing, Line.leadsWith_eq_of_keyword? isKeyword, notClosing]
  have waitsForNothing : Line.needsTerminator analysed following = false := by
    rw [Line.needsTerminator, isKeyword]
    revert notClosing notOpening
    cases word <;> simp [Line.opensBlock, Keyword.isClosing, Keyword.closes, Keyword.isAlternative]
  simp [plain, closesNothing, waitsForNothing]

/-- A plain line that leaves the number of blocks as it was has closed and opened nothing, or has opened one block in
    the place of the one that it closed, with the same indent. -/
theorem plain_marks (ended : l.inScript = true → Line.keyword? analysed = some .endScript)
    (sameLength : (plain k l analysed following).2.blocks.length = l.blocks.length) :
    (plain k l analysed following).2.blocks.map OpenBlock.mark = l.blocks.map OpenBlock.mark := by
  obtain ⟨indent, sections, blocks⟩ := l
  unfold plain at sameLength ⊢
  cases closing : Line.isClosing analysed with
  | false =>
    cases opens : Line.opensLevel analysed && Line.needsTerminator analysed following with
    | false => rfl
    | true => simp [closing, opens, openBlock] at sameLength
  | true =>
    cases opens : Line.opensLevel analysed && Line.needsTerminator analysed following with
    | false =>
      cases blocks with
      | nil => rfl
      | cons top blocks => simp [closing, opens, closeBlock] at sameLength
    | true =>
      cases blocks with
      | nil => simp [closing, opens, closeBlock, openBlock] at sameLength
      | cons top blocks =>
        have opensLevel : Line.opensLevel analysed = true := (Bool.and_eq_true_iff.mp opens).1
        have notOpened : Line.keyword? analysed ≠ some .script := by
          intro script
          rw [Line.isClosing, Line.leadsWith_eq_of_keyword? script] at closing
          cases closing
        have notClosed : top.isScript = false := by
          rw [Bool.eq_false_iff]
          intro script
          rw [Line.opensLevel, Line.leadsWith_eq_of_keyword? (ended script)] at opensLevel
          cases opensLevel
        simp [closeBlock, openBlock, OpenBlock.mark, notOpened, notClosed]

theorem step_marks (sameLength : (step k r l line analysed following).2.blocks.length = l.blocks.length) :
    (step k r l line analysed following).2.blocks.map OpenBlock.mark = l.blocks.map OpenBlock.mark := by
  unfold step at sameLength ⊢
  cases skipped : l.inScript && Line.keyword? analysed != some .endScript with
  | true => rfl
  | false =>
    cases named : Line.headerName? analysed with
    | some name => rfl
    | none =>
      cases blank : allBlank line with
      | true => rfl
      | false =>
        have ended : l.inScript = true → Line.keyword? analysed = some .endScript := by
          intro inside
          simpa [inside] using skipped
        simp only [skipped, named, blank, Bool.false_eq_true, if_false] at sameLength ⊢
        exact plain_marks ended sameLength

end Layout

/-! ## The two stacks -/

def KeywordAt.mark (indents : List (Indent α)) (b : KeywordAt) : Option (Indent α) × Bool :=
  (indents[b.range.start.line]?, b.keyword == .script)

/-- Scripts and tables hold no other block. -/
def Blocks.BodiesInnermost (blocks : Blocks) : Prop :=
  ∀ b ∈ blocks.dropLast, b.keyword ≠ .script ∧ b.keyword ≠ .csv

theorem Blocks.BodiesInnermost.getLast? {blocks : Blocks} (innermost : blocks.BodiesInnermost) {body : Keyword}
    (isBody : body = .script ∨ body = .csv) (isOpen : blocks.isIn body = true) :
    ∃ b, blocks.getLast? = some b ∧ b.keyword = body := by
  obtain ⟨b, member, isHere⟩ := (isIn_iff blocks).mp isOpen
  have nonempty : blocks ≠ [] := List.ne_nil_of_mem member
  rw [← List.dropLast_append_getLast nonempty, List.mem_append, List.mem_singleton] at member
  rcases member with above | last
  · obtain ⟨notScript, notCsv⟩ := innermost b above
    rcases isBody with rfl | rfl <;> contradiction
  · exact ⟨b, by rw [last, List.getLast?_eq_getLast_of_ne_nil nonempty], isHere⟩

namespace Layout

variable {indents : List (Indent α)} {blocks : Blocks} {b : KeywordAt}

/-- The layout has a block open for each that the run has open, with the same mark. The layout has the innermost first,
    and the run has it last. -/
def Mirrors (indents : List (Indent α)) (l : Layout α) (blocks : Blocks) : Prop :=
  l.blocks.map OpenBlock.mark = (blocks.map (KeywordAt.mark indents)).reverse

theorem Mirrors.length_eq (mirrors : l.Mirrors indents blocks) : l.blocks.length = blocks.length := by
  simpa using congrArg List.length mirrors

theorem Mirrors.innermost (mirrors : l.Mirrors indents blocks) (isLast : blocks.getLast? = some b) :
    indents[b.range.start.line]? = some (.at l.closeBlock.indent) ∧ l.inScript = (b.keyword == .script) ∧
      l.closeBlock.Mirrors indents blocks.dropLast := by
  obtain ⟨indent, sections, opened⟩ := l
  rw [Mirrors, ← List.dropLast_append_getLast? b isLast] at mirrors
  simp only [List.map_append, List.map_cons, List.map_nil, List.reverse_append, List.reverse_cons, List.reverse_nil,
    List.nil_append, List.cons_append] at mirrors
  cases opened with
  | nil => cases mirrors
  | cons top opened =>
    obtain ⟨sameMark, rest⟩ := List.cons.inj mirrors
    obtain ⟨sameIndent, sameKind⟩ := Prod.mk.inj sameMark
    exact ⟨sameIndent.symm, sameKind, rest⟩

theorem Mirrors.isIn_script (mirrors : l.Mirrors indents blocks) (inScript : l.inScript = true) :
    blocks.isIn .script = true := by
  cases isLast : blocks.getLast? with
  | none =>
    have noBlocks : l.blocks = [] := by
      rw [List.getLast?_eq_none_iff.mp isLast] at mirrors
      exact List.map_eq_nil_iff.mp mirrors
    simp [Layout.inScript, noBlocks] at inScript
  | some b =>
    rw [(mirrors.innermost isLast).2.1] at inScript
    exact (Blocks.isIn_iff blocks).mpr ⟨b, List.mem_of_getLast? isLast, eq_of_beq inScript⟩

theorem Mirrors.outside {word : Keyword} (mirrors : l.Mirrors indents x.before.blocks)
    (isRead : x.before.control.reads x.line = true) (isKeyword : Line.keyword? x.line = some word)
    (inScript : l.inScript = true) : word = .endScript := by
  have isOpen : x.before.control.blocks.isIn .script = true := mirrors.isIn_script inScript
  simp only [Control.reads, Blocks.inBody, isOpen, isKeyword, Bool.true_and, Bool.and_eq_true, Bool.not_eq_true',
    bne_eq_false_iff_eq, Option.some.injEq] at isRead
  exact isRead.1

/-! ### One line -/

theorem Mirrors.steady (mirrors : l.Mirrors indents x.before.blocks) (innermost : x.before.blocks.BodiesInnermost)
    (control : x.after.control = x.before.control.next x.number x.line following)
    (blank : allBlank line = true → allBlank x.line = true) (noEvent : x.event? = none) (noData : ¬ x.IsData) :
    (step k r l line x.line following).2 = l := by
  cases script : x.before.blocks.isIn .script with
  | true =>
    obtain ⟨b, isLast, isScript⟩ := innermost.getLast? (.inl rfl) script
    have noTable : x.before.blocks.isIn .csv = false := by
      rw [Bool.eq_false_iff]
      intro table
      obtain ⟨c, isLastToo, isTable⟩ := innermost.getLast? (.inr rfl) table
      rw [isLast] at isLastToo
      cases isLastToo
      rw [isScript] at isTable
      cases isTable
    have inScript : l.inScript = true := by rw [(mirrors.innermost isLast).2.1, isScript]; rfl
    have noTerminator : Line.keyword? x.line ≠ some .endScript := by
      intro ends
      have isRead : x.before.control.reads x.line = true := by
        simp [Control.reads, Blocks.inBody, State.control, noTable, ends]
      have closesNothing := (Passing.keyword_of_no_event control noEvent isRead ends).1
      cases closesNothing
    rw [step_of_script inScript noTerminator]
  | false =>
    cases table : x.before.blocks.isIn .csv with
    | true => exact absurd ⟨noEvent, script, .inl table⟩ noData
    | false =>
      have isRead : x.before.control.reads x.line = true := by
        simp [Control.reads, Blocks.inBody, State.control, script, table]
      cases isKeyword : Line.keyword? x.line with
      | none => exact absurd ⟨noEvent, script, .inr isKeyword⟩ noData
      | some word =>
        obtain ⟨notClosing, notOpening⟩ := Passing.keyword_of_no_event control noEvent isRead isKeyword
        rw [step_of_keyword isKeyword blank (mirrors.outside isRead isKeyword),
          plain_other isKeyword notClosing notOpening]

theorem Mirrors.step_event (mirrors : l.Mirrors indents x.before.blocks)
    (blank : allBlank line = true → allBlank x.line = true) :
    (∀ opener, x.event? = some (.closes opener) →
      step k r l line x.line following = (.at l.closeBlock.indent, l.closeBlock)) ∧
    (x.event? = some .alternative →
      step k r l line x.line following = (.at l.closeBlock.indent, l.closeBlock.openBlock k false)) := by
  constructor
  · intro opener happened
    obtain ⟨isRead, word, isKeyword, closes⟩ := Passing.keyword_of_closes happened
    rw [step_of_keyword isKeyword blank (mirrors.outside isRead isKeyword), plain_terminator isKeyword closes]
  · intro happened
    obtain ⟨isRead, word, isKeyword, alternative⟩ := Passing.keyword_of_alternative happened
    rw [step_of_keyword isKeyword blank (mirrors.outside isRead isKeyword), plain_alternative isKeyword alternative]

theorem Mirrors.step (mirrors : l.Mirrors indents x.before.blocks) (innermost : x.before.blocks.BodiesInnermost)
    (control : x.after.control = x.before.control.next x.number x.line following) (silent : x.complaints = [])
    (blank : allBlank line = true → allBlank x.line = true)
    (asked : indents[x.number]? = some (Layout.step k r l line x.line following).1)
    (steady : x.IsData → (Layout.step k r l line x.line following).2.blocks.length = l.blocks.length) :
    (Layout.step k r l line x.line following).2.Mirrors indents x.after.blocks := by
  obtain ⟨onTerminator, onAlternative⟩ := @Mirrors.step_event α k r l line following x indents mirrors blank
  rcases Passing.silent_cases (x.change control) silent with
    ⟨noEvent, same⟩ | ⟨b, pushes, place⟩ | ⟨b, isLast, closes, same⟩ | ⟨b, isLast, isIf, branches, same⟩
  · rw [Mirrors, same]
    by_cases isData : x.IsData
    · rw [step_marks (steady isData)]
      exact mirrors
    · rw [mirrors.steady innermost control blank noEvent isData]
      exact mirrors
  · obtain ⟨isRead, isKeyword, -, opens⟩ := Passing.keyword_of_pushes control pushes
    have outside := mirrors.outside isRead isKeyword
    rw [step_of_keyword isKeyword blank outside, plain_opener isKeyword opens] at asked ⊢
    rw [Mirrors, show x.after.blocks = x.before.blocks ++ [b] from pushes, List.map_append, List.reverse_append,
      ← show _ = _ from mirrors]
    simp only [openBlock, List.map_cons, List.map_nil, List.reverse_cons, List.reverse_nil, List.nil_append,
      List.cons_append, OpenBlock.mark, KeywordAt.mark, place, asked]
  · rw [onTerminator _ closes, same]
    exact (mirrors.innermost isLast).2.2
  · have reopened := (mirrors.innermost isLast).2.2
    rw [onAlternative branches, same, Mirrors, ← List.dropLast_append_getLast? b isLast, List.map_append,
      List.reverse_append, ← show _ = _ from reopened]
    simp only [openBlock, List.map_cons, List.map_nil, List.reverse_cons, List.reverse_nil, List.nil_append,
      List.cons_append, OpenBlock.mark, KeywordAt.mark, (mirrors.innermost isLast).1, isIf]
    rfl

end Layout

theorem Blocks.BodiesInnermost.next (innermost : x.before.blocks.BodiesInnermost)
    (control : x.after.control = x.before.control.next x.number x.line following) (silent : x.complaints = []) :
    x.after.blocks.BodiesInnermost := by
  rcases Passing.silent_cases (x.change control) silent with
    ⟨-, same⟩ | ⟨b, pushes, -⟩ | ⟨b, -, -, same⟩ | ⟨b, -, -, -, same⟩
  · rwa [same]
  · obtain ⟨isRead, isKeyword, -, opens⟩ := Passing.keyword_of_pushes control pushes
    rw [show x.after.blocks = x.before.blocks ++ [b] from pushes, BodiesInnermost, List.dropLast_concat]
    -- In a body only its terminator is read, and that opens nothing.
    intro c member
    constructor
    all_goals
      intro isBody
      have isOpen := (isIn_iff x.before.blocks).mpr ⟨c, member, isBody⟩
      simp only [Control.reads, Blocks.inBody, State.control, isOpen, isKeyword, Bool.true_and, Bool.and_eq_true,
        Bool.not_eq_true', bne_eq_false_iff_eq, Option.some.injEq] at isRead
      simp [isRead, Line.opensBlock] at opens
  · rw [same]
    intro c member
    exact innermost c (List.dropLast_subset _ member)
  · rwa [same]

/-! ### All lines -/

theorem Step.number_of_passings {number i : Nat} {lines : List (List Char)} {s : State}
    (isPassed : (Step.passings r number lines s)[i]? = some x) : x.number = number + i := by
  induction lines generalizing number i s with
  | nil => cases isPassed
  | cons line following inductionHypothesis =>
    unfold passings at isPassed
    split at isPassed
    · cases i with
      | zero =>
        cases isPassed
        rfl
      | succ i =>
        rw [inductionHypothesis isPassed]
        omega
    · cases isPassed

namespace Layout

variable {indents : List (Indent α)} {lines others : List (List Char)} {number : Nat} {s : State}

/-- As long as nothing is complained about and data moves no blocks, the stacks mirror each other on the way and at the
    end. -/
theorem mirrors_passings (blank : List.Forall₂ (fun line analysed => allBlank line = true → allBlank analysed = true)
      lines others)
    (asked : indents.drop number = indentsFrom k r l lines others) (armed : s.control.Armed)
    (mirrors : l.Mirrors indents s.blocks) (innermost : s.blocks.BodiesInnermost)
    (silent : ∀ x ∈ Step.passings r number others s, x.complaints = [])
    (steady : ∀ i x, (Step.passings r number others s)[i]? = some x → x.IsData →
      (l.afterLines k r (i + 1) lines others).blocks.length = (l.afterLines k r i lines others).blocks.length) :
    (∀ i x, (Step.passings r number others s)[i]? = some x →
      (l.afterLines k r i lines others).Mirrors indents x.before.blocks ∧
      (l.afterLines k r (i + 1) lines others).Mirrors indents x.after.blocks ∧
      ∀ b, x.before.blocks.getLast? = some b →
        (∃ opener, x.event? = some (.closes opener)) ∨ x.event? = some .alternative →
          ∃ indent, indents[b.range.start.line]? = some (.at indent) ∧ indents[x.number]? = some (.at indent)) ∧
    (l.afterLines k r lines.length lines others).Mirrors indents (s.control.afterLines number others).blocks := by
  induction blank generalizing number l s with
  | nil =>
    refine ⟨?_, mirrors⟩
    intro i x isPassed
    cases isPassed
  | @cons line analysed lines following first rest inductionHypothesis =>
    obtain ⟨after, said, ran, stillArmed, control, -⟩ := Step.line_succeeds r number analysed following armed
    simp only [Step.passings, ran] at silent steady ⊢
    simp only [indentsFrom] at asked
    have askedHere : indents[number]? = some (step k r l line analysed following).1 := by
      rw [← List.head?_drop, asked, List.head?_cons]
    have askedBelow :
        indents.drop (number + 1) = indentsFrom k r (step k r l line analysed following).2 lines following := by
      rw [← List.tail_drop, asked, List.tail_cons]
    have silentHere := silent ⟨s, number, analysed, after⟩ (List.mem_cons_self ..)
    have steadyHere := steady 0 ⟨s, number, analysed, after⟩ rfl
    simp only [afterLines] at steadyHere
    have mirrorsNext : (step k r l line analysed following).2.Mirrors indents after.blocks :=
      @Mirrors.step α k r l line following ⟨s, number, analysed, after⟩ indents mirrors innermost control silentHere
        first askedHere steadyHere
    have innermostNext : after.blocks.BodiesInnermost :=
      @Blocks.BodiesInnermost.next following ⟨s, number, analysed, after⟩ innermost control silentHere
    obtain ⟨onTheWay, atTheEnd⟩ := inductionHypothesis askedBelow stillArmed mirrorsNext innermostNext
      (fun x member => silent x (List.mem_cons_of_mem _ member)) (fun i x isPassed => steady (i + 1) x isPassed)
    constructor
    · intro i x isPassed
      cases i with
      | zero =>
        cases isPassed
        refine ⟨mirrors, mirrorsNext, ?_⟩
        intro b isLast happened
        obtain ⟨onTerminator, onAlternative⟩ :=
          @Mirrors.step_event α k r l line following ⟨s, number, analysed, after⟩ indents mirrors first
        refine ⟨l.closeBlock.indent, (mirrors.innermost isLast).1, askedHere.trans ?_⟩
        rcases happened with ⟨opener, closes⟩ | branches
        · rw [onTerminator opener closes]
        · rw [onAlternative branches]
      | succ i => exact onTheWay i x isPassed
    · rw [Control.afterLines, ← control]
      exact atTheEnd

end Layout

/-! ## Equal heights -/

namespace Passing

variable (k r) in
def KeepsHeight (text : String) (x : Passing) : Prop :=
  (Layout.after k r text (x.number + 1)).blocks.length = (Layout.after k r text x.number).blocks.length

instance (text : String) (x : Passing) : Decidable (x.KeepsHeight k r text) :=
  inferInstanceAs (Decidable (_ = _))

variable (k r) in
/-- The layout and the run have the same number of blocks open, before the line and after it. -/
def InStep (text : String) (x : Passing) : Prop :=
  (Layout.after k r text x.number).blocks.length = x.before.blocks.length ∧
    (Layout.after k r text (x.number + 1)).blocks.length = x.after.blocks.length

/-- The two lines are indented alike. -/
def Aligned (indents : List (Indent α)) (x y : Passing) : Prop :=
  ∃ indent, indents[x.number]? = some (.at indent) ∧ indents[y.number]? = some (.at indent)

end Passing

theorem passings_of_orderly (r : Registry) (text : String) :
    ∃ found last, validate text r = .ok found ∧ last = (Control.afterLines {} 0 (Document.analysed text)).blocks ∧
      Passes 0 [] (Document.passings r text) last ∧
      (found.filter (·.isStructural) = [] → last = [] ∧ ∀ x ∈ Document.passings r text, x.complaints = []) := by
  obtain ⟨said, ran, reports⟩ := validate_reports r text
  obtain ⟨passes, -, sameComplaints⟩ := Step.passings_passes r 0 (Document.analysed text) State.armed_initial
  refine ⟨diagnostics said, _, ran, rfl, passes, fun orderly => ?_⟩
  have nothing := reports.structural.symm.trans orderly
  rw [diagnostics_append, Blocks.diagnostics_leftOpen, List.append_eq_nil_iff, List.map_eq_nil_iff] at nothing
  refine ⟨nothing.2, ?_⟩
  rw [← List.flatMap_eq_nil_iff]
  exact sameComplaints.symm.trans nothing.1

theorem Layout.mirrors_document {text : String} (silent : ∀ x ∈ Document.passings r text, x.complaints = [])
    (steady : ∀ x ∈ Document.passings r text, x.IsData → x.KeepsHeight k r text) :
    (∀ x ∈ Document.passings r text,
      (Layout.after k r text x.number).Mirrors (Layout.indents k r text) x.before.blocks ∧
      (Layout.after k r text (x.number + 1)).Mirrors (Layout.indents k r text) x.after.blocks ∧
      ∀ b, x.before.blocks.getLast? = some b →
        (∃ opener, x.event? = some (.closes opener)) ∨ x.event? = some .alternative →
          ∃ indent, (Layout.indents k r text)[b.range.start.line]? = some (.at indent) ∧
            (Layout.indents k r text)[x.number]? = some (.at indent)) ∧
    (Layout.after k r text (Document.lines text).length).Mirrors (Layout.indents k r text)
      (Control.afterLines {} 0 (Document.analysed text)).blocks := by
  have place {i : Nat} {x : Passing} (isPassed : (Document.passings r text)[i]? = some x) : x.number = i :=
    (Step.number_of_passings isPassed).trans (Nat.zero_add i)
  have noBodies : Blocks.BodiesInnermost ({} : State).blocks := by
    intro b member
    cases member
  have steadyByIndex : ∀ i x, (Document.passings r text)[i]? = some x → x.IsData →
      ((Layout.start k).afterLines k r (i + 1) (Document.lines text) (Document.analysed text)).blocks.length =
        ((Layout.start k).afterLines k r i (Document.lines text) (Document.analysed text)).blocks.length := by
    intro i x isPassed isData
    have keeps := steady x (List.mem_of_getElem? isPassed) isData
    rwa [Passing.KeepsHeight, place isPassed] at keeps
  obtain ⟨onTheWay, atTheEnd⟩ := mirrors_passings (Document.analysed_blank text)
    (rfl : (Layout.indents k r text).drop 0 = _) State.armed_initial rfl noBodies silent steadyByIndex
  refine ⟨?_, atTheEnd⟩
  intro x member
  obtain ⟨i, isPassed⟩ := List.mem_iff_getElem?.mp member
  have mirrors := onTheWay i x isPassed
  rw [place isPassed] at mirrors ⊢
  exact mirrors

/-- A run and a layout of a document whose blocks are in order. The layout has as many blocks open as the run, on the
    whole way, exactly if no row of a table and no line without a keyword opens or closes one for it. In that case every
    terminator is indented like the line that opened its block, every alternative like the line of its `if`, and the
    layout ends without open blocks. -/
theorem formatter_follows_blocks (r : Registry) (o : FormatOptions) (text : String) :
    ∃ found, validate text r = .ok found ∧ (found.filter (·.isStructural) = [] →
      ((∀ x ∈ Document.passings r text, x.IsData → x.KeepsHeight o.ruler r text) ↔
        ∀ x ∈ Document.passings r text, x.InStep o.ruler r text) ∧
      ((∀ x ∈ Document.passings r text, x.IsData → x.KeepsHeight o.ruler r text) →
        (∀ y ∈ Document.passings r text, ∀ opener, y.event? = some (.closes opener) →
          ∃ x ∈ Document.passings r text, ∃ b, x.Pushes b ∧ b.keyword = opener ∧ y.removes b = true ∧
            Passing.Aligned (Layout.indents o.ruler r text) x y) ∧
        (∀ y ∈ Document.passings r text, y.event? = some .alternative →
          ∃ x ∈ Document.passings r text, ∃ b, x.Pushes b ∧ b.keyword = .ifBlock ∧
            y.before.blocks.getLast? = some b ∧ Passing.Aligned (Layout.indents o.ruler r text) x y) ∧
        (Layout.after o.ruler r text (Document.lines text).length).blocks = [])) := by
  obtain ⟨found, last, ran, isLast, passes, silent⟩ := passings_of_orderly r text
  refine ⟨found, ran, fun orderly => ?_⟩
  obtain ⟨closed, silent⟩ := silent orderly
  have mirrored (steady : ∀ x ∈ Document.passings r text, x.IsData → x.KeepsHeight o.ruler r text) :=
    Layout.mirrors_document silent steady
  have pushed {y : Passing} (isPassed : y ∈ Document.passings r text) {b : KeywordAt} (isOpen : b ∈ y.before.blocks) :
      ∃ x ∈ Document.passings r text, x.Pushes b ∧ b.range.start.line = x.number := by
    rcases passes.pushed_of_before isPassed isOpen with initial | ⟨x, isPassedToo, pushes⟩
    · cases initial
    · exact ⟨x, isPassedToo, pushes, ((passes.change_of_mem x isPassedToo).opens_of_pushed pushes).2.1⟩
  refine ⟨⟨?_, ?_⟩, fun steady => ⟨?_, ?_, ?_⟩⟩
  · intro steady x isPassed
    obtain ⟨before, behind, -⟩ := (mirrored steady).1 x isPassed
    exact ⟨before.length_eq, behind.length_eq⟩
  · intro inStep x isPassed isData
    obtain ⟨before, behind⟩ := inStep x isPassed
    have same : x.after.blocks = x.before.blocks :=
      (passes.change_of_mem x isPassed).unchanged_of_no_event isData.1
    rw [Passing.KeepsHeight, before, behind, same]
  · intro y isPassed opener closes
    rcases Passing.silent_cases (passes.change_of_mem y isPassed) (silent y isPassed) with
      ⟨noEvent, -⟩ | ⟨b, pushes, -⟩ | ⟨b, isLast, closesToo, after⟩ | ⟨b, -, -, branches, -⟩
    · cases closes.symm.trans noEvent
    · cases closes.symm.trans ((passes.change_of_mem y isPassed).opens_of_pushed pushes).1
    · obtain ⟨x, isPassedToo, pushes, place⟩ := pushed isPassed (List.mem_of_getLast? isLast)
      cases closes.symm.trans closesToo
      refine ⟨x, isPassedToo, b, pushes, rfl, ?_, ?_⟩
      · have removed := (passes.ordered_before Blocks.ordered_initial y isPassed).not_mem_dropLast isLast
        simp [Passing.removes, List.mem_of_getLast? isLast, after, removed]
      · have aligned := ((mirrored steady).1 y isPassed).2.2 b isLast (.inl ⟨_, closes⟩)
        rwa [place] at aligned
    · cases closes.symm.trans branches
  · intro y isPassed branches
    rcases Passing.silent_cases (passes.change_of_mem y isPassed) (silent y isPassed) with
      ⟨noEvent, -⟩ | ⟨b, pushes, -⟩ | ⟨b, -, closes, -⟩ | ⟨b, isLast, isIf, -, -⟩
    · cases branches.symm.trans noEvent
    · cases branches.symm.trans ((passes.change_of_mem y isPassed).opens_of_pushed pushes).1
    · cases branches.symm.trans closes
    · obtain ⟨x, isPassedToo, pushes, place⟩ := pushed isPassed (List.mem_of_getLast? isLast)
      have aligned := ((mirrored steady).1 y isPassed).2.2 b isLast (.inr branches)
      rw [place] at aligned
      exact ⟨x, isPassedToo, b, pushes, isIf, isLast, aligned⟩
  · have atTheEnd := (mirrored steady).2.length_eq
    rw [← isLast, closed] at atTheEnd
    exact List.length_eq_zero_iff.mp atTheEnd

/-- A table inside a condition with an alternative. -/
def tableText : String :=
  "if a == b\n  csv c = x,y\n  1,2\n  endcsv\nelse\n  var d = 1\nendif"

theorem formatter_follows_blocks_table :
    ∃ found, validate tableText chartRegistry = .ok found ∧ found.filter (·.isStructural) = [] ∧
      (∀ x ∈ Document.passings chartRegistry tableText, x.IsData →
        x.KeepsHeight (FormatOptions.ruler {}) chartRegistry tableText) ∧
      (∀ y ∈ Document.passings chartRegistry tableText, y.event? = some .alternative →
        ∃ x ∈ Document.passings chartRegistry tableText, ∃ b, x.Pushes b ∧ b.keyword = .ifBlock ∧
          y.before.blocks.getLast? = some b ∧
          Passing.Aligned (Layout.indents (FormatOptions.ruler {}) chartRegistry tableText) x y) ∧
      (Layout.after (FormatOptions.ruler {}) chartRegistry tableText (Document.lines tableText).length).blocks =
        [] := by
  obtain ⟨found, ran, follows⟩ := formatter_follows_blocks chartRegistry {} tableText
  have structural : (validate tableText chartRegistry).toOption.map (fun found => found.filter (·.isStructural)) =
      some [] := by
    decide +kernel
  rw [ran] at structural
  have orderly : found.filter (·.isStructural) = [] := Option.some.inj structural
  have steady : ∀ x ∈ Document.passings chartRegistry tableText, x.IsData →
      x.KeepsHeight (FormatOptions.ruler {}) chartRegistry tableText := by
    decide +kernel
  obtain ⟨-, agree⟩ := follows orderly
  obtain ⟨-, alternatives, ended⟩ := agree steady
  exact ⟨found, ran, orderly, steady, alternatives, ended⟩

end ChartConfig
