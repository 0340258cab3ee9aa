import ChartConfig.Proofs.Validation.Counting
import ChartConfig.Proofs.Validation.FirstLines
import ChartConfig.Proofs.Validation.Naming
import ChartConfig.Proofs.Validation.Required

/-!
# Loops and the names they bring into use

A `for` is remembered three times: its block is open, a scope says whether it brought its variable into use, and the
variable, if it did, is among the names of loops. Whatever the document, the three stay in step: each line keeps
`Names.InStep`, however its blocks are nested and whether its names are well formed, new or taken. Nothing but template
variables is ever declared twice.
-/

namespace ChartConfig

open Text

/-! ## Open loops -/

/-- The loops that are open after the keyword of a line: each by the variable that its line names, the outermost
    first. A malformed `for` names none. -/
def loopsAfter (loops : List (Option String)) (line : List Char) : Keyword → List (Option String)
  | .forBlock => loops ++ [(Line.loopVariable? line).map (·.1.word)]
  | .endFor => loops.dropLast
  | _ => loops

def Reading.loops (loops : List (Option String)) (x : Reading) : List (Option String) :=
  (Line.keyword? x.line).elim loops (loopsAfter loops x.line)

/-- The loops that are open after the given lines. -/
def openLoops (xs : List Reading) : List (Option String) :=
  xs.foldl Reading.loops []

/-- The variables of the loops whose scopes say that they brought them into use. -/
def broughtIn (loops : List (Option String)) (scopes : List Bool) : List (Option String) :=
  ((loops.zip scopes).filter Prod.snd).map Prod.fst

theorem broughtIn_concat {loops : List (Option String)} {scopes : List Bool} (same : loops.length = scopes.length)
    (named : Option String) (brings : Bool) :
    broughtIn (loops ++ [named]) (scopes ++ [brings]) =
      broughtIn loops scopes ++ if brings then [named] else [] := by
  cases brings <;> simp [broughtIn, List.zip_append same]

theorem Blocks.count_for_afterKeyword (blocks : Blocks) (line : List Char) (following : List (List Char))
    (found : KeywordAt) :
    (blocks.afterKeyword line following found).count .forBlock =
      match found.keyword with
      | .forBlock => blocks.count .forBlock + 1
      | .endFor => blocks.count .forBlock - 1
      | _ => blocks.count .forBlock := by
  rw [count_afterKeyword]
  cases found.keyword <;> simp [Keyword.closes, Line.opensBlock]

/-! ## Names and loops in step -/

namespace Names

variable {n : Names} {blocks : Blocks} {loops : List (Option String)} {number : Nat} {line : List Char}

/-- The open blocks, the open loops and the names in use agree on the loops. -/
structure InStep (n : Names) (blocks : Blocks) (loops : List (Option String)) : Prop where
  blocks_eq : blocks.count .forBlock = n.scopes.length
  loops_eq : loops.length = n.scopes.length
  loop_eq : n.loop.map some = broughtIn loops n.scopes

/-- The names that may not be declared twice. -/
def reserved (n : Names) : List String :=
  n.loop ++ n.list ++ n.var ++ n.csv

theorem InStep.congr {other : Names} {opened : Blocks} (inStep : n.InStep blocks loops)
    (scopes : other.scopes = n.scopes) (loop : other.loop = n.loop)
    (same : opened.count .forBlock = blocks.count .forBlock) : other.InStep opened loops :=
  ⟨by rw [same, scopes, inStep.blocks_eq], by rw [scopes, inStep.loops_eq], by rw [scopes, loop, inStep.loop_eq]⟩

/-! ### Declarations -/

theorem declare_scopes (n : Names) (kind : NameKind) (number : Nat) (piece : Piece) :
    (n.declare kind number piece).1.scopes = n.scopes := by
  unfold declare
  split
  · cases kind <;> rfl
  · rfl

theorem declare_loop (n : Names) {kind : NameKind} (other : kind ≠ .loop) (number : Nat) (piece : Piece) :
    (n.declare kind number piece).1.loop = n.loop := by
  unfold declare
  split
  · cases kind with
    | loop => exact absurd rfl other
    | _ => rfl
  · rfl

theorem reserved_add (n : Names) (name : String) {kind : NameKind} (other : kind ≠ .template) :
    (n.add name kind).reserved.Perm (name :: n.reserved) := by
  rw [List.perm_iff_count]
  intro counted
  cases kind with
  | template => exact absurd rfl other
  | loop | list | var | csv =>
    simp only [reserved, add, List.count_append, List.count_cons, List.count_nil]
    omega

theorem declare_distinct (distinct : n.reserved.Nodup) (kind : NameKind) (number : Nat) (piece : Piece) :
    (n.declare kind number piece).1.reserved.Nodup := by
  unfold declare
  split
  · next admitted =>
    by_cases template : kind = .template
    · rw [template]
      exact distinct
    · have fresh : piece.word ∉ n.reserved := by
        have unused : piece.word ∉ n.all := by simpa [admits, contains, template] using admitted
        intro member
        refine unused ?_
        rw [all, List.append_assoc, List.append_assoc, List.append_assoc]
        refine List.mem_append_right _ ?_
        rwa [reserved, List.append_assoc, List.append_assoc] at member
      exact (reserved_add n piece.word template).nodup_iff.mpr (List.nodup_cons.mpr ⟨fresh, distinct⟩)
  · exact distinct

theorem declare?_distinct (distinct : n.reserved.Nodup) (kind : NameKind) (number : Nat) (piece? : Option Piece) :
    (n.declare? kind number piece?).1.reserved.Nodup := by
  cases piece? with
  | none => exact distinct
  | some piece => exact declare_distinct distinct kind number piece

theorem InStep.declare? {kind : NameKind} (inStep : n.InStep blocks loops) (other : kind ≠ .loop) (number : Nat)
    (piece? : Option Piece) {opened : Blocks} (same : opened.count .forBlock = blocks.count .forBlock) :
    (n.declare? kind number piece?).1.InStep opened loops := by
  cases piece? with
  | none => exact inStep.congr rfl rfl same
  | some piece => exact inStep.congr (declare_scopes n kind number piece) (declare_loop n other number piece) same

theorem afterContent_eq (n : Names) (number : Nat) (line : List Char) :
    ∃ template, n.afterContent number line = { n with template } := by
  unfold afterContent
  split
  · exact ⟨n.template, rfl⟩
  · cases Line.templateDeclaration? line with
    | none => exact ⟨n.template, rfl⟩
    | some d =>
      simp only [Option.elim_some, declare, admits, beq_self_eq_true, Bool.true_or, if_true]
      exact ⟨_, rfl⟩

/-! ### Loops -/

theorem useCollection_eq (n : Names) (number : Nat) (sign : Piece) (collection : Option Piece) :
    ∃ pending, (n.useCollection number sign collection).1 = { n with pending } := by
  unfold useCollection
  split
  · exact ⟨n.pending, rfl⟩
  · split
    · exact ⟨n.pending, rfl⟩
    · exact ⟨_, rfl⟩

theorem openLoop_distinct (distinct : n.reserved.Nodup) : (n.openLoop number line).1.reserved.Nodup := by
  unfold openLoop
  split
  · exact distinct
  · next item sign isVariable =>
    obtain ⟨pending, used⟩ := n.useCollection_eq number sign (Line.loopCollection? line)
    simp only [used]
    exact @declare_distinct { n with pending } distinct .loop number item

theorem InStep.openLoop (inStep : n.InStep blocks loops) {opened : Blocks}
    (more : opened.count .forBlock = blocks.count .forBlock + 1) :
    (n.openLoop number line).1.InStep opened (loops ++ [(Line.loopVariable? line).map (·.1.word)]) := by
  unfold Names.openLoop
  cases isVariable : Line.loopVariable? line with
  | none =>
    refine ⟨?_, ?_, ?_⟩
    · rw [more, inStep.blocks_eq, List.length_append]
      rfl
    · rw [List.length_append, List.length_append, inStep.loops_eq]
      rfl
    · simp [broughtIn_concat inStep.loops_eq, inStep.loop_eq]
  | some found =>
    obtain ⟨item, sign⟩ := found
    obtain ⟨pending, used⟩ := n.useCollection_eq number sign (Line.loopCollection? line)
    simp only [used]
    refine ⟨?_, ?_, ?_⟩
    · rw [more, inStep.blocks_eq, declare_scopes, List.length_append]
      rfl
    · rw [declare_scopes, List.length_append, List.length_append, inStep.loops_eq]
      rfl
    · simp only [declare_scopes, Option.map_some]
      rw [broughtIn_concat inStep.loops_eq, ← inStep.loop_eq]
      unfold declare
      cases admits { n with pending } .loop item.word with
      | true => simp [add]
      | false => simp

theorem closeLoop_distinct (distinct : n.reserved.Nodup) : n.closeLoop.reserved.Nodup := by
  have fewer : n.closeLoop.loop.Sublist n.loop := by
    unfold closeLoop
    split
    · exact List.dropLast_sublist _
    · exact List.Sublist.refl _
  have part : n.closeLoop.reserved.Sublist n.reserved :=
    ((fewer.append_right n.list).append_right n.var).append_right n.csv
  exact distinct.sublist part

/-- What the innermost loop can be: there is none, its scope brought no variable into use, or its variable is the
    last name of a loop. -/
inductive Innermost (n : Names) : List (Option String) → Prop where
  | missing : n.scopes = [] → n.loop = [] → Innermost n []
  | silent {outer : List (Option String)} {named : Option String} {scopes : List Bool} :
      n.scopes = scopes ++ [false] → outer.length = scopes.length → n.loop.map some = broughtIn outer scopes →
      Innermost n (outer ++ [named])
  | bringing {outer : List (Option String)} {v : String} {scopes : List Bool} {loop : List String} :
      n.scopes = scopes ++ [true] → outer.length = scopes.length → n.loop = loop ++ [v] →
      loop.map some = broughtIn outer scopes → Innermost n (outer ++ [some v])

theorem InStep.innermost (inStep : n.InStep blocks loops) : n.Innermost loops := by
  obtain ⟨-, sameLength, loop⟩ := inStep
  rcases List.eq_nil_or_concat' n.scopes with empty | ⟨scopes, brings, isScopes⟩
  · have noLoops : loops = [] := by simpa [empty] using sameLength
    subst noLoops
    exact .missing empty (by simpa [broughtIn] using loop)
  · rcases List.eq_nil_or_concat' loops with noLoops | ⟨outer, named, isLoops⟩
    · simp [noLoops, isScopes] at sameLength
    · subst isLoops
      have outerLength : outer.length = scopes.length := by simpa [isScopes] using sameLength
      rw [isScopes, broughtIn_concat outerLength] at loop
      cases brings with
      | false => exact .silent isScopes outerLength (by simpa using loop)
      | true =>
        obtain ⟨before, last, isLoop, isBefore, isLast⟩ := List.map_eq_append_iff.mp loop
        obtain ⟨v, rfl, rfl⟩ := List.map_eq_singleton_iff.mp isLast
        exact .bringing isScopes outerLength isLoop isBefore

theorem InStep.closeLoop_loop (inStep : n.InStep blocks loops) :
    n.closeLoop.scopes = n.scopes.dropLast ∧
      (n.scopes.getLast? = some true → ∃ v, loops.getLast? = some (some v) ∧ n.loop = n.closeLoop.loop ++ [v]) ∧
      (n.scopes.getLast? ≠ some true → n.closeLoop.loop = n.loop) := by
  cases inStep.innermost with
  | missing scopes loop => simp [Names.closeLoop, scopes]
  | silent scopes sameLength loop => simp [Names.closeLoop, scopes]
  | @bringing outer v _ _ scopes sameLength loop before => exact ⟨rfl, by simp [Names.closeLoop, scopes, loop]⟩

theorem InStep.closeLoop (inStep : n.InStep blocks loops) {closed : Blocks}
    (fewer : closed.count .forBlock = blocks.count .forBlock - 1) : n.closeLoop.InStep closed loops.dropLast := by
  have depth : closed.count .forBlock = n.closeLoop.scopes.length := by
    rw [fewer, inStep.blocks_eq, Names.closeLoop, List.length_dropLast]
  have sameLength : loops.dropLast.length = n.closeLoop.scopes.length := by
    rw [List.length_dropLast, inStep.loops_eq, Names.closeLoop, List.length_dropLast]
  refine ⟨depth, sameLength, ?_⟩
  cases inStep.innermost with
  | missing scopes loop => simp [Names.closeLoop, scopes, loop, broughtIn]
  | silent scopes sameLength loop => simp [Names.closeLoop, scopes, loop]
  | bringing scopes sameLength loop before => simp [Names.closeLoop, scopes, loop, before]

/-! ### A line -/

theorem InStep.afterKeyword (inStep : n.InStep blocks loops) (following : List (List Char)) (found : KeywordAt) :
    (n.afterKeyword number line found.keyword).InStep (blocks.afterKeyword line following found)
      (loopsAfter loops line found.keyword) := by
  have counted := blocks.count_for_afterKeyword line following found
  obtain ⟨kind, range⟩ := found
  cases kind with
  | endFor => exact inStep.closeLoop counted
  | forBlock => exact inStep.openLoop counted
  | list | var | csv => exact inStep.declare? (by decide) number _ counted
  | _ => exact inStep.congr rfl rfl counted

theorem afterKeyword_distinct (distinct : n.reserved.Nodup) (k : Keyword) :
    (n.afterKeyword number line k).reserved.Nodup := by
  cases k with
  | endFor => exact closeLoop_distinct distinct
  | forBlock => exact openLoop_distinct distinct
  | list | var | csv => exact declare?_distinct distinct _ number _
  | _ => exact distinct

end Names

namespace Step

variable {r : Registry} {number : Nat} {line : List Char} {following : List (List Char)} {s after : State}
  {found : List Finding} {loops : List (Option String)}

theorem inStep_of_line (armed : s.control.Armed) (ran : Step.line r number line following s = .ok (after, found))
    (inStep : s.names.InStep s.blocks loops) :
    after.names.InStep after.blocks
      (if s.control.reads line then Reading.loops loops ⟨s.control, number, line⟩ else loops) := by
  have blocks : after.blocks = (s.control.next number line following).blocks :=
    congrArg Control.blocks (control_of_line armed ran)
  rw [names_of_line ran, blocks]
  unfold Names.next Control.next Reading.loops
  split
  · obtain ⟨template, content⟩ := s.names.afterContent_eq number line
    have inStepToo : (s.names.afterContent number line).InStep s.blocks loops := by
      rw [content]
      exact inStep.congr rfl rfl rfl
    cases isFound : Line.keywordAt? line number with
    | none =>
      have noKeyword : Line.keyword? line = none := Line.keywordAt?_eq_none.mp isFound
      simp only [noKeyword, Option.elim_none]
      exact inStepToo
    | some keyword =>
      simp only [Line.keyword?_eq isFound, Option.elim_some]
      exact inStepToo.afterKeyword following keyword
  · exact inStep

theorem distinct_of_line (ran : Step.line r number line following s = .ok (after, found))
    (distinct : s.names.reserved.Nodup) : after.names.reserved.Nodup := by
  rw [names_of_line ran]
  unfold Names.next
  split
  · obtain ⟨template, content⟩ := s.names.afterContent_eq number line
    have distinctToo : (s.names.afterContent number line).reserved.Nodup := by
      rw [content]
      exact distinct
    cases Line.keyword? line with
    | none => exact distinctToo
    | some k => exact Names.afterKeyword_distinct distinctToo k
  · exact distinct

/-! ## A run -/

theorem inStep_of_firstLines {count : Nat} {lines : List (List Char)} (armed : s.control.Armed)
    (ran : firstLines r number count lines s = .ok (after, found)) (inStep : s.names.InStep s.blocks loops)
    (distinct : s.names.reserved.Nodup) :
    after.names.InStep after.blocks ((s.control.firstReadings number count lines).foldl Reading.loops loops) ∧
      after.names.reserved.Nodup := by
  induction lines generalizing number count s found loops with
  | nil =>
    cases count <;>
    · cases ran
      exact ⟨inStep, distinct⟩
  | cons line following inductionHypothesis =>
    cases count with
    | zero =>
      cases ran
      exact ⟨inStep, distinct⟩
    | succ count =>
      obtain ⟨between, seen, more, first, later, -⟩ := andThen_eq_ok ran
      have inStepBetween := inStep_of_line armed first inStep
      have onward := inductionHypothesis (armed_of_line armed first) later inStepBetween
        (distinct_of_line first distinct)
      rw [control_of_line armed first] at onward
      simp only [Control.firstReadings]
      split
      · next isRead =>
        rw [if_pos isRead] at onward
        exact onward
      · next notRead =>
        rw [if_neg notRead] at onward
        exact onward

end Step

/-- After any number of lines of any document, and with every registry: as many loops are open as there are scopes; the
    names of loops are the variables of the open loops whose scopes say that they brought them into use, in the order
    in which the loops were opened; and no name of a loop, a list, a variable or a table is among them twice. If the
    next line is an `endfor` that is read, the innermost scope ends, and with it goes the variable that it brought into
    use, if it did, and no other. -/
theorem loops_in_step (r : Registry) (lines : List (List Char)) (count : Nat) :
    ∃ s found, Step.firstLines r 0 count lines {} = .ok (s, found) ∧
      s.blocks.countP (·.keyword == .forBlock) = s.names.scopes.length ∧
      (openLoops (Control.firstReadings {} 0 count lines)).length = s.names.scopes.length ∧
      s.names.loop.map some = broughtIn (openLoops (Control.firstReadings {} 0 count lines)) s.names.scopes ∧
      (s.names.loop ++ s.names.list ++ s.names.var ++ s.names.csv).Nodup ∧
      ∀ line, lines[count]? = some line → s.control.reads line = true → Line.keyword? line = some .endFor →
        ∃ after more, Step.firstLines r 0 (count + 1) lines {} = .ok (after, found ++ more) ∧
          after.names.scopes = s.names.scopes.dropLast ∧
          (s.names.scopes.getLast? = some true →
            ∃ v, (openLoops (Control.firstReadings {} 0 count lines)).getLast? = some (some v) ∧
              s.names.loop = after.names.loop ++ [v]) ∧
          (s.names.scopes.getLast? ≠ some true → after.names.loop = s.names.loop) := by
  obtain ⟨s, found, ran⟩ := @Step.firstLines_succeeds r 0 {} count lines State.armed_initial
  have initially : Names.InStep {} ([] : Blocks) [] := ⟨rfl, rfl, rfl⟩
  obtain ⟨inStep, distinct⟩ := Step.inStep_of_firstLines State.armed_initial ran initially .nil
  refine ⟨s, found, ran, inStep.blocks_eq, inStep.loops_eq, inStep.loop_eq, distinct, ?_⟩
  intro line isNext isRead isEnd
  obtain ⟨-, armed⟩ := Step.control_of_firstLines State.armed_initial ran
  obtain ⟨after, more, ranOn, -⟩ :=
    @Step.line_ensures (count + 1) s r count line (lines.drop (count + 1)) armed (by omega)
  refine ⟨after, more, ?_, ?_⟩
  · rw [Step.firstLines_succ, isNext, Step.andThen, ran]
    simp only [Option.elim_some, Nat.zero_add, ranOn]
  · obtain ⟨template, content⟩ := s.names.afterContent_eq count line
    have names : after.names = Names.closeLoop { s.names with template } := by
      rw [Step.names_of_line ranOn, Names.next, if_pos isRead, isEnd, content]
      rfl
    rw [names]
    have sameLoops : Names.InStep { s.names with template } s.blocks _ := inStep.congr rfl rfl rfl
    exact sameLoops.closeLoop_loop

/-- A loop inside another over the same variable brings nothing into use. -/
example :
    let lines := ["for a in xs", "for a in ys", "endfor"].map String.toList
    (Step.firstLines chartRegistry 0 2 lines {}).toOption.map
      (fun answer => (answer.1.names.loop, answer.1.names.scopes)) = some (["a"], [true, false]) := by
  decide +kernel

end ChartConfig
