import ChartConfig.Proofs.Language.Behind
import ChartConfig.Proofs.Validation.Performance
import ChartConfig.Proofs.Validation.Sources

/-!
# What steps tell

A property of diagnostics holds of all that a step tells if it holds of what its parts tell: there is one rule for each
way to build steps. With these rules, all that the keyword of a line can tell is listed in `KeywordTells`, and what the
assignment of a known setting tells is written out.
-/

namespace ChartConfig

open Text Finding

/-! ## Rules -/

def Finding.Each (P : Diagnostic → Prop) (found : List Finding) : Prop :=
  ∀ d ∈ diagnostics found, P d

namespace Finding

variable {P : Diagnostic → Prop} {found more : List Finding}

theorem each_nil : Each P [] :=
  List.forall_mem_nil _

theorem each_append (first : Each P found) (second : Each P more) : Each P (found ++ more) := by
  intro d member
  rw [diagnostics_append] at member
  rcases List.mem_append.mp member with earlier | later
  · exact first d earlier
  · exact second d later

theorem each_note (n : Note) : Each P [.note n] :=
  List.forall_mem_nil _

theorem each_single {d : Diagnostic} (holds : P d) : Each P [.problem d] :=
  List.forall_mem_singleton.mpr holds

theorem Each.mono {Q : Diagnostic → Prop} (each : Each P found) (implied : ∀ d, P d → Q d) : Each Q found :=
  fun d member => implied d (each d member)

theorem each_ite {p : Prop} [Decidable p] (first : Each P found) (second : Each P more) :
    Each P (if p then found else more) := by
  split
  · exact first
  · exact second

theorem each_of_forall (each : ∀ f ∈ found, Each P [f]) : Each P found := by
  induction found with
  | nil => exact each_nil
  | cons f found inductionHypothesis =>
    exact each_append (each f (List.mem_cons_self ..))
      (inductionHypothesis fun g member => each g (List.mem_cons_of_mem _ member))

end Finding

namespace Step

def Tells (P : Diagnostic → Prop) (step : Step) : Prop :=
  ∀ s after found, step s = .ok (after, found) → Each P found

variable {P : Diagnostic → Prop} {first second step : Step}

theorem Tells.found (tells : step.Tells P) (s : State) : Each P (step.found s) := by
  unfold Step.found
  split
  · next ran => exact tells s _ _ ran
  · exact each_nil

theorem Tells.andThen (ofFirst : first.Tells P) (ofSecond : second.Tells P) : (first.andThen second).Tells P := by
  intro s after found ran
  obtain ⟨between, seen, more, firstRan, secondRan, rfl⟩ := andThen_eq_ok ran
  exact each_append (ofFirst s between seen firstRan) (ofSecond between after more secondRan)

theorem tells_skip : skip.Tells P := by
  intro s after found ran
  cases ran
  exact each_nil

theorem tells_update (change : State → State) : (update change).Tells P := by
  intro s after found ran
  cases ran
  exact each_nil

theorem tells_report {told : State → List Finding} (each : ∀ s, Each P (told s)) : (report told).Tells P := by
  intro s after found ran
  cases ran
  exact each s

theorem tells_onNames {change : Names → Names × List Finding} (each : ∀ n, Each P (change n).2) :
    (onNames change).Tells P := by
  intro s after found ran
  cases ran
  exact each s.names

theorem tells_ite {p : Bool} (ofFirst : first.Tells P) (ofSecond : second.Tells P) :
    (if p then first else second).Tells P := by
  cases p with
  | true => exact ofFirst
  | false => exact ofSecond

theorem tells_all {steps : List Step} (each : ∀ step ∈ steps, step.Tells P) : (all steps).Tells P := by
  induction steps with
  | nil => exact tells_skip
  | cons step rest inductionHypothesis =>
    exact (each step (List.mem_cons_self ..)).andThen
      (inductionHypothesis fun other member => each other (List.mem_cons_of_mem _ member))

/-! ## Keywords -/

/-- What the keyword of a line can tell. -/
inductive KeywordTells (number : Nat) (line : List Char) : Diagnostic → Prop
  | disorder {k : KeywordAt} (isKeyword : Line.keywordAt? line number = some k) (kind : Disorder) :
      KeywordTells number line (.error k.range kind.message)
  | alreadyDefined {p : Piece} (behind : Behind p.column line) :
      KeywordTells number line (.error (p.range number) (Message.alreadyDefined p.word))
  | emptyLoop {p : Piece} (behind : Behind p.column line) :
      KeywordTells number line (.error (p.range number) Message.emptyLoop)
  | scriptNeedsBreak {k : KeywordAt} (isKeyword : Line.keywordAt? line number = some k) :
      KeywordTells number line (.error k.range Message.scriptNeedsBreak)

variable {number : Nat} {line : List Char} {following : List (List Char)} {k : KeywordAt}

theorem KeywordTells.onLine {d : Diagnostic} (tells : KeywordTells number line d) : d.range.start.line = number := by
  cases tells with
  | disorder isKeyword | scriptNeedsBreak isKeyword => exact Line.line_keywordAt? isKeyword
  | alreadyDefined | emptyLoop => rfl

theorem each_disorder {f : Finding} (isKeyword : Line.keywordAt? line number = some k)
    (isDisorder : ∃ kind, Blocks.Shows k.keyword kind ∧ f = .error k.range kind.message) :
    Each (KeywordTells number line) [f] := by
  obtain ⟨kind, -, rfl⟩ := isDisorder
  exact each_single (.disorder isKeyword kind)

theorem tells_closeBlock (isKeyword : Line.keywordAt? line number = some k) :
    (closeBlock k).Tells (KeywordTells number line) := by
  intro s after told ran
  simp only [closeBlock] at ran
  split at ran
  · cases ran
  · next closed =>
    cases ran
    have complained : s.blocks.complaints k = told := by simp only [Blocks.complaints, closed]
    rw [← complained]
    exact each_of_forall fun f member => each_disorder isKeyword (Blocks.exists_disorder_of_mem_complaints member)

theorem each_declare (n : Names) (kind : NameKind) {p : Piece} (behind : Behind p.column line) :
    Each (KeywordTells number line) (n.declare kind number p).2 := by
  unfold Names.declare
  split
  · exact each_nil
  · exact each_single (.alreadyDefined behind)

theorem each_declare? (n : Names) (kind : NameKind) {piece : Option Piece}
    (behind : ∀ p, piece = some p → Behind p.column line) :
    Each (KeywordTells number line) (n.declare? kind number piece).2 := by
  cases piece with
  | none => exact each_nil
  | some p => exact each_declare n kind (behind p rfl)

theorem each_openLoop (n : Names) : Each (KeywordTells number line) (n.openLoop number line).2 := by
  unfold Names.openLoop
  split
  · exact each_nil
  · next item sign isVariable =>
    obtain ⟨ofItem, ofSign⟩ := Line.behind_of_loopVariable? isVariable
    refine each_append ?_ (each_declare _ .loop ofItem)
    unfold Names.useCollection
    split
    · exact each_single (.emptyLoop ofSign)
    · split
      · exact each_nil
      · exact each_note _

theorem tells_keywordLine (isKeyword : Line.keywordAt? line number = some k) :
    (keywordLine number line following k).Tells (KeywordTells number line) := by
  have opening : (openBlock k).Tells (KeywordTells number line) := tells_update _
  have closing : (closeBlock k).Tells (KeywordTells number line) := tells_closeBlock isKeyword
  have condition : (setCondition k).Tells (KeywordTells number line) := tells_update _
  have alternative : (report fun s => s.blocks.alternative k).Tells (KeywordTells number line) :=
    tells_report fun s => each_of_forall fun f member =>
      each_disorder isKeyword (Blocks.exists_disorder_of_mem_alternative member)
  have table : (openTable number line following).Tells (KeywordTells number line) := by
    refine tells_all ?_
    simp only [List.forall_mem_cons]
    exact ⟨tells_onNames fun n => each_declare? n _ fun p => Line.behind_of_csvName?, tells_update _,
      List.forall_mem_nil _⟩
  have handled : (keyword number line following k).Tells (KeywordTells number line) := by
    obtain ⟨kind, range⟩ := k
    simp only [keyword]
    cases kind with
    | importing => exact tells_skip
    | ifBlock => exact condition
    | elseIf | elseBlock => exact condition.andThen alternative
    | endIf | endList | endVar | endCsv | endScript => exact closing
    | forBlock => exact tells_onNames fun n => each_openLoop n
    | endFor => exact Tells.andThen (tells_update _) closing
    | list =>
      exact Tells.andThen (tells_onNames fun n => each_declare? n _ fun p => Line.behind_of_listName?)
        (tells_ite opening tells_skip)
    | var =>
      exact Tells.andThen (tells_ite opening tells_skip)
        (tells_onNames fun n => each_declare? n _ fun p => Line.behind_of_varName?)
    | csv => exact table
    | script =>
      exact tells_ite tells_skip (opening.andThen (tells_report fun s =>
        each_ite (each_single (.scriptNeedsBreak isKeyword)) each_nil))
  refine tells_all ?_
  simp only [List.forall_mem_cons]
  exact ⟨tells_report fun s => each_note _, tells_ite opening tells_skip, handled, List.forall_mem_nil _⟩

end Step

/-! ## Settings -/

/-- The setting was declared before where it would be recorded now: outside conditions, or in the branch or outside
    conditions. -/
def Scope.repeats (s : Scope) (branch : Option Branch) (setting : Setting) : Bool :=
  match branch with
  | some branch => !(s.recordIn branch setting).2
  | none => !(s.record setting).2

namespace Assign

variable {r : Registry} {number : Nat} {s : State} {a : Assignment} {setting : Setting}

def toldOfName (number : Nat) (a : Assignment) : List Finding :=
  if hasSeveralWords a.name.text then [.warning (a.name.range number) (Message.settingWithBlanks a.name.word)] else []

def toldOfValue (number : Nat) (a : Assignment) (setting : Setting) : List Finding :=
  if setting.name == "script" then []
  else ((setting.check a.value.text (a.name.range number) a.name.word).map Finding.problem).toList

theorem declare_eq (armed : s.control.Armed) (setting : Setting) (name : String) (range : Range) :
    declare setting name range s = .ok ({ s with scope := s.scope.recordUnder s.control.branch? setting },
      if s.scope.repeats s.control.branch? setting then [.problem (setting.repetition range name)] else []) := by
  unfold declare
  cases conditional : s.blocks.isIn .ifBlock with
  | false =>
    have free : s.control.branch? = none := by simp [Control.branch?, State.control, conditional]
    cases recorded : (s.scope.record setting).2 <;>
      simp [free, Scope.recordUnder, Scope.repeats, recorded]
  | true =>
    obtain ⟨branch, inForce⟩ := Option.isSome_iff_exists.mp (armed conditional)
    have under : s.control.branch? = some branch := (if_pos conditional).trans inForce
    change s.condition = some branch at inForce
    cases recorded : (s.scope.recordIn branch setting).2 <;>
      simp [inForce, under, Scope.recordUnder, Scope.repeats, recorded]

theorem found_declaring (armed : s.control.Armed) : (declaring r number a setting).found s =
    toldOfName number a ++
      (if !setting.multiLine && (s.scope.addCounterpart r setting).repeats s.control.branch? setting then
        [.problem (setting.repetition (a.name.range number) a.name.word)] else []) ++
      toldOfValue number a setting ++
      (Ledger.declare s.scope r s.control.branch? setting).conflicts setting (a.name.range number) := by
  have declared : declare setting a.name.word (a.name.range number) { s with scope := s.scope.addCounterpart r setting } =
      _ := declare_eq (s := { s with scope := s.scope.addCounterpart r setting }) armed setting _ _
  simp only [declaring, Step.found, Step.all, List.foldr_cons, List.foldr_nil, Step.andThen, Step.report, Step.update]
  cases repeatable : setting.multiLine with
  | true => simp [toldOfName, toldOfValue, Step.skip, Ledger.declare, repeatable]
  | false =>
    simp only [Bool.false_eq_true, if_false, declared, Step.skip, Ledger.declare, repeatable, toldOfName,
      toldOfValue, List.append_nil, List.append_assoc, Bool.not_false, Bool.true_and]
    rfl

end Assign

end ChartConfig
