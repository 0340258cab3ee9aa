import Mathlib.Data.List.Forall2
import ChartConfig.Proofs.Format.Levels
import ChartConfig.Proofs.Language.Leading
import ChartConfig.Proofs.Text.Comment

/-!
# Scripts

The body of a script is what lies between the line that opens it and the line that ends it. While a script is
open no block can be opened inside it, so the layout has a script on top of its blocks or none at all, and the
lines whose start stays as it is are those of scripts and the blank ones.
-/

namespace ChartConfig

open Text

/-- The line opens a script that goes on below it. -/
def Line.opensScript (line : List Char) : Bool :=
  keyword? line == some .script && !isOneLineScript line

/-- For each line, whether it lies in the body of a script. The first one does if `inside` holds and it does not
    end the script. -/
def scriptBodies : (inside : Bool) → List (List Char) → List Bool
  | _, [] => []
  | inside, line :: following =>
    let stays := inside && Line.keyword? line != some .endScript
    stays :: scriptBodies (stays || (!inside && Line.opensScript line)) following

def Document.scriptBodies (text : String) : List Bool :=
  ChartConfig.scriptBodies false (Document.analysed text)

namespace Layout

variable {α : Type} {k : Ruler α} {r : Registry} {l : Layout α} {line analysed : List Char}
  {following : List (List Char)}

/-- Of the open blocks only the innermost may be a script. -/
def ScriptOnTop (l : Layout α) : Prop :=
  ∀ b ∈ l.blocks.tail, b.isScript = false

def Scriptless (l : Layout α) : Prop :=
  ∀ b ∈ l.blocks, b.isScript = false

theorem Scriptless.inScript (scriptless : l.Scriptless) : l.inScript = false := by
  unfold Layout.inScript
  split
  · next b blocks same => exact scriptless b (by simp [same])
  · rfl

theorem Scriptless.onTop (scriptless : l.Scriptless) : l.ScriptOnTop :=
  fun b member => scriptless b (List.mem_of_mem_tail member)

theorem ScriptOnTop.scriptless (onTop : l.ScriptOnTop) (outside : l.inScript = false) : l.Scriptless := by
  obtain ⟨indent, sections, blocks⟩ := l
  cases blocks with
  | nil =>
    intro b member
    cases member
  | cons top blocks =>
    intro b member
    rcases List.mem_cons.mp member with rfl | below
    · exact outside
    · exact onTop b below

theorem ScriptOnTop.closeBlock (onTop : l.ScriptOnTop) : l.closeBlock.Scriptless := by
  obtain ⟨indent, sections, blocks⟩ := l
  cases blocks with
  | nil =>
    intro b member
    cases member
  | cons top blocks => exact onTop

theorem plain_scripts (scriptless : (if Line.isClosing analysed then l.closeBlock else l).Scriptless) :
    (plain k l analysed following).2.inScript =
        (Line.opensLevel analysed && Line.needsTerminator analysed following &&
          Line.keyword? analysed == some .script) ∧
      (plain k l analysed following).2.ScriptOnTop := by
  unfold plain
  cases opens : Line.opensLevel analysed && Line.needsTerminator analysed following with
  | true => exact ⟨by simp [openBlock, inScript], scriptless⟩
  | false => exact ⟨scriptless.inScript, scriptless.onTop⟩

theorem ScriptOnTop.closed (onTop : l.ScriptOnTop)
    (ended : l.inScript = true → Line.keyword? analysed = some .endScript) :
    (if Line.isClosing analysed then l.closeBlock else l).Scriptless := by
  cases closing : Line.isClosing analysed with
  | true => exact onTop.closeBlock
  | false =>
    apply onTop.scriptless
    rw [Bool.eq_false_iff]
    intro inside
    have closes : Line.isClosing analysed = true := Line.leadsWith_of_keyword? (ended inside) rfl
    rw [closes] at closing
    cases closing

theorem opensScript_eq : (Line.opensLevel analysed && Line.needsTerminator analysed following &&
    Line.keyword? analysed == some .script) = Line.opensScript analysed := by
  by_cases script : Line.keyword? analysed = some .script
  · have opens : Line.opensLevel analysed = true := Line.leadsWith_of_keyword? script rfl
    simp [Line.opensScript, Line.needsTerminator, script, opens]
  · have other : (Line.keyword? analysed == some .script) = false := beq_eq_false_iff_ne.mpr script
    rw [Line.opensScript, other, Bool.and_false, Bool.false_and]

theorem step_of_script (inScript : l.inScript = true) (skipped : Line.keyword? analysed ≠ some .endScript) :
    step k r l line analysed following = (.keep, l) := by
  simp [step, inScript, skipped]

theorem step_scripts (onTop : l.ScriptOnTop) (blank : allBlank line = true → allBlank analysed = true) :
    (step k r l line analysed following).1.wanted?.isNone =
        ((l.inScript && Line.keyword? analysed != some .endScript) || allBlank line) ∧
      (step k r l line analysed following).2.inScript =
        ((l.inScript && Line.keyword? analysed != some .endScript) ||
          (!l.inScript && Line.opensScript analysed)) ∧
      (step k r l line analysed following).2.ScriptOnTop := by
  unfold step
  cases stays : l.inScript && Line.keyword? analysed != some .endScript with
  | true =>
    have inside : l.inScript = true := (Bool.and_eq_true_iff.mp stays).1
    exact ⟨rfl, by simp [inside], onTop⟩
  | false =>
    have ended : l.inScript = true → Line.keyword? analysed = some .endScript := by
      intro inside
      simpa [inside] using stays
    have outside (other : Line.keyword? analysed = none) : l.inScript = false := by
      rw [Bool.eq_false_iff]
      intro inside
      rw [ended inside] at other
      cases other
    cases named : Line.headerName? analysed with
    | some name =>
      have noKeyword := Line.keyword?_of_header named
      have notBlank : allBlank line = false := by
        rw [Bool.eq_false_iff]
        intro isBlank
        rw [Line.headerName?_of_blank (blank isBlank)] at named
        cases named
      refine ⟨by simp [header, Indent.wanted?, notBlank], ?_, onTop⟩
      simp only [Bool.false_or, outside noKeyword, Line.opensScript, noKeyword]
      exact outside noKeyword
    | none =>
      cases isBlank : allBlank line with
      | true =>
        have noKeyword := Line.keyword?_of_blank (blank isBlank)
        simp only [if_true, Bool.false_eq_true, if_false]
        refine ⟨rfl, ?_, onTop⟩
        simp [outside noKeyword, Line.opensScript, noKeyword]
      | false =>
        -- The line that ends a script may not open another: it has one keyword.
        obtain ⟨inScript, stillOnTop⟩ := @plain_scripts α k l analysed following (onTop.closed ended)
        simp only [Bool.false_eq_true, if_false]
        refine ⟨rfl, ?_, stillOnTop⟩
        rw [inScript, opensScript_eq]
        cases inside : l.inScript with
        | true => simp [Line.opensScript, ended inside]
        | false => rfl

theorem indentsFrom_keep {lines others : List (List Char)} (onTop : l.ScriptOnTop)
    (blank : List.Forall₂ (fun line analysed => allBlank line = true → allBlank analysed = true) lines others) :
    (indentsFrom k r l lines others).map (·.wanted?.isNone) =
      List.zipWith (fun script line => script || allBlank line) (scriptBodies l.inScript others) lines := by
  induction blank generalizing l with
  | nil => rfl
  | @cons line analysed lines following first rest inductionHypothesis =>
    obtain ⟨keeps, inScript, stillOnTop⟩ := @step_scripts α k r l line analysed following onTop first
    simp only [indentsFrom, scriptBodies, List.map_cons, List.zipWith_cons_cons, keeps,
      inductionHypothesis stillOnTop, inScript]

theorem indentsFrom_blank {lines others : List (List Char)} (onTop : l.ScriptOnTop)
    (blank : List.Forall₂ (fun line analysed => allBlank line = true → allBlank analysed = true) lines others) :
    List.Forall₂ (fun line indent => allBlank line = true → indent.wanted? = none) lines
      (indentsFrom k r l lines others) := by
  induction blank generalizing l with
  | nil => exact .nil
  | @cons line analysed lines following first rest inductionHypothesis =>
    obtain ⟨keeps, -, stillOnTop⟩ := @step_scripts α k r l line analysed following onTop first
    refine .cons ?_ (inductionHypothesis stillOnTop)
    intro isBlank
    rw [isBlank, Bool.or_true] at keeps
    exact Option.isNone_iff_eq_none.mp keeps

/-! ## The layout on the way -/

def afterLines (k : Ruler α) (r : Registry) (l : Layout α) :
    (count : Nat) → (lines analysed : List (List Char)) → Layout α
  | count + 1, line :: lines, analysed :: following =>
    (step k r l line analysed following).2.afterLines k r count lines following
  | _, _, _ => l

def after (k : Ruler α) (r : Registry) (text : String) (count : Nat) : Layout α :=
  (start k).afterLines k r count (Document.lines text) (Document.analysed text)

end Layout

/-! ## Blank lines stay blank -/

theorem allBlank_analysed {later inside : Bool} {line : List Char} (blank : allBlank line = true) :
    allBlank ((blankCommentLine (blankSpan later inside line).1).map Char.toLower) = true := by
  have span : ∀ c ∈ (blankSpan later inside line).1, isBlank c = true := by
    intro c member
    rcases mem_blankSpan member with rfl | isThere
    · decide
    · exact List.all_eq_true.mp blank c isThere
  refine List.all_eq_true.mpr fun c member => ?_
  obtain ⟨d, inLine, rfl⟩ := List.mem_map.mp member
  apply isBlank_toLower
  unfold blankCommentLine at inLine
  split at inLine
  · obtain ⟨e, -, rfl⟩ := List.mem_map.mp inLine
    unfold blanked
    split <;> decide
  · exact span d inLine

theorem Document.analysed_blank (text : String) :
    List.Forall₂ (fun line analysed => allBlank line = true → allBlank analysed = true) (Document.lines text)
      (Document.analysed text) := by
  have fromLine (inside : Bool) (lines : List (List Char)) :
      List.Forall₂ (fun line analysed => allBlank line = true → allBlank analysed = true) lines
        ((blankLines inside lines).map fun line => (blankCommentLine line).map Char.toLower) := by
    induction lines generalizing inside with
    | nil => exact .nil
    | cons line lines inductionHypothesis => exact .cons allBlank_analysed (inductionHypothesis _)
  rw [Document.analysed_eq]
  exact fromLine false _

/-! ## The lines of a document -/

theorem Layout.scriptOnTop_start {α : Type} (k : Ruler α) : (Layout.start k).ScriptOnTop := by
  intro b member
  cases member

theorem Layout.isNone_levels (r : Registry) (text : String) :
    (Layout.levels r text).map Option.isNone =
      List.zipWith (fun script line => script || allBlank line) (Document.scriptBodies text) (Document.lines text) := by
  rw [levels, List.map_map]
  exact indentsFrom_keep (scriptOnTop_start _) (Document.analysed_blank text)

theorem Layout.indents_blank {α : Type} (k : Ruler α) (r : Registry) (text : String) :
    List.Forall₂ (fun line indent => allBlank line = true → indent.wanted? = none) (Document.lines text)
      (Layout.indents k r text) :=
  indentsFrom_blank (scriptOnTop_start k) (Document.analysed_blank text)

end ChartConfig
