import ChartConfig.Proofs.Registry.Description
import ChartConfig.Proofs.Validation.Telling

/-!
# What is suggested

A word is only reported as unknown if it is none of the words among which it was looked for. Each kind of lookup has a
reason of its own for that: most look the word up in the very list, names of settings are found by their canonical
names, and the parameters of an address are kept in that form. So the word itself, which alone is at no distance, is
never suggested, and a suggestion is the first of the nearest candidates.
-/

namespace ChartConfig

open Text Finding

/-! ## The nearest candidate -/

namespace Suggestion

variable {measure : Measure} {found s : String} {bound d : Nat} {candidates : List String}

/-- The first of the candidates at the least distance. -/
def FirstOfNearest (measure : Measure) (found : String) (candidates : List String) (s : String) : Prop :=
  ∃ before after, candidates = before ++ s :: after ∧
    (∀ c ∈ before, measure.distance found s < measure.distance found c) ∧
    ∀ c ∈ after, measure.distance found s ≤ measure.distance found c

theorem FirstOfNearest.mem (first : FirstOfNearest measure found candidates s) : s ∈ candidates := by
  obtain ⟨before, after, rfl, -⟩ := first
  simp

theorem FirstOfNearest.le (first : FirstOfNearest measure found candidates s) {c : String} (member : c ∈ candidates) :
    measure.distance found s ≤ measure.distance found c := by
  obtain ⟨before, after, rfl, farther, asFar⟩ := first
  rcases List.mem_append.mp member with earlier | later
  · exact Nat.le_of_lt (farther c earlier)
  · rcases List.mem_cons.mp later with rfl | later
    · exact Nat.le_refl _
    · exact asFar c later

theorem FirstOfNearest.cons (first : FirstOfNearest measure found candidates s) (c : String) :
    FirstOfNearest measure found (c :: candidates) (if measure.distance found c ≤ measure.distance found s then c else s) := by
  split
  · next asNear => exact ⟨[], candidates, rfl, List.forall_mem_nil _, fun d member => asNear.trans (first.le member)⟩
  · next farther =>
    obtain ⟨before, after, rfl, others, asFar⟩ := first
    refine ⟨c :: before, after, rfl, ?_, asFar⟩
    exact List.forall_mem_cons.mpr ⟨Nat.lt_of_not_le farther, others⟩

end Suggestion

/-! ## Words that are looked up in vain -/

theorem Registry.not_mem_displayNames {r : Registry} {name : String} (unknown : r.lookup name = none) :
    name ∉ r.displayNames := by
  intro member
  obtain ⟨key, listed, isName⟩ := List.mem_filterMap.mp member
  obtain ⟨setting, isStored, rfl⟩ := Option.map_eq_some_iff.mp isName
  rw [Tables.lookup_eq_stored?, (r.wellFormed.named_of_stored? isStored).2, isStored] at unknown
  cases unknown

def State.Canonical (s : State) : Prop :=
  ∀ p ∈ s.parameters, canonicalName p = p

def Miss.Absent (m : Miss) : Prop :=
  m.word ∉ m.candidates

namespace Absent

variable {r : Registry} {number : Nat} {line : List Char} {m : Miss}

theorem header {h : Header} (member : m ∈ h.misses) : m.Absent := by
  unfold Header.misses at member
  split at member
  · cases member
  · next unknown =>
    cases List.mem_singleton.mp member
    simpa [Miss.Absent, Registry.isSection] using unknown

theorem aliasUse {a : Aliases} (member : m ∈ a.misses) : m.Absent := by
  obtain ⟨use, unknown, rfl⟩ := List.mem_map.mp member
  simpa [Miss.Absent] using (List.mem_filter.mp unknown).2

theorem loopCollection {n : Names} (member : m ∈ n.misses) : m.Absent := by
  obtain ⟨mention, unknown, rfl⟩ := List.mem_map.mp member
  simpa [Miss.Absent, Names.contains] using (List.mem_filter.mp unknown).2

theorem templateCollection {n : Names} {d : TemplateDeclaration} (member : m ∈ n.templateMisses number d) :
    m.Absent := by
  obtain ⟨p, unknown, rfl⟩ := List.mem_map.mp member
  have tested := (Option.filter_eq_some_iff.mp (Option.mem_toList.mp unknown)).2
  simpa [Miss.Absent] using tested

theorem templateWord {n : Names} {value : Piece} (member : m ∈ Assign.templateMisses number value n) : m.Absent := by
  obtain ⟨body, -, inBody⟩ := List.mem_flatMap.mp member
  obtain ⟨w, unknown, rfl⟩ := List.mem_map.mp inBody
  have tested := (List.mem_filter.mp unknown).2
  rw [Bool.and_eq_true] at tested
  simpa [Miss.Absent] using tested.2

theorem loopWord {n : Names} (member : m ∈ Assign.loopMisses number line n) : m.Absent := by
  obtain ⟨e, -, inExpression⟩ := List.mem_flatMap.mp member
  obtain ⟨i, unknown, rfl⟩ := List.mem_map.mp inExpression
  have tested := (List.mem_filter.mp unknown).2
  rw [Bool.and_eq_true] at tested
  simpa [Miss.Absent, Names.contains] using tested.2

theorem settingName {s : State} {name : Piece} {range : Range} (canonical : s.Canonical)
    (unknown : r.lookup name.word = none) (member : m ∈ Assign.settingMisses r name range s) : m.Absent := by
  unfold Assign.settingMisses at member
  split at member
  · cases member
  · split at member
    · cases member
    · next noParameter =>
      cases List.mem_singleton.mp member
      simp only [Miss.Absent, Assign.candidates, List.mem_append, not_or]
      refine ⟨⟨?_, Registry.not_mem_displayNames unknown⟩, by simp⟩
      intro among
      cases placeholders : s.scope.name? == some "placeholders" with
      | false => simp [placeholders] at among
      | true =>
        simp only [placeholders, if_true] at among
        simp [placeholders, canonical _ among, among] at noParameter

end Absent

/-! ## What else is told -/

def Remark.isUnknown {measure : Measure} : Remark measure → Bool
  | unknown _ => true
  | _ => false

/-- The diagnostic is worded like a remark other than that on an unknown word. -/
def Diagnostic.Otherwise (measure : Measure) (d : Diagnostic) : Prop :=
  ∃ remark : Remark measure, ∃ word, remark.isUnknown = false ∧ d.message = remark.message word

variable {measure : Measure}

theorem Finding.otherwise_single {d : Diagnostic} (remark : Remark measure) (word : String)
    (other : remark.isUnknown = false) (same : d.message = remark.message word) :
    Each (Diagnostic.Otherwise measure) [.problem d] :=
  each_single ⟨remark, word, other, same⟩

namespace Step

variable {number : Nat} {line : List Char}

theorem tellsOtherwise_templateMark : (templateMark number line).Tells (Diagnostic.Otherwise measure) := by
  refine tells_report fun s => ?_
  split
  · exact otherwise_single .deprecatedTemplate "" rfl rfl
  · exact each_nil

theorem tellsOtherwise_tableRow : (tableRow number line).Tells (Diagnostic.Otherwise measure) :=
  tells_report fun s => each_ite each_nil (otherwise_single (.columnCount s.csvColumns (Csv.columns line)) "" rfl rfl)

theorem tellsOtherwise_declare (setting : Setting) (name : String) (range : Range) :
    (Assign.declare setting name range).Tells (Diagnostic.Otherwise measure) := by
  have repetition : Each (Diagnostic.Otherwise measure) [.problem (setting.repetition range name)] := by
    unfold Setting.repetition
    split
    · exact otherwise_single .repeatedScript "" rfl rfl
    · split
      · exact otherwise_single .repeatedThresholds "" rfl rfl
      · split
        · exact otherwise_single .repeatedColors "" rfl rfl
        · exact otherwise_single .alreadyDefined name rfl rfl
  intro s after found ran
  simp only [Assign.declare] at ran
  split at ran
  · split at ran <;> cases ran
    exact each_ite each_nil repetition
  · cases ran
    exact each_ite each_nil repetition

theorem tellsOtherwise_declaring {r : Registry} (a : Assignment) (setting : Setting) :
    (Assign.declaring r number a setting).Tells (Diagnostic.Otherwise measure) := by
  have blanks (s : State) : Each (Diagnostic.Otherwise measure) (if Assign.hasSeveralWords a.name.text then
      [.warning (a.name.range number) (Message.settingWithBlanks a.name.word)] else []) :=
    each_ite (otherwise_single .settingWithBlanks a.name.word rfl rfl) each_nil
  have fault (s : State) : Each (Diagnostic.Otherwise measure) (if setting.name == "script" then []
      else ((setting.check a.value.text (a.name.range number) a.name.word).map Finding.problem).toList) := by
    refine each_ite each_nil ?_
    unfold Setting.check
    cases setting.fault? a.value.text with
    | none => exact each_nil
    | some fault => exact otherwise_single (.fault setting fault) a.name.word rfl rfl
  have conflicts (s : State) : Each (Diagnostic.Otherwise measure) (s.scope.conflicts setting (a.name.range number)) := by
    refine each_of_forall fun f member => ?_
    obtain ⟨other, -, rfl⟩ := List.mem_map.mp member
    exact otherwise_single (.conflict setting other) "" rfl rfl
  refine tells_all ?_
  simp only [List.forall_mem_cons]
  exact ⟨tells_report blanks, tells_update _, tells_ite tells_skip (tellsOtherwise_declare _ _ _), tells_report fault,
    tells_report conflicts, List.forall_mem_nil _⟩

theorem KeywordTells.otherwise {d : Diagnostic} (tells : KeywordTells number line d) : d.Otherwise measure := by
  cases tells with
  | disorder _ kind => exact ⟨.disorder kind, "", rfl, rfl⟩
  | @alreadyDefined p => exact ⟨.alreadyDefined, p.word, rfl, rfl⟩
  | emptyLoop => exact ⟨.emptyLoop, "", rfl, rfl⟩
  | scriptNeedsBreak => exact ⟨.scriptNeedsBreak, "", rfl, rfl⟩

end Step

/-! ## A run, seen by its suggestions -/

/-- A word that is missed is absent from where it was looked for, and what is told is no such miss. -/
def Act.Honest (measure : Measure) : Act → Prop
  | misses _ m => m.Absent
  | tells found => Each (Diagnostic.Otherwise measure) found
  | _ => True

namespace State

variable {s : State} {r : Registry} {number : Nat} {line : List Char} {act : Act}

theorem absent_of_missesOn {kind : Lookup} {m : Miss} (canonical : s.Canonical)
    (missed : s.MissesOn r number line kind m) : m.Absent := by
  cases missed with
  | sectionName _ missed => exact Absent.header missed
  | aliasUse missed => exact Absent.aliasUse missed
  | settingName _ unknown missed => exact Absent.settingName canonical unknown missed
  | templateWord _ missed => exact Absent.templateWord missed
  | templateCollection _ missed => exact Absent.templateCollection missed
  | loopWord missed => exact Absent.loopWord missed

theorem otherwise_of_tellsOn {following : List (List Char)} {found : List Finding}
    (told : s.TellsOn r number line following found) : Each (Diagnostic.Otherwise measure) found := by
  cases told with
  | templateMark => exact Step.tellsOtherwise_templateMark.found s
  | tableRow => exact Step.tellsOtherwise_tableRow.found s
  | heading => exact each_ite (otherwise_single .deprecatedTagSection "" rfl rfl) each_nil
  | tag a =>
    exact each_append (each_ite (otherwise_single .tagIsSetting a.name.word rfl rfl) each_nil)
      (each_ite (otherwise_single .tagWithBlanks a.name.word rfl rfl) each_nil)
  | setting a setting => exact (Step.tellsOtherwise_declaring a setting).found (s.noting a)
  | unclosedHeader =>
    cases Line.unclosedHeader? line number with
    | none => exact each_nil
    | some h => exact otherwise_single .unclosedHeader "" rfl rfl
  | keyword isKeyword between => exact ((Step.tells_keywordLine isKeyword).found between).mono fun _ => (·.otherwise)

theorem honest_lineActs {following : List (List Char)} (canonical : s.Canonical)
    (member : act ∈ s.lineActs r number line following) : act.Honest measure := by
  cases does_lineActs member with
  | judges | repeatsAlias => trivial
  | misses _ missed => exact absent_of_missesOn canonical missed
  | tells told => exact otherwise_of_tellsOn told

theorem honest_lastActs (member : act ∈ s.lastActs r) : act.Honest measure := by
  simp only [lastActs, judgementActs, List.mem_append, List.mem_map, List.mem_singleton] at member
  obtain ((⟨m, missed, rfl⟩ | rfl) | ⟨j, -, rfl⟩) | ⟨m, missed, rfl⟩ := member
  · exact Absent.aliasUse missed
  · refine each_of_forall fun f left => ?_
    obtain ⟨b, -, rfl⟩ := List.mem_map.mp left
    exact otherwise_single (.disorder (.noTerminator b.keyword)) "" rfl rfl
  · trivial
  · exact Absent.loopCollection missed

theorem canonical_parametersAfter (canonical : s.Canonical) {p : String}
    (member : p ∈ s.parametersAfter r number line) : canonicalName p = p := by
  unfold parametersAfter at member
  split at member
  · exact canonical p member
  · split at member
    · split at member
      · obtain ⟨piece, -, rfl⟩ := List.mem_map.mp member
        exact canonicalName_canonicalName piece.word
      · exact canonical p member
    · exact canonical p member

end State

theorem Step.honest_acts {r : Registry} {number : Nat} {lines : List (List Char)} {s : State} {act : Act}
    (armed : s.control.Armed) (canonical : s.Canonical) (member : act ∈ Step.acts r number lines s) : act.Honest measure := by
  induction lines generalizing number s with
  | nil => exact State.honest_lastActs member
  | cons line following inductionHypothesis =>
    have follows := @line_follows r number line s following armed
    rcases List.mem_append.mp member with now | later
    · exact State.honest_lineActs canonical now
    · refine inductionHypothesis follows.armed ?_ later
      intro p isParameter
      rw [follows.parameters] at isParameter
      split at isParameter
      · exact State.canonical_parametersAfter canonical isParameter
      · exact canonical p isParameter

theorem Document.honest_acts {r : Registry} {text : String} {act : Act} (member : act ∈ Document.acts r text) :
    act.Honest measure :=
  Step.honest_acts State.armed_initial (List.forall_mem_nil _) member

end ChartConfig
