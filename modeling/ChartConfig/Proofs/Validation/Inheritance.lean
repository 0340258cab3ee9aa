import ChartConfig.Proofs.Validation.Judgements
import ChartConfig.Proofs.Validation.Kept

/-!
# Slots and the declarations that fill them

A slot of a section is filled by a declaration in the section itself or in one of its ancestors that is in reach, if it
stands outside conditions. Only settings that may not be repeated are kept, so only they fill slots: where none of a slot
is declared the slot is missing, however often settings of it that may be repeated are declared.
-/

namespace ChartConfig

open Text

/-! ## Every setting that is kept was declared -/

theorem Scope.mem_merge {known more : List Setting} {t : Setting} (member : t ∈ merge known more) :
    t ∈ known ∨ t ∈ more := by
  induction more generalizing known with
  | nil => exact .inl member
  | cons setting more inductionHypothesis =>
    have merged : t ∈ merge (if setting.isIn known then known else known ++ [setting]) more := member
    rcases inductionHypothesis merged with old | later
    · split at old
      · exact .inl old
      · rcases List.mem_append.mp old with old | new
        · exact .inl old
        · exact .inr (List.mem_singleton.mp new ▸ List.mem_cons_self ..)
    · exact .inr (List.mem_cons_of_mem _ later)

def Setting.DeclaredOn (r : Registry) (passed : List Passing) (settings : List Setting) : Prop :=
  ∀ t ∈ settings, ∃ y ∈ passed, y.Declares r t

namespace Reached

variable {r : Registry} {passed : List Passing} {s : State} {g h : Header} {t : Setting} {slot : Slot}

theorem declared (reached : Reached r passed s) : s.scope.Lists (Setting.DeclaredOn r passed) := by
  induction reached with
  | start =>
    exact ⟨List.forall_mem_nil _, List.forall_mem_nil _, List.forall_mem_nil _, List.forall_mem_nil _⟩
  | @next passed x following found reached _ ran lists =>
    have further : x.before.scope.Lists (Setting.DeclaredOn r (passed ++ [x])) := by
      refine lists.mono fun settings declared t isKept => ?_
      obtain ⟨y, isPassed, declares⟩ := declared t isKept
      exact ⟨y, List.mem_append_left _ isPassed, declares⟩
    refine (Passing.scope_change (reached.follows ran).ledger).lists (List.forall_mem_nil _) ?_ ?_ further
    · intro known more ofKnown ofMore t member
      exact (Scope.mem_merge member).elim (ofKnown t) (ofMore t)
    · intro t declares known ofKnown _ other member
      rcases List.mem_append.mp member with old | new
      · exact ofKnown other old
      · exact List.mem_singleton.mp new ▸ ⟨x, by simp, declares⟩

end Reached

/-! ## What sections leave to others -/

/-- The settings that sections of the name have left fill the slot. -/
def Scope.Leaves (s : Scope) (name : String) (slot : Slot) : Prop :=
  fills ((tableValue? s.inherited name).getD []) slot = true

/-- None of the lines begins a section that bears the name or that may enclose one that does. -/
def Passing.InReach (r : Registry) (name : String) (lines : List Passing) : Prop :=
  ∀ z ∈ lines, ∀ k, z.Heads k → k.name ≠ name ∧ k.name ∉ r.ancestors name

namespace Ledger

variable {r : Registry} {l : Ledger} {g k : Header} {name : String} {slot : Slot}

theorem leaves_close (leaves : l.scope.Leaves name slot) (r : Registry) : (l.close r).scope.Leaves name slot := by
  unfold Scope.Leaves at leaves ⊢
  rw [close_inherited]
  cases l.scope.current with
  | none => exact leaves
  | some h =>
    simp only [Scope.tableValue?_bequeathTo]
    split
    · next same => simp [Scope.fills_merge, leaves]
    · exact leaves

theorem leaves_close_current (isCurrent : l.scope.current = some g)
    (filled : Scope.fills l.scope.settings slot = true) (r : Registry) : (l.close r).scope.Leaves g.name slot := by
  simp [Scope.Leaves, close_inherited, isCurrent, Scope.tableValue?_bequeathTo, Scope.fills_merge, filled]

/-- The next section finds what was left, unless it bears the name or may enclose one that does. -/
theorem leaves_enter (leaves : (l.close r).scope.Leaves name slot)
    (inReach : k.name ≠ name ∧ k.name ∉ r.ancestors name) : ((l.close r).enter r k).scope.Leaves name slot := by
  rw [Scope.Leaves, entered_inherited, if_neg (not_or.mpr inReach)]
  exact leaves

end Ledger

namespace Scope

variable {r : Registry} {x : Passing} {after : Scope} {g : Header} {name : String} {slot : Slot}

theorem Change.leaves (change : Change r x after) (inReach : Passing.InReach r name [x])
    (leaves : x.before.scope.Leaves name slot) : after.Leaves name slot := by
  have closed := Ledger.leaves_close (l := x.before.ledger) leaves r
  cases change with
  | enters heads => exact Ledger.leaves_enter closed (inReach x (List.mem_singleton_self x) _ heads)
  | resumes =>
    rw [Leaves, Ledger.scope_resumed]
    exact closed
  | declares =>
    rw [Leaves, (declare_sameSection ..).inherited]
    exact leaves
  | stays => exact leaves

theorem Change.leaves_current (change : Change r x after) (inReach : Passing.InReach r g.name [x])
    (isCurrent : x.before.scope.current = some g) (noTags : x.before.scope.holdsTags = false)
    (filled : fills x.before.scope.settings slot = true) :
    (after.current = some g ∧ ∀ k, ¬ x.Heads k) ∨ after.Leaves g.name slot := by
  cases change with
  | enters heads =>
    have closed := Ledger.leaves_close_current (l := x.before.ledger) isCurrent filled r
    exact .inr (Ledger.leaves_enter closed (inReach x (List.mem_singleton_self x) _ heads))
  | resumes tags => exact absurd (noTags.symm.trans (holdsTags_of_name tags)) Bool.false_ne_true
  | declares sets => exact .inl ⟨(declare_sameSection ..).current.trans isCurrent, sets.not_heads⟩
  | stays noHeader => exact .inl ⟨isCurrent, noHeader⟩

end Scope

namespace Passing.Records

variable {r : Registry} {current : Option Header} {t : Setting} {y : Passing}

theorem holdsTags (records : y.Records r current t) {s : Scope} (isCurrent : s.current = current) :
    s.holdsTags = false := by
  have noTags := records.declares.noTags
  rwa [Scope.holdsTags, Scope.name?, records.here, ← isCurrent] at noTags

end Passing.Records

theorem Scope.fills_of_mem {settings : List Setting} {t : Setting} {slot : Slot} (isKept : t ∈ settings)
    (isIn : slot.contains t.name = true) : fills settings slot = true :=
  List.any_eq_true.mpr ⟨t, isKept, isIn⟩

namespace Reached

variable {r : Registry} {passed before since : List Passing} {s : State} {g h : Header} {t : Setting} {slot : Slot}
  {x y : Passing}

/-- While a section is in reach it is still the current one, or its settings are left to others. -/
theorem leaves (reached : Reached r passed s) (split : passed = before ++ y :: since) (records : y.Records r (some g) t)
    (isIn : slot.contains t.name = true) (inReach : Passing.InReach r g.name since) :
    (s.scope.current = some g ∧ ∀ z ∈ since, ∀ k, ¬ z.Heads k) ∨ s.scope.Leaves g.name slot := by
  induction reached generalizing since with
  | start => cases before <;> cases split
  | @next passed x following found reached _ ran inductionHypothesis =>
    have change := Passing.scope_change (reached.follows ran).ledger
    rcases List.eq_nil_or_concat' since with rfl | ⟨since, last, rfl⟩
    · obtain ⟨-, same⟩ := List.append_inj' split rfl
      obtain rfl := List.singleton_inj.mp same
      obtain ⟨a, sets⟩ := records.declares.sets
      refine .inl ⟨?_, List.forall_mem_nil _⟩
      rw [change.of_sets sets, (Scope.declare_sameSection ..).current, records.here]
    · have splitLast : passed ++ [x] = (before ++ y :: since) ++ [last] := by simpa using split
      obtain ⟨rfl, same⟩ := List.append_inj' splitLast rfl
      obtain rfl := List.singleton_inj.mp same
      have inReachBefore : Passing.InReach r g.name since := fun z isThere => inReach z (by simp [isThere])
      have inReachHere : Passing.InReach r g.name [x] := fun z isThere => inReach z (by simp_all)
      rcases inductionHypothesis rfl inReachBefore with ⟨isCurrent, noHeader⟩ | leaves
      · have isKept := (reached.accounts.settings t).mpr ⟨y, by simp, isCurrent ▸ records⟩
        refine (change.leaves_current inReachHere isCurrent (records.holdsTags isCurrent)
          (Scope.fills_of_mem isKept isIn)).imp_left ?_
        rintro ⟨stillCurrent, notHere⟩
        exact ⟨stillCurrent, List.forall_mem_append.mpr ⟨noHeader, List.forall_mem_singleton.mpr notHere⟩⟩
      · exact .inr (change.leaves inReachHere leaves)

theorem number_le_of_heads (reached : Reached r passed s) (waits : s.scope.judged = false)
    (isCurrent : s.scope.current = some h) {z : Passing} (isPassed : z ∈ passed) {k : Header} (heads : z.Heads k) :
    z.number ≤ h.range.start.line := by
  induction reached with
  | start => cases isPassed
  | @next passed x following found reached number ran inductionHypothesis =>
    have change := Passing.scope_change (reached.follows ran).ledger
    have earlier (noHeader : ∀ k, ¬ x.Heads k) (waited : x.before.scope.judged = false)
        (wasCurrent : x.before.scope.current = some h) : z.number ≤ h.range.start.line := by
      rcases List.mem_append.mp isPassed with isEarlier | isLast
      · exact inductionHypothesis waited wasCurrent isEarlier
      · exact absurd (List.mem_singleton.mp isLast ▸ heads) (noHeader k)
    generalize x.after.scope = after at change waits isCurrent
    cases change with
    | enters entered =>
      cases isCurrent
      rw [Line.line_header? entered.headed]
      rcases List.mem_append.mp isPassed with isEarlier | isLast
      · exact number ▸ Nat.le_of_lt (reached.number_lt isEarlier)
      · exact Nat.le_of_eq (congrArg Passing.number (List.mem_singleton.mp isLast))
    | resumes => exact absurd ((Ledger.resume_judged Ledger.close_judged).symm.trans waits) (by decide)
    | @declares a setting sets =>
      have same := Scope.declare_sameSection x.before.scope r x.before.control.branch? setting
      exact earlier sets.not_heads (same.judged.symm.trans waits) (same.current.symm.trans isCurrent)
    | stays noHeader => exact earlier noHeader waits isCurrent

end Reached

/-! ## Where sections are judged -/

/-- What is judged because of a line is the section before it. The line is a header, or it is blank and ends tags. -/
theorem Passing.judgement_of_mem {r : Registry} {j : Judgement} (x : Passing)
    (judged : j ∈ x.before.ledger.judgements r (x.before.control.eventsAt r x.number x.line)) :
    x.before.ledger.judgement? r = some j ∧ ((∃ k, x.Heads k) ∨ x.before.scope.name? = some "tags") := by
  unfold Control.eventsAt at judged
  split at judged
  · next isRead =>
    cases isEvent : Reading.event? r ⟨x.before.control, x.number, x.line⟩ with
    | none =>
      rw [isEvent] at judged
      cases judged
    | some e =>
      have onEvent : j ∈ x.before.ledger.judgementsOn r e := by simpa [isEvent, Ledger.judgements] using judged
      cases e with
      | header k =>
        have headed : Line.header? x.line x.number = some k := by
          unfold Reading.event? at isEvent
          split at isEvent
          · next h headed => cases isEvent; exact headed
          · split at isEvent <;> simp_all
        exact ⟨Option.mem_toList.mp onEvent, .inl ⟨k, isRead, headed⟩⟩
      | blank =>
        simp only [Ledger.judgementsOn] at onEvent
        split at onEvent
        · next tags => exact ⟨Option.mem_toList.mp onEvent, .inr (beq_iff_eq.mp tags)⟩
        · cases onEvent
      | entry e => cases onEvent
  · cases judged

namespace Document

variable {r : Registry} {text : String} {j : Judgement}

theorem reached_judgement (judged : j ∈ judgements r text) :
    ∃ passed s, Reached r passed s ∧ s.ledger.judgement? r = some j ∧ passed <+: passings r text ∧
      (passed = passings r text ∨ ∃ x after, passings r text = passed ++ x :: after ∧ x.before = s ∧
        ((∃ k, x.Heads k) ∨ s.scope.name? = some "tags")) := by
  obtain ⟨act, member, isJudgement⟩ := List.mem_filterMap.mp judged
  rcases mem_acts member with ⟨x, isPassed, following, onLine⟩ | ⟨last, reached, atEnd⟩
  · obtain ⟨before, after, split, reached⟩ := exists_reached r isPassed
    have onEvent : j ∈ x.before.ledger.judgements r (x.before.control.eventsAt r x.number x.line) := by
      rw [← @Step.judgements_lineActs r x.number x.line x.before following]
      exact List.mem_filterMap.mpr ⟨act, onLine, isJudgement⟩
    obtain ⟨judgedThere, atEnd⟩ := x.judgement_of_mem onEvent
    exact ⟨before, x.before, reached, judgedThere, split ▸ List.prefix_append .., .inr ⟨x, after, split, rfl, atEnd⟩⟩
  · refine ⟨_, last, reached, ?_, List.prefix_refl _, .inl rfl⟩
    have atLast : j ∈ (last.lastActs r).filterMap Act.judgement? := List.mem_filterMap.mpr ⟨act, atEnd, isJudgement⟩
    simp only [State.lastActs, List.filterMap_append, Step.judgements_judgementActs] at atLast
    simpa [List.filterMap_map, Function.comp_def] using atLast

end Document

/-! ## What fills a slot -/

namespace Scope

variable {s : Scope} {waived : Bool} {enclosing : List String} {name : String} {slot : Slot}

theorem satisfies_of_fills (filled : fills s.settings slot = true) : s.satisfies waived enclosing slot = true := by
  simp [satisfies, filled]

theorem satisfies_of_leaves (above : name ∈ enclosing) (leaves : s.Leaves name slot) :
    s.satisfies waived enclosing slot = true := by
  have encloses : enclosing.any (fun name => fills ((tableValue? s.inherited name).getD []) slot) = true :=
    List.any_eq_true.mpr ⟨name, above, leaves⟩
  simp [satisfies, encloses]

theorem not_satisfies (lists : s.Lists fun settings => fills settings slot = false)
    (plain : slot.head? ≠ some "metric") : s.satisfies waived enclosing slot = false := by
  have encloses : enclosing.any (fun name => fills ((tableValue? s.inherited name).getD []) slot) = false := by
    refine List.any_eq_false.mpr fun name _ => ?_
    rw [Bool.not_eq_true]
    cases found : tableValue? s.inherited name with
    | none => rfl
    | some settings =>
      obtain ⟨entry, isFound, rfl⟩ := Option.map_eq_some_iff.mp found
      exact lists.inherited entry (List.mem_of_find?_eq_some isFound)
  have branches : s.branchesFill slot = false := by
    cases areBranches : s.branches with
    | nil => simp [branchesFill, areBranches]
    | cons first others =>
      have unfilled := lists.branches first (areBranches ▸ List.mem_cons_self ..)
      simp [branchesFill, areBranches, unfilled]
  simp [satisfies, lists.settings, encloses, branches, plain]

end Scope

theorem Reached.number_of_split {r : Registry} {passed before after : List Passing} {s : State} {z : Passing}
    (reached : Reached r passed s) (split : passed = before ++ z :: after) : z.number = before.length := by
  have number := congrArg (·[before.length]?) reached.numbers
  simpa [split] using number

namespace Document

/-- The section declares the setting, which may not be repeated, outside conditions and before its next header. -/
def DeclaresIn (r : Registry) (text : String) (h : Header) (t : Setting) : Prop :=
  ∃ above w between y below, passings r text = above ++ w :: between ++ y :: below ∧ w.Heads h ∧
    (∀ z ∈ between, ∀ k, ¬ z.Heads k) ∧ y.Records r (some h) t

/-- An ancestor of the section declares the setting, which may not be repeated, outside conditions, and is in reach where
    the section begins. -/
def Inherits (r : Registry) (text : String) (h : Header) (t : Setting) : Prop :=
  ∃ g above y between w below, passings r text = above ++ y :: between ++ w :: below ∧ w.Heads h ∧
    g.name ∈ r.ancestors h.name ∧ y.Records r (some g) t ∧ Passing.InReach r g.name (between ++ [w])

variable {r : Registry} {text : String} {j : Judgement} {t : Setting} {slot : Slot}

theorem prefix_of_judged {passed above below : List Passing} {s : State} {w : Passing} (reached : Reached r passed s)
    (isCurrent : s.scope.current = some j.header) (isLine : passed <+: passings r text)
    (split : passings r text = above ++ w :: below) (heads : w.Heads j.header) : above ++ [w] <+: passed := by
  refine List.prefix_of_prefix_length_le ⟨below, by simp [split]⟩ isLine ?_
  have onLine := reached.line_lt_of_current isCurrent
  rw [Line.line_header? heads.headed, (reached_of_split split).2.2] at onLine
  simpa using Nat.succ_le_of_lt onLine

theorem mem_of_split {α : Type} {rest after between below : List α} {x y : α}
    (same : rest ++ x :: after = between ++ y :: below) (notBetween : x ∉ between) (different : x ≠ y) : y ∈ rest := by
  induction between generalizing rest with
  | nil =>
    cases rest with
    | nil => exact absurd (List.cons.inj same).1 different
    | cons first rest => exact (List.cons.inj same).1 ▸ List.mem_cons_self ..
  | cons z between inductionHypothesis =>
    rw [List.mem_cons, not_or] at notBetween
    obtain ⟨notFirst, notLater⟩ := notBetween
    cases rest with
    | nil => exact absurd (List.cons.inj same).1 notFirst
    | cons first rest => exact List.mem_cons_of_mem _ (inductionHypothesis (List.cons.inj same).2 notLater)

theorem filled_of_declaresIn (judged : j ∈ judgements r text) (declares : DeclaresIn r text j.header t)
    (isIn : slot.contains t.name = true) : slot ∉ j.missing := by
  obtain ⟨above, w, between, y, below, split, heads, noHeader, records⟩ := declares
  obtain ⟨passed, s, reached, isJudged, isLine, atEnd⟩ := reached_judgement judged
  obtain ⟨-, isCurrent, missing⟩ := Ledger.judgement?_eq_some isJudged
  have splitHeader : passings r text = above ++ w :: (between ++ y :: below) := by simp [split]
  obtain ⟨rest, rfl⟩ := prefix_of_judged reached isCurrent isLine splitHeader heads
  have isPassed : y ∈ above ++ [w] ++ rest := by
    rcases atEnd with atLast | ⟨x, after, splitThere, rfl, ⟨k, headsThere⟩ | tags⟩
    · simp [atLast, split]
    · have same : rest ++ x :: after = between ++ y :: below := by
        simpa using splitThere.symm.trans splitHeader
      have isEarlier : y ∈ rest := mem_of_split same (fun isBetween => noHeader x isBetween k headsThere)
        fun isHere => records.not_heads k (isHere ▸ headsThere)
      simp [isEarlier]
    · exact absurd ((records.holdsTags isCurrent).symm.trans (Scope.holdsTags_of_name tags)) Bool.false_ne_true
  have isKept : t ∈ s.scope.settings :=
    (reached.accounts.settings t).mpr ⟨y, isPassed, isCurrent ▸ records⟩
  intro isMissing
  have unfilled := Bool.eq_false_iff.mp ((missing slot).mp isMissing).2
  exact unfilled (Scope.satisfies_of_fills (Scope.fills_of_mem isKept isIn))

theorem filled_of_inherits (judged : j ∈ judgements r text) (inherits : Inherits r text j.header t)
    (isIn : slot.contains t.name = true) : slot ∉ j.missing := by
  obtain ⟨g, above, y, between, w, below, split, heads, isAncestor, records, inReach⟩ := inherits
  obtain ⟨passed, s, reached, isJudged, isLine, -⟩ := reached_judgement judged
  obtain ⟨waits, isCurrent, missing⟩ := Ledger.judgement?_eq_some isJudged
  obtain ⟨since, rfl⟩ := prefix_of_judged reached isCurrent isLine split heads
  -- No header follows that of the section before it is judged.
  have noHeader : ∀ z ∈ since, ∀ k, ¬ z.Heads k := by
    intro z isThere k headsThere
    obtain ⟨early, late, rfl⟩ := List.append_of_mem isThere
    have notBehind := reached.number_le_of_heads waits isCurrent (by simp) headsThere
    have behind : z.number = (above ++ y :: between ++ [w] ++ early).length :=
      reached.number_of_split (List.append_assoc ..).symm
    rw [Line.line_header? heads.headed, (reached_of_split split).2.2, behind] at notBehind
    simp only [List.length_append, List.length_singleton] at notBehind
    omega
  have inReachThere : Passing.InReach r g.name (between ++ w :: since) := by
    intro z isThere k headsThere
    rw [List.append_cons, List.mem_append] at isThere
    exact isThere.elim (fun before => inReach z before k headsThere) fun behind => absurd headsThere (noHeader z behind k)
  have leaves : s.scope.Leaves g.name slot := by
    have splitThere : above ++ y :: between ++ [w] ++ since = above ++ y :: (between ++ w :: since) := by simp
    refine (reached.leaves splitThere records isIn inReachThere).resolve_left fun stillCurrent => ?_
    exact stillCurrent.2 w (by simp) _ heads
  intro isMissing
  have unfilled := Bool.eq_false_iff.mp ((missing slot).mp isMissing).2
  exact unfilled (Scope.satisfies_of_leaves isAncestor leaves)

theorem missing_of_undeclared (judged : j ∈ judgements r text) (isSlot : slot ∈ j.slots)
    (plain : slot.head? ≠ some "metric")
    (undeclared : ∀ y ∈ passings r text, ∀ t, y.Declares r t → slot.contains t.name = false) : slot ∈ j.missing := by
  obtain ⟨passed, s, reached, isJudged, isLine, -⟩ := reached_judgement judged
  obtain ⟨-, -, missing⟩ := Ledger.judgement?_eq_some isJudged
  refine (missing slot).mpr ⟨isSlot, Scope.not_satisfies ?_ plain⟩
  refine reached.declared.mono fun settings declared => List.any_eq_false.mpr fun t isKept => ?_
  obtain ⟨y, isPassed, declares⟩ := declared t isKept
  rw [undeclared y (isLine.subset isPassed) t declares]
  exact Bool.false_ne_true

end Document

/-- The demands on a section are those for its missing slots. A slot is not missing if the section itself or an ancestor
    in reach declares, outside conditions, a setting of the slot that may not be repeated. Unless the metric leads it, it
    is missing if no line declares such a setting, however many declare settings of it that may be repeated. -/
theorem slots_filled_by_declarations (r : Registry) (text : String) :
    (Document.judgements r text).map Judgement.header =
        (Document.readings text).filterMap (fun x => Line.header? x.line x.number) ∧
      ∃ found, validate text r = .ok found ∧ ∀ j ∈ Document.judgements r text,
        Diagnostic.demandsAt j.header.range found = r.demandsFor j.header.range j.missing ∧
        r.slotsOf j.header.name <+: j.slots ∧ ∀ slot ∈ j.slots,
          (∀ t, slot.contains t.name = true →
            Document.DeclaresIn r text j.header t ∨ Document.Inherits r text j.header t → slot ∉ j.missing) ∧
          (slot.head? ≠ some "metric" →
            (∀ y ∈ Document.passings r text, ∀ t, y.Declares r t → slot.contains t.name = false) → slot ∈ j.missing) := by
  refine ⟨Document.header_judgements r text, _, validate_eq_acts r text, fun j judged => ?_⟩
  obtain ⟨passed, s, -, isJudged, -⟩ := Document.reached_judgement judged
  refine ⟨demandsAt_validate (validate_eq_acts r text) judged,
    (Ledger.sound_of_mem_judgement? (Option.mem_toList.mpr isJudged)).slots, fun slot isSlot => ⟨?_, ?_⟩⟩
  · rintro t isIn (declares | inherits)
    · exact Document.filled_of_declaresIn judged declares isIn
    · exact Document.filled_of_inherits judged inherits isIn
  · exact Document.missing_of_undeclared judged isSlot

/-- A widget has to have a type, and buttons, which may be repeated. -/
def panelRegistry : Registry :=
  .of [{ displayName := "buttons", type := .string, sample := "", multiLine := true },
    { displayName := "type", type := .string, sample := "" }] [("widget", [["buttons"], ["type"]])] []

def panelText : String :=
  "[widget]\n  buttons = a\n  type = x"

/-- The type is found, and the buttons, which are there as well, are asked for. -/
theorem slots_filled_by_declarations_panel :
    ∃ j ∈ Document.judgements panelRegistry panelText, ["type"] ∉ j.missing ∧ ["buttons"] ∈ j.missing ∧
      ∃ found, validate panelText panelRegistry = .ok found ∧
        Diagnostic.demandsAt j.header.range found = panelRegistry.demandsFor j.header.range j.missing := by
  obtain ⟨-, found, ran, judged⟩ := slots_filled_by_declarations panelRegistry panelText
  have isJudged : (⟨⟨"widget", ⟨⟨0, 1⟩, ⟨0, 7⟩⟩⟩, [["buttons"], ["type"]], [["buttons"]]⟩ : Judgement) ∈
      Document.judgements panelRegistry panelText := by decide +kernel
  have noButtons : ∀ y ∈ Document.passings panelRegistry panelText, (Line.assignment? y.line).all fun a =>
      (panelRegistry.lookup a.name.word).all fun t => t.multiLine || !(["buttons"].contains t.name) := by
    decide +kernel
  have one : 0 < (Document.passings panelRegistry panelText).length := by decide +kernel
  have two : 1 < (Document.passings panelRegistry panelText).length := by decide +kernel
  have three : 2 < (Document.passings panelRegistry panelText).length := by decide +kernel
  obtain ⟨beginsRead, begins, noHeader, isRead, noTags, assigns, here, outside⟩ :
      let w := (Document.passings panelRegistry panelText)[0]
      let y := (Document.passings panelRegistry panelText)[2]
      w.before.control.reads w.line = true ∧
        Line.header? w.line w.number = some ⟨"widget", ⟨⟨0, 1⟩, ⟨0, 7⟩⟩⟩ ∧
        Line.header? (Document.passings panelRegistry panelText)[1].line
          (Document.passings panelRegistry panelText)[1].number = none ∧
        y.before.control.reads y.line = true ∧ y.before.scope.holdsTags = false ∧
        Line.assignment? y.line = some ⟨⟨2, "type".toList⟩, ⟨9, "x".toList⟩⟩ ∧
        y.before.scope.current = some ⟨"widget", ⟨⟨0, 1⟩, ⟨0, 7⟩⟩⟩ ∧ y.before.blocks.isIn .ifBlock = false := by
    decide +kernel +revert
  obtain ⟨demands, -, slots⟩ := judged _ isJudged
  refine ⟨_, isJudged, ?_, ?_, found, ran, demands⟩
  · have sets : (Document.passings panelRegistry panelText)[2].Sets panelRegistry
        ⟨⟨2, "type".toList⟩, ⟨9, "x".toList⟩⟩ { displayName := "type", type := .string, sample := "" } :=
      ⟨isRead, assigns, rfl, noTags⟩
    refine (slots ["type"] (by decide)).1 _ (by decide) (.inl ⟨[], (Document.passings panelRegistry panelText)[0],
      [(Document.passings panelRegistry panelText)[1]], (Document.passings panelRegistry panelText)[2],
      (Document.passings panelRegistry panelText).drop 3, ?_, ⟨beginsRead, begins⟩, ?_,
      here, outside, sets.declares rfl⟩)
    · rw [List.nil_append, List.cons_append, List.singleton_append, ← List.drop_eq_getElem_cons three,
        ← List.drop_eq_getElem_cons two, ← List.drop_eq_getElem_cons one, List.drop_zero]
    · intro z isBetween k heads
      rw [List.mem_singleton.mp isBetween] at heads
      exact nomatch noHeader.symm.trans heads.headed
  · refine (slots ["buttons"] (by decide)).2 (by decide) fun y isPassed t declares => ?_
    obtain ⟨a, assigned, known⟩ := declares.assigns
    simpa [assigned, known, declares.once] using noButtons y isPassed

end ChartConfig
