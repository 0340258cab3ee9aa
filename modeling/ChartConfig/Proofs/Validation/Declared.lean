import ChartConfig.Proofs.Distinct
import ChartConfig.Proofs.Validation.Passage

/-!
# What a section declares

A section that is no section of tags declares the known settings that its passage assigns. Here the scope
at the end of a section is read off its assignments: which slots its settings fill, outside conditions and
in each branch, which slots it has given itself, and the values in force.
-/

namespace ChartConfig

open Text

/-! ## Assignments of a passage -/

/-- The slot that a setting asks for: a table needs an attribute and an attribute a table, if the registry
    knows the counterpart. -/
def Registry.counterpart? (r : Registry) (s : Setting) : Option Slot :=
  if s.name == "table" then (r.lookup "attribute").map fun _ => ["attribute"]
  else if s.name == "attribute" then (r.lookup "table").map fun _ => ["table"]
  else none

namespace Entry

/-- The setting that the assignment declares, if it is one that may not be repeated. -/
def kept? (e : Entry) : Option Setting :=
  e.setting.filter fun s => !s.multiLine

def supplies (slot : Slot) (e : Entry) : Bool :=
  e.kept?.any fun s => slot.contains s.name

def counterpart? (r : Registry) (e : Entry) : Option Slot :=
  e.setting.bind r.counterpart?

def keptIn? (e : Entry) : Option Branch :=
  e.kept?.bind fun _ => e.branch

end Entry

namespace Passage

/-- The section holds tags: its name has `tag` or `key` in it. -/
def holdsTags (p : Passage) : Bool :=
  occursIn "tag".toList p.header.name.toList || occursIn "key".toList p.header.name.toList

/-- The assignments of the section; one of tags has none. -/
def entries (p : Passage) : List Entry :=
  if p.holdsTags then [] else p.body.filterMap Event.entry?

end Passage

theorem Reading.event?_entry {r : Registry} {x : Reading} {e : Entry} (said : x.event? r = some (.entry e)) :
    e.branch = x.control.branch? ∧ ∀ s, e.setting = some s → s ∈ r.all := by
  unfold Reading.event? at said
  split at said
  · cases said
  · split at said
    · cases said
    · obtain ⟨a, -, same⟩ := Option.map_eq_some_iff.mp said
      cases same
      exact ⟨rfl, fun s found => Tables.mem_all_of_lookup found⟩

/-! ## Single declarations -/

namespace Scope

variable (s : Scope) (r : Registry) (slot : Slot) (setting : Setting)

theorem fills_of_isIn {settings : List Setting} (isIn : setting.isIn settings = true) :
    (fills settings slot || slot.contains setting.name) = fills settings slot := by
  cases named : slot.contains setting.name with
  | false => simp
  | true =>
    obtain ⟨other, member, same⟩ := List.any_eq_true.mp isIn
    have sameName : setting.name = other.name := by simpa [Setting.same] using same
    have filled : fills settings slot = true := List.any_eq_true.mpr ⟨other, member, sameName ▸ named⟩
    simp [filled]

theorem fills_record :
    fills (s.record setting).1.settings slot = (fills s.settings slot || slot.contains setting.name) := by
  unfold record
  split
  · next isIn => exact (fills_of_isIn slot setting isIn).symm
  · simp [fills]

theorem addCounterpart_eq :
    s.addCounterpart r setting = (r.counterpart? setting).elim s s.addSlot := by
  have named (name : String) (isCanonical : canonicalName name = name) :
      (r.lookup name).map (fun _ => [name]) = (r.lookup name).map fun other => [other.name] :=
    Option.map_congr fun other found => by rw [Registry.name_of_lookup found, isCanonical]
  unfold addCounterpart Registry.counterpart?
  rw [named "attribute" (by decide), named "table" (by decide)]
  cases isTable : setting.name == "table" with
  | true => cases r.lookup "attribute" <;> rfl
  | false =>
    cases isAttribute : setting.name == "attribute" with
    | true => cases r.lookup "table" <;> rfl
    | false => rfl

theorem addCounterpart_settings : (s.addCounterpart r setting).settings = s.settings := by
  rw [addCounterpart_eq]
  cases r.counterpart? setting with
  | none => rfl
  | some slot =>
    simp only [Option.elim, addSlot]
    split <;> rfl

theorem addCounterpart_branches : (s.addCounterpart r setting).branches = s.branches := by
  rw [addCounterpart_eq]
  cases r.counterpart? setting with
  | none => rfl
  | some slot =>
    simp only [Option.elim, addSlot]
    split <;> rfl

theorem addToBranch_keys (branch : Branch) (branches : List (Branch × List Setting)) :
    (addToBranch branch setting branches).1.map Prod.fst =
      if branch ∈ branches.map Prod.fst then branches.map Prod.fst else branches.map Prod.fst ++ [branch] := by
  induction branches with
  | nil => rfl
  | cons first branches inductionHypothesis =>
    obtain ⟨other, known⟩ := first
    by_cases here : other = branch
    · subst here
      simp only [addToBranch, if_true]
      split <;> simp
    · simp only [addToBranch, here, if_false, List.map_cons, inductionHypothesis, List.mem_cons, Ne.symm here,
        false_or]
      split <;> rfl

theorem mem_addToBranch {branch : Branch} {branches : List (Branch × List Setting)} {b : Branch × List Setting}
    (distinct : (branches.map Prod.fst).Nodup) (member : b ∈ (addToBranch branch setting branches).1) :
    (∃ known, (b.1, known) ∈ branches ∧ ∀ slot,
        fills b.2 slot = (fills known slot || (b.1 == branch && slot.contains setting.name))) ∨
      (branch ∉ branches.map Prod.fst ∧ b = (branch, [setting])) := by
  induction branches with
  | nil => exact .inr ⟨List.not_mem_nil, List.mem_singleton.mp member⟩
  | cons first branches inductionHypothesis =>
    obtain ⟨other, known⟩ := first
    obtain ⟨fresh, distinct⟩ := List.nodup_cons.mp distinct
    -- The keys are distinct, so an entry further down belongs to another branch.
    have unchanged (b : Branch × List Setting) (later : b ∈ branches) (isOther : b.1 ≠ branch) :
        ∃ known', (b.1, known') ∈ (other, known) :: branches ∧ ∀ slot,
          fills b.2 slot = (fills known' slot || (b.1 == branch && slot.contains setting.name)) := by
      refine ⟨b.2, List.mem_cons_of_mem _ later, fun slot => ?_⟩
      simp [isOther]
    by_cases here : other = branch
    · subst here
      refine .inl ?_
      have isLater (later : b ∈ branches) : b.1 ≠ other := by
        intro same
        have isKey : b.1 ∈ branches.map Prod.fst := List.mem_map_of_mem later
        exact fresh (same ▸ isKey)
      simp only [addToBranch, if_true] at member
      split at member
      · next isIn =>
        rcases List.mem_cons.mp member with rfl | later
        · refine ⟨known, List.mem_cons_self .., fun slot => ?_⟩
          simpa using (fills_of_isIn slot setting isIn).symm
        · exact unchanged b later (isLater later)
      · rcases List.mem_cons.mp member with rfl | later
        · exact ⟨known, List.mem_cons_self .., fun slot => by simp [fills]⟩
        · exact unchanged b later (isLater later)
    · simp only [addToBranch, here, if_false] at member
      rcases List.mem_cons.mp member with rfl | later
      · exact .inl ⟨known, List.mem_cons_self .., fun slot => by simp [here]⟩
      · rcases inductionHypothesis distinct later with ⟨old, isThere, filled⟩ | ⟨isNew, rfl⟩
        · exact .inl ⟨old, List.mem_cons_of_mem _ isThere, filled⟩
        · exact .inr ⟨by simp [Ne.symm here, isNew], rfl⟩

/-! ## The scope of a section -/

/-- What the scope holds once its section has made the given assignments. -/
structure Holds (r : Registry) (es : List Entry) (s : Scope) : Prop where
  fills : ∀ slot, fills s.settings slot = es.any fun e => e.branch.isNone && e.supplies slot
  extraSlots : s.extraSlots = (es.filterMap (Entry.counterpart? r)).eraseDups
  branches : s.branches.map Prod.fst = (es.filterMap Entry.keptIn?).eraseDups
  distinct : (s.branches.map Prod.fst).Nodup
  branchFills : ∀ b ∈ s.branches, ∀ slot,
    Scope.fills b.2 slot = es.any fun e => e.branch == some b.1 && e.supplies slot

end Scope

namespace Scope.Holds

variable {r : Registry} {es : List Entry} {s : Scope}

theorem supplies_of_kept {e : Entry} {setting : Setting} (kept : e.kept? = some setting) (slot : Slot) :
    e.supplies slot = slot.contains setting.name := by
  simp [Entry.supplies, kept]

theorem counterpart (held : s.Holds r es) {setting : Setting} {e : Entry} (isSetting : e.setting = some setting) :
    (s.addCounterpart r setting).extraSlots = ((es ++ [e]).filterMap (Entry.counterpart? r)).eraseDups := by
  have asked : e.counterpart? r = r.counterpart? setting := by simp [Entry.counterpart?, isSetting]
  rw [addCounterpart_eq, List.filterMap_append]
  cases counterpart : r.counterpart? setting with
  | none => simp [asked, counterpart, held.extraSlots]
  | some slot =>
    simp only [Option.elim, addSlot, asked, counterpart, List.filterMap_cons, List.filterMap_nil,
      eraseDups_concat, ← held.extraSlots, List.contains_iff_mem]
    split <;> rfl

theorem unkept (held : s.Holds r es) {after : Scope} {e : Entry} (settings : after.settings = s.settings)
    (branches : after.branches = s.branches)
    (extraSlots : after.extraSlots = ((es ++ [e]).filterMap (Entry.counterpart? r)).eraseDups)
    (nothing : e.kept? = none) : after.Holds r (es ++ [e]) where
  fills slot := by simp [settings, held.fills, Entry.supplies, nothing]
  extraSlots := extraSlots
  branches := by simp [branches, held.branches, Entry.keptIn?, nothing]
  distinct := branches ▸ held.distinct
  branchFills b member slot := by
    rw [branches] at member
    simp [held.branchFills b member, Entry.supplies, nothing]

theorem outside (held : s.Holds r es) {between : Scope} {setting : Setting} {e : Entry}
    (settings : between.settings = s.settings) (branches : between.branches = s.branches)
    (extraSlots : between.extraSlots = ((es ++ [e]).filterMap (Entry.counterpart? r)).eraseDups)
    (kept : e.kept? = some setting) (free : e.branch = none) :
    (between.record setting).1.Holds r (es ++ [e]) := by
  have sameBranches : (between.record setting).1.branches = s.branches := by
    unfold record
    split <;> exact branches
  have sameSlots : (between.record setting).1.extraSlots = between.extraSlots := by
    unfold record
    split <;> rfl
  exact
    { fills := fun slot => by
        simp [fills_record, settings, held.fills, free, supplies_of_kept kept]
      extraSlots := sameSlots.trans extraSlots
      branches := by simp [sameBranches, held.branches, Entry.keptIn?, kept, free]
      distinct := sameBranches ▸ held.distinct
      branchFills := fun b member slot => by
        rw [sameBranches] at member
        simp [held.branchFills b member, free] }

theorem inBranch (held : s.Holds r es) {between : Scope} {setting : Setting} {branch : Branch} {e : Entry}
    (settings : between.settings = s.settings) (branches : between.branches = s.branches)
    (extraSlots : between.extraSlots = ((es ++ [e]).filterMap (Entry.counterpart? r)).eraseDups)
    (kept : e.kept? = some setting) (under : e.branch = some branch) :
    (between.recordIn branch setting).1.Holds r (es ++ [e]) where
  fills slot := by simp [recordIn, settings, held.fills, under]
  extraSlots := extraSlots
  branches := by
    simp only [recordIn, addToBranch_keys, branches, List.filterMap_append, List.filterMap_cons, Entry.keptIn?,
      kept, under, Option.bind_some, List.filterMap_nil, eraseDups_concat]
    rw [held.branches]
  distinct := by
    simp only [recordIn, addToBranch_keys, branches]
    split
    · exact held.distinct
    · next new =>
      refine List.nodup_append.mpr ⟨held.distinct, by simp, ?_⟩
      rintro b isThere other isOther rfl
      exact new (List.mem_singleton.mp isOther ▸ isThere)
  branchFills b member slot := by
    simp only [recordIn, branches] at member
    simp only [List.any_append, List.any_cons, List.any_nil, Bool.or_false, under, supplies_of_kept kept]
    rcases mem_addToBranch setting held.distinct member with ⟨known, isThere, filled⟩ | ⟨isNew, rfl⟩
    · rw [filled, held.branchFills _ isThere]
      simp [BEq.comm]
    · have unsaid : es.any (fun e => e.branch == some branch && e.supplies slot) = false := by
        rw [List.any_eq_false]
        intro e member said
        obtain ⟨under, supplied⟩ := Bool.and_eq_true_iff.mp said
        apply isNew
        rw [held.branches, List.mem_eraseDups, List.mem_filterMap]
        refine ⟨e, member, ?_⟩
        obtain ⟨kept, isKept, -⟩ := Option.any_eq_true _ _ |>.mp supplied
        simpa [Entry.keptIn?, isKept] using under
      simp [unsaid, Scope.fills]

theorem declare (held : s.Holds r es) {e : Entry} {setting : Setting} (isSetting : e.setting = some setting) :
    (Ledger.declare s r e.branch setting).Holds r (es ++ [e]) := by
  have slots := held.counterpart isSetting
  have settings := addCounterpart_settings s r setting
  have branches := addCounterpart_branches s r setting
  unfold Ledger.declare
  cases repeatable : setting.multiLine with
  | true =>
    have nothing : e.kept? = none := by simp [Entry.kept?, isSetting, repeatable]
    rw [if_pos rfl]
    exact held.unkept settings branches slots nothing
  | false =>
    have kept : e.kept? = some setting := by simp [Entry.kept?, isSetting, repeatable]
    simp only [Bool.false_eq_true, if_false]
    cases branch : e.branch with
    | none => exact held.outside settings branches slots kept branch
    | some b => exact held.inBranch settings branches slots kept branch

end Scope.Holds

namespace Ledger

variable {r : Registry} {l : Ledger}

theorem foldl_assign (plain : l.scope.holdsTags = false) {before : List Entry} (held : l.scope.Holds r before)
    (es : List Entry) :
    (es.foldl (fun l e => l.assign r e) l).scope.Holds r (before ++ es) ∧
      (es.foldl (fun l e => l.assign r e) l).values = (es.map fun e => (e.name, e.value)).reverse ++ l.values := by
  induction es generalizing l before with
  | nil => simpa using held
  | cons e es inductionHypothesis =>
    have step : (l.assign r e).scope.Holds r (before ++ [e]) := by
      simp only [assign, plain, Bool.false_eq_true, if_false]
      cases isSetting : e.setting with
      | none =>
        have unasked : e.counterpart? r = none := by simp [Entry.counterpart?, isSetting]
        have nothing : e.kept? = none := by simp [Entry.kept?, isSetting]
        exact held.unkept rfl rfl (by simp [held.extraSlots, unasked]) nothing
      | some setting => exact held.declare isSetting
    have stillPlain : (l.assign r e).scope.holdsTags = false := by
      rw [← plain, Scope.holdsTags, Scope.holdsTags, Scope.name?, (assign_sameSection e).current, Scope.name?]
    obtain ⟨holds, values⟩ := inductionHypothesis stillPlain step
    refine ⟨by simpa using holds, ?_⟩
    rw [List.foldl_cons, values]
    simp [assign, plain]

theorem readAll_eq_foldl {es : List Event} (inner : ∀ e ∈ es, e.isInner = true)
    (unended : l.scope.name? = some "tags" → ∀ e ∈ es, e.isBlank = false) :
    (l.readAll r es).1 = (es.filterMap Event.entry?).foldl (fun l e => l.assign r e) l := by
  induction es generalizing l with
  | nil => rfl
  | cons e es inductionHypothesis =>
    have laterInner : ∀ e ∈ es, e.isInner = true := fun e member => inner e (List.mem_cons_of_mem _ member)
    cases e with
    | header h => cases inner _ (List.mem_cons_self ..)
    | blank =>
      have notTags : (l.scope.name? == some "tags") = false := by
        rw [beq_eq_false_iff_ne]
        intro tags
        cases unended tags .blank (List.mem_cons_self ..)
      simp only [readAll, read, notTags]
      exact inductionHypothesis laterInner fun tags e member => unended tags e (List.mem_cons_of_mem _ member)
    | entry e =>
      simp only [readAll, read, List.filterMap_cons, Event.entry?, List.foldl_cons]
      apply inductionHypothesis laterInner
      rw [Scope.name?, (assign_sameSection e).current]
      exact fun tags e member => unended tags e (List.mem_cons_of_mem _ member)

theorem foldl_assign_tags (tags : l.scope.holdsTags = true) (es : List Entry) :
    es.foldl (fun l e => l.assign r e) l = l := by
  induction es with
  | nil => rfl
  | cons e es inductionHypothesis =>
    have unchanged : l.assign r e = l := by simp [assign, tags]
    rw [List.foldl_cons, unchanged, inductionHypothesis]

end Ledger

/-! ## The ledger at the end of a section -/

namespace Passage

variable {r : Registry} {l : Ledger} {p : Passage}

theorem holdsTags_entered : ((l.close r).enter r p.header).scope.holdsTags = p.holdsTags := rfl

theorem ownBody_of_plain (plain : p.holdsTags = false) : p.ownBody = p.body := by
  have notTags : p.header.name ≠ "tags" := by
    intro tags
    rw [holdsTags, tags] at plain
    revert plain
    decide
  simp [ownBody, notTags]

theorem ended_eq (inner : ∀ e ∈ p.body, e.isInner = true) :
    p.ended r l = p.entries.foldl (fun l e => l.assign r e) ((l.close r).enter r p.header) := by
  have folded : p.ended r l =
      (p.ownBody.filterMap Event.entry?).foldl (fun l e => l.assign r e) ((l.close r).enter r p.header) := by
    apply Ledger.readAll_eq_foldl
    · exact fun e member => inner e (mem_body_of_mem_ownBody member)
    · exact lasting_ownBody
  rw [folded, entries]
  cases plain : p.holdsTags with
  | true => exact Ledger.foldl_assign_tags (holdsTags_entered.trans plain) _
  | false => rw [ownBody_of_plain plain]; rfl

theorem holds_entered : ((l.close r).enter r p.header).scope.Holds r [] := by
  obtain ⟨-, -, settings, branches, extraSlots⟩ := @Ledger.scope_entered r l p.header
  exact
    { fills := fun slot => by rw [settings]; rfl
      extraSlots := by rw [extraSlots]; rfl
      branches := by rw [branches]; rfl
      distinct := by rw [branches]; exact .nil
      branchFills := by simp [branches] }

theorem ended_holds (inner : ∀ e ∈ p.body, e.isInner = true) :
    (p.ended r l).scope.Holds r p.entries ∧
      (p.ended r l).values =
        (p.entries.map fun e => (e.name, e.value)).reverse ++ ((l.close r).enter r p.header).values := by
  rw [ended_eq inner]
  cases plain : p.holdsTags with
  | true =>
    simp only [entries, plain, if_true, List.foldl_nil, List.map_nil, List.reverse_nil, List.nil_append, and_true]
    exact holds_entered
  | false => exact Ledger.foldl_assign (holdsTags_entered.trans plain) holds_entered p.entries

end Passage

end ChartConfig
