import ChartConfig.Proofs.Validation.Reached

/-!
# The settings kept for a section

A section keeps the settings that it declares, so that a second declaration can be told from the first. They move: to
later sections that it may enclose, aside while tags are read, and back behind them. On all these moves no setting is
lost and none is kept twice. So the settings kept are exactly those that some line of the section has declared outside
conditions, and each is kept once.
-/

namespace ChartConfig

open Text

/-! ## Nothing is kept twice -/

/-- No two of the settings have the same canonical name. -/
def Setting.Distinct (settings : List Setting) : Prop :=
  (settings.map Setting.name).Nodup

namespace Setting

variable {setting other : Setting} {settings : List Setting}

theorem isIn_iff : setting.isIn settings = true ↔ setting.name ∈ settings.map Setting.name := by
  simp only [isIn, same, List.any_eq_true, beq_iff_eq, List.mem_map]
  exact exists_congr fun other => and_congr_right fun _ => eq_comm

theorem distinct_nil : Distinct [] :=
  List.nodup_nil

theorem Distinct.concat (distinct : Distinct settings) (new : setting.isIn settings = false) :
    Distinct (settings ++ [setting]) := by
  rw [Bool.eq_false_iff, ne_eq, isIn_iff] at new
  rw [Distinct, List.map_append, List.map_singleton, ← List.concat_eq_append]
  exact List.Nodup.concat new distinct

end Setting

open Setting

namespace Scope

/-- Each list of settings that the scope keeps is as asked. -/
structure Lists (P : List Setting → Prop) (s : Scope) : Prop where
  settings : P s.settings
  previousSettings : P s.previousSettings
  inherited : ∀ entry ∈ s.inherited, P entry.2
  branches : ∀ entry ∈ s.branches, P entry.2

/-- No list of settings that the scope keeps has a setting twice, no branch is kept twice and no section either. -/
structure Unrepeated (s : Scope) : Prop extends Lists Distinct s where
  inheritedNames : (s.inherited.map Prod.fst).Nodup
  branchKeys : (s.branches.map Prod.fst).Nodup

variable {r : Registry} {s after : Scope} {x : Passing} {setting : Setting} {name : String} {known more : List Setting}
  {table : List (String × List Setting)} {branch : Branch} {branches : List (Branch × List Setting)}
  {P : List Setting → Prop}

/-! ### Moving lists -/

theorem lists_bequeathTo (nil : P []) (merges : ∀ known, P known → P (merge known more))
    (lists : ∀ entry ∈ table, P entry.2) : ∀ entry ∈ bequeathTo name more table, P entry.2 := by
  induction table with
  | nil => exact List.forall_mem_singleton.mpr (merges [] nil)
  | cons first table inductionHypothesis =>
    obtain ⟨here, later⟩ := List.forall_mem_cons.mp lists
    unfold bequeathTo
    split
    · exact List.forall_mem_cons.mpr ⟨merges _ here, later⟩
    · exact List.forall_mem_cons.mpr ⟨here, inductionHypothesis later⟩

theorem lists_addToBranch (nil : P [])
    (adds : ∀ known, P known → setting.isIn known = false → P (known ++ [setting]))
    (lists : ∀ entry ∈ branches, P entry.2) : ∀ entry ∈ (addToBranch branch setting branches).1, P entry.2 := by
  induction branches with
  | nil => exact List.forall_mem_singleton.mpr (adds [] nil rfl)
  | cons first branches inductionHypothesis =>
    obtain ⟨here, later⟩ := List.forall_mem_cons.mp lists
    unfold addToBranch
    split
    · split
      · exact lists
      · next new => exact List.forall_mem_cons.mpr ⟨adds _ here (Bool.eq_false_iff.mpr new), later⟩
    · exact List.forall_mem_cons.mpr ⟨here, inductionHypothesis later⟩

theorem Lists.mono {Q : List Setting → Prop} (lists : s.Lists P) (implied : ∀ settings, P settings → Q settings) :
    s.Lists Q where
  settings := implied _ lists.settings
  previousSettings := implied _ lists.previousSettings
  inherited entry member := implied _ (lists.inherited entry member)
  branches entry member := implied _ (lists.branches entry member)

theorem Lists.of_lists (lists : s.Lists P) (settings : after.settings = s.settings)
    (previous : after.previousSettings = s.previousSettings) (inherited : after.inherited = s.inherited)
    (branches : after.branches = s.branches) : after.Lists P where
  settings := settings ▸ lists.settings
  previousSettings := previous ▸ lists.previousSettings
  inherited := inherited ▸ lists.inherited
  branches := branches ▸ lists.branches

theorem Lists.close {l : Ledger} (nil : P []) (merges : ∀ known more, P known → P more → P (merge known more))
    (lists : l.scope.Lists P) (r : Registry) : (l.close r).scope.Lists P := by
  rw [Ledger.close_scope]
  refine { lists with inherited := ?_ }
  unfold bequeath
  split
  · exact lists_bequeathTo nil (fun known ofKnown => merges known _ ofKnown lists.settings) lists.inherited
  · exact lists.inherited

theorem Lists.addCounterpart (lists : s.Lists P) (r : Registry) (setting : Setting) :
    (s.addCounterpart r setting).Lists P := by
  rw [addCounterpart_eq]
  cases r.counterpart? setting with
  | none => exact lists
  | some slot =>
    simp only [Option.elim, addSlot]
    split
    · exact lists
    · exact lists.of_lists rfl rfl rfl rfl

theorem Lists.recordUnder (nil : P []) (adds : ∀ known, P known → setting.isIn known = false → P (known ++ [setting]))
    (lists : s.Lists P) (branch : Option Branch) : (s.recordUnder branch setting).Lists P := by
  cases branch with
  | none =>
    simp only [Scope.recordUnder, record]
    split
    · exact lists
    · next new => exact { lists with settings := adds _ lists.settings (Bool.eq_false_iff.mpr new) }
  | some branch => exact { lists with branches := lists_addToBranch nil adds lists.branches }

/-- What holds of no settings, and of lists that are merged, holds of all lists behind a line if it still holds with the
    setting that the line declares. -/
theorem Change.lists (change : Change r x after) (nil : P [])
    (merges : ∀ known more, P known → P more → P (merge known more))
    (adds : ∀ t, x.Declares r t → ∀ known, P known → t.isIn known = false → P (known ++ [t]))
    (lists : x.before.scope.Lists P) : after.Lists P := by
  have closed : (x.before.ledger.close r).scope.Lists P := Lists.close (l := x.before.ledger) nil merges lists r
  cases change with
  | enters heads =>
    exact ⟨nil, closed.settings, fun entry member => closed.inherited entry (List.mem_of_mem_filter member),
      List.forall_mem_nil _⟩
  | resumes =>
    unfold Ledger.resume
    split
    · exact { closed with settings := closed.previousSettings }
    · exact closed
  | @declares a setting sets =>
    unfold Ledger.declare
    split
    · exact lists.addCounterpart r setting
    · next once =>
      exact (lists.addCounterpart r setting).recordUnder nil (adds setting (sets.declares (Bool.eq_false_iff.mpr once))) _
  | stays => exact lists

/-! ### Nothing twice -/

theorem distinct_merge (distinct : Distinct known) : Distinct (merge known more) := by
  induction more generalizing known with
  | nil => exact distinct
  | cons setting more inductionHypothesis =>
    have step : Distinct (if setting.isIn known then known else known ++ [setting]) := by
      split
      · exact distinct
      · next new => exact distinct.concat (Bool.eq_false_iff.mpr new)
    exact inductionHypothesis step

theorem names_bequeathTo (name : String) (more : List Setting) (table : List (String × List Setting)) :
    (bequeathTo name more table).map Prod.fst =
      if name ∈ table.map Prod.fst then table.map Prod.fst else table.map Prod.fst ++ [name] := by
  induction table with
  | nil => rfl
  | cons first table inductionHypothesis =>
    obtain ⟨other, known⟩ := first
    by_cases here : other = name
    · simp [bequeathTo, here]
    · simp only [bequeathTo, beq_iff_eq, here, if_false, List.map_cons, inductionHypothesis, List.mem_cons,
        Ne.symm here, false_or]
      split <;> rfl

theorem nodup_keys {α : Type} [DecidableEq α] {keys : List α} (distinct : keys.Nodup) (key : α) :
    (if key ∈ keys then keys else keys ++ [key]).Nodup := by
  split
  · exact distinct
  · next new =>
    rw [← List.concat_eq_append]
    exact List.Nodup.concat new distinct

theorem nodup_close_inherited {l : Ledger} (distinct : (l.scope.inherited.map Prod.fst).Nodup) (r : Registry) :
    ((l.close r).scope.inherited.map Prod.fst).Nodup := by
  rw [Ledger.close_inherited]
  split
  · next h _ =>
    rw [names_bequeathTo]
    exact nodup_keys distinct h.name
  · exact distinct

theorem Change.unrepeated (change : Change r x after) (unrepeated : x.before.scope.Unrepeated) : after.Unrepeated := by
  have lists : after.Lists Distinct :=
    change.lists distinct_nil (fun _ _ distinct _ => distinct_merge distinct)
      (fun _ _ _ distinct new => distinct.concat new) unrepeated.toLists
  have closed := nodup_close_inherited (l := x.before.ledger) unrepeated.inheritedNames r
  refine { lists with inheritedNames := ?_, branchKeys := ?_ }
  · cases change with
    | enters => exact closed.sublist (List.filter_sublist.map _)
    | resumes => exact (Ledger.scope_resumed ..) ▸ closed
    | declares =>
      rw [(declare_sameSection ..).inherited]
      exact unrepeated.inheritedNames
    | stays => exact unrepeated.inheritedNames
  · cases change with
    | enters => exact List.nodup_nil
    | resumes =>
      rw [Ledger.scope_resumed, Ledger.close_scope]
      exact unrepeated.branchKeys
    | @declares a setting sets =>
      have same : (x.before.scope.addCounterpart r setting).branches = x.before.scope.branches :=
        addCounterpart_branches ..
      unfold Ledger.declare
      split
      · exact same ▸ unrepeated.branchKeys
      · cases x.before.control.branch? with
        | none =>
          simp only [Scope.recordUnder, record]
          split <;> exact same ▸ unrepeated.branchKeys
        | some branch =>
          simp only [Scope.recordUnder, recordIn, addToBranch_keys, same]
          exact nodup_keys unrepeated.branchKeys branch
    | stays => exact unrepeated.branchKeys

end Scope

theorem Reached.unrepeated {r : Registry} {passed : List Passing} {s : State} (reached : Reached r passed s) :
    s.scope.Unrepeated := by
  induction reached with
  | start =>
    exact ⟨⟨distinct_nil, distinct_nil, List.forall_mem_nil _, List.forall_mem_nil _⟩, List.nodup_nil, List.nodup_nil⟩
  | next reached _ ran unrepeated => exact (Passing.scope_change (reached.follows ran).ledger).unrepeated unrepeated

/-! ## Nothing is lost -/

/-- A setting is found under its canonical name, so no two that are found have the same. -/
theorem Registry.eq_of_lookup {r : Registry} {word other : String} {s t : Setting} (found : r.lookup word = some s)
    (alsoFound : r.lookup other = some t) (same : s.name = t.name) : s = t := by
  have canonical : canonicalName word = canonicalName other := by
    rw [← name_of_lookup found, same, name_of_lookup alsoFound]
  rw [Tables.lookup_eq_stored?] at found alsoFound
  rw [canonical] at found
  exact Option.some.inj (found.symm.trans alsoFound)

/-- The line declares the setting, which may not be repeated, in the given section and while no `if` is open. -/
structure Passing.Records (r : Registry) (current : Option Header) (setting : Setting) (x : Passing) : Prop where
  here : x.before.scope.current = current
  outside : x.before.blocks.isIn .ifBlock = false
  declares : x.Declares r setting

theorem Passing.Records.not_heads {r : Registry} {current : Option Header} {t : Setting} {x : Passing}
    (records : x.Records r current t) (h : Header) : ¬ x.Heads h := fun heads =>
  nomatch records.declares.noHeader.symm.trans heads.headed

namespace Reached

variable {r : Registry} {passed : List Passing} {s : State} {x y : Passing} {h : Header} {setting : Setting}

theorem at_line (reached : Reached r passed s) (isPassed : y ∈ passed) :
    ∃ before after, passed = before ++ y :: after ∧ Reached r before y.before ∧ y.number = before.length := by
  induction reached with
  | start => cases isPassed
  | @next passed x following found reached number ran inductionHypothesis =>
    rcases List.mem_append.mp isPassed with earlier | last
    · obtain ⟨before, after, rfl, reachedThere, numberThere⟩ := inductionHypothesis earlier
      exact ⟨before, after ++ [x], by simp, reachedThere, numberThere⟩
    · obtain rfl := List.mem_singleton.mp last
      exact ⟨passed, [], rfl, reached, number⟩

theorem line_lt_of_current (reached : Reached r passed s) (isCurrent : s.scope.current = some h) :
    h.range.start.line < passed.length := by
  obtain ⟨y, isPassed, heads⟩ := reached.traced.current h isCurrent
  rw [Line.line_header? heads.headed]
  exact reached.number_lt isPassed

theorem line_lt_of_records (reached : Reached r passed s) (isPassed : y ∈ passed)
    (records : y.Records r (some h) setting) : h.range.start.line < passed.length := by
  obtain ⟨before, after, -, reachedThere, number⟩ := reached.at_line isPassed
  have above := reachedThere.line_lt_of_current records.here
  have below := reached.number_lt isPassed
  omega

end Reached

namespace Scope

/-- The settings of the scope are those that lines passed declare in the current section; and while tags are read, the
    settings set aside are those of the section before. -/
structure Accounts (r : Registry) (passed : List Passing) (s : Scope) : Prop where
  settings : ∀ t, t ∈ s.settings ↔ ∃ y ∈ passed, y.Records r s.current t
  previousSettings : s.name? = some "tags" → ∀ h, s.previous = some h →
    ∀ t, t ∈ s.previousSettings ↔ ∃ y ∈ passed, y.Records r (some h) t

variable {r : Registry} {passed : List Passing} {s : Scope} {x : Passing} {setting t : Setting}

theorem exists_concat {P : Passing → Prop} : (∃ y ∈ passed ++ [x], P y) ↔ (∃ y ∈ passed, P y) ∨ P x := by
  simp only [List.mem_append, List.mem_singleton, or_and_right, exists_or, exists_eq_left]

theorem exists_concat_of_not {P : Passing → Prop} (notHere : ¬ P x) :
    (∃ y ∈ passed ++ [x], P y) ↔ ∃ y ∈ passed, P y := by
  rw [exists_concat, or_iff_left notHere]

theorem holdsTags_of_name (tags : s.name? = some "tags") : s.holdsTags = true := by
  rw [holdsTags, tags]
  decide

theorem Change.of_sets {after : Scope} {a : Assignment} (change : Change r x after) (sets : x.Sets r a setting) :
    after = Ledger.declare x.before.scope r x.before.control.branch? setting := by
  cases change with
  | enters heads => exact absurd heads (sets.not_heads _)
  | resumes tags => exact absurd (sets.noTags.symm.trans (holdsTags_of_name tags)) Bool.false_ne_true
  | declares setsToo =>
    obtain rfl := Option.some.inj (sets.assigns.symm.trans setsToo.assigns)
    obtain rfl := Option.some.inj (sets.known.symm.trans setsToo.known)
    rfl
  | stays _ noSetting => exact absurd sets (noSetting _ _)

theorem mem_record {word : String} (known : r.lookup word = some setting)
    (kept : ∀ other ∈ s.settings, ∃ word, r.lookup word = some other) :
    t ∈ (s.record setting).1.settings ↔ t ∈ s.settings ∨ t = setting := by
  unfold record
  split
  · next isIn =>
    obtain ⟨other, isKept, same⟩ := List.any_eq_true.mp isIn
    obtain ⟨otherWord, knownToo⟩ := kept other isKept
    obtain rfl := Registry.eq_of_lookup known knownToo (by simpa [Setting.same] using same)
    exact ⟨.inl, fun member => member.elim id fun same => same ▸ isKept⟩
  · simp

theorem records_iff_of_sets {a : Assignment} (sets : x.Sets r a setting) :
    x.Records r x.before.scope.current t ↔
      (setting.multiLine = false ∧ x.before.blocks.isIn .ifBlock = false) ∧ t = setting := by
  constructor
  · intro records
    obtain ⟨b, setsToo⟩ := records.declares.sets
    obtain rfl := Option.some.inj (sets.assigns.symm.trans setsToo.assigns)
    obtain rfl := Option.some.inj (sets.known.symm.trans setsToo.known)
    exact ⟨⟨records.declares.once, records.outside⟩, rfl⟩
  · rintro ⟨⟨once, outside⟩, rfl⟩
    exact ⟨rfl, outside, sets.declares once⟩

theorem mem_declare {a : Assignment} (sets : x.Sets r a setting) (armed : x.before.control.Armed)
    (kept : ∀ other ∈ x.before.scope.settings, ∃ word, r.lookup word = some other) :
    t ∈ (Ledger.declare x.before.scope r x.before.control.branch? setting).settings ↔
      t ∈ x.before.scope.settings ∨ x.Records r x.before.scope.current t := by
  rw [records_iff_of_sets sets, Ledger.declare]
  cases repeatable : setting.multiLine with
  | true => simp [addCounterpart_settings]
  | false =>
    cases conditional : x.before.blocks.isIn .ifBlock with
    | false =>
      have free : x.before.control.branch? = none := by simp [Control.branch?, State.control, conditional]
      rw [← addCounterpart_settings x.before.scope r setting] at kept
      simp only [free, recordUnder, Bool.false_eq_true, if_false, mem_record sets.known kept,
        addCounterpart_settings, and_self, true_and]
    | true =>
      obtain ⟨branch, inForce⟩ := Option.isSome_iff_exists.mp (armed conditional)
      have under : x.before.control.branch? = some branch := (if_pos conditional).trans inForce
      simp [under, recordUnder, recordIn, addCounterpart_settings]

namespace Accounts

theorem enters {h : Header} (accounts : x.before.scope.Accounts r passed) (heads : x.Heads h)
    (reached : Reached r passed x.before) (number : x.number = passed.length) :
    ((x.before.ledger.close r).enter r h).scope.Accounts r (passed ++ [x]) := by
  have notHere (current : Option Header) (t : Setting) : ¬ x.Records r current t := fun records =>
    records.not_heads h heads
  refine ⟨fun t => ?_, fun _ g isPrevious t => ?_⟩
  · rw [exists_concat_of_not (notHere _ t)]
    refine ⟨nofun, ?_⟩
    rintro ⟨y, isPassed, records⟩
    have above := reached.line_lt_of_records isPassed records
    rw [Line.line_header? heads.headed, number] at above
    exact absurd above (Nat.lt_irrefl _)
  · have wasCurrent : (x.before.ledger.close r).scope.current = some g := isPrevious
    rw [Ledger.close_scope] at wasCurrent
    have settings : t ∈ ((x.before.ledger.close r).enter r h).scope.previousSettings ↔ t ∈ x.before.scope.settings := by
      change t ∈ (x.before.ledger.close r).scope.settings ↔ _
      rw [Ledger.close_scope]
      rfl
    rw [exists_concat_of_not (notHere _ t), settings, accounts.settings]
    exact wasCurrent ▸ Iff.rfl

theorem resumes (accounts : x.before.scope.Accounts r passed) (tags : x.before.scope.name? = some "tags") :
    (x.before.ledger.close r).resume.scope.Accounts r (passed ++ [x]) := by
  have notHere (current : Option Header) (t : Setting) : ¬ x.Records r current t := fun records =>
    absurd (records.declares.noTags.symm.trans (holdsTags_of_name tags)) Bool.false_ne_true
  rw [Ledger.scope_resumed, Ledger.close_scope]
  cases isPrevious : x.before.ledger.scope.previous with
  | none =>
    refine ⟨fun t => ?_, fun _ g isPreviousToo => nomatch isPrevious.symm.trans isPreviousToo⟩
    rw [exists_concat_of_not (notHere _ t)]
    exact accounts.settings t
  | some g =>
    have same (t : Setting) : t ∈ x.before.scope.previousSettings ↔ ∃ y ∈ passed ++ [x], y.Records r (some g) t := by
      rw [exists_concat_of_not (notHere _ t), accounts.previousSettings tags g isPrevious]
    refine ⟨same, fun _ k isPreviousToo => ?_⟩
    obtain rfl : g = k := Option.some.inj (isPrevious.symm.trans isPreviousToo)
    exact same

theorem declares {a : Assignment} (accounts : x.before.scope.Accounts r passed) (sets : x.Sets r a setting)
    (armed : x.before.control.Armed) :
    (Ledger.declare x.before.scope r x.before.control.branch? setting).Accounts r (passed ++ [x]) := by
  have same := declare_sameSection x.before.scope r x.before.control.branch? setting
  have kept : ∀ other ∈ x.before.scope.settings, ∃ word, r.lookup word = some other := by
    intro other isKept
    obtain ⟨y, -, records⟩ := (accounts.settings other).mp isKept
    obtain ⟨b, -, known⟩ := records.declares.assigns
    exact ⟨_, known⟩
  refine ⟨fun t => ?_, fun tags => ?_⟩
  · rw [same.current, exists_concat, ← accounts.settings, mem_declare sets armed kept]
  · have wasTags : x.before.scope.name? = some "tags" := by rw [← tags, name?, name?, same.current]
    exact absurd (sets.noTags.symm.trans (holdsTags_of_name wasTags)) Bool.false_ne_true

theorem stays (accounts : x.before.scope.Accounts r passed) (noSetting : ∀ a setting, ¬ x.Sets r a setting) :
    x.before.scope.Accounts r (passed ++ [x]) := by
  have notHere (current : Option Header) (t : Setting) : ¬ x.Records r current t := fun records =>
    records.declares.sets.elim fun a sets => noSetting a t sets
  refine ⟨fun t => ?_, fun tags h isPrevious t => ?_⟩
  · rw [exists_concat_of_not (notHere _ t), accounts.settings]
  · rw [exists_concat_of_not (notHere _ t), accounts.previousSettings tags h isPrevious]

end Accounts

theorem Change.accounts {after : Scope} (change : Change r x after) (reached : Reached r passed x.before)
    (number : x.number = passed.length) (accounts : x.before.scope.Accounts r passed) :
    after.Accounts r (passed ++ [x]) := by
  cases change with
  | enters heads => exact accounts.enters heads reached number
  | resumes tags => exact accounts.resumes tags
  | declares sets => exact accounts.declares sets reached.armed
  | stays _ noSetting => exact accounts.stays noSetting

end Scope

theorem Reached.accounts {r : Registry} {passed : List Passing} {s : State} (reached : Reached r passed s) :
    s.scope.Accounts r passed := by
  induction reached with
  | start => exact ⟨fun t => by simp, fun _ h isPrevious => nomatch isPrevious⟩
  | next reached number ran accounts =>
    exact (Passing.scope_change (reached.follows ran).ledger).accounts reached number accounts

end ChartConfig
