import Mathlib.Data.List.Perm.Subperm
import ChartConfig.Proofs.Distinct
import ChartConfig.Proofs.Validation.Conditions

/-!
# Every path through a section

A slot that nothing is said about is filled on every path through its section. The verdict on a section counts branches
in which settings are declared, so this holds under two conditions: where one branch declares a setting, so does every
branch of its condition and of the conditions around it, and no condition has a second `else`. Then as many `if` as
`else` among these branches means that each of the conditions has an `else`, and an outermost one of them decides: the
branch that a path takes there declares the setting before any other branch begins.
-/

namespace ChartConfig

open Text Finding

/-- A path through the conditions of a section: of each it takes one branch, or none if there is no `else`. -/
structure Path (lines : List Placed) where
  taken? : (opener : Nat) → Option Branch
  begun : ∀ opener b, taken? opener = some b → ∃ y ∈ lines, y.begins? = some ⟨opener, b⟩
  exhaustive : ∀ y ∈ lines, ∀ d, y.begins? = some d → d.branch.keyword = .elseBlock →
    (taken? d.opener).isSome = true

/-- The path that takes of each condition the branch that begins first. -/
def Path.first (lines : List Placed) : Path lines where
  taken? opener := ((lines.filterMap Placed.begins?).find? (·.opener == opener)).map OpenCondition.branch
  begun := by
    intro opener b takes
    obtain ⟨d, found, rfl⟩ := Option.map_eq_some_iff.mp takes
    obtain ⟨y, isLine, begun⟩ := List.mem_filterMap.mp (List.mem_of_find?_eq_some found)
    have isOpener : d.opener = opener := by simpa using List.find?_some found
    exact ⟨y, isLine, by rw [begun, ← isOpener]⟩
  exhaustive := by
    intro y isLine d begun _
    rw [Option.isSome_map, List.find?_isSome]
    exact ⟨d, List.mem_filterMap.mpr ⟨y, isLine, begun⟩, beq_self_eq_true _⟩

instance (lines : List Placed) : Inhabited (Path lines) :=
  ⟨Path.first lines⟩

/-- The path leads over the line: it takes every branch that the line lies in. -/
def Path.Reaches {lines : List Placed} (path : Path lines) (y : Placed) : Prop :=
  ∀ d ∈ y.within, path.taken? d.opener = some d.branch

def Placed.declares (y : Placed) (r : Registry) (slot : Slot) : Bool :=
  match y.reading.event? r with
  | some (.entry e) => e.supplies slot
  | _ => false

theorem Placed.declares_eq {y : Placed} {r : Registry} {slot : Slot} {e : Entry}
    (said : y.reading.event? r = some (.entry e)) : y.declares r slot = e.supplies slot := by
  rw [declares, said]

def Path.Fills {lines : List Placed} (path : Path lines) (r : Registry) (slot : Slot) : Prop :=
  ∃ y ∈ lines, y.declares r slot = true ∧ path.Reaches y

namespace Placed

variable {lines : List Placed} {declared : List Branch}

/-- Wherever a branch declares a setting, so does every branch of its condition and of the conditions around it. -/
def Thorough (lines : List Placed) (declared : List Branch) : Prop :=
  ∀ y ∈ lines, ∀ d ∈ y.begins?, d.branch ∈ declared →
    ∀ f ∈ y.after, ∀ z ∈ lines, ∀ g ∈ z.begins?, g.opener = f.opener → g.branch ∈ declared

instance : Decidable (Thorough lines declared) :=
  inferInstanceAs (Decidable (∀ y ∈ lines, ∀ d ∈ y.begins?, d.branch ∈ declared →
    ∀ f ∈ y.after, ∀ z ∈ lines, ∀ g ∈ z.begins?, g.opener = f.opener → g.branch ∈ declared))

/-- No condition has two branches that begin with `else`. -/
def OneElse (lines : List Placed) : Prop :=
  ∀ y ∈ lines, ∀ z ∈ lines, ∀ d ∈ y.begins?, ∀ f ∈ z.begins?,
    d.branch.keyword = .elseBlock → f.branch.keyword = .elseBlock → d.opener = f.opener → d = f

instance : Decidable (OneElse lines) :=
  inferInstanceAs (Decidable (∀ y ∈ lines, ∀ z ∈ lines, ∀ d ∈ y.begins?, ∀ f ∈ z.begins?,
    d.branch.keyword = .elseBlock → f.branch.keyword = .elseBlock → d.opener = f.opener → d = f))

theorem Orderly.opened (orderly : Orderly lines) {y : Placed} (isLine : y ∈ lines) {d : OpenCondition}
    (isOpen : d ∈ y.after) : ∃ z ∈ lines, z.begins? = some ⟨d.opener, ⟨d.opener, .ifBlock⟩⟩ := by
  obtain ⟨inner, outer, after⟩ := List.append_of_mem isOpen
  obtain ⟨z, isOpener, place, isIf, -⟩ := orderly.founded y isLine d outer (after ▸ List.suffix_append _ _)
  exact ⟨z, isOpener, place ▸ begins?_of_if isIf⟩

/-- If as many `if` as `else` branches declare settings, each of the conditions has an `else`. -/
theorem exists_else (thorough : Thorough lines declared) (oneElse : OneElse lines) (distinct : declared.Nodup)
    (balanced : Branch.balanced declared = true)
    (known : ∀ b ∈ declared, ∃ y ∈ lines, ∃ d, y.begins? = some d ∧ d.branch = b)
    (orderly : Orderly lines) {opener : Nat} (declares : ⟨opener, .ifBlock⟩ ∈ declared) :
    ∃ y ∈ lines, ∃ d, y.begins? = some d ∧ d.opener = opener ∧ d.branch.keyword = .elseBlock := by
  choose! place isThere owner begun named using known
  -- The `else` branches are sent to the `if` branches of their conditions; there are as many, so all of them are met.
  let elses := declared.filter (·.keyword == .elseBlock)
  let ifs := declared.filter (·.keyword == .ifBlock)
  let met := elses.map fun b => (⟨(owner b).opener, .ifBlock⟩ : Branch)
  have isElse : ∀ b ∈ elses, b ∈ declared ∧ b.keyword = .elseBlock := by simp [elses]
  have metOnce : met.Nodup := by
    refine List.Nodup.map_on (fun b member other memberToo same => ?_) (distinct.filter _)
    obtain ⟨declares, named'⟩ := isElse b member
    obtain ⟨declaresToo, namedToo⟩ := isElse other memberToo
    have sameOwner := oneElse _ (isThere b declares) _ (isThere other declaresToo) _ (begun b declares) _
      (begun other declaresToo) (by rw [named b declares, named']) (by rw [named other declaresToo, namedToo])
      (congrArg Branch.line same)
    rw [← named b declares, ← named other declaresToo, sameOwner]
  have metAreIfs : met ⊆ ifs := by
    intro branch member
    obtain ⟨b, memberElse, rfl⟩ := List.mem_map.mp member
    obtain ⟨declares, -⟩ := isElse b memberElse
    obtain ⟨-, -, -, outer, after⟩ := begins?_eq_some (begun b declares)
    have isOpen : owner b ∈ (place b).after := by simp [after]
    obtain ⟨z, isLine, begunIf⟩ := orderly.opened (isThere b declares) isOpen
    have declaresIf := thorough _ (isThere b declares) _ (begun b declares) (by rwa [named b declares]) _ isOpen
      z isLine _ begunIf rfl
    exact List.mem_filter.mpr ⟨declaresIf, rfl⟩
  have asMany : ifs.length ≤ met.length := by
    rw [Branch.balanced, beq_iff_eq, List.countP_eq_length_filter, List.countP_eq_length_filter] at balanced
    rw [List.length_map]
    exact balanced.le
  have same : met.Perm ifs := (List.subperm_of_subset metOnce metAreIfs).perm_of_length_le asMany
  have isMet := same.mem_iff.mpr (List.mem_filter.mpr ⟨declares, rfl⟩)
  obtain ⟨b, memberElse, isOpener⟩ := List.mem_map.mp isMet
  obtain ⟨declaresElse, keyword⟩ := isElse b memberElse
  exact ⟨place b, isThere b declaresElse, owner b, begun b declaresElse, congrArg Branch.line isOpener,
    by rw [named b declaresElse, keyword]⟩

/-- On every path an outermost branch is taken that declares a setting. -/
theorem exists_taken (thorough : Thorough lines declared) (oneElse : OneElse lines) (distinct : declared.Nodup)
    (balanced : Branch.balanced declared = true)
    (known : ∀ b ∈ declared, ∃ y ∈ lines, ∃ d, y.begins? = some d ∧ d.branch = b) (orderly : Orderly lines)
    (declares : declared ≠ []) (path : Path lines) :
    ∃ y ∈ lines, ∃ d, y.begins? = some d ∧ d.branch ∈ declared ∧ y.after = [d] ∧
      path.taken? d.opener = some d.branch := by
  obtain ⟨b, declaresSome⟩ := List.exists_mem_of_ne_nil declared declares
  obtain ⟨y, isLine, d, begun, rfl⟩ := known b declaresSome
  have nonempty : y.after ≠ [] := by
    obtain ⟨-, -, -, outer, after⟩ := begins?_eq_some begun
    simp [after]
  obtain ⟨inner, outermost, after⟩ := (List.eq_nil_or_concat' y.after).resolve_left nonempty
  have isOpen : outermost ∈ y.after := by simp [after]
  have isOutermost : [outermost] <:+ y.after := ⟨inner, after.symm⟩
  have onward := thorough y isLine d begun declaresSome outermost isOpen
  obtain ⟨opener, isOpener, begunIf⟩ := orderly.opened isLine isOpen
  have declaresIf := onward opener isOpener _ begunIf rfl
  -- Its condition has an `else`, so the path takes one of its branches, and that declares a setting too.
  obtain ⟨final, isFinal, f, begunElse, sameOpener, isElse⟩ :=
    exists_else thorough oneElse distinct balanced known orderly declaresIf
  obtain ⟨taken, takes⟩ := Option.isSome_iff_exists.mp (path.exhaustive final isFinal f begunElse isElse)
  rw [sameOpener] at takes
  obtain ⟨z, isLineToo, begunTaken⟩ := path.begun _ _ takes
  obtain ⟨-, -, -, around, afterTaken⟩ := begins?_eq_some begunTaken
  have isWhole : ⟨outermost.opener, taken⟩ :: around <:+ z.after := afterTaken ▸ List.suffix_refl _
  have nothingAround : around = [] := orderly.outer_eq isLineToo isLine isWhole isOutermost rfl
  exact ⟨z, isLineToo, _, begunTaken, onward z isLineToo _ begunTaken rfl, nothingAround ▸ afterTaken, takes⟩

end Placed

theorem Entry.exists_of_mem_branches {es : List Entry} {b : Branch} (member : b ∈ branches es) :
    ∃ e ∈ es, e.branch = some b := by
  rw [branches, List.mem_eraseDups, List.mem_filterMap] at member
  obtain ⟨e, isThere, kept⟩ := member
  obtain ⟨-, -, under⟩ := Option.bind_eq_some_iff.mp kept
  exact ⟨e, isThere, under⟩

namespace Reading

variable {r : Registry} {h : Header} {after : List Reading} {e : Entry} {l : Ledger} {slot : Slot}

theorem placed_of_entry (member : e ∈ (passage r h after).entries) :
    ∃ x ∈ place [] (body after), x.reading.event? r = some (.entry e) := by
  unfold Passage.entries at member
  split at member
  · cases member
  · obtain ⟨event, isThere, isEntry⟩ := List.mem_filterMap.mp member
    obtain ⟨y, isLine, said⟩ := List.mem_filterMap.mp isThere
    rw [← map_reading_place [] (body after)] at isLine
    obtain ⟨x, isPlaced, rfl⟩ := List.mem_map.mp isLine
    cases event with
    | header h | blank => cases isEntry
    | entry other =>
      cases isEntry
      exact ⟨x, isPlaced, said⟩

theorem begins_of_mem_branches {b : Branch} (orderly : Placed.Orderly (place [] (body after)))
    (declared : b ∈ Entry.branches (passage r h after).entries) :
    ∃ y ∈ place [] (body after), ∃ d, y.begins? = some d ∧ d.branch = b := by
  obtain ⟨e, member, under⟩ := Entry.exists_of_mem_branches declared
  obtain ⟨x, isLine, event⟩ := placed_of_entry member
  obtain ⟨-, y, isLineToo, d, begun, named, -⟩ := (orderly.branch_of_entry isLine event).2 b under
  exact ⟨y, isLineToo, d, begun, named⟩

/-- What fills a slot for the verdict fills it on every path. -/
theorem fills_of_filled (orderly : Placed.Orderly (place [] (body after)))
    (thorough : Placed.Thorough (place [] (body after)) (Entry.branches (passage r h after).entries))
    (oneElse : Placed.OneElse (place [] (body after))) (filled : (passage r h after).unfilled r l slot = false)
    (path : Path (place [] (body after))) : (passage r h after).spared r l slot = true ∨ path.Fills r slot := by
  rw [Passage.unfilled, Bool.and_eq_false_iff, Bool.and_eq_false_iff, Bool.not_eq_false', Bool.not_eq_false',
    Bool.not_eq_false', Bool.and_eq_true_iff, Bool.and_eq_true_iff] at filled
  rcases filled with (spared | supplied) | ⟨⟨declares, everywhere⟩, balanced⟩
  · exact .inl spared
  · obtain ⟨e, member, said⟩ := List.any_eq_true.mp supplied
    obtain ⟨noBranch, supplies⟩ := Bool.and_eq_true_iff.mp said
    obtain ⟨x, isLine, event⟩ := placed_of_entry member
    have outside := (orderly.branch_of_entry isLine event).1 (Option.isNone_iff_eq_none.mp noBranch)
    exact .inr ⟨x, isLine, (Placed.declares_eq event).trans supplies, by simp [Path.Reaches, outside]⟩
  · obtain ⟨y, isLine, d, begun, declared, alone, takes⟩ := Placed.exists_taken thorough oneElse (nodup_eraseDups _)
      balanced (fun _ => begins_of_mem_branches orderly) orderly (by simpa using declares) path
    obtain ⟨e, member, said⟩ := List.any_eq_true.mp (List.all_eq_true.mp everywhere d.branch declared)
    obtain ⟨under, supplies⟩ := Bool.and_eq_true_iff.mp said
    obtain ⟨x, isLineToo, event⟩ := placed_of_entry member
    obtain ⟨isOpen, z, isLineThree, f, begunToo, named, inside⟩ :=
      (orderly.branch_of_entry isLineToo event).2 d.branch (beq_iff_eq.mp under)
    obtain ⟨rfl, rfl⟩ := orderly.eq_of_begins? isLineThree isLine begunToo begun named
    have within : x.within = [f] := by
      rw [alone, List.suffix_cons_iff, List.suffix_nil] at inside
      exact inside.resolve_right isOpen
    exact .inr ⟨x, isLineToo, (Placed.declares_eq event).trans supplies, by simpa [Path.Reaches, within] using takes⟩

end Reading

/-- Take a document whose blocks are in order and a section of it that begins outside conditions. A slot that is not
    asked for is spared, or on every path through the section a setting of it is declared; provided that, where a branch
    declares a setting, so does every branch of its condition and of those around it, and no condition has a second
    `else`. The verdict counts branches in which settings are declared, so without this an `if` and an `else` of
    different conditions make a pair. -/
theorem silent_slots_on_every_path (r : Registry) (text : String) :
    ∃ found, validate text r = .ok found ∧
      (found.filter (·.isStructural) = [] →
        ∀ before x after h, Document.readings text = before ++ x :: after →
          Line.header? x.line x.number = some h → x.control.blocks.isIn .ifBlock = false →
          let p := Reading.passage r h after
          let lines := Reading.place [] (Reading.body after)
          Placed.Thorough lines (Entry.branches p.entries) → Placed.OneElse lines →
          ∀ slot ∈ p.slots r, ∀ name, Scope.slotName? r slot = some name →
            Diagnostic.error h.range (Message.required name) ∉ found →
              ∀ path : Path lines, p.spared r (Document.ledgerAfter r before) slot = true ∨ path.Fills r slot) := by
  obtain ⟨found, ran, demands⟩ := validate_demandsAt r text
  obtain ⟨said, ranToo, reports⟩ := validate_reports r text
  cases ran.symm.trans ranToo
  refine ⟨_, ran, fun inOrder before x after h split headed outside => ?_⟩
  intro p lines thorough oneElse slot isSlot name named notAsked path
  obtain ⟨earlier, later, passages, ledger⟩ := @Document.passages_of_readings r text before after x h split headed
  have inner : ∀ e ∈ p.body, e.isInner = true := by
    intro e member
    have isPassage : p ∈ Document.passages r text := by simp [passages, p]
    exact Event.inner_of_mem_body isPassage member
  have silent : diagnostics (Control.complaintsFrom {} 0 (Document.analysed text)) = [] := by
    have nothing := reports.structural.symm.trans inOrder
    rw [diagnostics_append, List.append_eq_nil_iff] at nothing
    exact nothing.1
  have orderly : Placed.Orderly lines := Document.orderly_of_header silent split headed outside
  apply Reading.fills_of_filled orderly thorough oneElse _ path
  by_contra unfilled
  obtain ⟨holds, -⟩ := @Passage.ended_holds r (Document.ledgerAfter r before) p inner
  have exactly := demands earlier p later passages
  simp only [ledger, Passage.satisfies_ended inner, holds.extraSlots] at exactly
  have asked : Diagnostic.error h.range (Message.required name) ∈ Diagnostic.demandsAt h.range (diagnostics said) := by
    rw [show h.range = p.header.range from rfl, exactly]
    refine List.mem_filterMap.mpr ⟨slot, List.mem_filter.mpr ⟨isSlot, by simpa using unfilled⟩, ?_⟩
    rw [named]
    rfl
  exact notAsked (List.mem_of_mem_filter asked)

def branchedText : String :=
  "[widget]\nif a == b\n  type = chart\nelseif a == c\n  type = bar\nelse\n  type = box\nendif"

theorem silent_slots_on_every_path_widget :
    ∃ x after h, Document.readings branchedText = [] ++ x :: after ∧ Line.header? x.line x.number = some h ∧
      x.control.blocks.isIn .ifBlock = false ∧
      let p := Reading.passage chartRegistry h after
      let lines := Reading.place [] (Reading.body after)
      Placed.Thorough lines (Entry.branches p.entries) ∧ Placed.OneElse lines ∧ ["type"] ∈ p.slots chartRegistry ∧
        Scope.slotName? chartRegistry ["type"] = some "type" ∧
        ∃ found, validate branchedText chartRegistry = .ok found ∧ found.filter (·.isStructural) = [] ∧
          Diagnostic.error h.range (Message.required "type") ∉ found ∧
          p.spared chartRegistry (Document.ledgerAfter chartRegistry []) ["type"] = false ∧
          ∀ path : Path lines, path.Fills chartRegistry ["type"] := by
  obtain ⟨found, ran, filled⟩ := silent_slots_on_every_path chartRegistry branchedText
  have silent : (validate branchedText chartRegistry).toOption = some [] := by decide +kernel
  rw [ran] at silent
  obtain rfl : found = [] := Option.some.inj silent
  have first : 0 < (Document.readings branchedText).length := by decide +kernel
  have split : Document.readings branchedText =
      [] ++ (Document.readings branchedText)[0] :: (Document.readings branchedText).drop 1 := by
    rw [List.nil_append, ← List.drop_eq_getElem_cons first, List.drop_zero]
  have headed : Line.header? (Document.readings branchedText)[0].line (Document.readings branchedText)[0].number =
      some ⟨"widget", ⟨⟨0, 1⟩, ⟨0, 7⟩⟩⟩ := by
    clear split
    decide +kernel +revert
  have outside : (Document.readings branchedText)[0].control.blocks.isIn .ifBlock = false := by
    clear split headed
    decide +kernel +revert
  -- Each fact needs the whole document read, so they are evaluated together.
  obtain ⟨thorough, oneElse, isSlot, unspared⟩ :
      let p := Reading.passage chartRegistry ⟨"widget", ⟨⟨0, 1⟩, ⟨0, 7⟩⟩⟩ ((Document.readings branchedText).drop 1)
      let lines := Reading.place [] (Reading.body ((Document.readings branchedText).drop 1))
      Placed.Thorough lines (Entry.branches p.entries) ∧ Placed.OneElse lines ∧ ["type"] ∈ p.slots chartRegistry ∧
        p.spared chartRegistry (Document.ledgerAfter chartRegistry []) ["type"] = false := by
    decide +kernel
  have named : Scope.slotName? chartRegistry ["type"] = some "type" := by decide +kernel
  refine ⟨_, _, _, split, headed, outside, thorough, oneElse, isSlot, named, [], ran, rfl, List.not_mem_nil, unspared,
    fun path => ?_⟩
  have either := filled rfl [] _ _ _ split headed outside thorough oneElse _ isSlot _ named List.not_mem_nil path
  exact either.resolve_left (ne_true_of_eq_false unspared)

/-- The verdict pairs the `else` of the first condition with the `if` of the second, as nothing is declared in the
    first `if`. -/
example :
    (validate "[widget]\nif a\nelse\ntype = c\nendif\nif b\ntype = c\nendif" chartRegistry).toOption = some [] := by
  decide +kernel

end ChartConfig
