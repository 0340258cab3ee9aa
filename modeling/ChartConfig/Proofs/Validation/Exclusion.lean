import ChartConfig.Proofs.Validation.Kept
import ChartConfig.Proofs.Validation.Wording

/-!
# Settings that exclude each other

Where a setting is declared, those that it excludes are looked for among the settings that the section keeps. These are
the settings declared in the section up to here while no `if` was open. So what is reported depends on the order: it is
the later setting that must exclude the earlier, and the earlier must stand outside conditions.
-/

namespace ChartConfig

open Text Finding

namespace Document

variable {r : Registry} {text : String} {before after : List Passing} {x : Passing} {a : Assignment}
  {setting t : Setting}

theorem mem_settings_declare (split : passings r text = before ++ x :: after) (sets : x.Sets r a setting) :
    t ∈ (Ledger.declare x.before.scope r x.before.control.branch? setting).settings ↔
      ∃ y ∈ before ++ [x], y.Records r x.before.scope.current t := by
  obtain ⟨-, following, -, -, -, ledger, -⟩ := Step.passings_split State.armed_initial split
  have after := (Passing.scope_change ledger).of_sets sets
  have same := Scope.declare_sameSection x.before.scope r x.before.control.branch? setting
  rw [← after, (reached_of_split split).2.1.accounts.settings, after, same.current]

end Document

/-- At the name of a setting, it is told to conflict with another just in case it excludes a setting of that name which
    is declared in the section, on this line or before, while no `if` is open. -/
theorem conflicts_reported (r : Registry) (text : String) :
    ∃ found, validate text r = .ok found ∧
      ∀ before x after, Document.passings r text = before ++ x :: after →
        ∀ a setting, x.Sets r a setting → ∀ other,
          (.error (a.name.range x.number) (Message.conflict setting.displayName other) ∈ found ↔
            ∃ t, setting.excludes t = true ∧ t.displayName = other ∧
              ∃ y ∈ before ++ [x], y.Records r x.before.scope.current t) := by
  refine ⟨_, validate_eq_acts r text, fun before x after split a setting sets other => ?_⟩
  have armed : (x.before.noting a).control.Armed := (Document.reached_of_split split).1.armed
  have named := Registry.canonicalName_of_lookup sets.known
  rw [← List.count_pos_iff, Document.count_onName split sets (.conflict setting other), List.count_pos_iff,
    Assign.mem_conflict armed named]
  constructor
  · rintro ⟨t, isKept, excludes, named⟩
    exact ⟨t, excludes, named, (Document.mem_settings_declare split sets).mp isKept⟩
  · rintro ⟨t, excludes, named, declared⟩
    exact ⟨t, (Document.mem_settings_declare split sets).mpr declared, excludes, named⟩

/-- The expression excludes the group, and the group excludes nothing. -/
def oneSidedRegistry : Registry :=
  .of [{ displayName := "expression", type := .string, sample := "", excluded := ["group"] },
    { displayName := "group", type := .string, sample := "" }] [] []

def groupText : String :=
  "[series]\n  group = g\n  expression = x"

theorem conflicts_reported_behind :
    ∃ found, validate groupText oneSidedRegistry = .ok found ∧
      .error ⟨⟨2, 2⟩, ⟨2, 12⟩⟩ "expression can not be specified simultaneously with group" ∈ found := by
  obtain ⟨found, ran, reported⟩ := conflicts_reported oneSidedRegistry groupText
  have two : 1 < (Document.passings oneSidedRegistry groupText).length := by decide +kernel
  have three : 2 < (Document.passings oneSidedRegistry groupText).length := by decide +kernel
  obtain ⟨isRead, noTags, assigns, wasRead, hadNoTags, assigned, same, outside, number⟩ :
      let x := (Document.passings oneSidedRegistry groupText)[2]
      let y := (Document.passings oneSidedRegistry groupText)[1]
      x.before.control.reads x.line = true ∧ x.before.scope.holdsTags = false ∧
        Line.assignment? x.line = some ⟨⟨2, "expression".toList⟩, ⟨15, "x".toList⟩⟩ ∧
        y.before.control.reads y.line = true ∧ y.before.scope.holdsTags = false ∧
        Line.assignment? y.line = some ⟨⟨2, "group".toList⟩, ⟨10, "g".toList⟩⟩ ∧
        y.before.scope.current = x.before.scope.current ∧ y.before.blocks.isIn .ifBlock = false ∧ x.number = 2 := by
    decide +kernel +revert
  have sets : (Document.passings oneSidedRegistry groupText)[2].Sets oneSidedRegistry
      ⟨⟨2, "expression".toList⟩, ⟨15, "x".toList⟩⟩
      { displayName := "expression", type := .string, sample := "", excluded := ["group"] } :=
    ⟨isRead, assigns, rfl, noTags⟩
  have hadSet : (Document.passings oneSidedRegistry groupText)[1].Sets oneSidedRegistry
      ⟨⟨2, "group".toList⟩, ⟨10, "g".toList⟩⟩ { displayName := "group", type := .string, sample := "" } :=
    ⟨wasRead, assigned, rfl, hadNoTags⟩
  have told := (reported ((Document.passings oneSidedRegistry groupText).take 2)
      (Document.passings oneSidedRegistry groupText)[2] _
      (by rw [← List.drop_eq_getElem_cons three, List.take_append_drop]) _ _ sets "group").mpr
    ⟨_, by decide +kernel, rfl, (Document.passings oneSidedRegistry groupText)[1],
      List.mem_append_left _ (List.mem_take_iff_getElem.mpr ⟨1, Nat.lt_min.mpr ⟨by decide, two⟩, rfl⟩),
      same, outside, hadSet.declares rfl⟩
  rw [number] at told
  exact ⟨found, ran, told⟩

/-- In the other order nothing is reported, nor where both stand in one branch. -/
example :
    (validate "[series]\n  expression = x\n  group = g" oneSidedRegistry).toOption = some [] ∧
      (validate "[series]\nif a == b\n  group = g\n  expression = x\nendif" oneSidedRegistry).toOption = some [] := by
  decide +kernel

end ChartConfig
