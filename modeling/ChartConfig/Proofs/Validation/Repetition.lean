import ChartConfig.Proofs.Validation.Kept
import ChartConfig.Proofs.Validation.Required
import ChartConfig.Proofs.Validation.Wording

/-!
# Repetitions

A setting that may not be repeated is told to be one at every declaration in its section but the first. The settings that
the section keeps are those that its lines have declared, so what is reported can be counted line by line, and tags that
stand between the declarations make no difference.
-/

namespace ChartConfig

open Text Finding

/-! ## Declarations -/

/-- The name by which the line declares the setting in the given section, while no `if` is open. -/
def Passing.declaration? (current : Option Header) (setting : Setting) (x : Passing) : Option Mention :=
  if x.before.scope.current = current ∧ x.before.blocks.isIn .ifBlock = false ∧ x.before.control.reads x.line = true ∧
      x.before.scope.holdsTags = false then
    ((Line.assignment? x.line).filter fun a => canonicalName a.name.word == setting.name).map fun a =>
      ⟨a.name.word, a.name.range x.number⟩
  else none

def Document.declarations (r : Registry) (text : String) (current : Option Header) (setting : Setting) : List Mention :=
  (passings r text).filterMap (Passing.declaration? current setting)

namespace Passing

variable {r : Registry} {x : Passing} {current : Option Header} {word : String} {setting : Setting} {m : Mention}

theorem sets_of_declaration? (known : r.lookup word = some setting)
    (declared : x.declaration? current setting = some m) :
    ∃ a, x.Sets r a setting ∧ m = ⟨a.name.word, a.name.range x.number⟩ ∧ x.before.scope.current = current ∧
      x.before.blocks.isIn .ifBlock = false := by
  unfold declaration? at declared
  split at declared
  · next inSection =>
    obtain ⟨here, outside, isRead, noTags⟩ := inSection
    obtain ⟨a, isAssigned, rfl⟩ := Option.map_eq_some_iff.mp declared
    obtain ⟨assigns, named⟩ := Option.filter_eq_some_iff.mp isAssigned
    refine ⟨a, ⟨isRead, assigns, ?_, noTags⟩, rfl, here, outside⟩
    rw [← known, Tables.lookup_eq_stored?, Tables.lookup_eq_stored?, beq_iff_eq.mp named, Registry.name_of_lookup known]
  · cases declared

theorem declaration?_isSome (known : r.lookup word = some setting) (once : setting.multiLine = false) :
    (x.declaration? current setting).isSome ↔ x.Records r current setting := by
  constructor
  · intro declared
    obtain ⟨m, isName⟩ := Option.isSome_iff_exists.mp declared
    obtain ⟨a, sets, -, here, outside⟩ := sets_of_declaration? known isName
    exact ⟨here, outside, sets.declares once⟩
  · intro records
    obtain ⟨a, sets⟩ := records.declares.sets
    have named := Registry.name_of_lookup sets.known
    simp [declaration?, records.here, records.outside, sets.isRead, sets.noTags, sets.assigns, named]

end Passing

namespace Document

variable {r : Registry} {text : String} {before after : List Passing} {x : Passing} {current : Option Header}
  {word : String} {setting : Setting} {m : Mention}

theorem isIn_settings_iff (known : r.lookup word = some setting) (once : setting.multiLine = false)
    (split : passings r text = before ++ x :: after) (here : x.before.scope.current = current) :
    setting.isIn x.before.scope.settings = true ↔ ∃ y ∈ before, (y.declaration? current setting).isSome := by
  have accounts := (reached_of_split split).1.accounts
  simp only [Passing.declaration?_isSome known once, Setting.isIn, List.any_eq_true]
  constructor
  · rintro ⟨other, isKept, same⟩
    obtain ⟨y, isPassed, records⟩ := (accounts.settings other).mp isKept
    obtain ⟨a, -, knownToo⟩ := records.declares.assigns
    obtain rfl := Registry.eq_of_lookup known knownToo (beq_iff_eq.mp same)
    exact ⟨y, isPassed, here ▸ records⟩
  · rintro ⟨y, isPassed, records⟩
    exact ⟨setting, (accounts.settings setting).mpr ⟨y, isPassed, here ▸ records⟩, beq_self_eq_true _⟩

theorem count_repetition (known : r.lookup word = some setting) (once : setting.multiLine = false)
    (split : passings r text = before ++ x :: after) (declared : x.declaration? current setting = some m) :
    ((acts r text).flatMap (Act.said r)).count (setting.repetition m.range m.name) =
      if ∃ y ∈ before, (y.declaration? current setting).isSome then 1 else 0 := by
  obtain ⟨a, sets, rfl, here, outside⟩ := Passing.sets_of_declaration? known declared
  have armed : (x.before.noting a).control.Armed := (reached_of_split split).1.armed
  have named := Registry.canonicalName_of_lookup sets.known
  have free : (x.before.noting a).control.branch? = none := by
    simp [Control.branch?, State.control, State.noting, outside]
  have repeats : ((x.before.noting a).scope.addCounterpart r setting).repeats none setting =
      setting.isIn x.before.scope.settings := by
    simp only [Scope.repeats, Scope.record, Scope.addCounterpart_settings, State.noting]
    cases setting.isIn x.before.scope.settings <;> rfl
  rw [count_onName split sets (.repetition setting), Assign.count_repetition armed named, free, repeats, once]
  simp only [Bool.not_false, Bool.true_and, isIn_settings_iff known once split here]

end Document

/-- Nothing is kept twice. And of the declarations of a setting in one section, outside conditions, each but the first is
    reported once, and the first is not. -/
theorem repetitions_counted (r : Registry) (text : String) :
    (∀ x ∈ Document.passings r text, x.before.scope.Unrepeated ∧ x.after.scope.Unrepeated) ∧
      ∃ found, validate text r = .ok found ∧
        ∀ current word setting, r.lookup word = some setting → setting.multiLine = false →
          ∀ first rest, Document.declarations r text current setting = first :: rest →
            found.count (setting.repetition first.range first.name) = 0 ∧
              ∀ m ∈ rest, found.count (setting.repetition m.range m.name) = 1 := by
  refine ⟨fun x isPassed => ?_, _, validate_eq_acts r text, ?_⟩
  · obtain ⟨before, after, split⟩ := List.append_of_mem isPassed
    obtain ⟨reached, reachedAfter, -⟩ := Document.reached_of_split split
    exact ⟨reached.unrepeated, reachedAfter.unrepeated⟩
  · intro current word setting known once first rest areDeclared
    obtain ⟨before, x, after, split, none, isFirst, rfl⟩ := List.filterMap_eq_cons_iff.mp areDeclared
    refine ⟨?_, fun m member => ?_⟩
    · rw [Document.count_repetition known once split isFirst, if_neg]
      rintro ⟨y, isEarlier, declared⟩
      rw [none y isEarlier] at declared
      cases declared
    · obtain ⟨y, isLater, declared⟩ := List.mem_filterMap.mp member
      obtain ⟨between, later, rfl⟩ := List.append_of_mem isLater
      have splitLater : Document.passings r text = (before ++ x :: between) ++ y :: later := by simp [split]
      rw [Document.count_repetition known once splitLater declared, if_pos]
      exact ⟨x, by simp, isFirst ▸ rfl⟩

/-- A series that declares its entity once before its tags and twice behind them. -/
def taggedText : String :=
  "[series]\n  entity = a\n  [tags]\n    k = v\n\n  entity = b\n  entity = c"

theorem repetitions_counted_tags :
    ∃ found, validate taggedText chartRegistry = .ok found ∧
      found.count (.error ⟨⟨1, 2⟩, ⟨1, 8⟩⟩ "entity is already defined") = 0 ∧
      found.count (.error ⟨⟨5, 2⟩, ⟨5, 8⟩⟩ "entity is already defined") = 1 ∧
      found.count (.error ⟨⟨6, 2⟩, ⟨6, 8⟩⟩ "entity is already defined") = 1 := by
  have known : chartRegistry.lookup "entity" = some { displayName := "entity", type := .string, sample := "" } := rfl
  have declared : Document.declarations chartRegistry taggedText (some ⟨"series", ⟨⟨0, 1⟩, ⟨0, 7⟩⟩⟩)
      { displayName := "entity", type := .string, sample := "" } =
        [⟨"entity", ⟨⟨1, 2⟩, ⟨1, 8⟩⟩⟩, ⟨"entity", ⟨⟨5, 2⟩, ⟨5, 8⟩⟩⟩, ⟨"entity", ⟨⟨6, 2⟩, ⟨6, 8⟩⟩⟩] := by
    decide +kernel
  obtain ⟨-, found, ran, counted⟩ := repetitions_counted chartRegistry taggedText
  obtain ⟨first, rest⟩ := counted _ _ _ known rfl _ _ declared
  simp only [List.forall_mem_cons] at rest
  exact ⟨found, ran, first, rest.1, rest.2.1⟩

end ChartConfig
