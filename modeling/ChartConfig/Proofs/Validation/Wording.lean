import ChartConfig.Proofs.Validation.AtName

/-!
# Wordings at a name

At the name of a setting a run can remark on blanks in the name, on a repetition, on the value and on settings that
exclude each other. Except for a few fixed texts, these messages begin with the name, in one spelling or another, so they
are told apart by a letter that comes behind it. Hence a repetition is told once or never, and settings that exclude
each other are told just in case the setting excludes one that is kept.
-/

namespace ChartConfig

open Text Finding

/-! ## Messages that differ -/

/-- One letter of the canonical spelling of a text. -/
def Message.letter? (text : String) (place : Nat) : Option Char :=
  (canonicalName text).toList[place]?

namespace Message

theorem toList_canonicalName_append (first second : String) :
    (canonicalName (first ++ second)).toList = (canonicalName first).toList ++ (canonicalName second).toList := by
  simp [canonicalName]

theorem letter?_opening {opening : String} {place : Nat} {c : Char} (spelled : letter? opening place = some c)
    (rest : String) : letter? (opening ++ rest) place = some c := by
  have inOpening := (List.getElem?_eq_some_iff.mp spelled).1
  rw [letter?, toList_canonicalName_append, List.getElem?_append_left inOpening]
  exact spelled

theorem head?_opening {opening : String} {c : Char} (begins : opening.toList.head? = some c) (rest : String) :
    (opening ++ rest).toList.head? = some c := by
  rw [String.toList_append, List.head?_append, begins, Option.some_or]

/-- Messages that begin with one name, spelled in any two ways, differ if a letter behind the name does. -/
theorem ne_of_letter {name other ending tail : String} (same : canonicalName name = canonicalName other) (place : Nat)
    (apart : letter? ending place ≠ letter? tail place) : name ++ ending ≠ other ++ tail := by
  intro worded
  have spelled := congrArg (fun message => (canonicalName message).toList) worded
  simp only [toList_canonicalName_append, same] at spelled
  exact apart (congrArg (·[place]?) (List.append_cancel_left spelled))

end Message

/-- An error in a value begins with the name, and then goes on in one of three ways. -/
theorem Fault.message_cases {fault : Fault} (isError : fault.severity = .error) (setting : Setting) (name : String) :
    fault.message setting name = name ++ " can not be empty" ∨
      ∃ ending, fault.message setting name = name ++ ending ∧
        (Message.letter? ending 0 = some 's' ∨ Message.letter? ending 0 = some 'm') := by
  have should (opening rest : String) (spelled : Message.letter? opening 0 = some 's') :
      ∃ ending, name ++ opening ++ rest = name ++ ending ∧
        (Message.letter? ending 0 = some 's' ∨ Message.letter? ending 0 = some 'm') :=
    ⟨_, String.append_assoc, .inl (Message.letter?_opening spelled rest)⟩
  cases fault with
  | empty => exact .inl rfl
  | bareSeconds => cases isError
  | notChosen =>
    have spelled : Message.letter? " must be one of:\n" 0 = some 'm' := by decide
    exact .inr ⟨_, String.append_assoc, .inr (Message.letter?_opening spelled _)⟩
  | _ => exact .inr (should _ _ (by decide))

namespace Message

variable {name other : String}

theorem letter?_alreadyDefined : letter? " is already defined" 0 = some 'i' := by decide

theorem letters_conflict (other : String) :
    letter? (" can not be specified simultaneously with " ++ other) 0 = some 'c' ∧
      letter? (" can not be specified simultaneously with " ++ other) 8 = some 's' :=
  ⟨letter?_opening (by decide) other, letter?_opening (by decide) other⟩

theorem letters_empty : letter? " can not be empty" 0 = some 'c' ∧ letter? " can not be empty" 8 = some 'e' := by
  decide

theorem alreadyDefined_ne_conflict (same : canonicalName name = canonicalName other) (excluded : String) :
    alreadyDefined name ≠ conflict other excluded := by
  intro worded
  refine ne_of_letter same 0 ?_ (worded.trans String.append_assoc)
  rw [letter?_alreadyDefined, (letters_conflict excluded).1]
  decide

theorem alreadyDefined_ne_fault {fault : Fault} (isError : fault.severity = .error) (setting : Setting) :
    alreadyDefined name ≠ fault.message setting name := by
  intro worded
  rcases fault.message_cases isError setting name with empty | ⟨ending, message, spelled⟩
  · refine ne_of_letter rfl 0 ?_ (worded.trans empty)
    rw [letter?_alreadyDefined, letters_empty.1]
    decide
  · refine ne_of_letter rfl 0 ?_ (worded.trans message)
    rcases spelled with spelled | spelled <;> rw [letter?_alreadyDefined, spelled] <;> decide

theorem conflict_ne_fault (same : canonicalName name = canonicalName other) (excluded : String) {fault : Fault}
    (isError : fault.severity = .error) (setting : Setting) :
    conflict name excluded ≠ fault.message setting other := by
  intro worded
  have worded := String.append_assoc.symm.trans worded
  rcases fault.message_cases isError setting other with empty | ⟨ending, message, spelled⟩
  · refine ne_of_letter same 8 ?_ (worded.trans empty)
    rw [(letters_conflict excluded).2, letters_empty.2]
    decide
  · refine ne_of_letter same 0 ?_ (worded.trans message)
    rcases spelled with spelled | spelled <;> rw [(letters_conflict excluded).1, spelled] <;> decide

theorem alreadyDefined_ne_scriptNeedsBreak : alreadyDefined name ≠ scriptNeedsBreak := by
  intro worded
  have ending := congrArg (fun message => message.toList.reverse[2]?) worded
  simp only [alreadyDefined, String.toList_append, List.reverse_append] at ending
  rw [List.getElem?_append_left (by decide)] at ending
  exact absurd ending (by decide)

end Message

namespace Setting

variable (setting : Setting) (range : Range) (name : String)

theorem repetition_cases : setting.repetition range name = .error range (Message.alreadyDefined name) ∨
    ∃ hint, setting.repetition range name = .warning range hint ∧
      (hint.toList.head? = some 'M' ∨ hint.toList.head? = some 'R') := by
  unfold repetition
  split
  · exact .inr ⟨_, rfl, .inl (by decide)⟩
  split
  · exact .inr ⟨_, rfl, .inr (Message.head?_opening (by decide) _)⟩
  split
  · exact .inr ⟨_, rfl, .inr (Message.head?_opening (by decide) _)⟩
  · exact .inl rfl

end Setting

namespace Assign

variable {r : Registry} {number : Nat} {s : State} {a : Assignment} {setting : Setting} {other : String}

theorem mem_toldOfName {d : Diagnostic} (told : d ∈ diagnostics (toldOfName number a)) :
    d = .warning (a.name.range number) (Message.settingWithBlanks a.name.word) := by
  unfold toldOfName at told
  split at told
  · exact List.mem_singleton.mp told
  · cases told

theorem mem_toldOfValue {d : Diagnostic} (told : d ∈ diagnostics (toldOfValue number a setting)) :
    ∃ fault : Fault, d = ⟨a.name.range number, fault.severity, fault.message setting a.name.word⟩ := by
  unfold toldOfValue at told
  split at told
  · cases told
  · unfold Setting.check at told
    cases faulty : setting.fault? a.value.text with
    | none =>
      rw [faulty] at told
      cases told
    | some fault =>
      rw [faulty] at told
      exact ⟨fault, List.mem_singleton.mp told⟩

theorem mem_conflicts {d : Diagnostic} {scope : Scope} {range : Range} :
    d ∈ diagnostics (scope.conflicts setting range) ↔ ∃ t ∈ scope.settings, setting.excludes t = true ∧
      d = .error range (Message.conflict setting.displayName t.displayName) := by
  have told : diagnostics (scope.conflicts setting range) = (scope.settings.filter setting.excludes).map fun t =>
      .error range (Message.conflict setting.displayName t.displayName) :=
    diagnostics_map_error (fun _ => range) _ _
  rw [told]
  simp only [List.mem_map, List.mem_filter, and_assoc, eq_comm]

theorem repetition_notMem (number : Nat) (known : canonicalName a.name.word = canonicalName setting.displayName) (scope : Scope) :
    setting.repetition (a.name.range number) a.name.word ∉ diagnostics (toldOfName number a) ∧
      setting.repetition (a.name.range number) a.name.word ∉ diagnostics (toldOfValue number a setting) ∧
      setting.repetition (a.name.range number) a.name.word ∉
        diagnostics (scope.conflicts setting (a.name.range number)) := by
  rcases setting.repetition_cases (a.name.range number) a.name.word with isError | ⟨hint, isHint, begins⟩
  · rw [isError]
    refine ⟨fun told => ?_, fun told => ?_, fun told => ?_⟩
    · exact nomatch congrArg Diagnostic.severity (mem_toldOfName told)
    · obtain ⟨fault, same⟩ := mem_toldOfValue told
      have isError : fault.severity = .error := (congrArg Diagnostic.severity same).symm
      exact Message.alreadyDefined_ne_fault isError setting (congrArg Diagnostic.message same)
    · obtain ⟨t, -, -, same⟩ := mem_conflicts.mp told
      exact Message.alreadyDefined_ne_conflict known t.displayName (congrArg Diagnostic.message same)
  · rw [isHint]
    refine ⟨fun told => ?_, fun told => ?_, fun told => ?_⟩
    · have worded : hint = Message.settingWithBlanks a.name.word := congrArg Diagnostic.message (mem_toldOfName told)
      have opening : hint.toList.head? = some 'T' := by
        rw [worded]
        exact Message.head?_opening (Message.head?_opening (Message.head?_opening (Message.head?_opening
          (by decide) _) _) _) _
      rw [opening] at begins
      exact absurd begins (by decide)
    · obtain ⟨fault, same⟩ := mem_toldOfValue told
      have worded : hint = fault.message setting a.name.word := congrArg Diagnostic.message same
      cases fault with
      | bareSeconds =>
        have opening : hint.toList.head? = some 'S' := worded ▸ Message.head?_opening (by decide) _
        rw [opening] at begins
        exact absurd begins (by decide)
      | _ => exact nomatch congrArg Diagnostic.severity same
    · obtain ⟨t, -, -, same⟩ := mem_conflicts.mp told
      exact nomatch congrArg Diagnostic.severity same

theorem count_repetition (armed : s.control.Armed) (known : canonicalName a.name.word = canonicalName setting.displayName) :
    (diagnostics ((declaring r number a setting).found s)).count
        (setting.repetition (a.name.range number) a.name.word) =
      if !setting.multiLine && (s.scope.addCounterpart r setting).repeats s.control.branch? setting then 1 else 0 := by
  obtain ⟨ofName, ofValue, ofConflicts⟩ := repetition_notMem number known
    (Ledger.declare s.scope r s.control.branch? setting)
  simp only [found_declaring armed, diagnostics_append, List.count_append, List.count_eq_zero.mpr ofName,
    List.count_eq_zero.mpr ofValue, List.count_eq_zero.mpr ofConflicts, Nat.zero_add, Nat.add_zero]
  split
  · exact List.count_singleton_self
  · rfl

theorem mem_conflict (armed : s.control.Armed) (known : canonicalName a.name.word = canonicalName setting.displayName) :
    Diagnostic.error (a.name.range number) (Message.conflict setting.displayName other) ∈
        diagnostics ((declaring r number a setting).found s) ↔
      ∃ t ∈ (Ledger.declare s.scope r s.control.branch? setting).settings,
        setting.excludes t = true ∧ t.displayName = other := by
  have named : canonicalName setting.displayName = canonicalName a.name.word := known.symm
  simp only [found_declaring armed, diagnostics_append, List.mem_append]
  constructor
  · rintro (((told | told) | told) | told)
    · exact nomatch congrArg Diagnostic.severity (mem_toldOfName told)
    · split at told
      · rcases setting.repetition_cases (a.name.range number) a.name.word with isError | ⟨hint, isHint, -⟩
        · have same := (List.mem_singleton.mp told).trans isError
          exact absurd (congrArg Diagnostic.message same).symm (Message.alreadyDefined_ne_conflict named.symm other)
        · exact nomatch congrArg Diagnostic.severity ((List.mem_singleton.mp told).trans isHint)
      · cases told
    · obtain ⟨fault, same⟩ := mem_toldOfValue told
      have isError : fault.severity = .error := (congrArg Diagnostic.severity same).symm
      exact absurd (congrArg Diagnostic.message same) (Message.conflict_ne_fault named other isError setting)
    · obtain ⟨t, isKept, excludes, same⟩ := mem_conflicts.mp told
      have worded := congrArg (fun d => d.message.toList) same
      simp only [Diagnostic.error, Message.conflict, String.toList_append, List.append_cancel_left_eq] at worded
      exact ⟨t, isKept, excludes, (String.toList_inj.mp worded).symm⟩
  · rintro ⟨t, isKept, excludes, rfl⟩
    exact .inr (mem_conflicts.mpr ⟨t, isKept, excludes, rfl⟩)

end Assign

/-! ## What is told at the name -/

namespace Diagnostic.OnName

variable {number : Nat} {a : Assignment}

theorem repetition (setting : Setting) :
    (setting.repetition (a.name.range number) a.name.word).OnName number a := by
  have isRemark : ∃ remark : Remark .edits, remark.isDisorder = false ∧ remark.severity ≠ .information ∧
      remark.message a.name.word ≠ Message.scriptNeedsBreak ∧
      setting.repetition (a.name.range number) a.name.word = remark.on number a.name := by
    unfold Setting.repetition
    split
    · exact ⟨.repeatedScript, rfl, nofun, (by decide : Message.repeatedScript ≠ Message.scriptNeedsBreak), rfl⟩
    split
    · exact ⟨.repeatedThresholds, rfl, nofun, (by decide : Message.repeatedThresholds ≠ Message.scriptNeedsBreak), rfl⟩
    split
    · exact ⟨.repeatedColors, rfl, nofun, (by decide : Message.repeatedColors ≠ Message.scriptNeedsBreak), rfl⟩
    · exact ⟨.alreadyDefined, rfl, nofun, Message.alreadyDefined_ne_scriptNeedsBreak, rfl⟩
  obtain ⟨remark, noDisorder, severity, noBreak, same⟩ := isRemark
  exact same ▸ ⟨rfl, severity, remark.not_isStructural noDisorder number a.name, noBreak⟩

theorem conflict (setting : Setting) (other : String) :
    (Diagnostic.error (a.name.range number) (Message.conflict setting.displayName other)).OnName number a := by
  refine ⟨rfl, nofun, (.conflict setting { setting with displayName := other } : Remark .edits).not_isStructural rfl number a.name,
    fun worded => ?_⟩
  have inMessage : 'b' ∈ (Message.conflict setting.displayName other).toList := mem_wording (by decide)
  rw [show Message.conflict setting.displayName other = _ from worded] at inMessage
  exact absurd inMessage (by decide)

end Diagnostic.OnName

end ChartConfig
