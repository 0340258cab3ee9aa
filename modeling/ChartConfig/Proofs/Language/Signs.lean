import ChartConfig.Language.Assignment
import ChartConfig.Proofs.Hover
import ChartConfig.Proofs.Text.Lowering

/-!
# The sign of an assignment

An assignment and a hover both look for a name before a sign. A hover takes the first `=` of the line; an assignment
takes the first one with a name before it, a text of at least two characters that ends in a letter. So they split a line
at the same place exactly if what stands before the first sign is such a name; otherwise the name of the assignment
goes on past that sign.
-/

namespace ChartConfig

open Text

namespace Text

variable {c : Char}

theorem isBlank_of_isLowerLetter (letter : isLowerLetter c = true) : isBlank c = false := by
  have range := range_of_isLowerLetter letter
  simp only [isBlank, Bool.or_eq_false_iff, Bool.and_eq_false_iff, decide_eq_false_iff_not]
  omega

theorem trimEnd_cons (notBlank : isBlank c = false) (cs : List Char) : trimEnd (c :: cs) = c :: trimEnd cs := by
  cases blank : allBlank cs with
  | true =>
    have alone : trimEnd [c] = [c] := trimEnd_eq_self_iff.mpr (by simpa using notBlank)
    rw [trimEnd_eq_nil.mpr blank, ← List.singleton_append, trimEnd_append_blanks [c] (allBlank_iff.mp blank), alone]
  | false => rw [← List.singleton_append, trimEnd_append [c] blank, List.singleton_append]

end Text

/-! ## Where an assignment splits its line -/

namespace Assignment

/-- The sign found is one with a name before it, and no sign passed over has one. -/
theorem split_of_findSign {first : Nat} {before after : List Char} {a : Assignment}
    (found : findSign first before after = some a) :
    ∃ between rest, after = between ++ '=' :: rest ∧ a.name = ⟨first, trimEnd (before.reverse ++ between)⟩ ∧
      isName (trimEnd (before.reverse ++ between)) = true ∧
      ∀ early later, between = early ++ '=' :: later → isName (trimEnd (before.reverse ++ early)) = false := by
  induction after generalizing before with
  | nil => cases found
  | cons c after inductionHypothesis =>
    rw [findSign] at found
    split at found
    · next sign =>
      cases found
      simp only [Bool.and_eq_true, decide_eq_true_eq] at sign
      obtain ⟨⟨rfl, -⟩, named⟩ := sign
      refine ⟨[], after, rfl, by rw [List.append_nil], by rwa [List.append_nil], fun early later none => ?_⟩
      simp at none
    · next noSign =>
      obtain ⟨between, rest, rfl, name, named, passed⟩ := inductionHypothesis found
      rw [List.reverse_cons, List.append_assoc, List.singleton_append] at name named
      refine ⟨c :: between, rest, rfl, name, named, fun early later same => ?_⟩
      cases early with
      | nil =>
        obtain ⟨rfl, -⟩ := List.cons.inj same
        simpa using noSign
      | cons d early =>
        obtain ⟨rfl, -⟩ := List.cons.inj same
        simpa using passed early later (List.cons.inj same).2

end Assignment

theorem nameBeforeSign_of_sign {line early after : List Char} {c : Char} (notBlank : isBlank c = false)
    (text : trimStart line = c :: early ++ '=' :: after) (noSign : '=' ∉ c :: early) :
    NameBeforeSign line ⟨(leadingBlanks line).length, trimEnd (c :: early)⟩ := by
  have blank : ∀ d ∈ leadingBlanks line, isBlank d = true := fun d isThere => isBlank_of_mem_leadingBlanks isThere
  have leading : leadingBlanks (leadingBlanks line ++ c :: early) = leadingBlanks line := by
    rw [leadingBlanks, List.takeWhile_append_of_pos blank, List.takeWhile_cons_of_neg (by simp [notBlank]),
      List.append_nil]
  have trimmed : trim (leadingBlanks line ++ c :: early) = trimEnd (c :: early) := by
    rw [trim, trimStart_append blank, trimStart_eq_self_iff.mpr (by simpa using notBlank)]
  refine nameBeforeSign_iff.mpr ⟨leadingBlanks line ++ c :: early, beforeSign?_eq_some.mpr ⟨?_, after, ?_⟩, ?_, ?_⟩
  · rw [List.mem_append, not_or]
    exact ⟨sign_not_mem_of_blank blank, noSign⟩
  · rw [List.append_assoc, ← text, leadingBlanks_append_trimStart]
  · rw [trimmed, Ne, trimEnd_eq_nil, allBlank_iff]
    intro allBlank
    rw [allBlank c (List.mem_cons_self ..)] at notBlank
    cases notBlank
  · rw [leading, trimmed]

theorem Line.name_of_assignment? {line : List Char} {a : Assignment} (assigns : Line.assignment? line = some a) :
    ∃ name, NameBeforeSign line name ∧
      ((Assignment.isName name.text = true ∧ a.name = name) ∨
        (Assignment.isName name.text = false ∧ '=' ∈ a.name.text ∧ a.name.column = name.column ∧
          name.stop < a.name.stop)) := by
  simp only [Line.assignment?] at assigns
  split at assigns
  · next c cs text =>
    split at assigns
    · next letter =>
      have notBlank := isBlank_of_isLowerLetter letter
      have notSign : '=' ≠ c := by
        rintro rfl
        cases letter
      obtain ⟨between, rest, rfl, name, named, passed⟩ := Assignment.split_of_findSign assigns
      rw [List.reverse_singleton, List.singleton_append] at name named
      by_cases sign : '=' ∈ between
      · -- The search has gone past the first sign, so nothing before that sign is a name.
        obtain ⟨early, later, rfl, noSign⟩ := List.eq_append_cons_of_mem sign
        have whole : trimEnd (c :: (early ++ '=' :: later)) = c :: early ++ '=' :: trimEnd later := by
          have goesOn : allBlank ('=' :: later) = false := by simp [allBlank, show isBlank '=' = false by decide]
          rw [← List.cons_append, trimEnd_append (c :: early) goesOn, trimEnd_cons (by decide)]
        have before : trimStart line = c :: early ++ '=' :: (later ++ '=' :: rest) := by simpa using text
        refine ⟨_, nameBeforeSign_of_sign notBlank before (by simp [notSign, noSign]), .inr ⟨?_, ?_, ?_, ?_⟩⟩
        · simpa using passed early later rfl
        · simp [name, whole]
        · rw [name]
        · have shorter := (prefix_trimEnd (c :: early)).length_le
          simp only [name, whole, Piece.stop, List.length_append, List.length_cons] at shorter ⊢
          omega
      · exact ⟨_, nameBeforeSign_of_sign notBlank text (by simp [notSign, sign]), .inl ⟨named, name⟩⟩
    · cases assigns
  · cases assigns

/-! ## Letter case -/

theorem beforeSign?_lowered (line : List Char) :
    Hover.beforeSign? (lowered line) = (Hover.beforeSign? line).map lowered := by
  have isSign (c : Char) : c.toLower = '=' ↔ c = '=' := toLower_eq_iff (by decide)
  have sameSign : (lowered line).contains '=' = line.contains '=' := by
    simp [lowered, isSign]
  have sameStop : (fun c : Char => c != '=') ∘ Char.toLower = fun c => c != '=' := by
    funext c
    exact congrArg not (Bool.eq_iff_iff.mpr (by simpa using isSign c))
  rw [Hover.beforeSign?, Hover.beforeSign?, sameSign]
  split
  · rw [Option.map_some, lowered, List.takeWhile_map, sameStop, lowered]
  · rfl

theorem NameBeforeSign.of_lowered {line : List Char} {p : Piece} (named : NameBeforeSign (lowered line) p) :
    ∃ name, NameBeforeSign line name ∧ p = ⟨name.column, lowered name.text⟩ := by
  obtain ⟨before, found, nonempty, rfl⟩ := nameBeforeSign_iff.mp named
  rw [beforeSign?_lowered, Option.map_eq_some_iff] at found
  obtain ⟨before, found, rfl⟩ := found
  rw [trim_lowered, leadingBlanks_lowered] at *
  refine ⟨_, nameBeforeSign_iff.mpr ⟨before, found, ?_, rfl⟩, rfl⟩
  rintro nothing
  exact nonempty (by rw [nothing]; rfl)

theorem Registry.lookup_lowered (r : Registry) (column : Nat) (name : List Char) :
    r.lookup (Piece.word ⟨column, lowered name⟩) = r.lookup (Piece.word ⟨column, name⟩) := by
  have same : canonicalName (Piece.word ⟨column, lowered name⟩) = canonicalName (Piece.word ⟨column, name⟩) := by
    rw [canonicalName, canonicalName, Piece.word, Piece.word, String.toList_ofList, String.toList_ofList, ← lowered,
      ← lowered, lowered_lowered]
  rw [Tables.lookup_eq_stored?, Tables.lookup_eq_stored?, same]

/-! ## Assignments and hovers -/

theorem Hover.find?_eq {text : String} {line : List Char} {number : Nat}
    (isLine : (Document.lines text)[number]? = some line) (column : Nat) (r : Registry) :
    find? text ⟨number, column⟩ r = onLine line ⟨number, column⟩ r := by
  rw [find?, isLine]
  rfl

/-- A line assigns to the name before its first sign exactly if that text, in lower case, has two characters at least and
    ends in a letter; otherwise the name assigned to goes on past a sign. And where the name assigned to is the name of a
    setting, all of its columns have the description of that setting for a hover, with the range of the name, exactly in
    the first case. -/
theorem split_at_first_sign {line : List Char} {a : Assignment} (assigns : Line.assignment? (lowered line) = some a) :
    ∃ name, NameBeforeSign line name ∧ a.name.column = name.column ∧
      (a.name.text = lowered name.text ↔ Assignment.isName (lowered name.text) = true) ∧
      ('=' ∈ a.name.text ↔ Assignment.isName (lowered name.text) = false) ∧
      ∀ text number r setting, (Document.lines text)[number]? = some line → r.lookup a.name.word = some setting →
        ((∀ column, a.name.column ≤ column → column < a.name.stop →
            Hover.find? text ⟨number, column⟩ r = some ⟨setting.description, a.name.range number⟩) ↔
          Assignment.isName (lowered name.text) = true) := by
  obtain ⟨p, lowNamed, split⟩ := Line.name_of_assignment? assigns
  obtain ⟨name, named, rfl⟩ := lowNamed.of_lowered
  have noSign : '=' ∉ lowered name.text := lowNamed.sign_not_mem
  have sameStop : Piece.stop ⟨name.column, lowered name.text⟩ = name.stop := by simp [Piece.stop, lowered]
  refine ⟨name, named, ?_⟩
  rcases split with ⟨isName, same⟩ | ⟨notName, goesOn, column, longer⟩
  · rw [same, isName]
    refine ⟨rfl, by simp, by simpa using noSign, fun text number r setting isLine isSetting => ?_⟩
    simp only [iff_true]
    intro column first last
    rw [sameStop] at last
    rw [Registry.lookup_lowered] at isSetting
    have inside : (name.range number).contains ⟨number, column⟩ = true :=
      (contains_onLine name ⟨number, column⟩).mpr ⟨first, last⟩
    rw [Hover.find?_eq isLine, named.onLine_eq, isSetting, Option.bind_some, if_pos inside, Piece.range, Piece.range,
      sameStop]
  · rw [notName]
    refine ⟨column, ?_, by simpa using goesOn, fun text number r setting isLine isSetting => ?_⟩
    · simp only [Bool.false_eq_true, iff_false]
      intro same
      exact noSign (same ▸ goesOn)
    · simp only [Bool.false_eq_true, iff_false]
      intro always
      have leads : a.name.column < a.name.stop := by
        rw [column]
        exact (Nat.le_add_right ..).trans_lt longer
      have found := always a.name.column (Nat.le_refl _) leads
      rw [Hover.find?_eq isLine, named.onLine_eq, Option.bind_eq_some_iff] at found
      obtain ⟨other, -, found⟩ := found
      split at found
      · have sameRange := congrArg Hover.range (Option.some.inj found)
        have sameEnd : name.stop = a.name.stop := congrArg (fun range => range.stop.character) sameRange
        omega
      · cases found

/-- A name with a capital letter behind a blank that is no space, and a value with a sign of its own. -/
theorem split_at_first_sign_zone :
    let text := "\u00A0Time-Zone = a = b"
    let line := text.toList
    let a : Assignment := ⟨⟨1, "time-zone".toList⟩, ⟨13, "a = b".toList⟩⟩
    let setting : Setting :=
      { displayName := "timezone", type := .string, sample := "UTC", description := "Zone of all times." }
    let r : Registry := .of [setting] [] [] (by simp [setting])
    Line.assignment? (lowered line) = some a ∧ (Document.lines text)[0]? = some line ∧
      (r.lookup a.name.word).map Setting.displayName = some "timezone" ∧
      Hover.find? text ⟨0, 4⟩ r = some ⟨"Zone of all times.", Range.onLine 0 1 10⟩ := by
  intro text line a setting r
  have assigns : Line.assignment? (lowered line) = some a := by decide
  have isLine : (Document.lines text)[0]? = some line := by decide
  have isSetting : r.lookup a.name.word = some setting := by
    have spelled : canonicalName a.name.word = setting.name := by decide
    rw [Tables.lookup_eq_stored?, spelled]
    exact (tableValue?_insert [] setting.name setting setting.name).trans (if_pos rfl)
  obtain ⟨name, -, -, -, goesOn, hovers⟩ := split_at_first_sign assigns
  have isName : Assignment.isName (lowered name.text) = true := by
    rw [← Bool.not_eq_false, ← goesOn]
    decide
  refine ⟨assigns, isLine, by rw [isSetting]; rfl, ?_⟩
  exact (hovers text 0 r setting isLine isSetting).mpr isName 4 (by decide) (by decide)

/-- The text before the first sign ends in a digit, so the name goes on to the next sign. -/
example :
    Line.assignment? "title1 = a = b".toList = some ⟨⟨0, "title1 = a".toList⟩, ⟨13, "b".toList⟩⟩ := by
  decide

end ChartConfig
