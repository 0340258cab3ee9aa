import ChartConfig.Proofs.Language.Spacing

/-!
# How keywords may be spelled

A keyword is read off a word by lowering its ASCII letters, and a line is classified by folding the case of its leading
word. The two ways differ in one letter: the long s folds to `s`, and lowering leaves it alone. (The Kelvin sign folds to
`k`, but no keyword has that letter.) So the classifiers see the keyword that the line would begin with if every long s
were a plain one, and they agree with the keyword that is read unless the leading word has a long s.
-/

namespace ChartConfig

open Text

namespace Text

variable {c d : Char}

/-! ## What folds to a letter -/

theorem shifted_cases (n : Nat) (shifts : List Shift) :
    shifted n shifts = n ∨
      ∃ s ∈ shifts, s.first ≤ n ∧ n ≤ s.last ∧ shifted n shifts = (n + s.distance).toNat := by
  induction shifts with
  | nil => exact .inl rfl
  | cons s shifts inductionHypothesis =>
    rw [shifted]
    split
    · exact .inl rfl
    · next reached =>
      split
      · next covered =>
        split
        · exact .inr ⟨s, List.mem_cons_self .., Nat.le_of_not_lt reached, covered, rfl⟩
        · exact .inl rfl
      · rcases inductionHypothesis with same | ⟨other, isThere, moves⟩
        · exact .inl same
        · exact .inr ⟨other, List.mem_cons_of_mem _ isThere, moves⟩

/-- Two characters beyond ASCII fold into it, the long s and the Kelvin sign. -/
theorem foldShifts_toAscii : ∀ s ∈ foldShifts,
    128 ≤ s.first + s.distance ∨ s = ⟨0x017F, 0x017F, 1, -268⟩ ∨ s = ⟨0x212A, 0x212A, 1, -8383⟩ := by
  decide +kernel

theorem range_of_letter {n : Nat} (letter : isLowerLetter (Char.ofNat n) = true) : 97 ≤ n ∧ n ≤ 122 := by
  by_cases valid : n.isValidChar
  · have code : (Char.ofNat n).toNat = n := by
      rw [Char.ofNat, dif_pos valid]
      rfl
    have range := range_of_isLowerLetter letter
    rwa [code] at range
  · rw [Char.ofNat, dif_neg valid] at letter
    cases letter

/-- Beyond ASCII, only the long s and the Kelvin sign fold to a small letter. -/
theorem foldCase_beyond (beyond : 128 ≤ c.toNat) (letter : isLowerLetter (foldCase c) = true) :
    c = 'ſ' ∨ c = '\u212A' := by
  have named {n : Nat} (same : c.toNat = n) : c = Char.ofNat n := by rw [← same, Char.ofNat_toNat]
  rw [foldCase, if_neg (by omega)] at letter
  have range := range_of_letter letter
  obtain same | ⟨s, isThere, first, last, moved⟩ := shifted_cases c.toNat foldShifts
  · omega
  · rcases foldShifts_toAscii s isThere with far | rfl | rfl
    · omega
    · exact .inl (named (Nat.le_antisymm last first))
    · exact .inr (named (Nat.le_antisymm last first))

/-- The character with a long s taken for a plain one. -/
def plainS (c : Char) : Char :=
  if c = 'ſ' then 's' else c

/-- A character folds to a small letter if it is that letter up to the case of ASCII, or the long s for `s`. No keyword
    has the letter that the Kelvin sign folds to. -/
theorem foldCase_eq_letter_iff (letter : isLowerLetter d = true) (other : d ≠ 'k') :
    foldCase c = d ↔ (plainS c).toLower = d := by
  by_cases ascii : c.toNat < 128
  · have plain : plainS c = c := if_neg fun isLong => by
      rw [isLong] at ascii
      exact absurd ascii (by decide)
    rw [foldCase, if_pos ascii, plain]
  · by_cases isLong : c = 'ſ'
    · have folds : foldCase 'ſ' = 's' := by decide
      rw [isLong, folds]
      rfl
    · have plain : (plainS c).toLower = c := by
        rw [plainS, if_neg isLong, toLower_of_not_upper (by omega)]
      rw [plain]
      constructor
      · intro folds
        rcases foldCase_beyond (Nat.le_of_not_lt ascii) (folds ▸ letter) with long | rfl
        · exact absurd long isLong
        · have isKelvin : foldCase '\u212A' = 'k' := by decide +kernel
          exact absurd (folds.symm.trans isKelvin) other
      · rintro rfl
        have small : isLowerLetter c.toLower = true := by rwa [toLower_of_not_upper (by omega)]
        have range := letter_of_toLower small
        omega

theorem isGap_comp_plainS : isGap ∘ plainS = isGap := by
  funext c
  by_cases isLong : c = 'ſ'
  · rw [isLong]
    decide
  · rw [Function.comp_apply, plainS, if_neg isLong]

theorem isWord_comp_plainS : isWord ∘ plainS = isWord := by
  funext c
  by_cases isLong : c = 'ſ'
  · rw [isLong]
    decide
  · rw [Function.comp_apply, plainS, if_neg isLong]

theorem map_plainS_eq_self {cs : List Char} (noLong : 'ſ' ∉ cs) : cs.map plainS = cs := by
  refine (List.map_congr_left fun c isThere => ?_).trans (List.map_id cs)
  rw [plainS, if_neg, id]
  rintro rfl
  exact noLong isThere

end Text

/-! ## Words -/

namespace Keyword

variable {k : Keyword} {word : List Char}

theorem ne_k_of_mem_name (k : Keyword) : ∀ c ∈ k.name.toList, c ≠ 'k' := by
  have noK : k.name.toList.all (· != 'k') = true := by cases k <;> decide
  exact fun c isThere => by simpa using List.all_eq_true.mp noK c isThere

theorem map_foldCase_eq_iff {name : List Char} (letters : ∀ c ∈ name, isLowerLetter c = true)
    (noK : ∀ c ∈ name, c ≠ 'k') : word.map foldCase = name ↔ (word.map plainS).map Char.toLower = name := by
  induction word generalizing name with
  | nil => rfl
  | cons c word inductionHypothesis =>
    cases name with
    | nil => simp
    | cons d name =>
      rw [List.forall_mem_cons] at letters noK
      simp only [List.map_cons, List.cons.injEq]
      exact and_congr (foldCase_eq_letter_iff letters.1 noK.1) (inductionHypothesis letters.2 noK.2)

theorem sameFold_name_iff : sameFold word k.name.toList = true ↔ ofWord? (word.map plainS) = some k := by
  rw [sameFold, beq_iff_eq, foldCase_name, ofWord?_eq_some]
  exact map_foldCase_eq_iff k.isLowerLetter_name k.ne_k_of_mem_name

theorem ofWord?_of_longS (isLong : 'ſ' ∈ word) : ofWord? word = none := by
  rw [Option.eq_none_iff_forall_not_mem]
  intro k spelled
  have isThere : Char.toLower 'ſ' ∈ k.name.toList := ofWord?_eq_some.mp spelled ▸ List.mem_map_of_mem isLong
  cases k.isLowerLetter_name _ isThere

end Keyword

/-! ## Lines -/

namespace Line

/-- The word with which the line begins has a long s. -/
def LeadsWithLongS (line : List Char) : Prop :=
  ∃ word, leadingWord? line = some word ∧ 'ſ' ∈ word.text

theorem text_leadingWord?_plainS (line : List Char) :
    (leadingWord? (line.map plainS)).map Piece.text = ((leadingWord? line).map Piece.text).map (List.map plainS) := by
  rw [text_leadingWord?, text_leadingWord?, List.dropWhile_map, List.takeWhile_map, isGap_comp_plainS,
    isWord_comp_plainS]
  cases (line.dropWhile isGap).takeWhile isWord <;> rfl

theorem keyword?_plainS (line : List Char) :
    keyword? (line.map plainS) = (leadingWord? line).bind fun word => Keyword.ofWord? (word.text.map plainS) := by
  rw [keyword?_eq_bind, text_leadingWord?_plainS]
  cases leadingWord? line <;> rfl

theorem leadsWith_iff (p : Keyword → Bool) (line : List Char) :
    leadsWith p line = true ↔ ∃ k, keyword? (line.map plainS) = some k ∧ p k = true := by
  rw [keyword?_plainS, leadsWith]
  cases leadingWord? line with
  | none => simp
  | some word =>
    simp only [List.any_eq_true, Bool.and_eq_true, Keyword.sameFold_name_iff, Option.bind_some]
    constructor
    · rintro ⟨k, -, holds, spelled⟩
      exact ⟨k, spelled, holds⟩
    · rintro ⟨k, spelled, holds⟩
      exact ⟨k, k.mem_all, holds, spelled⟩

theorem keyword?_of_longS {line : List Char} (isLong : LeadsWithLongS line) : keyword? line = none := by
  obtain ⟨word, leads, isThere⟩ := isLong
  rw [keyword?_eq_bind, leads]
  exact Keyword.ofWord?_of_longS isThere

theorem startsWithKeyword_of_header {line : List Char} {number : Nat} (headed : (header? line number).isSome) :
    startsWithKeyword line = false := by
  rw [header?, Option.isSome_map] at headed
  obtain ⟨name, named⟩ := Option.isSome_iff_exists.mp headed
  rw [startsWithKeyword, leadsWith, leadingWord?_of_header named]

theorem keyword?_of_plain {line : List Char} (plain : ¬ LeadsWithLongS line) :
    keyword? line = keyword? (line.map plainS) := by
  rw [keyword?_plainS, keyword?_eq_bind]
  cases leads : leadingWord? line with
  | none => rfl
  | some word =>
    have noLong : 'ſ' ∉ word.text := fun isThere => plain ⟨word, leads, isThere⟩
    rw [Option.map_some, Option.bind_some, Option.bind_some, map_plainS_eq_self noLong]

/-- The classifiers see the keyword that the line begins with once every long s is a plain one. That is the keyword that
    is read off the line, unless the leading word has a long s; then none is read. Nor is a keyword ever seen on a line
    that is a header. -/
theorem classifiers_describe_keywords (line : List Char) (number : Nat) :
    (isClosing line = true ↔ ∃ k, keyword? (line.map plainS) = some k ∧
      k ∈ [.elseBlock, .elseIf, .endIf, .endFor, .endList, .endVar, .endCsv, .endScript]) ∧
    (opensLevel line = true ↔ ∃ k, keyword? (line.map plainS) = some k ∧
      k ∈ [.forBlock, .ifBlock, .elseBlock, .elseIf, .script, .csv, .var, .list]) ∧
    (startsWithKeyword line = true ↔ ∃ k, keyword? (line.map plainS) = some k) ∧
    (LeadsWithLongS line → keyword? line = none) ∧
    (¬ LeadsWithLongS line → keyword? line = keyword? (line.map plainS)) ∧
    ((header? line number).isSome → keywordAt? line number = none ∧ startsWithKeyword line = false) := by
  have closing (k : Keyword) : k.isClosing = true ↔
      k ∈ [.elseBlock, .elseIf, .endIf, .endFor, .endList, .endVar, .endCsv, .endScript] := by
    cases k <;> decide
  have opening (k : Keyword) : k.opensLevel = true ↔
      k ∈ [.forBlock, .ifBlock, .elseBlock, .elseIf, .script, .csv, .var, .list] := by
    cases k <;> decide
  refine ⟨?_, ?_, ?_, keyword?_of_longS, keyword?_of_plain, fun headed => ?_⟩
  · simp only [isClosing, leadsWith_iff, closing]
  · simp only [opensLevel, leadsWith_iff, opening]
  · simp only [startsWithKeyword, leadsWith_iff, and_true]
  · exact ⟨keywordAt?_of_header headed, startsWithKeyword_of_header headed⟩

/-- A closing line in which no keyword is read. -/
example : isClosing ['e', 'l', 'ſ', 'e'] = true ∧ keyword? ['e', 'l', 'ſ', 'e'] = none := by
  decide +kernel

end Line

end ChartConfig
