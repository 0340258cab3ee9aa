import ChartConfig.Language.Header
import ChartConfig.Language.Keyword
import ChartConfig.Proofs.Text.Cursor
import ChartConfig.Proofs.Text.Lowering

/-!
# What a line begins with

A line begins with a keyword, with a header or with neither, never with both. The two ways to recognise a
keyword agree wherever the first one finds one.
-/

namespace ChartConfig

open Text

namespace Line

variable {line : List Char} {number : Nat}

theorem keywordAt?_eq_bind (line : List Char) (number : Nat) :
    keywordAt? line number = (leadingWord? line).bind fun word =>
      (Keyword.ofWord? word.text).map fun keyword => ⟨keyword, word.range number⟩ := by
  simp only [keywordAt?, Option.map_eq_bind]
  rfl

theorem keyword?_eq_bind (line : List Char) :
    keyword? line = ((leadingWord? line).map Piece.text).bind Keyword.ofWord? := by
  rw [Option.bind_map]
  simp only [keyword?, keywordAt?_eq_bind, Option.map_bind, Function.comp_def, Option.map_map, Option.map_id']

theorem keyword_keywordAt? : (keywordAt? line number).map KeywordAt.keyword = keyword? line := by
  simp only [keyword?, keywordAt?_eq_bind, Option.map_bind, Function.comp_def, Option.map_map]

theorem keyword?_eq {found : KeywordAt} (isKeyword : keywordAt? line number = some found) :
    keyword? line = some found.keyword := by
  rw [← keyword_keywordAt?, isKeyword]
  rfl

theorem exists_keywordAt? (number : Nat) {word : Keyword} (isKeyword : keyword? line = some word) :
    ∃ found, keywordAt? line number = some found ∧ found.keyword = word := by
  rw [← @keyword_keywordAt? line number] at isKeyword
  exact Option.map_eq_some_iff.mp isKeyword

theorem keywordAt?_eq_none : keywordAt? line number = none ↔ keyword? line = none := by
  rw [← @keyword_keywordAt? line number, Option.map_eq_none_iff]

theorem line_keywordAt? {found : KeywordAt} (isFound : keywordAt? line number = some found) :
    found.range.start.line = number := by
  rw [keywordAt?_eq_bind, Option.bind_eq_some_iff] at isFound
  obtain ⟨word, -, isFound⟩ := isFound
  obtain ⟨keyword, -, rfl⟩ := Option.map_eq_some_iff.mp isFound
  rfl

theorem leadingWord?_of_header {name : Piece} (named : headerName? line = some name) : leadingWord? line = none := by
  simp only [headerName?, Option.bind_eq_bind, Option.bind_eq_some_iff] at named
  obtain ⟨cursor, opened, -⟩ := named
  obtain ⟨rest, ahead⟩ := Cursor.prefix_of_expect opened
  have notWord : isWord '[' = false := by decide
  simp [leadingWord?, Cursor.name, Cursor.take, ← ahead, notWord]

theorem keywordAt?_of_header (headed : (header? line number).isSome) : keywordAt? line number = none := by
  simp only [header?, Option.isSome_map] at headed
  obtain ⟨name, named⟩ := Option.isSome_iff_exists.mp headed
  simp [keywordAt?, leadingWord?_of_header named]

theorem keyword?_of_header {name : Piece} (named : headerName? line = some name) : keyword? line = none := by
  simp [keyword?, keywordAt?, leadingWord?_of_header named]

end Line

/-! ## The letters of keywords -/

namespace Text

variable {c : Char}

theorem letter_of_toLower (letter : isLowerLetter c.toLower = true) :
    (65 ≤ c.toNat ∧ c.toNat ≤ 90) ∨ (97 ≤ c.toNat ∧ c.toNat ≤ 122) := by
  by_cases upper : 65 ≤ c.toNat ∧ c.toNat ≤ 90
  · exact .inl upper
  · rw [toLower_of_not_upper upper] at letter
    exact .inr (range_of_isLowerLetter letter)

theorem isBlank_letter (letter : isLowerLetter c.toLower = true) : isBlank c = false := by
  have range := letter_of_toLower letter
  simp only [isBlank, Bool.or_eq_false_iff, Bool.and_eq_false_iff, decide_eq_false_iff_not]
  omega

theorem foldCase_letter (letter : isLowerLetter c.toLower = true) : foldCase c = c.toLower := by
  have range := letter_of_toLower letter
  unfold foldCase
  rw [if_pos (by omega)]

end Text

theorem Keyword.isLowerLetter_name (k : Keyword) : ∀ c ∈ k.name.toList, isLowerLetter c = true := by
  have letters : k.name.toList.all isLowerLetter = true := by cases k <;> decide
  exact List.all_eq_true.mp letters

theorem Keyword.foldCase_name (k : Keyword) : k.name.toList.map foldCase = k.name.toList := by
  cases k <;> decide

theorem Keyword.mem_all (k : Keyword) : k ∈ Keyword.all := by
  cases k <;> decide

theorem Keyword.eq_of_name {k other : Keyword} (same : k.name.toList = other.name.toList) : k = other := by
  have distinct : ∀ k ∈ Keyword.all, ∀ other ∈ Keyword.all, k.name.toList = other.name.toList → k = other := by
    decide
  exact distinct k k.mem_all other other.mem_all same

theorem Keyword.ofWord?_eq_some {word : List Char} {k : Keyword} :
    ofWord? word = some k ↔ word.map Char.toLower = k.name.toList := by
  have spelling {k : Keyword} (spelled : ofWord? word = some k) : word.map Char.toLower = k.name.toList := by
    have same := List.find?_some spelled
    rw [beq_iff_eq] at same
    exact same.symm
  refine ⟨spelling, fun spelled => ?_⟩
  have isSome : (ofWord? word).isSome := by
    rw [ofWord?, List.find?_isSome]
    exact ⟨k, k.mem_all, beq_iff_eq.mpr spelled.symm⟩
  obtain ⟨other, found⟩ := Option.isSome_iff_exists.mp isSome
  rw [found, eq_of_name ((spelling found).symm.trans spelled)]

namespace Line

variable {line : List Char}

theorem word_of_keyword? {k : Keyword} (isKeyword : keyword? line = some k) :
    ∃ word, leadingWord? line = some word ∧ word.text.map Char.toLower = k.name.toList ∧
      ∀ c ∈ word.text, isLowerLetter c.toLower = true := by
  rw [keyword?_eq_bind, Option.bind_map, Option.bind_eq_some_iff] at isKeyword
  obtain ⟨word, leads, spelled⟩ := isKeyword
  have spelling := Keyword.ofWord?_eq_some.mp spelled
  refine ⟨word, leads, spelling, ?_⟩
  intro c member
  exact Keyword.isLowerLetter_name k _ (spelling ▸ List.mem_map_of_mem member)

/-- A line that begins with a keyword leads with that one and no other. -/
theorem leadsWith_eq_of_keyword? {k : Keyword} (isKeyword : keyword? line = some k) (p : Keyword → Bool) :
    leadsWith p line = p k := by
  obtain ⟨word, leads, spelling, letters⟩ := word_of_keyword? isKeyword
  -- On letters, folding case and lowering it are the same.
  have folded : word.text.map foldCase = word.text.map Char.toLower :=
    List.map_congr_left fun c member => foldCase_letter (letters c member)
  have same (other : Keyword) : sameFold word.text other.name.toList = decide (other = k) := by
    rw [sameFold, folded, spelling, Keyword.foldCase_name, Bool.eq_iff_iff, beq_iff_eq, decide_eq_true_eq]
    exact ⟨fun same => Keyword.eq_of_name same.symm, fun same => same ▸ rfl⟩
  rw [Bool.eq_iff_iff]
  simp only [leadsWith, leads, List.any_eq_true, Bool.and_eq_true, same, decide_eq_true_eq]
  exact ⟨fun ⟨other, _, holds, isOther⟩ => isOther ▸ holds, fun holds => ⟨k, k.mem_all, holds, rfl⟩⟩

theorem leadsWith_of_keyword? {k : Keyword} {p : Keyword → Bool} (isKeyword : keyword? line = some k)
    (holds : p k = true) : leadsWith p line = true :=
  (leadsWith_eq_of_keyword? isKeyword p).trans holds

/-! ## Blank lines -/

theorem mem_of_leadingWord? {word : Piece} (leads : leadingWord? line = some word) :
    word.text ≠ [] ∧ ∀ c ∈ word.text, c ∈ line := by
  unfold leadingWord? at leads
  rw [Cursor.name_eq] at leads
  split at leads
  · cases leads
  · next nonempty =>
    cases leads
    refine ⟨by simpa using nonempty, ?_⟩
    intro c member
    exact (List.dropWhile_suffix isGap).subset ((List.takeWhile_prefix isWord).subset member)

theorem keyword?_of_blank (blank : allBlank line = true) : keyword? line = none := by
  cases found : keyword? line with
  | none => rfl
  | some k =>
    obtain ⟨word, leads, -, letters⟩ := word_of_keyword? found
    obtain ⟨nonempty, inLine⟩ := mem_of_leadingWord? leads
    obtain ⟨c, member⟩ := List.exists_mem_of_ne_nil _ nonempty
    have notBlank := isBlank_letter (letters c member)
    rw [List.all_eq_true.mp blank c (inLine c member)] at notBlank
    cases notBlank

theorem headerName?_of_blank (blank : allBlank line = true) : headerName? line = none := by
  cases found : headerName? line with
  | none => rfl
  | some name =>
    simp only [headerName?, Option.bind_eq_bind, Option.bind_eq_some_iff] at found
    obtain ⟨cursor, opened, -⟩ := found
    have ahead := (Cursor.prefix_of_expect opened).subset (List.mem_cons_self ..)
    have member : '[' ∈ line := (List.dropWhile_suffix isGap).subset ahead
    have isBlank : isBlank '[' = true := List.all_eq_true.mp blank '[' member
    exact absurd isBlank (by decide)

end Line

end ChartConfig
