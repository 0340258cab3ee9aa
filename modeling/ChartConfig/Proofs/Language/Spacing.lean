import ChartConfig.Language.Header
import ChartConfig.Language.Terminator
import ChartConfig.Proofs.Language.Leading
import ChartConfig.Proofs.Text.Blank
import ChartConfig.Proofs.Text.Cursor
import ChartConfig.Proofs.Text.Padding

/-!
# Padding and the language

What a line is recognised as does not depend on its padding. Every recogniser first passes over gaps or
blanks, so it finds the core and, after it, gaps at which all that it may read stops.
-/

namespace ChartConfig

open Text

namespace Text

variable {core line after : List Char}

theorem isWord_of_isGap {c : Char} (gap : isGap c = true) : isWord c = false := by
  rcases (by simpa [isGap] using gap : c = ' ' ∨ c = '\t') with rfl | rfl <;> decide

theorem dropWhile_padded {p : Char → Bool} (passes : ∀ c, isGap c = true → p c = true)
    (padded : Padded core line) : ∃ rest, Gaps rest ∧ line.dropWhile p = core.dropWhile p ++ rest := by
  obtain ⟨before, after, gapsBefore, gapsAfter, rfl⟩ := padded
  rw [List.append_assoc, List.dropWhile_append_of_pos fun c member => passes c (gapsBefore c member),
    List.dropWhile_append]
  split
  · next nothing =>
    refine ⟨[], .nil, ?_⟩
    rw [List.isEmpty_iff.mp nothing, List.dropWhile_eq_nil_iff.mpr fun c member => passes c (gapsAfter c member)]
    rfl
  · exact ⟨after, gapsAfter, rfl⟩

theorem dropWhile_append_gaps {p : Char → Bool} (passes : ∀ c, isGap c = true → p c = true) (cs : List Char)
    (gaps : Gaps after) : ∃ rest, Gaps rest ∧ (cs ++ after).dropWhile p = cs.dropWhile p ++ rest :=
  dropWhile_padded passes ⟨[], after, .nil, gaps, rfl⟩

theorem takeWhile_word_append (cs : List Char) (gaps : Gaps after) :
    (cs ++ after).takeWhile isWord = cs.takeWhile isWord := by
  have noWord : after.takeWhile isWord = [] := by
    cases after with
    | nil => rfl
    | cons c after => simp [isWord_of_isGap (gaps_cons.mp gaps).1]
  rw [List.takeWhile_append, noWord, List.append_nil]
  split
  · next whole => exact ((List.takeWhile_prefix isWord).eq_of_length whole).symm
  · rfl

theorem dropWhile_word_append (cs : List Char) (gaps : Gaps after) :
    (cs ++ after).dropWhile isWord = cs.dropWhile isWord ++ after := by
  have noWord : after.dropWhile isWord = after := by
    cases after with
    | nil => rfl
    | cons c after => simp [isWord_of_isGap (gaps_cons.mp gaps).1]
  rw [List.dropWhile_append, noWord]
  split
  · next nothing => rw [List.isEmpty_iff.mp nothing, List.nil_append]
  · rfl

theorem head?_append_gaps (cs : List Char) (gaps : Gaps after) {c : Char} (mark : isGap c = false) :
    (cs ++ after).head? = some c ↔ cs.head? = some c := by
  cases cs with
  | nil => simpa using gaps.head?_ne mark
  | cons d cs => simp

theorem allBlank_padded (padded : Padded core line) : allBlank line = allBlank core := by
  obtain ⟨before, after, gapsBefore, gapsAfter, rfl⟩ := padded
  have blank {cs : List Char} (gaps : Gaps cs) : cs.all isBlank = true :=
    List.all_eq_true.mpr fun c member => isBlank_of_isGap (gaps c member)
  simp [allBlank, blank gapsBefore, blank gapsAfter]

theorem Padded.reverse (padded : Padded core line) : Padded core.reverse line.reverse := by
  obtain ⟨before, after, gapsBefore, gapsAfter, rfl⟩ := padded
  refine ⟨after.reverse, before.reverse, ?_, ?_, by simp⟩
  · exact fun c member => gapsAfter c (List.mem_reverse.mp member)
  · exact fun c member => gapsBefore c (List.mem_reverse.mp member)

end Text

namespace Line

variable {core line : List Char}

/-! ## Words -/

theorem text_leadingWord? (line : List Char) :
    (leadingWord? line).map Piece.text =
      Option.guard (!·.isEmpty) ((line.dropWhile isGap).takeWhile isWord) := by
  unfold leadingWord? Cursor.name Cursor.take
  simp only [Cursor.start, Cursor.skip]
  cases (line.dropWhile isGap).takeWhile isWord with
  | nil => rfl
  | cons c cs => rfl

theorem leadingWord?_padded (padded : Padded core line) :
    (leadingWord? line).map Piece.text = (leadingWord? core).map Piece.text := by
  obtain ⟨rest, gaps, same⟩ := dropWhile_padded (fun _ gap => gap) padded
  rw [text_leadingWord?, text_leadingWord?, same, takeWhile_word_append _ gaps]

theorem leadsWith_eq_any (p : Keyword → Bool) (line : List Char) :
    leadsWith p line = ((leadingWord? line).map Piece.text).any fun word =>
      Keyword.all.any fun k => p k && sameFold word k.name.toList := by
  unfold leadsWith
  cases leadingWord? line <;> rfl

theorem keyword?_padded (padded : Padded core line) : keyword? line = keyword? core := by
  rw [keyword?_eq_bind, keyword?_eq_bind, leadingWord?_padded padded]

theorem leadsWith_padded (p : Keyword → Bool) (padded : Padded core line) : leadsWith p line = leadsWith p core := by
  rw [leadsWith_eq_any, leadsWith_eq_any, leadingWord?_padded padded]

/-! ## Headers -/

def bracketed? : List Char → Option String
  | '[' :: cs =>
    if !(cs.takeWhile isWord).isEmpty && (cs.dropWhile isWord).head? == some ']' then
      some (String.ofList (cs.takeWhile isWord))
    else none
  | _ => none

theorem bracketed?_append_gaps (cs : List Char) {after : List Char} (gaps : Gaps after) :
    bracketed? (cs ++ after) = bracketed? cs := by
  cases cs with
  | nil =>
    cases after with
    | nil => rfl
    | cons c after =>
      have notBracket : c ≠ '[' := by
        rintro rfl
        cases (gaps_cons.mp gaps).1
      simp [bracketed?, notBracket]
  | cons c cs =>
    by_cases isBracket : c = '['
    · subst isBracket
      have closing : ((cs ++ after).dropWhile isWord).head? = some ']' ↔ (cs.dropWhile isWord).head? = some ']' := by
        rw [dropWhile_word_append cs gaps]
        exact head?_append_gaps _ gaps (by decide)
      simp only [List.cons_append, bracketed?, takeWhile_word_append cs gaps, Bool.and_eq_true, beq_iff_eq, closing]
    · simp [bracketed?, isBracket]

theorem word_headerName? (line : List Char) :
    (headerName? line).map Piece.word = bracketed? (line.dropWhile isGap) := by
  unfold headerName?
  simp only [@Cursor.expect_char "[" '[' rfl, @Cursor.expect_char "]" ']' rfl, Cursor.name_eq, Cursor.skip,
    Cursor.start]
  cases line.dropWhile isGap with
  | nil => rfl
  | cons c cs =>
    by_cases isBracket : c = '['
    · subst isBracket
      simp only [List.head?_cons, if_true, List.tail_cons, Option.bind_eq_bind, Option.bind_some, bracketed?]
      cases cs.takeWhile isWord with
      | nil => rfl
      | cons d name =>
        by_cases closed : (cs.dropWhile isWord).head? = some ']'
        · simp [closed, Piece.word]
        · simp [closed]
    · simp [bracketed?, isBracket]

theorem headerName?_padded (padded : Padded core line) :
    (headerName? line).map Piece.word = (headerName? core).map Piece.word := by
  obtain ⟨rest, gaps, same⟩ := dropWhile_padded (fun _ gap => gap) padded
  rw [word_headerName?, word_headerName?, same, bracketed?_append_gaps _ gaps]

/-! ## Openers that need a terminator -/

theorem isOneLineScript_padded (padded : Padded core line) : isOneLineScript line = isOneLineScript core := by
  obtain ⟨rest, gaps, same⟩ := dropWhile_padded (fun _ => isBlank_of_isGap) padded
  have byText (line : List Char) : isOneLineScript line =
      (sameFold ((line.dropWhile isBlank).takeWhile isWord) "script".toList &&
        (((line.dropWhile isBlank).dropWhile isWord).dropWhile isBlank).head? == some '=') := by
    unfold isOneLineScript
    simp only [Cursor.name_eq, Cursor.skip, Cursor.start]
    cases (line.dropWhile isBlank).takeWhile isWord with
    | nil => rfl
    | cons c word => rfl
  obtain ⟨rest', gaps', same'⟩ :=
    dropWhile_append_gaps (fun _ => isBlank_of_isGap) ((core.dropWhile isBlank).dropWhile isWord) gaps
  rw [byText, byText, same, takeWhile_word_append _ gaps, dropWhile_word_append _ gaps, same', Bool.eq_iff_iff]
  simp only [Bool.and_eq_true, beq_iff_eq, head?_append_gaps _ gaps' (by decide : isGap '=' = false)]

theorem isUnfinished_append_gaps (cs : List Char) {after : List Char} (gaps : Gaps after) :
    isUnfinished (cs ++ after) = isUnfinished cs := by
  have blank : allBlank (cs ++ after) = allBlank cs := allBlank_padded ⟨[], after, .nil, gaps, rfl⟩
  rw [isUnfinished, isUnfinished, blank, trimEnd_append_blanks cs fun c member => isBlank_of_isGap (gaps c member)]

def opensBracket : List Char → Bool
  | '[' :: rest => isUnfinished rest
  | '{' :: rest => isUnfinished rest
  | _ => false

theorem opensBracket_append_gaps (cs : List Char) {after : List Char} (gaps : Gaps after) :
    opensBracket (cs ++ after) = opensBracket cs := by
  cases cs with
  | nil =>
    cases after with
    | nil => rfl
    | cons c after =>
      rcases (by simpa [isGap] using (gaps_cons.mp gaps).1 : c = ' ' ∨ c = '\t') with rfl | rfl <;> rfl
  | cons c cs =>
    rw [List.cons_append]
    unfold opensBracket
    split
    · next rest same =>
      obtain ⟨rfl, rfl⟩ := List.cons.inj same
      exact isUnfinished_append_gaps cs gaps
    · next rest same =>
      obtain ⟨rfl, rfl⟩ := List.cons.inj same
      exact isUnfinished_append_gaps cs gaps
    · next notSquare notCurly =>
      split
      · next same => exact absurd (by rw [(List.cons.inj same).1]) (notSquare (cs ++ after))
      · next same => exact absurd (by rw [(List.cons.inj same).1]) (notCurly (cs ++ after))
      · rfl

theorem varNeedsEnd_cons (c : Char) (cs : List Char) :
    varNeedsEnd (c :: cs) = ((c == '=' && opensBracket (trimStart cs)) || varNeedsEnd cs) := by
  rw [varNeedsEnd]
  rfl

theorem varNeedsEnd_gap {c : Char} (gap : isGap c = true) (cs : List Char) :
    varNeedsEnd (c :: cs) = varNeedsEnd cs := by
  have notSign : (c == '=') = false := by
    rw [beq_eq_false_iff_ne]
    rintro rfl
    cases gap
  rw [varNeedsEnd_cons, notSign]
  rfl

theorem varNeedsEnd_before {before : List Char} (gaps : Gaps before) (cs : List Char) :
    varNeedsEnd (before ++ cs) = varNeedsEnd cs := by
  induction before with
  | nil => rfl
  | cons c before inductionHypothesis =>
    obtain ⟨gap, gaps⟩ := gaps_cons.mp gaps
    rw [List.cons_append, varNeedsEnd_gap gap, inductionHypothesis gaps]

theorem varNeedsEnd_padded (padded : Padded core line) : varNeedsEnd line = varNeedsEnd core := by
  obtain ⟨before, after, gapsBefore, gapsAfter, rfl⟩ := padded
  have afterwards (cs : List Char) : varNeedsEnd (cs ++ after) = varNeedsEnd cs := by
    induction cs with
    | nil => simpa using varNeedsEnd_before gapsAfter []
    | cons c cs inductionHypothesis =>
      obtain ⟨rest, gaps, same⟩ := dropWhile_append_gaps (fun _ => isBlank_of_isGap) cs gapsAfter
      rw [List.cons_append, varNeedsEnd_cons, varNeedsEnd_cons, inductionHypothesis, trimStart, same,
        opensBracket_append_gaps _ gaps]
      rfl
  rw [afterwards, varNeedsEnd_before gapsBefore]

theorem listOpens_padded (padded : Padded core line) : listOpens line = listOpens core := by
  have byHead (line : List Char) : listOpens line =
      (line.reverse.dropWhile isGap).head?.any fun c => c == '=' || c == ',' := by
    unfold listOpens
    cases line.reverse.dropWhile isGap <;> rfl
  rw [byHead, byHead, head?_dropWhile_padded padded.reverse]

end Line

/-! ## The words of a line -/

namespace Text

variable {p : Char → Bool}

theorem runs_nil_of_none {cs : List Char} (none : ∀ c ∈ cs, p c = false) (column : Nat) : runs p column cs = [] := by
  induction cs generalizing column with
  | nil => rfl
  | cons c cs inductionHypothesis =>
    have here : p c = false := none c (List.mem_cons_self ..)
    simp [runs, here, inductionHypothesis fun d member => none d (List.mem_cons_of_mem _ member)]

theorem runs_append {after : List Char} (none : ∀ c ∈ after, p c = false) (column : Nat) (cs : List Char) :
    runs p column (cs ++ after) = runs p column cs := by
  induction cs generalizing column with
  | nil => exact runs_nil_of_none none column
  | cons c cs inductionHypothesis => simp only [List.cons_append, runs, inductionHypothesis]

theorem runs_add (column n : Nat) (cs : List Char) :
    runs p (n + column) cs = (runs p column cs).map (Piece.shift · n) := by
  induction cs generalizing column with
  | nil => rfl
  | cons c cs inductionHypothesis =>
    have later : runs p (n + column + 1) cs = (runs p (column + 1) cs).map (Piece.shift · n) :=
      inductionHypothesis (column + 1)
    simp only [runs, later]
    split
    · cases runs p (column + 1) cs with
      | nil => rfl
      | cons next rest =>
        have joins : n + next.column = n + column + 1 ↔ next.column = column + 1 := by omega
        by_cases adjoining : next.column = column + 1
        · simp [adjoining, Nat.add_assoc, Piece.shift]
        · simp [joins, adjoining, Piece.shift]
    · rfl

theorem runs_before {before : List Char} (none : ∀ c ∈ before, p c = false) (column : Nat) (cs : List Char) :
    runs p column (before ++ cs) = runs p (before.length + column) cs := by
  induction before generalizing column with
  | nil => simp
  | cons c before inductionHypothesis =>
    have here : p c = false := none c (List.mem_cons_self ..)
    rw [List.cons_append, runs, here, inductionHypothesis fun d member => none d (List.mem_cons_of_mem _ member)]
    simp [Nat.add_assoc, Nat.add_comm 1]

theorem words_padded {core line : List Char} (padded : Padded core line) :
    (words line).map Piece.text = (words core).map Piece.text := by
  obtain ⟨before, after, gapsBefore, gapsAfter, rfl⟩ := padded
  have noWords {cs : List Char} (gaps : Gaps cs) : ∀ c ∈ cs, isWord c = false :=
    fun c member => isWord_of_isGap (gaps c member)
  rw [words, runs_append (noWords gapsAfter), runs_before (noWords gapsBefore), runs_add, List.map_map]
  rfl

end Text

namespace Line

variable {core line : List Char}

theorem listContinues_padded (padded : Padded core line) : listContinues line = listContinues core := by
  have byTexts (line : List Char) : listContinues line =
      ((line.dropWhile isGap).head? == some ',' ||
        ((words line).map Piece.text).any fun word => sameFold word Keyword.endList.name.toList) := by
    rw [listContinues, List.any_map]
    rfl
  rw [byTexts, byTexts, head?_dropWhile_padded padded, words_padded padded]

theorem firstNonBlank?_alike {β : Type} {f : List Char → β} (padded : ∀ core line, Padded core line → f line = f core)
    {lines others : List (List Char)} (alike : List.Forall₂ Alike lines others) :
    (firstNonBlank? lines).map f = (firstNonBlank? others).map f := by
  induction alike with
  | nil => rfl
  | @cons line other following others first rest inductionHypothesis =>
    have sameBlank : allBlank line = allBlank other := first.congr fun _ _ => allBlank_padded
    cases blank : allBlank other with
    | true => simpa [firstNonBlank?_eq_find?, sameBlank, blank] using inductionHypothesis
    | false => simp [firstNonBlank?_eq_find?, sameBlank, blank, first.congr padded]

theorem listNeedsEnd_alike {line other : List Char} {following others : List (List Char)}
    (alike : Alike line other) (later : List.Forall₂ Alike following others) :
    listNeedsEnd line following = listNeedsEnd other others := by
  have byFirst (line : List Char) (following : List (List Char)) : listNeedsEnd line following =
      (listOpens line || ((firstNonBlank? following).map listContinues).getD false) := by
    unfold listNeedsEnd
    cases firstNonBlank? following <;> rfl
  rw [byFirst, byFirst, alike.congr fun _ _ => listOpens_padded,
    firstNonBlank?_alike (fun _ _ => listContinues_padded) later]

theorem needsTerminator_alike {line other : List Char} {following others : List (List Char)}
    (alike : Alike line other) (later : List.Forall₂ Alike following others) :
    needsTerminator line following = needsTerminator other others := by
  have sameList : listNeedsEnd line following = listNeedsEnd other others := listNeedsEnd_alike alike later
  have sameKeyword : keyword? line = keyword? other := alike.congr fun _ _ => keyword?_padded
  have sameVar : varNeedsEnd line = varNeedsEnd other := alike.congr fun _ _ => varNeedsEnd_padded
  have sameScript : isOneLineScript line = isOneLineScript other := alike.congr fun _ _ => isOneLineScript_padded
  rw [needsTerminator, needsTerminator, sameKeyword, sameVar, sameScript, sameList]

end Line

end ChartConfig
