import ChartConfig.Language.Csv
import ChartConfig.Proofs.Language.Texts

/-!
# Padding and what stands inside a line

References, the cells of a table and the two sides of an assignment do not depend on padding either, with one
exception. A sign at the end of a line assigns nothing, but a sign with blanks behind it assigns the last of them.
-/

namespace ChartConfig

open Text

namespace Text

theorem contains_append_gaps (cs : List Char) {gaps : List Char} (areGaps : Gaps gaps) {c : Char}
    (mark : isGap c = false) : (cs ++ gaps).contains c = cs.contains c := by
  have notThere : c ∉ gaps := fun member => by simp [areGaps c member] at mark
  simp [notThere]

theorem allBlank_append_gaps (cs : List Char) {gaps : List Char} (areGaps : Gaps gaps) :
    allBlank (cs ++ gaps) = allBlank cs :=
  allBlank_padded ⟨[], gaps, .nil, areGaps, rfl⟩

end Text

/-! ## References -/

namespace Reference

/-- What the reader finds at one place does not depend on padding: nothing starts with a gap or ends behind one. -/
structure Blind (read : List Char → Option (Piece × Nat)) : Prop where
  gap : ∀ c cs, isGap c = true → read (c :: cs) = none
  after : ∀ cs gaps, Gaps gaps → read (cs ++ gaps) = read cs

variable {read : List Char → Option (Piece × Nat)} {core line : List Char}

theorem texts_scan (column other busy : Nat) (cs : List Char) :
    (scan read column busy cs).map Piece.text = (scan read other busy cs).map Piece.text := by
  induction cs generalizing column other busy with
  | nil => cases busy <;> rfl
  | cons c cs inductionHypothesis =>
    cases busy with
    | succ busy => exact inductionHypothesis (column + 1) (other + 1) busy
    | zero =>
      simp only [scan]
      split
      · simp only [List.map_cons, Piece.shift, inductionHypothesis (column + 1) (other + 1)]
      · exact inductionHypothesis (column + 1) (other + 1) 0

theorem scan_gaps (blind : Blind read) {gaps : List Char} (areGaps : Gaps gaps) (column busy : Nat) :
    scan read column busy gaps = [] := by
  induction gaps generalizing column busy with
  | nil => cases busy <;> rfl
  | cons c gaps inductionHypothesis =>
    obtain ⟨gap, areGaps⟩ := gaps_cons.mp areGaps
    cases busy with
    | succ busy => exact inductionHypothesis areGaps (column + 1) busy
    | zero =>
      simp only [scan, blind.gap c gaps gap]
      exact inductionHypothesis areGaps (column + 1) 0

theorem scan_append (blind : Blind read) {gaps : List Char} (areGaps : Gaps gaps) (column busy : Nat) (cs : List Char) :
    scan read column busy (cs ++ gaps) = scan read column busy cs := by
  induction cs generalizing column busy with
  | nil =>
    rw [List.nil_append, scan_gaps blind areGaps]
    cases busy <;> rfl
  | cons c cs inductionHypothesis =>
    cases busy with
    | succ busy => exact inductionHypothesis (column + 1) busy
    | zero =>
      have same := blind.after (c :: cs) gaps areGaps
      rw [List.cons_append] at same ⊢
      simp only [scan, same, inductionHypothesis]

theorem scan_before (blind : Blind read) {gaps : List Char} (areGaps : Gaps gaps) (column : Nat) (cs : List Char) :
    scan read column 0 (gaps ++ cs) = scan read (gaps.length + column) 0 cs := by
  induction gaps generalizing column with
  | nil => simp
  | cons c gaps inductionHypothesis =>
    obtain ⟨gap, areGaps⟩ := gaps_cons.mp areGaps
    simp only [List.cons_append, scan, blind.gap c _ gap, inductionHypothesis areGaps, List.length_cons]
    congr 1
    omega

theorem scan_padded (blind : Blind read) (padded : Padded core line) :
    (scan read 0 0 line).map Piece.text = (scan read 0 0 core).map Piece.text := by
  obtain ⟨before, after, gapsBefore, gapsAfter, rfl⟩ := padded
  rw [scan_append blind gapsAfter, scan_before blind gapsBefore]
  exact texts_scan ..

/-! ### Readers that start with a literal -/

def opening (literal : List Char) (inside : List Char → Option (Piece × Nat)) (cs : List Char) : Option (Piece × Nat) :=
  if literal.isPrefixOf cs then inside (cs.drop literal.length) else none

theorem blind_opening {literal : List Char} {inside : List Char → Option (Piece × Nat)}
    (marked : literal.head?.any (!isGap ·) = true) (free : literal.all (!isGap ·) = true)
    (after : ∀ cs gaps, Gaps gaps → inside (cs ++ gaps) = inside cs) : Blind (opening literal inside) where
  gap := by
    intro c cs gap
    cases literal with
    | nil => cases marked
    | cons first literal =>
      have differs : first ≠ c := by
        rintro rfl
        simp [gap] at marked
      simp [opening, List.isPrefixOf, differs]
  after := by
    intro cs gaps areGaps
    have same : literal.isPrefixOf (cs ++ gaps) = literal.isPrefixOf cs := by
      rw [Bool.eq_iff_iff, List.isPrefixOf_iff_prefix, List.isPrefixOf_iff_prefix,
        Cursor.prefix_append_gaps free areGaps]
    simp only [opening, same]
    split
    · next leads =>
      have fits := (List.isPrefixOf_iff_prefix.mp leads).length_le
      rw [List.drop_append_of_le_length fits, after _ gaps areGaps]
    · rfl

theorem Blind.or {first second : List Char → Option (Piece × Nat)} (blind : Blind first) (other : Blind second) :
    Blind fun cs => (first cs).or (second cs) where
  gap := fun c cs gap => by rw [blind.gap c cs gap, other.gap c cs gap, Option.none_or]
  after := fun cs gaps areGaps => by rw [blind.after cs gaps areGaps, other.after cs gaps areGaps]

/-! ### Loop expressions and uses of aliases -/

theorem untilBrace?_append (cs : List Char) {gaps : List Char} (areGaps : Gaps gaps) :
    untilBrace? (cs ++ gaps) = untilBrace? cs := by
  simp only [untilBrace?, contains_append_gaps cs areGaps (by decide : isGap '}' = false)]
  split
  · next closed =>
    have stops : (cs.takeWhile (· != '}')).length ≠ cs.length := by
      intro whole
      have brace : '}' ∈ cs.takeWhile (· != '}') := by
        rw [(List.takeWhile_prefix _).eq_of_length whole]
        exact List.contains_iff_mem.mp closed
      cases List.mem_takeWhile_imp brace
    rw [List.takeWhile_append, if_neg stops]
  · rfl

theorem braced?_append (cs : List Char) {gaps : List Char} (areGaps : Gaps gaps) :
    braced? (cs ++ gaps) = braced? cs := by
  cases cs with
  | nil =>
    cases gaps with
    | nil => rfl
    | cons c gaps =>
      have unclosed := untilBrace?_append [] (gaps_cons.mp areGaps).2
      rw [List.nil_append] at unclosed
      simp only [List.nil_append, braced?, unclosed]
      rfl
  | cons c cs => simp only [List.cons_append, braced?, untilBrace?_append cs areGaps]

theorem loopExpression?_eq : loopExpression? = opening "@\x7b".toList fun cs =>
    (braced? cs).map fun body => (⟨0, '@' :: '{' :: body ++ ['}']⟩, body.length + 3) := by
  funext cs
  unfold loopExpression?
  split
  · simp [opening]
  · next other =>
    rw [opening, if_neg]
    intro leads
    obtain ⟨rest, rfl⟩ := List.isPrefixOf_iff_prefix.mp leads
    exact other rest rfl

theorem blind_loopExpression? : Blind loopExpression? := by
  rw [loopExpression?_eq]
  refine blind_opening (by decide) (by decide) fun cs gaps areGaps => ?_
  rw [braced?_append cs areGaps]

theorem quoted?_append {quote : Char} (mark : isGap quote = false) (taken cs : List Char) {gaps : List Char}
    (areGaps : Gaps gaps) : quoted? quote taken (cs ++ gaps) = quoted? quote taken cs := by
  induction cs generalizing taken with
  | nil =>
    cases gaps with
    | nil => rfl
    | cons c gaps =>
      have gap := (gaps_cons.mp areGaps).1
      have differs : (c == quote) = false := by
        rw [beq_eq_false_iff_ne]
        rintro rfl
        simp [gap] at mark
      simp [quoted?, differs, isBlank_of_isGap gap]
  | cons c cs inductionHypothesis =>
    have closes : ((cs ++ gaps).head? == some ')') = (cs.head? == some ')') := by
      rw [Bool.eq_iff_iff, beq_iff_eq, beq_iff_eq, head?_append_gaps cs areGaps (by decide)]
    simp only [List.cons_append, quoted?, closes, inductionHypothesis]

def quotedName? : List Char → Option (Piece × Nat)
  | c :: rest =>
    if c.toNat = 0x27 || c == '"' then (quoted? c [] rest).map fun body => (⟨7, body⟩, body.length + 9) else none
  | [] => none

theorem aliasUse?_eq : aliasUse? = opening "value(".toList quotedName? := by
  funext cs
  simp only [aliasUse?, opening]
  rfl

theorem blind_aliasUse? : Blind aliasUse? := by
  rw [aliasUse?_eq]
  refine blind_opening (by decide) (by decide) fun cs gaps areGaps => ?_
  have notQuote {c : Char} (gap : isGap c = true) : (c.toNat = 0x27 || c == '"') = false := by
    cases isGap_cases gap with
    | inl space => subst space; decide
    | inr tab => subst tab; decide
  cases cs with
  | nil =>
    cases gaps with
    | nil => rfl
    | cons c gaps => simp [quotedName?, notQuote (gaps_cons.mp areGaps).1]
  | cons c cs =>
    simp only [List.cons_append, quotedName?]
    split
    · next quote =>
      have mark : isGap c = false := by
        rw [Bool.eq_false_iff]
        intro gap
        rw [notQuote gap] at quote
        cases quote
      rw [quoted?_append mark [] cs areGaps]
    · rfl

variable {core line : List Char}

theorem loopExpressions_padded (padded : Padded core line) :
    (loopExpressions line).map Piece.text = (loopExpressions core).map Piece.text :=
  scan_padded blind_loopExpression? padded

theorem aliasUses_padded (padded : Padded core line) :
    (aliasUses line).map Piece.text = (aliasUses core).map Piece.text :=
  scan_padded blind_aliasUse? padded

end Reference

/-! ### Template directives -/

namespace Line

open Reference

variable {core line : List Char}

def mark? (cs : List Char) : Option (Piece × Nat) :=
  (opening "<#list".toList (fun _ => some (⟨0, "<#list".toList⟩, 6)) cs).or
    (opening "<#assign".toList (fun _ => some (⟨0, "<#assign".toList⟩, 8)) cs)

theorem blind_mark? : Blind mark? :=
  (blind_opening (by decide) (by decide) fun _ _ _ => rfl).or (blind_opening (by decide) (by decide) fun _ _ _ => rfl)

theorem templateMark?_eq (line : List Char) : templateMark? line = (scan mark? 0 0 line).head? := by
  have go (column : Nat) (cs : List Char) : templateMark?.go column cs = (scan mark? column 0 cs).head? := by
    induction cs generalizing column with
    | nil => rfl
    | cons c cs inductionHypothesis =>
      cases lists : "<#list".toList.isPrefixOf (c :: cs) with
      | true => simp only [templateMark?.go, scan, mark?, opening, lists, if_true, Option.some_or]; rfl
      | false =>
        cases assigns : "<#assign".toList.isPrefixOf (c :: cs) with
        | true =>
          simp only [templateMark?.go, scan, mark?, opening, lists, assigns, Bool.false_eq_true, if_false, if_true,
            Option.none_or]
          rfl
        | false =>
          simp only [templateMark?.go, scan, mark?, opening, lists, assigns, Bool.false_eq_true, if_false,
            Option.none_or, inductionHypothesis]
  exact go 0 line

theorem templateMark?_padded (padded : Padded core line) :
    (templateMark? line).map Piece.text = (templateMark? core).map Piece.text := by
  rw [templateMark?_eq, templateMark?_eq]
  exact Cursor.head?_texts (scan_padded blind_mark? padded)

end Line

/-! ## Tables -/

namespace Csv

variable {core line gaps : List Char}

theorem isSeparator_of_isGap {c : Char} (gap : isGap c = true) : isSeparator c = true := by
  cases isGap_cases gap with
  | inl space => subst space; decide
  | inr tab => subst tab; decide

theorem isGap_of_isQuote {c : Char} (quote : isQuote c = true) : isGap c = false := by
  rw [Bool.eq_false_iff]
  intro gap
  cases isGap_cases gap with
  | inl space => subst space; cases quote
  | inr tab => subst tab; cases quote

theorem countFrom_gaps (place : Place) (areGaps : Gaps gaps) : countFrom place gaps = 0 := by
  induction gaps generalizing place with
  | nil => cases place <;> rfl
  | cons c gaps inductionHypothesis =>
    obtain ⟨gap, areGaps⟩ := gaps_cons.mp areGaps
    cases place with
    | between => simp [countFrom, isSeparator_of_isGap gap, inductionHypothesis .between areGaps]
    | bare | opened _ | quoted _ => simp [countFrom, inductionHypothesis _ areGaps]

theorem countFrom_append (place : Place) (cs : List Char) (areGaps : Gaps gaps) :
    countFrom place (cs ++ gaps) = countFrom place cs := by
  induction cs generalizing place with
  | nil =>
    rw [List.nil_append, countFrom_gaps place areGaps]
    cases place <;> rfl
  | cons c cs inductionHypothesis =>
    cases place with
    | between =>
      have sameQuote : (isQuote c && (cs ++ gaps).tail.contains c) = (isQuote c && cs.tail.contains c) := by
        cases quote : isQuote c with
        | false => rfl
        | true =>
          have mark : isGap c = false := isGap_of_isQuote quote
          cases cs with
          | nil =>
            have fewer : Gaps gaps.tail := fun d member => areGaps d (List.mem_of_mem_tail member)
            simpa using contains_append_gaps [] fewer mark
          | cons d cs => simpa using contains_append_gaps cs areGaps mark
      simp only [List.cons_append, countFrom, sameQuote, inductionHypothesis]
    | bare | opened _ | quoted _ => simp only [List.cons_append, countFrom, inductionHypothesis]

theorem countFrom_separators {before : List Char} (separate : ∀ c ∈ before, isSeparator c = true) (cs : List Char) :
    countFrom .between (before ++ cs) = countFrom .between cs := by
  induction before with
  | nil => rfl
  | cons c before inductionHypothesis =>
    rw [List.forall_mem_cons] at separate
    simp only [List.cons_append, countFrom, separate.1, if_true, inductionHypothesis separate.2]

theorem columns_padded (padded : Padded core line) : columns line = columns core := by
  obtain ⟨before, after, gapsBefore, gapsAfter, rfl⟩ := padded
  rw [columns, columns, countFrom_append _ _ gapsAfter,
    countFrom_separators fun c member => isSeparator_of_isGap (gapsBefore c member)]

end Csv

namespace Line

variable {core line : List Char}

theorem csvHeaderBelow_padded (padded : Padded core line) : csvHeaderBelow line = csvHeaderBelow core := by
  have sameSign : line.contains '=' = core.contains '=' := by
    obtain ⟨before, after, gapsBefore, gapsAfter, rfl⟩ := padded
    have notBefore : '=' ∉ before := fun member => by cases gapsBefore '=' member
    rw [contains_append_gaps _ gapsAfter (by decide)]
    simp [notBefore]
  rw [csvHeaderBelow, csvHeaderBelow, head?_dropWhile_padded padded.reverse, sameSign]

theorem columns_afterSign_padded (padded : Padded core line) :
    Csv.columns (afterSign line) = Csv.columns (afterSign core) := by
  have passes (c : Char) (gap : isGap c = true) : (c != '=') = true := by
    rw [bne_iff_ne]
    rintro rfl
    cases gap
  obtain ⟨rest, gaps, same⟩ := dropWhile_padded passes padded
  rw [afterSign, afterSign, same]
  cases core.dropWhile (· != '=') with
  | nil =>
    have fewer : Gaps (rest.drop 1) := fun c member => gaps c (List.mem_of_mem_drop member)
    exact Csv.countFrom_gaps .between fewer
  | cons sign cs => exact Csv.countFrom_append .between cs gaps

end Line

/-! ## Assignments -/

def Assignment.texts (a : Assignment) : List Char × List Char :=
  (a.name.text, a.value.text)

namespace Assignment

theorem texts_findSign (first other : Nat) (before after : List Char) :
    (findSign first before after).map texts = (findSign other before after).map texts := by
  induction after generalizing before with
  | nil => rfl
  | cons c after inductionHypothesis =>
    simp only [findSign]
    split
    · simp only [Option.map_some, texts, valueAfter]
      split <;> rfl
    · exact inductionHypothesis (c :: before)

theorem findSign_gaps (first : Nat) (before : List Char) {gaps : List Char} (areGaps : Gaps gaps) :
    findSign first before gaps = none := by
  induction gaps generalizing before with
  | nil => rfl
  | cons c gaps inductionHypothesis =>
    obtain ⟨gap, areGaps⟩ := gaps_cons.mp areGaps
    have noSign : c ≠ '=' := by
      rintro rfl
      cases gap
    simp [findSign, noSign, inductionHypothesis (c :: before) areGaps]

theorem allBlank_valueAfter (column : Nat) {after : List Char} (blank : allBlank after = true) :
    allBlank (valueAfter column after).text = true := by
  simp only [valueAfter, blank, if_true]
  exact allBlank_iff.mpr fun c member => allBlank_iff.mp blank c (List.mem_of_mem_drop member)

theorem text_valueAfter_append (column : Nat) {after gaps : List Char} (text : allBlank after = false)
    (areGaps : Gaps gaps) : (valueAfter column (after ++ gaps)).text = (valueAfter column after).text := by
  have stillText : allBlank (after ++ gaps) = false := by
    rw [allBlank_append_gaps after areGaps, text]
  have ahead : trimStart (after ++ gaps) = trimStart after ++ gaps := by
    rw [trimStart, List.dropWhile_append, if_neg]
    · rfl
    · intro nothing
      rw [← allBlank_trimStart, trimStart, List.isEmpty_iff.mp nothing] at text
      cases text
  simp only [valueAfter, text, stillText, Bool.false_eq_true, if_false]
  rw [trim, ahead, trimEnd_append_blanks _ fun c member => isBlank_of_isGap (areGaps c member)]
  rfl

theorem findSign_append (first : Nat) (before after : List Char) {gaps : List Char} (areGaps : Gaps gaps) :
    (findSign first before (after ++ gaps)).map texts = (findSign first before after).map texts ∨
      ∃ a, findSign first before (after ++ gaps) = some a ∧ allBlank a.value.text = true := by
  induction after generalizing before with
  | nil =>
    refine .inl ?_
    rw [List.nil_append, findSign_gaps first before areGaps]
    rfl
  | cons c after inductionHypothesis =>
    cases gaps with
    | nil => exact .inl (by rw [List.append_nil])
    | cons gap gaps =>
      have followed : (after ++ gap :: gaps).isEmpty = false := by simp
      cases sign : decide (c = '=') && isName (trimEnd before.reverse) with
      | false =>
        have none (rest : List Char) : findSign first before (c :: rest) = findSign first (c :: before) rest := by
          rw [findSign, if_neg]
          simp only [Bool.and_eq_true, decide_eq_true_eq] at sign ⊢
          rintro ⟨⟨isSign, -⟩, isName⟩
          simp [isSign, isName] at sign
        rw [List.cons_append, none, none]
        exact inductionHypothesis (c :: before)
      | true =>
        simp only [Bool.and_eq_true, decide_eq_true_eq] at sign
        have found (rest : List Char) (more : rest.isEmpty = false) : findSign first before (c :: rest) =
            some ⟨⟨first, trimEnd before.reverse⟩, valueAfter (first + before.length + 1) rest⟩ := by
          simp [findSign, sign, more]
        rw [List.cons_append, found _ followed]
        cases blank : allBlank after with
        | true =>
          refine .inr ⟨_, rfl, allBlank_valueAfter _ ?_⟩
          rw [allBlank_append_gaps after areGaps, blank]
        | false =>
          have more : after.isEmpty = false := by
            rw [Bool.eq_false_iff]
            intro nothing
            rw [List.isEmpty_iff.mp nothing] at blank
            cases blank
          refine .inl ?_
          simp only [found after more, Option.map_some, texts, text_valueAfter_append _ blank areGaps]

end Assignment

namespace Line

open Assignment

theorem assignment?_before {before : List Char} (gaps : Gaps before) (cs : List Char) :
    (assignment? (before ++ cs)).map texts = (assignment? cs).map texts := by
  simp only [assignment?, trimStart_append fun c member => isBlank_of_isGap (gaps c member)]
  cases trimStart cs with
  | nil => rfl
  | cons c rest =>
    simp only
    split
    · exact texts_findSign ..
    · rfl

theorem assignment?_append (cs : List Char) {gaps : List Char} (areGaps : Gaps gaps) :
    (assignment? (cs ++ gaps)).map texts = (assignment? cs).map texts ∨
      ∃ a, assignment? (cs ++ gaps) = some a ∧ allBlank a.value.text = true := by
  obtain ⟨rest, gapsRest, ahead⟩ := dropWhile_append_gaps (fun _ => isBlank_of_isGap) cs areGaps
  simp only [assignment?, trimStart, ahead]
  cases cs.dropWhile isBlank with
  | nil =>
    refine .inl ?_
    cases rest with
    | nil => rfl
    | cons c rest =>
      have noLetter : isLowerLetter c = false := by
        cases isGap_cases (gaps_cons.mp gapsRest).1 with
        | inl space => subst space; decide
        | inr tab => subst tab; decide
      simp [noLetter]
  | cons c after =>
    simp only [List.cons_append]
    split
    · cases findSign_append (leadingBlanks (cs ++ gaps)).length [c] after gapsRest with
      | inl same => exact .inl (same.trans (texts_findSign ..))
      | inr blank => exact .inr blank
    · exact .inl rfl

end Line

end ChartConfig
