import ChartConfig.Proofs.Language.Leading
import ChartConfig.Proofs.Language.Moves
import ChartConfig.Proofs.Text.Blank

/-!
# Pieces of a line stand in it

Whatever a recogniser returns is a piece of its line: the text of the piece is not empty and stands in the line at
its column. For recognisers that follow moves this is a fact about moves; those that search the line from left to
right are shown to keep their column in step with the text ahead.
-/

namespace ChartConfig

open Text

namespace Line

variable {line : List Char} {p : Piece}

/-! ## Recognisers that follow moves -/

theorem in_of_follow {finish : List Piece → Cursor → Option Piece} {moves : List Move}
    (chosen : ∀ pieces c, finish pieces c = some p → p ∈ pieces)
    (found : Cursor.follow finish moves [] (.start line) = some p) : p.In line := by
  obtain ⟨pieces, after, allIn, -, finished⟩ := Cursor.follow_start_in found
  exact allIn p (chosen pieces after finished)

theorem mem_lastPiece {pieces : List Piece} {c : Cursor} (found : lastPiece pieces c = some p) : p ∈ pieces := by
  simp only [lastPiece] at found
  split at found
  · exact List.mem_of_head? found
  · cases found

theorem in_of_leadingWord? (found : leadingWord? line = some p) : p.In line := by
  rw [leadingWord?_eq] at found
  exact in_of_follow (fun _ _ => List.mem_of_head?) found

theorem in_of_headerName? (found : headerName? line = some p) : p.In line := by
  rw [headerName?_eq] at found
  exact in_of_follow (fun _ _ => List.mem_of_head?) found

theorem in_of_unclosedHeaderName? (found : unclosedHeaderName? line = some p) : p.In line := by
  rw [unclosedHeaderName?_eq] at found
  exact in_of_follow (fun _ _ => mem_lastPiece) found

theorem in_of_aliasName? (found : aliasName? line = some p) : p.In line := by
  rw [aliasName?_eq] at found
  exact in_of_follow (fun _ _ => mem_lastPiece) found

theorem in_of_csvName? (found : csvName? line = some p) : p.In line := by
  rw [csvName?_eq] at found
  exact in_of_follow (fun _ _ => List.mem_of_head?) found

theorem in_of_listName? (found : listName? line = some p) : p.In line := by
  rw [listName?_eq] at found
  exact in_of_follow (fun _ _ => List.mem_of_head?) found

theorem in_of_varName? (found : varName? line = some p) : p.In line := by
  rw [varName?_eq] at found
  obtain ⟨word, -, found⟩ := List.exists_of_findSome?_eq_some found
  split at found
  · obtain ⟨pieces, after, allIn, -, finished⟩ := Cursor.follow_in (.within line word.stop) (by simp) found
    exact allIn p (List.mem_of_head? finished)
  · cases found

theorem in_of_loopVariable? {sign : Piece} (found : loopVariable? line = some (p, sign)) :
    p.In line ∧ sign.In line := by
  rw [loopVariable?_eq] at found
  obtain ⟨pieces, after, allIn, -, finished⟩ := Cursor.follow_start_in found
  simp only [loopPieces] at finished
  split at finished
  · split at finished
    · cases finished
      exact ⟨allIn _ (by simp), allIn _ (by simp)⟩
    · cases finished
  · cases finished

theorem in_of_loopCollection? (found : loopCollection? line = some p) : p.In line := by
  rw [loopCollection?_eq, Option.orElse_eq_orElse, Option.orElse_eq_or, Option.or_eq_some_iff] at found
  cases found with
  | inl keys => exact in_of_follow (fun _ _ => List.mem_of_getLast?) keys
  | inr name => exact in_of_follow (fun _ _ => List.mem_of_getLast?) name.2

theorem in_of_templateDeclaration? {d : TemplateDeclaration} (found : templateDeclaration? line = some d) :
    d.name.In line ∧ ∀ collection, d.collection = some collection → collection.In line := by
  rw [templateDeclaration?, Option.orElse_eq_orElse, Option.orElse_eq_or, Option.or_eq_some_iff] at found
  cases found with
  | inl assigned =>
    rw [templateAssign?_eq] at assigned
    obtain ⟨pieces, after, allIn, -, finished⟩ := Cursor.follow_start_in assigned
    obtain ⟨name, isFirst, rfl⟩ := Option.map_eq_some_iff.mp finished
    exact ⟨allIn name (List.mem_of_head? isFirst), fun _ none => by cases none⟩
  | inr listed =>
    rw [templateList?_eq] at listed
    obtain ⟨pieces, after, allIn, -, finished⟩ := Cursor.follow_start_in listed.2
    simp only [pairedDeclaration] at finished
    split at finished
    · cases finished
      exact ⟨allIn _ (by simp), fun _ same => by cases same; exact allIn _ (by simp)⟩
    · cases finished

theorem in_of_keywordAt? {number : Nat} {found : KeywordAt} (isFound : keywordAt? line number = some found) :
    ∃ word : Piece, word.In line ∧ found.range = word.range number ∧
      Keyword.ofWord? word.text = some found.keyword := by
  rw [keywordAt?_eq_bind, Option.bind_eq_some_iff] at isFound
  obtain ⟨word, leads, isFound⟩ := isFound
  obtain ⟨keyword, spelled, rfl⟩ := Option.map_eq_some_iff.mp isFound
  exact ⟨word, in_of_leadingWord? leads, rfl, spelled⟩

/-! ## Template marks -/

theorem inFrom_of_templateMark? {column : Nat} (found : templateMark?.go column line = some p) :
    p.InFrom column line := by
  induction line generalizing column with
  | nil => cases found
  | cons c line inductionHypothesis =>
    simp only [templateMark?.go] at found
    split at found
    · next leads =>
      cases found
      exact .first (by decide) (List.isPrefixOf_iff_prefix.mp leads)
    · split at found
      · next leads =>
        cases found
        exact .first (by decide) (List.isPrefixOf_iff_prefix.mp leads)
      · exact (inductionHypothesis found).later

theorem in_of_templateMark? (found : templateMark? line = some p) : p.In line :=
  (inFrom_of_templateMark? found).toIn

/-! ## Assignments -/

theorem inFrom_valueAfter {column : Nat} {after : List Char} (someText : after ≠ []) :
    (Assignment.valueAfter column after).InFrom column after := by
  simp only [Assignment.valueAfter]
  split
  · have size := List.length_pos_iff.mpr someText
    have last : Piece.In ⟨after.length - 1, after.drop (after.length - 1)⟩ after := by
      refine ⟨?_, List.prefix_refl _⟩
      simp only [ne_eq, List.drop_eq_nil_iff]
      omega
    exact .shift last
  · next notBlank =>
    have text : Piece.In ⟨(leadingBlanks after).length, trim after⟩ after := by
      have rest := @List.drop_left _ (leadingBlanks after) (trimStart after)
      rw [leadingBlanks_append_trimStart] at rest
      refine ⟨trim_ne_nil (by simpa using notBlank), ?_⟩
      rw [rest]
      exact prefix_trimEnd _
    exact .shift text

/-- The text before the cursor, from the column `first` on, is `before` in reverse. -/
theorem in_of_findSign {first : Nat} {before after : List Char} {a : Assignment}
    (ahead : line.drop first = before.reverse ++ after) (found : Assignment.findSign first before after = some a) :
    a.name.In line ∧ a.value.In line := by
  induction after generalizing before with
  | nil => cases found
  | cons c after inductionHypothesis =>
    simp only [Assignment.findSign] at found
    split at found
    · next sign =>
      cases found
      simp only [Bool.and_eq_true, decide_eq_true_eq, Bool.not_eq_true', List.isEmpty_eq_false_iff,
        Assignment.isName] at sign
      obtain ⟨⟨-, someText⟩, long, -⟩ := sign
      constructor
      · refine ⟨List.length_pos_iff.mp (by dsimp only; omega), ?_⟩
        rw [ahead]
        exact (prefix_trimEnd _).trans (List.prefix_append ..)
      · have rest : line.drop (first + before.length + 1) = after := by
          rw [Nat.add_assoc, ← List.drop_drop, ahead]
          simp [List.drop_append]
        have there := @inFrom_valueAfter (first + before.length + 1) after someText
        rw [← rest] at there
        simpa only [rest] using there.ofDrop
    · exact inductionHypothesis (by simpa using ahead) found

theorem in_of_assignment? {a : Assignment} (found : assignment? line = some a) : a.name.In line ∧ a.value.In line := by
  simp only [assignment?] at found
  have rest := @List.drop_left _ (leadingBlanks line) (trimStart line)
  rw [leadingBlanks_append_trimStart] at rest
  split at found
  · next c cs text =>
    split at found
    · exact in_of_findSign (by simpa [text] using rest) found
    · cases found
  · cases found

end Line

/-! ## References -/

namespace Reference

variable {cs : List Char} {p : Piece}

theorem inFrom_of_mem_scan {read : List Char → Option (Piece × Nat)}
    (reads : ∀ cs piece size, read cs = some (piece, size) → piece.In cs) {column busy : Nat}
    (member : p ∈ scan read column busy cs) : p.InFrom column cs := by
  induction cs generalizing column busy with
  | nil => cases busy <;> cases member
  | cons c cs inductionHypothesis =>
    cases busy with
    | succ busy => exact (inductionHypothesis member).later
    | zero =>
      simp only [scan] at member
      split at member
      · next piece size isRead =>
        cases member with
        | head => exact .shift (reads _ piece size isRead)
        | tail _ member => exact (inductionHypothesis member).later
      · exact (inductionHypothesis member).later

theorem untilBrace?_leads {body : List Char} (found : untilBrace? cs = some body) : body ++ ['}'] <+: cs := by
  simp only [untilBrace?, List.contains_iff_mem] at found
  split at found
  · next closed =>
    cases found
    have stops : (cs.dropWhile (· != '}')).head? = some '}' := by
      have first := List.head?_dropWhile_not (· != '}') cs
      cases rest : cs.dropWhile (· != '}') with
      | nil => simpa using List.dropWhile_eq_nil_iff.mp rest '}' closed
      | cons d rest => simpa [rest] using first
    obtain ⟨rest, same⟩ := List.head?_eq_some_iff.mp stops
    refine ⟨rest, ?_⟩
    rw [List.append_assoc, List.singleton_append, ← same, List.takeWhile_append_dropWhile]
  · cases found

theorem in_of_templateBody? {size : Nat} (found : templateBody? cs = some (p, size)) : p.In cs := by
  simp only [templateBody?] at found
  split at found
  · split at found
    · obtain ⟨body, isBody, same⟩ := Option.map_eq_some_iff.mp found
      cases same
      exact ⟨by simp, by simpa using (List.prefix_append ..).trans (untilBrace?_leads isBody)⟩
    · cases found
  · cases found

theorem braced?_leads {body : List Char} (found : braced? cs = some body) : body ++ ['}'] <+: cs := by
  cases cs with
  | nil => cases found
  | cons c cs =>
    obtain ⟨body', isBody, found⟩ := Option.bind_eq_some_iff.mp found
    split at found
    · cases found
    · cases found
      simpa using untilBrace?_leads isBody

theorem in_of_loopExpression? {size : Nat} (found : loopExpression? cs = some (p, size)) : p.In cs := by
  simp only [loopExpression?] at found
  split at found
  · obtain ⟨body, isBody, same⟩ := Option.map_eq_some_iff.mp found
    cases same
    exact ⟨by simp, by simpa using braced?_leads isBody⟩
  · cases found

theorem quoted?_leads {quote : Char} {taken body : List Char} (found : quoted? quote taken cs = some body) :
    body ≠ [] ∧ body <+: taken.reverse ++ cs := by
  induction cs generalizing taken with
  | nil => cases found
  | cons c cs inductionHypothesis =>
    simp only [quoted?] at found
    split at found
    · next closed =>
      cases found
      simp only [Bool.and_eq_true, Bool.not_eq_true', List.isEmpty_eq_false_iff] at closed
      exact ⟨by simpa using closed.2, List.prefix_append ..⟩
    · split at found
      · cases found
      · simpa using inductionHypothesis found

theorem in_of_aliasUse? {size : Nat} (found : aliasUse? cs = some (p, size)) : p.In cs := by
  simp only [aliasUse?] at found
  split at found
  · split at found
    · next c rest ahead =>
      split at found
      · obtain ⟨body, isBody, same⟩ := Option.map_eq_some_iff.mp found
        cases same
        obtain ⟨nonempty, there⟩ := quoted?_leads isBody
        have behind : cs.drop 7 = rest := by
          rw [show 7 = 6 + 1 from rfl, ← List.drop_drop, ahead]
          rfl
        exact ⟨nonempty, by rw [behind]; exact there⟩
      · cases found
    · cases found
  · cases found

theorem in_of_mem_templates (member : p ∈ templates cs) : p.In cs :=
  (inFrom_of_mem_scan (fun _ _ _ => in_of_templateBody?) member).toIn

theorem in_of_mem_loopExpressions (member : p ∈ loopExpressions cs) : p.In cs :=
  (inFrom_of_mem_scan (fun _ _ _ => in_of_loopExpression?) member).toIn

theorem in_of_mem_aliasUses (member : p ∈ aliasUses cs) : p.In cs :=
  (inFrom_of_mem_scan (fun _ _ _ => in_of_aliasUse?) member).toIn

theorem inFrom_of_mem_identifiersFrom {column busy : Nat} {before : Option Char} {i : Identifier}
    (member : i ∈ identifiersFrom column before busy cs) : i.piece.InFrom column cs := by
  induction cs generalizing column busy before with
  | nil => cases busy <;> cases member
  | cons c cs inductionHypothesis =>
    cases busy with
    | succ busy => exact (inductionHypothesis member).later
    | zero =>
      simp only [identifiersFrom] at member
      split at member
      · cases member with
        | head => exact .first (by simp) (by simpa using List.takeWhile_prefix isWord)
        | tail _ member => exact (inductionHypothesis member).later
      · exact (inductionHypothesis member).later

theorem in_of_mem_identifiers {i : Identifier} (member : i ∈ identifiers cs) : i.piece.In cs :=
  (inFrom_of_mem_identifiersFrom member).toIn

end Reference

end ChartConfig
