import ChartConfig.Document
import ChartConfig.Proofs.Text.Lines

/-!
# Comments line by line

Comments are overwritten over the whole text, but all that passes from one line to the next is whether a
comment is open, and all that is asked of the lines ahead is whether one of them can close it. `blankSpan`
treats one line on these terms, and `Document.analysed_eq` says that the analysis goes line by line.
-/

namespace ChartConfig

namespace Text

/-- Overwrites the comments of one line, which starts inside a comment or not. The comment that the line
    leaves open is closed further down if `later` holds. Also tells whether the line ends in a comment. -/
def blankSpan (later : Bool) : (inside : Bool) → List Char → List Char × Bool
  | inside, [] => ([], inside)
  | true, '*' :: '/' :: cs => ((' ' :: ' ' :: (blankSpan later false cs).1), (blankSpan later false cs).2)
  | true, c :: cs => (blanked c :: (blankSpan later true cs).1, (blankSpan later true cs).2)
  | false, '/' :: '*' :: cs =>
    if closesComment cs || later then ((' ' :: ' ' :: (blankSpan later true cs).1), (blankSpan later true cs).2)
    else (('/' :: '*' :: (blankSpan later false cs).1), (blankSpan later false cs).2)
  | false, c :: cs => (c :: (blankSpan later false cs).1, (blankSpan later false cs).2)

/-! ## What overwrites a comment -/

theorem blanked_eq (c : Char) : blanked c = ' ' ∨ c = '\n' ∧ blanked c = '\n' := by
  unfold blanked
  split
  · next isBreak => exact .inr ⟨isBreak, rfl⟩
  · exact .inl rfl

theorem mem_map_blanked {cs : List Char} {c : Char} (member : c ∈ cs.map blanked) : c = ' ' ∨ c = '\n' ∧ c ∈ cs := by
  obtain ⟨d, isThere, rfl⟩ := List.mem_map.mp member
  rcases blanked_eq d with space | ⟨rfl, isBreak⟩
  · exact .inl space
  · exact .inr ⟨isBreak, isBreak ▸ isThere⟩

theorem mem_blankCommentLine {line : List Char} {c : Char} (member : c ∈ blankCommentLine line) :
    c = ' ' ∨ c ∈ line := by
  unfold blankCommentLine at member
  split at member
  · exact (mem_map_blanked member).imp_right And.right
  · exact .inr member

/-! ## The end of a comment -/

theorem closesComment_cons {c : Char} {cs : List Char} (other : ∀ rest, c = '*' → cs ≠ '/' :: rest) :
    closesComment (c :: cs) = closesComment cs := by
  rw [closesComment.eq_def]
  split
  · next rest same =>
    obtain ⟨rfl, rfl⟩ := List.cons.inj same
    exact absurd rfl (other rest rfl)
  · next same => rw [(List.cons.inj same).2]
  · next same => cases same

theorem closesComment_append (cs more : List Char) (apart : more.head? ≠ some '/') :
    closesComment (cs ++ more) = (closesComment cs || closesComment more) := by
  fun_induction closesComment cs with
  | case1 rest => rfl
  | case2 c cs other inductionHypothesis =>
    rw [List.cons_append, closesComment_cons, inductionHypothesis]
    -- Only a star at the very end could meet a slash of the second part.
    rintro rest rfl same
    cases cs with
    | nil =>
      rw [List.nil_append] at same
      exact apart (by rw [same]; rfl)
    | cons next cs =>
      rw [List.cons_append] at same
      obtain ⟨rfl, rfl⟩ := List.cons.inj same
      exact other _ rfl rfl
  | case3 => rfl

theorem closesComment_break (rest : List Char) : closesComment ('\n' :: rest) = closesComment rest :=
  closesComment_cons fun _ isStar => by cases isStar

theorem closesComment_joinLines (lines : List (List Char)) :
    closesComment (joinLines lines) = lines.any closesComment := by
  fun_induction joinLines lines with
  | case1 => rfl
  | case2 line => simp
  | case3 line rest _ inductionHypothesis =>
    rw [closesComment_append _ _ (by simp), closesComment_break, inductionHypothesis, List.any_cons]

/-! ## One line of a text -/

theorem blankBlocks_inside {c : Char} {cs : List Char} (other : ∀ rest, c = '*' → cs ≠ '/' :: rest) :
    blankBlocks true (c :: cs) = blanked c :: blankBlocks true cs := by
  rw [blankBlocks.eq_def]
  split
  · next same => cases same
  · next rest _ same =>
    obtain ⟨rfl, rfl⟩ := List.cons.inj same
    exact absurd rfl (other _ rfl)
  · next same =>
    obtain ⟨rfl, rfl⟩ := List.cons.inj same
    rfl
  · next isFalse _ => cases isFalse
  · next isFalse _ => cases isFalse

theorem blankBlocks_outside {c : Char} {cs : List Char} (other : ∀ rest, c = '/' → cs ≠ '*' :: rest) :
    blankBlocks false (c :: cs) = c :: blankBlocks false cs := by
  rw [blankBlocks.eq_def]
  split
  · next same => cases same
  · next isTrue _ => cases isTrue
  · next isTrue _ => cases isTrue
  · next rest _ same =>
    obtain ⟨rfl, rfl⟩ := List.cons.inj same
    exact absurd rfl (other _ rfl)
  · next same =>
    obtain ⟨rfl, rfl⟩ := List.cons.inj same
    rfl

theorem ne_cons_of_break {d : Char} {cs rest : List Char} (notBreak : d ≠ '\n')
    (other : ∀ more, cs ≠ d :: more) (more : List Char) : cs ++ '\n' :: rest ≠ d :: more := by
  intro same
  cases cs with
  | nil => exact notBreak (List.cons.inj same).1.symm
  | cons next cs =>
    rw [List.cons_append] at same
    exact other cs (by rw [(List.cons.inj same).1])

theorem blankBlocks_append (rest : List Char) (inside : Bool) (line : List Char) :
    blankBlocks inside (line ++ '\n' :: rest) =
      (blankSpan (closesComment rest) inside line).1 ++
        '\n' :: blankBlocks (blankSpan (closesComment rest) inside line).2 rest := by
  fun_induction blankSpan (closesComment rest) inside line with
  | case1 inside =>
    cases inside with
    | true => exact blankBlocks_inside fun _ isStar => by cases isStar
    | false => exact blankBlocks_outside fun _ isSlash => by cases isSlash
  | case2 cs inductionHypothesis => simp [blankBlocks, inductionHypothesis]
  | case3 c cs other inductionHypothesis =>
    rw [List.cons_append, blankBlocks_inside, inductionHypothesis, List.cons_append]
    rintro more rfl
    exact ne_cons_of_break (by decide) (fun more same => other more rfl same) more
  | case4 cs closed inductionHypothesis =>
    have ends : closesComment (cs ++ '\n' :: rest) = true := by
      rw [closesComment_append _ _ (by simp), closesComment_break, closed]
    simp [blankBlocks, ends, inductionHypothesis]
  | case5 cs unclosed inductionHypothesis =>
    have ends : closesComment (cs ++ '\n' :: rest) = false := by
      rw [closesComment_append _ _ (by simp), closesComment_break]
      simpa using unclosed
    simp [blankBlocks, ends, inductionHypothesis]
  | case6 c cs other inductionHypothesis =>
    rw [List.cons_append, blankBlocks_outside, inductionHypothesis, List.cons_append]
    rintro more rfl
    exact ne_cons_of_break (by decide) (fun more same => other more rfl same) more

theorem blankBlocks_last (inside : Bool) (line : List Char) :
    blankBlocks inside line = (blankSpan false inside line).1 := by
  fun_induction blankSpan false inside line with
  | case1 inside => cases inside <;> rfl
  | case2 cs inductionHypothesis => simp [blankBlocks, inductionHypothesis]
  | case3 c cs other inductionHypothesis =>
    rw [blankBlocks_inside fun more isStar same => other more isStar same, inductionHypothesis]
  | case4 cs closed inductionHypothesis =>
    simp [blankBlocks, inductionHypothesis, (by simpa using closed : closesComment cs = true)]
  | case5 cs unclosed inductionHypothesis =>
    simp [blankBlocks, inductionHypothesis, (by simpa using unclosed : closesComment cs = false)]
  | case6 c cs other inductionHypothesis =>
    rw [blankBlocks_outside fun more isSlash same => other more isSlash same, inductionHypothesis]

/-! ## All lines of a text -/

def blankLines : (inside : Bool) → List (List Char) → List (List Char)
  | _, [] => []
  | inside, line :: following =>
    let span := blankSpan (following.any closesComment) inside line
    span.1 :: blankLines span.2 following

theorem blankBlocks_joinLines (inside : Bool) (lines : List (List Char)) :
    blankBlocks inside (joinLines lines) = joinLines (blankLines inside lines) := by
  induction lines generalizing inside with
  | nil => cases inside <;> rfl
  | cons line rest inductionHypothesis =>
    cases rest with
    | nil => exact blankBlocks_last inside line
    | cons next rest =>
      rw [joinLines, blankBlocks_append, inductionHypothesis, closesComment_joinLines]
      · rfl
      · exact List.cons_ne_nil _ _

theorem mem_blankSpan {later inside : Bool} {line : List Char} {c : Char}
    (member : c ∈ (blankSpan later inside line).1) : c = ' ' ∨ c ∈ line := by
  fun_induction blankSpan later inside line with
  | case1 inside => cases member
  | case2 cs inductionHypothesis =>
    simp only [List.mem_cons] at member ⊢
    rcases member with space | space | later
    · exact .inl space
    · exact .inl space
    · exact (inductionHypothesis later).imp_right fun isThere => .inr (.inr isThere)
  | case3 d cs _ inductionHypothesis =>
    simp only [List.mem_cons] at member ⊢
    rcases member with here | later
    · rcases blanked_eq d with space | ⟨isBreak, same⟩
      · exact .inl (here.trans space)
      · exact .inr (.inl (here.trans (same.trans isBreak.symm)))
    · exact (inductionHypothesis later).imp_right .inr
  | case4 cs _ inductionHypothesis =>
    simp only [List.mem_cons] at member ⊢
    rcases member with space | space | later
    · exact .inl space
    · exact .inl space
    · exact (inductionHypothesis later).imp_right fun isThere => .inr (.inr isThere)
  | case5 cs _ inductionHypothesis =>
    simp only [List.mem_cons] at member ⊢
    rcases member with here | here | later
    · exact .inr (.inl here)
    · exact .inr (.inr (.inl here))
    · exact (inductionHypothesis later).imp_right fun isThere => .inr (.inr isThere)
  | case6 d cs _ inductionHypothesis =>
    simp only [List.mem_cons] at member ⊢
    rcases member with here | later
    · exact .inr (.inl here)
    · exact (inductionHypothesis later).imp_right .inr

theorem IsLine.of_overwritten {line result : List Char} (isLine : IsLine line)
    (overwritten : ∀ c ∈ result, c = ' ' ∨ c ∈ line) : IsLine result := by
  constructor
  · intro member
    rcases overwritten _ member with space | isThere
    · cases space
    · exact isLine.1 isThere
  · intro member
    rcases overwritten _ member with space | isThere
    · cases space
    · exact isLine.2 isThere

theorem IsLine.blankSpan {line : List Char} (isLine : IsLine line) (later inside : Bool) :
    IsLine (Text.blankSpan later inside line).1 :=
  isLine.of_overwritten fun _ member => mem_blankSpan member

theorem isLine_blankLines {lines : List (List Char)} (areLines : ∀ line ∈ lines, IsLine line) (inside : Bool) :
    ∀ line ∈ blankLines inside lines, IsLine line := by
  induction lines generalizing inside with
  | nil => simp [blankLines]
  | cons first rest inductionHypothesis =>
    intro line member
    rcases List.mem_cons.mp member with rfl | later
    · exact (areLines first (List.mem_cons_self ..)).blankSpan _ _
    · exact inductionHypothesis (fun line isThere => areLines line (List.mem_cons_of_mem _ isThere)) _ line later

theorem length_blankLines (inside : Bool) (lines : List (List Char)) :
    (blankLines inside lines).length = lines.length := by
  induction lines generalizing inside with
  | nil => rfl
  | cons line rest inductionHypothesis => simp [blankLines, inductionHypothesis]

theorem blankLines_ne_nil (inside : Bool) {lines : List (List Char)} (nonempty : lines ≠ []) :
    blankLines inside lines ≠ [] := by
  intro empty
  have sameLength := length_blankLines inside lines
  rw [empty] at sameLength
  exact nonempty (List.length_eq_zero_iff.mp sameLength.symm)

theorem IsLine.blankCommentLine {line : List Char} (isLine : IsLine line) : IsLine (Text.blankCommentLine line) :=
  isLine.of_overwritten fun _ member => mem_blankCommentLine member

theorem eraseComments_joinLines {lines : List (List Char)} (nonempty : lines ≠ [])
    (areLines : ∀ line ∈ lines, IsLine line) :
    eraseComments (joinLines lines) = joinLines ((blankLines false lines).map blankCommentLine) := by
  rw [eraseComments, blankBlocks_joinLines, splitAtBreaks_joinLines (blankLines_ne_nil false nonempty)]
  exact fun line member => (isLine_blankLines areLines false line member).1

end Text

open Text

/-- The analysis goes line by line. -/
theorem Document.analysed_eq (text : String) :
    Document.analysed text =
      (blankLines false (Document.lines text)).map fun line => (blankCommentLine line).map Char.toLower := by
  have areLines : ∀ line ∈ Document.lines text, IsLine line := fun line member => isLine_of_mem_splitLines member
  have nonempty : Document.lines text ≠ [] := splitLines_ne_nil _
  -- Overwriting brings in no breaks, so the text can be cut into lines before or after.
  have blankNonempty : (blankLines false (Document.lines text)).map blankCommentLine ≠ [] := by
    simpa using blankLines_ne_nil false nonempty
  have stillLines : ∀ line ∈ (blankLines false (Document.lines text)).map blankCommentLine, IsLine line := by
    intro line member
    obtain ⟨blank, isThere, rfl⟩ := List.mem_map.mp member
    exact (isLine_blankLines areLines false blank isThere).blankCommentLine
  rw [Document.analysed, ← joinLines_splitLines, ← Document.lines, eraseComments_joinLines nonempty areLines,
    splitLines_joinLines blankNonempty stillLines, List.map_map]
  rfl

end ChartConfig
