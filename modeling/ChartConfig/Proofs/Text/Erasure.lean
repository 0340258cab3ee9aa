import ChartConfig.Proofs.Text.Comment
import Mathlib.Data.List.TakeWhile
import Mathlib.Data.Nat.Find
import Mathlib.Tactic.ByContra

/-!
# What is overwritten

Block comments are found by a search from left to right: the next one is the shortest at the leftmost place where there
is one, and the search goes on behind it. A text either begins with such a comment or goes on after one character of
plain text, and what is said here of the first pass is an induction along this. The second pass goes line by line.

Both passes only overwrite, so a mark that is left over was in the text. Hence no comment can come to light where none
was found, and what has been erased once is left as it is.
-/

namespace ChartConfig.Text

/-! ## Block comments by their places -/

/-- The mark stands in the text from the given place on. -/
def StandsAt (mark text : List Char) (place : Nat) : Prop :=
  mark <+: text.drop place

instance (mark text : List Char) (place : Nat) : Decidable (StandsAt mark text place) :=
  inferInstanceAs (Decidable (mark <+: text.drop place))

/-- The shortest block comment that opens at a place; it closes at the nearest `*/` behind the opening. -/
structure IsBlock (text : List Char) (opening closing : Nat) : Prop where
  opens : StandsAt ['/', '*'] text opening
  closes : StandsAt ['*', '/'] text closing
  behind : opening + 2 ≤ closing
  nearest : ∀ place, opening + 2 ≤ place → place < closing → ¬ StandsAt ['*', '/'] text place

structure IsNext (text : List Char) (start opening closing : Nat) : Prop where
  isBlock : IsBlock text opening closing
  reached : start ≤ opening
  leftmost : ∀ place, start ≤ place → place < opening → ∀ other, ¬ IsBlock text place other

/-- The block comments that a search from `start` finds, one behind the other. -/
inductive Finds (text : List Char) : (start opening closing : Nat) → Prop where
  | first {start opening closing : Nat} : IsNext text start opening closing → Finds text start opening closing
  | later {start opening closing next nextClosing : Nat} : IsNext text start opening closing →
      Finds text (closing + 2) next nextClosing → Finds text start next nextClosing

/-- The place is in a block comment that a search from `start` finds. -/
def InBlock (text : List Char) (start place : Nat) : Prop :=
  ∃ opening closing, Finds text start opening closing ∧ opening ≤ place ∧ place < closing + 2

variable {text cs line rest mark : List Char} {c : Char} {start place opening closing other n : Nat}

theorem standsAt_iff :
    StandsAt mark text place ↔ ∀ i (inside : i < mark.length), text[place + i]? = some mark[i] := by
  rw [StandsAt, List.prefix_iff_getElem?]
  simp only [List.getElem?_drop]

theorem StandsAt.le_length (stands : StandsAt mark text place) (nonempty : mark ≠ []) :
    place + mark.length ≤ text.length := by
  have fits := stands.length_le
  have positive := List.length_pos_iff.mpr nonempty
  rw [List.length_drop] at fits
  omega

theorem standsAt_drop : StandsAt mark (text.drop n) place ↔ StandsAt mark text (n + place) := by
  rw [StandsAt, StandsAt, List.drop_drop]

theorem exists_isBlock (opens : StandsAt ['/', '*'] text opening) (closes : StandsAt ['*', '/'] text closing)
    (behind : opening + 2 ≤ closing) : ∃ closing, IsBlock text opening closing := by
  have closed : ∃ closing, opening + 2 ≤ closing ∧ StandsAt ['*', '/'] text closing := ⟨closing, behind, closes⟩
  obtain ⟨behind, closes⟩ := Nat.find_spec closed
  exact ⟨Nat.find closed, opens, closes, behind, fun place atLeast before closes =>
    Nat.find_min closed before ⟨atLeast, closes⟩⟩

theorem IsBlock.eq (isBlock : IsBlock text opening closing) (another : IsBlock text opening other) :
    closing = other := by
  rcases Nat.lt_trichotomy closing other with before | same | before
  · exact absurd isBlock.closes (another.nearest closing isBlock.behind before)
  · exact same
  · exact absurd another.closes (isBlock.nearest other another.behind before)

theorem IsBlock.length_blanked (isBlock : IsBlock text 0 closing) :
    ((text.take (closing + 2)).map blanked).length = closing + 2 := by
  have fits : closing + 2 ≤ text.length := isBlock.closes.le_length (List.cons_ne_nil _ _)
  rw [List.length_map, List.length_take, Nat.min_eq_left fits]

theorem isBlock_drop : IsBlock (text.drop n) opening closing ↔ IsBlock text (n + opening) (n + closing) := by
  constructor
  · rintro ⟨opens, closes, behind, nearest⟩
    refine ⟨standsAt_drop.mp opens, standsAt_drop.mp closes, by omega, fun place atLeast before => ?_⟩
    obtain ⟨offset, rfl⟩ := Nat.exists_eq_add_of_le (show n ≤ place by omega)
    rw [← standsAt_drop]
    exact nearest offset (by omega) (by omega)
  · rintro ⟨opens, closes, behind, nearest⟩
    refine ⟨standsAt_drop.mpr opens, standsAt_drop.mpr closes, by omega, fun place atLeast before => ?_⟩
    rw [standsAt_drop]
    exact nearest (n + place) (by omega) (by omega)

theorem isNext_drop :
    IsNext (text.drop n) start opening closing ↔ IsNext text (n + start) (n + opening) (n + closing) := by
  constructor
  · rintro ⟨isBlock, reached, leftmost⟩
    refine ⟨isBlock_drop.mp isBlock, by omega, fun place atLeast before other another => ?_⟩
    obtain ⟨offset, rfl⟩ := Nat.exists_eq_add_of_le (show n ≤ place by omega)
    obtain ⟨otherOffset, rfl⟩ := Nat.exists_eq_add_of_le (show n ≤ other by have := another.behind; omega)
    exact leftmost offset (by omega) (by omega) otherOffset (isBlock_drop.mpr another)
  · rintro ⟨isBlock, reached, leftmost⟩
    refine ⟨isBlock_drop.mpr isBlock, by omega, fun place atLeast before other another => ?_⟩
    exact leftmost (n + place) (by omega) (by omega) (n + other) (isBlock_drop.mp another)

theorem Finds.bounds (found : Finds text start opening closing) : start ≤ opening ∧ opening + 2 ≤ closing := by
  induction found with
  | first next => exact ⟨next.reached, next.isBlock.behind⟩
  | later next _ inductionHypothesis =>
    have reached := next.reached
    have behind := next.isBlock.behind
    omega

theorem Finds.of_drop (found : Finds (text.drop n) start opening closing) :
    Finds text (n + start) (n + opening) (n + closing) := by
  induction found with
  | first next => exact .first (isNext_drop.mp next)
  | later next _ inductionHypothesis => exact .later (isNext_drop.mp next) inductionHypothesis

theorem Finds.drop (found : Finds text start opening closing) (behind : n ≤ start) :
    Finds (text.drop n) (start - n) (opening - n) (closing - n) := by
  have shifted {start opening closing : Nat} (behind : n ≤ start) (next : IsNext text start opening closing) :
      IsNext (text.drop n) (start - n) (opening - n) (closing - n) := by
    have reached := next.reached
    have apart := next.isBlock.behind
    rw [isNext_drop, Nat.add_sub_cancel' (by omega), Nat.add_sub_cancel' (by omega), Nat.add_sub_cancel' (by omega)]
    exact next
  induction found with
  | first next => exact .first (shifted behind next)
  | later next _ inductionHypothesis =>
    have reached := next.reached
    have apart := next.isBlock.behind
    refine .later (shifted behind next) ?_
    rw [← Nat.sub_add_comm (by omega)]
    exact inductionHypothesis (by omega)

theorem inBlock_drop : InBlock (text.drop n) 0 place ↔ InBlock text n (n + place) := by
  constructor
  · rintro ⟨opening, closing, found, atLeast, before⟩
    exact ⟨n + opening, n + closing, found.of_drop, by omega, by omega⟩
  · rintro ⟨opening, closing, found, atLeast, before⟩
    have shifted := found.drop (Nat.le_refl n)
    rw [Nat.sub_self] at shifted
    exact ⟨opening - n, closing - n, shifted, by omega, by omega⟩

theorem InBlock.le (inside : InBlock text start place) : start ≤ place := by
  obtain ⟨opening, closing, found, atLeast, -⟩ := inside
  exact Nat.le_trans found.bounds.1 atLeast

theorem inBlock_of_plain (plain : ∀ closing, ¬ IsBlock text 0 closing) :
    InBlock text 0 place ↔ InBlock text 1 place := by
  have sameNext {opening closing : Nat} : IsNext text 0 opening closing ↔ IsNext text 1 opening closing := by
    constructor
    · rintro ⟨isBlock, -, leftmost⟩
      refine ⟨isBlock, ?_, fun place _ => leftmost place (Nat.zero_le _)⟩
      rw [Nat.one_le_iff_ne_zero]
      rintro rfl
      exact plain closing isBlock
    · rintro ⟨isBlock, -, leftmost⟩
      refine ⟨isBlock, Nat.zero_le _, fun place _ before other => ?_⟩
      cases place with
      | zero => exact plain other
      | succ place => exact leftmost _ (by omega) before other
  have sameFinds {opening closing : Nat} : Finds text 0 opening closing ↔ Finds text 1 opening closing := by
    constructor
    · rintro (next | ⟨next, found⟩)
      · exact .first (sameNext.mp next)
      · exact .later (sameNext.mp next) found
    · rintro (next | ⟨next, found⟩)
      · exact .first (sameNext.mpr next)
      · exact .later (sameNext.mpr next) found
  simp only [InBlock, sameFinds]

theorem inBlock_of_isBlock (isBlock : IsBlock text 0 closing) :
    InBlock text 0 place ↔ place < closing + 2 ∨ InBlock text (closing + 2) place := by
  have isFirst : IsNext text 0 0 closing := ⟨isBlock, Nat.le_refl 0, fun _ _ before => absurd before (by omega)⟩
  have only {opening other : Nat} (next : IsNext text 0 opening other) : opening = 0 ∧ other = closing := by
    have atStart : opening = 0 := by
      by_contra behind
      exact next.leftmost 0 (Nat.le_refl 0) (by omega) closing isBlock
    exact ⟨atStart, (atStart ▸ next.isBlock).eq isBlock⟩
  constructor
  · rintro ⟨opening, other, next | ⟨next, found⟩, atLeast, before⟩
    · exact .inl ((only next).2 ▸ before)
    · exact .inr ⟨opening, other, (only next).2 ▸ found, atLeast, before⟩
  · rintro (before | ⟨opening, other, found, atLeast, before⟩)
    · exact ⟨0, closing, .first isFirst, Nat.zero_le _, before⟩
    · exact ⟨opening, other, .later isFirst found, atLeast, before⟩

/-! ## The first pass -/

theorem closesComment_iff : closesComment cs = true ↔ ∃ place, StandsAt ['*', '/'] cs place := by
  fun_induction closesComment cs with
  | case1 rest => exact iff_of_true rfl ⟨0, rest, rfl⟩
  | case2 c cs other inductionHypothesis =>
    rw [inductionHypothesis]
    constructor
    · rintro ⟨place, closes⟩
      exact ⟨place + 1, closes⟩
    · rintro ⟨place, closes⟩
      cases place with
      | zero =>
        obtain ⟨rest, same⟩ := closes
        obtain ⟨rfl, rfl⟩ := List.cons.inj same
        exact absurd rfl (other rest rfl)
      | succ place => exact ⟨place, closes⟩
  | case3 =>
    refine iff_of_false Bool.false_ne_true ?_
    rintro ⟨place, closes⟩
    have fits := closes.le_length (List.cons_ne_nil _ _)
    simp at fits

theorem blankBlocks_inside_block (closes : StandsAt ['*', '/'] cs n)
    (nearest : ∀ place, place < n → ¬ StandsAt ['*', '/'] cs place) :
    blankBlocks true cs = (cs.take (n + 2)).map blanked ++ blankBlocks false (cs.drop (n + 2)) := by
  induction n generalizing cs with
  | zero =>
    obtain ⟨rest, same⟩ := closes
    rw [List.drop_zero] at same
    rw [← same]
    rfl
  | succ n inductionHypothesis =>
    cases cs with
    | nil =>
      have fits := closes.le_length (List.cons_ne_nil _ _)
      simp at fits
    | cons c cs =>
      have notHere : ∀ rest, c = '*' → cs ≠ '/' :: rest := by
        rintro rest rfl rfl
        exact nearest 0 (Nat.succ_pos n) ⟨rest, rfl⟩
      have further : ∀ place, place < n → ¬ StandsAt ['*', '/'] cs place :=
        fun place before => nearest (place + 1) (by omega)
      rw [blankBlocks_inside notHere, inductionHypothesis closes further]
      rfl

theorem blankBlocks_of_isBlock (isBlock : IsBlock text 0 closing) :
    blankBlocks false text = (text.take (closing + 2)).map blanked ++ blankBlocks false (text.drop (closing + 2)) := by
  obtain ⟨⟨cs, same⟩, closes, behind, nearest⟩ := isBlock
  rw [List.drop_zero] at same
  subst same
  obtain ⟨n, rfl⟩ := Nat.exists_eq_add_of_le' behind
  have closes : StandsAt ['*', '/'] cs n := closes
  have further : ∀ place, place < n → ¬ StandsAt ['*', '/'] cs place :=
    fun place before => nearest (place + 2) (by omega) (by omega)
  have closed : closesComment cs = true := closesComment_iff.mpr ⟨n, closes⟩
  rw [List.cons_append, List.cons_append, List.nil_append, blankBlocks, if_pos closed,
    blankBlocks_inside_block closes further]
  rfl

theorem blankBlocks_of_plain (plain : ∀ closing, ¬ IsBlock (c :: cs) 0 closing) :
    blankBlocks false (c :: cs) = c :: blankBlocks false cs := by
  by_cases opens : ∃ rest, c = '/' ∧ cs = '*' :: rest
  · obtain ⟨rest, rfl, rfl⟩ := opens
    have unclosed : closesComment rest ≠ true := by
      intro closed
      obtain ⟨place, closes⟩ := closesComment_iff.mp closed
      obtain ⟨closing, isBlock⟩ :=
        @exists_isBlock ('/' :: '*' :: rest) 0 (place + 2) ⟨rest, rfl⟩ closes (by omega)
      exact plain closing isBlock
    have star : blankBlocks false ('*' :: rest) = '*' :: blankBlocks false rest :=
      blankBlocks_outside fun _ isSlash => by cases isSlash
    rw [blankBlocks, if_neg unclosed, star]
  · exact blankBlocks_outside fun rest isSlash isStar => opens ⟨rest, isSlash, isStar⟩

/-- A text either begins with a block comment or goes on after one character. -/
theorem blockInduction {motive : List Char → Prop} (nil : motive [])
    (plain : ∀ c cs, (∀ closing, ¬ IsBlock (c :: cs) 0 closing) → motive cs → motive (c :: cs))
    (block : ∀ text closing, IsBlock text 0 closing → motive (text.drop (closing + 2)) → motive text) :
    ∀ text, motive text
  | [] => nil
  | c :: cs => by
    by_cases isBlock : ∃ closing, IsBlock (c :: cs) 0 closing
    · obtain ⟨closing, isBlock⟩ := isBlock
      exact block _ closing isBlock (blockInduction nil plain block ((c :: cs).drop (closing + 2)))
    · rw [not_exists] at isBlock
      exact plain c cs isBlock (blockInduction nil plain block cs)
termination_by text => text.length

theorem getElem?_blankBlocks (text : List Char) (place : Nat) :
    (InBlock text 0 place → (blankBlocks false text)[place]? = text[place]?.map blanked) ∧
      (¬ InBlock text 0 place → (blankBlocks false text)[place]? = text[place]?) := by
  induction text using blockInduction generalizing place with
  | nil => exact ⟨fun _ => rfl, fun _ => rfl⟩
  | plain c cs plain inductionHypothesis =>
    rw [blankBlocks_of_plain plain, inBlock_of_plain plain]
    cases place with
    | zero => exact ⟨fun inside => absurd inside.le (by omega), fun _ => rfl⟩
    | succ place =>
      have shifted : InBlock (c :: cs) 1 (place + 1) ↔ InBlock cs 0 place := by
        rw [Nat.add_comm, ← inBlock_drop]
        rfl
      rw [shifted]
      exact inductionHypothesis place
  | block text closing isBlock inductionHypothesis =>
    have length := isBlock.length_blanked
    rw [blankBlocks_of_isBlock isBlock, inBlock_of_isBlock isBlock]
    by_cases before : place < closing + 2
    · refine ⟨fun _ => ?_, fun outside => absurd (.inl before) outside⟩
      rw [List.getElem?_append_left (by omega), List.getElem?_map, List.getElem?_take_of_lt before]
    · obtain ⟨offset, rfl⟩ := Nat.exists_eq_add_of_le (Nat.le_of_not_lt before)
      rw [List.getElem?_append_right (by omega), length, Nat.add_sub_cancel_left, or_iff_right before, ← inBlock_drop,
        ← List.getElem?_drop]
      exact inductionHypothesis offset

/-! ## The second pass -/

def blankCommentLines (text : List Char) : List Char :=
  joinLines ((splitAtBreaks text).map blankCommentLine)

/-- The line around a place, back to the break before it and on to the next. -/
def lineAround (text : List Char) (place : Nat) : List Char :=
  ((text.take place).reverse.takeWhile (· ≠ '\n')).reverse ++ (text.drop place).takeWhile (· ≠ '\n')

def OnCommentLine (text : List Char) (place : Nat) : Prop :=
  isCommentLine (lineAround text place) = true

/-- A text is one line, or a line and the rest behind its break. -/
theorem lineInduction {motive : List Char → Prop} (last : ∀ line, '\n' ∉ line → motive line)
    (more : ∀ line rest, '\n' ∉ line → motive rest → motive (line ++ '\n' :: rest)) (text : List Char) :
    motive text := by
  rw [← joinLines_splitAtBreaks text]
  have free : ∀ line ∈ splitAtBreaks text, '\n' ∉ line := fun line => not_mem_of_mem_splitAtBreaks
  generalize splitAtBreaks text = lines at free
  fun_induction joinLines lines with
  | case1 => exact last [] List.not_mem_nil
  | case2 line => exact last line (free line (List.mem_singleton_self line))
  | case3 line rest _ inductionHypothesis =>
    rw [List.forall_mem_cons] at free
    exact more line _ free.1 (inductionHypothesis free.2)

theorem takeWhile_of_free (free : '\n' ∉ line) : line.takeWhile (· ≠ '\n') = line := by
  rw [List.takeWhile_eq_self_iff]
  intro c isThere
  rw [decide_eq_true_eq]
  rintro rfl
  exact free isThere

theorem takeWhile_before_break (cs rest : List Char) :
    (cs ++ '\n' :: rest).takeWhile (· ≠ '\n') = cs.takeWhile (· ≠ '\n') := by
  induction cs with
  | nil => rfl
  | cons c cs inductionHypothesis =>
    rw [List.cons_append, List.takeWhile_cons, List.takeWhile_cons, inductionHypothesis]

theorem lineAround_last (free : '\n' ∉ line) (place : Nat) : lineAround line place = line := by
  have before : '\n' ∉ (line.take place).reverse :=
    fun isThere => free (List.mem_of_mem_take (List.mem_reverse.mp isThere))
  have behind : '\n' ∉ line.drop place := fun isThere => free (List.mem_of_mem_drop isThere)
  rw [lineAround, takeWhile_of_free before, takeWhile_of_free behind, List.reverse_reverse, List.take_append_drop]

theorem lineAround_on_first (within : place ≤ line.length) :
    lineAround (line ++ '\n' :: rest) place = lineAround line place := by
  rw [lineAround, lineAround, List.take_append_of_le_length within, List.drop_append_of_le_length within,
    takeWhile_before_break]

theorem lineAround_behind_first (line rest : List Char) (place : Nat) :
    lineAround (line ++ '\n' :: rest) (line.length + 1 + place) = lineAround rest place := by
  have cut : line ++ '\n' :: rest = (line ++ ['\n']) ++ rest := by simp
  have length : (line ++ ['\n']).length = line.length + 1 := by simp
  have backwards : (line ++ ['\n'] ++ rest.take place).reverse =
      (rest.take place).reverse ++ '\n' :: line.reverse := by
    simp
  rw [cut, ← length, lineAround, lineAround, List.take_length_add_append, List.drop_length_add_append, backwards,
    takeWhile_before_break]

theorem length_blankCommentLine (line : List Char) : (blankCommentLine line).length = line.length := by
  rw [blankCommentLine]
  split
  · rw [List.length_map]
  · rfl

theorem getElem?_blankCommentLine (cs : List Char) (place : Nat) :
    (blankCommentLine cs)[place]? = if isCommentLine cs then cs[place]?.map blanked else cs[place]? := by
  rw [blankCommentLine]
  split
  · rw [List.getElem?_map]
  · rfl

theorem blankCommentLines_last (free : '\n' ∉ line) : blankCommentLines line = blankCommentLine line := by
  rw [blankCommentLines, splitAtBreaks_line free]
  rfl

theorem blankCommentLines_append (free : '\n' ∉ line) (rest : List Char) :
    blankCommentLines (line ++ '\n' :: rest) = blankCommentLine line ++ '\n' :: blankCommentLines rest := by
  have nonempty : (splitAtBreaks rest).map blankCommentLine ≠ [] := by
    simpa using splitAtBreaks_ne_nil rest
  rw [blankCommentLines, splitAtBreaks_append free, List.map_cons, joinLines]
  · rfl
  · exact nonempty

theorem getElem?_behind_break (line rest : List Char) (offset : Nat) :
    (line ++ '\n' :: rest)[line.length + 1 + offset]? = rest[offset]? := by
  rw [List.getElem?_append_right (by omega), Nat.add_assoc, Nat.add_sub_cancel_left, Nat.add_comm,
    List.getElem?_cons_succ]

theorem getElem?_blankCommentLines (text : List Char) (place : Nat) :
    (OnCommentLine text place → (blankCommentLines text)[place]? = text[place]?.map blanked) ∧
      (¬ OnCommentLine text place → (blankCommentLines text)[place]? = text[place]?) := by
  induction text using lineInduction generalizing place with
  | last line free =>
    rw [OnCommentLine, lineAround_last free, blankCommentLines_last free, getElem?_blankCommentLine]
    exact ⟨fun isComment => if_pos isComment, fun isNone => if_neg isNone⟩
  | more line rest free inductionHypothesis =>
    rw [OnCommentLine, blankCommentLines_append free]
    rcases Nat.lt_trichotomy place line.length with inLine | atBreak | behind
    · rw [lineAround_on_first (Nat.le_of_lt inLine), lineAround_last free, List.getElem?_append_left inLine,
        List.getElem?_append_left (by rwa [length_blankCommentLine]), getElem?_blankCommentLine]
      exact ⟨fun isComment => if_pos isComment, fun isNone => if_neg isNone⟩
    · have isBreak (cs more : List Char) (ends : place = cs.length) : (cs ++ '\n' :: more)[place]? = some '\n' := by
        rw [ends]
        simp
      rw [isBreak line rest atBreak, isBreak _ _ (atBreak.trans (length_blankCommentLine line).symm)]
      exact ⟨fun _ => rfl, fun _ => rfl⟩
    · obtain ⟨offset, rfl⟩ := Nat.exists_eq_add_of_le behind
      have blankBehind : (blankCommentLine line ++ '\n' :: blankCommentLines rest)[line.length + 1 + offset]? =
          (blankCommentLines rest)[offset]? := by
        rw [← length_blankCommentLine line]
        exact getElem?_behind_break ..
      rw [lineAround_behind_first, blankBehind, getElem?_behind_break]
      exact inductionHypothesis offset

/-! ## What is left -/

theorem map_blanked_twice (found : Option Char) : (found.map blanked).map blanked = found.map blanked := by
  cases found with
  | none => rfl
  | some c => rcases blanked_eq c with space | ⟨-, isBreak⟩ <;> simp [*, blanked]

/-- Some characters of the text have been overwritten. -/
def Overwritten (text result : List Char) : Prop :=
  ∀ place : Nat, result[place]? = text[place]? ∨ result[place]? = text[place]?.map blanked

theorem overwritten_blankBlocks (text : List Char) : Overwritten text (blankBlocks false text) := fun place => by
  by_cases inside : InBlock text 0 place
  · exact .inr ((getElem?_blankBlocks text place).1 inside)
  · exact .inl ((getElem?_blankBlocks text place).2 inside)

theorem overwritten_blankCommentLines (text : List Char) : Overwritten text (blankCommentLines text) := fun place => by
  by_cases isComment : OnCommentLine text place
  · exact .inr ((getElem?_blankCommentLines text place).1 isComment)
  · exact .inl ((getElem?_blankCommentLines text place).2 isComment)

namespace Overwritten

variable {result : List Char}

theorem trans {between : List Char} (first : Overwritten text between) (second : Overwritten between result) :
    Overwritten text result := by
  intro place
  rcases first place with same | blank <;> rcases second place with same' | blank'
  · exact .inl (same'.trans same)
  · exact .inr (by rw [blank', same])
  · exact .inr (by rw [same', blank])
  · exact .inr (by rw [blank', blank, map_blanked_twice])

theorem length_eq (overwritten : Overwritten text result) : result.length = text.length := by
  have ends (place : Nat) : result.length ≤ place ↔ text.length ≤ place := by
    rw [← List.getElem?_eq_none_iff, ← List.getElem?_eq_none_iff]
    rcases overwritten place with same | blank
    · rw [same]
    · rw [blank, Option.map_eq_none_iff]
  exact Nat.le_antisymm ((ends _).mpr (Nat.le_refl _)) ((ends _).mp (Nat.le_refl _))

theorem eq_or_space (overwritten : Overwritten text result) (place : Nat) :
    result[place]? = text[place]? ∨ result[place]? = some ' ' ∧ ∃ c, text[place]? = some c ∧ c ≠ '\n' := by
  rcases overwritten place with same | blank
  · exact .inl same
  · rw [blank]
    cases text[place]? with
    | none => exact .inl rfl
    | some c =>
      by_cases isBreak : c = '\n'
      · rw [isBreak]
        exact .inl rfl
      · refine .inr ⟨?_, c, rfl, isBreak⟩
        rw [Option.map_some, blanked, if_neg isBreak]

theorem standsAt (overwritten : Overwritten text result) (free : ' ' ∉ mark) (stands : StandsAt mark result place) :
    StandsAt mark text place := by
  rw [standsAt_iff] at stands ⊢
  intro i inside
  rcases overwritten.eq_or_space (place + i) with same | ⟨space, -⟩
  · rw [← same, stands i inside]
  · rw [stands i inside, Option.some.injEq] at space
    exact absurd (space ▸ List.getElem_mem inside) free

theorem exists_isBlock (overwritten : Overwritten text result) (isBlock : IsBlock result opening closing) :
    ∃ closing, IsBlock text opening closing :=
  Text.exists_isBlock (overwritten.standsAt (by decide) isBlock.opens) (overwritten.standsAt (by decide) isBlock.closes)
    isBlock.behind

end Overwritten

theorem not_isBlock_blankBlocks (text : List Char) (opening closing : Nat) :
    ¬ IsBlock (blankBlocks false text) opening closing := by
  induction text using blockInduction generalizing opening closing with
  | nil =>
    intro isBlock
    have fits := isBlock.opens.le_length (List.cons_ne_nil _ _)
    simp [blankBlocks] at fits
  | plain c cs plain inductionHypothesis =>
    intro isBlock
    cases opening with
    | zero =>
      -- Its marks were in the text, which would begin with a comment then.
      obtain ⟨closing, isBlock⟩ := (overwritten_blankBlocks (c :: cs)).exists_isBlock isBlock
      exact plain closing isBlock
    | succ opening =>
      obtain ⟨closing, rfl⟩ := Nat.exists_eq_add_of_le (show 1 ≤ closing by have := isBlock.behind; omega)
      rw [blankBlocks_of_plain plain, Nat.add_comm, ← isBlock_drop] at isBlock
      exact inductionHypothesis opening closing isBlock
  | block text ending isFirst inductionHypothesis =>
    intro isBlock
    have behind := isBlock.behind
    rw [blankBlocks_of_isBlock isFirst] at isBlock
    by_cases before : opening < ending + 2
    · have slash := standsAt_iff.mp isBlock.opens 0 (by decide)
      rw [Nat.add_zero, List.getElem?_append_left (by rwa [isFirst.length_blanked])] at slash
      rcases mem_map_blanked (List.mem_of_getElem? slash) with isSpace | ⟨isBreak, -⟩
      · cases isSpace
      · cases isBreak
    · obtain ⟨offset, rfl⟩ := Nat.exists_eq_add_of_le (Nat.le_of_not_lt before)
      obtain ⟨closing, rfl⟩ := Nat.exists_eq_add_of_le (show ending + 2 ≤ closing by omega)
      rw [← isBlock_drop, List.drop_left' isFirst.length_blanked] at isBlock
      exact inductionHypothesis offset closing isBlock

theorem not_isCommentLine_blankCommentLine (line : List Char) : isCommentLine (blankCommentLine line) = false := by
  rw [blankCommentLine]
  split
  · rw [Bool.eq_false_iff]
    intro isComment
    rw [isCommentLine, beq_iff_eq] at isComment
    have isThere := (List.dropWhile_sublist _).subset (List.mem_of_head? isComment)
    rcases mem_map_blanked isThere with isSpace | ⟨isBreak, -⟩
    · cases isSpace
    · cases isBreak
  · next isNone => exact Bool.eq_false_iff.mpr isNone

theorem splitAtBreaks_blankCommentLines (text : List Char) :
    splitAtBreaks (blankCommentLines text) = (splitAtBreaks text).map blankCommentLine := by
  refine splitAtBreaks_joinLines (by simpa using splitAtBreaks_ne_nil text) fun line isThere => ?_
  obtain ⟨line, isLine, rfl⟩ := List.mem_map.mp isThere
  intro isBreak
  rcases mem_blankCommentLine isBreak with isSpace | inLine
  · cases isSpace
  · exact not_mem_of_mem_splitAtBreaks isLine inLine

theorem blankBlocks_eq_self (none : ∀ opening closing, ¬ IsBlock text opening closing) :
    blankBlocks false text = text := by
  refine List.ext_getElem? fun place => (getElem?_blankBlocks text place).2 ?_
  rintro ⟨opening, closing, next | ⟨next, -⟩, -⟩ <;> exact none _ _ next.isBlock

theorem blankCommentLines_eq_self (none : ∀ line ∈ splitAtBreaks text, isCommentLine line = false) :
    blankCommentLines text = text := by
  have same : (splitAtBreaks text).map blankCommentLine = splitAtBreaks text := by
    refine (List.map_congr_left fun line isLine => ?_).trans (List.map_id _)
    rw [blankCommentLine, if_neg (Bool.eq_false_iff.mp (none line isLine)), id]
  rw [blankCommentLines, same, joinLines_splitAtBreaks]

/-- Erasing comments keeps every character at its place: the text stays as long as it is, and spaces stand for the
    characters of comments, except for breaks. No comment is left, nothing but the block comments found and then the
    lines that are comments is overwritten, and erasing again changes nothing. -/
theorem comments_erased_in_place (text : List Char) :
    (eraseComments text).length = text.length ∧
    (∀ place : Nat, (eraseComments text)[place]? = text[place]? ∨
      (eraseComments text)[place]? = some ' ' ∧ ∃ c, text[place]? = some c ∧ c ≠ '\n') ∧
    (∀ opening closing, StandsAt ['/', '*'] (eraseComments text) opening → opening + 2 ≤ closing →
      ¬ StandsAt ['*', '/'] (eraseComments text) closing) ∧
    (∀ line ∈ splitAtBreaks (eraseComments text), isCommentLine line = false) ∧
    (∀ place : Nat, (InBlock text 0 place → (blankBlocks false text)[place]? = text[place]?.map blanked) ∧
      (¬ InBlock text 0 place → (blankBlocks false text)[place]? = text[place]?)) ∧
    (∀ place, InBlock text 0 place ∨ OnCommentLine (blankBlocks false text) place →
      (eraseComments text)[place]? = text[place]?.map blanked) ∧
    (∀ place, ¬ InBlock text 0 place → ¬ OnCommentLine (blankBlocks false text) place →
      (eraseComments text)[place]? = text[place]?) ∧
    eraseComments (eraseComments text) = eraseComments text := by
  have first := getElem?_blankBlocks text
  have second := getElem?_blankCommentLines (blankBlocks false text)
  have secondPass := overwritten_blankCommentLines (blankBlocks false text)
  have overwritten : Overwritten text (eraseComments text) := (overwritten_blankBlocks text).trans secondPass
  have noBlock : ∀ opening closing, ¬ IsBlock (eraseComments text) opening closing := by
    intro opening closing isBlock
    obtain ⟨closing, isBlock⟩ := secondPass.exists_isBlock isBlock
    exact not_isBlock_blankBlocks text opening closing isBlock
  have noLine : ∀ line ∈ splitAtBreaks (eraseComments text), isCommentLine line = false := by
    intro line isLine
    rw [eraseComments, ← blankCommentLines, splitAtBreaks_blankCommentLines] at isLine
    obtain ⟨line, -, rfl⟩ := List.mem_map.mp isLine
    exact not_isCommentLine_blankCommentLine line
  refine ⟨overwritten.length_eq, overwritten.eq_or_space, ?_, noLine, first, ?_, ?_, ?_⟩
  · intro opening closing opens behind closes
    obtain ⟨closing, isBlock⟩ := exists_isBlock opens closes behind
    exact noBlock opening closing isBlock
  · rintro place (inBlock | onLine)
    · rcases secondPass place with same | blank
      · exact same.trans ((first place).1 inBlock)
      · rw [eraseComments, ← blankCommentLines, blank, (first place).1 inBlock, map_blanked_twice]
    · rw [eraseComments, ← blankCommentLines, (second place).1 onLine]
      rcases overwritten_blankBlocks text place with same | blank
      · rw [same]
      · rw [blank, map_blanked_twice]
  · intro place noBlock noLine
    exact ((second place).2 noLine).trans ((first place).2 noBlock)
  · have unchanged := blankCommentLines_eq_self noLine
    rw [blankCommentLines] at unchanged
    rw [eraseComments, blankBlocks_eq_self noBlock, unchanged]

end ChartConfig.Text
