import ChartConfig.Proofs.Language.Marks

/-!
# What stands behind the start of a line

A line that assigns begins with the name to which it assigns. All else that recognisers read of a line stands behind
something: names that keywords declare behind the keyword, the name of an alias behind the sign, and what stands behind
a mark. So no other piece starts where the name does.
-/

namespace ChartConfig

open Text

namespace Text

/-- Something that is not blank stands before the column. -/
def Behind (column : Nat) (line : List Char) : Prop :=
  ∃ c ∈ line.take column, isBlank c = false

variable {line : List Char} {column : Nat}

theorem Behind.mono (behind : Behind column line) {further : Nat} (onward : column ≤ further) : Behind further line := by
  obtain ⟨c, before, solid⟩ := behind
  exact ⟨c, (List.take_subset_take_left line onward) before, solid⟩

theorem Behind.leading_lt (behind : Behind column line) : (leadingBlanks line).length < column := by
  obtain ⟨c, before, solid⟩ := behind
  by_contra notBefore
  have part : line.take column <+: leadingBlanks line := by
    have whole : line.take column = (leadingBlanks line ++ trimStart line).take column := by
      rw [leadingBlanks_append_trimStart]
    rw [whole, List.take_append_of_le_length (by omega)]
    exact List.take_prefix _ _
  have blank : isBlank c = true := List.mem_takeWhile_imp (part.subset before)
  rw [solid] at blank
  cases blank

theorem isBlank_of_isMark {c : Char} (mark : isMark c = true) : isBlank c = false := by
  simp only [isMark, Bool.or_eq_true, beq_iff_eq] at mark
  obtain ((rfl | rfl) | rfl) | number := mark
  · decide
  · decide
  · decide
  · rw [← Char.ofNat_toNat c, number]
    decide

theorem Marked.behind (marked : Marked column line) : Behind column line := by
  obtain ⟨c, before, mark⟩ := marked
  exact ⟨c, before, isBlank_of_isMark mark⟩

namespace Cursor

variable {c after : Cursor} {p : Char → Bool}

theorem column_le_skip (p : Char → Bool) (c : Cursor) : c.column ≤ (c.skip p).column :=
  Nat.le_add_right ..

theorem place_of_take {piece : Piece} (passed : c.take p = some (piece, after)) :
    piece.column = c.column ∧ c.column ≤ after.column := by
  simp only [Cursor.take] at passed
  split at passed
  · cases passed
  · cases passed
    exact ⟨rfl, column_le_skip p c⟩

theorem behind_of_expect {literal : String} (on : c.On line)
    (solid : literal.toList.any (fun d => !isBlank d) = true) (passed : c.expect literal = some after) :
    Behind after.column line := by
  have leads := prefix_of_expect passed
  obtain ⟨d, inLiteral, notBlank⟩ := List.any_eq_true.mp solid
  simp only [Cursor.expect] at passed
  split at passed
  · cases passed
    refine ⟨d, ?_, by simpa using notBlank⟩
    rw [On] at on
    rw [on, List.prefix_iff_eq_take] at leads
    rw [List.take_add, ← String.length_toList, ← leads]
    exact List.mem_append_right _ inLiteral
  · cases passed

/-- Whatever the moves, the pieces read stand behind what the cursor stands behind. -/
theorem follow_behind {β : Type} {finish : List Piece → Cursor → Option β} {moves : List Move} {pieces : List Piece}
    {result : β} (behind : Behind c.column line) (placed : ∀ q ∈ pieces, Behind q.column line)
    (found : follow finish moves pieces c = some result) :
    ∃ pieces after, (∀ q ∈ pieces, Behind q.column line) ∧ finish pieces after = some result := by
  induction moves generalizing pieces c with
  | nil => exact ⟨pieces, c, placed, found⟩
  | cons move moves inductionHypothesis =>
    cases move with
    | skip p => exact inductionHypothesis (behind.mono (column_le_skip p c)) placed found
    | pass p =>
      obtain ⟨after, passed, found⟩ := Option.bind_eq_some_iff.mp found
      obtain ⟨⟨piece, _⟩, taken, rfl⟩ := Option.map_eq_some_iff.mp passed
      exact inductionHypothesis (behind.mono (place_of_take taken).2) placed found
    | expect literal =>
      obtain ⟨after, passed, found⟩ := Option.bind_eq_some_iff.mp found
      simp only [Cursor.expect] at passed
      split at passed
      · cases passed
        exact inductionHypothesis (behind.mono (Nat.le_add_right ..)) placed found
      · cases passed
    | read p =>
      obtain ⟨⟨piece, after⟩, taken, found⟩ := Option.bind_eq_some_iff.mp found
      obtain ⟨isHere, onward⟩ := place_of_take taken
      refine inductionHypothesis (behind.mono onward) (fun q member => ?_) found
      rcases List.mem_append.mp member with old | new
      · exact placed q old
      · rw [List.mem_singleton.mp new, isHere]
        exact behind

theorem follow_start_behind {β : Type} {finish : List Piece → Cursor → Option β} {literal : String}
    {moves : List Move} {result : β} (solid : literal.toList.any (fun d => !isBlank d) = true)
    (found : follow finish (.skip p :: .expect literal :: moves) [] (start line) = some result) :
    ∃ pieces after, (∀ q ∈ pieces, Behind q.column line) ∧ finish pieces after = some result := by
  obtain ⟨after, passed, found⟩ := Option.bind_eq_some_iff.mp found
  exact follow_behind (behind_of_expect ((On.start line).skip p) solid passed) (List.forall_mem_nil _) found

end Cursor

end Text

namespace Line

variable {line : List Char} {p : Piece}

theorem behind_of_aliasName? (found : aliasName? line = some p) : Behind p.column line := by
  rw [aliasName?_eq] at found
  obtain ⟨pieces, after, behind, finished⟩ := Cursor.follow_start_behind (by decide) found
  exact behind p (mem_lastPiece finished)

theorem behind_of_csvName? (found : csvName? line = some p) : Behind p.column line := by
  rw [csvName?_eq] at found
  obtain ⟨pieces, after, behind, finished⟩ := Cursor.follow_start_behind (by decide) found
  exact behind p (List.mem_of_head? finished)

theorem behind_of_listName? (found : listName? line = some p) : Behind p.column line := by
  rw [listName?_eq] at found
  obtain ⟨pieces, after, behind, finished⟩ := Cursor.follow_start_behind (by decide) found
  exact behind p (List.mem_of_head? finished)

theorem behind_of_varName? (found : varName? line = some p) : Behind p.column line := by
  rw [varName?_eq] at found
  obtain ⟨word, isWord, found⟩ := List.exists_of_findSome?_eq_some found
  split at found
  · next spelled =>
    have there := (in_of_mem_words isWord).there
    rw [spelled, List.prefix_iff_eq_take] at there
    have behind : Behind word.stop line := by
      refine ⟨'v', ?_, by decide⟩
      rw [Piece.stop, spelled, List.take_add, ← there]
      exact List.mem_append_right _ (List.mem_cons_self ..)
    obtain ⟨pieces, after, placed, finished⟩ := Cursor.follow_behind behind (List.forall_mem_nil _) found
    exact placed p (List.mem_of_head? finished)
  · cases found

theorem behind_of_loopVariable? {sign : Piece} (found : loopVariable? line = some (p, sign)) :
    Behind p.column line ∧ Behind sign.column line := by
  rw [loopVariable?_eq] at found
  obtain ⟨pieces, after, behind, finished⟩ := Cursor.follow_start_behind (by decide) found
  simp only [loopPieces] at finished
  split at finished
  · split at finished
    · cases finished
      exact ⟨behind _ (by simp), behind _ (by simp)⟩
    · cases finished
  · cases finished

theorem column_ne_of_behind {a : Assignment} (assigned : assignment? line = some a) (behind : Behind p.column line) :
    p.column ≠ a.name.column := by
  rw [(place_of_assignment? assigned).1]
  exact Nat.ne_of_gt behind.leading_lt

end Line

end ChartConfig
