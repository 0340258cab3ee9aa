import ChartConfig.Text.Piece

/-!
# Cursors

What the moves of a cursor say about the characters ahead of it.
-/

namespace ChartConfig.Text.Cursor

theorem prefix_of_expect {c after : Cursor} {literal : String} (passed : c.expect literal = some after) :
    literal.toList <+: c.ahead := by
  unfold expect at passed
  split at passed
  · next ahead => exact List.isPrefixOf_iff_prefix.mp ahead
  · cases passed

theorem expect_char {literal : String} {mark : Char} (isMark : literal.toList = [mark]) (c : Cursor) :
    c.expect literal =
      if c.ahead.head? = some mark then some ⟨c.column + 1, c.ahead.tail⟩ else none := by
  have one : literal.length = 1 := by rw [← String.length_toList, isMark]; rfl
  obtain ⟨column, ahead⟩ := c
  cases ahead with
  | nil => simp [expect, isMark]
  | cons d ahead =>
    by_cases same : d = mark
    · simp [expect, isMark, one, same]
    · simp [expect, isMark, same, Ne.symm same]

theorem name_eq (c : Cursor) :
    c.name =
      if (c.ahead.takeWhile isWord).isEmpty then none
      else some (⟨c.column, c.ahead.takeWhile isWord⟩, c.skip isWord) := by
  unfold name take
  cases c.ahead.takeWhile isWord <;> rfl

end ChartConfig.Text.Cursor
