/-!
# Bytes

Texts are measured in characters; where a place in a text is known by the number of bytes before it in UTF-8,
these functions go from one measure to the other.
-/

namespace ChartConfig

def byteLength : List Char → Nat
  | [] => 0
  | c :: cs => c.utf8Size + byteLength cs

@[simp] theorem byteLength_nil : byteLength [] = 0 := rfl

@[simp] theorem byteLength_cons (c : Char) (cs : List Char) :
    byteLength (c :: cs) = c.utf8Size + byteLength cs := rfl

theorem byteLength_append (a b : List Char) : byteLength (a ++ b) = byteLength a + byteLength b := by
  induction a with
  | nil => simp
  | cons c cs ih =>
    simp only [List.cons_append, byteLength_cons, ih]
    omega

namespace Text

/-- Byte offset to column: the number of characters before it, all of them past the end, and zero for
    an offset inside a character. -/
def columnOfByte (cs : List Char) (byte : Nat) : Nat :=
  go cs byte 0
where
  go : List Char → Nat → Nat → Nat
    | [], _, column => column
    | c :: rest, byte, column =>
      if byte = 0 then column
      else if byte < c.utf8Size then 0
      else go rest (byte - c.utf8Size) (column + 1)

def byteOf? (part : List Char) : List Char → Option Nat
  | [] => if part.isEmpty then some 0 else none
  | c :: cs =>
    if part.isPrefixOf (c :: cs) then some 0 else (byteOf? part cs).map (c.utf8Size + ·)

variable {part before : List Char} {c : Char}

theorem columnOfByte_go (before after : List Char) (column : Nat) :
    columnOfByte.go (before ++ after) (byteLength before) column = column + before.length := by
  induction before generalizing column with
  | nil =>
    cases after with
    | nil => rfl
    | cons c after => simp [columnOfByte.go]
  | cons c before inductionHypothesis =>
    have size : 0 < c.utf8Size := c.utf8Size_pos
    rw [List.cons_append, byteLength_cons, columnOfByte.go, if_neg (by omega), if_neg (by omega),
      Nat.add_sub_cancel_left, inductionHypothesis, List.length_cons]
    omega

theorem columnOfByte_append (before after : List Char) :
    columnOfByte (before ++ after) (byteLength before) = before.length := by
  rw [columnOfByte, columnOfByte_go, Nat.zero_add]

/-- A text is found behind characters with which it does not begin, and not before. -/
theorem byteOf?_append (leads : part.head? = some c) (other : ∀ d ∈ before, d ≠ c) (after : List Char) :
    byteOf? part (before ++ part ++ after) = some (byteLength before) := by
  induction before with
  | nil =>
    cases part with
    | nil => cases leads
    | cons d part => simp [byteOf?]
  | cons d before inductionHypothesis =>
    rw [List.forall_mem_cons] at other
    have notHere : part.isPrefixOf (d :: (before ++ part ++ after)) = false := by
      rw [Bool.eq_false_iff, Ne, List.isPrefixOf_iff_prefix]
      rintro ⟨rest, same⟩
      cases part with
      | nil => cases leads
      | cons first part =>
        cases leads
        exact other.1 (List.cons.inj same).1.symm
    rw [List.cons_append, List.cons_append, byteOf?, notHere, inductionHypothesis other.2]
    rfl

end Text

end ChartConfig
