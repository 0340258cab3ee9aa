/-!
# Blanks

Two notions of white space are in use. A *blank* is any character with the Unicode property
White_Space; a *gap* is a space or a tab, the only characters that may indent a keyword or a header.
Text is handled as a list of characters, and trimming is dropping a run of blanks at an end.
-/

namespace ChartConfig.Text

/-- The characters with the Unicode property White_Space. -/
def isBlank (c : Char) : Bool :=
  let n := c.toNat
  (9 ≤ n && n ≤ 13) || n = 0x20 || n = 0x85 || n = 0xA0 || n = 0x1680 ||
    (0x2000 ≤ n && n ≤ 0x200A) || n = 0x2028 || n = 0x2029 || n = 0x202F || n = 0x205F || n = 0x3000

def isGap (c : Char) : Bool :=
  c = ' ' || c = '\t'

def dropEndWhile (p : Char → Bool) (cs : List Char) : List Char :=
  (cs.reverse.dropWhile p).reverse

def trimStart (cs : List Char) : List Char :=
  cs.dropWhile isBlank

def trimEnd (cs : List Char) : List Char :=
  dropEndWhile isBlank cs

def trim (cs : List Char) : List Char :=
  trimEnd (trimStart cs)

def leadingBlanks (cs : List Char) : List Char :=
  cs.takeWhile isBlank

def allBlank (cs : List Char) : Bool :=
  cs.all isBlank

theorem isBlank_of_isGap {c : Char} (h : isGap c = true) : isBlank c = true := by
  rcases (by simpa [isGap] using h : c = ' ' ∨ c = '\t') with rfl | rfl <;> decide

theorem leadingBlanks_append_trimStart (cs : List Char) : leadingBlanks cs ++ trimStart cs = cs :=
  List.takeWhile_append_dropWhile

theorem filter_dropWhile_isBlank {p : Char → Bool} (notBlank : ∀ c, isBlank c = true → p c = false) (cs : List Char) :
    (cs.dropWhile isBlank).filter p = cs.filter p := by
  have nothing : (cs.takeWhile isBlank).filter p = [] := by
    refine List.filter_eq_nil_iff.mpr fun c member => ?_
    rw [notBlank c (List.all_eq_true.mp List.all_takeWhile c member)]
    exact Bool.false_ne_true
  calc (cs.dropWhile isBlank).filter p
    _ = (cs.takeWhile isBlank ++ cs.dropWhile isBlank).filter p := by rw [List.filter_append, nothing, List.nil_append]
    _ = cs.filter p := by rw [List.takeWhile_append_dropWhile]

theorem filter_trim {p : Char → Bool} (notBlank : ∀ c, isBlank c = true → p c = false) (cs : List Char) :
    (trim cs).filter p = cs.filter p := by
  rw [trim, trimEnd, dropEndWhile, List.filter_reverse, filter_dropWhile_isBlank notBlank, List.filter_reverse,
    List.reverse_reverse, trimStart, filter_dropWhile_isBlank notBlank]

end ChartConfig.Text
