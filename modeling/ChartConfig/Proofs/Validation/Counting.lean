import ChartConfig.Proofs.Validation.Nesting

/-!
# How many blocks are open

Whether a terminator fits or not, it removes one block of its kind if there is one; and an opener adds one of its own
kind. So the number of open blocks of each kind goes its own way, in whatever order they are closed.
-/

namespace ChartConfig.Blocks

def ofKind (blocks : Blocks) (k : Keyword) : Blocks :=
  blocks.filter (·.keyword == k)

def count (blocks : Blocks) (k : Keyword) : Nat :=
  blocks.countP (·.keyword == k)

theorem count_eq_length (blocks : Blocks) (k : Keyword) : blocks.count k = (blocks.ofKind k).length :=
  List.countP_eq_length_filter

theorem isIn_eq_count (blocks : Blocks) (k : Keyword) : blocks.isIn k = decide (0 < blocks.count k) := by
  rw [Bool.eq_iff_iff, isIn_iff, decide_eq_true_iff, count, List.countP_pos_iff]
  simp only [beq_iff_eq]

theorem ofKind_concat (blocks : Blocks) (b : KeywordAt) (k : Keyword) :
    ofKind (blocks ++ [b]) k = if b.keyword = k then blocks.ofKind k ++ [b] else blocks.ofKind k := by
  by_cases same : b.keyword = k <;> simp [ofKind, same]

theorem ofKind_eraseP (blocks : Blocks) (opener k : Keyword) :
    ofKind (blocks.eraseP (·.keyword == opener)) k =
      if opener = k then (blocks.ofKind k).tail else blocks.ofKind k := by
  induction blocks with
  | nil => simp [ofKind]
  | cons b rest inductionHypothesis =>
    simp only [ofKind] at inductionHypothesis ⊢
    by_cases closes : b.keyword = opener
    · by_cases same : opener = k <;> simp [closes, same]
    · by_cases same : opener = k
      · have other : b.keyword ≠ k := same ▸ closes
        simpa [closes, same, other] using inductionHypothesis
      · simp [closes, same, List.filter_cons, inductionHypothesis]

theorem ofKind_dropLast {blocks : Blocks} {opener : Keyword} (fits : blocks.innermost? = some opener) (k : Keyword) :
    ofKind blocks.dropLast k = if opener = k then (blocks.ofKind k).dropLast else blocks.ofKind k := by
  obtain ⟨last, isLast, rfl⟩ := Option.map_eq_some_iff.mp fits
  obtain ⟨before, rfl⟩ := List.getLast?_eq_some_iff.mp isLast
  rw [List.dropLast_concat, ofKind_concat]
  split
  · rw [List.dropLast_concat]
  · rfl

theorem ofKind_without (blocks : Blocks) (opener k : Keyword) :
    ofKind (blocks.without opener) k =
      if opener = k then
        if blocks.innermost? = some opener then (blocks.ofKind k).dropLast else (blocks.ofKind k).tail
      else blocks.ofKind k := by
  rw [without]
  split
  · next fits => rw [ofKind_dropLast fits]
  · rw [ofKind_eraseP]

theorem count_without (blocks : Blocks) (opener k : Keyword) :
    (blocks.without opener).count k = if opener = k then blocks.count k - 1 else blocks.count k := by
  rw [count_eq_length, count_eq_length, ofKind_without]
  split
  · split <;> simp
  · rfl

theorem count_afterKeyword (blocks : Blocks) (line : List Char) (following : List (List Char)) (found : KeywordAt)
    (k : Keyword) :
    (blocks.afterKeyword line following found).count k =
      if found.keyword.closes = some k then blocks.count k - 1
      else if found.keyword = k ∧ Line.opensBlock line following k = true then blocks.count k + 1
      else blocks.count k := by
  unfold afterKeyword
  cases closes : found.keyword.closes with
  | some opener =>
    have opensNone : ∀ k, found.keyword = k → Line.opensBlock line following k = false := by
      rintro k rfl
      revert closes
      cases found.keyword <;> simp [Keyword.closes, Line.opensBlock]
    simp only [count_without, Option.some.injEq]
    split
    · rfl
    · split
      · next opens => simp [opensNone k opens.1] at opens
      · rfl
  | none =>
    simp only [reduceCtorEq, if_false]
    by_cases opens : Line.opensBlock line following found.keyword = true
    · by_cases same : found.keyword = k
      · subst same
        simp [opens, count]
      · simp [opens, same, count]
    · have closed : ¬ (found.keyword = k ∧ Line.opensBlock line following k = true) := by
        rintro ⟨rfl, opensToo⟩
        exact opens opensToo
      rw [if_neg opens, if_neg closed]

end ChartConfig.Blocks
