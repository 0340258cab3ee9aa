import ChartConfig.Proofs.Validation.Nesting

/-!
# Events and keywords

What the event of a line says about its keyword, and what a line that is not complained about does to the blocks.
-/

namespace ChartConfig

open Text Finding BlockEvent

variable {following : List (List Char)} {x : Passing}

namespace Passing

theorem keyword_of_event {event : BlockEvent} (happened : x.event? = some event) :
    x.before.control.reads x.line = true ∧ ∃ word, Line.keyword? x.line = some word ∧
      (match word.closes with
        | some opener => some (.closes opener)
        | none => if word.isAlternative then some .alternative else x.pushed?.map (.opens ·.keyword)) = some event := by
  unfold event? at happened
  split at happened
  · next isRead => exact ⟨isRead, Option.bind_eq_some_iff.mp happened⟩
  · cases happened

theorem keyword_of_closes {opener : Keyword} (happened : x.event? = some (.closes opener)) :
    x.before.control.reads x.line = true ∧ ∃ word, Line.keyword? x.line = some word ∧ word.closes = some opener := by
  obtain ⟨isRead, word, isKeyword, means⟩ := keyword_of_event happened
  refine ⟨isRead, word, isKeyword, ?_⟩
  cases closes : word.closes with
  | some other =>
    rw [closes] at means
    cases means
    rfl
  | none =>
    simp only [closes] at means
    split at means
    · cases means
    · obtain ⟨b, -, same⟩ := Option.map_eq_some_iff.mp means
      cases same

theorem keyword_of_alternative (happened : x.event? = some .alternative) :
    x.before.control.reads x.line = true ∧ ∃ word, Line.keyword? x.line = some word ∧ word.isAlternative = true := by
  obtain ⟨isRead, word, isKeyword, means⟩ := keyword_of_event happened
  refine ⟨isRead, word, isKeyword, ?_⟩
  cases closes : word.closes with
  | some other =>
    rw [closes] at means
    cases means
  | none =>
    simp only [closes] at means
    split at means
    · assumption
    · obtain ⟨b, -, same⟩ := Option.map_eq_some_iff.mp means
      cases same

theorem keyword_of_pushes {b : KeywordAt}
    (control : x.after.control = x.before.control.next x.number x.line following) (pushes : x.Pushes b) :
    x.before.control.reads x.line = true ∧ Line.keyword? x.line = some b.keyword ∧ b.keyword.closes = none ∧
      Line.opensBlock x.line following b.keyword = true := by
  have blocks : x.before.blocks ++ [b] = (x.before.control.next x.number x.line following).blocks :=
    pushes.symm.trans (congrArg Control.blocks control)
  have longer : x.before.blocks ++ [b] ≠ x.before.blocks := by simp
  unfold Control.next at blocks
  split at blocks
  · next isRead =>
    split at blocks
    · next found isFound =>
      simp only [Control.onKeyword, Blocks.afterKeyword] at blocks
      split at blocks
      · next opener closes =>
        have shorter : (x.before.blocks.without opener).length ≤ x.before.blocks.length := by
          unfold Blocks.without
          split
          · simp
          · exact List.eraseP_sublist.length_le
        have tooLong := congrArg List.length blocks
        rw [List.length_append] at tooLong
        simp only [List.length_singleton, State.control] at tooLong
        omega
      · next closes =>
        split at blocks
        · next opens =>
          cases List.append_cancel_left blocks
          exact ⟨isRead, Line.keyword?_eq isFound, closes, opens⟩
        · exact absurd blocks longer
    · exact absurd blocks longer
  · exact absurd blocks longer

theorem keyword_of_no_event {word : Keyword}
    (control : x.after.control = x.before.control.next x.number x.line following) (noEvent : x.event? = none)
    (isRead : x.before.control.reads x.line = true) (isKeyword : Line.keyword? x.line = some word) :
    word.isClosing = false ∧ Line.opensBlock x.line following word = false := by
  have means := noEvent
  simp only [event?, isRead, isKeyword, if_true, Option.bind_some] at means
  cases closes : word.closes with
  | some opener => simp [closes] at means
  | none =>
    cases alternative : word.isAlternative with
    | true => simp [closes, alternative] at means
    | false =>
      refine ⟨by simp [Keyword.isClosing, closes, alternative], ?_⟩
      rw [Bool.eq_false_iff]
      intro opens
      obtain ⟨found, isFound, rfl⟩ := Line.exists_keywordAt? x.number isKeyword
      have pushes : x.Pushes found := by
        have blocks := congrArg Control.blocks control
        simp only [Control.next, isRead, if_true, isFound, Control.onKeyword, Blocks.afterKeyword, closes,
          opens] at blocks
        exact blocks
      have event := ((x.change control).opens_of_pushed pushes).1
      rw [noEvent] at event
      cases event

theorem silent_cases (change : Blocks.Change x.number x.before.blocks x.event? x.complaints x.after.blocks)
    (silent : x.complaints = []) :
    (x.event? = none ∧ x.after.blocks = x.before.blocks) ∨
      (∃ b, x.Pushes b ∧ b.range.start.line = x.number) ∨
      (∃ b, x.before.blocks.getLast? = some b ∧ x.event? = some (.closes b.keyword) ∧
        x.after.blocks = x.before.blocks.dropLast) ∨
      (∃ b, x.before.blocks.getLast? = some b ∧ b.keyword = .ifBlock ∧ x.event? = some .alternative ∧
        x.after.blocks = x.before.blocks) := by
  rw [silent] at change
  unfold Pushes
  generalize x.before.blocks = blocks, x.after.blocks = after, x.event? = event at change
  cases change with
  | unchanged => exact .inl ⟨rfl, rfl⟩
  | @pushed b place => exact .inr (.inl ⟨b, rfl, place⟩)
  | closed fits =>
    obtain ⟨b, isLast, rfl⟩ := Option.map_eq_some_iff.mp fits
    exact .inr (.inr (.inl ⟨b, isLast, rfl, rfl⟩))
  | branched fits =>
    obtain ⟨b, isLast, isIf⟩ := Option.map_eq_some_iff.mp fits
    exact .inr (.inr (.inr ⟨b, isLast, isIf, rfl, rfl⟩))

end Passing

end ChartConfig
