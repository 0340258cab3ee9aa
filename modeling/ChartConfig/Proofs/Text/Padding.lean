import Mathlib.Data.List.Forall2
import Mathlib.Data.List.TakeWhile
import ChartConfig.Proofs.Text.Comment
import ChartConfig.Text.Blank

/-!
# Padding

Gaps at the ends of a line are padding. Lines that differ in their padding only are alike, and the analysis
of a document keeps lines alike: comments begin and end at the same marks whatever stands around them.
-/

namespace ChartConfig.Text

def Gaps (cs : List Char) : Prop :=
  ∀ c ∈ cs, isGap c = true

/-- The line is the core with gaps around it. -/
def Padded (core line : List Char) : Prop :=
  ∃ before after, Gaps before ∧ Gaps after ∧ line = before ++ core ++ after

/-- The lines differ in the gaps around them only. -/
def Alike (line other : List Char) : Prop :=
  ∃ core, Padded core line ∧ Padded core other

theorem Gaps.nil : Gaps [] := by
  intro c member
  cases member

theorem gaps_cons {c : Char} {cs : List Char} : Gaps (c :: cs) ↔ isGap c = true ∧ Gaps cs := by
  simp [Gaps]

theorem Gaps.map {cs : List Char} (gaps : Gaps cs) {f : Char → Char}
    (keeps : ∀ c, isGap c = true → isGap (f c) = true) : Gaps (cs.map f) := by
  intro c member
  obtain ⟨d, isThere, rfl⟩ := List.mem_map.mp member
  exact keeps d (gaps d isThere)

theorem Padded.refl (core : List Char) : Padded core core :=
  ⟨[], [], .nil, .nil, by simp⟩

/-- Whatever depends on the core alone is the same for lines that are alike. -/
theorem Alike.congr {β : Type} {f : List Char → β} (padded : ∀ core line, Padded core line → f line = f core)
    {line other : List Char} (alike : Alike line other) : f line = f other := by
  obtain ⟨core, first, second⟩ := alike
  rw [padded core line first, padded core other second]

theorem Padded.map {core line : List Char} (padded : Padded core line) {f : Char → Char}
    (keeps : ∀ c, isGap c = true → isGap (f c) = true) : Padded (core.map f) (line.map f) := by
  obtain ⟨before, after, gapsBefore, gapsAfter, rfl⟩ := padded
  exact ⟨before.map f, after.map f, gapsBefore.map keeps, gapsAfter.map keeps, by simp⟩

/-! ## Gaps in comments -/

theorem isGap_blanked (c : Char) (gap : isGap c = true) : isGap (blanked c) = true := by
  rcases (by simpa [isGap] using gap : c = ' ' ∨ c = '\t') with rfl | rfl <;> decide

theorem isGap_toLower (c : Char) (gap : isGap c = true) : isGap c.toLower = true := by
  rcases (by simpa [isGap] using gap : c = ' ' ∨ c = '\t') with rfl | rfl <;> decide

theorem closesComment_gaps {cs : List Char} (gaps : Gaps cs) : closesComment cs = false := by
  induction cs with
  | nil => rfl
  | cons c cs inductionHypothesis =>
    obtain ⟨gap, gaps⟩ := gaps_cons.mp gaps
    rw [closesComment_cons, inductionHypothesis gaps]
    rintro rest rfl
    cases gap

theorem Gaps.head?_ne {cs : List Char} (gaps : Gaps cs) {c : Char} (mark : isGap c = false) :
    cs.head? ≠ some c := by
  cases cs with
  | nil => simp
  | cons d cs =>
    rw [List.head?_cons]
    intro same
    rw [← Option.some.inj same, (gaps_cons.mp gaps).1] at mark
    cases mark

theorem closesComment_padded {core line : List Char} (padded : Padded core line) :
    closesComment line = closesComment core := by
  obtain ⟨before, after, gapsBefore, gapsAfter, rfl⟩ := padded
  rw [closesComment_append _ _ (gapsAfter.head?_ne (by decide)), closesComment_gaps gapsAfter, Bool.or_false]
  induction before with
  | nil => rfl
  | cons c before inductionHypothesis =>
    obtain ⟨gap, gaps⟩ := gaps_cons.mp gapsBefore
    rw [List.cons_append, closesComment_cons, inductionHypothesis gaps]
    rintro rest rfl
    cases gap

theorem blankSpan_inside {later : Bool} {c : Char} {cs : List Char}
    (other : ∀ rest, c = '*' → cs ≠ '/' :: rest) :
    blankSpan later true (c :: cs) = (blanked c :: (blankSpan later true cs).1, (blankSpan later true cs).2) := by
  rw [blankSpan.eq_def]
  split
  · next same => cases same
  · next rest _ same =>
    obtain ⟨rfl, rfl⟩ := List.cons.inj same
    exact absurd rfl (other _ rfl)
  · next same =>
    obtain ⟨rfl, rfl⟩ := List.cons.inj same
    rfl
  · next isFalse _ => cases isFalse
  · next isFalse _ => cases isFalse

theorem blankSpan_outside {later : Bool} {c : Char} {cs : List Char}
    (other : ∀ rest, c = '/' → cs ≠ '*' :: rest) :
    blankSpan later false (c :: cs) = (c :: (blankSpan later false cs).1, (blankSpan later false cs).2) := by
  rw [blankSpan.eq_def]
  split
  · next same => cases same
  · next isTrue _ => cases isTrue
  · next isTrue _ => cases isTrue
  · next rest _ same =>
    obtain ⟨rfl, rfl⟩ := List.cons.inj same
    exact absurd rfl (other _ rfl)
  · next same =>
    obtain ⟨rfl, rfl⟩ := List.cons.inj same
    rfl

theorem blankSpan_before {before : List Char} (gaps : Gaps before) (later inside : Bool) (cs : List Char) :
    ∃ blank, Gaps blank ∧ blankSpan later inside (before ++ cs) =
      (blank ++ (blankSpan later inside cs).1, (blankSpan later inside cs).2) := by
  induction before with
  | nil => exact ⟨[], .nil, rfl⟩
  | cons c before inductionHypothesis =>
    obtain ⟨gap, gaps⟩ := gaps_cons.mp gaps
    obtain ⟨blank, stillGaps, same⟩ := inductionHypothesis gaps
    rw [List.cons_append]
    cases inside with
    | true =>
      refine ⟨blanked c :: blank, gaps_cons.mpr ⟨isGap_blanked c gap, stillGaps⟩, ?_⟩
      rw [blankSpan_inside (by rintro rest rfl; cases gap), same]
      rfl
    | false =>
      refine ⟨c :: blank, gaps_cons.mpr ⟨gap, stillGaps⟩, ?_⟩
      rw [blankSpan_outside (by rintro rest rfl; cases gap), same]
      rfl

theorem append_gaps_ne {d : Char} {cs after : List Char} (gaps : Gaps after) (mark : isGap d = false)
    (other : ∀ more, cs ≠ d :: more) (more : List Char) : cs ++ after ≠ d :: more := by
  intro same
  cases cs with
  | nil => exact gaps.head?_ne mark (by rw [List.nil_append] at same; rw [same]; rfl)
  | cons next cs =>
    rw [List.cons_append] at same
    exact other cs (by rw [(List.cons.inj same).1])

theorem blankSpan_after {after : List Char} (gaps : Gaps after) (later inside : Bool) (cs : List Char) :
    ∃ blank, Gaps blank ∧ blankSpan later inside (cs ++ after) =
      ((blankSpan later inside cs).1 ++ blank, (blankSpan later inside cs).2) := by
  fun_induction blankSpan later inside cs with
  | case1 inside =>
    obtain ⟨blank, stillGaps, same⟩ := blankSpan_before gaps later inside []
    refine ⟨blank, stillGaps, ?_⟩
    rw [List.append_nil] at same
    rw [List.nil_append, same]
    simp [blankSpan]
  | case2 cs inductionHypothesis =>
    obtain ⟨blank, stillGaps, same⟩ := inductionHypothesis
    exact ⟨blank, stillGaps, by simp [blankSpan, same]⟩
  | case3 c cs other inductionHypothesis =>
    obtain ⟨blank, stillGaps, same⟩ := inductionHypothesis
    refine ⟨blank, stillGaps, ?_⟩
    rw [List.cons_append, blankSpan_inside, same, List.cons_append]
    rintro more rfl
    exact append_gaps_ne gaps (by decide) (fun more same => other more rfl same) more
  | case4 cs closed inductionHypothesis =>
    obtain ⟨blank, stillGaps, same⟩ := inductionHypothesis
    refine ⟨blank, stillGaps, ?_⟩
    have ends : (closesComment (cs ++ after) || later) = true := by
      rw [closesComment_append _ _ (gaps.head?_ne (by decide)), closesComment_gaps gaps, Bool.or_false, closed]
    simp [blankSpan, ends, same]
  | case5 cs unclosed inductionHypothesis =>
    obtain ⟨blank, stillGaps, same⟩ := inductionHypothesis
    refine ⟨blank, stillGaps, ?_⟩
    have ends : (closesComment (cs ++ after) || later) = false := by
      rw [closesComment_append _ _ (gaps.head?_ne (by decide)), closesComment_gaps gaps, Bool.or_false]
      simpa using unclosed
    simp [blankSpan, ends, same]
  | case6 c cs other inductionHypothesis =>
    obtain ⟨blank, stillGaps, same⟩ := inductionHypothesis
    refine ⟨blank, stillGaps, ?_⟩
    rw [List.cons_append, blankSpan_outside, same, List.cons_append]
    rintro more rfl
    exact append_gaps_ne gaps (by decide) (fun more same => other more rfl same) more

theorem blankSpan_padded {core line : List Char} (padded : Padded core line) (later inside : Bool) :
    Padded (blankSpan later inside core).1 (blankSpan later inside line).1 ∧
      (blankSpan later inside line).2 = (blankSpan later inside core).2 := by
  obtain ⟨before, after, gapsBefore, gapsAfter, rfl⟩ := padded
  obtain ⟨stop, gapsStop, sameStop⟩ := blankSpan_after gapsAfter later inside core
  obtain ⟨start, gapsStart, sameStart⟩ := blankSpan_before gapsBefore later inside (core ++ after)
  rw [List.append_assoc, sameStart, sameStop]
  exact ⟨⟨start, stop, gapsStart, gapsStop, by simp⟩, rfl⟩

/-! ## Lines that are alike -/

theorem head?_dropWhile_padded {core line : List Char} (padded : Padded core line) :
    (line.dropWhile isGap).head? = (core.dropWhile isGap).head? := by
  obtain ⟨before, after, gapsBefore, gapsAfter, rfl⟩ := padded
  rw [List.append_assoc, List.dropWhile_append_of_pos gapsBefore, List.dropWhile_append]
  split
  · next allGaps =>
    rw [List.isEmpty_iff.mp allGaps, List.dropWhile_eq_nil_iff.mpr gapsAfter]
  · next someText =>
    rw [List.head?_append_of_ne_nil]
    simpa using someText

theorem isCommentLine_padded {core line : List Char} (padded : Padded core line) :
    isCommentLine line = isCommentLine core :=
  congrArg (· == some '#') (head?_dropWhile_padded padded)

theorem blankCommentLine_padded {core line : List Char} (padded : Padded core line) :
    Padded (blankCommentLine core) (blankCommentLine line) := by
  unfold blankCommentLine
  rw [isCommentLine_padded padded]
  split
  · exact padded.map isGap_blanked
  · exact padded

theorem any_of_alike {lines others : List (List Char)} (alike : List.Forall₂ Alike lines others)
    {f : List Char → Bool} (padded : ∀ core line, Padded core line → f line = f core) :
    lines.any f = others.any f := by
  induction alike with
  | nil => rfl
  | cons first rest inductionHypothesis => rw [List.any_cons, List.any_cons, first.congr padded, inductionHypothesis]

theorem analysed_alike {lines others : List (List Char)} (alike : List.Forall₂ Alike lines others) (inside : Bool) :
    List.Forall₂ Alike ((blankLines inside lines).map fun line => (blankCommentLine line).map Char.toLower)
      ((blankLines inside others).map fun line => (blankCommentLine line).map Char.toLower) := by
  induction alike generalizing inside with
  | nil => exact .nil
  | @cons line other following others first rest inductionHypothesis =>
    have sameLater : following.any closesComment = others.any closesComment :=
      any_of_alike rest fun _ _ => closesComment_padded
    simp only [blankLines, List.map_cons, sameLater]
    obtain ⟨core, padded, alsoPadded⟩ := first
    obtain ⟨spanPadded, state⟩ := blankSpan_padded padded (others.any closesComment) inside
    obtain ⟨alsoSpanPadded, alsoState⟩ := blankSpan_padded alsoPadded (others.any closesComment) inside
    rw [state, alsoState]
    refine .cons ?_ (inductionHypothesis _)
    exact ⟨_, (blankCommentLine_padded spanPadded).map isGap_toLower,
      (blankCommentLine_padded alsoSpanPadded).map isGap_toLower⟩

end ChartConfig.Text
