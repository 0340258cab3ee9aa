import ChartConfig.Proofs.Text.Blank
import ChartConfig.Proofs.Text.Padding
import ChartConfig.Text.Word

/-!
# Letters in lower case

Lowering a character changes capital letters only, and no letter is a break, a blank or part of a comment mark. So a
text in lower case has the lines of the text, in lower case, and its comments in the same places; and the analysis, which
is in lower case anyway, is the same.
-/

namespace ChartConfig

namespace Text

variable {c d : Char}

/-! ## Characters -/

theorem range_of_isLowerLetter (letter : isLowerLetter c = true) : 97 ≤ c.toNat ∧ c.toNat ≤ 122 := by
  simp only [isLowerLetter, Bool.and_eq_true, decide_eq_true_eq] at letter
  exact letter

theorem toLower_of_not_upper (notUpper : ¬ (65 ≤ c.toNat ∧ c.toNat ≤ 90)) : c.toLower = c :=
  dif_neg notUpper

/-- There are few capital letters, so what is said about them is decided one by one. -/
theorem of_upper {P : Char → Prop} (all : ∀ n < 91, 65 ≤ n → P (Char.ofNat n))
    (upper : 65 ≤ c.toNat ∧ c.toNat ≤ 90) : P c := by
  have holds := all c.toNat (Nat.lt_succ_of_le upper.2) upper.1
  rwa [Char.ofNat_toNat] at holds

theorem toLower_eq_iff (notLetter : d.toNat < 65) : c.toLower = d ↔ c = d := by
  by_cases upper : 65 ≤ c.toNat ∧ c.toNat ≤ 90
  · have letter : 65 ≤ c.toLower.toNat := of_upper (P := fun c => 65 ≤ c.toLower.toNat) (by decide) upper
    constructor
    · rintro rfl
      omega
    · rintro rfl
      omega
  · rw [toLower_of_not_upper upper]

theorem toLower_toLower (c : Char) : c.toLower.toLower = c.toLower := by
  by_cases upper : 65 ≤ c.toNat ∧ c.toNat ≤ 90
  · exact of_upper (P := fun c => c.toLower.toLower = c.toLower) (by decide) upper
  · rw [toLower_of_not_upper upper, toLower_of_not_upper upper]

theorem isBlank_toLower (blank : isBlank c = true) : isBlank c.toLower = true := by
  have notUpper : ¬ (65 ≤ c.toNat ∧ c.toNat ≤ 90) := by
    simp only [isBlank, Bool.or_eq_true, Bool.and_eq_true, decide_eq_true_eq] at blank
    omega
  rw [toLower_of_not_upper notUpper]
  exact blank

theorem isBlank_toLower_iff : isBlank c.toLower = true ↔ isBlank c = true := by
  refine ⟨fun blank => ?_, isBlank_toLower⟩
  by_cases upper : 65 ≤ c.toNat ∧ c.toNat ≤ 90
  · have noBlank : isBlank c.toLower = false := of_upper (P := fun c => isBlank c.toLower = false) (by decide) upper
    rw [noBlank] at blank
    cases blank
  · rwa [toLower_of_not_upper upper] at blank

theorem allBlank_lower (line : List Char) : allBlank (line.map Char.toLower) = allBlank line := by
  rw [Bool.eq_iff_iff, allBlank_iff, allBlank_iff]
  simp [isBlank_toLower_iff]

/-! ## Lines -/

def lowered (cs : List Char) : List Char :=
  cs.map Char.toLower

@[simp] theorem lowered_nil : lowered [] = [] := rfl

@[simp] theorem lowered_cons (c : Char) (cs : List Char) : lowered (c :: cs) = c.toLower :: lowered cs := rfl

theorem lowered_lowered (cs : List Char) : lowered (lowered cs) = lowered cs := by
  rw [lowered, lowered, List.map_map]
  exact List.map_congr_left fun c _ => toLower_toLower c

theorem isBlank_comp_toLower : isBlank ∘ Char.toLower = isBlank := by
  funext c
  exact Bool.eq_iff_iff.mpr isBlank_toLower_iff

theorem lowered_eq_self {cs : List Char} (blank : ∀ c ∈ cs, isBlank c = true) : lowered cs = cs := by
  refine (List.map_congr_left fun c member => ?_).trans (List.map_id cs)
  refine toLower_of_not_upper fun upper => ?_
  have isBlankHere := blank c member
  simp only [isBlank, Bool.or_eq_true, Bool.and_eq_true, decide_eq_true_eq] at isBlankHere
  omega

theorem trimEnd_lowered (line : List Char) : trimEnd (lowered line) = lowered (trimEnd line) := by
  rw [trimEnd, dropEndWhile, lowered, ← List.map_reverse, List.dropWhile_map, isBlank_comp_toLower, ← List.map_reverse]
  rfl

theorem trim_lowered (line : List Char) : trim (lowered line) = lowered (trim line) := by
  have start : trimStart (lowered line) = lowered (trimStart line) := by
    rw [trimStart, lowered, List.dropWhile_map, isBlank_comp_toLower]
    rfl
  rw [trim, start, trimEnd_lowered]
  rfl

theorem leadingBlanks_lowered (line : List Char) : leadingBlanks (lowered line) = leadingBlanks line := by
  rw [leadingBlanks, lowered, List.takeWhile_map, isBlank_comp_toLower]
  exact lowered_eq_self fun c member => isBlank_of_mem_leadingBlanks member

/-- Two marks in a row are no letters, so they are there in the text already. -/
theorem ne_mark_lowered {e : Char} {cs : List Char} (first : d.toNat < 65) (second : e.toNat < 65)
    (other : ∀ rest, c = d → cs ≠ e :: rest) (rest : List Char) : c.toLower = d → lowered cs ≠ e :: rest := by
  intro lower lowers
  cases cs with
  | nil => cases lowers
  | cons f cs =>
    obtain ⟨isMark, -⟩ := List.cons.inj lowers
    exact other cs ((toLower_eq_iff first).mp lower) (by rw [(toLower_eq_iff second).mp isMark])

theorem normalizeBreaks_lowered (text : List Char) :
    normalizeBreaks (lowered text) = lowered (normalizeBreaks text) := by
  fun_induction normalizeBreaks text with
  | case1 => rfl
  | case2 cs inductionHypothesis =>
    change normalizeBreaks ('\r' :: '\n' :: lowered cs) = '\n' :: lowered (normalizeBreaks cs)
    rw [normalizeBreaks, inductionHypothesis]
  | case3 c cs other inductionHypothesis =>
    -- What is no pair of marks here is none in lower case, so both take the same branch.
    have isReturn : c.toLower = '\r' ↔ c = '\r' := toLower_eq_iff (by decide)
    rw [lowered_cons, lowered_cons, normalizeBreaks, inductionHypothesis]
    · by_cases same : c = '\r'
      · rw [if_pos (isReturn.mpr same), if_pos same]
        rfl
      · rw [if_neg (mt isReturn.mp same), if_neg same]
    · intro rest
      exact ne_mark_lowered (by decide) (by decide) (fun more isReturn => other more isReturn) rest

theorem splitAtBreaks_lowered (text : List Char) :
    splitAtBreaks (lowered text) = (splitAtBreaks text).map lowered := by
  induction text with
  | nil => rfl
  | cons c cs inductionHypothesis =>
    have isFeed : c.toLower = '\n' ↔ c = '\n' := toLower_eq_iff (by decide)
    rw [lowered_cons, splitAtBreaks, splitAtBreaks, inductionHypothesis]
    by_cases same : c = '\n'
    · rw [if_pos (isFeed.mpr same), if_pos same]
      rfl
    · rw [if_neg (mt isFeed.mp same), if_neg same]
      cases splitAtBreaks cs <;> rfl

theorem splitLines_lowered (text : List Char) : splitLines (lowered text) = (splitLines text).map lowered := by
  rw [splitLines, normalizeBreaks_lowered, splitAtBreaks_lowered, splitLines]

/-! ## Comments -/

theorem closesComment_lowered (cs : List Char) : closesComment (lowered cs) = closesComment cs := by
  fun_induction closesComment cs with
  | case1 rest => rfl
  | case2 c cs other inductionHypothesis =>
    rw [lowered_cons, closesComment_cons, inductionHypothesis]
    exact ne_mark_lowered (by decide) (by decide) fun rest isStar same => other rest isStar same
  | case3 => rfl

theorem blanked_toLower (c : Char) : blanked c.toLower = (blanked c).toLower := by
  have isFeed : c.toLower = '\n' ↔ c = '\n' := toLower_eq_iff (by decide)
  unfold blanked
  by_cases same : c = '\n'
  · rw [if_pos (isFeed.mpr same), if_pos same]
    rfl
  · rw [if_neg (mt isFeed.mp same), if_neg same]
    rfl

theorem blankSpan_lowered (later inside : Bool) (line : List Char) :
    blankSpan later inside (lowered line) =
      (lowered (blankSpan later inside line).1, (blankSpan later inside line).2) := by
  fun_induction blankSpan later inside line with
  | case1 inside => cases inside <;> rfl
  | case2 cs inductionHypothesis =>
    change blankSpan later true ('*' :: '/' :: lowered cs) = _
    rw [blankSpan, inductionHypothesis]
    rfl
  | case3 c cs other inductionHypothesis =>
    rw [lowered_cons, blankSpan_inside, inductionHypothesis, blanked_toLower]
    · rfl
    · exact ne_mark_lowered (by decide) (by decide) fun rest isStar same => other rest isStar same
  | case4 cs closed inductionHypothesis =>
    change blankSpan later false ('/' :: '*' :: lowered cs) = _
    rw [blankSpan, closesComment_lowered, if_pos closed, inductionHypothesis]
    rfl
  | case5 cs unclosed inductionHypothesis =>
    change blankSpan later false ('/' :: '*' :: lowered cs) = _
    rw [blankSpan, closesComment_lowered, if_neg unclosed, inductionHypothesis]
    rfl
  | case6 c cs other inductionHypothesis =>
    rw [lowered_cons, blankSpan_outside, inductionHypothesis]
    · rfl
    · exact ne_mark_lowered (by decide) (by decide) fun rest isSlash same => other rest isSlash same

theorem blankLines_lowered (inside : Bool) (lines : List (List Char)) :
    blankLines inside (lines.map lowered) = (blankLines inside lines).map lowered := by
  induction lines generalizing inside with
  | nil => rfl
  | cons line following inductionHypothesis =>
    have sameEnds : (following.map lowered).any closesComment = following.any closesComment := by
      rw [List.any_map]
      exact congrArg (following.any ·) (funext closesComment_lowered)
    rw [List.map_cons, blankLines, sameEnds, blankSpan_lowered, inductionHypothesis]
    rfl

theorem isCommentLine_lowered (line : List Char) : isCommentLine (lowered line) = isCommentLine line := by
  have sameGaps : (fun c : Char => decide (c = ' ') || decide (c = '\t')) ∘ Char.toLower =
      fun c => decide (c = ' ') || decide (c = '\t') := by
    funext c
    rw [Function.comp_apply, decide_eq_decide.mpr (toLower_eq_iff (by decide)),
      decide_eq_decide.mpr (toLower_eq_iff (by decide))]
  rw [isCommentLine, isCommentLine, lowered, List.dropWhile_map, sameGaps, List.head?_map]
  cases (line.dropWhile fun c => decide (c = ' ') || decide (c = '\t')).head? with
  | none => rfl
  | some c =>
    rw [Option.map_some, Bool.eq_iff_iff, beq_iff_eq, beq_iff_eq, Option.some.injEq, Option.some.injEq]
    exact toLower_eq_iff (by decide)

theorem blankCommentLine_lowered (line : List Char) :
    blankCommentLine (lowered line) = lowered (blankCommentLine line) := by
  rw [blankCommentLine, blankCommentLine, isCommentLine_lowered]
  split
  · rw [lowered, lowered, List.map_map, List.map_map]
    exact List.map_congr_left fun c _ => blanked_toLower c
  · rfl

end Text

open Text

namespace Document

def lowered (text : String) : String :=
  String.ofList (Text.lowered text.toList)

theorem lines_lowered (text : String) : lines (lowered text) = (lines text).map Text.lowered := by
  rw [lines, lowered, String.toList_ofList, splitLines_lowered, lines]

/-- The analysis does not tell a text from the text in lower case. -/
theorem analysed_lowered (text : String) : analysed (lowered text) = analysed text := by
  rw [analysed_eq, analysed_eq, lines_lowered, blankLines_lowered, List.map_map]
  refine List.map_congr_left fun line _ => ?_
  change Text.lowered (blankCommentLine (Text.lowered line)) = Text.lowered (blankCommentLine line)
  rw [blankCommentLine_lowered, lowered_lowered]

end Document

end ChartConfig
