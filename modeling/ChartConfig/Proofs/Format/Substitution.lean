import ChartConfig.Proofs.Format.Shape

/-!
# Edits as simultaneous substitutions

Edits are applied one after another, each to the lines that the ones before it have left. Where they do not overlap, it
is as if all of them had been made at once on the lines as they were: an edit is applied when only what stands behind it
has changed, so that its columns still mean what they meant at first.
-/

namespace ChartConfig

open Text

namespace Edit

/-! ## All edits of a line at once -/

/-- The texts that the edits put at a column. -/
def putAt (edits : List Edit) (column : Nat) : List Char :=
  (edits.filter fun e => e.range.start.character == column).flatMap fun e => e.newText.toList

/-- The character in the column is in the range of an edit. -/
def takesAway (edits : List Edit) (column : Nat) : Bool :=
  edits.any fun e => e.range.start.character ≤ column && column < e.range.stop.character

/-- The characters of a line, the first of which stands in the given column, with all the edits made at once. What is put
    at a column comes before the character that stands there, and characters in a range are left out. -/
def substituted (edits : List Edit) : (column : Nat) → List Char → List Char
  | column, [] => putAt edits column
  | column, c :: cs =>
    putAt edits column ++ (if takesAway edits column then [] else [c]) ++ substituted edits (column + 1) cs

def startingOn (edits : List Edit) (number : Nat) : List Edit :=
  edits.filter fun e => e.range.start.line == number

/-- The lines with all the edits made at once. -/
def substitutedLines (edits : List Edit) (lines : List (List Char)) : List (List Char) :=
  lines.mapIdx fun number line => substituted (startingOn edits number) 0 line

/-- Each edit of a line that exists stays within it, and no two of these start at one place or overlap. A text that is
    inserted in the middle of a range overlaps it; at the end of a range it does not. -/
structure Compatible (lines : List (List Char)) (edits : List Edit) : Prop where
  within : ∀ e ∈ edits, e.range.start.line < lines.length → e.Within lines
  apart : edits.Pairwise fun a b =>
    a.range.start.line = b.range.start.line → a.range.start.line < lines.length →
      a.range.start.character ≠ b.range.start.character ∧ a.Disjoint b

variable {edits others : List Edit} {e : Edit} {column : Nat} {line : List Char} {lines : List (List Char)}

/-! ## Lines -/

theorem putAt_append : putAt (edits ++ others) column = putAt edits column ++ putAt others column := by
  simp [putAt]

theorem takesAway_append :
    takesAway (edits ++ others) column = (takesAway edits column || takesAway others column) := by
  simp [takesAway]

theorem putAt_eq_nil (elsewhere : ∀ e ∈ edits, e.range.start.character ≠ column) : putAt edits column = [] := by
  rw [putAt, List.filter_eq_nil_iff.mpr, List.flatMap_nil]
  simpa using elsewhere

theorem takesAway_eq_false
    (outside : ∀ e ∈ edits, column < e.range.start.character ∨ e.range.stop.character ≤ column) :
    takesAway edits column = false := by
  rw [takesAway, List.any_eq_false]
  intro e member
  have := outside e member
  simp only [Bool.and_eq_true, decide_eq_true_eq, not_and]
  omega

theorem takesAway_eq_true (member : e ∈ edits) (started : e.range.start.character ≤ column)
    (unfinished : column < e.range.stop.character) : takesAway edits column = true := by
  rw [takesAway, List.any_eq_true]
  exact ⟨e, member, by simp [started, unfinished]⟩

theorem substituted_congr (same : ∀ later, column ≤ later →
      putAt edits later = putAt others later ∧ takesAway edits later = takesAway others later) :
    substituted edits column line = substituted others column line := by
  induction line generalizing column with
  | nil => exact (same column (Nat.le_refl _)).1
  | cons c cs inductionHypothesis =>
    obtain ⟨put, away⟩ := same column (Nat.le_refl _)
    rw [substituted, substituted, put, away, inductionHypothesis fun later le => same later (by omega)]

theorem substituted_before {count : Nat} (inLine : count ≤ line.length)
    (later : ∀ e ∈ edits, column + count ≤ e.range.start.character) :
    substituted edits column line = line.take count ++ substituted edits (column + count) (line.drop count) := by
  induction count generalizing column line with
  | zero => rfl
  | succ count inductionHypothesis =>
    cases line with
    | nil => cases inLine
    | cons c cs =>
      have nothing : putAt edits column = [] := putAt_eq_nil fun e member => by
        have := later e member
        omega
      have kept : takesAway edits column = false := takesAway_eq_false fun e member => by
        have := later e member
        omega
      have place : column + 1 + count = column + (count + 1) := by omega
      rw [substituted, nothing, kept, inductionHypothesis (by simpa using inLine) (place ▸ later), place]
      rfl

theorem substituted_behind (started : e.range.start.character < column) (ended : e.range.stop.character ≤ column) :
    substituted (edits ++ [e]) column line = substituted edits column line := by
  refine substituted_congr fun later le => ?_
  have put : putAt [e] later = [] := putAt_eq_nil fun x member => by
    rw [List.mem_singleton.mp member]
    omega
  have kept : takesAway [e] later = false := takesAway_eq_false fun x member => by
    rw [List.mem_singleton.mp member]
    omega
  rw [putAt_append, put, takesAway_append, kept, List.append_nil, Bool.or_false]
  exact ⟨rfl, rfl⟩

variable {count : Nat}

theorem substituted_inside (started : e.range.start.character < column)
    (ends : e.range.stop.character = column + count) (inLine : count ≤ line.length)
    (later : ∀ x ∈ edits, column + count ≤ x.range.start.character) :
    substituted (edits ++ [e]) column line = substituted edits (column + count) (line.drop count) := by
  induction count generalizing column line with
  | zero => exact substituted_behind started ends.le
  | succ count inductionHypothesis =>
    cases line with
    | nil => cases inLine
    | cons c cs =>
      have put : putAt (edits ++ [e]) column = [] := putAt_eq_nil fun x member => by
        rcases List.mem_append.mp member with isLater | isEdit
        · have := later x isLater
          omega
        · rw [List.mem_singleton.mp isEdit]
          omega
      have away : takesAway (edits ++ [e]) column = true :=
        takesAway_eq_true (List.mem_concat_self ..) (by omega) (by omega)
      have place : column + 1 + count = column + (count + 1) := by omega
      rw [substituted, put, away, inductionHypothesis (by omega) (ends.trans place.symm) (by simpa using inLine)
        (place ▸ later), place]
      rfl

theorem substituted_at (starts : e.range.start.character = column) (ends : e.range.stop.character = column + count)
    (inLine : count ≤ line.length)
    (later : ∀ x ∈ edits, column < x.range.start.character ∧ column + count ≤ x.range.start.character) :
    substituted (edits ++ [e]) column line =
      e.newText.toList ++ substituted edits (column + count) (line.drop count) := by
  have nothing : putAt edits column = [] := putAt_eq_nil fun x member => by
    have := (later x member).1
    omega
  have kept : takesAway edits column = false := takesAway_eq_false fun x member => .inl (later x member).1
  have put : putAt (edits ++ [e]) column = e.newText.toList := by
    rw [putAt_append, nothing]
    simp [putAt, starts]
  cases count with
  | zero =>
    have empty : takesAway [e] column = false := takesAway_eq_false fun x member => by
      rw [List.mem_singleton.mp member]
      omega
    cases line with
    | nil => simp [substituted, put, nothing]
    | cons c cs =>
      have rest : substituted (edits ++ [e]) (column + 1) cs = substituted edits (column + 1) cs :=
        substituted_behind (by omega) (by omega)
      simp [substituted, put, nothing, takesAway_append, kept, empty, rest]
  | succ count =>
    cases line with
    | nil => cases inLine
    | cons c cs =>
      have away : takesAway (edits ++ [e]) column = true :=
        takesAway_eq_true (List.mem_concat_self ..) (by omega) (by omega)
      have place : column + 1 + count = column + (count + 1) := by omega
      have rest := @substituted_inside edits e (column + 1) cs count (by omega) (ends.trans place.symm)
        (by simpa using inLine) fun x member => place.le.trans (later x member).2
      rw [substituted, put, away, if_pos rfl, List.append_nil, rest, place, List.drop_succ_cons]

/-- The edit leaves room for those in the list: they start behind its start, and not before its end. -/
def Precedes (e : Edit) (edits : List Edit) : Prop :=
  ∀ x ∈ edits, e.range.start.character < x.range.start.character ∧
    e.range.stop.character ≤ x.range.start.character

theorem onLine_substituted (ordered : e.range.start.character ≤ e.range.stop.character)
    (inLine : e.range.stop.character ≤ line.length) (precedes : e.Precedes edits) :
    e.onLine (substituted edits 0 line) = some (substituted (edits ++ [e]) 0 line) := by
  obtain ⟨count, ends⟩ := Nat.exists_eq_add_of_le ordered
  have asWas : substituted edits 0 line = line.take e.range.stop.character ++
      substituted edits e.range.stop.character (line.drop e.range.stop.character) := by
    have before := @substituted_before edits 0 line e.range.stop.character inLine fun x member => by
      have := (precedes x member).2
      omega
    rwa [Nat.zero_add] at before
  have upTo : (line.take e.range.stop.character).length = e.range.stop.character := by
    rw [List.length_take, Nat.min_eq_left inLine]
  have edited : substituted (edits ++ [e]) 0 line = line.take e.range.start.character ++ (e.newText.toList ++
      substituted edits e.range.stop.character (line.drop e.range.stop.character)) := by
    have before := @substituted_before (edits ++ [e]) 0 line e.range.start.character (by omega) fun x member => by
      rcases List.mem_append.mp member with isLater | isEdit
      · have := (precedes x isLater).1
        omega
      · rw [List.mem_singleton.mp isEdit]
        omega
    have here := @substituted_at edits e e.range.start.character (line.drop e.range.start.character) count rfl ends
      (by rw [List.length_drop]; omega) (ends ▸ precedes)
    rw [Nat.zero_add] at before
    rw [before, here, List.drop_drop, ← ends]
  rw [edited, asWas]
  generalize substituted edits e.range.stop.character (line.drop e.range.stop.character) = rest
  have first : min e.range.start.character (line.take e.range.stop.character ++ rest).length =
      e.range.start.character := by
    rw [List.length_append, upTo]
    omega
  have last : min e.range.stop.character (line.take e.range.stop.character ++ rest).length =
      e.range.stop.character := by
    rw [List.length_append, upTo]
    omega
  have head : (line.take e.range.stop.character ++ rest).take e.range.start.character =
      line.take e.range.start.character := by
    rw [List.take_append_of_le_length (ordered.trans upTo.ge), List.take_take, Nat.min_eq_left ordered]
  have tail : (line.take e.range.stop.character ++ rest).drop e.range.stop.character = rest :=
    List.drop_left' upTo
  rw [onLine]
  simp only [first, last, head, tail, Nat.not_lt.mpr ordered, if_false, List.append_assoc]

/-! ## Documents -/

theorem substituted_nil : substituted [] column line = line := by
  induction line generalizing column with
  | nil => rfl
  | cons c cs inductionHypothesis => simp [substituted, putAt, takesAway, inductionHypothesis]

theorem startingOn_concat {number : Nat} : startingOn (edits ++ [e]) number =
    if e.range.start.line = number then startingOn edits number ++ [e] else startingOn edits number := by
  by_cases here : e.range.start.line = number <;> simp [startingOn, here]

theorem getElem?_substitutedLines {number : Nat} : (substitutedLines edits lines)[number]? =
    lines[number]?.map fun line => substituted (startingOn edits number) 0 line := by
  rw [substitutedLines, List.getElem?_mapIdx]

theorem Compatible.of_append (compatible : Compatible lines (edits ++ others)) : Compatible lines edits where
  within e member := compatible.within e (List.mem_append_left others member)
  apart := (List.pairwise_append.mp compatible.apart).1

theorem Compatible.precedes (compatible : Compatible lines (edits ++ [e]))
    (laterFirst : (edits ++ [e]).Pairwise fun a b => b.range.start.le a.range.start = true)
    (inBounds : e.range.start.line < lines.length) : e.Precedes (startingOn edits e.range.start.line) := by
  intro x member
  obtain ⟨isLater, onLine⟩ := List.mem_filter.mp member
  have sameLine : x.range.start.line = e.range.start.line := beq_iff_eq.mp onLine
  have ordered := (compatible.within x (List.mem_append_left _ isLater) (sameLine ▸ inBounds)).ordered
  have le := (List.pairwise_append.mp laterFirst).2.2 x isLater e (List.mem_singleton_self e)
  obtain ⟨apart, disjoint⟩ := (List.pairwise_append.mp compatible.apart).2.2 x isLater e (List.mem_singleton_self e)
    sameLine (sameLine ▸ inBounds)
  simp only [Position.le, sameLine, Nat.lt_irrefl, decide_false, Bool.false_or, beq_self_eq_true, Bool.true_and,
    decide_eq_true_eq] at le
  simp only [Disjoint, sameLine, ne_eq, not_true_eq_false, false_or] at disjoint
  omega

theorem length_substitutedLines : (substitutedLines edits lines).length = lines.length :=
  List.length_mapIdx

theorem onLines_substitutedLines (compatible : Compatible lines (edits ++ [e]))
    (laterFirst : (edits ++ [e]).Pairwise fun a b => b.range.start.le a.range.start = true) :
    e.onLines (substitutedLines edits lines) = some (substitutedLines (edits ++ [e]) lines) := by
  unfold onLines
  rw [getElem?_substitutedLines]
  cases isLine : lines[e.range.start.line]? with
  | none =>
    refine congrArg some (List.ext_getElem? fun number => ?_)
    rw [getElem?_substitutedLines, getElem?_substitutedLines, startingOn_concat]
    split
    · next here => rw [← here, isLine, Option.map_none, Option.map_none]
    · rfl
  | some line =>
    obtain ⟨inBounds, -⟩ := List.getElem?_eq_some_iff.mp isLine
    have within := compatible.within e (List.mem_concat_self ..) inBounds
    obtain ⟨same, isSame, inLine⟩ := within.inBounds
    obtain rfl : line = same := Option.some.inj (isLine.symm.trans isSame)
    have edited := onLine_substituted within.ordered inLine (compatible.precedes laterFirst inBounds)
    simp only [Option.map_some, edited]
    refine congrArg some (List.ext_getElem? fun number => ?_)
    rw [List.getElem?_set, getElem?_substitutedLines, getElem?_substitutedLines, startingOn_concat,
      length_substitutedLines]
    by_cases here : e.range.start.line = number
    · subst here
      rw [if_pos rfl, if_pos rfl, if_pos inBounds, isLine, Option.map_some]
    · rw [if_neg here, if_neg here]

/-- Edits that are made from the last to the first are made at once. -/
theorem foldlM_onLines_eq (compatible : Compatible lines edits)
    (laterFirst : edits.Pairwise fun a b => b.range.start.le a.range.start = true) :
    edits.foldlM (fun lines e => e.onLines lines) lines = some (substitutedLines edits lines) := by
  induction edits using List.reverseRecOn with
  | nil =>
    refine congrArg some (List.ext_getElem? fun number => ?_)
    rw [getElem?_substitutedLines]
    simp [startingOn, substituted_nil]
  | append_singleton edits e inductionHypothesis =>
    have before := inductionHypothesis compatible.of_append (List.pairwise_append.mp laterFirst).1
    rw [List.foldlM_append, before]
    exact (bind_pure _).trans (onLines_substitutedLines compatible laterFirst)

/-! ## The order of the list -/

theorem Compatible.perm (compatible : Compatible lines edits) (perm : others.Perm edits) :
    Compatible lines others where
  within e member := compatible.within e (perm.mem_iff.mp member)
  apart := by
    refine (perm.pairwise_iff fun {a b} apart sameLine inBounds => ?_).mpr compatible.apart
    obtain ⟨different, disjoint⟩ := apart sameLine.symm (sameLine ▸ inBounds)
    refine ⟨different.symm, ?_⟩
    unfold Disjoint at disjoint ⊢
    omega

theorem putAt_perm (perm : others.Perm edits)
    (distinct : edits.Pairwise fun a b => a.range.start.character ≠ b.range.start.character) :
    putAt others column = putAt edits column := by
  have filtered := perm.filter fun e => e.range.start.character == column
  have apart := distinct.filter fun e => e.range.start.character == column
  have here : ∀ e ∈ edits.filter fun e => e.range.start.character == column, e.range.start.character = column :=
    fun e member => beq_iff_eq.mp (List.mem_filter.mp member).2
  unfold putAt
  generalize edits.filter (fun e => e.range.start.character == column) = atColumn at filtered apart here ⊢
  match atColumn with
  | [] => rw [filtered.eq_nil]
  | [e] => rw [filtered.eq_singleton]
  | a :: b :: more =>
    simp only [List.forall_mem_cons] at here
    exact absurd (here.1.trans here.2.1.symm) ((List.pairwise_cons.mp apart).1 b (List.mem_cons_self ..))

theorem substitutedLines_perm (compatible : Compatible lines edits) (perm : others.Perm edits) :
    substitutedLines others lines = substitutedLines edits lines := by
  refine List.ext_getElem? fun number => ?_
  rw [getElem?_substitutedLines, getElem?_substitutedLines]
  cases isLine : lines[number]? with
  | none => rfl
  | some line =>
    have perm : (startingOn others number).Perm (startingOn edits number) := perm.filter _
    have distinct : (startingOn edits number).Pairwise fun a b =>
        a.range.start.character ≠ b.range.start.character := by
      refine (compatible.apart.filter _).imp_of_mem fun {a b} first second apart => ?_
      have onLine := beq_iff_eq.mp (List.mem_filter.mp first).2
      have onLineToo := beq_iff_eq.mp (List.mem_filter.mp second).2
      exact (apart (onLine.trans onLineToo.symm) (onLine ▸ (List.getElem?_eq_some_iff.mp isLine).1)).1
    refine congrArg some (substituted_congr fun column _ => ⟨putAt_perm perm distinct, perm.any_eq⟩)

/-! ## Lines that do not exist -/

theorem Compatible.past (compatible : Compatible lines edits) (past : lines.length ≤ e.range.start.line) :
    Compatible lines (e :: edits) where
  within x member inBounds := by
    rcases List.mem_cons.mp member with rfl | other
    · exact absurd inBounds (Nat.not_lt.mpr past)
    · exact compatible.within x other inBounds
  apart := .cons (fun _ _ _ inBounds => absurd inBounds (Nat.not_lt.mpr past)) compatible.apart

theorem substitutedLines_past (past : lines.length ≤ e.range.start.line) :
    substitutedLines (e :: edits) lines = substitutedLines edits lines := by
  refine List.ext_getElem? fun number => ?_
  rw [getElem?_substitutedLines, getElem?_substitutedLines]
  cases isLine : lines[number]? with
  | none => rfl
  | some line =>
    have inBounds := (List.getElem?_eq_some_iff.mp isLine).1
    have elsewhere : e.range.start.line ≠ number := by omega
    simp [startingOn, elsewhere]

theorem apply_eq {text : String} (compatible : Compatible (Document.lines text) edits) :
    apply text edits = some (Document.ofLines (substitutedLines edits (Document.lines text))) := by
  have perm := Format.laterFirst_perm edits
  have applied := foldlM_onLines_eq (compatible.perm perm) (Format.pairwise_laterFirst edits)
  rw [substitutedLines_perm compatible perm] at applied
  unfold apply applyTo
  rw [← Document.lines, applied]
  rfl

end Edit

/-- Take edits of a document of which those on one of its lines stay within that line, and of which no two on one line
    start in the same column or overlap. Applying them gives the lines of the document with all of them made at once,
    each by the columns of its line as it was; in whatever order the edits are listed, and whatever edits of lines that
    the document does not have are put among them. -/
theorem edits_applied_at_once (text : String) (edits : List Edit)
    (compatible : Edit.Compatible (Document.lines text) edits) :
    Edit.apply text edits = some (Document.ofLines (Edit.substitutedLines edits (Document.lines text))) ∧
      (∀ others, others.Perm edits → Edit.apply text others = Edit.apply text edits) ∧
      ∀ e, (Document.lines text).length ≤ e.range.start.line →
        ∀ others, others.Perm (e :: edits) → Edit.apply text others = Edit.apply text edits := by
  refine ⟨Edit.apply_eq compatible, fun others perm => ?_, fun e past others perm => ?_⟩
  · rw [Edit.apply_eq (compatible.perm perm), Edit.apply_eq compatible, Edit.substitutedLines_perm compatible perm]
  · have also := compatible.past past
    rw [Edit.apply_eq (also.perm perm), Edit.apply_eq compatible, Edit.substitutedLines_perm also perm,
      Edit.substitutedLines_past past]

/-- Edits that touch, two that only insert and one that brings a line break, in no order, and one of a line that does not
    exist. -/
def touchingEdits : List Edit :=
  [⟨Range.onLine 0 1 2, "xyz"⟩, ⟨Range.onLine 7 3 1, "nowhere"⟩, ⟨Range.onLine 1 2 2, "!"⟩, ⟨Range.onLine 0 2 2, "ß"⟩,
    ⟨Range.onLine 0 0 1, ""⟩, ⟨Range.onLine 0 3 6, "\n"⟩]

theorem edits_applied_at_once_touching :
    Edit.Compatible (Document.lines "äöü = é\r\nab") touchingEdits ∧
      Edit.apply "äöü = é\r\nab" touchingEdits = some "xyzßü\né\nab!" := by
  have lines : Document.lines "äöü = é\r\nab" = ["äöü = é".toList, "ab".toList] := by
    decide
  have compatible : Edit.Compatible (Document.lines "äöü = é\r\nab") touchingEdits := by
    rw [lines]
    refine ⟨?_, ?_⟩
    · simp only [touchingEdits, List.forall_mem_cons]
      exact ⟨fun _ => ⟨rfl, by decide, _, rfl, by decide⟩, fun inBounds => absurd inBounds (by decide),
        fun _ => ⟨rfl, by decide, _, rfl, by decide⟩, fun _ => ⟨rfl, by decide, _, rfl, by decide⟩,
        fun _ => ⟨rfl, by decide, _, rfl, by decide⟩, fun _ => ⟨rfl, by decide, _, rfl, by decide⟩,
        List.forall_mem_nil _⟩
    · simp only [Edit.Disjoint]
      decide
  refine ⟨compatible, ?_⟩
  rw [(edits_applied_at_once _ _ compatible).1, lines]
  decide

end ChartConfig
