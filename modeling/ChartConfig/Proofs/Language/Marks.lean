import ChartConfig.Proofs.Language.Leading
import ChartConfig.Proofs.Language.Pieces

/-!
# Marks

What a line refers to stands behind a mark: a word of a value behind the sign, an identifier of a loop expression behind
its at sign, the use of an alias behind a quote. A loop names its collection before any mark, and behind the word that
begins its line. So nothing else that is looked up on that line starts where the collection does.
-/

namespace ChartConfig

open Text

namespace Text

/-- The characters behind which a line refers to names. -/
def isMark (c : Char) : Bool :=
  c == '=' || c == '@' || c == '"' || c.toNat == 0x27

def Marked (column : Nat) (line : List Char) : Prop :=
  ∃ c ∈ line.take column, isMark c = true

variable {line : List Char} {column : Nat}

theorem isMark_of_isWord {c : Char} (word : isWord c = true) : isMark c = false := by
  rw [Bool.eq_false_iff]
  intro mark
  simp only [isMark, Bool.or_eq_true, beq_iff_eq] at mark
  obtain ((rfl | rfl) | rfl) | number := mark
  · exact absurd word (by decide)
  · exact absurd word (by decide)
  · exact absurd word (by decide)
  · have quote : c = Char.ofNat 0x27 := by rw [← number, Char.ofNat_toNat]
    exact absurd (quote ▸ word) (by decide)

theorem isMark_of_isGap {c : Char} (gap : isGap c = true) : isMark c = false := by
  obtain rfl | rfl : c = ' ' ∨ c = '\t' := by simpa [isGap] using gap
  · rfl
  · rfl

theorem Marked.mono (marked : Marked column line) {further : Nat} (behind : column ≤ further) :
    Marked further line := by
  obtain ⟨c, before, mark⟩ := marked
  exact ⟨c, (List.take_subset_take_left line behind) before, mark⟩

theorem Marked.ofDrop {n : Nat} (marked : Marked column (line.drop n)) : Marked (n + column) line := by
  obtain ⟨c, before, mark⟩ := marked
  exact ⟨c, by rw [List.take_add]; exact List.mem_append_right _ before, mark⟩

theorem leading_of_gaps {core : List Char} (ahead : line.dropWhile isGap = core) (noBlank : leadingBlanks core = []) :
    leadingBlanks line = line.takeWhile isGap ∧ trimStart line = core := by
  have whole : line.takeWhile isGap ++ core = line := by rw [← ahead, List.takeWhile_append_dropWhile]
  have blank : ∀ d ∈ line.takeWhile isGap, isBlank d = true := fun d member =>
    isBlank_of_isGap (List.mem_takeWhile_imp member)
  have leading : leadingBlanks (line.takeWhile isGap ++ core) = line.takeWhile isGap := by
    rw [leadingBlanks, List.takeWhile_append_of_pos blank, ← leadingBlanks, noBlank, List.append_nil]
  have trimmed : trimStart (line.takeWhile isGap ++ core) = core := by
    have same := leadingBlanks_append_trimStart core
    rw [noBlank, List.nil_append] at same
    rw [trimStart_append blank, same]
  rw [whole] at leading trimmed
  exact ⟨leading, trimmed⟩

/-! ## Moves past no mark -/

theorem unmarked_literal {literal : String} (clean : literal.toList.all (fun d => !isMark d) = true) :
    ∀ d ∈ literal.toList, isMark d = false :=
  fun d member => by simpa using List.all_eq_true.mp clean d member

def Move.Unmarked : Move → Prop
  | skip p | pass p | read p => ∀ c, p c = true → isMark c = false
  | expect literal => ∀ c ∈ literal.toList, isMark c = false

structure Cursor.Unmarked (c : Cursor) (line : List Char) : Prop where
  on : c.On line
  before : ¬ Marked c.column line

namespace Cursor

variable {c after : Cursor} {p : Char → Bool}

theorem Unmarked.advance (unmarked : c.Unmarked line) {part : List Char} (leads : part <+: c.ahead)
    (clean : ∀ d ∈ part, isMark d = false) : ¬ Marked (c.column + part.length) line := by
  rintro ⟨d, before, mark⟩
  rw [List.take_add, List.mem_append] at before
  rcases before with past | now
  · exact unmarked.before ⟨d, past, mark⟩
  · rw [← unmarked.on, ← List.prefix_iff_eq_take.mp leads] at now
    rw [clean d now] at mark
    cases mark

theorem unmarked_start (line : List Char) : (start line).Unmarked line :=
  ⟨.start line, by simp [Marked, start]⟩

theorem Unmarked.skip (unmarked : c.Unmarked line) (clean : ∀ d, p d = true → isMark d = false) :
    (c.skip p).Unmarked line where
  on := unmarked.on.skip p
  before := unmarked.advance (List.takeWhile_prefix p) fun d member => clean d (List.mem_takeWhile_imp member)

theorem Unmarked.expect {literal : String} (unmarked : c.Unmarked line)
    (clean : ∀ d ∈ literal.toList, isMark d = false) (passed : c.expect literal = some after) :
    after.Unmarked line ∧ after.column = c.column + literal.length := by
  have leads := prefix_of_expect passed
  have on := unmarked.on.expect passed
  simp only [Cursor.expect] at passed
  split at passed
  · cases passed
    exact ⟨⟨on, unmarked.advance leads clean⟩, rfl⟩
  · cases passed

theorem Unmarked.take {piece : Piece} (unmarked : c.Unmarked line) (clean : ∀ d, p d = true → isMark d = false)
    (passed : c.take p = some (piece, after)) :
    piece.column = c.column ∧ c.column ≤ after.column ∧ after.Unmarked line := by
  simp only [Cursor.take] at passed
  split at passed
  · cases passed
  · cases passed
    exact ⟨rfl, Nat.le_add_right .., unmarked.skip clean⟩

/-- Moves past no mark read pieces with no mark before them, from where the cursor is. -/
theorem follow_unmarked {β : Type} {finish : List Piece → Cursor → Option β} {moves : List Move} {pieces : List Piece}
    {result : β} {first : Nat} (clean : ∀ move ∈ moves, move.Unmarked) (unmarked : c.Unmarked line)
    (start : first ≤ c.column) (placed : ∀ p ∈ pieces, first ≤ p.column ∧ ¬ Marked p.column line)
    (found : follow finish moves pieces c = some result) :
    ∃ pieces after, (∀ p ∈ pieces, first ≤ p.column ∧ ¬ Marked p.column line) ∧ finish pieces after = some result := by
  induction moves generalizing pieces c with
  | nil => exact ⟨pieces, c, placed, found⟩
  | cons move moves inductionHypothesis =>
    rw [List.forall_mem_cons] at clean
    obtain ⟨now, clean⟩ := clean
    cases move with
    | skip p => exact inductionHypothesis clean (unmarked.skip now) (Nat.le_add_right_of_le start) placed found
    | pass p =>
      obtain ⟨after, passed, found⟩ := Option.bind_eq_some_iff.mp found
      obtain ⟨⟨piece, _⟩, taken, rfl⟩ := Option.map_eq_some_iff.mp passed
      obtain ⟨-, onward, unmarkedAfter⟩ := unmarked.take now taken
      exact inductionHypothesis clean unmarkedAfter (start.trans onward) placed found
    | expect literal =>
      obtain ⟨after, passed, found⟩ := Option.bind_eq_some_iff.mp found
      obtain ⟨unmarkedAfter, onward⟩ := unmarked.expect now passed
      exact inductionHypothesis clean unmarkedAfter (by omega) placed found
    | read p =>
      obtain ⟨⟨piece, after⟩, taken, found⟩ := Option.bind_eq_some_iff.mp found
      obtain ⟨isHere, onward, unmarkedAfter⟩ := unmarked.take now taken
      refine inductionHypothesis clean unmarkedAfter (start.trans onward) (fun q member => ?_) found
      rcases List.mem_append.mp member with old | new
      · exact placed q old
      · rw [List.mem_singleton.mp new, isHere]
        exact ⟨start, unmarked.before⟩

end Cursor

end Text

/-! ## References stand behind marks -/

namespace Reference

variable {line cs : List Char} {p : Piece}

theorem exists_of_mem_scan {read : List Char → Option (Piece × Nat)} {column busy : Nat}
    (member : p ∈ scan read column busy cs) :
    ∃ n piece size, read (cs.drop n) = some (piece, size) ∧ p = piece.shift (column + n) := by
  induction cs generalizing column busy with
  | nil => cases busy <;> cases member
  | cons c cs inductionHypothesis =>
    -- What is found further on was read one place further on, whether this place is passed over or read.
    have later {busy : Nat} (member : p ∈ scan read (column + 1) busy cs) :
        ∃ n piece size, read ((c :: cs).drop n) = some (piece, size) ∧ p = piece.shift (column + n) := by
      obtain ⟨n, piece, size, isRead, rfl⟩ := inductionHypothesis member
      exact ⟨n + 1, piece, size, isRead, by rw [Nat.add_assoc, Nat.add_comm 1 n]⟩
    cases busy with
    | succ busy => exact later member
    | zero =>
      simp only [scan] at member
      split at member
      · next piece size isRead =>
        rcases List.mem_cons.mp member with rfl | member
        · exact ⟨0, piece, size, isRead, rfl⟩
        · exact later member
      · exact later member

theorem marked_of_aliasUse? {size : Nat} (found : aliasUse? cs = some (p, size)) : Marked p.column cs := by
  simp only [aliasUse?] at found
  split at found
  · split at found
    · next c rest ahead =>
      split at found
      · next quote =>
        obtain ⟨body, -, same⟩ := Option.map_eq_some_iff.mp found
        cases same
        have isQuote : isMark c = true := by
          simp only [Bool.or_eq_true, decide_eq_true_eq, beq_iff_eq] at quote
          rcases quote with number | rfl
          · simp [isMark, number]
          · rfl
        have marked : Marked 1 (cs.drop 6) := ⟨c, by rw [ahead]; exact List.mem_cons_self .., isQuote⟩
        exact marked.ofDrop
      · cases found
    · cases found
  · cases found

theorem marked_of_mem_aliasUses (member : p ∈ aliasUses line) : Marked p.column line := by
  obtain ⟨n, piece, size, isRead, rfl⟩ := exists_of_mem_scan member
  exact (marked_of_aliasUse? isRead).ofDrop.mono (by simp [Piece.shift])

theorem marked_of_mem_identifiers {e : Piece} {i : Identifier} (isExpression : e ∈ loopExpressions line)
    (isIdentifier : i ∈ identifiers e.text) : Marked (i.piece.shift e.column).column line := by
  obtain ⟨n, piece, size, isRead, rfl⟩ := exists_of_mem_scan isExpression
  simp only [loopExpression?] at isRead
  split at isRead
  · next cs ahead =>
    obtain ⟨body, -, same⟩ := Option.map_eq_some_iff.mp isRead
    cases same
    have inside : i ∈ identifiersFrom 1 (some '@') 0 ('{' :: body ++ ['}']) := isIdentifier
    have later : 1 ≤ i.piece.column := (inFrom_of_mem_identifiersFrom inside).start
    have marked : Marked 1 (line.drop n) := ⟨'@', by rw [ahead]; exact List.mem_cons_self .., rfl⟩
    exact marked.ofDrop.mono (by simp only [Piece.shift]; omega)
  · cases isRead

end Reference

/-! ## The two sides of an assignment -/

namespace Line

variable {line : List Char}

theorem place_of_findSign {first : Nat} {before after : List Char} {a : Assignment}
    (ahead : line.drop first = before.reverse ++ after) (found : Assignment.findSign first before after = some a) :
    a.name.column = first ∧ Marked a.value.column line := by
  induction after generalizing before with
  | nil => cases found
  | cons c after inductionHypothesis =>
    simp only [Assignment.findSign] at found
    split at found
    · next sign =>
      cases found
      simp only [Bool.and_eq_true, decide_eq_true_eq, Bool.not_eq_true', List.isEmpty_eq_false_iff] at sign
      obtain ⟨⟨rfl, someText⟩, -⟩ := sign
      have marked : Marked (before.length + 1) (line.drop first) := by
        refine ⟨'=', ?_, rfl⟩
        rw [ahead, ← List.length_reverse, List.take_length_add_append]
        simp
      have behind := (@inFrom_valueAfter (first + before.length + 1) after someText).start
      exact ⟨rfl, marked.ofDrop.mono (by omega)⟩
    · exact inductionHypothesis (by simpa using ahead) found

theorem place_of_assignment? {a : Assignment} (found : assignment? line = some a) :
    a.name.column = (leadingBlanks line).length ∧ Marked a.value.column line := by
  simp only [assignment?] at found
  have rest := @List.drop_left _ (leadingBlanks line) (trimStart line)
  rw [leadingBlanks_append_trimStart] at rest
  split at found
  · next c cs text =>
    split at found
    · exact place_of_findSign (by simpa [text] using rest) found
    · cases found
  · cases found

/-! ## The collection of a loop -/

variable {p c : Piece}

theorem place_of_follow_for {moves : List Move} (clean : ∀ move ∈ moves, move.Unmarked)
    (found : Cursor.follow (fun pieces _ => pieces.getLast?) (loopMoves ++ moves) [] (.start line) = some c) :
    "for".toList <+: trimStart line ∧ (leadingBlanks line).length < c.column ∧ ¬ Marked c.column line := by
  have gap : ∀ d, isGap d = true → isMark d = false := fun _ => isMark_of_isGap
  have word : ∀ d, isWord d = true → isMark d = false := fun _ => isMark_of_isWord
  have cleanAll : ∀ move ∈ [Move.pass isGap, .read isWord, .pass isGap, .expect "in", .pass isGap] ++ moves,
      move.Unmarked := by
    simp only [List.cons_append, List.nil_append, List.forall_mem_cons]
    exact ⟨gap, word, gap, unmarked_literal (by decide), gap, clean⟩
  obtain ⟨after, passed, found⟩ := Option.bind_eq_some_iff.mp found
  obtain ⟨rest, ahead⟩ := Cursor.prefix_of_expect passed
  change "for".toList ++ rest = line.dropWhile isGap at ahead
  obtain ⟨leading, trimmed⟩ := leading_of_gaps ahead.symm rfl
  obtain ⟨unmarked, column⟩ := ((Cursor.unmarked_start line).skip gap).expect (unmarked_literal (by decide)) passed
  obtain ⟨pieces, last, placed, isLast⟩ :=
    Cursor.follow_unmarked cleanAll unmarked (Nat.le_refl _) (List.forall_mem_nil _) found
  obtain ⟨start, before⟩ := placed c (List.mem_of_getLast? isLast)
  refine ⟨trimmed ▸ List.prefix_append .., ?_, before⟩
  have size : "for".length = 3 := rfl
  simp only [Cursor.skip, Cursor.start, size] at column
  rw [leading]
  omega

theorem place_of_loopCollection? (found : loopCollection? line = some c) :
    "for".toList <+: trimStart line ∧ (leadingBlanks line).length < c.column ∧ ¬ Marked c.column line := by
  have word : ∀ d, isWord d = true → isMark d = false := fun _ => isMark_of_isWord
  rw [loopCollection?_eq, Option.orElse_eq_orElse, Option.orElse_eq_or, Option.or_eq_some_iff] at found
  rcases found with keys | ⟨-, name⟩
  · refine place_of_follow_for ?_ keys
    simp only [keysMoves, List.forall_mem_cons]
    exact ⟨unmarked_literal (by decide), word, unmarked_literal (by decide), List.forall_mem_nil _⟩
  · refine place_of_follow_for ?_ name
    simp only [List.forall_mem_cons]
    exact ⟨word, List.forall_mem_nil _⟩

theorem templateDeclaration?_of_loop (found : loopCollection? line = some c) : templateDeclaration? line = none := by
  obtain ⟨⟨rest, ahead⟩, -⟩ := place_of_loopCollection? found
  have trimmed : ((Cursor.start line).skip isBlank).ahead = "for".toList ++ rest := ahead.symm
  have assign : ((Cursor.start line).skip isBlank).expect "<#assign" = none := by
    rw [Cursor.expect, trimmed]
    rfl
  have list : ((Cursor.start line).skip isBlank).expect "<#list" = none := by
    rw [Cursor.expect, trimmed]
    rfl
  simp only [templateDeclaration?, templateAssign?, templateList?, assign, list, Option.bind_eq_bind, Option.bind_none]
  rfl

/-! ## What is looked up on a line -/

/-- The piece is one that may be looked up when the line is read. -/
inductive LooksUp (line : List Char) (p : Piece) : Prop
  | header (named : headerName? line = some p)
  | setting (leads : p.column = (leadingBlanks line).length)
  | template (d : TemplateDeclaration) (declared : templateDeclaration? line = some d)
    (collects : d.collection = some p)
  | reference (marked : Marked p.column line)

/-- Nothing else that is looked up on the line of a loop starts where its collection does. -/
theorem LooksUp.column_ne (looksUp : LooksUp line p) (isLoop : keyword? line = some .forBlock)
    (collects : loopCollection? line = some c) : p.column ≠ c.column := by
  obtain ⟨-, behind, unmarked⟩ := place_of_loopCollection? collects
  intro same
  cases looksUp with
  | header named =>
    rw [keyword?_of_header named] at isLoop
    cases isLoop
  | setting leads => omega
  | template d declared =>
    rw [templateDeclaration?_of_loop collects] at declared
    cases declared
  | reference marked => exact unmarked (same ▸ marked)

end Line

end ChartConfig
