import ChartConfig.Proofs.Language.Contents

/-!
# The cells of a row

A row is written as cells with separators between them. Counting gives back the number of cells, unless a quote occurs
again somewhere behind an empty pair of its kind: such a pair is taken for the beginning of a cell that runs up to there.
Counting goes through any line by columns, and never past its end.
-/

namespace ChartConfig.Csv

/-! ## Rows as they are written -/

/-- A cell: some characters of which none separates and the first is no quote, or a text between two quotes that does not
    hold that quote. -/
inductive Cell where
  | bare (first : Char) (rest : List Char) (unquoted : isQuote first = false)
      (solid : ∀ c ∈ first :: rest, isSeparator c = false)
  | quoted (quote : Char) (text : List Char) (isQuote : isQuote quote = true) (closed : quote ∉ text)

namespace Cell

def written : Cell → List Char
  | bare first rest _ _ => first :: rest
  | quoted quote text _ _ => quote :: (text ++ [quote])

/-- The quote of an empty pair. -/
def emptyPair? : Cell → Option Char
  | quoted quote [] _ _ => some quote
  | _ => none

/-- The cell is an empty pair of quotes, and its quote occurs in the other. -/
def clashes (cell later : Cell) : Bool :=
  match cell.emptyPair? with
  | some quote => later.written.contains quote
  | none => false

end Cell

/-- Separators, then cells, each with the separators behind it: some, or none at the end of the row. -/
structure Row where
  lead : List Char
  cells : List (Cell × List Char)
  leadSeparates : ∀ c ∈ lead, isSeparator c = true
  separates : ∀ entry ∈ cells, ∀ c ∈ entry.2, isSeparator c = true
  separated : ∀ entry ∈ cells.dropLast, entry.2 ≠ []

namespace Row

def writtenCells (cells : List (Cell × List Char)) : List Char :=
  cells.flatMap fun entry => entry.1.written ++ entry.2

def written (row : Row) : List Char :=
  row.lead ++ writtenCells row.cells

/-- No quote occurs behind an empty pair of its kind. -/
def Clear (row : Row) : Prop :=
  row.cells.Pairwise fun entry later => entry.1.clashes later.1 = false

instance (row : Row) : Decidable row.Clear :=
  inferInstanceAs (Decidable (row.cells.Pairwise _))

end Row

/-! ## Counting -/

variable {before run inside after cs : List Char} {q : Char}

def Stops (after : List Char) : Prop :=
  ∀ c ∈ after.head?, isSeparator c = true

theorem countFrom_bare (solid : ∀ c ∈ run, isSeparator c = false) (stops : Stops after) :
    countFrom .bare (run ++ after) = countFrom .between after := by
  induction run with
  | nil =>
    cases after with
    | nil => rfl
    | cons c after => simp [countFrom, stops c rfl]
  | cons c run inductionHypothesis =>
    rw [List.forall_mem_cons] at solid
    simp only [List.cons_append, countFrom, solid.1, Bool.false_eq_true, if_false, inductionHypothesis solid.2]

theorem countFrom_quoted (first : q ∉ inside) :
    countFrom (.quoted q) (inside ++ q :: after) = countFrom .between after := by
  induction inside with
  | nil => simp [countFrom]
  | cons c inside inductionHypothesis =>
    rw [List.mem_cons, not_or] at first
    simp only [List.cons_append, countFrom, Ne.symm first.1, if_false, inductionHypothesis first.2]

theorem isSeparator_of_isQuote (quote : isQuote q = true) : isSeparator q = false := by
  rw [Bool.eq_false_iff]
  intro separates
  simp only [isSeparator, Bool.or_eq_true, beq_iff_eq] at separates
  rcases separates with (rfl | rfl) | rfl <;> cases quote

/-- A quote that occurs again, but not at once, encloses a cell, whatever follows it directly. -/
theorem countFrom_pair (quote : isQuote q = true) (c : Char) (first : q ∉ inside) :
    countFrom .between (q :: c :: (inside ++ q :: after)) = countFrom .between after + 1 := by
  simp [countFrom, isSeparator_of_isQuote quote, quote, countFrom_quoted first]

theorem countFrom_start {c : Char} (starts : isSeparator c = false) (unpaired : isQuote c = true → c ∉ cs.tail) :
    countFrom .between (c :: cs) = countFrom .bare cs + 1 := by
  have noPair : (isQuote c && cs.tail.contains c) = false := by
    cases quote : isQuote c with
    | false => rfl
    | true => simpa using unpaired quote
  simp only [countFrom, starts, noPair, Bool.false_eq_true, if_false]

namespace Cell

theorem written_of_emptyPair? {cell : Cell} (empty : cell.emptyPair? = some q) :
    Csv.isQuote q = true ∧ cell.written = [q, q] := by
  cases cell with
  | bare => cases empty
  | quoted quote text isQuote closed =>
    cases text with
    | nil =>
      cases empty
      exact ⟨isQuote, rfl⟩
    | cons => cases empty

theorem countFrom_written (cell : Cell) (stops : Stops after)
    (clear : ∀ q, cell.emptyPair? = some q → q ∉ after) :
    countFrom .between (cell.written ++ after) = countFrom .between after + 1 := by
  cases cell with
  | bare first rest unquoted solid =>
    rw [List.forall_mem_cons] at solid
    have starts := @countFrom_start (rest ++ after) first solid.1 fun quote => by
      rw [unquoted] at quote
      cases quote
    rw [written, List.cons_append, starts, countFrom_bare solid.2 stops]
  | quoted quote text isQuote closed =>
    cases text with
    | nil =>
      have noSeparator := isSeparator_of_isQuote isQuote
      have starts := @countFrom_start ([quote] ++ after) quote noSeparator fun _ => clear quote rfl
      have solid : ∀ c ∈ [quote], isSeparator c = false := List.forall_mem_singleton.mpr noSeparator
      exact starts.trans (congrArg (· + 1) (countFrom_bare solid stops))
    | cons c text =>
      rw [List.mem_cons, not_or] at closed
      simpa [written] using @countFrom_pair text after quote isQuote c closed.2

end Cell

namespace Row

variable {cells : List (Cell × List Char)} {entry : Cell × List Char}

theorem mem_writtenCells {c : Char} (member : c ∈ writtenCells cells) :
    ∃ entry ∈ cells, c ∈ entry.1.written ∨ c ∈ entry.2 := by
  obtain ⟨entry, isEntry, inEntry⟩ := List.mem_flatMap.mp member
  exact ⟨entry, isEntry, List.mem_append.mp inEntry⟩

theorem stops_behind (separates : ∀ c ∈ entry.2, isSeparator c = true)
    (separated : ∀ x ∈ (entry :: cells).dropLast, x.2 ≠ []) : Stops (entry.2 ++ writtenCells cells) := by
  obtain ⟨cell, behind⟩ := entry
  cases behind with
  | nil =>
    cases cells with
    | nil => exact nofun
    | cons next cells => exact absurd rfl (separated _ (List.mem_cons_self ..))
  | cons c behind =>
    intro d isHead
    cases isHead
    exact separates c (List.mem_cons_self ..)

theorem separated_behind (separated : ∀ x ∈ (entry :: cells).dropLast, x.2 ≠ []) : ∀ x ∈ cells.dropLast, x.2 ≠ [] := by
  cases cells with
  | nil => exact List.forall_mem_nil _
  | cons next cells =>
    rw [List.dropLast_cons_cons, List.forall_mem_cons] at separated
    exact separated.2

theorem countFrom_cons (separates : ∀ c ∈ entry.2, isSeparator c = true)
    (separated : ∀ x ∈ (entry :: cells).dropLast, x.2 ≠ [])
    (clear : ∀ q, entry.1.emptyPair? = some q → q ∉ entry.2 ++ writtenCells cells) :
    countFrom .between (writtenCells (entry :: cells)) = countFrom .between (writtenCells cells) + 1 := by
  have counted := entry.1.countFrom_written (stops_behind separates separated) clear
  rw [countFrom_separators separates] at counted
  simpa [writtenCells] using counted

theorem countFrom_writtenCells (separates : ∀ entry ∈ cells, ∀ c ∈ entry.2, isSeparator c = true)
    (separated : ∀ entry ∈ cells.dropLast, entry.2 ≠ [])
    (clear : cells.Pairwise fun entry later => entry.1.clashes later.1 = false) :
    countFrom .between (writtenCells cells) = cells.length := by
  induction cells with
  | nil => rfl
  | cons entry cells inductionHypothesis =>
    rw [List.forall_mem_cons] at separates
    obtain ⟨clearHere, clearLater⟩ := List.pairwise_cons.mp clear
    -- A quote separates nothing, so one behind an empty pair would stand in a later cell.
    have apart : ∀ q, entry.1.emptyPair? = some q → q ∉ entry.2 ++ writtenCells cells := by
      intro q empty member
      have noSeparator := isSeparator_of_isQuote (Cell.written_of_emptyPair? empty).1
      rcases List.mem_append.mp member with behind | inCells
      · exact Bool.eq_false_iff.mp noSeparator (separates.1 q behind)
      · obtain ⟨x, isEntry, inCell | behind⟩ := mem_writtenCells inCells
        · have noClash := clearHere x isEntry
          simp [Cell.clashes, empty, inCell] at noClash
        · exact Bool.eq_false_iff.mp noSeparator (separates.2 x isEntry q behind)
    rw [countFrom_cons separates.1 separated apart,
      inductionHypothesis separates.2 (separated_behind separated) clearLater, List.length_cons]

/-- If cells clash, counting takes the first empty pair whose quote occurs again for the beginning of a cell that runs up
    to there, and goes on behind it. -/
theorem countFrom_clashing (separates : ∀ entry ∈ cells, ∀ c ∈ entry.2, isSeparator c = true)
    (separated : ∀ entry ∈ cells.dropLast, entry.2 ≠ [])
    (clashing : ¬ cells.Pairwise fun entry later => entry.1.clashes later.1 = false) :
    ∃ front entry later q inside after, cells = front ++ entry :: later ∧ entry.1.emptyPair? = some q ∧
      entry.2 ++ writtenCells later = inside ++ q :: after ∧ q ∉ inside ∧
      countFrom .between (writtenCells cells) = front.length + 1 + countFrom .between after := by
  induction cells with
  | nil => exact absurd .nil clashing
  | cons entry cells inductionHypothesis =>
    rw [List.forall_mem_cons] at separates
    by_cases again : ∃ q, entry.1.emptyPair? = some q ∧ q ∈ entry.2 ++ writtenCells cells
    · obtain ⟨q, empty, again⟩ := again
      obtain ⟨isQuote, written⟩ := Cell.written_of_emptyPair? empty
      obtain ⟨inside, after, cut, first⟩ := List.eq_append_cons_of_mem again
      refine ⟨[], entry, cells, q, inside, after, rfl, empty, cut, first, ?_⟩
      have whole : writtenCells (entry :: cells) = q :: q :: (inside ++ q :: after) := by
        rw [← cut, writtenCells, List.flatMap_cons, written]
        simp [writtenCells]
      rw [whole, countFrom_pair isQuote q first, List.length_nil, Nat.zero_add, Nat.add_comm]
    · have apart : ∀ q, entry.1.emptyPair? = some q → q ∉ entry.2 ++ writtenCells cells :=
        fun q empty member => again ⟨q, empty, member⟩
      have clashingLater : ¬ cells.Pairwise fun entry later => entry.1.clashes later.1 = false := by
        refine fun clearLater => clashing (.cons (fun x isEntry => ?_) clearLater)
        unfold Cell.clashes
        split
        · next q empty =>
          rw [Bool.eq_false_iff, ne_eq, List.contains_iff_mem]
          intro inCell
          have inCells : q ∈ writtenCells cells := List.mem_flatMap.mpr ⟨x, isEntry, List.mem_append_left _ inCell⟩
          exact apart q empty (List.mem_append_right _ inCells)
        · rfl
      obtain ⟨front, clash, later, q, inside, after, rfl, empty, cut, first, counted⟩ :=
        inductionHypothesis separates.2 (separated_behind separated) clashingLater
      refine ⟨entry :: front, clash, later, q, inside, after, rfl, empty, cut, first, ?_⟩
      rw [countFrom_cons separates.1 separated apart, counted, List.length_cons]
      omega

theorem columns_written (row : Row) : columns row.written = countFrom .between (writtenCells row.cells) := by
  rw [columns, written, countFrom_separators row.leadSeparates]

end Row

/-! ## Counting by columns -/

/-- From a column of the row on, so many cells are counted. Each constructor cuts the row at the column that is looked at
    and says at which one counting goes on; it ends at the end of the row. -/
inductive Scan (row : List Char) : (column count : Nat) → Prop
  | ended : Scan row row.length 0
  | separator {before after : List Char} {c : Char} {count : Nat} (cut : row = before ++ c :: after)
      (separates : isSeparator c = true) (scan : Scan row (before.length + 1) count) : Scan row before.length count
  | pair {before inside after : List Char} {quote c : Char} {count : Nat}
      (cut : row = before ++ quote :: c :: (inside ++ quote :: after)) (isQuote : isQuote quote = true)
      (first : quote ∉ inside) (scan : Scan row (before.length + inside.length + 3) count) :
      Scan row before.length (count + 1)
  | bare {before run after : List Char} {c : Char} {count : Nat} (cut : row = before ++ c :: (run ++ after))
      (starts : isSeparator c = false) (unpaired : isQuote c = true → c ∉ (run ++ after).tail)
      (solid : ∀ d ∈ run, isSeparator d = false) (stops : Stops after)
      (scan : Scan row (before.length + run.length + 1) count) : Scan row before.length (count + 1)

theorem exists_run (cs : List Char) :
    ∃ run after, cs = run ++ after ∧ (∀ c ∈ run, isSeparator c = false) ∧ Stops after := by
  induction cs with
  | nil => exact ⟨[], [], rfl, List.forall_mem_nil _, nofun⟩
  | cons c cs inductionHypothesis =>
    cases separates : isSeparator c with
    | true =>
      refine ⟨[], c :: cs, rfl, List.forall_mem_nil _, fun d isHead => ?_⟩
      cases isHead
      exact separates
    | false =>
      obtain ⟨run, after, rfl, solid, stops⟩ := inductionHypothesis
      exact ⟨c :: run, after, rfl, List.forall_mem_cons.mpr ⟨separates, solid⟩, stops⟩

theorem scan_ahead {row before ahead : List Char} (cut : row = before ++ ahead) :
    Scan row before.length (countFrom .between ahead) := by
  -- Each step leaves a shorter rest, though not the one behind the first character.
  induction size : ahead.length using Nat.strongRecOn generalizing before ahead with
  | ind n inductionHypothesis =>
  have onward (passed rest : List Char) (isRest : row = (before ++ passed) ++ rest) (shorter : rest.length < n) :
      Scan row (before.length + passed.length) (countFrom .between rest) := by
    rw [← List.length_append]
    exact inductionHypothesis rest.length shorter isRest rfl
  cases ahead with
  | nil =>
    rw [List.append_nil] at cut
    subst cut
    exact .ended
  | cons c cs =>
    rw [List.length_cons] at size
    cases separates : isSeparator c with
    | true =>
      rw [countFrom, if_pos separates]
      exact .separator cut separates (onward [c] cs (by simpa using cut) (by omega))
    | false =>
      by_cases paired : isQuote c = true ∧ c ∈ cs.tail
      · obtain ⟨quote, again⟩ := paired
        cases cs with
        | nil => cases again
        | cons d cs =>
          obtain ⟨inside, after, rfl, first⟩ := List.eq_append_cons_of_mem again
          rw [countFrom_pair quote d first]
          have scan := onward (c :: d :: (inside ++ [c])) after (by simpa using cut) (by simp at size; omega)
          simp only [List.length_cons, List.length_append, List.length_nil] at scan
          exact .pair cut quote first scan
      · have unpaired : isQuote c = true → c ∉ cs.tail := fun quote again => paired ⟨quote, again⟩
        obtain ⟨run, after, rfl, solid, stops⟩ := exists_run cs
        rw [countFrom_start separates unpaired, countFrom_bare solid stops]
        have scan := onward (c :: run) after (by simpa using cut) (by simp at size; omega)
        exact .bare cut separates unpaired solid stops scan

/-- Counting goes through every line column by column. If the line is written from cells, it has as many columns as
    cells, unless a quote occurs again behind an empty pair of its kind. Then the first such pair is one column with all
    that stands up to that quote, so the number is right just in case there are as many columns behind the quote as cells
    behind the pair. -/
theorem cells_counted (line : List Char) :
    Scan line 0 (columns line) ∧
      ∀ row : Row, row.written = line →
        (row.Clear → columns line = row.cells.length) ∧
        (¬ row.Clear → ∃ front entry later q inside after, row.cells = front ++ entry :: later ∧
          entry.1.emptyPair? = some q ∧ entry.2 ++ Row.writtenCells later = inside ++ q :: after ∧ q ∉ inside ∧
          columns line = front.length + 1 + columns after) := by
  refine ⟨@scan_ahead line [] line rfl, ?_⟩
  rintro row rfl
  rw [row.columns_written]
  exact ⟨Row.countFrom_writtenCells row.separates row.separated,
    Row.countFrom_clashing row.separates row.separated⟩

/-- Both quotes, cells with separators in them and with the other quote, a quote inside a bare cell, and an empty pair of
    each kind. -/
def mixedRow : Row where
  lead := [',', ' ']
  cells :=
    [(.quoted (Char.ofNat 0x27) "a, \"b".toList rfl (by decide), [',', ' ']),
      (.quoted '"' "c\td".toList rfl (by decide), [' ']),
      (.bare 'e' [Char.ofNat 0x27, 'f'] rfl (by simp [isSeparator]), ['\t', ',']),
      (.quoted '"' [] rfl (by decide), [' ']), (.quoted (Char.ofNat 0x27) [] rfl (by decide), [])]
  leadSeparates := by simp [isSeparator]
  separates := by simp [isSeparator]
  separated := by simp

theorem cells_counted_mixed :
    mixedRow.written = ", 'a, \"b', \"c\td\" e'f\t,\"\" ''".toList ∧ mixedRow.Clear ∧ columns mixedRow.written = 5 :=
  ⟨by decide, by decide, ((cells_counted mixedRow.written).2 mixedRow rfl).1 (by decide)⟩

/-- The empty pair takes the quote in front of the `a` along. -/
example : columns "\"\" \"a b\"".toList = 3 := by decide

end ChartConfig.Csv
