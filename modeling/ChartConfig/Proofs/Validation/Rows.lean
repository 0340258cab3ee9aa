import ChartConfig.Proofs.Validation.AtName

/-!
# Tables

A `csv` line opens a table, and its header fixes how many cells a row has: the text behind its first `=`, or the next
line that is not blank. Up to the first `endcsv`, and no further, the lines are rows, whatever they look like. A row
leaves the state as it is, so the number of cells stays, and all that is ever reported on its line is that it has
another number of cells.
-/

namespace ChartConfig

open Text Finding

/-! ## The width of a table -/

namespace Csv

/-- The header stands below the opener: this has no `=`, or one with nothing but gaps behind it. -/
def HeaderBelow (opener : List Char) : Prop :=
  '=' ∉ opener ∨ ∃ before gaps, opener = before ++ '=' :: gaps ∧ ∀ c ∈ gaps, isGap c = true

/-- A table with such an opener and such lines below it has so many columns. -/
inductive HeaderWidth (opener : List Char) (following : List (List Char)) : Nat → Prop
  | beside {before header : List Char} (cut : opener = before ++ '=' :: header) (first : '=' ∉ before)
      (notBelow : ¬ HeaderBelow opener) : HeaderWidth opener following (columns header)
  | below {blanks more : List (List Char)} {header : List Char} (isBelow : HeaderBelow opener)
      (next : following = blanks ++ header :: more) (blank : ∀ line ∈ blanks, allBlank line = true)
      (notBlank : allBlank header = false) : HeaderWidth opener following (columns header)
  | missing (isBelow : HeaderBelow opener) (blank : ∀ line ∈ following, allBlank line = true) :
      HeaderWidth opener following 0

variable {opener : List Char} {following : List (List Char)} {width : Nat}

theorem csvHeaderBelow_iff : Line.csvHeaderBelow opener = true ↔ HeaderBelow opener := by
  rw [Line.csvHeaderBelow, Bool.or_eq_true, HeaderBelow, or_comm]
  refine or_congr (by simp) ⟨fun ends => ?_, ?_⟩
  · have parts := List.takeWhile_append_dropWhile (p := isGap) (l := opener.reverse)
    cases rest : opener.reverse.dropWhile isGap with
    | nil => simp [rest] at ends
    | cons c before =>
      obtain rfl : c = '=' := by simpa [rest] using ends
      rw [rest] at parts
      refine ⟨before.reverse, (opener.reverse.takeWhile isGap).reverse, ?_, fun c member => ?_⟩
      · calc opener = (opener.reverse.takeWhile isGap ++ '=' :: before).reverse := by rw [parts, List.reverse_reverse]
          _ = before.reverse ++ '=' :: (opener.reverse.takeWhile isGap).reverse := by simp
      · exact List.mem_takeWhile_imp (List.mem_reverse.mp member)
  · rintro ⟨before, gaps, rfl, areGaps⟩
    have noGap : isGap '=' = false := by decide
    rw [List.reverse_append, List.reverse_cons, List.append_assoc,
      List.dropWhile_append_of_pos fun c member => areGaps c (List.mem_reverse.mp member)]
    simp [noGap]

theorem afterSign_eq {before header : List Char} (first : '=' ∉ before) :
    Line.afterSign (before ++ '=' :: header) = header := by
  have skipped : ∀ c ∈ before, (c != '=') = true := by
    intro c member
    rw [bne_iff_ne]
    rintro rfl
    exact first member
  rw [Line.afterSign, List.dropWhile_append_of_pos skipped]
  rfl

theorem headerWidth_iff : HeaderWidth opener following width ↔
    width = ((Step.tableHeader opener following).map columns).getD 0 := by
  constructor
  · rintro (⟨cut, first, notBelow⟩ | ⟨isBelow, next, blank, notBlank⟩ | ⟨isBelow, blank⟩)
    · rw [Step.tableHeader, if_neg (mt csvHeaderBelow_iff.mp notBelow), cut, afterSign_eq first]
      rfl
    · have found : firstNonBlank? following = some _ := (firstNonBlank?_eq_find? following).trans <|
        List.find?_eq_some_iff_append.mpr ⟨by simpa using notBlank, _, _, next, by simpa using blank⟩
      rw [Step.tableHeader, if_pos (csvHeaderBelow_iff.mpr isBelow), found]
      rfl
    · have notFound : firstNonBlank? following = none :=
        (firstNonBlank?_eq_find? following).trans (List.find?_eq_none.mpr (by simpa using blank))
      rw [Step.tableHeader, if_pos (csvHeaderBelow_iff.mpr isBelow), notFound]
      rfl
  · rintro rfl
    unfold Step.tableHeader
    split
    · next below =>
      have isBelow := csvHeaderBelow_iff.mp below
      cases found : firstNonBlank? following with
      | none => exact .missing isBelow (by simpa [firstNonBlank?_eq_find?] using found)
      | some header =>
        rw [firstNonBlank?_eq_find?] at found
        obtain ⟨notBlank, blanks, more, next, blank⟩ := List.find?_eq_some_iff_append.mp found
        exact .below isBelow next (by simpa using blank) (by simpa using notBlank)
    · next onLine =>
      have notBelow := mt csvHeaderBelow_iff.mpr onLine
      obtain ⟨before, header, rfl, first⟩ := List.eq_append_cons_of_mem (not_not.mp (not_or.mp notBelow).1)
      rw [afterSign_eq first]
      exact .beside rfl first notBelow

end Csv

/-! ## Lines that are passed over -/

namespace Step

variable {r : Registry} {number : Nat} {line : List Char} {following : List (List Char)} {s after : State}
  {found : List Finding}

theorem state_of_unread (unread : s.control.reads line = false)
    (ran : Step.line r number line following s = .ok (after, found)) : after = s := by
  simp only [Step.line, Line.keyword_keywordAt?] at ran
  split at ran
  · cases ran
    rfl
  · next script =>
    split at ran
    · cases ran
      rfl
    · next table => simp [Control.reads, State.control, script, table] at unread

end Step

theorem Reached.clear {r : Registry} {passed : List Passing} {s : State} {number : Nat} (reached : Reached r passed s)
    (unread : ∀ y ∈ passed, y.number = number → y.before.control.reads y.line = false) : s.Clear number := by
  -- What a line keeps stands on the line itself, so only one with this number could spoil it, and that keeps nothing.
  induction reached with
  | start => exact List.forall_mem_nil _
  | @next passed x following found reached _ ran inductionHypothesis =>
    obtain ⟨unreadBefore, unreadHere⟩ := List.forall_mem_append.mp unread
    have clear := inductionHypothesis unreadBefore
    by_cases here : x.number = number
    · rw [Step.state_of_unread (unreadHere x (List.mem_singleton_self x) here) ran]
      exact clear
    · obtain ⟨after, said, ranToo, heeds⟩ :=
        @Step.line_ensures number x.before r x.number x.line following reached.armed fun same => absurd same here
      obtain ⟨rfl, -⟩ := Prod.mk.inj (Except.ok.inj (ran.symm.trans ranToo))
      exact heeds.clear clear

namespace Document

variable {r : Registry} {text : String} {before after passed : List Passing} {x : Passing} {s : State} {range : Range}

theorem avoids_unread (reached : Reached r passed s) (areLines : ∀ y ∈ passed, y ∈ passings r text)
    (isPassed : x ∈ passings r text) (unread : x.before.control.reads x.line = false)
    (onLine : range.start.line = x.number) : s.Avoids range ∧ ∀ b ∈ s.blocks, b.range ≠ range := by
  have same (y : Passing) (isLine : y ∈ passed) (here : y.number = x.number) : y = x :=
    eq_of_number (areLines y isLine) isPassed here
  have clear : s.Clear x.number := reached.clear fun y isLine here => same y isLine here ▸ unread
  have apart {kept : Range} (isKept : kept ∈ s.kept) : kept ≠ range := by
    rintro rfl
    exact clear kept isKept onLine
  simp only [State.mem_kept] at apart
  refine ⟨⟨?_, fun m isUse => apart (.inl ⟨m, isUse, rfl⟩), fun m waits => apart (.inr (.inl ⟨m, waits, rfl⟩))⟩,
    fun b isOpen => apart (.inr (.inr ⟨b, isOpen, rfl⟩))⟩
  rintro h isCurrent rfl
  obtain ⟨y, isLine, heads⟩ := reached.traced.current h isCurrent
  obtain rfl := same y isLine ((Line.line_header? heads.headed).symm.trans onLine)
  exact absurd (unread.symm.trans heads.isRead) Bool.false_ne_true

theorem filter_unread (split : passings r text = before ++ x :: after)
    (unread : x.before.control.reads x.line = false) : ∃ following,
      ((acts r text).flatMap (Act.said r)).filter (fun d => d.range.start.line == x.number) =
        ((x.before.lineActs r x.number x.line following).flatMap (Act.said r)).filter
          fun d => d.range.start.line == x.number := by
  have isPassed : x ∈ passings r text := by simp [split]
  obtain ⟨following, early, late, areActs, apart⟩ :=
    @acts_around r text before after x (·.range.start.line = x.number) split (fun _ onLine => onLine)
      fun passed s reached areLines d onLine => by
        obtain ⟨avoids, noBlock⟩ := avoids_unread reached areLines isPassed unread onLine
        exact ⟨avoids, fun b isOpen isLeft => noBlock b isOpen (congrArg Diagnostic.range isLeft)⟩
  have nothing {acts : List Act} (elsewhere : ∀ act ∈ acts, ∀ d ∈ act.said r, d.range.start.line ≠ x.number) :
      (acts.flatMap (Act.said r)).filter (fun d => d.range.start.line == x.number) = [] := by
    rw [List.filter_eq_nil_iff]
    intro d member
    obtain ⟨act, isAct, said⟩ := List.mem_flatMap.mp member
    simpa using elsewhere act isAct d said
  rw [List.forall_mem_append] at apart
  refine ⟨following, ?_⟩
  rw [areActs, List.flatMap_append, List.flatMap_append, List.filter_append, List.filter_append, nothing apart.1,
    nothing apart.2, List.nil_append, List.append_nil]

end Document

/-! ## The rows of a table -/

/-- What is reported on a row of a table with so many columns: the number of its cells, if it is not blank and has
    another. -/
def Csv.miscounted (width number : Nat) (row : List Char) : List Diagnostic :=
  if allBlank row || columns row == width then []
  else [.error (Range.onLine number 0 row.length) (Message.columnCount width (columns row))]

/-- The state between the opener of a table with so many columns and its terminator. -/
structure State.InTable (width : Nat) (s : State) : Prop where
  table : s.blocks.isIn .csv = true
  noScript : s.blocks.isIn .script = false
  columns : s.csvColumns = width

namespace State.InTable

variable {r : Registry} {number width : Nat} {line : List Char} {following : List (List Char)} {s : State}

theorem reads_iff (inTable : s.InTable width) : s.control.reads line = true ↔ Line.keyword? line = some .endCsv := by
  simp [Control.reads, Blocks.inBody, State.control, inTable.table, inTable.noScript]

theorem said_lineActs (inTable : s.InTable width) (isRow : Line.keyword? line ≠ some .endCsv) :
    (s.lineActs r number line following).flatMap (Act.said r) = Csv.miscounted width number line := by
  have told : (Step.tableRow number line).found s = if allBlank line || Csv.columns line == s.csvColumns then []
      else [.error (Range.onLine number 0 line.length) (Message.columnCount s.csvColumns (Csv.columns line))] := rfl
  simp only [State.lineActs, Blocks.inBody, inTable.table, inTable.noScript, Bool.false_and, Bool.true_and,
    Bool.false_eq_true, if_false, bne_iff_ne.mpr isRow, if_true, told, inTable.columns, List.flatMap_cons,
    List.flatMap_nil, List.append_nil, Act.said_tells, Csv.miscounted]
  split <;> rfl

end State.InTable

theorem Step.before_eq_of_rows {r : Registry} {number width : Nat} {lines : List (List Char)} {s : State}
    {y : Passing} {early rest : List Passing} (inTable : s.InTable width)
    (split : passings r number lines s = early ++ y :: rest)
    (rows : ∀ z ∈ early, Line.keyword? z.line ≠ some .endCsv) : y.before = s := by
  induction lines generalizing number early with
  | nil => cases early <;> cases split
  | cons line following inductionHypothesis =>
    unfold passings at split
    split at split
    · next after found ran =>
      cases early with
      | nil =>
        obtain ⟨rfl, -⟩ := List.cons.inj split
        rfl
      | cons first early =>
        obtain ⟨rfl, later⟩ := List.cons.inj split
        obtain ⟨isRow, laterRows⟩ := List.forall_mem_cons.mp rows
        have unread := Bool.eq_false_iff.mpr (mt inTable.reads_iff.mp isRow)
        obtain rfl := state_of_unread unread ran
        exact inductionHypothesis later laterRows
    · cases early <;> cases split

namespace Passing

structure OpensTable (x : Passing) : Prop where
  isRead : x.before.control.reads x.line = true
  isKeyword : Line.keyword? x.line = some .csv

structure EndsTable (x y : Passing) : Prop where
  isRead : y.before.control.reads y.line = true
  isKeyword : Line.keyword? y.line = some .endCsv
  blocks : y.after.blocks = x.before.blocks

/-- The line is a row of a table with so many columns: it leaves the state as it is, and nothing is reported on it but
    its number of cells. -/
structure RowOf (width : Nat) (found : List Diagnostic) (y : Passing) : Prop where
  still : y.after = y.before
  reported : found.filter (fun d => d.range.start.line == y.number) = Csv.miscounted width y.number y.line

namespace OpensTable

variable {r : Registry} {x y : Passing} {following : List (List Char)} {found : List Finding} (opens : x.OpensTable)
include opens

theorem noScript : x.before.blocks.isIn .script = false := by
  have isRead := opens.isRead
  simp only [Control.reads, Bool.and_eq_true] at isRead
  simpa [Blocks.inBody, State.control, opens.isKeyword] using isRead.1

theorem after_eq (armed : x.before.control.Armed)
    (ran : Step.line r x.number x.line following x.before = .ok (x.after, found)) :
    (∃ range, x.after.blocks = x.before.blocks ++ [⟨.csv, range⟩]) ∧
      x.after.csvColumns = ((Step.tableHeader x.line following).map Csv.columns).getD 0 := by
  obtain ⟨⟨kind, range⟩, isFound, rfl⟩ := Line.exists_keywordAt? x.number opens.isKeyword
  rw [Step.line_of_read opens.isRead] at ran
  obtain ⟨between, told, more, content, keyword, -⟩ := Step.andThen_eq_ok ran
  have blocks : between.blocks = x.before.blocks := congrArg Control.blocks (Step.blocks_of_content armed content)
  rw [isFound] at keyword
  have after := (Prod.mk.inj (Except.ok.inj keyword)).1
  rw [← after, ← blocks]
  exact ⟨⟨range, rfl⟩, rfl⟩

theorem inTable (armed : x.before.control.Armed)
    (ran : Step.line r x.number x.line following x.before = .ok (x.after, found)) :
    x.after.InTable x.after.csvColumns := by
  obtain ⟨⟨range, blocks⟩, -⟩ := opens.after_eq armed ran
  have noScript := opens.noScript
  rw [Blocks.isIn] at noScript
  exact ⟨by simp [blocks, Blocks.isIn], by simp [blocks, Blocks.isIn, noScript], rfl⟩

theorem endsTable (armed : x.before.control.Armed)
    (ran : Step.line r x.number x.line following x.before = .ok (x.after, found)) {others : List (List Char)}
    (behind : y.before = x.after) (control : y.after.control = y.before.control.next y.number y.line others)
    (isKeyword : Line.keyword? y.line = some .endCsv) : x.EndsTable y := by
  obtain ⟨⟨range, blocks⟩, -⟩ := opens.after_eq armed ran
  have isRead : y.before.control.reads y.line = true := by
    rw [behind]
    exact (opens.inTable armed ran).reads_iff.mpr isKeyword
  refine ⟨isRead, isKeyword, ?_⟩
  obtain ⟨⟨kind, place⟩, isFound, rfl⟩ := Line.exists_keywordAt? y.number isKeyword
  have blocksAfter := congrArg Control.blocks control
  rw [Control.next, if_pos isRead, isFound, behind] at blocksAfter
  -- The table is on top, so the terminator takes away just what the opener has pushed.
  have onTop : Blocks.innermost? (x.before.blocks ++ [⟨.csv, range⟩]) = some .csv := by simp [Blocks.innermost?]
  simpa [Control.onKeyword, Blocks.afterKeyword, Keyword.closes, State.control, Blocks.without, blocks, onTop]
    using blocksAfter

end OpensTable

end Passing

theorem Document.rowOf {r : Registry} {text : String} {before after : List Passing} {y : Passing} {width : Nat}
    (split : passings r text = before ++ y :: after) (inTable : y.before.InTable width)
    (isRow : Line.keyword? y.line ≠ some .endCsv) : y.RowOf width ((acts r text).flatMap (Act.said r)) := by
  have unread := Bool.eq_false_iff.mpr (mt inTable.reads_iff.mp isRow)
  obtain ⟨-, following, found, ran, -⟩ := Step.passings_split State.armed_initial split
  refine ⟨Step.state_of_unread unread ran, ?_⟩
  obtain ⟨others, same⟩ := filter_unread split unread
  rw [same, inTable.said_lineActs isRow, Csv.miscounted]
  split <;> simp [Range.onLine, Diagnostic.error]

/-- Every row of a table is checked against the header of the table, and nothing else comes of it: all lines behind the
    opener are rows up to the first terminator, which closes the table. A header below the opener is a row as well, and
    nothing is reported on it. -/
theorem rows_checked_against_header (r : Registry) (text : String) :
    ∃ found, validate text r = .ok found ∧
      ∀ before x body rest, Document.passings r text = before ++ x :: (body ++ rest) → x.OpensTable →
        (∀ y ∈ body, Line.keyword? y.line ≠ some .endCsv) →
        ∃ width, (∀ n, Csv.HeaderWidth x.line ((body ++ rest).map Passing.line) n ↔ n = width) ∧
          (∀ y ∈ body, y.RowOf width found) ∧
          (∀ blanks header more, body = blanks ++ header :: more → Csv.HeaderBelow x.line →
            (∀ y ∈ blanks, allBlank y.line = true) → allBlank header.line = false →
            found.filter (fun d => d.range.start.line == header.number) = []) ∧
          ∀ y ∈ rest.head?, Line.keyword? y.line = some .endCsv → x.EndsTable y := by
  refine ⟨_, validate_eq_acts r text, ?_⟩
  intro before x body rest split opens areRows
  obtain ⟨armed, following, found, ran, -, -, later⟩ := Step.passings_split State.armed_initial split
  have inTable := opens.inTable armed ran
  have areLines : (body ++ rest).map Passing.line = following := by
    rw [later]
    exact (Step.passings_passes r _ following (Step.armed_of_line armed ran)).2.1
  have isWidth (n : Nat) : Csv.HeaderWidth x.line ((body ++ rest).map Passing.line) n ↔ n = x.after.csvColumns := by
    rw [areLines, (opens.after_eq armed ran).2]
    exact Csv.headerWidth_iff
  have rows : ∀ y ∈ body, y.RowOf x.after.csvColumns ((Document.acts r text).flatMap (Act.said r)) := by
    intro y isRow
    obtain ⟨early, late, rfl⟩ := List.append_of_mem isRow
    have parts : Document.passings r text = (before ++ x :: early) ++ y :: (late ++ rest) := by simp [split]
    have still : y.before = x.after :=
      Step.before_eq_of_rows inTable (by simpa using later.symm) fun z isEarlier => areRows z (by simp [isEarlier])
    exact Document.rowOf parts (still ▸ inTable) (areRows y isRow)
  refine ⟨x.after.csvColumns, isWidth, rows, ?_, ?_⟩
  · intro blanks header more parts isBelow blank notBlank
    have next : (body ++ rest).map Passing.line =
        blanks.map Passing.line ++ header.line :: (more ++ rest).map Passing.line := by simp [parts]
    have asWide : Csv.columns header.line = x.after.csvColumns :=
      (isWidth _).mp (.below isBelow next (List.forall_mem_map.mpr blank) notBlank)
    simp [(rows header (by simp [parts])).reported, Csv.miscounted, asWide]
  · intro y isNext isKeyword
    obtain ⟨rest, rfl⟩ := List.head?_eq_some_iff.mp isNext
    have still : y.before = x.after := Step.before_eq_of_rows inTable later.symm areRows
    have parts : Document.passings r text = (before ++ x :: body) ++ y :: rest := by simp [split]
    obtain ⟨-, others, -, -, control, -⟩ := Step.passings_split State.armed_initial parts
    exact opens.endsTable armed ran still control isKeyword

/-- A table whose header stands below a blank line, with rows that look like a section and like a condition. -/
def tableBelowText : String :=
  "csv t =\n\n  name, 'x y'\n  [series], 1\n  if a == b\nendcsv"

theorem passings_tableBelowText : (Document.passings chartRegistry tableBelowText).map
    (fun x => (x.number, x.line, x.before.control.reads x.line)) =
      (0, "csv t =".toList, true) ::
        ([(1, [], false), (2, "  name, 'x y'".toList, false), (3, "  [series], 1".toList, false),
          (4, "  if a == b".toList, false)] ++ [(5, "endcsv".toList, true)]) := by
  decide +kernel

theorem rows_checked_against_header_below :
    ∃ found, validate tableBelowText chartRegistry = .ok found ∧
      found.filter (fun d => d.range.start.line == 2) = [] ∧
      found.filter (fun d => d.range.start.line == 3) = [] ∧
      found.filter (fun d => d.range.start.line == 4) = [.error (Range.onLine 4 0 11) (Message.columnCount 2 4)] := by
  obtain ⟨x, behind, split, isOpener, parts⟩ := List.map_eq_cons_iff.mp passings_tableBelowText
  obtain ⟨body, rest, rfl, areRows, areRest⟩ := List.map_eq_append_iff.mp parts
  simp only [Prod.mk.injEq] at isOpener
  have opens : x.OpensTable := ⟨isOpener.2.2, by rw [isOpener.2.1]; decide⟩
  have lines : (body ++ rest).map Passing.line = ["".toList, "  name, 'x y'".toList, "  [series], 1".toList,
      "  if a == b".toList, "endcsv".toList] := by
    have same := congrArg (List.map fun p => p.2.1) parts
    rwa [List.map_map] at same
  obtain ⟨found, ran, checked⟩ := rows_checked_against_header chartRegistry tableBelowText
  have noneEnds : ∀ y ∈ body, Line.keyword? y.line ≠ some .endCsv := by
    have ofRows : ∀ p ∈ body.map fun y => (y.number, y.line, y.before.control.reads y.line),
        Line.keyword? p.2.1 ≠ some .endCsv := by
      rw [areRows]
      decide
    exact fun y isRow => ofRows (y.number, y.line, y.before.control.reads y.line) (List.mem_map_of_mem isRow)
  obtain ⟨width, isWidth, rows, -⟩ := checked [] x body rest split opens noneEnds
  have isTwo : Csv.HeaderWidth x.line ((body ++ rest).map Passing.line) 2 := by
    rw [lines, isOpener.2.1]
    have isBelow : Csv.HeaderBelow "csv t =".toList := .inr ⟨"csv t ".toList, [], by decide, nofun⟩
    have two : Csv.columns "  name, 'x y'".toList = 2 := by decide
    exact two ▸ .below isBelow rfl (List.forall_mem_singleton.mpr rfl) (by decide)
  obtain rfl : 2 = width := (isWidth 2).mp isTwo
  have reported : ∀ p ∈ body.map fun y => (y.number, y.line, y.before.control.reads y.line),
      found.filter (fun d => d.range.start.line == p.1) = Csv.miscounted 2 p.1 p.2.1 :=
    List.forall_mem_map.mpr fun y isRow => (rows y isRow).reported
  rw [areRows] at reported
  refine ⟨found, ran, ?_, ?_, ?_⟩
  · exact (reported (2, "  name, 'x y'".toList, false) (by decide)).trans (by decide)
  · exact (reported (3, "  [series], 1".toList, false) (by decide)).trans (by decide)
  · exact (reported (4, "  if a == b".toList, false) (by decide)).trans (by decide)

end ChartConfig
