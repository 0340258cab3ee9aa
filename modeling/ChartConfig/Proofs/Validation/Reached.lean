import ChartConfig.Proofs.Language.Marks
import ChartConfig.Proofs.Validation.InForce
import ChartConfig.Proofs.Validation.Performance
import ChartConfig.Proofs.Validation.Recorded

/-!
# States that runs reach

A run that has passed some lines is in a state that tells something about each of them. `Reached` relates the lines to
the state, so that what every line keeps holds of all states that are reached. `Scope.Change` lists all that a line can
do to the current section. What a state keeps for later, headers and the names that are still to be looked up, can be
traced to the lines passed.
-/

namespace ChartConfig

open Text

/-! ## Lines that set settings -/

namespace Passing

/-- The line is read and is the header of a section. -/
structure Heads (x : Passing) (h : Header) : Prop where
  isRead : x.before.control.reads x.line = true
  headed : Line.header? x.line x.number = some h

/-- The line is read and assigns the known setting, outside tags. -/
structure Sets (r : Registry) (x : Passing) (a : Assignment) (setting : Setting) : Prop where
  isRead : x.before.control.reads x.line = true
  assigns : Line.assignment? x.line = some a
  known : r.lookup a.name.word = some setting
  noTags : x.before.scope.holdsTags = false

end Passing

namespace Line

variable {line : List Char} {a : Assignment}

theorem exists_of_assignment? (assigned : assignment? line = some a) :
    ∃ c rest, trimStart line = c :: rest ∧ isLowerLetter c = true := by
  unfold assignment? at assigned
  split at assigned
  · next c rest begins =>
    split at assigned
    · next letter => exact ⟨c, rest, begins, letter⟩
    · cases assigned
  · cases assigned

theorem expect_of_assignment? (literal : String) {c : Char} {rest : List Char} (spelled : literal.toList = c :: rest)
    (noLetter : isLowerLetter c = false) (assigned : assignment? line = some a) :
    ((Cursor.start line).skip isBlank).expect literal = none := by
  obtain ⟨first, others, begins, letter⟩ := exists_of_assignment? assigned
  have ahead : ((Cursor.start line).skip isBlank).ahead = first :: others := begins
  have different : c ≠ first := by
    rintro rfl
    rw [noLetter] at letter
    cases letter
  simp [Cursor.expect, ahead, spelled, different]

theorem header?_of_assignment? (number : Nat) (assigned : assignment? line = some a) : header? line number = none := by
  rw [header?, Option.map_eq_none_iff]
  cases named : headerName? line with
  | none => rfl
  | some p =>
    simp only [headerName?, Option.bind_eq_bind, Option.bind_eq_some_iff] at named
    obtain ⟨cursor, opened, -⟩ := named
    obtain ⟨rest, ahead⟩ := Cursor.prefix_of_expect opened
    have gaps : line.dropWhile isGap = _ := ahead.symm
    obtain ⟨-, trimmed⟩ := leading_of_gaps gaps rfl
    obtain ⟨c, others, begins, letter⟩ := exists_of_assignment? assigned
    rw [trimmed] at begins
    cases begins
    cases letter

theorem templateDeclaration?_of_assignment? (assigned : assignment? line = some a) :
    templateDeclaration? line = none := by
  have assign := expect_of_assignment? "<#assign" rfl rfl assigned
  have list := expect_of_assignment? "<#list" rfl rfl assigned
  simp only [templateDeclaration?, templateAssign?, templateList?, assign, list, Option.bind_eq_bind, Option.bind_none]
  rfl

theorem unclosedHeader?_of_assignment? (number : Nat) (assigned : assignment? line = some a) :
    unclosedHeader? line number = none := by
  have opening := expect_of_assignment? "[" rfl rfl assigned
  simp only [unclosedHeader?, unclosedHeaderName?, opening, Option.bind_eq_bind, Option.bind_none, Option.map_none]

end Line

namespace Passing

variable {r : Registry} {x : Passing} {a : Assignment} {setting : Setting}

theorem Sets.noHeader (sets : x.Sets r a setting) : Line.header? x.line x.number = none :=
  Line.header?_of_assignment? x.number sets.assigns

theorem Sets.not_heads (sets : x.Sets r a setting) (h : Header) : ¬ x.Heads h := fun heads =>
  nomatch sets.noHeader.symm.trans heads.headed

theorem Sets.not_blank (sets : x.Sets r a setting) : allBlank x.line = false := by
  rw [Bool.eq_false_iff]
  intro blank
  have assigned := sets.assigns
  rw [Step.assignment?_of_allBlank blank] at assigned
  cases assigned

theorem Sets.declares (sets : x.Sets r a setting) (once : setting.multiLine = false) : x.Declares r setting :=
  ⟨sets.isRead, sets.noHeader, ⟨a, sets.assigns, sets.known⟩, once, sets.noTags⟩

theorem Declares.sets (declares : x.Declares r setting) : ∃ a, x.Sets r a setting := by
  obtain ⟨a, assigns, known⟩ := declares.assigns
  exact ⟨a, declares.isRead, assigns, known, declares.noTags⟩

end Passing

/-! ## What a line does to the section -/

/-- All that a line can do to the scope. -/
inductive Scope.Change (r : Registry) (x : Passing) : Scope → Prop where
  | enters {h : Header} : x.Heads h → Change r x ((x.before.ledger.close r).enter r h).scope
  | resumes : x.before.scope.name? = some "tags" → Change r x (x.before.ledger.close r).resume.scope
  | declares {a : Assignment} {setting : Setting} : x.Sets r a setting →
      Change r x (Ledger.declare x.before.scope r x.before.control.branch? setting)
  | stays : (∀ h, ¬ x.Heads h) → (∀ a setting, ¬ x.Sets r a setting) → Change r x x.before.scope

theorem Passing.scope_change {r : Registry} {x : Passing}
    (ledger : x.after.ledger = (x.before.ledger.readAll r (x.before.control.eventsAt r x.number x.line)).1) :
    Scope.Change r x x.after.scope := by
  have scope : x.after.scope = _ := congrArg Ledger.scope ledger
  rw [scope, Control.eventsAt]
  cases isRead : x.before.control.reads x.line with
  | false =>
    refine .stays (fun h heads => ?_) fun a setting sets => ?_
    · exact absurd (isRead.symm.trans heads.isRead) Bool.false_ne_true
    · exact absurd (isRead.symm.trans sets.isRead) Bool.false_ne_true
  | true =>
    rw [if_pos rfl, Reading.event?]
    cases headed : Line.header? x.line x.number with
    | some h => exact .enters ⟨isRead, headed⟩
    | none =>
      have noHeader : ∀ h, ¬ x.Heads h := fun h heads => Option.some_ne_none h (heads.headed.symm.trans headed)
      cases blank : allBlank x.line with
      | true =>
        have noSetting : ∀ a setting, ¬ x.Sets r a setting := fun a setting sets => by
          rw [sets.not_blank] at blank
          cases blank
        simp only [if_true, Option.toList_some, Ledger.readAll, Ledger.read]
        split
        · next tags => exact .resumes (beq_iff_eq.mp tags)
        · exact .stays noHeader noSetting
      | false =>
        simp only [Bool.false_eq_true, if_false]
        cases assigned : Line.assignment? x.line with
        | none =>
          exact .stays noHeader fun b setting sets => Option.some_ne_none b (sets.assigns.symm.trans assigned)
        | some a =>
          simp only [Option.map_some, Option.toList_some, Ledger.readAll, Ledger.read, Ledger.assign]
          split
          · next tags =>
            refine .stays noHeader fun b setting sets => ?_
            exact absurd (sets.noTags.symm.trans tags) Bool.false_ne_true
          · next noTags =>
            cases known : r.lookup a.name.word with
            | some setting => exact .declares ⟨isRead, assigned, known, Bool.eq_false_iff.mpr noTags⟩
            | none =>
              refine .stays noHeader fun b setting sets => ?_
              obtain rfl : b = a := Option.some.inj (sets.assigns.symm.trans assigned)
              exact Option.some_ne_none setting (sets.known.symm.trans known)

/-! ## Lines passed, and the state -/

/-- The run has passed the lines, from the first on, and is in the state. -/
inductive Reached (r : Registry) : List Passing → State → Prop where
  | start : Reached r [] {}
  | next {passed : List Passing} {x : Passing} {following : List (List Char)} {found : List Finding} :
      Reached r passed x.before → x.number = passed.length →
      Step.line r x.number x.line following x.before = .ok (x.after, found) → Reached r (passed ++ [x]) x.after

namespace Reached

variable {r : Registry} {passed : List Passing} {s : State} {x y : Passing}

theorem armed (reached : Reached r passed s) : s.control.Armed := by
  induction reached with
  | start => exact State.armed_initial
  | next _ _ ran inductionHypothesis => exact Step.armed_of_line inductionHypothesis ran

theorem follows (reached : Reached r passed x.before) {following : List (List Char)} {found : List Finding}
    (ran : Step.line r x.number x.line following x.before = .ok (x.after, found)) :
    Step.Follows x.before r x.number x.line following x.after := by
  have follows := @Step.line_follows r x.number x.line x.before following reached.armed
  rwa [show (Step.line r x.number x.line following).after x.before = x.after by simp [Step.after, ran]] at follows

theorem numbers (reached : Reached r passed s) : passed.map Passing.number = List.range passed.length := by
  induction reached with
  | start => rfl
  | next _ number _ inductionHypothesis =>
    simp [inductionHypothesis, number, List.range_succ]

theorem number_lt (reached : Reached r passed s) (isPassed : y ∈ passed) : y.number < passed.length := by
  have member := List.mem_map_of_mem (f := Passing.number) isPassed
  rwa [reached.numbers, List.mem_range] at member

theorem eq_of_number (reached : Reached r passed s) (isPassed : x ∈ passed) (alsoPassed : y ∈ passed)
    (same : x.number = y.number) : x = y := by
  have distinct : (passed.map Passing.number).Nodup := reached.numbers ▸ List.nodup_range
  exact List.inj_on_of_nodup_map distinct isPassed alsoPassed same

end Reached

/-! ## The lines of a run -/

def Passing.Did (r : Registry) (x : Passing) (act : Act) : Prop :=
  ∃ following, act ∈ x.before.lineActs r x.number x.line following

namespace Step

variable {r : Registry} {passed before after : List Passing} {lines : List (List Char)} {s : State} {x : Passing}

theorem passings_cons (reached : Reached r passed s) (line : List Char) (following : List (List Char)) :
    ∃ x : Passing, x.before = s ∧ x.number = passed.length ∧ x.line = line ∧ Reached r (passed ++ [x]) x.after ∧
      passings r passed.length (line :: following) s =
        x :: passings r (passed ++ [x]).length following x.after ∧
      acts r passed.length (line :: following) s =
        x.before.lineActs r x.number x.line following ++ acts r (passed ++ [x]).length following x.after := by
  obtain ⟨after, found, ran, -⟩ := line_succeeds r passed.length line following reached.armed
  refine ⟨⟨s, passed.length, line, after⟩, rfl, rfl, rfl, ?_, ?_, ?_⟩
  · exact @Reached.next r passed ⟨s, passed.length, line, after⟩ following found reached rfl ran
  · simp [passings, ran]
  · simp [acts, Step.after, ran]

theorem reached_passings (reached : Reached r passed s)
    (split : passings r passed.length lines s = before ++ x :: after) :
    Reached r (passed ++ before) x.before ∧ Reached r (passed ++ before ++ [x]) x.after ∧
      x.number = (passed ++ before).length := by
  induction lines generalizing passed before s with
  | nil => cases before <;> cases split
  | cons line following inductionHypothesis =>
    obtain ⟨first, rfl, number, -, reachedAfter, others, -⟩ := passings_cons reached line following
    rw [others] at split
    cases before with
    | nil =>
      obtain ⟨rfl, -⟩ := List.cons.inj split
      rw [List.append_nil]
      exact ⟨reached, reachedAfter, number⟩
    | cons second before =>
      obtain ⟨rfl, later⟩ := List.cons.inj split
      simpa using inductionHypothesis reachedAfter later

theorem exists_reached_last (reached : Reached r passed s) (lines : List (List Char)) :
    ∃ last, Reached r (passed ++ passings r passed.length lines s) last := by
  induction lines generalizing passed s with
  | nil => exact ⟨s, by simpa [passings] using reached⟩
  | cons line following inductionHypothesis =>
    obtain ⟨first, rfl, -, -, reachedAfter, others, -⟩ := passings_cons reached line following
    obtain ⟨last, reachedLast⟩ := inductionHypothesis reachedAfter
    exact ⟨last, by simpa [others] using reachedLast⟩

theorem mem_acts (reached : Reached r passed s) {act : Act} (member : act ∈ acts r passed.length lines s) :
    (∃ y ∈ passings r passed.length lines s, y.Did r act) ∨
      ∃ last, Reached r (passed ++ passings r passed.length lines s) last ∧ act ∈ last.lastActs r := by
  induction lines generalizing passed s with
  | nil => exact .inr ⟨s, by simpa [passings] using reached, member⟩
  | cons line following inductionHypothesis =>
    obtain ⟨first, rfl, -, -, reachedAfter, others, did⟩ := passings_cons reached line following
    rw [others]
    rw [did, List.mem_append] at member
    rcases member with now | later
    · exact .inl ⟨first, List.mem_cons_self .., following, now⟩
    · rcases inductionHypothesis reachedAfter later with ⟨y, isLater, onLine⟩ | ⟨last, reachedLast, atEnd⟩
      · exact .inl ⟨y, List.mem_cons_of_mem _ isLater, onLine⟩
      · exact .inr ⟨last, by simpa using reachedLast, atEnd⟩

/-- What a run does on one line, and around it what it does on others and at the end. -/
theorem acts_at (reached : Reached r passed s)
    (split : passings r passed.length lines s = before ++ x :: after) :
    ∃ following early late,
      acts r passed.length lines s = early ++ x.before.lineActs r x.number x.line following ++ late ∧
      ∀ act ∈ early ++ late, (∃ y ∈ before ++ after, y.Did r act) ∨
        ∃ last, Reached r (passed ++ passings r passed.length lines s) last ∧ act ∈ last.lastActs r := by
  induction lines generalizing passed before s with
  | nil => cases before <;> cases split
  | cons line following inductionHypothesis =>
    obtain ⟨first, rfl, -, -, reachedAfter, others, did⟩ := passings_cons reached line following
    have whole : passed ++ passings r passed.length (line :: following) first.before =
        passed ++ [first] ++ passings r (passed ++ [first]).length following first.after := by simp [others]
    rw [did, whole]
    rw [others] at split
    cases before with
    | nil =>
      obtain ⟨rfl, rfl⟩ := List.cons.inj split
      exact ⟨following, [], _, rfl, fun act member => mem_acts reachedAfter member⟩
    | cons second before =>
      obtain ⟨rfl, later⟩ := List.cons.inj split
      obtain ⟨rest, early, late, areActs, elsewhere⟩ := inductionHypothesis reachedAfter later
      refine ⟨rest, first.before.lineActs r first.number first.line following ++ early, late, ?_, ?_⟩
      · rw [areActs]
        simp only [List.append_assoc]
      · intro act member
        rw [List.append_assoc, List.mem_append] at member
        rcases member with onFirst | isOther
        · exact .inl ⟨first, List.mem_cons_self .., following, onFirst⟩
        · refine (elsewhere act isOther).imp_left ?_
          rintro ⟨y, isPassed, onLine⟩
          exact ⟨y, List.mem_cons_of_mem _ isPassed, onLine⟩

end Step

namespace Document

variable {r : Registry} {text : String} {before after : List Passing} {x y : Passing} {act : Act}

theorem reached_of_split (split : passings r text = before ++ x :: after) :
    Reached r before x.before ∧ Reached r (before ++ [x]) x.after ∧ x.number = before.length := by
  simpa only [List.nil_append] using Step.reached_passings Reached.start split

theorem exists_reached_last (r : Registry) (text : String) : ∃ last, Reached r (passings r text) last := by
  simpa only [passings, List.nil_append, List.length_nil] using Step.exists_reached_last Reached.start (analysed text)

theorem mem_acts (member : act ∈ acts r text) :
    (∃ y ∈ passings r text, y.Did r act) ∨ ∃ last, Reached r (passings r text) last ∧ act ∈ last.lastActs r := by
  simpa only [passings, acts, List.nil_append, List.length_nil] using Step.mem_acts Reached.start member

theorem acts_at (split : passings r text = before ++ x :: after) : ∃ following early late,
    acts r text = early ++ x.before.lineActs r x.number x.line following ++ late ∧
      ∀ act ∈ early ++ late, (∃ y ∈ before ++ after, y.Did r act) ∨
        ∃ last, Reached r (passings r text) last ∧ act ∈ last.lastActs r := by
  simpa only [passings, acts, List.nil_append, List.length_nil] using Step.acts_at Reached.start split

theorem exists_reached (r : Registry) (isPassed : x ∈ passings r text) :
    ∃ before after, passings r text = before ++ x :: after ∧ Reached r before x.before := by
  obtain ⟨before, after, split⟩ := List.append_of_mem isPassed
  exact ⟨before, after, split, (reached_of_split split).1⟩

end Document

/-! ## What a state keeps, and where it comes from -/

/-- What the state keeps of headers and of names comes from the lines passed. -/
structure State.Traced (passed : List Passing) (s : State) : Prop where
  current : ∀ h, s.scope.current = some h → ∃ y ∈ passed, y.Heads h
  previous : ∀ h, s.scope.previous = some h → ∃ y ∈ passed, y.Heads h
  uses : ∀ m ∈ s.aliases.uses, ∃ y ∈ passed, ∃ p : Piece, Marked p.column y.line ∧ m.range = p.range y.number
  pending : ∀ m ∈ s.names.pending, ∃ y ∈ passed, ∃ c, Line.loopCollection? y.line = some c ∧ m.range = c.range y.number

theorem Ledger.scope_resumed (l : Ledger) (r : Registry) : (l.close r).resume.scope =
    { (l.close r).scope with
      current := l.scope.previous.or l.scope.current
      settings := if l.scope.previous.isSome then l.scope.previousSettings else l.scope.settings } := by
  have closed := l.close_scope r
  unfold resume
  cases isPrevious : l.scope.previous with
  | none => simp [closed, isPrevious]
  | some h => simp [closed, isPrevious, Scope.resume]

namespace Scope

variable {r : Registry} {x : Passing} {after : Scope} {h : Header}

theorem Change.current (change : Change r x after) (isCurrent : after.current = some h) :
    x.before.scope.current = some h ∨ x.before.scope.previous = some h ∨ x.Heads h := by
  cases change with
  | enters heads =>
    cases isCurrent
    exact .inr (.inr heads)
  | resumes =>
    rw [Ledger.scope_resumed] at isCurrent
    rcases Option.or_eq_some_iff.mp isCurrent with previous | ⟨-, current⟩
    · exact .inr (.inl previous)
    · exact .inl current
  | declares => exact .inl ((declare_sameSection ..).current.symm.trans isCurrent)
  | stays => exact .inl isCurrent

theorem Change.previous (change : Change r x after) (isPrevious : after.previous = some h) :
    x.before.scope.current = some h ∨ x.before.scope.previous = some h := by
  cases change with
  | enters =>
    have before : (x.before.ledger.close r).scope.current = some h := isPrevious
    rw [Ledger.close_scope] at before
    exact .inl before
  | resumes =>
    rw [Ledger.scope_resumed, Ledger.close_scope] at isPrevious
    exact .inr isPrevious
  | declares => exact .inr ((declare_sameSection ..).previous.symm.trans isPrevious)
  | stays => exact .inr isPrevious

end Scope

namespace State

variable {r : Registry} {s : State} {number : Nat} {line : List Char} {m : Mention}

theorem mem_uses_aliasesAfter (member : m ∈ (s.aliasesAfter r number line).uses) :
    m ∈ s.aliases.uses ∨ ∃ p : Piece, Marked p.column line ∧ m.range = p.range number := by
  unfold aliasesAfter at member
  split at member
  · split at member
    · cases member
    · exact .inl member
  · split at member
    · next a setting _ =>
      have same : (if setting.name == "alias" then (s.aliases.declare number line).1 else s.aliases).uses =
          s.aliases.uses := by
        split
        · exact (Aliases.declare_on s.aliases number line).1
        · rfl
      rcases List.mem_append.mp member with old | new
      · exact .inl (same ▸ old)
      · obtain ⟨p, isUse, rfl⟩ := List.mem_map.mp new
        exact .inr ⟨p, Reference.marked_of_mem_aliasUses isUse, rfl⟩
    · exact .inl member

end State

theorem Names.mem_pending_next {n : Names} {c : Control} {number : Nat} {line : List Char} {m : Mention}
    (member : m ∈ (n.next c number line).pending) :
    m ∈ n.pending ∨ ∃ p, Line.loopCollection? line = some p ∧ m.range = p.range number := by
  cases isRead : c.reads line with
  | false =>
    rw [next, isRead] at member
    exact .inl member
  | true =>
    rw [n.next_eq_read ⟨c, number, line⟩ isRead, pending_read, List.mem_append] at member
    refine member.imp_right fun new => ?_
    unfold waits at new
    split at new
    · obtain ⟨p, collects, rfl⟩ := List.mem_map.mp new
      rw [Option.mem_toList, Option.filter_eq_some_iff] at collects
      exact ⟨p, collects.1, rfl⟩
    · cases new

theorem Reached.traced {r : Registry} {passed : List Passing} {s : State} (reached : Reached r passed s) :
    s.Traced passed := by
  induction reached with
  | start => exact ⟨nofun, nofun, List.forall_mem_nil _, List.forall_mem_nil _⟩
  | @next passed x following found reached _ ran traced =>
    have follows := reached.follows ran
    have change := Passing.scope_change follows.ledger
    have isLast : x ∈ passed ++ [x] := by simp
    have older {P : Passing → Prop} : (∃ y ∈ passed, P y) → ∃ y ∈ passed ++ [x], P y := by
      rintro ⟨y, isPassed, holds⟩
      exact ⟨y, List.mem_append_left _ isPassed, holds⟩
    refine ⟨fun h isCurrent => ?_, fun h isPrevious => ?_, fun m isUse => ?_, fun m waits => ?_⟩
    · rcases change.current isCurrent with current | previous | heads
      · exact older (traced.current h current)
      · exact older (traced.previous h previous)
      · exact ⟨x, isLast, heads⟩
    · rcases change.previous isPrevious with current | previous
      · exact older (traced.current h current)
      · exact older (traced.previous h previous)
    · rw [follows.aliases] at isUse
      split at isUse
      · rcases State.mem_uses_aliasesAfter isUse with old | ⟨p, marked, range⟩
        · exact older (traced.uses m old)
        · exact ⟨x, isLast, p, marked, range⟩
      · exact older (traced.uses m isUse)
    · rw [follows.names] at waits
      rcases Names.mem_pending_next waits with old | ⟨c, collects, range⟩
      · exact older (traced.pending m old)
      · exact ⟨x, isLast, c, collects, range⟩

end ChartConfig
