import ChartConfig.Proofs.Validation.Loops

/-!
# Names that are recorded for good

Variables of loops come and go; template variables, lists, variables and tables, once recorded, stay in use to the end.
So the names in use at the end, when no loop is open, are those that were there from the start and those that some line
has recorded, wherever that line stands. And the variable of a loop is in use while the loop is open, even if another
name brought it there: that is either recorded or the variable of a loop further out.
-/

namespace ChartConfig

open Text

namespace Names

variable {n : Names} {kind : NameKind} {number : Nat} {line : List Char} {name : String}

/-- The names that stay in use. -/
def lasting (n : Names) : List String :=
  n.template ++ n.list ++ n.var ++ n.csv

theorem mem_all_iff : name ∈ n.all ↔ name ∈ n.lasting ∨ name ∈ n.loop := by
  simp only [all, lasting, List.mem_append]
  tauto

def admitted (n : Names) (piece : Option Piece) : List String :=
  (piece.filter fun p => !n.contains p.word).toList.map Piece.word

def recordedByKeyword (n : Names) (line : List Char) : Keyword → List String
  | .list => n.admitted (Line.listName? line)
  | .var => n.admitted (Line.varName? line)
  | .csv => n.admitted (Line.csvName? line)
  | _ => []

def recordedByContent (number : Nat) (line : List Char) : List String :=
  if (Line.header? line number).isSome then []
  else (Line.templateDeclaration? line).toList.map fun d => d.name.word

def recorded (n : Names) (x : Reading) : List String :=
  recordedByContent x.number x.line ++
    (Line.keyword? x.line).elim [] ((n.afterContent x.number x.line).recordedByKeyword x.line)

def read (n : Names) (x : Reading) : Names :=
  (Line.keyword? x.line).elim (n.afterContent x.number x.line)
    ((n.afterContent x.number x.line).afterKeyword x.number x.line)

def readAll (n : Names) (xs : List Reading) : Names :=
  xs.foldl read n

def recordedAlong (n : Names) : List Reading → List String
  | [] => []
  | x :: xs => n.recorded x ++ recordedAlong (n.read x) xs

/-! ## What a line records -/

theorem mem_lasting_afterContent :
    name ∈ (n.afterContent number line).lasting ↔ name ∈ n.lasting ∨ name ∈ recordedByContent number line := by
  unfold afterContent recordedByContent
  split
  · simp
  · cases Line.templateDeclaration? line with
    | none => simp
    | some d =>
      simp only [Option.elim_some, declare, admits, beq_self_eq_true, Bool.true_or, if_true, add,
        lasting, List.mem_append, Option.toList_some, List.map_cons, List.map_nil, List.mem_singleton]
      tauto

theorem mem_lasting_declare? (stays : kind = .list ∨ kind = .var ∨ kind = .csv) (piece : Option Piece) :
    name ∈ (n.declare? kind number piece).1.lasting ↔ name ∈ n.lasting ∨ name ∈ n.admitted piece := by
  cases piece with
  | none => simp [declare?, admitted]
  | some p =>
    have test : n.admits kind p.word = !n.contains p.word := by
      rcases stays with rfl | rfl | rfl <;> rfl
    simp only [declare?, declare, admitted, test]
    by_cases known : n.contains p.word = true
    · simp [known, Option.filter]
    · rcases stays with rfl | rfl | rfl <;>
      · simp only [known, Bool.not_false, if_true, Option.filter, add, lasting, List.mem_append, Option.toList_some,
          List.map_cons, List.map_nil, List.mem_singleton]
        tauto

theorem lasting_openLoop : (n.openLoop number line).1.lasting = n.lasting := by
  unfold openLoop
  split
  · rfl
  · next item sign _ =>
    obtain ⟨pending, used⟩ := n.useCollection_eq number sign (Line.loopCollection? line)
    simp only [used, declare]
    split <;> rfl

theorem mem_lasting_afterKeyword {k : Keyword} :
    name ∈ (n.afterKeyword number line k).lasting ↔ name ∈ n.lasting ∨ name ∈ n.recordedByKeyword line k := by
  cases k with
  | list => exact mem_lasting_declare? (.inl rfl) _
  | var => exact mem_lasting_declare? (.inr (.inl rfl)) _
  | csv => exact mem_lasting_declare? (.inr (.inr rfl)) _
  | forBlock => simp [afterKeyword, recordedByKeyword, lasting_openLoop]
  | endFor => simp [afterKeyword, recordedByKeyword, closeLoop, lasting]
  | _ => simp [afterKeyword, recordedByKeyword]

theorem mem_lasting_read {x : Reading} : name ∈ (n.read x).lasting ↔ name ∈ n.lasting ∨ name ∈ n.recorded x := by
  unfold read recorded
  cases Line.keyword? x.line with
  | none => simp [mem_lasting_afterContent]
  | some k =>
    simp only [Option.elim_some, mem_lasting_afterKeyword, mem_lasting_afterContent, List.mem_append]
    tauto

theorem mem_lasting_readAll {xs : List Reading} :
    name ∈ (n.readAll xs).lasting ↔ name ∈ n.lasting ∨ name ∈ n.recordedAlong xs := by
  induction xs generalizing n with
  | nil => simp [readAll, recordedAlong]
  | cons x xs inductionHypothesis =>
    have later := @inductionHypothesis (n.read x)
    simp only [readAll, List.foldl_cons, recordedAlong, List.mem_append] at later ⊢
    rw [later, mem_lasting_read]
    tauto

theorem recordedAlong_append (n : Names) (xs ys : List Reading) :
    n.recordedAlong (xs ++ ys) = n.recordedAlong xs ++ (n.readAll xs).recordedAlong ys := by
  induction xs generalizing n with
  | nil => rfl
  | cons x xs inductionHypothesis =>
    simp only [List.cons_append, recordedAlong, inductionHypothesis, readAll, List.foldl_cons, List.append_assoc]

theorem next_eq_read (x : Reading) (isRead : x.control.reads x.line = true) :
    n.next x.control x.number x.line = n.read x := by
  rw [next, if_pos isRead, read]

/-! ## Variables of open loops -/

variable {blocks : Blocks} {loops : List (Option String)}

/-- The variable of each open loop lasts, or that loop or one around it brought it into use. -/
def Covered (n : Names) (loops : List (Option String)) : Prop :=
  ∀ depth v, loops[depth]? = some (some v) →
    v ∈ n.lasting ∨ some v ∈ broughtIn (loops.take (depth + 1)) (n.scopes.take (depth + 1))

theorem Covered.mono {other : Names} (covered : n.Covered loops) (scopes : other.scopes = n.scopes)
    (more : ∀ name ∈ n.lasting, name ∈ other.lasting) : other.Covered loops := by
  intro depth v isOpen
  rw [scopes]
  exact (covered depth v isOpen).imp_left (more v)

theorem Covered.mem_all (covered : n.Covered loops) (inStep : n.InStep blocks loops) {v : String}
    (isOpen : some v ∈ loops) : v ∈ n.all := by
  obtain ⟨depth, isThere⟩ := List.mem_iff_getElem?.mp isOpen
  rw [mem_all_iff]
  refine (covered depth v isThere).imp_right fun brought => ?_
  have part : broughtIn (loops.take (depth + 1)) (n.scopes.take (depth + 1)) ⊆ broughtIn loops n.scopes := by
    unfold broughtIn
    rw [List.zip_eq_zipWith, ← List.take_zipWith, ← List.zip_eq_zipWith]
    exact List.map_subset _ ((List.take_sublist _ _).filter _).subset
  have among := part brought
  rw [← inStep.loop_eq] at among
  obtain ⟨w, isLoop, same⟩ := List.mem_map.mp among
  exact Option.some.inj same ▸ isLoop

theorem InStep.mem_loops (inStep : n.InStep blocks loops) (isLoop : name ∈ n.loop) : some name ∈ loops := by
  have brought : some name ∈ broughtIn loops n.scopes := inStep.loop_eq ▸ List.mem_map_of_mem isLoop
  obtain ⟨⟨v, brings⟩, inBoth, rfl⟩ := List.mem_map.mp brought
  exact (List.of_mem_zip (List.mem_of_mem_filter inBoth)).1

theorem scopes_openLoop (n : Names) (number : Nat) (line : List Char) :
    ∃ brings, (n.openLoop number line).1.scopes = n.scopes ++ [brings] ∧
      ∀ item sign, Line.loopVariable? line = some (item, sign) → brings = false → item.word ∈ n.all := by
  unfold Names.openLoop
  cases isVariable : Line.loopVariable? line with
  | none => exact ⟨false, rfl, fun item sign none => by cases none⟩
  | some found =>
    obtain ⟨item, sign⟩ := found
    obtain ⟨pending, used⟩ := n.useCollection_eq number sign (Line.loopCollection? line)
    simp only [used, declare_scopes]
    refine ⟨_, rfl, fun other sign same notFresh => ?_⟩
    cases same
    change (!n.contains item.word) = false at notFresh
    simpa [contains] using notFresh

theorem Covered.openLoop (covered : n.Covered loops) (inStep : n.InStep blocks loops) :
    (n.openLoop number line).1.Covered (loops ++ [(Line.loopVariable? line).map (·.1.word)]) := by
  obtain ⟨brings, isScopes, inUse⟩ := n.scopes_openLoop number line
  intro depth v isOpen
  rw [isScopes, lasting_openLoop]
  rcases Nat.lt_or_ge depth loops.length with outer | own
  · rw [List.getElem?_append_left outer] at isOpen
    rw [List.take_append_of_le_length (by omega), List.take_append_of_le_length (by rw [← inStep.loops_eq]; omega)]
    exact covered depth v isOpen
  · have isOwn : depth = loops.length := by
      have bound := (List.getElem?_eq_some_iff.mp isOpen).1
      simp only [List.length_append, List.length_singleton] at bound
      omega
    subst isOwn
    simp only [List.getElem?_concat_length, Option.some.injEq, Option.map_eq_some_iff] at isOpen
    obtain ⟨⟨item, sign⟩, isVariable, rfl⟩ := isOpen
    have wholeLoops : (loops ++ [(Line.loopVariable? line).map (·.1.word)]).take (loops.length + 1) =
        loops ++ [some item.word] := by
      rw [List.take_of_length_le (by simp), isVariable]
      rfl
    have wholeScopes : (n.scopes ++ [brings]).take (loops.length + 1) = n.scopes ++ [brings] :=
      List.take_of_length_le (by simp [inStep.loops_eq])
    rw [wholeLoops, wholeScopes, broughtIn_concat inStep.loops_eq]
    cases brings with
    | true => exact .inr (by simp)
    | false =>
      refine (mem_all_iff.mp (inUse item sign isVariable rfl)).imp_right fun isLoop => ?_
      rw [← inStep.loop_eq]
      simpa using isLoop

/-- Closing a loop leaves those around it covered: none of them needs the innermost. -/
theorem Covered.closeLoop (covered : n.Covered loops) (inStep : n.InStep blocks loops) :
    n.closeLoop.Covered loops.dropLast := by
  intro depth v isOpen
  have bound := (List.getElem?_eq_some_iff.mp isOpen).1
  rw [List.length_dropLast] at bound
  rw [List.getElem?_dropLast, if_pos bound] at isOpen
  have sameLoops : loops.dropLast.take (depth + 1) = loops.take (depth + 1) := by
    rw [List.dropLast_eq_take, List.take_take, Nat.min_eq_left (by omega)]
  have sameScopes : n.scopes.dropLast.take (depth + 1) = n.scopes.take (depth + 1) := by
    rw [List.dropLast_eq_take, List.take_take, Nat.min_eq_left (by rw [← inStep.loops_eq]; omega)]
  rw [sameLoops, Names.closeLoop, sameScopes]
  exact covered depth v isOpen

theorem loop_afterContent : (n.afterContent number line).loop = n.loop := by
  obtain ⟨template, content⟩ := n.afterContent_eq number line
  rw [content]

theorem afterContent_covered (covered : n.Covered loops) : (n.afterContent number line).Covered loops := by
  refine covered.mono ?_ fun name lasts => mem_lasting_afterContent.mpr (.inl lasts)
  obtain ⟨template, content⟩ := n.afterContent_eq number line
  rw [content]

theorem afterKeyword_covered (covered : n.Covered loops) (inStep : n.InStep blocks loops) (k : Keyword) :
    (n.afterKeyword number line k).Covered (loopsAfter loops line k) := by
  cases k with
  | endFor => exact covered.closeLoop inStep
  | forBlock => exact covered.openLoop inStep
  | list | var | csv =>
    refine covered.mono ?_ fun name lasts => mem_lasting_afterKeyword.mpr (.inl lasts)
    simp only [afterKeyword, declare?]
    split
    · exact declare_scopes n _ number _
    · rfl
  | _ => exact covered

/-- What is known of names while lines are read: they are in step with the loops, and cover them. -/
structure Sound (n : Names) (blocks : Blocks) (loops : List (Option String)) : Prop where
  inStep : n.InStep blocks loops
  covered : n.Covered loops

theorem sound_initial : Sound {} [] [] :=
  ⟨⟨rfl, rfl, rfl⟩, fun depth v isOpen => by cases isOpen⟩

theorem Sound.read {c : Control} {following : List (List Char)} (sound : n.Sound c.blocks loops)
    (isRead : c.reads line = true) :
    (n.read ⟨c, number, line⟩).Sound (c.next number line following).blocks
      (Reading.loops loops ⟨c, number, line⟩) := by
  obtain ⟨template, content⟩ := n.afterContent_eq number line
  have inStep : (n.afterContent number line).InStep c.blocks loops := by
    rw [content]
    exact sound.inStep.congr rfl rfl rfl
  have covered : (n.afterContent number line).Covered loops := afterContent_covered sound.covered
  simp only [Names.read, Control.next, if_pos isRead, Reading.loops]
  cases isFound : Line.keywordAt? line number with
  | none =>
    have noKeyword : Line.keyword? line = none := Line.keywordAt?_eq_none.mp isFound
    simp only [noKeyword, Option.elim_none]
    exact ⟨inStep, covered⟩
  | some keyword =>
    simp only [Line.keyword?_eq isFound, Option.elim_some]
    exact ⟨inStep.afterKeyword following keyword, afterKeyword_covered covered inStep keyword.keyword⟩

theorem Sound.readings {c : Control} {lines : List (List Char)} (sound : n.Sound c.blocks loops) :
    (n.readAll (c.readings number lines)).Sound (c.afterLines number lines).blocks
        ((c.readings number lines).foldl Reading.loops loops) ∧
      ∀ before x after, c.readings number lines = before ++ x :: after →
        (n.readAll before).Sound x.control.blocks (before.foldl Reading.loops loops) := by
  induction lines generalizing c number n loops with
  | nil => exact ⟨sound, fun before x after split => by simp [Control.readings] at split⟩
  | cons line following inductionHypothesis =>
    simp only [Control.readings, Control.afterLines]
    cases isRead : c.reads line with
    | false =>
      have same : c.next number line following = c := by simp [Control.next, isRead]
      simp only [Bool.false_eq_true, if_false, same]
      exact inductionHypothesis sound
    | true =>
      obtain ⟨atEnd, within⟩ := @inductionHypothesis _ (number + 1) _ _ (sound.read isRead)
      simp only [if_true]
      refine ⟨atEnd, fun before x after split => ?_⟩
      cases before with
      | nil =>
        simp only [List.nil_append, List.cons.injEq] at split
        rw [← split.1]
        exact sound
      | cons y before =>
        simp only [List.cons_append, List.cons.injEq] at split
        obtain ⟨rfl, split⟩ := split
        exact within before x after split

/-! ## Collections that wait -/

/-- The collection of a loop that is not in use when its loop begins. -/
def waits (n : Names) (x : Reading) : List Mention :=
  if Line.keyword? x.line = some .forBlock ∧ (Line.loopVariable? x.line).isSome then
    ((Line.loopCollection? x.line).filter fun p => !(n.afterContent x.number x.line).contains p.word).toList.map
      fun p => ⟨p.word, p.range x.number⟩
  else []

def waitsAlong (n : Names) : List Reading → List Mention
  | [] => []
  | x :: xs => n.waits x ++ waitsAlong (n.read x) xs

theorem pending_afterContent : (n.afterContent number line).pending = n.pending := by
  obtain ⟨template, content⟩ := n.afterContent_eq number line
  rw [content]

theorem pending_openLoop : (n.openLoop number line).1.pending = n.pending ++
    if (Line.loopVariable? line).isSome then
      ((Line.loopCollection? line).filter fun p => !n.contains p.word).toList.map fun p => ⟨p.word, p.range number⟩
    else [] := by
  unfold openLoop
  cases Line.loopVariable? line with
  | none => simp
  | some found =>
    simp only [Option.isSome_some, if_true, (declare_on _ number .loop found.1).1]
    unfold useCollection
    cases Line.loopCollection? line with
    | none => simp
    | some p => by_cases known : n.contains p.word = true <;> simp [known, Option.filter]

theorem pending_read (n : Names) (x : Reading) : (n.read x).pending = n.pending ++ n.waits x := by
  unfold read waits
  cases Line.keyword? x.line with
  | none => simp [pending_afterContent]
  | some k =>
    rw [Option.elim_some, ← @pending_afterContent n x.number x.line]
    cases k with
    | forBlock => simp only [afterKeyword, pending_openLoop, true_and]
    | list | var | csv => simp [afterKeyword, (declare?_on _ x.number _ _).1]
    | endFor => simp [afterKeyword, closeLoop]
    | _ => simp [afterKeyword]

theorem pending_readAll (n : Names) (xs : List Reading) : (n.readAll xs).pending = n.pending ++ n.waitsAlong xs := by
  induction xs generalizing n with
  | nil => simp [readAll, waitsAlong]
  | cons x xs inductionHypothesis =>
    have later := inductionHypothesis (n.read x)
    simp only [readAll, List.foldl_cons] at later ⊢
    rw [later, pending_read, waitsAlong, List.append_assoc]

theorem waitsAlong_append (n : Names) (xs ys : List Reading) :
    n.waitsAlong (xs ++ ys) = n.waitsAlong xs ++ (n.readAll xs).waitsAlong ys := by
  induction xs generalizing n with
  | nil => rfl
  | cons x xs inductionHypothesis =>
    simp only [List.cons_append, waitsAlong, inductionHypothesis, readAll, List.foldl_cons, List.append_assoc]

theorem line_of_mem_waits {x : Reading} {m : Mention} (member : m ∈ n.waits x) : m.range.start.line = x.number := by
  unfold waits at member
  split at member
  · obtain ⟨p, -, rfl⟩ := List.mem_map.mp member
    rfl
  · cases member

theorem line_of_mem_waitsAlong {xs : List Reading} {m : Mention} (member : m ∈ n.waitsAlong xs) :
    ∃ x ∈ xs, m.range.start.line = x.number := by
  induction xs generalizing n with
  | nil => cases member
  | cons x xs inductionHypothesis =>
    rcases List.mem_append.mp member with now | later
    · exact ⟨x, List.mem_cons_self .., line_of_mem_waits now⟩
    · obtain ⟨y, isRead, onLine⟩ := inductionHypothesis later
      exact ⟨y, List.mem_cons_of_mem _ isRead, onLine⟩

theorem waitsAlong_at {before after : List Reading} {x : Reading} {range : Range}
    (apart : (before ++ x :: after).Pairwise fun y z => y.number < z.number) (onLine : range.start.line = x.number) :
    (n.waitsAlong (before ++ x :: after)).filter (fun m => m.range == range) =
      ((n.readAll before).waits x).filter fun m => m.range == range := by
  rw [List.pairwise_append, List.pairwise_cons] at apart
  have none (other : Names) (xs : List Reading) (elsewhere : ∀ y ∈ xs, y.number ≠ x.number) :
      (other.waitsAlong xs).filter (fun m => m.range == range) = [] := by
    refine List.filter_eq_nil_iff.mpr fun m member same => ?_
    obtain ⟨y, isRead, isThere⟩ := line_of_mem_waitsAlong member
    rw [beq_iff_eq.mp same, onLine] at isThere
    exact elsewhere y isRead isThere.symm
  have earlier := none n before fun y isRead => Nat.ne_of_lt (apart.2.2 y isRead x (List.mem_cons_self ..))
  have later := none ((n.readAll before).read x) after fun y isRead => Nat.ne_of_gt (apart.2.1.1 y isRead)
  rw [waitsAlong_append, waitsAlong, List.filter_append, List.filter_append, earlier, later, List.nil_append,
    List.append_nil]

end Names

/-! ## The names of a document -/

namespace Document

def names (text : String) : Names :=
  ({} : Names).readAll (readings text)

def recorded (text : String) : List String :=
  ({} : Names).recordedAlong (readings text)

def LoopsClosed (text : String) : Prop :=
  (Control.afterLines {} 0 (analysed text)).blocks.isIn .forBlock = false

instance (text : String) : Decidable (LoopsClosed text) :=
  inferInstanceAs (Decidable (_ = false))

variable {text : String}

/-- With all loops closed, what is in use at the end was there from the start or was recorded. -/
theorem mem_names_iff (closed : LoopsClosed text) {name : String} :
    name ∈ (names text).all ↔ name ∈ ["entity", "entities", "type"] ∨ name ∈ recorded text := by
  obtain ⟨atEnd, -⟩ := @Names.Sound.readings {} 0 [] {} (analysed text) Names.sound_initial
  have noScopes : (names text).scopes = [] := by
    have counted := atEnd.inStep.blocks_eq
    rw [LoopsClosed, Blocks.isIn_eq_count, decide_eq_false_iff_not, Nat.not_lt, Nat.le_zero_eq] at closed
    exact List.length_eq_zero_iff.mp (counted.symm.trans closed)
  have noLoops : (names text).loop = [] := by
    have brought := atEnd.inStep.loop_eq
    change (names text).loop.map some = broughtIn _ (names text).scopes at brought
    rw [noScopes] at brought
    simpa [broughtIn] using brought
  have initially : ({} : Names).lasting = ["entity", "entities", "type"] := rfl
  rw [Names.mem_all_iff, noLoops, names, Names.mem_lasting_readAll, initially, ← recorded]
  simp

end Document

end ChartConfig
