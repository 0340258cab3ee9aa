import ChartConfig.Proofs.Validation.Reached
import ChartConfig.Proofs.Validation.Suggestions

/-!
# Collections of loops

A loop may go over a collection that is declared later. So its collection is looked up twice: among the names in use
where the loop begins, and if it is not among them, among those in use at the end. That comes to one question that knows
no order: is the collection the variable of a loop around it, there from the start, or recorded anywhere?
-/

namespace ChartConfig

open Text Step Finding

/-! ## Where words are looked up -/

/-- On one of the lines, a piece that is looked up stands in the range. -/
def Range.LookedUp (xs : List Reading) (range : Range) : Prop :=
  ∃ x ∈ xs, ∃ p, Line.LooksUp x.line p ∧ range = p.range x.number

namespace Act

def miss? : Act → Option Miss
  | misses _ m => some m
  | _ => none

@[simp] theorem miss?_misses {kind : Lookup} {m : Miss} : (misses kind m).miss? = some m :=
  rfl

@[simp] theorem miss?_judges {j : Judgement} : (judges j).miss? = none :=
  rfl

@[simp] theorem miss?_tells {found : List Finding} : (tells found).miss? = none :=
  rfl

@[simp] theorem filterMap_misses (kind : Lookup) (ms : List Miss) : (ms.map (misses kind)).filterMap miss? = ms := by
  simp [List.filterMap_map, Function.comp_def]

end Act

/-! ### Where the words of a line stand -/

section

variable {r : Registry} {number : Nat} {line : List Char} {m : Miss} {s : State} {P : Range → Prop}

theorem Aliases.range_of_mem_misses {a : Aliases} (uses : ∀ m ∈ a.uses, P m.range) (member : m ∈ a.misses) :
    P m.range := by
  obtain ⟨use, isUse, rfl⟩ := List.mem_map.mp member
  exact uses use (List.mem_of_mem_filter isUse)

variable (here : ∀ p, Line.LooksUp line p → P (p.range number))
include here

theorem Header.range_of_mem_misses {h : Header} (headed : Line.header? line number = some h) (member : m ∈ h.misses) :
    P m.range := by
  obtain ⟨p, named, rfl⟩ := Option.map_eq_some_iff.mp headed
  unfold Header.misses at member
  split at member
  · cases member
  · rw [List.mem_singleton.mp member]
    exact here p (.header named)

theorem Names.range_of_mem_templateMisses {n : Names} {d : TemplateDeclaration}
    (declared : Line.templateDeclaration? line = some d) (member : m ∈ n.templateMisses number d) : P m.range := by
  obtain ⟨p, isCollection, rfl⟩ := List.mem_map.mp member
  rw [Option.mem_toList, Option.filter_eq_some_iff] at isCollection
  exact here p (.template d declared isCollection.1)

namespace Assign

variable {a : Assignment}

theorem range_of_mem_settingMisses (assigned : Line.assignment? line = some a)
    (member : m ∈ settingMisses r a.name (a.name.range number) s) : P m.range := by
  unfold settingMisses at member
  split at member
  · cases member
  · split at member
    · cases member
    · rw [List.mem_singleton.mp member]
      exact here a.name (.setting (Line.place_of_assignment? assigned).1)

theorem range_of_mem_templateMisses (assigned : Line.assignment? line = some a) {n : Names}
    (member : m ∈ templateMisses number a.value n) : P m.range := by
  obtain ⟨body, -, member⟩ := List.mem_flatMap.mp member
  obtain ⟨w, -, rfl⟩ := List.mem_map.mp member
  refine here (w.shift (a.value.column + body.column)) (.reference ?_)
  exact (Line.place_of_assignment? assigned).2.mono (by simp only [Piece.shift]; omega)

theorem range_of_mem_loopMisses {n : Names} (member : m ∈ loopMisses number line n) : P m.range := by
  obtain ⟨e, isExpression, member⟩ := List.mem_flatMap.mp member
  obtain ⟨i, isIdentifier, rfl⟩ := List.mem_map.mp member
  have marked := Reference.marked_of_mem_identifiers isExpression (List.mem_of_mem_filter isIdentifier)
  exact here (i.piece.shift e.column) (.reference marked)

end Assign

theorem State.range_of_missesOn {kind : Lookup} (uses : ∀ m ∈ s.aliases.uses, P m.range)
    (missed : s.MissesOn r number line kind m) : P m.range := by
  cases missed with
  | sectionName headed missed => exact Header.range_of_mem_misses here headed missed
  | aliasUse missed => exact Aliases.range_of_mem_misses uses missed
  | settingName assigned _ missed => exact Assign.range_of_mem_settingMisses here assigned missed
  | templateWord assigned missed => exact Assign.range_of_mem_templateMisses here assigned missed
  | templateCollection declared missed => exact Names.range_of_mem_templateMisses here declared missed
  | loopWord missed => exact Assign.range_of_mem_loopMisses here missed

end

/-! ### The acts of a line -/

namespace State

variable {r : Registry} {xs : List Reading} {x : Reading} {m : Miss} {s : State}

theorem range_of_mem_lineActs {number : Nat} {line : List Char} {following : List (List Char)}
    (isRead : s.control.reads line = true → ⟨s.control, number, line⟩ ∈ xs)
    (uses : ∀ m ∈ s.aliases.uses, m.range.LookedUp xs)
    (member : m ∈ (s.lineActs r number line following).filterMap Act.miss?) : m.range.LookedUp xs := by
  obtain ⟨act, isAct, isMiss⟩ := List.mem_filterMap.mp member
  cases does_lineActs isAct with
  | judges | repeatsAlias | tells => cases isMiss
  | misses reads missed =>
    cases isMiss
    exact range_of_missesOn (fun p looksUp => ⟨_, isRead reads, p, looksUp, rfl⟩) uses missed

theorem uses_aliasesAfter (isRead : x ∈ xs) (uses : ∀ m ∈ s.aliases.uses, m.range.LookedUp xs) :
    ∀ m ∈ (s.aliasesAfter r x.number x.line).uses, m.range.LookedUp xs := by
  intro m member
  rcases mem_uses_aliasesAfter member with old | ⟨p, marked, range⟩
  · exact uses m old
  · exact ⟨x, isRead, p, .reference marked, range⟩

end State

/-! ## What a run looks up in vain -/

/-- What a run looks up in vain: words that are looked up on the lines that are read, and then the collections that
    nothing declares. -/
theorem Step.misses_acts {r : Registry} {xs : List Reading} {number : Nat} {lines : List (List Char)} {s : State}
    (armed : s.control.Armed) (areRead : ∀ x ∈ s.control.readings number lines, x ∈ xs)
    (uses : ∀ m ∈ s.aliases.uses, m.range.LookedUp xs) :
    ∃ others, (acts r number lines s).filterMap Act.miss? =
        others ++ (s.names.readAll (s.control.readings number lines)).misses ∧
      ∀ m ∈ others, m.range.LookedUp xs := by
  induction lines generalizing number s with
  | nil =>
    refine ⟨s.aliases.misses, ?_, fun m => Aliases.range_of_mem_misses (P := Range.LookedUp xs) uses⟩
    simp [acts, State.lastActs, State.judgementActs, Control.readings, Names.readAll, List.filterMap_map,
      List.filterMap_cons, Function.comp_def]
  | cons line following inductionHypothesis =>
    have follows := @line_follows r number line s following armed
    rw [Control.readings] at areRead
    have isRead : s.control.reads line = true → ⟨s.control, number, line⟩ ∈ xs := by
      intro reads
      rw [if_pos reads] at areRead
      exact areRead _ (List.mem_cons_self ..)
    have onward : ∀ x ∈ ((Step.line r number line following).after s).control.readings (number + 1) following,
        x ∈ xs := by
      rw [follows.control]
      intro x member
      split at areRead
      · exact areRead x (List.mem_cons_of_mem _ member)
      · exact areRead x member
    have usesOnward : ∀ m ∈ ((Step.line r number line following).after s).aliases.uses, m.range.LookedUp xs := by
      rw [follows.aliases]
      intro m member
      split at member
      · next reads => exact State.uses_aliasesAfter (isRead reads) uses m member
      · exact uses m member
    obtain ⟨others, later, fromLines⟩ := @inductionHypothesis (number + 1) _ follows.armed onward usesOnward
    refine ⟨(s.lineActs r number line following).filterMap Act.miss? ++ others, ?_, fun m member => ?_⟩
    · rw [acts, List.filterMap_append, later, follows.names, follows.control, Control.readings, List.append_assoc]
      cases reads : s.control.reads line with
      | false => simp [Names.next, reads]
      | true =>
        simp only [if_true, s.names.next_eq_read ⟨s.control, number, line⟩ reads]
        rfl
    · exact (List.mem_append.mp member).elim (State.range_of_mem_lineActs isRead uses) (fromLines m)

theorem Names.misses_filter (n : Names) (range : Range) :
    n.misses.filter (fun m => m.range == range) =
      ((n.pending.filter fun m => m.range == range).filter fun m => !n.contains m.name).map fun m =>
        ⟨m.name, m.range, n.all⟩ := by
  rw [misses, List.filter_map, List.filter_filter, List.filter_filter]
  exact congrArg _ (List.filter_congr fun m _ => Bool.and_comm ..)

namespace Document

variable {text : String} {before after : List Reading} {x : Reading} {c : Piece}

def misses (r : Registry) (text : String) : List Miss :=
  (acts r text).filterMap Act.miss?

theorem eq_of_mem_readings {y : Reading} (isRead : x ∈ readings text) (alsoRead : y ∈ readings text)
    (same : x.number = y.number) : x = y := by
  have increasing := Control.readings_increasing {} 0 (analysed text)
  have distinct : ((readings text).map Reading.number).Nodup :=
    List.pairwise_map.mpr (increasing.imp Nat.ne_of_lt)
  exact List.inj_on_of_nodup_map distinct isRead alsoRead same

theorem exists_misses (r : Registry) (text : String) :
    ∃ others, misses r text = others ++ (names text).misses ∧ ∀ m ∈ others, m.range.LookedUp (readings text) :=
  Step.misses_acts State.armed_initial (fun _ member => member) (List.forall_mem_nil _)

/-- The names in use where the keyword of a line is looked at, after the lines before it. -/
def namesAt (before : List Reading) (x : Reading) : Names :=
  (({} : Names).readAll before).afterContent x.number x.line

theorem pending_at (split : readings text = before ++ x :: after) (isLoop : Line.keyword? x.line = some .forBlock)
    (hasVariable : (Line.loopVariable? x.line).isSome) (collects : Line.loopCollection? x.line = some c) :
    (names text).pending.filter (fun m => m.range == c.range x.number) =
      if c.word ∈ (namesAt before x).all then [] else [⟨c.word, c.range x.number⟩] := by
  have increasing := Control.readings_increasing {} 0 (analysed text)
  rw [show Control.readings {} 0 (analysed text) = _ from split] at increasing
  have initially : ({} : Names).pending = [] := rfl
  rw [names, Names.pending_readAll, initially, List.nil_append, split, Names.waitsAlong_at increasing rfl, Names.waits,
    if_pos ⟨isLoop, hasVariable⟩, collects, namesAt]
  by_cases inUse : c.word ∈ ((({} : Names).readAll before).afterContent x.number x.line).all <;>
    simp [inUse, Names.contains, Option.filter]

/-- What is looked up in vain where a loop names its collection: the collection, if it is neither in use where the loop
    begins nor at the end. -/
theorem misses_at (r : Registry) (split : readings text = before ++ x :: after)
    (isLoop : Line.keyword? x.line = some .forBlock) (hasVariable : (Line.loopVariable? x.line).isSome)
    (collects : Line.loopCollection? x.line = some c) :
    (misses r text).filter (fun m => m.range == c.range x.number) =
      if c.word ∈ (namesAt before x).all ∨ c.word ∈ (names text).all then []
      else [⟨c.word, c.range x.number, (names text).all⟩] := by
  obtain ⟨others, areMisses, lookedUp⟩ := exists_misses r text
  have isRead : x ∈ readings text := split ▸ List.mem_append_right _ (List.mem_cons_self ..)
  have elsewhere : others.filter (fun m => m.range == c.range x.number) = [] := by
    refine List.filter_eq_nil_iff.mpr fun m member same => ?_
    obtain ⟨y, alsoRead, p, looksUp, range⟩ := lookedUp m member
    have place : p.range y.number = c.range x.number := range.symm.trans (beq_iff_eq.mp same)
    -- It would have to stand on the same line, where nothing else starts at that column.
    obtain rfl : y = x := eq_of_mem_readings alsoRead isRead (congrArg (·.start.line) place)
    exact looksUp.column_ne isLoop collects (congrArg (·.start.character) place)
  rw [areMisses, List.filter_append, elsewhere, List.nil_append, Names.misses_filter,
    pending_at split isLoop hasVariable collects]
  by_cases inUse : c.word ∈ (namesAt before x).all
  · simp [inUse]
  · by_cases declared : c.word ∈ (names text).all <;> simp [inUse, declared, Names.contains]

/-- With all loops closed, it does not matter where a name is declared: it is in use where a line is read or at the end
    exactly if it is the variable of a loop around that line, there from the start, or recorded anywhere. -/
theorem inUse_iff (closed : LoopsClosed text) (split : readings text = before ++ x :: after) {name : String} :
    name ∈ (namesAt before x).all ∨ name ∈ (names text).all ↔
      some name ∈ openLoops before ∨ name ∈ ["entity", "entities", "type"] ∨ name ∈ recorded text := by
  obtain ⟨-, within⟩ := @Names.Sound.readings {} 0 [] {} (analysed text) Names.sound_initial
  have sound : (({} : Names).readAll before).Sound x.control.blocks (openLoops before) := within before x after split
  have initially : ({} : Names).lasting = ["entity", "entities", "type"] := rfl
  have here : name ∈ (namesAt before x).all ↔ ((name ∈ ["entity", "entities", "type"] ∨
      name ∈ ({} : Names).recordedAlong before) ∨ name ∈ Names.recordedByContent x.number x.line) ∨
      name ∈ (({} : Names).readAll before).loop := by
    rw [namesAt, Names.mem_all_iff, Names.mem_lasting_afterContent, Names.mem_lasting_readAll, Names.loop_afterContent,
      initially]
  have whole : recorded text = ({} : Names).recordedAlong before ++ ((({} : Names).readAll before).recorded x ++
      ((({} : Names).readAll before).read x).recordedAlong after) := by
    rw [recorded, split, Names.recordedAlong_append]
    rfl
  rw [mem_names_iff closed, here]
  constructor
  · -- What is in use here lasts to the end, unless it is the variable of a loop that is open.
    rintro ((((known | earlier) | content) | isLoop) | atEnd)
    · exact .inr (.inl known)
    · exact .inr (.inr (whole ▸ List.mem_append_left _ earlier))
    · have onLine : name ∈ (({} : Names).readAll before).recorded x := List.mem_append_left _ content
      exact .inr (.inr (whole ▸ List.mem_append_right _ (List.mem_append_left _ onLine)))
    · exact .inl (sound.inStep.mem_loops isLoop)
    · exact .inr atEnd
  · -- The variable of an open loop is in use, whether the loop brought it into use or not.
    rintro (isOpen | known)
    · refine .inl ?_
      rcases Names.mem_all_iff.mp (sound.covered.mem_all sound.inStep isOpen) with lasts | isLoop
      · rw [Names.mem_lasting_readAll, initially] at lasts
        exact .inl (.inl lasts)
      · exact .inr isLoop
    · exact .inr known

end Document

/-- With all loops closed, a loop may stand before or after what declares its collection: where it names the collection,
    that is reported as unknown exactly once if it is not the variable of a loop around it, not there from the start and
    not recorded by any line of the document, and else not at all. Each miss of the account is reported so, and nothing
    else that is told says that a word is unknown. -/
theorem loop_collections_resolve (r : Registry) (text : String) (closed : Document.LoopsClosed text) :
    validate text r = .ok ((Document.acts r text).flatMap (Act.said r)) ∧
    (∀ found, .tells found ∈ Document.acts r text → ∀ d ∈ diagnostics found,
      ∃ remark : Remark r.measure, ∃ word, remark.isUnknown = false ∧ d.message = remark.message word) ∧
    ∀ before x after, Document.readings text = before ++ x :: after →
      ∀ v sign c, Line.keyword? x.line = some .forBlock → Line.loopVariable? x.line = some (v, sign) →
        Line.loopCollection? x.line = some c →
        (Document.misses r text).filter (fun m => m.range == c.range x.number) =
          if some c.word ∈ openLoops before ∨ c.word ∈ ["entity", "entities", "type"] ∨
              c.word ∈ Document.recorded text then []
          else [⟨c.word, c.range x.number, (Document.names text).all⟩] := by
  refine ⟨validate_eq_acts r text, fun found told => Document.honest_acts told, ?_⟩
  intro before x after split v sign c isLoop isVariable collects
  have hasVariable : (Line.loopVariable? x.line).isSome := by simp [isVariable]
  rw [Document.misses_at r split isLoop hasVariable collects]
  simp only [Document.inUse_iff closed split]

def loopsText : String :=
  "for a in xs\nendfor\nlist xs = p, q\nfor b in ys\nendfor"

theorem loop_collections_resolve_later :
    Document.LoopsClosed loopsText ∧
    (Document.misses chartRegistry loopsText).filter (fun m => m.range == ⟨⟨0, 9⟩, ⟨0, 11⟩⟩) = [] ∧
    (Document.misses chartRegistry loopsText).filter (fun m => m.range == ⟨⟨3, 9⟩, ⟨3, 11⟩⟩) =
      [⟨"ys", ⟨⟨3, 9⟩, ⟨3, 11⟩⟩, ["entity", "entities", "type", "xs"]⟩] := by
  have closed : Document.LoopsClosed loopsText := by decide +kernel
  obtain ⟨-, -, resolved⟩ := loop_collections_resolve chartRegistry loopsText closed
  have declared := resolved [] ⟨{}, 0, "for a in xs".toList⟩ ((Document.readings loopsText).drop 1) (by decide +kernel)
    ⟨4, ['a']⟩ ⟨6, "in".toList⟩ ⟨9, "xs".toList⟩ (by decide +kernel) (by decide +kernel) (by decide +kernel)
  have missing := resolved ((Document.readings loopsText).take 3) ⟨{}, 3, "for b in ys".toList⟩
    ((Document.readings loopsText).drop 4) (by decide +kernel) ⟨4, ['b']⟩ ⟨6, "in".toList⟩ ⟨9, "ys".toList⟩
    (by decide +kernel) (by decide +kernel) (by decide +kernel)
  exact ⟨closed, declared.trans (by decide +kernel), missing.trans (by decide +kernel)⟩

end ChartConfig
