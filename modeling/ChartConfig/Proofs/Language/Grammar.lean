import ChartConfig.Language.Keyword

/-!
# The grammar of blocks

The lines of a document open blocks, close them and begin alternatives of a condition. Well nested sequences of
such events are given by a grammar. The same sequences are those that a stack of open blocks follows from empty to
empty: from left to right, every prefix is a derivation that is cut off inside the blocks on the stack.
-/

namespace ChartConfig

/-- What a line does to the blocks. -/
inductive BlockEvent where
  | opens (k : Keyword)
  | closes (k : Keyword)
  | alternative
  deriving Repr, DecidableEq

/-- Well nested events: blocks one after another, each with well nested events inside; a condition may have any
    number of alternatives. -/
inductive Balanced : List BlockEvent → Prop where
  | empty : Balanced []
  | block {k : Keyword} {before body : List BlockEvent} : k ≠ .ifBlock → Balanced before → Balanced body →
      Balanced (before ++ .opens k :: body ++ [.closes k])
  | condition {before body : List BlockEvent} {branches : List (List BlockEvent)} : Balanced before →
      Balanced body → (∀ branch ∈ branches, Balanced branch) →
      Balanced (before ++ .opens .ifBlock :: body ++ branches.flatMap (.alternative :: ·) ++ [.closes .ifBlock])

namespace BlockEvent

/-- The kinds of the blocks that are open after the events, the innermost first, if each event fits the blocks that
    it finds open. -/
def follow : List Keyword → List BlockEvent → Option (List Keyword)
  | stack, [] => some stack
  | stack, .opens k :: rest => follow (k :: stack) rest
  | stack, .closes k :: rest => if stack.head? = some k then follow stack.tail rest else none
  | stack, .alternative :: rest => if stack.head? = some .ifBlock then follow stack rest else none

theorem follow_append (stack : List Keyword) (events more : List BlockEvent) :
    follow stack (events ++ more) = (follow stack events).bind (follow · more) := by
  induction events generalizing stack with
  | nil => rfl
  | cons event events inductionHypothesis =>
    cases event with
    | opens k => exact inductionHypothesis (k :: stack)
    | closes k =>
      simp only [List.cons_append, follow]
      split
      · exact inductionHypothesis stack.tail
      · rfl
    | alternative =>
      simp only [List.cons_append, follow]
      split
      · exact inductionHypothesis stack
      · rfl

end BlockEvent

open BlockEvent

/-! ## From the grammar to the stack -/

theorem follow_branches {branches : List (List BlockEvent)} {stack : List Keyword}
    (inner : ∀ branch ∈ branches, follow (.ifBlock :: stack) branch = some (.ifBlock :: stack)) :
    follow (.ifBlock :: stack) (branches.flatMap (.alternative :: ·)) = some (.ifBlock :: stack) := by
  induction branches with
  | nil => rfl
  | cons branch branches inductionHypothesis =>
    have first := inner branch (List.mem_cons_self ..)
    have later := inductionHypothesis fun branch member => inner branch (List.mem_cons_of_mem _ member)
    simp [follow, follow_append, first, later]

theorem Balanced.follow_eq {events : List BlockEvent} (balanced : Balanced events) (stack : List Keyword) :
    follow stack events = some stack := by
  induction balanced generalizing stack with
  | empty => rfl
  | block _ _ _ before body => simp [follow_append, before, body, follow]
  | condition _ _ _ before body branches =>
    have alternatives := follow_branches fun branch member => branches branch member (.ifBlock :: stack)
    rw [List.append_assoc, List.append_assoc, follow_append, before]
    simp [follow, follow_append, body, alternatives]

/-! ## From the stack to the grammar -/

theorem Balanced.append {events more : List BlockEvent} (first : Balanced events) (second : Balanced more) :
    Balanced (events ++ more) := by
  induction second with
  | empty => simpa using first
  | block notIf _ body before =>
    have whole := Balanced.block notIf before body
    simpa using whole
  | condition _ body branches before =>
    have whole := Balanced.condition before body branches
    simpa using whole

/-- The events lead into the blocks on the stack: they are well nested but for those blocks, which are not closed. -/
inductive Unfinished : List Keyword → List BlockEvent → Prop where
  | outside {events : List BlockEvent} : Balanced events → Unfinished [] events
  | inBlock {k : Keyword} {stack : List Keyword} {before body : List BlockEvent} : k ≠ .ifBlock →
      Unfinished stack before → Balanced body → Unfinished (k :: stack) (before ++ .opens k :: body)
  | inCondition {stack : List Keyword} {before body : List BlockEvent} {branches : List (List BlockEvent)} :
      Unfinished stack before → Balanced body → (∀ branch ∈ branches, Balanced branch) →
      Unfinished (.ifBlock :: stack) (before ++ .opens .ifBlock :: body ++ branches.flatMap (.alternative :: ·))

namespace Unfinished

variable {k : Keyword} {stack : List Keyword} {events more : List BlockEvent}

theorem append (unfinished : Unfinished stack events) (balanced : Balanced more) :
    Unfinished stack (events ++ more) := by
  cases unfinished with
  | outside first => exact .outside (first.append balanced)
  | inBlock notIf before body =>
    rw [List.append_assoc, List.cons_append]
    exact .inBlock notIf before (body.append balanced)
  | @inCondition stack before body branches outer inner all =>
    -- What follows belongs to the last branch, or to the body if there is none.
    cases List.eq_nil_or_concat branches with
    | inl none =>
      subst none
      have whole := @inCondition stack before (body ++ more) [] outer (inner.append balanced) (by simp)
      simpa using whole
    | inr some =>
      obtain ⟨earlier, last, rfl⟩ := some
      have whole := @inCondition stack before body (earlier ++ [last ++ more]) outer inner (by
        intro branch member
        simp only [List.mem_append, List.mem_singleton] at member
        cases member with
        | inl isEarlier => exact all branch (by simp [isEarlier])
        | inr isLast => exact isLast ▸ (all last (by simp)).append balanced)
      simpa using whole

theorem opens (unfinished : Unfinished stack events) (k : Keyword) :
    Unfinished (k :: stack) (events ++ [.opens k]) := by
  by_cases isIf : k = .ifBlock
  · subst isIf
    have whole := @inCondition stack events [] [] unfinished .empty (by simp)
    simpa using whole
  · exact .inBlock isIf unfinished .empty

theorem closes (unfinished : Unfinished (k :: stack) events) : Unfinished stack (events ++ [.closes k]) := by
  cases unfinished with
  | inBlock notIf before body =>
    have closed := before.append (.block notIf .empty body)
    simpa using closed
  | inCondition before body branches =>
    have closed := before.append (.condition .empty body branches)
    simpa using closed

theorem alternative (unfinished : Unfinished (.ifBlock :: stack) events) :
    Unfinished (.ifBlock :: stack) (events ++ [.alternative]) := by
  cases unfinished with
  | inBlock notIf => exact absurd rfl notIf
  | @inCondition stack before body branches outer inner all =>
    have whole := @inCondition stack before body (branches ++ [[]]) outer inner (by
      intro branch member
      simp only [List.mem_append, List.mem_singleton] at member
      cases member with
      | inl old => exact all branch old
      | inr new => exact new ▸ .empty)
    simpa using whole

theorem balanced_of_follow (unfinished : Unfinished stack events) (done : follow stack more = some []) :
    Balanced (events ++ more) := by
  induction more generalizing stack events with
  | nil =>
    cases done
    cases unfinished with
    | outside balanced => simpa using balanced
  | cons event more inductionHypothesis =>
    rw [← List.singleton_append, ← List.append_assoc]
    cases event with
    | opens k => exact inductionHypothesis (unfinished.opens k) done
    | closes k =>
      simp only [follow] at done
      split at done
      · next fits =>
        obtain ⟨rest, rfl⟩ := List.head?_eq_some_iff.mp fits
        exact inductionHypothesis unfinished.closes done
      · cases done
    | alternative =>
      simp only [follow] at done
      split at done
      · next fits =>
        obtain ⟨rest, rfl⟩ := List.head?_eq_some_iff.mp fits
        exact inductionHypothesis unfinished.alternative done
      · cases done

end Unfinished

theorem balanced_iff_follow {events : List BlockEvent} : Balanced events ↔ follow [] events = some [] :=
  ⟨fun balanced => balanced.follow_eq [], fun done => Unfinished.balanced_of_follow (.outside .empty) done⟩

end ChartConfig
