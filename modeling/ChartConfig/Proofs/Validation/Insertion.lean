import ChartConfig.Proofs.Validation.Counting
import ChartConfig.Proofs.Validation.FirstLines
import ChartConfig.Proofs.Validation.Interruption
import ChartConfig.Proofs.Validation.Renumbering

/-!
# Putting lines in

Lines that leave no block open can be put between the lines of a document where no block is open. What the lines
around them mean for the sections of the document stays the same, under other numbers below; and the lines that are put
in mean what they mean alone. Lists are no exception, although a line that is put in may be seen by one above it: that
a list is open decides neither which lines are read nor which branch of a condition is in force.
-/

namespace ChartConfig

open Text

/-! ## Controls that decide alike -/

/-- The two controls decide alike, under other numbers: they have as many blocks of each kind open, except for lists,
    and the same branch in force. -/
structure Control.Alike (ρ : Nat → Nat) (c other : Control) : Prop where
  count_eq : ∀ k, k ≠ .list → other.blocks.count k = c.blocks.count k
  branch_eq : other.branch? = c.branch?.map (Branch.renumber ρ)

def Entry.renumber (ρ : Nat → Nat) (e : Entry) : Entry :=
  { e with branch := e.branch.map (Branch.renumber ρ) }

def Event.renumber (ρ : Nat → Nat) : Event → Event
  | header h => header (h.renumber ρ)
  | blank => blank
  | entry e => entry (e.renumber ρ)

theorem Event.renumber_id : Event.renumber id = id := by
  funext e
  cases e with
  | header h | blank => rfl
  | entry e =>
    obtain ⟨name, value, setting, branch⟩ := e
    cases branch <;> rfl

namespace Control

variable {r : Registry} {ρ : Nat → Nat} {c other : Control} {number place : Nat} {line : List Char}

theorem Alike.refl (c : Control) : c.Alike id c :=
  ⟨fun _ _ => rfl, by cases c.branch? <;> rfl⟩

theorem Alike.isIn (alike : c.Alike ρ other) {k : Keyword} (noList : k ≠ .list) :
    other.blocks.isIn k = c.blocks.isIn k := by
  rw [Blocks.isIn_eq_count, Blocks.isIn_eq_count, alike.count_eq k noList]

theorem Alike.reads (alike : c.Alike ρ other) (line : List Char) : other.reads line = c.reads line := by
  simp only [Control.reads, Blocks.inBody, alike.isIn (k := .script) (by decide), alike.isIn (k := .csv) (by decide)]

def Idle (c : Control) : Prop :=
  ∀ k, k ≠ .list → c.blocks.count k = 0

theorem idle_of_closed (closed : c.blocks = []) : c.Idle := by
  intro k _
  rw [closed]
  rfl

theorem Idle.branch? (idle : c.Idle) : c.branch? = none := by
  simp [Control.branch?, Blocks.isIn_eq_count, idle .ifBlock (by decide)]

theorem Idle.alike (idle : c.Idle) (idleToo : other.Idle) : c.Alike ρ other := by
  refine ⟨fun k noList => ?_, ?_⟩
  · rw [idle k noList, idleToo k noList]
  · rw [idle.branch?, idleToo.branch?]
    rfl

theorem Alike.idle (alike : c.Alike ρ other) (idle : c.Idle) : other.Idle := by
  intro k noList
  rw [alike.count_eq k noList, idle k noList]

theorem branch?_onKeyword (c : Control) (line : List Char) (following : List (List Char)) (found : KeywordAt) :
    (c.onKeyword line following found).branch? =
      if (c.blocks.afterKeyword line following found).isIn .ifBlock then
        if found.keyword.startsBranch then some (Branch.ofKeyword found) else c.condition
      else none :=
  rfl

theorem Alike.onKeyword (alike : c.Alike ρ other) (found : KeywordAt) (following others : List (List Char)) :
    (c.onKeyword line following found).Alike ρ (other.onKeyword line others (found.renumber ρ)) := by
  have count_eq : ∀ k, k ≠ .list → (other.blocks.afterKeyword line others (found.renumber ρ)).count k =
      (c.blocks.afterKeyword line following found).count k := by
    intro k noList
    have opens : Line.opensBlock line others k = Line.opensBlock line following k := by
      cases k with
      | list => exact absurd rfl noList
      | _ => rfl
    have sameKeyword : (found.renumber ρ).keyword = found.keyword := rfl
    simp only [Blocks.count_afterKeyword, sameKeyword, alike.count_eq k noList, opens]
  refine ⟨count_eq, ?_⟩
  have stillIn : (other.blocks.afterKeyword line others (found.renumber ρ)).isIn .ifBlock =
      (c.blocks.afterKeyword line following found).isIn .ifBlock := by
    rw [Blocks.isIn_eq_count, Blocks.isIn_eq_count, count_eq .ifBlock (by decide)]
  rw [branch?_onKeyword, branch?_onKeyword, stillIn]
  by_cases inside : (c.blocks.afterKeyword line following found).isIn .ifBlock = true
  · rw [if_pos inside, if_pos inside]
    have sameStarts : (found.renumber ρ).keyword.startsBranch = found.keyword.startsBranch := rfl
    by_cases starts : found.keyword.startsBranch = true
    · rw [sameStarts, if_pos starts, if_pos starts]
      rfl
    · rw [sameStarts, if_neg starts, if_neg starts]
      have notIf : found.keyword ≠ .ifBlock := by
        intro isIf
        simp [isIf, Keyword.startsBranch] at starts
      have before : c.blocks.isIn .ifBlock = true := Blocks.isIn_of_afterKeyword inside notIf
      have same := alike.branch_eq
      simpa only [Control.branch?, alike.isIn (k := .ifBlock) (by decide), before, if_true] using same
  · rw [if_neg inside, if_neg inside]
    rfl

theorem Alike.next (alike : c.Alike ρ other) (number : Nat) (line : List Char)
    (following others : List (List Char)) :
    (c.next number line following).Alike ρ (other.next (ρ number) line others) := by
  unfold Control.next
  rw [alike.reads, Line.keywordAt?_renumber]
  split
  · cases Line.keywordAt? line number with
    | none => exact alike
    | some found => exact alike.onKeyword found following others
  · exact alike

theorem Alike.event? (alike : c.Alike ρ other) (number : Nat) (line : List Char) :
    Reading.event? r ⟨other, ρ number, line⟩ = (Reading.event? r ⟨c, number, line⟩).map (Event.renumber ρ) := by
  simp only [Reading.event?, Line.header?_renumber, alike.branch_eq]
  cases Line.header? line number with
  | some h => rfl
  | none =>
    simp only [Option.map_none]
    split
    · rfl
    · cases Line.assignment? line <;> rfl

theorem Alike.firstReadings (alike : c.Alike ρ other) (r : Registry) (number place : Nat)
    (lines following others : List (List Char)) (moved : ∀ i < lines.length, ρ (number + i) = place + i) :
    (other.firstReadings place lines.length (lines ++ others)).filterMap (Reading.event? r) =
        ((c.firstReadings number lines.length (lines ++ following)).filterMap (Reading.event? r)).map
          (Event.renumber ρ) ∧
      (c.afterFirst number lines.length (lines ++ following)).Alike ρ
        (other.afterFirst place lines.length (lines ++ others)) := by
  induction lines generalizing c other number place with
  | nil => exact ⟨rfl, alike⟩
  | cons line lines inductionHypothesis =>
    have here : ρ number = place := moved 0 (Nat.succ_pos _)
    have onward : ∀ i < lines.length, ρ (number + 1 + i) = place + 1 + i := by
      intro i bound
      have next := moved (i + 1) (Nat.succ_lt_succ bound)
      rw [Nat.add_assoc, Nat.add_comm 1 i, next]
      omega
    obtain ⟨events, ends⟩ := inductionHypothesis
      (here ▸ alike.next number line (lines ++ following) (lines ++ others)) (number + 1) (place + 1) onward
    refine ⟨?_, ends⟩
    simp only [List.cons_append, List.length_cons, Control.firstReadings, alike.reads]
    split
    · have sameEvent := alike.event? (r := r) number line
      rw [here] at sameEvent
      rw [List.filterMap_cons, List.filterMap_cons, sameEvent]
      cases Reading.event? r ⟨c, number, line⟩ with
      | none => exact events
      | some e => simp only [Option.map_some, List.map_cons, events]
    · exact events

theorem readings_eq_firstReadings (c : Control) (number : Nat) (lines : List (List Char)) :
    c.readings number lines = c.firstReadings number lines.length (lines ++ []) := by
  have whole := @readings_append c number lines []
  simpa [readings] using whole

theorem afterLines_eq_afterFirst (c : Control) (number : Nat) (lines : List (List Char)) :
    c.afterLines number lines = c.afterFirst number lines.length (lines ++ []) := by
  rw [List.append_nil]
  induction lines generalizing c number with
  | nil => rfl
  | cons line lines inductionHypothesis => exact inductionHypothesis _ _

theorem Alike.eventsFrom (alike : c.Alike ρ other) (r : Registry) (number place : Nat) (lines : List (List Char))
    (moved : ∀ i < lines.length, ρ (number + i) = place + i) :
    other.eventsFrom r place lines = (c.eventsFrom r number lines).map (Event.renumber ρ) := by
  rw [Control.eventsFrom, Control.eventsFrom, readings_eq_firstReadings, readings_eq_firstReadings]
  exact (alike.firstReadings r number place lines [] [] moved).1

end Control

/-! ## Events with lines put in -/

/-- The number that a line has once lines have been put in at the given position. -/
def movedBelow (position count n : Nat) : Nat :=
  if n < position then n else n + count

theorem movedBelow_injective (position count : Nat) : Function.Injective (movedBelow position count) := by
  intro m n same
  unfold movedBelow at same
  split at same <;> split at same <;> omega

theorem movedBelow_ne {position count i : Nat} (bound : i < count) (n : Nat) :
    movedBelow position count n ≠ position + i := by
  unfold movedBelow
  split <;> omega

namespace Control

variable {r : Registry} {above inserted below : List (List Char)}

/-- The events of a document with lines put in: those of the lines above and below, with those that the lines put in
    have alone between them. -/
theorem events_insert (nothingOpen : (Control.afterFirst {} 0 above.length (above ++ below)).blocks = [])
    (closed : (Control.afterLines {} 0 inserted).blocks = []) :
    let es := (Control.firstReadings {} 0 above.length (above ++ below)).filterMap (Reading.event? r)
    let more := (Control.afterFirst {} 0 above.length (above ++ below)).eventsFrom r above.length below
    Control.eventsFrom {} r 0 (above ++ below) = es ++ more ∧
      (∀ e ∈ es, e.renumber (movedBelow above.length inserted.length) = e) ∧
      Control.eventsFrom {} r 0 (above ++ (inserted ++ below)) =
        es ++ ((Control.eventsFrom {} r 0 inserted).map (Event.renumber (above.length + ·)) ++
          more.map (Event.renumber (movedBelow above.length inserted.length))) := by
  obtain ⟨sameAbove, stillAlike⟩ :=
    (Alike.refl {}).firstReadings r 0 0 above below (inserted ++ below) fun _ _ => rfl
  have initial : Control.Idle {} := idle_of_closed rfl
  have opened := idle_of_closed nothingOpen
  have openedToo := stillAlike.idle opened
  obtain ⟨ofInserted, endsAlike⟩ := (initial.alike (ρ := (above.length + ·)) openedToo).firstReadings
    r 0 above.length inserted [] below fun i _ => by rw [Nat.zero_add]
  -- They leave nothing open, so the lines below are read as without them.
  rw [afterLines_eq_afterFirst] at closed
  have ofBelow := (opened.alike (ρ := movedBelow above.length inserted.length)
    (endsAlike.idle (idle_of_closed closed))).eventsFrom r above.length
    (above.length + inserted.length) below fun i _ => by
      rw [movedBelow, if_neg (by omega)]
      omega
  have numbered := ((initial.alike (ρ := movedBelow above.length inserted.length) initial).firstReadings r
    0 0 above below below fun i bound => by
      rw [Nat.zero_add, movedBelow, if_pos bound]).1
  refine ⟨?_, ?_, ?_⟩
  · rw [Control.eventsFrom, readings_append, List.filterMap_append, Nat.zero_add]
    rfl
  · intro e member
    exact (List.map_inj_left.mp ((List.map_id _).trans numbered) e member).symm
  · rw [Event.renumber_id, List.map_id] at sameAbove
    rw [Control.eventsFrom, readings_append, List.filterMap_append, Nat.zero_add, readings_append,
      List.filterMap_append, sameAbove, ofInserted, ← readings_eq_firstReadings]
    exact congrArg _ (congrArg _ ofBelow)

end Control

end ChartConfig
