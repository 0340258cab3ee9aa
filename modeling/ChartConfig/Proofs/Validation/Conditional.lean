import Mathlib.Data.List.TakeWhile
import ChartConfig.Proofs.Validation.Required

/-!
# Sections inside conditions

A section that begins inside a condition declares its settings in the branch in force, as if it had opened
the branch itself. Its slots count as filled only if as many `if` as `else` branches declare settings, so a
section that stands whole in one branch owes settings that it has.
-/

namespace ChartConfig

open Text

def Keyword.isConditional (k : Keyword) : Bool :=
  k.startsBranch || k == .endIf

namespace Reading

def isHeader (x : Reading) : Bool :=
  (Line.header? x.line x.number).isSome

def isConditional (x : Reading) : Bool :=
  (Line.keyword? x.line).any Keyword.isConditional

def body (after : List Reading) : List Reading :=
  after.takeWhile (!·.isHeader)

/-- The lines of the section before the first that begins or ends a branch. -/
def lead (after : List Reading) : List Reading :=
  (body after).takeWhile (!·.isConditional)

def passage (r : Registry) (h : Header) (after : List Reading) : Passage :=
  ⟨h, (body after).filterMap (event? r)⟩

/-- The assignments of the section before the first line that begins or ends a branch. -/
def leadEntries (r : Registry) (h : Header) (after : List Reading) : List Entry :=
  (Passage.mk h ((lead after).filterMap (event? r))).entries

end Reading

theorem Reading.mem_entries_of_mem_lead {r : Registry} {h : Header} {after : List Reading} {e : Entry}
    (member : e ∈ leadEntries r h after) : e ∈ (passage r h after).entries := by
  have leading : lead after <+: body after := List.takeWhile_prefix _
  have sameName : (Passage.mk h ((lead after).filterMap (event? r))).holdsTags = (passage r h after).holdsTags := rfl
  rw [leadEntries, Passage.entries, sameName] at member
  rw [Passage.entries]
  split at member
  · cases member
  · next plain =>
    rw [if_neg plain]
    exact ((leading.filterMap _).filterMap _).subset member

/-! ## The branch in force -/

theorem Keyword.closes_if {k : Keyword} (closes : k.closes = some .ifBlock) : k = .endIf := by
  cases k <;> simp [Keyword.closes] at closes ⊢

theorem Blocks.isIn_if_without {blocks : Blocks} {opener : Keyword} (other : opener ≠ .ifBlock)
    (conditional : blocks.isIn .ifBlock = true) : (blocks.without opener).isIn .ifBlock = true := by
  obtain ⟨b, member, isIf⟩ := (isIn_iff blocks).mp conditional
  refine (isIn_iff _).mpr ⟨b, ?_, isIf⟩
  unfold without
  split
  · next innermost =>
    obtain ⟨last, isLast, named⟩ := Option.map_eq_some_iff.mp innermost
    obtain ⟨outer, rfl⟩ := List.getLast?_eq_some_iff.mp isLast
    rw [List.mem_append, List.mem_singleton] at member
    rcases member with inside | rfl
    · simpa using inside
    · exact absurd (named.symm.trans isIf) other
  · exact (List.mem_eraseP_of_neg (by simpa [isIf] using Ne.symm other)).mpr member

namespace Control

variable {c : Control} {number : Nat} {line : List Char} {following : List (List Char)}

theorem onKeyword_branch? {found : KeywordAt} (other : found.keyword.isConditional = false) :
    (c.onKeyword line following found).branch? = c.branch? := by
  obtain ⟨stays, notEnd⟩ := Bool.or_eq_false_iff.mp other
  have notIf : found.keyword ≠ .ifBlock := by
    intro isIf
    simp [isIf, Keyword.startsBranch] at stays
  have stillOpen : (c.blocks.afterKeyword line following found).isIn .ifBlock = c.blocks.isIn .ifBlock := by
    rw [Bool.eq_iff_iff]
    refine ⟨fun conditional => Blocks.isIn_of_afterKeyword conditional notIf, fun conditional => ?_⟩
    unfold Blocks.afterKeyword
    split
    · next opener closes =>
      apply Blocks.isIn_if_without _ conditional
      rintro rfl
      simp [Keyword.closes_if closes] at notEnd
    · split
      · obtain ⟨b, member, isIf⟩ := (Blocks.isIn_iff _).mp conditional
        exact (Blocks.isIn_iff _).mpr ⟨b, List.mem_append_left _ member, isIf⟩
      · exact conditional
  simp [branch?, onKeyword, stillOpen, stays]

theorem next_branch? (other : (Line.keyword? line).any Keyword.isConditional = false) :
    (c.next number line following).branch? = c.branch? := by
  unfold next
  split
  · split
    · next found isKeyword =>
      apply onKeyword_branch?
      simpa [Line.keyword?_eq isKeyword] using other
    · rfl
  · rfl

theorem branch?_of_mem_takeWhile {lines : List (List Char)} {quiet : Reading → Bool} {y : Reading}
    (unconditional : ∀ y, quiet y = true → y.isConditional = false)
    (member : y ∈ (c.readings number lines).takeWhile quiet) : y.control.branch? = c.branch? := by
  induction lines generalizing c number with
  | nil => cases member
  | cons line following inductionHypothesis =>
    simp only [readings] at member
    split at member
    · rw [List.takeWhile_cons] at member
      split at member
      · next isQuiet =>
        rcases List.mem_cons.mp member with rfl | later
        · rfl
        · have stays := unconditional _ isQuiet
          exact (inductionHypothesis later).trans (next_branch? stays)
      · cases member
    · next unread =>
      have unchanged : c.next number line following = c := by simp [next, unread]
      rw [unchanged] at member
      exact inductionHypothesis member

theorem readings_after {motive : Control → Nat → List (List Char) → Prop} {lines : List (List Char)}
    {before after : List Reading} {x : Reading} (split : c.readings number lines = before ++ x :: after)
    (start : motive c number lines)
    (handedOn : ∀ c number line following, motive c number (line :: following) →
      motive (c.next number line following) (number + 1) following) :
    ∃ later following, after = (x.control.next x.number x.line following).readings later following ∧
      motive (x.control.next x.number x.line following) later following := by
  induction lines generalizing c number before with
  | nil => simp [readings] at split
  | cons line following inductionHypothesis =>
    have next := handedOn c number line following start
    simp only [readings] at split
    split at split
    · cases before with
      | nil =>
        obtain ⟨rfl, rfl⟩ := List.cons.inj split
        exact ⟨number + 1, following, rfl, next⟩
      | cons first before => exact inductionHypothesis (List.cons.inj split).2 next
    · exact inductionHypothesis split next

theorem armed_of_mem_readings {lines : List (List Char)} {x : Reading} (armed : c.Armed)
    (member : x ∈ c.readings number lines) : x.control.Armed := by
  induction lines generalizing c number with
  | nil => cases member
  | cons line following inductionHypothesis =>
    simp only [readings] at member
    split at member
    · rcases List.mem_cons.mp member with rfl | later
      · exact armed
      · exact inductionHypothesis (next_armed armed) later
    · exact inductionHypothesis (next_armed armed) member

end Control

/-- A section that begins inside a condition declares its first settings in the branch in force. -/
theorem Document.branch_of_leadEntries {r : Registry} {text : String} {before after : List Reading} {x : Reading}
    {h : Header} (split : Document.readings text = before ++ x :: after)
    (headed : Line.header? x.line x.number = some h) {e : Entry} (member : e ∈ Reading.leadEntries r h after) :
    e.branch = x.control.branch? := by
  obtain ⟨later, following, rfl, -⟩ :=
    Control.readings_after (motive := fun _ _ _ => True) split trivial (fun _ _ _ _ _ => trivial)
  have noKeyword : Line.keywordAt? x.line x.number = none := Line.keywordAt?_of_header (by simp [headed])
  have unchanged : x.control.next x.number x.line following = x.control := by
    simp [Control.next, noKeyword]
  unfold Reading.leadEntries Passage.entries at member
  split at member
  · cases member
  · rw [List.filterMap_filterMap] at member
    obtain ⟨y, isLead, said⟩ := List.mem_filterMap.mp member
    obtain ⟨event, isEvent, isEntry⟩ := Option.bind_eq_some_iff.mp said
    rw [Reading.lead, Reading.body, List.takeWhile_takeWhile, unchanged] at isLead
    rw [← Control.branch?_of_mem_takeWhile (by simp +contextual) isLead]
    cases event with
    | header h | blank => cases isEntry
    | entry other =>
      cases isEntry
      exact (Reading.event?_entry isEvent).1

/-! ## The passage of a line -/

namespace Event

theorem takeWhile_append_header (es more : List Event) (h : Header) :
    (es ++ .header h :: more).takeWhile isInner = es.takeWhile isInner := by
  induction es with
  | nil => rfl
  | cons e es inductionHypothesis =>
    rw [List.cons_append, List.takeWhile_cons, List.takeWhile_cons, inductionHypothesis]

theorem passages_append_header (es more : List Event) (h : Header) :
    passages (es ++ .header h :: more) = passages es ++ ⟨h, more.takeWhile isInner⟩ :: passages more := by
  induction es with
  | nil => rfl
  | cons e es inductionHypothesis =>
    cases e with
    | header k => simp [passages, inductionHypothesis, takeWhile_append_header]
    | blank | entry _ => simpa [passages] using inductionHypothesis

end Event

theorem Reading.isInner_event? {r : Registry} {x : Reading} {e : Event} (said : x.event? r = some e) :
    e.isInner = !x.isHeader := by
  unfold event? at said
  unfold isHeader
  split at said
  · next h headed =>
    cases said
    simp [headed, Event.isInner]
  · next unheaded =>
    rw [unheaded]
    split at said
    · cases said
      rfl
    · obtain ⟨a, -, rfl⟩ := Option.map_eq_some_iff.mp said
      rfl

theorem Reading.takeWhile_events (r : Registry) (after : List Reading) :
    (after.filterMap (event? r)).takeWhile Event.isInner = (body after).filterMap (event? r) := by
  induction after with
  | nil => rfl
  | cons y after inductionHypothesis =>
    rw [body, List.takeWhile_cons, List.filterMap_cons]
    cases said : y.event? r with
    | none =>
      have unheaded : y.isHeader = false := by
        unfold event? at said
        unfold isHeader
        split at said
        · cases said
        · next unheaded => rw [unheaded]; rfl
      simpa [unheaded, said, body] using inductionHypothesis
    | some e =>
      have inner := isInner_event? said
      cases headed : y.isHeader with
      | true => simp [inner, headed]
      | false => simpa [inner, headed, said, body] using inductionHypothesis

namespace Document

variable {r : Registry} {text : String} {before after : List Reading} {x : Reading} {h : Header}

def ledgerAfter (r : Registry) (lines : List Reading) : Ledger :=
  (({} : Ledger).readAll r (lines.filterMap (Reading.event? r))).1

theorem afterPassages_eq (l : Ledger) (ps : List Passage) :
    l.afterPassages r ps = (l.readAll r (ps.flatMap Passage.events)).1 := by
  induction ps generalizing l with
  | nil => rfl
  | cons p ps inductionHypothesis =>
    rw [List.flatMap_cons, Ledger.readAll_append, ← inductionHypothesis]
    rfl

theorem passages_of_events {es more : List Event} (events : Document.events r text = es ++ .header h :: more) :
    Document.passages r text = Event.passages es ++ ⟨h, more.takeWhile Event.isInner⟩ :: Event.passages more ∧
      Document.preambleLedger r text = (({} : Ledger).readAll r (Event.preamble es)).1 ∧
      (Document.preambleLedger r text).afterPassages r (Event.passages es) = (({} : Ledger).readAll r es).1 := by
  have preamble : Event.preamble (Document.events r text) = Event.preamble es := by
    rw [Event.preamble, events, Event.takeWhile_append_header, Event.preamble]
  refine ⟨?_, ?_, ?_⟩
  · rw [Document.passages, events, Event.passages_append_header]
  · rw [Document.preambleLedger, preamble]
  · rw [afterPassages_eq, Document.preambleLedger, preamble]
    have whole := congrArg (fun es => (({} : Ledger).readAll r es).1) (Event.preamble_append_passages es)
    simpa only [Ledger.readAll_append] using whole

theorem passages_of_readings (split : Document.readings text = before ++ x :: after)
    (headed : Line.header? x.line x.number = some h) :
    ∃ earlier later, Document.passages r text = earlier ++ Reading.passage r h after :: later ∧
      (Document.preambleLedger r text).afterPassages r earlier = ledgerAfter r before := by
  have event : x.event? r = some (.header h) := by simp [Reading.event?, headed]
  have events : Document.events r text =
      before.filterMap (Reading.event? r) ++ .header h :: after.filterMap (Reading.event? r) := by
    change (Document.readings text).filterMap (Reading.event? r) = _
    rw [split, List.filterMap_append, List.filterMap_cons, event]
  obtain ⟨passages, -, ledger⟩ := passages_of_events events
  rw [Reading.takeWhile_events] at passages
  exact ⟨_, _, passages, ledger⟩

end Document

/-! ## What the branches of a section fill -/

/-- The branches in which assignments declare settings, in the order of first use. -/
def Entry.branches (es : List Entry) : List Branch :=
  (es.filterMap Entry.keptIn?).eraseDups

/-- As many of the branches are `if` as are `else`. -/
def Branch.balanced (bs : List Branch) : Bool :=
  bs.countP (·.keyword == .ifBlock) == bs.countP (·.keyword == .elseBlock)

namespace Passage

def suppliesIn (p : Passage) (b : Branch) (slot : Slot) : Bool :=
  p.entries.any fun e => e.branch == some b && e.supplies slot

/-- The slot is waived, or a section that may enclose this one has left a setting of it. -/
def spared (r : Registry) (l : Ledger) (p : Passage) (slot : Slot) : Bool :=
  ((p.ended r l).waived && slot.head? == some "metric") ||
    (r.ancestors p.header.name).any fun name =>
      Scope.fills ((tableValue? (p.ended r l).scope.inherited name).getD []) slot

/-- Nothing fills the slot: it is not spared, no setting of it is declared outside conditions, and it is not so
    that every branch declares one and the branches are balanced. -/
def unfilled (r : Registry) (l : Ledger) (p : Passage) (slot : Slot) : Bool :=
  !p.spared r l slot && !p.supplies slot &&
    !(!(Entry.branches p.entries).isEmpty && (Entry.branches p.entries).all (p.suppliesIn · slot) &&
      Branch.balanced (Entry.branches p.entries))

end Passage

theorem Scope.Holds.branchesFill {r : Registry} {es : List Entry} {s : Scope} (held : s.Holds r es) (slot : Slot) :
    s.branchesFill slot =
      (!(Entry.branches es).isEmpty &&
        (Entry.branches es).all (fun b => es.any fun e => e.branch == some b && e.supplies slot) &&
        Branch.balanced (Entry.branches es)) := by
  have filled : s.branches.all (fun b => Scope.fills b.2 slot) =
      s.branches.all fun b => es.any fun e => e.branch == some b.1 && e.supplies slot := by
    rw [Bool.eq_iff_iff, List.all_eq_true, List.all_eq_true]
    exact forall₂_congr fun b member => by rw [held.branchFills b member]
  rw [Entry.branches, ← held.branches, Scope.branchesFill, filled, Branch.balanced, List.isEmpty_map,
    List.all_map, List.countP_map, List.countP_map]
  rfl

namespace Passage

variable {r : Registry} {l : Ledger} {p : Passage} {slot : Slot} {b : Branch}

theorem satisfies_ended (inner : ∀ e ∈ p.body, e.isInner = true) :
    (!(p.ended r l).scope.satisfies (p.ended r l).waived (r.ancestors p.header.name) slot) =
      p.unfilled r l slot := by
  obtain ⟨holds, -⟩ := @ended_holds r l p inner
  have own : Scope.fills (p.ended r l).scope.settings slot = p.supplies slot := holds.fills slot
  rw [Scope.satisfies, own, holds.branchesFill, unfilled, spared]
  simp only [Bool.not_or, suppliesIn]
  cases (p.ended r l).waived && slot.head? == some "metric" <;> cases p.supplies slot <;> simp

theorem mem_branches (supplied : p.suppliesIn b slot = true) : b ∈ Entry.branches p.entries := by
  obtain ⟨e, member, said⟩ := List.any_eq_true.mp supplied
  obtain ⟨under, supplies⟩ := Bool.and_eq_true_iff.mp said
  obtain ⟨kept, isKept, -⟩ := Option.any_eq_true _ _ |>.mp supplies
  rw [Entry.branches, List.mem_eraseDups, List.mem_filterMap]
  exact ⟨e, member, by simpa [Entry.keptIn?, isKept] using under⟩

/-- A section that supplies the slot in one branch owes it all the same if the branches are unbalanced or
    another branch lacks it. -/
theorem unfilled_iff (supplied : p.suppliesIn b slot = true) :
    p.unfilled r l slot = true ↔
      p.spared r l slot = false ∧ p.supplies slot = false ∧
        (Branch.balanced (Entry.branches p.entries) = false ∨
          ∃ other ∈ Entry.branches p.entries, other ≠ b ∧ p.suppliesIn other slot = false) := by
  have nonempty : (Entry.branches p.entries).isEmpty = false :=
    List.isEmpty_eq_false_iff.mpr (List.ne_nil_of_mem (mem_branches supplied))
  have lacking : (Entry.branches p.entries).all (p.suppliesIn · slot) = false ↔
      ∃ other ∈ Entry.branches p.entries, other ≠ b ∧ p.suppliesIn other slot = false := by
    rw [List.all_eq_false]
    constructor
    · rintro ⟨other, member, lacks⟩
      refine ⟨other, member, ?_, by simpa using lacks⟩
      rintro rfl
      exact lacks supplied
    · rintro ⟨other, member, -, lacks⟩
      exact ⟨other, member, by simp [lacks]⟩
  rw [unfilled, ← lacking]
  simp only [nonempty, Bool.not_false, Bool.true_and, Bool.and_eq_true, Bool.not_eq_true', Bool.and_eq_false_iff,
    and_assoc]
  rw [or_comm]

/-- A section whose assignments all stand in one branch owes what it supplies there, unless the branch is an
    `elseif`. -/
theorem unfilled_iff_of_single (supplied : p.suppliesIn b slot = true)
    (single : ∀ e ∈ p.entries, e.branch = some b) :
    p.unfilled r l slot = true ↔
      p.spared r l slot = false ∧ (b.keyword = .ifBlock ∨ b.keyword = .elseBlock) := by
  have used := mem_branches supplied
  -- With one branch in all, the counts of `if` and `else` differ unless it is neither.
  have only : Entry.branches p.entries = [b] := by
    have all : ∀ other ∈ p.entries.filterMap Entry.keptIn?, other = b := by
      intro other member
      obtain ⟨e, isThere, kept⟩ := List.mem_filterMap.mp member
      obtain ⟨setting, -, under⟩ := Option.bind_eq_some_iff.mp kept
      exact Option.some.inj (under.symm.trans (single e isThere))
    rw [Entry.branches, List.mem_eraseDups] at used
    rw [Entry.branches]
    cases kept : p.entries.filterMap Entry.keptIn? with
    | nil => simp [kept] at used
    | cons first others =>
      rw [kept] at all
      have noOther : others.filter (fun other => !other == b) = [] := by
        rw [List.filter_eq_nil_iff]
        intro other member
        simp [all other (List.mem_cons_of_mem _ member)]
      rw [all first (List.mem_cons_self ..), List.eraseDups_cons, noOther, List.eraseDups_nil]
  have noneOutside : p.supplies slot = false := by
    rw [supplies, List.any_eq_false]
    intro e member
    simp [single e member]
  have balanced : Branch.balanced [b] = false ↔ b.keyword = .ifBlock ∨ b.keyword = .elseBlock := by
    obtain ⟨line, keyword⟩ := b
    cases keyword <;> simp [Branch.balanced]
  rw [unfilled_iff supplied, noneOutside, only, balanced]
  simp

end Passage

theorem Document.inner_of_passages {r : Registry} {text : String} {before after : List Passage} {p : Passage}
    (split : Document.passages r text = before ++ p :: after) : ∀ e ∈ p.body, e.isInner = true := by
  have isPassage : p ∈ Document.passages r text := by simp [split]
  exact fun e member => Event.inner_of_mem_body isPassage member

theorem validate_unfilled (r : Registry) (text : String) :
    ∃ found, validate text r = .ok found ∧
      ∀ before p after, Document.passages r text = before ++ p :: after →
        Diagnostic.demandsAt p.header.range found = r.demandsFor p.header.range
          ((p.slots r).filter (p.unfilled r ((Document.preambleLedger r text).afterPassages r before))) := by
  obtain ⟨found, ran, demands⟩ := validate_demandsAt r text
  refine ⟨found, ran, ?_⟩
  intro before p after split
  have inner := Document.inner_of_passages split
  obtain ⟨holds, -⟩ := @Passage.ended_holds r ((Document.preambleLedger r text).afterPassages r before) p inner
  have exactly := demands before p after split
  simp only [Passage.satisfies_ended inner, holds.extraSlots] at exactly
  exact exactly

/-! ## The demands on a section inside a condition -/

/-- Take a section that begins inside a condition and, before the first line that begins or ends a branch,
    declares a setting of each of its slots. Its slots are still asked for, unless they are spared, declared
    outside conditions as well, or declared in every branch of a balanced set of branches. If no line of the
    section begins or ends a branch, they are all asked for but those spared, save in an `elseif`. -/
theorem conditional_section_demands (r : Registry) (text : String) :
    ∃ found, validate text r = .ok found ∧
      ∀ before x after h, Document.readings text = before ++ x :: after →
        Line.header? x.line x.number = some h → x.control.blocks.isIn .ifBlock = true →
        (∀ slot ∈ r.slotsOf h.name, (Reading.leadEntries r h after).any (·.supplies slot) = true) →
        ∃ b, x.control.condition = some b ∧
          let p := Reading.passage r h after
          let l := Document.ledgerAfter r before
          Diagnostic.demandsAt h.range found =
              r.demandsFor h.range ((r.slotsOf h.name).filter (p.unfilled r l)) ++
                r.demandsFor h.range
                  ((p.entries.filterMap (Entry.counterpart? r)).eraseDups.filter (p.unfilled r l)) ∧
            (∀ slot ∈ r.slotsOf h.name, p.unfilled r l slot = true ↔
              p.spared r l slot = false ∧ p.supplies slot = false ∧
                (Branch.balanced (Entry.branches p.entries) = false ∨
                  ∃ other ∈ Entry.branches p.entries, other ≠ b ∧ p.suppliesIn other slot = false)) ∧
            ((∀ y ∈ Reading.body after, y.isConditional = false) →
              ∀ slot ∈ r.slotsOf h.name, p.unfilled r l slot = true ↔
                p.spared r l slot = false ∧ (b.keyword = .ifBlock ∨ b.keyword = .elseBlock)) := by
  obtain ⟨found, ran, demands⟩ := validate_demandsAt r text
  refine ⟨found, ran, ?_⟩
  intro before x after h split headed conditional supplied
  obtain ⟨earlier, later, passages, ledger⟩ := @Document.passages_of_readings r text before after x h split headed
  have isRead : x ∈ Document.readings text := by simp [split]
  have inner : ∀ e ∈ (Reading.passage r h after).body, e.isInner = true := by
    intro e member
    have isPassage : Reading.passage r h after ∈ Document.passages r text := by simp [passages]
    exact Event.inner_of_mem_body isPassage member
  have armed : x.control.Armed := Control.armed_of_mem_readings (by intro conditional; cases conditional) isRead
  obtain ⟨b, condition⟩ := Option.isSome_iff_exists.mp (armed conditional)
  have inForce : x.control.branch? = some b := by simp [Control.branch?, conditional, condition]
  have suppliesLead : ∀ slot ∈ r.slotsOf h.name, (Reading.passage r h after).suppliesIn b slot = true := by
    intro slot isSlot
    obtain ⟨e, member, supplies⟩ := List.any_eq_true.mp (supplied slot isSlot)
    refine List.any_eq_true.mpr ⟨e, Reading.mem_entries_of_mem_lead member, ?_⟩
    simp [Document.branch_of_leadEntries split headed member, inForce, supplies]
  obtain ⟨holds, -⟩ := @Passage.ended_holds r (Document.ledgerAfter r before) _ inner
  refine ⟨b, condition, ?_, ?_, ?_⟩
  · have exactly := demands earlier _ later passages
    simp only [ledger, Passage.satisfies_ended inner, holds.extraSlots, List.filter_append,
      Registry.demandsFor_append] at exactly
    exact exactly
  · exact fun slot isSlot => Passage.unfilled_iff (suppliesLead slot isSlot)
  · intro unconditional slot isSlot
    apply Passage.unfilled_iff_of_single (suppliesLead slot isSlot)
    intro e member
    rw [← inForce]
    apply Document.branch_of_leadEntries split headed
    have whole : Reading.lead after = Reading.body after := by
      rw [Reading.lead, List.takeWhile_eq_self_iff]
      exact fun y isThere => by simp [unconditional y isThere]
    rwa [Reading.leadEntries, whole]

/-- A widget, with its type, in the only branch of a condition. -/
def conditionText : String :=
  "if a == b\n[widget]\ntype = chart\nendif"

theorem conditional_section_demands_widget :
    ∃ before x after h, Document.readings conditionText = before ++ x :: after ∧
      Line.header? x.line x.number = some h ∧ x.control.blocks.isIn .ifBlock = true ∧
      (∀ slot ∈ chartRegistry.slotsOf h.name,
        (Reading.leadEntries chartRegistry h after).any (·.supplies slot) = true) ∧
      ∃ found, validate conditionText chartRegistry = .ok found ∧
        Diagnostic.demandsAt h.range found = [.error h.range "type is required"] := by
  have second : 1 < (Document.readings conditionText).length := by decide +kernel
  have split : Document.readings conditionText = (Document.readings conditionText).take 1 ++
      (Document.readings conditionText)[1] :: (Document.readings conditionText).drop 2 := by
    rw [← List.drop_eq_getElem_cons second, List.take_append_drop]
  have headed : Line.header? (Document.readings conditionText)[1].line
      (Document.readings conditionText)[1].number = some ⟨"widget", ⟨⟨1, 1⟩, ⟨1, 7⟩⟩⟩ := by
    clear split
    decide +kernel +revert
  have conditional : (Document.readings conditionText)[1].control.blocks.isIn .ifBlock = true := by
    clear split headed
    decide +kernel +revert
  have supplied : ∀ slot ∈ chartRegistry.slotsOf "widget", (Reading.leadEntries chartRegistry
      ⟨"widget", ⟨⟨1, 1⟩, ⟨1, 7⟩⟩⟩ ((Document.readings conditionText).drop 2)).any (·.supplies slot) = true := by
    decide +kernel
  refine ⟨_, _, _, _, split, headed, conditional, supplied, ?_⟩
  obtain ⟨found, ran, demands⟩ := conditional_section_demands chartRegistry conditionText
  obtain ⟨b, -, exactly, -⟩ := demands _ _ _ _ split headed conditional supplied
  exact ⟨found, ran, exactly.trans (by decide +kernel)⟩

end ChartConfig
