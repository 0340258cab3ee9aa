import ChartConfig.Proofs.Validation.Outcome
import ChartConfig.Proofs.Validation.Reading

/-!
# Where findings are

What is found on a line is reported on that line, but for three things that are kept and reported later:
uses of aliases, collections of loops and open blocks. What is kept was found on a line that is no header.
-/

namespace ChartConfig

open Text

/-! ## Findings on a line -/

def Finding.On (number : Nat) : Finding → Prop
  | .problem d => d.range.start.line = number
  | .note _ => True

def Finding.AllOn (number : Nat) (found : List Finding) : Prop :=
  ∀ f ∈ found, f.On number

namespace Finding

variable {number : Nat} {range : Range} {message : String}

@[simp] theorem on_error : (Finding.error range message).On number ↔ range.start.line = number :=
  Iff.rfl

@[simp] theorem on_warning : (Finding.warning range message).On number ↔ range.start.line = number :=
  Iff.rfl

@[simp] theorem on_problem {d : Diagnostic} : (Finding.problem d).On number ↔ d.range.start.line = number :=
  Iff.rfl

@[simp] theorem line_range (p : Piece) : (p.range number).start.line = number :=
  rfl

@[simp] theorem allOn_nil : AllOn number [] := by
  simp [AllOn]

@[simp] theorem allOn_cons {f : Finding} {found : List Finding} :
    AllOn number (f :: found) ↔ f.On number ∧ AllOn number found := by
  simp [AllOn]

@[simp] theorem allOn_append {found more : List Finding} :
    AllOn number (found ++ more) ↔ AllOn number found ∧ AllOn number more := by
  simp only [AllOn, List.mem_append]
  exact ⟨fun h => ⟨fun f m => h f (.inl m), fun f m => h f (.inr m)⟩,
    fun h f m => m.elim (h.1 f) (h.2 f)⟩

@[simp] theorem on_note {n : Note} : (Finding.note n).On number := trivial

end Finding

open Finding

/-! ## What is kept for later -/

/-- The ranges that a state keeps for later reports. -/
def State.kept (s : State) : List Range :=
  s.aliases.uses.map Mention.range ++ s.names.pending.map Mention.range ++
    s.blocks.map KeywordAt.range

/-- All that `after` keeps was kept before or stands on the given line. -/
def State.KeepsOn (number : Nat) (s after : State) : Prop :=
  ∀ range ∈ after.kept, range ∈ s.kept ∨ range.start.line = number

theorem State.mem_kept {s : State} {range : Range} :
    range ∈ s.kept ↔ (∃ m ∈ s.aliases.uses, m.range = range) ∨ (∃ m ∈ s.names.pending, m.range = range) ∨
      ∃ b ∈ s.blocks, b.range = range := by
  simp [State.kept]

/-! ## Names -/

namespace Names

variable (n : Names) (number : Nat)

theorem pending_add (name : String) (kind : NameKind) : (n.add name kind).pending = n.pending := by
  cases kind <;> rfl

theorem declare_on (kind : NameKind) (piece : Piece) :
    (n.declare kind number piece).1.pending = n.pending ∧ AllOn number (n.declare kind number piece).2 := by
  unfold declare
  split
  · exact ⟨pending_add n _ _, allOn_nil⟩
  · exact ⟨rfl, by simp⟩

theorem declare?_on (kind : NameKind) (piece : Option Piece) :
    (n.declare? kind number piece).1.pending = n.pending ∧
      AllOn number (n.declare? kind number piece).2 := by
  cases piece with
  | none => exact ⟨rfl, allOn_nil⟩
  | some piece => exact declare_on n number kind piece

theorem useCollection_on (sign : Piece) (collection : Option Piece) :
    (∀ m ∈ (n.useCollection number sign collection).1.pending,
        m ∈ n.pending ∨ m.range.start.line = number) ∧
      AllOn number (n.useCollection number sign collection).2 := by
  cases collection with
  | none => exact ⟨fun m member => .inl member, by simp [useCollection]⟩
  | some piece =>
    simp only [useCollection]
    split
    · exact ⟨fun m member => .inl member, allOn_nil⟩
    · refine ⟨fun m member => ?_, by simp⟩
      rcases List.mem_append.mp member with old | new
      · exact .inl old
      · simp only [List.mem_singleton] at new
        exact .inr (new ▸ rfl)

theorem openLoop_on (line : List Char) :
    (∀ m ∈ (n.openLoop number line).1.pending, m ∈ n.pending ∨ m.range.start.line = number) ∧
      AllOn number (n.openLoop number line).2 := by
  unfold openLoop
  split
  · exact ⟨fun m member => .inl member, allOn_nil⟩
  · next item sign _ =>
    obtain ⟨kept, firstOn⟩ := useCollection_on n number sign (Line.loopCollection? line)
    obtain ⟨same, secondOn⟩ :=
      declare_on (n.useCollection number sign (Line.loopCollection? line)).1 number .loop item
    refine ⟨fun m member => kept m ?_, allOn_append.mpr ⟨firstOn, secondOn⟩⟩
    rw [← same]
    exact member

theorem declareTemplate_on {measure : Measure} (d : TemplateDeclaration) :
    (n.declareTemplate measure number d).1.pending = n.pending ∧
      AllOn number (n.declareTemplate measure number d).2 := by
  obtain ⟨same, found⟩ := declare_on n number .template d.name
  refine ⟨same, allOn_append.mpr ⟨?_, found⟩⟩
  split
  · split
    · exact allOn_nil
    · simp
  · exact allOn_nil

end Names

/-! ## Aliases and blocks -/

namespace Aliases

variable (a : Aliases) (number : Nat) (line : List Char)

theorem declare_on : (a.declare number line).1.uses = a.uses ∧ AllOn number (a.declare number line).2 := by
  unfold declare
  split
  · exact ⟨rfl, allOn_nil⟩
  · split
    · exact ⟨rfl, by simp⟩
    · exact ⟨rfl, allOn_nil⟩

theorem mem_use {m : Mention} (member : m ∈ (a.use number line).uses) :
    m ∈ a.uses ∨ m.range.start.line = number := by
  rcases List.mem_append.mp member with old | new
  · exact .inl old
  · obtain ⟨p, -, rfl⟩ := List.mem_map.mp new
    exact .inr rfl

end Aliases

namespace Blocks

variable (blocks : Blocks) {found : KeywordAt} {number : Nat}

theorem isIn_iff {keyword : Keyword} : blocks.isIn keyword = true ↔ ∃ b ∈ blocks, b.keyword = keyword := by
  simp [isIn]

theorem eraseP_of_not_isIn {keyword : Keyword} (h : blocks.isIn keyword = false) :
    blocks.eraseP (·.keyword == keyword) = blocks := by
  apply List.eraseP_of_forall_not
  intro b member
  simp only [isIn, List.any_eq_false] at h
  exact h b member

theorem close_eq {opener : Keyword} (closes : found.keyword.closes = some opener)
    (place : found.range.start.line = number) :
    ∃ problems, blocks.close found = .ok (blocks.without opener, problems) ∧ AllOn number problems := by
  simp only [close, closes, without]
  cases inner : blocks.innermost? with
  | none =>
    have empty : blocks = [] := by simpa [innermost?] using inner
    exact ⟨[.error found.range (noOpener found.keyword opener)], by simp [empty], by simp [place]⟩
  | some kind =>
    by_cases fits : kind = opener
    · exact ⟨_, by simp [fits], allOn_nil⟩
    · cases present : blocks.isIn opener with
      | true => exact ⟨[.error found.range (closedEarly opener kind)], by simp [fits], by simp [place]⟩
      | false =>
        exact ⟨[.error found.range (noOpener found.keyword opener)],
          by simp [fits, eraseP_of_not_isIn blocks present], by simp [place]⟩

theorem alternative_on (place : found.range.start.line = number) :
    AllOn number (blocks.alternative found) := by
  unfold alternative
  split
  · simp [place]
  · split
    · split
      · exact allOn_nil
      · simp [place]
    · exact allOn_nil

end Blocks

end ChartConfig
