import ChartConfig.Proofs.Format.Script
import ChartConfig.Proofs.Validation.Required

/-!
# Headers below headers

A header that follows the header of an ancestor goes one step deeper, if the ancestor lies above the floor of the
innermost block: if more sections are open than were when the block began. Groups and the configuration close all
sections, also those below the floor, and so a block may be left with a floor that later headers do not rise above; they
go to the first indent of the block. As long as neither begins in the block, every header in it lies above the floor.
-/

namespace ChartConfig

open Text

/-- Between two lines none is a header, and none opens or closes a block. -/
def Document.Quiet (text : String) (i j : Nat) : Prop :=
  ∀ m < j, i < m → ∀ line ∈ (Document.analysed text)[m]?, Line.headerName? line = none ∧
    Line.isClosing line = false ∧
    (Line.opensLevel line && Line.needsTerminator line ((Document.analysed text).drop (m + 1))) = false

instance (text : String) (i j : Nat) : Decidable (Document.Quiet text i j) :=
  inferInstanceAs (Decidable (∀ m < j, i < m → ∀ line ∈ (Document.analysed text)[m]?, _ ∧ _ ∧ _))

namespace Layout

variable {α : Type} {k : Ruler α} {r : Registry} {l after : Layout α} {line analysed : List Char}
  {following : List (List Char)} {name : String} {indent : α} {text : String} {i j m : Nat}

/-- More sections are open than when the innermost block began. -/
def AboveFloor (l : Layout α) : Prop :=
  ∀ b ∈ l.blocks.head?, b.depth < l.sections.length

instance (l : Layout α) : Decidable l.AboveFloor :=
  inferInstanceAs (Decidable (∀ b ∈ l.blocks.head?, _))

/-! ## Single lines -/

theorem step_of_getElem? {lines others : List (List Char)} {asked : Indent α}
    (isLine : (indentsFrom k r l lines others)[i]? = some asked) : ∃ line analysed, others[i]? = some analysed ∧
      step k r (l.afterLines k r i lines others) line analysed (others.drop (i + 1)) =
        (asked, l.afterLines k r (i + 1) lines others) := by
  induction i generalizing l lines others with
  | zero =>
    cases lines with
    | nil => cases isLine
    | cons line lines =>
      cases others with
      | nil => cases isLine
      | cons analysed following => exact ⟨line, analysed, rfl, Prod.ext (Option.some.inj isLine) rfl⟩
  | succ i inductionHypothesis =>
    cases lines with
    | nil => cases isLine
    | cons line lines =>
      cases others with
      | nil => cases isLine
      | cons analysed following => exact inductionHypothesis isLine

theorem step_document {asked : Indent α} (isLine : (indents k r text)[i]? = some asked) : ∃ line analysed,
    (Document.analysed text)[i]? = some analysed ∧
      step k r (Layout.after k r text i) line analysed ((Document.analysed text).drop (i + 1)) =
        (asked, Layout.after k r text (i + 1)) :=
  step_of_getElem? isLine

theorem step_header (laidOut : step k r l line analysed following = (.header name indent, after)) :
    (placeHeader k r l name).1 = indent ∧
      after = { l with
        indent := k.deepen indent
        sections := ⟨name, indent⟩ :: (placeHeader k r l name).2 } := by
  unfold step at laidOut
  split at laidOut
  · cases laidOut
  · split at laidOut
    · cases laidOut
      exact ⟨rfl, rfl⟩
    · split at laidOut <;> cases laidOut

theorem step_quiet (noHeader : Line.headerName? analysed = none) (notClosing : Line.isClosing analysed = false)
    (notOpening : (Line.opensLevel analysed && Line.needsTerminator analysed following) = false) :
    (step k r l line analysed following).2 = l := by
  unfold step
  split
  · rfl
  · rw [noHeader]
    simp only [plain, notClosing, notOpening, Bool.false_eq_true, if_false]
    split <;> rfl

theorem after_quiet (quiet : Document.Quiet text i j) (isLine : j < (indents k r text).length) (behind : i < m)
    (before : m ≤ j) : Layout.after k r text m = Layout.after k r text (i + 1) := by
  induction m with
  | zero => cases behind
  | succ m inductionHypothesis =>
    rcases Nat.lt_succ_iff_lt_or_eq.mp behind with isBetween | rfl
    · obtain ⟨line, analysed, isAnalysed, stepped⟩ := step_document (List.getElem?_eq_getElem (Nat.lt_trans before isLine))
      obtain ⟨noHeader, notClosing, notOpening⟩ := quiet m (by omega) isBetween analysed isAnalysed
      have stays := congrArg Prod.snd stepped
      rw [step_quiet noHeader notClosing notOpening] at stays
      exact stays.symm.trans (inductionHypothesis isBetween (by omega))
    · rfl

/-! ## Above the floor -/

theorem le_length_place {enclosing : List String} {floor : Nat} {base : α} {sections : List (OpenSection α)}
    (above : floor ≤ sections.length) : floor ≤ (place k name enclosing floor base sections).2.length := by
  induction sections with
  | nil => exact above
  | cons top rest inductionHypothesis =>
    unfold place
    split
    · exact above
    · next higher =>
      have restAbove : floor ≤ rest.length := by
        simp only [List.length_cons] at higher
        omega
      split
      · exact above
      · split
        · exact restAbove
        · exact inductionHypothesis restAbove

/-- The blocks are some of the old ones with others in them. None of the others has begun with more sections open than
    those in it have, or than are open now. -/
def Rises (old : List (OpenBlock α)) (l : Layout α) : Prop :=
  ∃ new rest, l.blocks = new ++ rest ∧ rest <:+ old ∧
    (l.sections.length :: new.map OpenBlock.depth).Pairwise (· ≥ ·)

variable {old : List (OpenBlock α)}

theorem rises_self (l : Layout α) : l.Rises l.blocks :=
  ⟨[], l.blocks, rfl, List.suffix_refl _, List.pairwise_singleton ..⟩

theorem Rises.closeBlock (rises : l.Rises old) : l.closeBlock.Rises old := by
  obtain ⟨new, rest, areBlocks, isSuffix, sorted⟩ := rises
  cases new with
  | nil =>
    cases rest with
    | nil =>
      simp only [Layout.closeBlock, areBlocks, List.append_nil]
      exact ⟨[], [], areBlocks, isSuffix, List.pairwise_singleton ..⟩
    | cons b rest =>
      simp only [Layout.closeBlock, areBlocks, List.nil_append]
      exact ⟨[], rest, rfl, (List.suffix_cons b rest).trans isSuffix, List.pairwise_singleton ..⟩
  | cons b new =>
    simp only [Layout.closeBlock, areBlocks, List.cons_append]
    obtain ⟨above, inner⟩ := List.pairwise_cons.mp sorted
    have floor : b.depth ≤ l.sections.length := above b.depth (by simp)
    have stay : (l.sections.drop (l.sections.length - b.depth)).length = b.depth := by
      rw [List.length_drop]
      omega
    refine ⟨new, rest, rfl, isSuffix, ?_⟩
    change ((l.sections.drop (l.sections.length - b.depth)).length :: _).Pairwise _
    rw [stay]
    exact inner

theorem Rises.openBlock (rises : l.Rises old) (isScript : Bool) : (l.openBlock k isScript).Rises old := by
  obtain ⟨new, rest, areBlocks, isSuffix, sorted⟩ := rises
  refine ⟨_ :: new, rest, congrArg (List.cons _) areBlocks, isSuffix, List.pairwise_cons.mpr ⟨?_, sorted⟩⟩
  exact List.forall_mem_cons.mpr ⟨Nat.le_refl _, (List.pairwise_cons.mp sorted).1⟩

theorem placeHeader_eq {b : OpenBlock α} {others : List (OpenBlock α)} (areBlocks : l.blocks = b :: others)
    (noGroup : name ≠ "group") (noConfiguration : name ≠ "configuration") :
    placeHeader k r l name = place k name (r.ancestors name) b.depth b.content l.sections := by
  simp [placeHeader, noGroup, noConfiguration, areBlocks]

theorem Rises.header (rises : l.Rises old) (noGroup : name ≠ "group") (noConfiguration : name ≠ "configuration") :
    (l.header k r name).2.Rises old := by
  obtain ⟨new, rest, areBlocks, isSuffix, sorted⟩ := rises
  refine ⟨new, rest, areBlocks, isSuffix, ?_⟩
  cases new with
  | nil => exact List.pairwise_singleton ..
  | cons b new =>
    obtain ⟨above, inner⟩ := List.pairwise_cons.mp sorted
    have around : b.depth ≤ (placeHeader k r l name).2.length := by
      rw [placeHeader_eq areBlocks noGroup noConfiguration]
      exact le_length_place (above b.depth (List.mem_cons_self ..))
    have higher : ∀ depth ∈ (b :: new).map OpenBlock.depth, depth ≤ b.depth :=
      List.forall_mem_cons.mpr ⟨Nat.le_refl _, (List.pairwise_cons.mp inner).1⟩
    refine List.pairwise_cons.mpr ⟨fun depth isDepth => ?_, inner⟩
    exact Nat.le_succ_of_le (Nat.le_trans (higher depth isDepth) around)

theorem Rises.plain (rises : l.Rises old) : (l.plain k analysed following).2.Rises old := by
  have closed : (if Line.isClosing analysed then l.closeBlock else l).Rises old := by
    split
    · exact rises.closeBlock
    · exact rises
  unfold Layout.plain
  generalize (if Line.isClosing analysed then l.closeBlock else l) = closedLayout at closed ⊢
  simp only
  split
  · exact closed.openBlock _
  · exact closed

theorem Rises.step (rises : l.Rises old)
    (remains : ∀ name indent, (l.step k r line analysed following).1 = .header name indent →
      name ≠ "group" ∧ name ≠ "configuration") : (l.step k r line analysed following).2.Rises old := by
  cases inside : l.inScript && Line.keyword? analysed != some .endScript with
  | true => simpa [Layout.step, inside] using rises
  | false =>
    cases isHeader : Line.headerName? analysed with
    | some p =>
      have stepped : l.step k r line analysed following = l.header k r p.word := by
        simp [Layout.step, inside, isHeader]
      rw [stepped] at remains ⊢
      obtain ⟨noGroup, noConfiguration⟩ := remains p.word _ rfl
      exact rises.header noGroup noConfiguration
    | none =>
      cases blank : allBlank line with
      | true => simpa [Layout.step, inside, isHeader, blank] using rises
      | false => simpa [Layout.step, inside, isHeader, blank] using rises.plain

theorem rises_after (isLine : i ≤ (indents k r text).length) (behind : m ≤ i)
    (remain : ∀ n, m ≤ n → n < i → ∀ name indent, (indents k r text)[n]? = some (.header name indent) →
      name ≠ "group" ∧ name ≠ "configuration") :
    (Layout.after k r text i).Rises (Layout.after k r text m).blocks := by
  induction i with
  | zero =>
    obtain rfl := Nat.le_zero.mp behind
    exact rises_self _
  | succ i inductionHypothesis =>
    rcases Nat.eq_or_lt_of_le behind with rfl | isBetween
    · exact rises_self _
    · have before := inductionHypothesis (by omega) (by omega) fun n fromHere below => remain n fromHere (by omega)
      have isThere := List.getElem?_eq_getElem (Nat.lt_of_succ_le isLine)
      obtain ⟨line, analysed, -, stepped⟩ := step_document isThere
      have rises := @Rises.step _ k r _ line analysed ((Document.analysed text).drop (i + 1)) _ before
      rw [stepped] at rises
      exact rises fun name indent laidOut =>
        remain i (by omega) (by omega) name indent (isThere.trans (congrArg some laidOut))

/-- Neither a group nor the configuration begins on the line or on those above it, down to where the innermost block that
    is open behind it had not begun. -/
def Undisturbed (k : Ruler α) (r : Registry) (text : String) (i : Nat) : Prop :=
  ∃ start ≤ i, (Layout.after k r text start).blocks.length < (Layout.after k r text (i + 1)).blocks.length ∧
    ∀ n, start ≤ n → n ≤ i → ∀ name indent, (indents k r text)[n]? = some (.header name indent) →
      name ≠ "group" ∧ name ≠ "configuration"

theorem aboveFloor_of_undisturbed (isHeader : (indents k r text)[i]? = some (.header name indent))
    (undisturbed : Undisturbed k r text i) : (Layout.after k r text (i + 1)).AboveFloor := by
  obtain ⟨start, above, fewer, remain⟩ := undisturbed
  have isLine : i < (indents k r text).length := (List.getElem?_eq_some_iff.mp isHeader).1
  obtain ⟨new, rest, areBlocks, isSuffix, sorted⟩ :=
    rises_after (Nat.le_of_lt isLine) above fun n fromStart below => remain n fromStart (Nat.le_of_lt below)
  obtain ⟨line, analysed, -, stepped⟩ := step_document isHeader
  obtain ⟨-, after⟩ := step_header stepped
  obtain ⟨noGroup, noConfiguration⟩ := remain i above (Nat.le_refl _) name indent isHeader
  rw [after] at fewer ⊢
  cases new with
  | nil =>
    rw [List.nil_append] at areBlocks
    exact absurd fewer (Nat.not_lt_of_le (areBlocks ▸ isSuffix.length_le))
  | cons b new =>
    intro c isInnermost
    obtain rfl : b = c := by simpa [areBlocks] using isInnermost
    have floor := (List.pairwise_cons.mp sorted).1 b.depth (List.mem_cons_self ..)
    rw [List.length_cons, placeHeader_eq areBlocks noGroup noConfiguration]
    exact Nat.lt_succ_of_le (le_length_place floor)

theorem place_below {top : OpenSection α} {sections : List (OpenSection α)} {enclosing : List String} {floor : Nat}
    {base : α} (isAncestor : top.name ∈ enclosing) : (place k name enclosing floor base (top :: sections)).1 =
      if floor < (top :: sections).length then k.deepen top.indent else base := by
  unfold place
  by_cases above : floor < (top :: sections).length
  · rw [if_neg (Nat.not_le_of_lt above), if_pos (List.elem_eq_true_of_mem isAncestor), if_pos above]
  · rw [if_pos (Nat.le_of_not_lt above), if_neg above]

/-- Below an ancestor a header goes one step deeper, if the ancestor lies above the floor of the innermost block, and
    otherwise to the first indent of that block. -/
theorem placeHeader_below {top : OpenSection α} {sections : List (OpenSection α)} (isTop : l.sections = top :: sections)
    (isAncestor : top.name ∈ r.ancestors name) (noGroup : name ≠ "group") (noConfiguration : name ≠ "configuration") :
    (l.AboveFloor → (placeHeader k r l name).1 = k.deepen top.indent) ∧
      (¬ l.AboveFloor → ∃ b ∈ l.blocks.head?, (placeHeader k r l name).1 = b.content) := by
  cases areBlocks : l.blocks with
  | nil =>
    have placed : placeHeader k r l name = place k name (r.ancestors name) 0 k.margin l.sections := by
      simp [placeHeader, noGroup, noConfiguration, areBlocks]
    have aboveFloor : l.AboveFloor := by simp [AboveFloor, areBlocks]
    refine ⟨fun _ => ?_, fun notAbove => absurd aboveFloor notAbove⟩
    rw [placed, isTop, place_below isAncestor]
    exact if_pos (Nat.succ_pos _)
  | cons b others =>
    have aboveFloor : l.AboveFloor ↔ b.depth < l.sections.length := by simp [AboveFloor, areBlocks]
    rw [aboveFloor, placeHeader_eq areBlocks noGroup noConfiguration, isTop, place_below isAncestor]
    exact ⟨fun above => if_pos above, fun notAbove => ⟨b, rfl, if_neg notAbove⟩⟩

end Layout

/-- A header that follows the header of an ancestor, with nothing but quiet lines between, goes one step deeper if the
    ancestor lies above the floor of the innermost block, and otherwise to the first indent of that block. The ancestor
    lies above the floor if no block is open, or if neither a group nor the configuration has begun since the innermost
    block did. -/
theorem header_below_ancestor (r : Registry) (o : FormatOptions) (text : String) (i j : Nat) (above below : String)
    (indent inner : List Char) (before : i < j)
    (isAbove : (Layout.indents o.ruler r text)[i]? = some (.header above indent))
    (isBelow : (Layout.indents o.ruler r text)[j]? = some (.header below inner))
    (quiet : Document.Quiet text i j) (isAncestor : above ∈ r.ancestors below) (noGroup : below ≠ "group")
    (noConfiguration : below ≠ "configuration") :
    ((Layout.after o.ruler r text (i + 1)).AboveFloor → inner = indent ++ o.step) ∧
      (¬ (Layout.after o.ruler r text (i + 1)).AboveFloor →
        ∃ b ∈ (Layout.after o.ruler r text (i + 1)).blocks.head?, inner = b.content) ∧
      ((Layout.after o.ruler r text (i + 1)).blocks = [] ∨ Layout.Undisturbed o.ruler r text i →
        (Layout.after o.ruler r text (i + 1)).AboveFloor) := by
  have isLine : j < (Layout.indents o.ruler r text).length := (List.getElem?_eq_some_iff.mp isBelow).1
  obtain ⟨line, analysed, -, stepped⟩ := Layout.step_document isBelow
  rw [Layout.after_quiet quiet isLine before (Nat.le_refl _)] at stepped
  obtain ⟨placed, -⟩ := Layout.step_header stepped
  obtain ⟨lineAbove, analysedAbove, -, steppedAbove⟩ := Layout.step_document isAbove
  obtain ⟨-, after⟩ := Layout.step_header steppedAbove
  obtain ⟨deeper, atFloor⟩ :=
    Layout.placeHeader_below (congrArg Layout.sections after) isAncestor noGroup noConfiguration
  refine ⟨fun aboveFloor => placed.symm.trans (deeper aboveFloor), fun notAbove => ?_, ?_⟩
  · obtain ⟨b, isInnermost, content⟩ := atFloor notAbove
    exact ⟨b, isInnermost, placed.symm.trans content⟩
  · rintro (noBlock | undisturbed)
    · simp [Layout.AboveFloor, noBlock]
    · exact Layout.aboveFloor_of_undisturbed isAbove undisturbed

/-- A series in a loop in a widget, and its tags. -/
def loopText : String :=
  "[widget]\nfor x in a\n[series]\n  metric = m\n\n[tags]\nendfor"

theorem header_below_ancestor_in_loop :
    ∃ inner, (Layout.indents (FormatOptions.ruler {}) chartRegistry loopText)[5]? = some (.header "tags" inner) ∧
      inner = "    ".toList ++ FormatOptions.step {} := by
  have below := header_below_ancestor chartRegistry {} loopText 2 5 "series" "tags" "    ".toList "      ".toList
    (by decide) (by decide +kernel) (by decide +kernel) (by decide +kernel) (by decide +kernel) (by decide) (by decide)
  exact ⟨"      ".toList, by decide +kernel, below.1 (by decide +kernel)⟩

/-- The group closes the widget around the loop, so the widget below it does not rise above the floor of the loop. It goes
    to the first indent of the loop, two steps deeper than the group. -/
example : (Layout.indents (FormatOptions.ruler {}) chartRegistry "[widget]\nfor x in a\n[group]\n[widget]\nendfor").map
    Indent.wanted? = [some [], some "  ".toList, some [], some "    ".toList, some "  ".toList] := by
  decide +kernel

end ChartConfig
