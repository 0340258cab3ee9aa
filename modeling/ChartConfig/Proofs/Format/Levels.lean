import ChartConfig.Format.Run

/-!
# Levels

A layout only keeps indents and asks for the next one, so it commutes with every map of indents that keeps the
margin and the next indent. Counting steps gives the levels of a document, which know nothing of the options;
writing a level out as so many copies of the step gives the indents for any options.
-/

namespace ChartConfig

/-- The map takes the indents of one ruler to those of another. -/
structure Ruler.Hom {α β : Type} (k : Ruler α) (m : Ruler β) (f : α → β) : Prop where
  margin : f k.margin = m.margin
  deepen : ∀ indent, f (k.deepen indent) = m.deepen (f indent)

def Ruler.levels : Ruler Nat where
  margin := 0
  deepen level := level + 1

def FormatOptions.indent (o : FormatOptions) (level : Nat) : List Char :=
  (List.replicate level o.step).flatten

theorem FormatOptions.indent_hom (o : FormatOptions) : Ruler.levels.Hom o.ruler o.indent where
  margin := rfl
  deepen level := by
    change (List.replicate (level + 1) o.step).flatten = (List.replicate level o.step).flatten ++ o.step
    rw [List.replicate_succ', List.flatten_append, List.flatten_singleton]

/-! ## Maps of layouts -/

variable {α β : Type} {k : Ruler α} {m : Ruler β} {f : α → β}

def OpenSection.map (f : α → β) (s : OpenSection α) : OpenSection β :=
  ⟨s.name, f s.indent⟩

def OpenBlock.map (f : α → β) (b : OpenBlock α) : OpenBlock β :=
  ⟨f b.indent, f b.content, b.depth, b.isScript⟩

def Indent.map (f : α → β) : Indent α → Indent β
  | .keep => .keep
  | .header name indent => .header name (f indent)
  | .at indent => .at (f indent)

theorem Indent.wanted?_map (indent : Indent α) : (indent.map f).wanted? = indent.wanted?.map f := by
  cases indent <;> rfl

namespace Layout

def map (f : α → β) (l : Layout α) : Layout β :=
  ⟨f l.indent, l.sections.map (OpenSection.map f), l.blocks.map (OpenBlock.map f)⟩

theorem place_map (hom : k.Hom m f) (name : String) (enclosing : List String) (floor : Nat) (base : α)
    (sections : List (OpenSection α)) :
    place m name enclosing floor (f base) (sections.map (OpenSection.map f)) =
      (f (place k name enclosing floor base sections).1,
        (place k name enclosing floor base sections).2.map (OpenSection.map f)) := by
  induction sections with
  | nil => rfl
  | cons top rest inductionHypothesis =>
    have sameLength : (List.map (OpenSection.map f) (top :: rest)).length = (top :: rest).length := by simp
    have sameName : (OpenSection.map f top).name = top.name := rfl
    rw [List.map_cons] at sameLength ⊢
    rw [place, place, sameLength, sameName]
    split
    · rfl
    · split
      · exact congrArg (Prod.mk · _) (hom.deepen top.indent).symm
      · split
        · rfl
        · exact inductionHypothesis

theorem placeHeader_map (hom : k.Hom m f) (r : Registry) (l : Layout α) (name : String) :
    placeHeader m r (l.map f) name =
      (f (placeHeader k r l name).1, (placeHeader k r l name).2.map (OpenSection.map f)) := by
  unfold placeHeader
  split
  · rw [hom.margin]
    rfl
  · obtain ⟨indent, sections, blocks⟩ := l
    cases blocks with
    | nil =>
      rw [← hom.margin]
      exact place_map hom name (r.ancestors name) 0 k.margin sections
    | cons b blocks => exact place_map hom name (r.ancestors name) b.depth b.content sections

theorem header_map (hom : k.Hom m f) (r : Registry) (l : Layout α) (name : String) :
    header m r (l.map f) name = ((header k r l name).1.map f, (header k r l name).2.map f) := by
  simp only [header, placeHeader_map hom]
  simp only [Indent.map, map, List.map_cons, OpenSection.map, hom.deepen]

theorem closeBlock_map (l : Layout α) : (l.map f).closeBlock = l.closeBlock.map f := by
  obtain ⟨indent, sections, blocks⟩ := l
  cases blocks with
  | nil => rfl
  | cons b blocks => simp [closeBlock, map, OpenBlock.map]

theorem openBlock_map (hom : k.Hom m f) (l : Layout α) (isScript : Bool) :
    openBlock m (l.map f) isScript = (openBlock k l isScript).map f := by
  simp [openBlock, map, OpenBlock.map, hom.deepen]

theorem inScript_map (l : Layout α) : (l.map f).inScript = l.inScript := by
  obtain ⟨indent, sections, blocks⟩ := l
  cases blocks <;> rfl

theorem plain_map (hom : k.Hom m f) (l : Layout α) (analysed : List Char) (following : List (List Char)) :
    plain m (l.map f) analysed following =
      ((plain k l analysed following).1.map f, (plain k l analysed following).2.map f) := by
  have closed : (if Line.isClosing analysed then (l.map f).closeBlock else l.map f) =
      (if Line.isClosing analysed then l.closeBlock else l).map f := by
    split
    · exact closeBlock_map l
    · rfl
  simp only [plain, closed, Indent.map, openBlock_map hom]
  cases Line.opensLevel analysed && Line.needsTerminator analysed following with
  | true => rfl
  | false => rfl

theorem step_map (hom : k.Hom m f) (r : Registry) (l : Layout α) (line analysed : List Char)
    (following : List (List Char)) :
    step m r (l.map f) line analysed following =
      ((step k r l line analysed following).1.map f, (step k r l line analysed following).2.map f) := by
  unfold step
  rw [inScript_map]
  split
  · rfl
  · cases Line.headerName? analysed with
    | some name => exact header_map hom r l name.word
    | none =>
      simp only
      split
      · rfl
      · exact plain_map hom l analysed following

theorem indentsFrom_map (hom : k.Hom m f) (r : Registry) (l : Layout α) (lines analysed : List (List Char)) :
    indentsFrom m r (l.map f) lines analysed = (indentsFrom k r l lines analysed).map (Indent.map f) := by
  induction lines generalizing l analysed with
  | nil => rfl
  | cons line lines inductionHypothesis =>
    cases analysed with
    | nil => rfl
    | cons first following =>
      simp only [indentsFrom, step_map hom, inductionHypothesis, List.map_cons]

end Layout

/-- The levels of the lines of a document; none where the start of a line stays as it is. -/
def Layout.levels (r : Registry) (text : String) : List (Option Nat) :=
  (Layout.indents Ruler.levels r text).map Indent.wanted?

/-- The indents for any options are the levels, written out. -/
theorem Layout.wanted_indents (o : FormatOptions) (r : Registry) (text : String) :
    (Layout.indents o.ruler r text).map Indent.wanted? = (Layout.levels r text).map (Option.map o.indent) := by
  have start : Layout.start o.ruler = (Layout.start Ruler.levels).map o.indent := rfl
  rw [levels, indents, start, indentsFrom_map o.indent_hom, indents, List.map_map, List.map_map]
  exact List.map_congr_left fun indent _ => indent.wanted?_map

end ChartConfig
