import ChartConfig.Proofs.Language.Pieces
import ChartConfig.Proofs.Language.Spacing

/-!
# Padding and the texts of pieces

Padding moves the pieces of a line, but their texts stay the same. For recognisers that follow moves this is a
property of the moves that can be checked: what they pass over takes in gaps, and what they read or expect has none.
-/

namespace ChartConfig

open Text

namespace Text

/-! ## Moves that do not see padding -/

/-- The class has the gaps in it. -/
def takesGaps (p : Char → Bool) : Bool :=
  p ' ' && p '\t'

def leavesGaps (p : Char → Bool) : Bool :=
  !p ' ' && !p '\t'

theorem isGap_cases {c : Char} (gap : isGap c = true) : c = ' ' ∨ c = '\t' := by
  simpa [isGap] using gap

theorem takesGaps_iff {p : Char → Bool} : takesGaps p = true ↔ ∀ c, isGap c = true → p c = true := by
  constructor
  · intro takes c gap
    simp only [takesGaps, Bool.and_eq_true] at takes
    cases isGap_cases gap with
    | inl space => exact space ▸ takes.1
    | inr tab => exact tab ▸ takes.2
  · intro takes
    simp [takesGaps, takes ' ' rfl, takes '\t' rfl]

theorem not_of_leavesGaps {p : Char → Bool} (leaves : leavesGaps p = true) {c : Char} (gap : isGap c = true) :
    p c = false := by
  simp only [leavesGaps, Bool.and_eq_true, Bool.not_eq_true'] at leaves
  cases isGap_cases gap with
  | inl space => exact space ▸ leaves.1
  | inr tab => exact tab ▸ leaves.2

theorem takeWhile_append_gaps {p : Char → Bool} (leaves : leavesGaps p = true) (cs : List Char) {after : List Char}
    (gaps : Gaps after) :
    (cs ++ after).takeWhile p = cs.takeWhile p ∧ (cs ++ after).dropWhile p = cs.dropWhile p ++ after := by
  induction cs with
  | nil =>
    cases after with
    | nil => exact ⟨rfl, rfl⟩
    | cons c after => simp [not_of_leavesGaps leaves (gaps_cons.mp gaps).1]
  | cons c cs inductionHypothesis => cases holds : p c <;> simp [holds, inductionHypothesis]

namespace Move

def wants (moves : List Move) : Bool :=
  moves.any fun
    | skip _ | pass _ => false
    | expect _ | read _ => true

/-- Padding makes no difference to the moves. A run of gaps that must not be empty has to lead to something wanted,
    since the padding at the end of a line could be such a run. -/
def blind : List Move → Bool
  | [] => true
  | skip p :: rest => takesGaps p && blind rest
  | pass p :: rest => takesGaps p && wants rest && blind rest
  | expect literal :: rest => !literal.toList.isEmpty && literal.toList.all (!isGap ·) && blind rest
  | read p :: rest => leavesGaps p && blind rest

end Move

namespace Cursor

variable {α β : Type} {finish : List Piece → Cursor → Option β} {moves : List Move} {pieces others : List Piece}
  {c d : Cursor}

/-- Ahead of the first cursor is what is ahead of the second, and then gaps. -/
def Trails (c d : Cursor) : Prop :=
  ∃ rest, Gaps rest ∧ c.ahead = d.ahead ++ rest

theorem Trails.skip {p : Char → Bool} (takes : takesGaps p = true) (trails : c.Trails d) :
    (c.skip p).Trails (d.skip p) := by
  obtain ⟨rest, gaps, ahead⟩ := trails
  obtain ⟨after, gapsAfter, same⟩ := dropWhile_append_gaps (takesGaps_iff.mp takes) d.ahead gaps
  exact ⟨after, gapsAfter, by simp only [Cursor.skip, ahead, same]⟩

theorem prefix_append_gaps {literal cs after : List Char} (free : literal.all (!isGap ·) = true) (gaps : Gaps after) :
    literal <+: cs ++ after ↔ literal <+: cs := by
  constructor
  · intro leads
    induction literal generalizing cs with
    | nil => exact List.nil_prefix
    | cons l literal inductionHypothesis =>
      simp only [List.all_cons, Bool.and_eq_true, Bool.not_eq_true'] at free
      cases cs with
      | nil =>
        cases after with
        | nil => simp at leads
        | cons c after =>
          rw [List.nil_append, List.cons_prefix_cons] at leads
          rw [leads.1, (gaps_cons.mp gaps).1] at free
          cases free.1
      | cons c cs =>
        rw [List.cons_append, List.cons_prefix_cons] at leads
        exact List.cons_prefix_cons.mpr ⟨leads.1, inductionHypothesis free.2 leads.2⟩
  · exact fun leads => leads.trans (List.prefix_append ..)

theorem Trails.expect {literal : String} (free : literal.toList.all (!isGap ·) = true) (trails : c.Trails d) :
    (c.expect literal = none ∧ d.expect literal = none) ∨
      ∃ c' d', c.expect literal = some c' ∧ d.expect literal = some d' ∧ c'.Trails d' := by
  obtain ⟨rest, gaps, ahead⟩ := trails
  have same : literal.toList.isPrefixOf c.ahead = literal.toList.isPrefixOf d.ahead := by
    rw [Bool.eq_iff_iff, List.isPrefixOf_iff_prefix, List.isPrefixOf_iff_prefix, ahead, prefix_append_gaps free gaps]
  simp only [Cursor.expect, same]
  cases leads : literal.toList.isPrefixOf d.ahead with
  | false => exact .inl ⟨rfl, rfl⟩
  | true =>
    have fits := (List.isPrefixOf_iff_prefix.mp leads).length_le
    rw [String.length_toList] at fits
    refine .inr ⟨_, _, rfl, rfl, rest, gaps, ?_⟩
    simp only [ahead]
    exact List.drop_append_of_le_length fits

theorem Trails.take {p : Char → Bool} (leaves : leavesGaps p = true) (trails : c.Trails d) :
    (c.take p = none ∧ d.take p = none) ∨
      ∃ piece other c' d', c.take p = some (piece, c') ∧ d.take p = some (other, d') ∧ piece.text = other.text ∧
        c'.Trails d' := by
  obtain ⟨rest, gaps, ahead⟩ := trails
  obtain ⟨taken, left⟩ := takeWhile_append_gaps leaves d.ahead gaps
  simp only [Cursor.take, ahead, taken]
  cases run : d.ahead.takeWhile p with
  | nil => exact .inl ⟨rfl, rfl⟩
  | cons first run =>
    refine .inr ⟨_, _, _, _, rfl, rfl, rfl, rest, gaps, ?_⟩
    simp only [Cursor.skip, ahead, left]

theorem skipSome_eq (p : Char → Bool) (c : Cursor) :
    c.skipSome p = if (c.ahead.takeWhile p).isEmpty then none else some (c.skip p) := by
  simp only [skipSome, Cursor.take]
  cases c.ahead.takeWhile p <;> rfl

theorem gaps_skip (gaps : Gaps c.ahead) (p : Char → Bool) : Gaps (c.skip p).ahead :=
  fun d member => gaps d ((List.dropWhile_suffix p).subset member)

theorem Trails.skipSome (p : Char → Bool) (trails : c.Trails d) :
    (c.ahead.takeWhile p).isEmpty = (d.ahead.takeWhile p).isEmpty ∨ (Gaps c.ahead ∧ d.ahead = []) := by
  obtain ⟨rest, gaps, ahead⟩ := trails
  cases text : d.ahead with
  | nil => exact .inr ⟨by rw [ahead, text]; exact gaps, rfl⟩
  | cons first more =>
    refine .inl ?_
    rw [ahead, text]
    cases holds : p first <;> simp [holds]

theorem follow_gaps (blind : Move.blind moves = true) (wants : Move.wants moves = true) (gaps : Gaps c.ahead) :
    follow finish moves pieces c = none := by
  induction moves generalizing pieces c with
  | nil => cases wants
  | cons move moves inductionHypothesis =>
    cases move with
    | skip p =>
      simp only [Move.blind, Bool.and_eq_true] at blind
      exact inductionHypothesis blind.2 wants (gaps_skip gaps p)
    | pass p =>
      simp only [Move.blind, Bool.and_eq_true] at blind
      simp only [follow, skipSome_eq]
      split
      · rfl
      · exact inductionHypothesis blind.2 wants (gaps_skip gaps p)
    | expect literal =>
      simp only [Move.blind, Bool.and_eq_true, Bool.not_eq_true', List.isEmpty_eq_false_iff] at blind
      have noPrefix : literal.toList.isPrefixOf c.ahead = false := by
        rw [Bool.eq_false_iff]
        intro leads
        have leads := List.isPrefixOf_iff_prefix.mp leads
        rw [← List.nil_append c.ahead, prefix_append_gaps blind.1.2 gaps, List.prefix_nil] at leads
        exact blind.1.1 leads
      simp [follow, Cursor.expect, noPrefix]
    | read p =>
      simp only [Move.blind, Bool.and_eq_true] at blind
      have nothing := (takeWhile_append_gaps blind.1 [] gaps).1
      rw [List.nil_append, List.takeWhile_nil] at nothing
      simp [follow, Cursor.take, nothing]

/-- Moves that do not see padding come to the same with gaps behind the text, if the end of the recognition does. -/
theorem follow_trails {f : β → α} (blind : Move.blind moves = true)
    (finishes : ∀ pieces others c d, pieces.map Piece.text = others.map Piece.text → c.Trails d →
      (finish pieces c).map f = (finish others d).map f)
    (texts : pieces.map Piece.text = others.map Piece.text) (trails : c.Trails d) :
    (follow finish moves pieces c).map f = (follow finish moves others d).map f := by
  induction moves generalizing pieces others c d with
  | nil => exact finishes pieces others c d texts trails
  | cons move moves inductionHypothesis =>
    cases move with
    | skip p =>
      simp only [Move.blind, Bool.and_eq_true] at blind
      exact inductionHypothesis blind.2 texts (trails.skip blind.1)
    | pass p =>
      simp only [Move.blind, Bool.and_eq_true] at blind
      simp only [follow, skipSome_eq]
      cases trails.skipSome p with
      | inl same =>
        rw [same]
        split
        · rfl
        · exact inductionHypothesis blind.2 texts (trails.skip blind.1.1)
      | inr atEnd =>
        -- Where only the padding can be passed over, nothing comes after it.
        rw [atEnd.2]
        split
        · rfl
        · exact congrArg (Option.map f) (follow_gaps blind.2 blind.1.2 (gaps_skip atEnd.1 p))
    | expect literal =>
      simp only [Move.blind, Bool.and_eq_true] at blind
      simp only [follow]
      cases trails.expect blind.1.2 with
      | inl none => rw [none.1, none.2]; rfl
      | inr some =>
        obtain ⟨c', d', first, second, trails⟩ := some
        rw [first, second]
        exact inductionHypothesis blind.2 texts trails
    | read p =>
      simp only [Move.blind, Bool.and_eq_true] at blind
      simp only [follow]
      cases trails.take blind.1 with
      | inl none => rw [none.1, none.2]; rfl
      | inr some =>
        obtain ⟨piece, other, c', d', first, second, same, trails⟩ := some
        rw [first, second]
        exact inductionHypothesis blind.2 (by simp [texts, same]) trails

theorem follow_padded {f : β → α} {p : Char → Bool} {core line : List Char}
    (blind : Move.blind (.skip p :: moves) = true)
    (finishes : ∀ pieces others c d, pieces.map Piece.text = others.map Piece.text → c.Trails d →
      (finish pieces c).map f = (finish others d).map f)
    (padded : Padded core line) :
    (follow finish (.skip p :: moves) [] (start line)).map f =
      (follow finish (.skip p :: moves) [] (start core)).map f := by
  simp only [Move.blind, Bool.and_eq_true] at blind
  obtain ⟨rest, gaps, same⟩ := dropWhile_padded (takesGaps_iff.mp blind.1) padded
  simp only [follow]
  exact follow_trails blind.2 finishes rfl ⟨rest, gaps, same⟩

theorem head?_texts (texts : pieces.map Piece.text = others.map Piece.text) :
    pieces.head?.map Piece.text = others.head?.map Piece.text := by
  rw [← List.head?_map, texts, List.head?_map]

theorem getLast?_texts (texts : pieces.map Piece.text = others.map Piece.text) :
    pieces.getLast?.map Piece.text = others.getLast?.map Piece.text := by
  rw [← List.getLast?_map, texts, List.getLast?_map]

theorem Trails.allBlank (trails : c.Trails d) : allBlank c.ahead = allBlank d.ahead := by
  obtain ⟨rest, gaps, ahead⟩ := trails
  rw [ahead]
  exact allBlank_padded ⟨[], rest, .nil, gaps, rfl⟩

end Cursor

end Text

/-! ## Recognisers that follow moves -/

def TemplateDeclaration.texts (d : TemplateDeclaration) : Option (List Char) × List Char :=
  (d.collection.map Piece.text, d.name.text)

namespace Line

open Cursor

variable {core line : List Char}

theorem unclosedHeaderName?_padded (padded : Padded core line) :
    (unclosedHeaderName? line).map Piece.text = (unclosedHeaderName? core).map Piece.text := by
  rw [unclosedHeaderName?_eq, unclosedHeaderName?_eq]
  refine follow_padded (by decide) (fun pieces others c d texts trails => ?_) padded
  simp only [lastPiece, trails.allBlank]
  split
  · exact head?_texts texts
  · rfl

theorem aliasName?_padded (padded : Padded core line) :
    (aliasName? line).map Piece.text = (aliasName? core).map Piece.text := by
  rw [aliasName?_eq, aliasName?_eq]
  refine follow_padded (by decide) (fun pieces others c d texts trails => ?_) padded
  simp only [lastPiece, trails.allBlank]
  split
  · exact head?_texts texts
  · rfl

theorem csvName?_padded (padded : Padded core line) :
    (csvName? line).map Piece.text = (csvName? core).map Piece.text := by
  rw [csvName?_eq, csvName?_eq]
  exact follow_padded (by decide) (fun _ _ _ _ texts _ => head?_texts texts) padded

theorem listName?_padded (padded : Padded core line) :
    (listName? line).map Piece.text = (listName? core).map Piece.text := by
  rw [listName?_eq, listName?_eq]
  exact follow_padded (by decide) (fun _ _ _ _ texts _ => head?_texts texts) padded

def loopTexts : List (List Char) → Option (List Char × List Char)
  | [item, sign] => if sign = "in".toList then some (item, sign) else none
  | _ => none

theorem loopPieces_texts (pieces : List Piece) (c : Cursor) :
    (loopPieces pieces c).map (Prod.map Piece.text Piece.text) = loopTexts (pieces.map Piece.text) := by
  rcases pieces with _ | ⟨item, _ | ⟨sign, _ | ⟨third, more⟩⟩⟩
  · rfl
  · rfl
  · by_cases isIn : sign.text = "in".toList <;> simp [loopPieces, loopTexts, isIn]
  · rfl

theorem loopVariable?_padded (padded : Padded core line) :
    (loopVariable? line).map (Prod.map Piece.text Piece.text) =
      (loopVariable? core).map (Prod.map Piece.text Piece.text) := by
  rw [loopVariable?_eq, loopVariable?_eq]
  exact follow_padded (by decide) (fun _ _ _ _ texts _ => by rw [loopPieces_texts, loopPieces_texts, texts]) padded

theorem loopCollection?_padded (padded : Padded core line) :
    (loopCollection? line).map Piece.text = (loopCollection? core).map Piece.text := by
  have followed (ending : List Move) (blind : Move.blind (loopMoves ++ ending) = true) :
      (follow (fun pieces _ => pieces.getLast?) (loopMoves ++ ending) [] (start line)).map Piece.text =
        (follow (fun pieces _ => pieces.getLast?) (loopMoves ++ ending) [] (start core)).map Piece.text :=
    follow_padded blind (fun _ _ _ _ texts _ => getLast?_texts texts) padded
  simp only [loopCollection?_eq, Option.orElse_eq_orElse, Option.orElse_eq_or, Option.map_or,
    followed keysMoves (by decide), followed [.read isWord] (by decide)]

theorem hasScriptContent_padded (padded : Padded core line) : hasScriptContent line = hasScriptContent core := by
  rw [hasScriptContent_eq, hasScriptContent_eq]
  have same := @follow_padded Unit Unit (fun _ c => if allBlank c.ahead then none else some ()) [.expect "script"] id
    isBlank core line (by decide) (fun pieces others c d _ trails => by rw [trails.allBlank]) padded
  simpa using congrArg Option.isSome same

def pairedTexts : List (List Char) → Option (Option (List Char) × List Char)
  | [collection, name] => some (some collection, name)
  | _ => none

theorem pairedDeclaration_texts (pieces : List Piece) (c : Cursor) :
    (pairedDeclaration pieces c).map TemplateDeclaration.texts = pairedTexts (pieces.map Piece.text) := by
  rcases pieces with _ | ⟨collection, _ | ⟨name, _ | ⟨third, more⟩⟩⟩ <;> rfl

theorem templateDeclaration?_padded (padded : Padded core line) :
    (templateDeclaration? line).map TemplateDeclaration.texts =
      (templateDeclaration? core).map TemplateDeclaration.texts := by
  have assigned : (templateAssign? line).map TemplateDeclaration.texts =
      (templateAssign? core).map TemplateDeclaration.texts := by
    rw [templateAssign?_eq, templateAssign?_eq]
    refine follow_padded (by decide) (fun pieces others _ _ texts _ => ?_) padded
    have byText (first : Option Piece) : (first.map (TemplateDeclaration.mk none)).map TemplateDeclaration.texts =
        (first.map Piece.text).map fun name => (none, name) := by
      cases first <;> rfl
    rw [byText, byText, head?_texts texts]
  have listed : (templateList? line).map TemplateDeclaration.texts =
      (templateList? core).map TemplateDeclaration.texts := by
    rw [templateList?_eq, templateList?_eq]
    exact follow_padded (by decide) (fun _ _ _ _ texts _ => by rw [pairedDeclaration_texts, pairedDeclaration_texts, texts])
      padded
  simp only [templateDeclaration?, Option.orElse_eq_orElse, Option.orElse_eq_or, Option.map_or, assigned, listed]

/-! ## Recognisers that search the line -/

theorem varName?_padded (padded : Padded core line) :
    (varName? line).map Piece.text = (varName? core).map Piece.text := by
  obtain ⟨before, after, gapsBefore, gapsAfter, rfl⟩ := padded
  have noWords {cs : List Char} (gaps : Gaps cs) : ∀ c ∈ cs, isWord c = false :=
    fun c member => isWord_of_isGap (gaps c member)
  have sameWords : words (before ++ core ++ after) = (words core).map (Piece.shift · before.length) := by
    rw [words, runs_append (noWords gapsAfter), runs_before (noWords gapsBefore), runs_add]
    rfl
  rw [varName?_eq, varName?_eq, sameWords, List.findSome?_map, List.map_findSome?, List.map_findSome?,
    ← List.head?_filterMap, ← List.head?_filterMap]
  congr 1
  apply List.filterMap_congr
  intro word member
  simp only [Function.comp]
  change Option.map Piece.text (if word.text = "var".toList then _ else none) = _
  split
  · have fits := (in_of_mem_words member).stop_le_length
    refine follow_trails (by decide) (fun _ _ _ _ texts _ => head?_texts texts) rfl ⟨after, gapsAfter, ?_⟩
    have shifted : (word.shift before.length).stop = before.length + word.stop := by
      simp [Piece.stop, Piece.shift, Nat.add_assoc]
    simp only [within, shifted, List.append_assoc, List.drop_append_of_le_length fits, List.drop_length_add_append]
  · rfl

end Line

end ChartConfig
