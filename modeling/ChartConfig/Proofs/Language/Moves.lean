import ChartConfig.Language.Assignment
import ChartConfig.Language.Declaration
import ChartConfig.Language.Header
import ChartConfig.Language.Keyword
import ChartConfig.Language.Reference
import ChartConfig.Proofs.Text.Place

/-!
# How lines are recognised

Most recognisers go along the line from its start and do one of four things at a time: pass over characters of a
class, of which there may be none or must be some, pass over a literal, or read a piece. `Cursor.follow` makes
such moves one after another, and each of these recognisers follows a list of moves. So what holds of all moves is
proved once, such as that every piece read is in the line.
-/

namespace ChartConfig

open Text

namespace Text

/-- One thing that a recogniser does with its cursor. -/
inductive Move where
  | skip (p : Char → Bool)
  | pass (p : Char → Bool)
  | expect (literal : String)
  | read (p : Char → Bool)

namespace Cursor

variable {β : Type} {finish : List Piece → Cursor → Option β}

/-- Makes the moves one after another; `finish` gets the pieces read and the place reached. -/
def follow (finish : List Piece → Cursor → Option β) : List Move → List Piece → Cursor → Option β
  | [], pieces, c => finish pieces c
  | .skip p :: moves, pieces, c => follow finish moves pieces (c.skip p)
  | .pass p :: moves, pieces, c => (c.skipSome p).bind (follow finish moves pieces)
  | .expect literal :: moves, pieces, c => (c.expect literal).bind (follow finish moves pieces)
  | .read p :: moves, pieces, c =>
    (c.take p).bind fun taken => follow finish moves (pieces ++ [taken.1]) taken.2

theorem follow_append (moves more : List Move) (pieces : List Piece) (c : Cursor) :
    follow finish (moves ++ more) pieces c = follow (follow finish more) moves pieces c := by
  induction moves generalizing pieces c with
  | nil => rfl
  | cons move moves inductionHypothesis =>
    cases move with
    | skip p => exact inductionHypothesis pieces (c.skip p)
    | pass p => exact Option.bind_congr fun after _ => inductionHypothesis pieces after
    | expect literal => exact Option.bind_congr fun after _ => inductionHypothesis pieces after
    | read p => exact Option.bind_congr fun taken _ => inductionHypothesis (pieces ++ [taken.1]) taken.2

theorem follow_orElse (other : List Piece → Cursor → Option β) (moves : List Move) (pieces : List Piece) (c : Cursor) :
    follow (fun pieces c => finish pieces c <|> other pieces c) moves pieces c =
      (follow finish moves pieces c <|> follow other moves pieces c) := by
  induction moves generalizing pieces c with
  | nil => rfl
  | cons move moves inductionHypothesis =>
    cases move with
    | skip p => exact inductionHypothesis pieces (c.skip p)
    | pass p =>
      simp only [follow]
      cases c.skipSome p with
      | none => rfl
      | some after => exact inductionHypothesis pieces after
    | expect literal =>
      simp only [follow]
      cases c.expect literal with
      | none => rfl
      | some after => exact inductionHypothesis pieces after
    | read p =>
      simp only [follow]
      cases c.take p with
      | none => rfl
      | some taken => exact inductionHypothesis (pieces ++ [taken.1]) taken.2

/-- Whatever the moves, the pieces read are in the line. -/
theorem follow_in {line : List Char} {moves : List Move} {pieces : List Piece} {c : Cursor} {result : β}
    (on : c.On line) (allIn : ∀ p ∈ pieces, p.In line) (found : follow finish moves pieces c = some result) :
    ∃ pieces after, (∀ p ∈ pieces, p.In line) ∧ after.On line ∧ finish pieces after = some result := by
  induction moves generalizing pieces c with
  | nil => exact ⟨pieces, c, allIn, on, found⟩
  | cons move moves inductionHypothesis =>
    cases move with
    | skip p => exact inductionHypothesis (on.skip p) allIn found
    | pass p =>
      obtain ⟨after, passed, found⟩ := Option.bind_eq_some_iff.mp found
      exact inductionHypothesis (on.skipSome passed) allIn found
    | expect literal =>
      obtain ⟨after, passed, found⟩ := Option.bind_eq_some_iff.mp found
      exact inductionHypothesis (on.expect passed) allIn found
    | read p =>
      obtain ⟨⟨piece, after⟩, taken, found⟩ := Option.bind_eq_some_iff.mp found
      obtain ⟨inLine, on⟩ := on.take taken
      refine inductionHypothesis on (fun q member => ?_) found
      simp only [List.mem_append, List.mem_singleton] at member
      cases member with
      | inl old => exact allIn q old
      | inr new => exact new ▸ inLine

theorem follow_start_in {line : List Char} {moves : List Move} {result : β}
    (found : follow finish moves [] (start line) = some result) :
    ∃ pieces after, (∀ p ∈ pieces, p.In line) ∧ after.On line ∧ finish pieces after = some result :=
  follow_in (.start line) (fun _ none => by cases none) found

end Cursor

end Text

/-! ## The moves of the recognisers -/

namespace Line

open Cursor

/-- The one piece read, if only blanks follow it. -/
def lastPiece (pieces : List Piece) (c : Cursor) : Option Piece :=
  if allBlank c.ahead then pieces.head? else none

theorem leadingWord?_eq (line : List Char) :
    leadingWord? line = follow (fun pieces _ => pieces.head?) [.skip isGap, .read isWord] [] (start line) := by
  simp only [leadingWord?, follow, Cursor.name]
  cases (skip isGap (start line)).take isWord <;> rfl

theorem headerName?_eq (line : List Char) :
    headerName? line =
      follow (fun pieces _ => pieces.head?) [.skip isGap, .expect "[", .read isWord, .expect "]"] [] (start line) :=
  rfl

theorem unclosedHeaderName?_eq (line : List Char) :
    unclosedHeaderName? line = follow lastPiece [.skip isBlank, .expect "[", .read isWord] [] (start line) :=
  rfl

theorem aliasName?_eq (line : List Char) :
    aliasName? line =
      follow lastPiece
        [.skip isBlank, .expect "alias", .skip isBlank, .expect "=", .skip isBlank, .read fun c => !isBlank c] []
        (start line) :=
  rfl

theorem templateAssign?_eq (line : List Char) :
    templateAssign? line =
      follow (fun pieces _ => pieces.head?.map (TemplateDeclaration.mk none))
        [.skip isBlank, .expect "<#assign", .pass isBlank, .read isWord] [] (start line) :=
  rfl

def pairedDeclaration : List Piece → Cursor → Option TemplateDeclaration
  | [collection, name], _ => some ⟨some collection, name⟩
  | _, _ => none

theorem templateList?_eq (line : List Char) :
    templateList? line =
      follow pairedDeclaration
        [.skip isBlank, .expect "<#list", .pass isBlank, .read isWord, .pass isBlank, .expect "as", .pass isBlank,
          .read isWord] [] (start line) :=
  rfl

theorem csvName?_eq (line : List Char) :
    csvName? line =
      follow (fun pieces _ => pieces.head?)
        [.skip isGap, .expect "csv", .pass isGap, .read isWord, .skip isGap, .expect "="] [] (start line) :=
  rfl

theorem listName?_eq (line : List Char) :
    listName? line =
      follow (fun pieces _ => pieces.head?)
        [.skip isBlank, .expect "list", .pass isBlank, .read isWord, .skip isBlank, .expect "="] [] (start line) :=
  rfl

def varMoves : List Move :=
  [.pass isBlank, .read isWord, .skip isBlank, .expect "="]

theorem varName?_eq (line : List Char) :
    varName? line = (words line).findSome? fun word =>
      if word.text = "var".toList then follow (fun pieces _ => pieces.head?) varMoves [] (within line word.stop)
      else none :=
  rfl

def loopPieces : List Piece → Cursor → Option (Piece × Piece)
  | [item, sign], _ => if sign.text = "in".toList then some (item, sign) else none
  | _, _ => none

theorem loopVariable?_eq (line : List Char) :
    loopVariable? line =
      follow loopPieces [.skip isBlank, .expect "for", .pass isBlank, .read isWord, .pass isBlank, .read isWord] []
        (start line) :=
  rfl

def loopMoves : List Move :=
  [.skip isGap, .expect "for", .pass isGap, .read isWord, .pass isGap, .expect "in", .pass isGap]

def keysMoves : List Move :=
  [.expect "object.keys(", .read isWord, .expect ")"]

theorem loopCollection?_eq (line : List Char) :
    loopCollection? line =
      (follow (fun pieces _ => pieces.getLast?) (loopMoves ++ keysMoves) [] (start line) <|>
        follow (fun pieces _ => pieces.getLast?) (loopMoves ++ [.read isWord]) [] (start line)) := by
  have keys (pieces : List Piece) (c : Cursor) :
      follow (fun pieces _ => pieces.getLast?) keysMoves pieces c = keysArgument? c := by
    simp only [follow, keysMoves, keysArgument?, List.getLast?_concat]
    rfl
  have name (pieces : List Piece) (c : Cursor) :
      follow (fun pieces _ => pieces.getLast?) [.read isWord] pieces c = c.name.map Prod.fst := by
    simp only [follow, List.getLast?_concat, Cursor.name]
    cases c.take isWord <;> rfl
  rw [follow_append, follow_append, ← follow_orElse]
  simp only [keys, name]
  rfl

theorem hasScriptContent_eq (line : List Char) :
    hasScriptContent line =
      (follow (fun _ c => if allBlank c.ahead then none else some ()) [.skip isBlank, .expect "script"] []
        (start line)).isSome := by
  simp only [hasScriptContent, follow]
  cases (skip isBlank (start line)).expect "script" with
  | none => rfl
  | some cursor => cases blank : allBlank cursor.ahead <;> simp [blank]

end Line

end ChartConfig
