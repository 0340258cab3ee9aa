import ChartConfig.Hover
import ChartConfig.Proofs.Text.Blank

/-!
# Hover and the name before the sign

A hover looks for the trimmed name, byte by byte, in the text that it was trimmed from, and turns bytes into columns
afterwards. As the name begins with a character that is no blank and only blanks stand before it, the first place where
it is found is the place where it was: `Hover.find?` answers exactly on the columns of the name before the first sign.
-/

namespace ChartConfig

open Text

/-! ## The name before the sign -/

/-- The piece is the name that stands before the first `=` of the line, between blanks. -/
inductive NameBeforeSign : List Char → Piece → Prop
  | intro {blanks name more after : List Char} (leading : ∀ c ∈ blanks, isBlank c = true)
    (trailing : ∀ c ∈ more, isBlank c = true) (noSign : '=' ∉ name) (nonempty : name ≠ [])
    (first : ∀ c, name.head? = some c → isBlank c = false)
    (last : ∀ c, name.getLast? = some c → isBlank c = false) :
    NameBeforeSign (blanks ++ name ++ more ++ '=' :: after) ⟨blanks.length, name⟩

theorem sign_not_mem_of_blank {cs : List Char} (blank : ∀ c ∈ cs, isBlank c = true) : '=' ∉ cs := fun isThere => by
  cases blank '=' isThere

theorem beforeSign?_eq_some {line before : List Char} :
    Hover.beforeSign? line = some before ↔ '=' ∉ before ∧ ∃ after, line = before ++ '=' :: after := by
  constructor
  · intro found
    simp only [Hover.beforeSign?, List.contains_iff_mem] at found
    split at found
    · next sign =>
      cases found
      refine ⟨fun isThere => by simpa using List.mem_takeWhile_imp isThere, ?_⟩
      have whole := List.takeWhile_append_dropWhile (p := (· != '=')) (l := line)
      cases rest : line.dropWhile (· != '=') with
      | nil =>
        rw [rest, List.append_nil] at whole
        have passed := List.mem_takeWhile_imp (whole.symm ▸ sign)
        cases passed
      | cons c after =>
        have stops := List.head?_dropWhile_not (· != '=') line
        rw [rest] at stops
        obtain rfl : c = '=' := by simpa using stops
        exact ⟨after, by rw [← rest, whole]⟩
    · cases found
  · rintro ⟨noSign, after, rfl⟩
    have passed : ∀ c ∈ before, (c != '=') = true := fun c isThere => by
      simpa using fun isSign : c = '=' => noSign (isSign ▸ isThere)
    rw [Hover.beforeSign?, if_pos (by simp), List.takeWhile_append_of_pos passed]
    simp

theorem beforeSign?_between {blanks name more : List Char} (leading : ∀ c ∈ blanks, isBlank c = true)
    (trailing : ∀ c ∈ more, isBlank c = true) (noSign : '=' ∉ name) (after : List Char) :
    Hover.beforeSign? (blanks ++ name ++ more ++ '=' :: after) = some (blanks ++ name ++ more) := by
  refine beforeSign?_eq_some.mpr ⟨?_, after, rfl⟩
  simp [sign_not_mem_of_blank leading, sign_not_mem_of_blank trailing, noSign]

theorem nameBeforeSign_iff {line : List Char} {p : Piece} :
    NameBeforeSign line p ↔
      ∃ before, Hover.beforeSign? line = some before ∧ trim before ≠ [] ∧
        p = ⟨(leadingBlanks before).length, trim before⟩ := by
  constructor
  · rintro @⟨blanks, name, more, after, leading, trailing, noSign, nonempty, first, last⟩
    have trimmed := trim_between leading trailing first last nonempty
    have begins : leadingBlanks (name ++ more) = [] := by
      cases name with
      | nil => exact absurd rfl nonempty
      | cons c name => simp [leadingBlanks, first c rfl]
    refine ⟨blanks ++ name ++ more, beforeSign?_between leading trailing noSign after, trimmed.symm ▸ nonempty, ?_⟩
    rw [trimmed, List.append_assoc, leadingBlanks, List.takeWhile_append_of_pos leading, ← leadingBlanks, begins,
      List.append_nil]
  · rintro ⟨before, found, nonempty, rfl⟩
    obtain ⟨noSign, after, rfl⟩ := beforeSign?_eq_some.mp found
    obtain ⟨more, trailing, text⟩ := exists_trimEnd_append (trimStart before)
    have whole : leadingBlanks before ++ trim before ++ more = before := by
      rw [List.append_assoc, trim, text, leadingBlanks_append_trimStart]
    have inName : '=' ∉ trim before := fun isThere => noSign (by rw [← whole]; simp [isThere])
    have named : NameBeforeSign (leadingBlanks before ++ trim before ++ more ++ '=' :: after) _ :=
      .intro (fun c isThere => isBlank_of_mem_leadingBlanks isThere) trailing inName nonempty
        (trimStart_eq_self_iff.mp (trimStart_trim before)) (trimEnd_eq_self_iff.mp (trimEnd_trimEnd _))
    rwa [whole] at named

theorem NameBeforeSign.sign_not_mem {line : List Char} {p : Piece} (named : NameBeforeSign line p) : '=' ∉ p.text := by
  obtain ⟨-, -, noSign, -, -, -⟩ := named
  exact noSign

/-! ## Hover -/

/-- The search finds the name where it was trimmed from, in bytes, and the columns are those of the name. -/
theorem NameBeforeSign.range_eq {line : List Char} {p : Piece} (named : NameBeforeSign line p) (number : Nat) :
    ∃ before first, Hover.beforeSign? line = some before ∧ trim before = p.text ∧ byteOf? p.text before = some first ∧
      Range.onLine number (columnOfByte line first) (columnOfByte line (first + byteLength p.text)) =
        p.range number := by
  obtain @⟨blanks, name, more, after, leading, trailing, noSign, nonempty, first, last⟩ := named
  obtain ⟨c, leads⟩ : ∃ c, name.head? = some c := Option.isSome_iff_exists.mp (List.isSome_head?.mpr nonempty)
  have other : ∀ d ∈ blanks, d ≠ c := by
    rintro d isThere rfl
    have notBlank := first d leads
    rw [leading d isThere] at notBlank
    cases notBlank
  have begins := columnOfByte_append blanks (name ++ (more ++ '=' :: after))
  have ends := columnOfByte_append (blanks ++ name) (more ++ '=' :: after)
  rw [byteLength_append] at ends
  simp only [List.append_assoc] at begins ends
  refine ⟨blanks ++ name ++ more, byteLength blanks, beforeSign?_between leading trailing noSign after,
    trim_between leading trailing first last nonempty, byteOf?_append leads other more, ?_⟩
  simp only [List.append_assoc, begins, ends, Piece.range, Piece.stop, List.length_append]

theorem NameBeforeSign.onLine_eq {line : List Char} {name : Piece} (named : NameBeforeSign line name)
    (position : Position) (r : Registry) :
    Hover.onLine line position r =
      (r.lookup name.word).bind fun setting =>
        if (name.range position.line).contains position then some ⟨setting.description, name.range position.line⟩
        else none := by
  obtain ⟨before, first, found, trimmed, place, range⟩ := named.range_eq position.line
  have nonempty : name.text.isEmpty = false := by
    obtain ⟨-, -, -, nonempty, -, -⟩ := named
    simpa using nonempty
  rw [Hover.onLine, found]
  simp only [Option.bind_eq_bind, Option.bind_some, trimmed, nonempty, Bool.false_eq_true, if_false, Hover.onName, place,
    range]
  rfl

theorem contains_onLine (name : Piece) (position : Position) :
    (name.range position.line).contains position = true ↔
      name.column ≤ position.character ∧ position.character < name.stop := by
  simp only [Piece.range, Range.onLine, Range.contains, Position.le, Position.lt, Bool.and_eq_true, Bool.or_eq_true,
    beq_self_eq_true, Bool.true_and, Nat.lt_irrefl, decide_false, Bool.false_eq_true, false_or]
  exact and_congr decide_eq_true_iff decide_eq_true_iff

/-- A hover is found exactly if the line of the position exists, has a name before its first sign that is the name of a
    setting, and the position is in the columns of that name; it has the description of the setting and these columns. -/
theorem hover_at_name (text : String) (position : Position) (r : Registry) (hover : Hover) :
    Hover.find? text position r = some hover ↔
      ∃ line name setting, (Document.lines text)[position.line]? = some line ∧ NameBeforeSign line name ∧
        r.lookup name.word = some setting ∧
        name.column ≤ position.character ∧ position.character < name.stop ∧
        hover = ⟨setting.description, Range.onLine position.line name.column name.stop⟩ := by
  rw [Hover.find?, Option.bind_eq_bind, Option.bind_eq_some_iff]
  constructor
  · rintro ⟨line, isLine, found⟩
    obtain ⟨before, cut, answer⟩ := Option.bind_eq_some_iff.mp found
    by_cases nonempty : trim before = []
    · simp [nonempty] at answer
    · have named : NameBeforeSign line _ := nameBeforeSign_iff.mpr ⟨before, cut, nonempty, rfl⟩
      rw [named.onLine_eq, Option.bind_eq_some_iff] at found
      obtain ⟨setting, isSetting, found⟩ := found
      split at found
      · next inside =>
        cases found
        obtain ⟨first, last⟩ := (contains_onLine _ position).mp inside
        exact ⟨line, _, setting, isLine, named, isSetting, first, last, rfl⟩
      · cases found
  · rintro ⟨line, name, setting, isLine, named, isSetting, first, last, rfl⟩
    refine ⟨line, isLine, ?_⟩
    rw [named.onLine_eq, isSetting, Option.bind_some, if_pos ((contains_onLine name position).mpr ⟨first, last⟩)]
    rfl

end ChartConfig
