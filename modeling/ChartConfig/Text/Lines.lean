/-!
# Lines

A line break is LF, CR LF or a lone CR. `normalizeBreaks` turns each into LF, `splitLines` cuts a
normalised text at LF, and `joinLines` puts LF between lines. A text always has at least one line,
and the lines of a text are one more than its breaks.
-/

namespace ChartConfig.Text

def normalizeBreaks : List Char → List Char
  | [] => []
  | '\r' :: '\n' :: cs => '\n' :: normalizeBreaks cs
  | c :: cs => (if c = '\r' then '\n' else c) :: normalizeBreaks cs

def splitAtBreaks : List Char → List (List Char)
  | [] => [[]]
  | c :: cs =>
    if c = '\n' then [] :: splitAtBreaks cs
    else
      match splitAtBreaks cs with
      | [] => [[c]]
      | line :: rest => (c :: line) :: rest

def splitLines (text : List Char) : List (List Char) :=
  splitAtBreaks (normalizeBreaks text)

def joinLines : List (List Char) → List Char
  | [] => []
  | [line] => line
  | line :: rest => line ++ '\n' :: joinLines rest

theorem splitAtBreaks_ne_nil (text : List Char) : splitAtBreaks text ≠ [] := by
  induction text with
  | nil => simp [splitAtBreaks]
  | cons c cs ih =>
    unfold splitAtBreaks
    split
    · simp
    · split <;> simp

theorem joinLines_splitAtBreaks (text : List Char) : joinLines (splitAtBreaks text) = text := by
  induction text with
  | nil => rfl
  | cons c cs ih =>
    unfold splitAtBreaks
    split
    · next h =>
      subst h
      cases hs : splitAtBreaks cs with
      | nil => exact absurd hs (splitAtBreaks_ne_nil cs)
      | cons line rest => simp [joinLines, ← hs, ih]
    · cases hs : splitAtBreaks cs with
      | nil => exact absurd hs (splitAtBreaks_ne_nil cs)
      | cons line rest =>
        rw [hs] at ih
        cases rest with
        | nil => simp_all [joinLines]
        | cons next rest => simp_all [joinLines]

theorem not_mem_of_mem_splitAtBreaks {text line : List Char} (member : line ∈ splitAtBreaks text) :
    '\n' ∉ line := by
  induction text generalizing line with
  | nil => simp_all [splitAtBreaks]
  | cons c cs ih =>
    unfold splitAtBreaks at member
    split at member
    · cases member with
      | head => simp
      | tail _ member => exact ih member
    · next other =>
      cases hs : splitAtBreaks cs with
      | nil => exact absurd hs (splitAtBreaks_ne_nil cs)
      | cons first rest =>
        rw [hs] at member ih
        cases member with
        | head =>
          have free : '\n' ∉ first := ih (List.mem_cons_self ..)
          simp [free, Ne.symm other]
        | tail _ member => exact ih (List.mem_cons_of_mem _ member)

end ChartConfig.Text
