import Mathlib.Data.List.DropRight
import Mathlib.Data.List.TakeWhile
import ChartConfig.Text.Blank

/-!
# Trimming

A line that is not blank is made up of its leading blanks, its trimmed text and its trailing blanks. The trimmed
text neither begins nor ends with a blank, so new blanks around it are exactly what trimming takes away.
-/

namespace ChartConfig.Text

variable {cs blanks : List Char}

theorem prefix_trimEnd (cs : List Char) : trimEnd cs <+: cs :=
  List.rdropWhile_prefix isBlank cs

theorem trimEnd_trimEnd (cs : List Char) : trimEnd (trimEnd cs) = trimEnd cs :=
  List.rdropWhile_idempotent isBlank cs

theorem allBlank_iff : allBlank cs = true ↔ ∀ c ∈ cs, isBlank c = true :=
  List.all_eq_true

theorem trimEnd_eq_nil : trimEnd cs = [] ↔ allBlank cs = true := by
  rw [allBlank_iff]
  exact List.rdropWhile_eq_nil_iff

theorem trimEnd_append_blanks (cs : List Char) (blank : ∀ c ∈ blanks, isBlank c = true) :
    trimEnd (cs ++ blanks) = trimEnd cs := by
  unfold trimEnd dropEndWhile
  rw [List.reverse_append, List.dropWhile_append_of_pos]
  exact fun c member => blank c (List.mem_reverse.mp member)

theorem trimEnd_append (before : List Char) (notBlank : allBlank cs = false) :
    trimEnd (before ++ cs) = before ++ trimEnd cs := by
  have stops : cs.reverse.dropWhile isBlank ≠ [] := by
    intro nothing
    have trimmed : trimEnd cs = [] := by
      unfold trimEnd dropEndWhile
      rw [nothing, List.reverse_nil]
    rw [trimEnd_eq_nil.mp trimmed] at notBlank
    cases notBlank
  unfold trimEnd dropEndWhile
  rw [List.reverse_append, List.dropWhile_append, if_neg (by simpa using stops), List.reverse_append,
    List.reverse_reverse]

theorem exists_trimEnd_append (cs : List Char) :
    ∃ after, (∀ c ∈ after, isBlank c = true) ∧ trimEnd cs ++ after = cs := by
  refine ⟨(cs.reverse.takeWhile isBlank).reverse, ?_, ?_⟩
  · intro c member
    exact List.mem_takeWhile_imp (List.mem_reverse.mp member)
  · rw [trimEnd, dropEndWhile, ← List.reverse_append, List.takeWhile_append_dropWhile, List.reverse_reverse]

/-! ## The text between the blanks -/

theorem isBlank_of_mem_leadingBlanks {c : Char} (member : c ∈ leadingBlanks cs) : isBlank c = true :=
  List.mem_takeWhile_imp member

theorem allBlank_trimStart (cs : List Char) : allBlank (trimStart cs) = allBlank cs := by
  have leading : (leadingBlanks cs).all isBlank = true :=
    List.all_eq_true.mpr fun c member => isBlank_of_mem_leadingBlanks member
  conv_rhs => rw [← leadingBlanks_append_trimStart cs]
  rw [allBlank, allBlank, List.all_append, leading, Bool.true_and]

theorem leadingBlanks_append_trim (notBlank : allBlank cs = false) : leadingBlanks cs ++ trim cs = trimEnd cs := by
  have text : allBlank (trimStart cs) = false := (allBlank_trimStart cs).trans notBlank
  calc leadingBlanks cs ++ trim cs
      = trimEnd (leadingBlanks cs ++ trimStart cs) := (trimEnd_append (leadingBlanks cs) text).symm
    _ = trimEnd cs := by rw [leadingBlanks_append_trimStart]

theorem trim_ne_nil (notBlank : allBlank cs = false) : trim cs ≠ [] := by
  intro nothing
  rw [← allBlank_trimStart, trimEnd_eq_nil.mp nothing] at notBlank
  cases notBlank

theorem allBlank_trim (notBlank : allBlank cs = false) : allBlank (trim cs) = false := by
  rw [Bool.eq_false_iff]
  intro blank
  have nothing : trimEnd (trim cs) = [] := trimEnd_eq_nil.mpr blank
  rw [trim, trimEnd_trimEnd] at nothing
  exact trim_ne_nil notBlank nothing

theorem trimStart_trim (cs : List Char) : trimStart (trim cs) = trim cs := by
  have leads : trim cs <+: trimStart cs := prefix_trimEnd _
  unfold trimStart at leads ⊢
  cases text : trim cs with
  | nil => rfl
  | cons c rest =>
    rw [text] at leads
    obtain ⟨more, same⟩ := leads
    have first := List.head?_dropWhile_not isBlank cs
    rw [← same] at first
    simp only [List.cons_append, List.head?_cons] at first
    rw [List.dropWhile_cons, if_neg (by simpa using first)]

theorem trimStart_append (blank : ∀ c ∈ blanks, isBlank c = true) (cs : List Char) :
    trimStart (blanks ++ cs) = trimStart cs :=
  List.dropWhile_append_of_pos blank

theorem trim_append_trim (blank : ∀ c ∈ blanks, isBlank c = true) (cs : List Char) :
    trim (blanks ++ trim cs) = trim cs := by
  rw [trim, trimStart_append blank, trimStart_trim, trim, trimEnd_trimEnd]

theorem trimStart_eq_self_iff : trimStart cs = cs ↔ ∀ c, cs.head? = some c → isBlank c = false := by
  cases cs with
  | nil => simp [trimStart]
  | cons d cs => simp [trimStart, List.dropWhile_eq_self_iff]

theorem trimEnd_eq_self_iff : trimEnd cs = cs ↔ ∀ c, cs.getLast? = some c → isBlank c = false := by
  have same : trimEnd cs = cs ↔ ∀ hl : cs ≠ [], ¬ isBlank (cs.getLast hl) = true := List.rdropWhile_eq_self_iff
  rw [same]
  constructor
  · intro stops c isLast
    obtain ⟨nonempty, rfl⟩ := List.mem_getLast?_eq_getLast isLast
    simpa using stops nonempty
  · intro stops nonempty
    simpa using stops _ (List.getLast?_eq_some_getLast nonempty)

theorem trim_between {blanks name more : List Char} (leading : ∀ c ∈ blanks, isBlank c = true)
    (trailing : ∀ c ∈ more, isBlank c = true) (first : ∀ c, name.head? = some c → isBlank c = false)
    (last : ∀ c, name.getLast? = some c → isBlank c = false) (nonempty : name ≠ []) :
    trim (blanks ++ name ++ more) = name := by
  have starts : trimStart (name ++ more) = name ++ more :=
    trimStart_eq_self_iff.mpr fun c isFirst => first c (by rwa [List.head?_append_of_ne_nil _ nonempty] at isFirst)
  rw [trim, List.append_assoc, trimStart_append leading, starts, trimEnd_append_blanks name trailing,
    trimEnd_eq_self_iff.mpr last]

end ChartConfig.Text
