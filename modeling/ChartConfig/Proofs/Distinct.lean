import Mathlib.Data.List.Nodup

/-!
# Lists without repetition

Taking repetitions away leaves each value once, at its first place. One value more is added at the end if it is new.
-/

namespace ChartConfig

variable {α : Type} [BEq α] [LawfulBEq α]

theorem nodup_eraseDups : (xs : List α) → xs.eraseDups.Nodup
  | [] => List.nodup_nil
  | x :: others => by
    rw [List.eraseDups_cons, List.nodup_cons, List.mem_eraseDups]
    exact ⟨by simp, nodup_eraseDups _⟩
termination_by xs => xs.length
decreasing_by exact Nat.lt_succ_of_le (List.length_filter_le _ _)

theorem eraseDups_concat (xs : List α) (x : α) :
    (xs ++ [x]).eraseDups = if x ∈ xs.eraseDups then xs.eraseDups else xs.eraseDups ++ [x] := by
  rw [List.eraseDups_append]
  by_cases there : x ∈ xs
  · simp [List.removeAll, there]
  · simp [List.removeAll, there, List.eraseDups_cons]

end ChartConfig
