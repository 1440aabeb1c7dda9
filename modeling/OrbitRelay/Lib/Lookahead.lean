import Mathlib.Data.List.Basic

/-! Reading the matches of a list in portions: where a portion ends in the list, and what
one element of look-ahead tells. -/
namespace Lookahead
variable {α : Type*} (f : α → Bool)

/-- The first `n` matches end at a position of the list, whose element is the last of them. -/
theorem exists_take_filter_eq (xs : List α) {n : Nat} (hn : 0 < n)
    (hle : n ≤ (xs.filter f).length) :
    ∃ (i : Nat) (hi : i < xs.length), (xs.take (i + 1)).filter f = (xs.filter f).take n ∧
      ((xs.filter f).take n).getLast? = some xs[i] := by
  induction xs generalizing n with
  | nil =>
    simp only [List.filter_nil, List.length_nil] at hle
    omega
  | cons x xs ih =>
    by_cases hx : f x = true
    · rw [List.filter_cons_of_pos hx] at hle ⊢
      obtain ⟨m, rfl⟩ : ∃ m, n = m + 1 := ⟨n - 1, by omega⟩
      rcases Nat.eq_zero_or_pos m with rfl | hm
      · exact ⟨0, by simp, by simp [hx], by simp⟩
      · obtain ⟨i, hi, htake, hlast⟩ := ih hm (by simpa using hle)
        refine ⟨i + 1, by simpa using hi, ?_, ?_⟩
        · rw [List.take_succ_cons, List.filter_cons_of_pos hx, htake, List.take_succ_cons]
        · have hne : (xs.filter f).take m ≠ [] := by
            intro hnil
            rw [hnil] at hlast
            cases hlast
          rw [List.take_succ_cons, List.getLast?_cons_of_ne_nil hne, hlast, List.getElem_cons_succ]
    · rw [List.filter_cons_of_neg hx] at hle ⊢
      obtain ⟨i, hi, htake, hlast⟩ := ih hn hle
      refine ⟨i + 1, by simpa using hi, ?_, ?_⟩
      · rw [List.take_succ_cons, List.filter_cons_of_neg hx, htake]
      · rw [hlast, List.getElem_cons_succ]

end Lookahead
