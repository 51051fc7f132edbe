import Mathlib.Data.List.Basic

/-! Pages of a list: so many elements from a place on. -/

namespace Paging

open List Nat

variable {α : Type}

def page (size start : Nat) (l : List α) : List α := (l.drop start).take size

/-- One element more at the end comes on a page that has begun and has room. -/
theorem page_concat (size start : Nat) (l : List α) (a : α) :
    page size start (l ++ [a]) = page size start l ++ if (page size start l).length < size ∧ start ≤ l.length then [a] else [] := by
  unfold page
  rcases Nat.lt_or_ge l.length start with hlt | hle
  · have hout : (l ++ [a]).length ≤ start := by
      rw [length_append, length_singleton]
      exact hlt
    rw [drop_eq_nil_of_le (Nat.le_of_lt hlt), drop_eq_nil_of_le hout, if_neg fun h => absurd h.2 (Nat.not_le.2 hlt), append_nil]
  · rw [drop_append_of_le_length hle, length_take, length_drop]
    rcases Nat.lt_or_ge (l.length - start) size with hroom | hfull
    · rw [if_pos ⟨by omega, hle⟩, take_of_length_le (by rw [length_append, length_drop]; exact hroom),
        take_of_length_le (by rw [length_drop]; exact Nat.le_of_lt hroom)]
    · rw [if_neg fun h => absurd h.1 (by omega), append_nil, take_append_of_le_length (by rw [length_drop]; exact hfull)]

/-- The first pages hold the first elements, each once and in order. -/
theorem pages_eq (size : Nat) (l : List α) (k : Nat) : (List.range k).flatMap (fun i => page size (size * i) l) = l.take (size * k) := by
  induction k with
  | zero => rfl
  | succ k ih =>
    rw [range_succ, flatMap_append, ih, flatMap_singleton, mul_succ, take_add]
    rfl

theorem pages_all {size : Nat} (hsize : 0 < size) (l : List α) :
    (List.range ((l.length + (size - 1)) / size)).flatMap (fun i => page size (size * i) l) = l := by
  have hup : l.length ≤ size * ((l.length + (size - 1)) / size) := by
    have hdiv := lt_mul_div_succ (l.length + (size - 1)) hsize
    rw [mul_succ] at hdiv
    omega
  rw [pages_eq, take_of_length_le hup]

end Paging
