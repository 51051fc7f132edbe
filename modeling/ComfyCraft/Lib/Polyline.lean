import Mathlib.Algebra.Order.Group.Defs

/-! The length of a line of points under a distance, that leaving points out makes no line longer, and the beginning of a line up to where
it is long enough. -/

namespace Polyline

open List Nat

variable {α R : Type} [AddCommGroup R] (d : α → α → R)

def length : List α → R
  | a :: b :: l => d a b + length (b :: l)
  | _ => 0

/-! ### Beginnings -/

/-- The beginning of a line from a point on: at most so many points, and none behind the first where the length is enough. -/
def cut (d : α → α → R) (enough : R → Bool) : Nat → R → α → List α → List α
  | 0, _, _, _ => []
  | _ + 1, _, _, [] => []
  | n + 1, acc, a, b :: l => b :: if enough (acc + d a b) then [] else cut d enough n (acc + d a b) b l

variable {d} {enough : R → Bool} {n : Nat} {acc : R} {a : α} {l : List α}

@[simp] theorem cut_zero (d : α → α → R) (enough : R → Bool) (acc : R) (a : α) (l : List α) : cut d enough 0 acc a l = [] := rfl

@[simp] theorem cut_nil (d : α → α → R) (enough : R → Bool) (n : Nat) (acc : R) (a : α) : cut d enough n acc a [] = [] := by
  cases n <;> rfl

theorem cut_prefix (d : α → α → R) (enough : R → Bool) (n : Nat) (acc : R) (a : α) (l : List α) : cut d enough n acc a l <+: l := by
  induction n generalizing acc a l with
  | zero => exact nil_prefix
  | succ n ih =>
    cases l with
    | nil => exact nil_prefix
    | cons b l =>
      unfold cut
      split_ifs
      · exact ⟨l, rfl⟩
      · exact (prefix_cons_inj b).2 (ih _ _ _)

theorem length_cut_le (d : α → α → R) (enough : R → Bool) (n : Nat) (acc : R) (a : α) (l : List α) :
    (cut d enough n acc a l).length ≤ n := by
  induction n generalizing acc a l with
  | zero => exact le_refl _
  | succ n ih =>
    cases l with
    | nil => exact zero_le _
    | cons b l =>
      unfold cut
      split_ifs
      · simp
      · simpa using ih _ _ _

theorem cut_ne_nil (hn : 0 < n) {l : List α} (hl : l ≠ []) : cut d enough n acc a l ≠ [] := by
  cases n with
  | zero => exact absurd hn (lt_irrefl 0)
  | succ n =>
    cases l with
    | nil => exact absurd rfl hl
    | cons b l => exact cons_ne_nil _ _

/-- Before its last point the beginning is not long enough. -/
theorem cut_short {j : Nat} (hpos : 0 < j) (hj : j < (cut d enough n acc a l).length) :
    enough (acc + length d (a :: (cut d enough n acc a l).take j)) = false := by
  induction n generalizing acc a l j with
  | zero => exact absurd hj (not_lt_zero j)
  | succ n ih =>
    cases l with
    | nil => exact absurd hj (not_lt_zero j)
    | cons b l =>
      unfold cut at hj ⊢
      split_ifs at hj ⊢ with hfull
      · exact absurd hj (not_lt.2 hpos)
      obtain ⟨j, rfl⟩ : ∃ i, j = i + 1 := ⟨j - 1, by omega⟩
      rw [take_succ_cons, length, ← add_assoc]
      cases j with
      | zero => simpa [length] using hfull
      | succ j => exact ih (succ_pos j) (lt_of_succ_lt_succ hj)

/-- Why the beginning ends: the line does, so many points are there, or it is long enough. -/
theorem cut_ends (d : α → α → R) (enough : R → Bool) (n : Nat) (acc : R) (a : α) (l : List α) :
    cut d enough n acc a l = l ∨ (cut d enough n acc a l).length = n ∨
      cut d enough n acc a l ≠ [] ∧ enough (acc + length d (a :: cut d enough n acc a l)) = true := by
  induction n generalizing acc a l with
  | zero => exact .inr (.inl rfl)
  | succ n ih =>
    cases l with
    | nil => exact .inl rfl
    | cons b l =>
      unfold cut
      split_ifs with hfull
      · exact .inr (.inr ⟨cons_ne_nil _ _, by simpa [length] using hfull⟩)
      rcases ih (acc + d a b) b l with hall | hcount | ⟨-, hlong⟩
      · exact .inl (congrArg _ hall)
      · exact .inr (.inl (congrArg _ hcount))
      refine .inr (.inr ⟨cons_ne_nil _ _, ?_⟩)
      rw [length, ← add_assoc]
      exact hlong

/-! ### Distances -/

variable [LinearOrder R] [IsOrderedAddMonoid R]

/-- A distance as far as lengths need it. -/
structure IsDistance (d : α → α → R) : Prop where
  nonneg : ∀ a b, 0 ≤ d a b
  triangle : ∀ a b c, d a c ≤ d a b + d b c

variable {b : α} {l' : List α}

theorem length_nonneg (h : IsDistance d) (l : List α) : 0 ≤ length d l := by
  induction l with
  | nil => exact le_rfl
  | cons a l ih =>
    cases l with
    | nil => exact le_rfl
    | cons b l => exact add_nonneg (h.nonneg a b) ih

theorem length_cons_le (h : IsDistance d) (a b : α) (l : List α) : length d (a :: l) ≤ length d (a :: b :: l) := by
  cases l with
  | nil => exact length_nonneg h _
  | cons c l =>
    change d a c + length d (c :: l) ≤ d a b + (d b c + length d (c :: l))
    rw [← add_assoc]
    exact add_le_add_left (h.triangle a b c) _

theorem length_cons_mono (h : IsDistance d) (a : α) (hl : l.Sublist l') : length d (a :: l) ≤ length d (a :: l') := by
  induction hl generalizing a with
  | slnil => exact le_rfl
  | cons b _ ih => exact (ih a).trans (length_cons_le h a b _)
  | cons_cons b _ ih => exact add_le_add_right (ih b) _

theorem length_mono (h : IsDistance d) (hl : l.Sublist l') : length d l ≤ length d l' := by
  induction hl with
  | slnil => exact le_rfl
  | @cons l l' b _ ih =>
    refine ih.trans ?_
    cases l' with
    | nil => exact le_rfl
    | cons c l' => exact le_add_of_nonneg_left (h.nonneg b c)
  | cons_cons b hl _ => exact length_cons_mono h b hl

end Polyline
