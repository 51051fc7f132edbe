import Mathlib.Data.List.Basic

/-! A list of lists, walked by the number of a part and a place in it. A place has one number in the list that the parts are joined to. -/

namespace Jagged

open List Nat

variable {α : Type}

def start (parts : List (List α)) (i : Nat) : Nat := (parts.take i).flatten.length

def index (parts : List (List α)) (i j : Nat) : Nat := start parts i + j

variable {parts : List (List α)} {part : List α} {i i' j j' : Nat} {x : α}

@[simp] theorem start_zero : start parts 0 = 0 := rfl

theorem start_succ (h : parts[i]? = some part) : start parts (i + 1) = start parts i + part.length := by
  unfold start
  rw [take_add_one, h]
  simp

/-- Where there is no part, none is counted. -/
theorem start_add_one (parts : List (List α)) (i : Nat) : start parts (i + 1) = start parts i + (parts[i]?.getD []).length := by
  cases h : parts[i]? with
  | none =>
    unfold start
    rw [take_add_one, h]
    simp
  | some part => exact start_succ h

theorem start_mono (parts : List (List α)) (h : i ≤ i') : start parts i ≤ start parts i' := by
  induction h with
  | refl => exact Nat.le_refl _
  | step _ ih =>
    apply Nat.le_trans ih
    unfold start
    rw [take_add_one, flatten_append, length_append]
    exact Nat.le_add_right _ _

theorem start_of_length_le (h : parts.length ≤ i) : start parts i = parts.flatten.length := by
  unfold start
  rw [take_of_length_le h]

theorem start_le (parts : List (List α)) (i : Nat) : start parts i ≤ parts.flatten.length := by
  have h := start_mono parts (le_add_right i parts.length)
  rwa [start_of_length_le (le_add_left _ _)] at h

theorem getElem?_index (hi : parts[i]? = some part) (hj : part[j]? = some x) : parts.flatten[index parts i j]? = some x := by
  induction parts generalizing i with
  | nil => simp at hi
  | cons first parts ih =>
    cases i with
    | zero =>
      cases hi
      have hlt := (List.getElem?_eq_some_iff.1 hj).1
      unfold index
      rw [start_zero, Nat.zero_add, flatten_cons, getElem?_append_left hlt]
      exact hj
    | succ i =>
      have hshift : index (first :: parts) (i + 1) j = first.length + index parts i j := by
        unfold index start
        simp [Nat.add_assoc]
      rw [hshift, flatten_cons, getElem?_append_right (Nat.le_add_right _ _), Nat.add_sub_cancel_left]
      exact ih hi

theorem part_unique (i' : Nat) (hi : parts[i]? = some part) (hj : j < part.length) (hle : start parts i' ≤ index parts i j)
    (hlt : index parts i j < start parts (i' + 1)) : i = i' := by
  have hnext := start_succ hi
  unfold index at hle hlt
  rcases Nat.lt_trichotomy i i' with h | h | h
  · have hmono := start_mono parts (succ_le_of_lt h)
    rw [succ_eq_add_one] at hmono
    omega
  · exact h
  · have hmono := start_mono parts (succ_le_of_lt h)
    rw [succ_eq_add_one] at hmono
    omega

end Jagged
