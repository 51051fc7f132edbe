import Mathlib.Algebra.BigOperators.Group.List.Basic
import Mathlib.Algebra.Ring.Nat

/-! Finding an element of a list together with its place, and what replacing or removing the
element at a place does to a sum over the list. -/

namespace Seq

open List Option

variable {α : Type}

def locate (p : α → Bool) : List α → Option (Nat × α)
  | [] => none
  | a :: l => if p a then some (0, a) else (locate p l).map fun r => (r.1 + 1, r.2)

variable {p : α → Bool} {l : List α} {i : Nat} {a b : α}

theorem locate_some (h : locate p l = some (i, a)) : l[i]? = some a ∧ p a = true := by
  induction l generalizing i with
  | nil => cases h
  | cons b l ih =>
    unfold locate at h
    split_ifs at h with hb
    · cases h; exact ⟨rfl, hb⟩
    obtain ⟨⟨j, c⟩, hj, hji⟩ := map_eq_some_iff.1 h
    cases hji
    exact ih hj

theorem locate_none (h : locate p l = none) : ∀ a ∈ l, p a = false := by
  induction l with
  | nil => intro a ha; cases ha
  | cons b l ih =>
    unfold locate at h
    split_ifs at h with hb
    rw [map_eq_none_iff] at h
    intro a ha
    rcases mem_cons.1 ha with rfl | ha
    · exact Bool.eq_false_iff.2 hb
    · exact ih h a ha

theorem sum_set (w : α → Nat) (b : α) (h : l[i]? = some a) : ((l.set i b).map w).sum + w a = (l.map w).sum + w b := by
  induction l generalizing i with
  | nil => cases h
  | cons c l ih =>
    cases i with
    | zero => cases h; simp only [set_cons_zero, map_cons, sum_cons]; omega
    | succ i =>
      have := ih h
      simp only [set_cons_succ, map_cons, sum_cons]
      omega

theorem sum_eraseIdx (w : α → Nat) (h : l[i]? = some a) : ((l.eraseIdx i).map w).sum + w a = (l.map w).sum := by
  induction l generalizing i with
  | nil => cases h
  | cons c l ih =>
    cases i with
    | zero => cases h; simp only [eraseIdx_cons_zero, map_cons, sum_cons]; omega
    | succ i =>
      have := ih h
      simp only [eraseIdx_cons_succ, map_cons, sum_cons]
      omega

theorem sum_append_single (w : α → Nat) (l : List α) (a : α) : ((l ++ [a]).map w).sum = (l.map w).sum + w a := by
  simp

section Keyed

variable {κ : Type} {k : α → κ}

variable {l : List α} {i : Nat} {a b : α}

/-- Replacing an element by one with the same key leaves the keys as they were. -/
theorem map_set_same (hi : l[i]? = some a) (hk : k b = k a) : (l.set i b).map k = l.map k := by
  induction l generalizing i with
  | nil => rfl
  | cons c l ih =>
    cases i with
    | zero => cases hi; rw [set_cons_zero, map_cons, map_cons, hk]
    | succ i => rw [set_cons_succ, map_cons, map_cons, ih hi]

theorem key_ne_of_mem (h : ((a :: l).map k).Nodup) (hb : b ∈ l) : k b ≠ k a := by
  rw [map_cons, nodup_cons] at h
  exact fun he => h.1 (mem_map.2 ⟨b, hb, he⟩)

variable [DecidableEq κ]

/-- Where keys are distinct, the element at a place is replaced by replacing what has its key. -/
theorem set_eq_map (b : α) (h : (l.map k).Nodup) (hi : l[i]? = some a) :
    l.set i b = l.map fun x => if k x = k a then b else x := by
  induction l generalizing i with
  | nil => cases hi
  | cons c l ih =>
    cases i with
    | zero =>
      cases hi
      rw [set_cons_zero, map_cons, if_pos rfl]
      congr 1
      exact (map_id'' (fun x => rfl) l).symm.trans (map_congr_left fun x hx => (if_neg (key_ne_of_mem h hx)).symm)
    | succ i =>
      have hne := key_ne_of_mem h (mem_of_getElem? hi : a ∈ l)
      rw [set_cons_succ, map_cons, if_neg hne.symm, ih (nodup_cons.1 h).2 hi]

theorem eraseIdx_eq_filter (h : (l.map k).Nodup) (hi : l[i]? = some a) : l.eraseIdx i = l.filter fun x => k x ≠ k a := by
  induction l generalizing i with
  | nil => cases hi
  | cons c l ih =>
    cases i with
    | zero =>
      cases hi
      rw [eraseIdx_cons_zero, filter_cons_of_neg (by simp)]
      exact (filter_eq_self.2 fun x hx => by simpa using key_ne_of_mem h hx).symm
    | succ i =>
      have hne := key_ne_of_mem h (mem_of_getElem? hi : a ∈ l)
      rw [eraseIdx_cons_succ, filter_cons_of_pos (by simpa using hne.symm), ih (nodup_cons.1 h).2 hi]

end Keyed

end Seq
