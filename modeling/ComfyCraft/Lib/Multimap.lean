import Mathlib.Order.Lattice
import Mathlib.Data.List.Perm.Basic
import Mathlib.Data.List.TakeWhile

/-! Multimaps walked in the order of their keys: a list in that order, where a new entry goes behind those that
have its key already. The lemmas say what one insertion does to an order of the entries that refines the order of
the keys. -/

namespace Multimap

open List

variable {A B K L : Type} [LinearOrder K] [LinearOrder L]

def insert (key : A → K) (a : A) (m : List A) : List A :=
  m.takeWhile (fun b => decide (key b ≤ key a)) ++ a :: m.dropWhile (fun b => decide (key b ≤ key a))

theorem insert_perm (key : A → K) (a : A) (m : List A) : (insert key a m).Perm (a :: m) := by
  unfold insert
  refine perm_middle.trans ?_
  rw [takeWhile_append_dropWhile]

variable {key : A → K} {a b : A} {m l : List A}

theorem mem_insert : b ∈ insert key a m ↔ b = a ∨ b ∈ m := by
  rw [(insert_perm key a m).mem_iff, mem_cons]

theorem insert_cons_of_le (h : key b ≤ key a) : insert key a (b :: m) = b :: insert key a m := by
  unfold insert
  rw [takeWhile_cons_of_pos (by simpa using h), dropWhile_cons_of_pos (by simpa using h), cons_append]

/-- An entry that a filter drops goes in beside what it keeps. -/
theorem filter_insert_of_neg {p : A → Bool} (ha : ¬p a = true) : (insert key a m).filter p = m.filter p := by
  unfold insert
  rw [filter_append, filter_cons_of_neg ha, ← filter_append, takeWhile_append_dropWhile]

/-- Inserting commutes with a map that keeps the order of the keys. -/
theorem map_insert {f : A → B} {key' : B → L} (hkey : ∀ b ∈ m, key' (f b) ≤ key' (f a) ↔ key b ≤ key a) :
    (insert key a m).map f = insert key' (f a) (m.map f) := by
  induction m with
  | nil => rfl
  | cons b m ih =>
    have hb := hkey b mem_cons_self
    have ih := ih fun c hc => hkey c (mem_cons_of_mem _ hc)
    unfold insert at ih ⊢
    rw [map_cons]
    by_cases hle : key b ≤ key a
    · rw [takeWhile_cons_of_pos (by simpa using hle), dropWhile_cons_of_pos (by simpa using hle),
        takeWhile_cons_of_pos (by simpa using hb.2 hle), dropWhile_cons_of_pos (by simpa using hb.2 hle),
        cons_append, map_cons, ih, cons_append]
    · have hle' : ¬ key' (f b) ≤ key' (f a) := fun h => hle (hb.1 h)
      rw [takeWhile_cons_of_neg (by simpa using hle), dropWhile_cons_of_neg (by simpa using hle),
        takeWhile_cons_of_neg (by simpa using hle'), dropWhile_cons_of_neg (by simpa using hle')]
      rfl

/-- An order that refines the one of the keys, and puts the new entry behind those of its key, is kept. -/
theorem insert_sorted {R : A → A → Prop} (hm : m.Pairwise R)
    (hkeys : ∀ b c, R b c → key b ≤ key c) (hle : ∀ b ∈ m, key b ≤ key a → R b a) (hlt : ∀ b ∈ m, key a < key b → R a b) :
    (insert key a m).Pairwise R := by
  induction m with
  | nil => exact pairwise_singleton R a
  | cons b m ih =>
    obtain ⟨hb, hm⟩ := pairwise_cons.1 hm
    have ih := ih hm (fun c hc => hle c (mem_cons_of_mem _ hc)) fun c hc => hlt c (mem_cons_of_mem _ hc)
    by_cases hba : key b ≤ key a
    · rw [insert_cons_of_le hba, pairwise_cons]
      refine ⟨fun c hc => ?_, ih⟩
      rcases mem_insert.1 hc with rfl | hc
      · exact hle b mem_cons_self hba
      · exact hb c hc
    · have hins : insert key a (b :: m) = a :: b :: m := by
        unfold insert
        rw [takeWhile_cons_of_neg (by simpa using hba), dropWhile_cons_of_neg (by simpa using hba)]
        rfl
      rw [hins, pairwise_cons]
      refine ⟨fun c hc => ?_, pairwise_cons.2 ⟨hb, hm⟩⟩
      have hab : key a < key b := lt_of_not_ge hba
      rcases mem_cons.1 hc with rfl | hc'
      · exact hlt c mem_cons_self hab
      · exact hlt c hc (lt_of_lt_of_le hab (hkeys b c (hb c hc')))

/-- An entry goes behind those that are not above it. -/
theorem insert_append (h : ∀ b ∈ m, key b ≤ key a) : insert key a (m ++ l) = m ++ insert key a l := by
  have hall : ∀ b ∈ m, decide (key b ≤ key a) = true := fun b hb => decide_eq_true (h b hb)
  unfold insert
  rw [takeWhile_append_of_pos hall, dropWhile_append_of_pos hall, append_assoc]

/-- An entry whose key is not below any other goes to the end. -/
theorem insert_last (h : ∀ b ∈ m, key b ≤ key a) : insert key a m = m ++ [a] := by
  have hall : ∀ b ∈ m, decide (key b ≤ key a) = true := fun b hb => decide_eq_true (h b hb)
  unfold insert
  rw [takeWhile_eq_self_iff.2 hall, dropWhile_eq_nil_iff.2 hall]

/-- Entries that come in the order of their keys stay in their order. -/
theorem foldl_insert_sorted (key : A → K) (h : (m ++ l).Pairwise fun b c => key b ≤ key c) :
    l.foldl (fun m a => insert key a m) m = m ++ l := by
  induction l generalizing m with
  | nil => exact (append_nil m).symm
  | cons a l ih =>
    have hlast : insert key a m = m ++ [a] := by
      refine insert_last fun b hb => ?_
      exact (pairwise_append.1 h).2.2 b hb a mem_cons_self
    rw [append_cons] at h
    rw [foldl_cons, hlast, ih h, ← append_cons]

end Multimap
