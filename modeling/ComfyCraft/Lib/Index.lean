import Mathlib.Data.List.Nodup

/-! A secondary index: a list of keys and values that holds each pair of a relation exactly once, whatever its
order. Adding a new pair and removing the first pair that a test finds keep it an index. -/

structure Index {K A : Type} (m : List (K × A)) (R : K → A → Prop) : Prop where
  nodup : m.Nodup
  mem_iff : ∀ k a, (k, a) ∈ m ↔ R k a

namespace Index

open List Prod

variable {K A : Type} {m : List (K × A)} {R R' : K → A → Prop}

theorem nil (h : ∀ k a, ¬ R k a) : Index [] R where
  nodup := nodup_nil
  mem_iff k a := ⟨fun hm => (not_mem_nil hm).elim, fun hr => (h k a hr).elim⟩

theorem congr (hm : Index m R) (h : ∀ k a, R' k a ↔ R k a) : Index m R' where
  nodup := hm.nodup
  mem_iff k a := (hm.mem_iff k a).trans (h k a).symm

theorem add (hm : Index m R) {k₀ : K} {a₀ : A} (hnew : ¬ R k₀ a₀) (h : ∀ k a, R' k a ↔ R k a ∨ (k = k₀ ∧ a = a₀)) :
    Index (m ++ [(k₀, a₀)]) R' where
  nodup := by
    apply List.Nodup.append hm.nodup (nodup_singleton _)
    intro x hx hx'
    rw [mem_singleton.1 hx'] at hx
    exact hnew ((hm.mem_iff k₀ a₀).1 hx)
  mem_iff k a := by
    rw [h, mem_append, hm.mem_iff, mem_singleton, mk.injEq]

variable {p : K × A → Bool}

theorem mem_eraseP {l : List (K × A)} {x : K × A} (hnodup : l.Nodup)
    (hp : ∀ y ∈ l, p y = true ↔ y = x) (y : K × A) : y ∈ l.eraseP p ↔ y ∈ l ∧ y ≠ x := by
  induction l with
  | nil => simp
  | cons z l ih =>
    obtain ⟨hz, hrest⟩ := nodup_cons.1 hnodup
    have ih := ih hrest fun y hy => hp y (mem_cons_of_mem _ hy)
    by_cases hfirst : p z = true
    · have heq := (hp z mem_cons_self).1 hfirst
      subst heq
      rw [eraseP_cons_of_pos hfirst, mem_cons]
      constructor
      · intro hy
        refine ⟨.inr hy, ?_⟩
        rintro rfl
        exact hz hy
      · rintro ⟨rfl | hy, hne⟩
        · exact absurd rfl hne
        · exact hy
    · rw [eraseP_cons_of_neg hfirst, mem_cons, mem_cons, ih]
      constructor
      · rintro (rfl | ⟨hy, hne⟩)
        · exact ⟨.inl rfl, fun heq => hfirst ((hp y mem_cons_self).2 heq)⟩
        · exact ⟨.inr hy, hne⟩
      · rintro ⟨rfl | hy, hne⟩
        · exact .inl rfl
        · exact .inr ⟨hy, hne⟩

/-- The test finds one pair of the index, and that pair goes. -/
theorem remove (hm : Index m R) (k₀ : K) (a₀ : A)
    (hp : ∀ k a, R k a → (p (k, a) = true ↔ (k = k₀ ∧ a = a₀))) (h : ∀ k a, R' k a ↔ R k a ∧ ¬ (k = k₀ ∧ a = a₀)) :
    Index (m.eraseP p) R' where
  nodup := hm.nodup.sublist eraseP_sublist
  mem_iff k a := by
    have hunique : ∀ y ∈ m, p y = true ↔ y = (k₀, a₀) := by
      rintro ⟨k, a⟩ hy
      rw [hp k a ((hm.mem_iff k a).1 hy), mk.injEq]
    rw [mem_eraseP hm.nodup hunique, hm.mem_iff, h, ne_eq, mk.injEq]

/-- A test that finds nothing changes nothing. -/
theorem remove_none (hm : Index m R) (hp : ∀ k a, R k a → p (k, a) = false) : m.eraseP p = m := by
  apply eraseP_of_forall_not
  rintro ⟨k, a⟩ hy
  rw [hp k a ((hm.mem_iff k a).1 hy)]
  exact Bool.false_ne_true

end Index
