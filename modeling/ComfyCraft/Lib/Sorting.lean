import Mathlib.Algebra.Order.Ring.Abs
import Mathlib.Data.List.Sort
import Mathlib.Tactic.Linarith

/-! What sorting needs of a comparison, and what it gives for it: the comparison has to be a strict weak order on the elements of the
list, and nothing of the sorted list is before what stands ahead of it. At the end, comparisons with a tolerance. -/

namespace Sorting

open List Bool

variable {α : Type}

/-- A strict weak order on the elements of a list. -/
structure StrictWeakOn (lt : α → α → Bool) (l : List α) : Prop where
  irrefl : ∀ a ∈ l, lt a a = false
  trans : ∀ a ∈ l, ∀ b ∈ l, ∀ c ∈ l, lt a b = true → lt b c = true → lt a c = true
  incomp_trans : ∀ a ∈ l, ∀ b ∈ l, ∀ c ∈ l, lt a b = false → lt b a = false → lt b c = false → lt c b = false → lt a c = false

variable {lt : α → α → Bool} {l l' : List α} {a b c : α}

theorem StrictWeakOn.asymm (h : StrictWeakOn lt l) (ha : a ∈ l) (hb : b ∈ l) (hab : lt a b = true) : lt b a = false := by
  by_contra hba
  rw [not_eq_false] at hba
  have haa := h.trans a ha b hb a ha hab hba
  rw [h.irrefl a ha] at haa
  cases haa

/-- Not being before carries over. -/
theorem StrictWeakOn.negTrans (h : StrictWeakOn lt l) (ha : a ∈ l) (hb : b ∈ l) (hc : c ∈ l) (hab : lt a b = false)
    (hbc : lt b c = false) : lt a c = false := by
  by_contra hac
  rw [not_eq_false] at hac
  have hba : lt b a = false := by
    by_contra hba
    have hfar := h.trans b hb a ha c hc (not_eq_false _ ▸ hba) hac
    rw [hbc] at hfar
    cases hfar
  have hcb : lt c b = false := by
    by_contra hcb
    have hfar := h.trans a ha c hc b hb hac (not_eq_false _ ▸ hcb)
    rw [hab] at hfar
    cases hfar
  have hsame := h.incomp_trans a ha b hb c hc hab hba hbc hcb
  rw [hac] at hsame
  cases hsame

/-- An asymmetric comparison for which not being before carries over. -/
theorem StrictWeakOn.of_negTrans (hasymm : ∀ a ∈ l, ∀ b ∈ l, lt a b = true → lt b a = false)
    (hneg : ∀ a ∈ l, ∀ b ∈ l, ∀ c ∈ l, lt a b = false → lt b c = false → lt a c = false) : StrictWeakOn lt l where
  irrefl a ha := by
    by_contra haa
    rw [not_eq_false] at haa
    have hself := hasymm a ha a ha haa
    rw [haa] at hself
    cases hself
  trans a ha b hb c hc hab hbc := by
    by_contra hac
    rw [not_eq_true] at hac
    have hfar := hneg a ha c hc b hb hac (hasymm b hb c hc hbc)
    rw [hab] at hfar
    cases hfar
  incomp_trans a ha b hb c hc hab _ hbc _ := hneg a ha b hb c hc hab hbc

/-- Nothing is before what stands ahead of it. -/
def Sorted (lt : α → α → Bool) (l : List α) : Prop := l.Pairwise fun a b => lt b a = false

/-- A sort that may leave equal elements in any order, and do anything for a comparison that is no strict weak order. -/
structure StdSort (α : Type) where
  sort : (α → α → Bool) → List α → List α
  sorts : ∀ lt l, StrictWeakOn lt l → (sort lt l).Perm l ∧ Sorted lt (sort lt l)

variable {p : α → Bool}

/-- What is found first in a sorted list is beaten by nothing that could have been found. -/
theorem Sorted.find?_least (h : Sorted lt l) (hirrefl : ∀ a ∈ l, lt a a = false) (ha : l.find? p = some a) :
    ∀ b ∈ l, p b = true → lt b a = false := by
  induction l with
  | nil => cases ha
  | cons first l ih =>
    obtain ⟨hfirst, hrest⟩ := pairwise_cons.1 h
    intro b hb hpb
    rw [find?_cons] at ha
    cases hp : p first with
    | true =>
      rw [hp] at ha
      cases ha
      rcases mem_cons.1 hb with rfl | hb
      · exact hirrefl _ mem_cons_self
      · exact hfirst b hb
    | false =>
      rw [hp] at ha
      rcases mem_cons.1 hb with rfl | hb
      · rw [hp] at hpb
        cases hpb
      · exact ih hrest (fun c hc => hirrefl c (mem_cons_of_mem _ hc)) ha b hb hpb

/-- What a search in nearest-first order finds, said of the list that was sorted. -/
theorem StdSort.find?_least (s : StdSort α) (h : StrictWeakOn lt l) (ha : (s.sort lt l).find? p = some a) :
    a ∈ l ∧ p a = true ∧ ∀ b ∈ l, p b = true → lt b a = false := by
  obtain ⟨hperm, hsorted⟩ := s.sorts lt l h
  refine ⟨hperm.mem_iff.1 (mem_of_find?_eq_some ha), find?_some ha, fun b hb hpb => ?_⟩
  exact hsorted.find?_least (fun c hc => h.irrefl c (hperm.mem_iff.1 hc)) ha b (hperm.mem_iff.2 hb) hpb

theorem StdSort.find?_none (s : StdSort α) (h : StrictWeakOn lt l) (ha : (s.sort lt l).find? p = none) :
    ∀ b ∈ l, p b = false := by
  intro b hb
  have hnot := find?_eq_none.1 ha b ((s.sorts lt l h).1.mem_iff.2 hb)
  exact not_eq_true _ ▸ hnot

def StdSort.insertion (α : Type) : StdSort α where
  sort lt l := (l.attach.insertionSort fun a b => lt b.1 a.1 = false).map Subtype.val
  sorts lt l h := by
    have htotal : Std.Total fun a b : { a // a ∈ l } => lt b.1 a.1 = false := by
      refine ⟨fun a b => ?_⟩
      cases hba : lt b.1 a.1 with
      | false => exact Or.inl rfl
      | true => exact Or.inr (h.asymm b.2 a.2 hba)
    have htrans : IsTrans { a // a ∈ l } fun a b => lt b.1 a.1 = false := ⟨fun a b c hab hbc => h.negTrans c.2 b.2 a.2 hbc hab⟩
    constructor
    · have hperm := (List.perm_insertionSort (fun a b : { a // a ∈ l } => lt b.1 a.1 = false) l.attach).map Subtype.val
      rwa [List.attach_map_subtype_val] at hperm
    · exact (List.pairwise_insertionSort (fun a b : { a // a ∈ l } => lt b.1 a.1 = false) l.attach).map Subtype.val fun _ _ hab => hab

/-! ### Tolerance -/

section Tolerance

variable {F ι : Type} [CommRing F] [LinearOrder F] [LinearOrder ι] {τ : F} {d : α → F} {f : α → ι}

def closer (τ : F) (d : α → F) (f : α → ι) (a b : α) : Bool :=
  if τ < |d a - d b| then d a < d b else f b < f a

/-- Three elements in order, each about as near as the one before, the last farther than the first all the same. -/
def Drifts (τ : F) (d : α → F) (f : α → ι) (l : List α) : Prop :=
  ∃ a ∈ l, ∃ b ∈ l, ∃ c ∈ l, f a ≤ f b ∧ f b ≤ f c ∧ |d a - d b| ≤ τ ∧ |d b - d c| ≤ τ ∧ d a + τ < d c

theorem closer_eq_true : closer τ d f a b = true ↔ τ < |d a - d b| ∧ d a < d b ∨ |d a - d b| ≤ τ ∧ f b < f a := by
  unfold closer
  split_ifs with h
  · simp [h, not_le.2 h]
  · simp [h, not_lt.1 h]

variable [IsStrictOrderedRing F]

theorem closer_eq_false (hτ : 0 ≤ τ) : closer τ d f a b = false ↔ d b + τ < d a ∨ |d a - d b| ≤ τ ∧ f a ≤ f b := by
  rw [← not_eq_true, closer_eq_true]
  rcases le_or_gt |d a - d b| τ with h | h
  · have hbound := (abs_le.1 h).2
    have hnot : ¬ d b + τ < d a := by linarith
    simp [h, not_lt.2 h, hnot]
  rcases lt_abs.1 h with hab | hba
  · have hfar : d b + τ < d a := by linarith
    have hlt : ¬ d a < d b := by linarith
    simp [h, not_le.2 h, hfar, hlt]
  · have hlt : d a < d b := by linarith
    have hnot : ¬ d b + τ < d a := by linarith
    simp [h, not_le.2 h, hlt, hnot]

theorem closer_far (hτ : 0 ≤ τ) (h : d a + τ < d b) : closer τ d f a b = true := by
  refine closer_eq_true.2 (.inl ⟨?_, by linarith⟩)
  exact lt_abs.2 (.inr (by linarith))

theorem closer_asymm (hτ : 0 ≤ τ) (h : closer τ d f a b = true) : closer τ d f b a = false := by
  rw [closer_eq_false hτ, abs_sub_comm]
  rcases closer_eq_true.1 h with ⟨hfar, hlt⟩ | ⟨hnear, hlt⟩
  · rcases lt_abs.1 hfar with hab | hba
    · exact absurd hlt (by linarith)
    · exact .inl (by linarith)
  · exact .inr ⟨hnear, hlt.le⟩

/-- The comparison is a strict weak order exactly where no three elements drift. -/
theorem closer_strictWeakOn_iff (hτ : 0 ≤ τ) : StrictWeakOn (closer τ d f) l ↔ ¬ Drifts τ d f l := by
  constructor
  · rintro h ⟨a, ha, b, hb, c, hc, hab, hbc, hnear, hnear', hfar⟩
    have hac := h.negTrans ha hb hc ((closer_eq_false hτ).2 (.inr ⟨hnear, hab⟩)) ((closer_eq_false hτ).2 (.inr ⟨hnear', hbc⟩))
    rw [closer_far hτ hfar] at hac
    cases hac
  · intro h
    refine StrictWeakOn.of_negTrans (fun a _ b _ => closer_asymm hτ) fun a ha b hb c hc hab hbc => ?_
    rw [closer_eq_false hτ] at hab hbc
    by_contra hac
    rw [not_eq_false, closer_eq_true] at hac
    rcases hab with hab | ⟨hab, hfab⟩ <;> rcases hbc with hbc | ⟨hbc, hfbc⟩
    · rcases hac with ⟨-, hac⟩ | ⟨hac, -⟩
      · linarith
      · linarith [(abs_le.1 hac).2]
    -- `b` and `c` are about as near, `a` is not as near as `b`: the three drift from `b` over `c` to `a`
    · rcases hac with ⟨-, hac⟩ | ⟨hac, hfca⟩
      · linarith [(abs_le.1 hbc).1]
      · exact h ⟨b, hb, c, hc, a, ha, hfbc, hfca.le, hbc, by rwa [abs_sub_comm], hab⟩
    · rcases hac with ⟨-, hac⟩ | ⟨hac, hfca⟩
      · linarith [(abs_le.1 hab).1]
      · exact h ⟨c, hc, a, ha, b, hb, hfca.le, hfab, by rwa [abs_sub_comm], hab, hbc⟩
    · rcases hac with ⟨hac, hlt⟩ | ⟨-, hfca⟩
      · rcases lt_abs.1 hac with hac | hac
        · linarith
        · exact h ⟨a, ha, b, hb, c, hc, hfab, hfbc, hab, hbc, by linarith⟩
      · exact absurd (hfab.trans hfbc) (not_le.2 hfca)

end Tolerance

end Sorting
