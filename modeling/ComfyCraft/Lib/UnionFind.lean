import ComfyCraft.Lib.Runs
import Mathlib.Data.Fintype.Card

/-! Disjoint sets as a forest of parents over a finite type. A search halves the path it walks, and a union hangs one root
under another; what matters of a forest is which root an element has. -/

namespace UnionFind

open Function Finset

variable {α : Type} [DecidableEq α]

/-- Parents lead to roots: there is a depth that every step up brings down. -/
def IsForest (p : α → α) : Prop := ∃ d : α → Nat, ∀ a, p a ≠ a → d (p a) < d a

variable [Fintype α]

def root (p : α → α) (a : α) : α := p^[Fintype.card α] a

variable {p : α → α}

omit [DecidableEq α] in
/-- The number of elements that are less deep is a depth, too. -/
theorem IsForest.level (h : IsForest p) : ∃ d : α → Nat, (∀ a, p a ≠ a → d (p a) < d a) ∧ ∀ a, d a < Fintype.card α := by
  obtain ⟨d, hd⟩ := h
  refine ⟨fun a => (univ.filter fun b => d b < d a).card, fun a ha => ?_, fun a => ?_⟩
  · refine Finset.card_lt_card (Finset.ssubset_iff_subset_ne.2 ⟨fun b hb => ?_, fun heq => ?_⟩)
    · rw [Finset.mem_filter] at hb ⊢
      exact ⟨hb.1, lt_trans hb.2 (hd a ha)⟩
    · have hmem : p a ∈ univ.filter fun b => d b < d a := mem_filter.2 ⟨mem_univ _, hd a ha⟩
      rw [← heq, mem_filter] at hmem
      exact lt_irrefl _ hmem.2
  · refine card_lt_univ_of_notMem (x := a) fun hmem => ?_
    rw [mem_filter] at hmem
    exact lt_irrefl _ hmem.2

omit [DecidableEq α] [Fintype α] in
theorem iterate_isRoot {d : α → Nat} (hd : ∀ a, p a ≠ a → d (p a) < d a) {k : Nat} {a : α} (hk : d a ≤ k) : p
    (p^[k] a) = p^[k] a := by
  induction k generalizing a with
  | zero =>
    by_contra hne
    exact absurd (hd a hne) (by omega)
  | succ k ih =>
    rw [iterate_succ_apply]
    by_cases hroot : p a = a
    · rw [hroot, iterate_fixed hroot, hroot]
    · exact ih (by have := hd a hroot; omega)

omit [DecidableEq α] in
theorem IsForest.root_isRoot (h : IsForest p) (a : α) : p (root p a) = root p a := by
  obtain ⟨d, hd, hcard⟩ := h.level
  exact iterate_isRoot hd (hcard a).le

omit [DecidableEq α] in
theorem root_of_isRoot {a : α} (h : p a = a) : root p a = a := iterate_fixed h _

omit [DecidableEq α] in
theorem IsForest.root_parent (h : IsForest p) (a : α) : root p (p a) = root p a := by
  have hroot := h.root_isRoot a
  unfold root at hroot ⊢
  rw [← iterate_succ_apply, iterate_succ_apply', hroot]

omit [DecidableEq α] in
/-- The roots are all there is to say: whatever goes up with the parents and stays at a root is the root. -/
theorem IsForest.root_unique (h : IsForest p) {g : α → α} (hroot : ∀ a, p a = a → g a = a) (hparent : ∀ a, g (p a) = g a) (a : α) :
    root p a = g a := by
  have hiterate : ∀ k, g (p^[k] a) = g a := by
    intro k
    induction k with
    | zero => rfl
    | succ k ih => rw [iterate_succ_apply', hparent, ih]
  have hend := hiterate (Fintype.card α)
  rw [← hend]
  exact (hroot _ (h.root_isRoot a)).symm

/-! ### Searching -/

/-- One turn of a search: the element is hung under its grandparent, and the search goes on there. -/
def halve (s : (α → α) × α) : (α → α) × α := (Function.update s.1 s.2 (s.1 (s.1 s.2)), s.1 (s.1 s.2))

def find (p : α → α) (a : α) : (α → α) × α := Loop.run (fun s : (α → α) × α => s.1 s.2 ≠ s.2) halve (Fintype.card α) (p, a)

omit [Fintype α] in
theorem halve_forest {d : α → Nat} (hd : ∀ a, p a ≠ a → d (p a) < d a) (a b : α)
    (hb : (halve (p, a)).1 b ≠ b) : d ((halve (p, a)).1 b) < d b := by
  have hle : ∀ c, d (p c) ≤ d c := fun c => by
    by_cases hc : p c = c
    · rw [hc]
    · exact (hd c hc).le
  dsimp only [halve] at hb ⊢
  by_cases hba : b = a
  · subst hba
    rw [update_self] at hb ⊢
    by_cases hroot : p b = b
    · rw [hroot] at hb
      exact absurd hroot hb
    · exact lt_of_le_of_lt (hle (p b)) (hd b hroot)
  · rw [update_of_ne hba] at hb ⊢
    exact hd b hb

theorem root_halve (h : IsForest p) (a b : α) : root (halve (p, a)).1 b = root p b := by
  obtain ⟨d, hd⟩ := h
  have hforest : IsForest (halve (p, a)).1 := ⟨d, halve_forest hd a⟩
  have h : IsForest p := ⟨d, hd⟩
  refine hforest.root_unique (fun c hc => ?_) (fun c => ?_) b
  · apply root_of_isRoot
    by_contra hne
    have hle := halve_forest hd a c
    dsimp only [halve] at hc hle
    by_cases hca : c = a
    · subst hca
      rw [update_self] at hc
      have hup := hd c hne
      by_cases hparent : p (p c) = p c
      · rw [hparent] at hc
        exact hne hc
      · have hup2 := hd (p c) hparent
        rw [hc] at hup2
        omega
    · rw [update_of_ne hca] at hc
      exact hne hc
  · dsimp only [halve]
    by_cases hca : c = a
    · subst hca
      rw [update_self, h.root_parent, h.root_parent]
    · rw [update_of_ne hca, h.root_parent]

theorem find_spec (h : IsForest p) (a : α) :
    IsForest (find p a).1 ∧ (∀ b, root (find p a).1 b = root p b) ∧ (find p a).2 = root p a := by
  obtain ⟨d, hd, hcard⟩ := h.level
  let I : (α → α) × α → Prop := fun s =>
    (∀ b, s.1 b ≠ b → d (s.1 b) < d b) ∧ (∀ b, root s.1 b = root p b) ∧ root p s.2 = root p a
  have hbody : ∀ s, I s → decide (s.1 s.2 ≠ s.2) = true → I (halve s) := by
    rintro ⟨q, b⟩ ⟨hq, hroots, hb⟩ -
    have hforest : IsForest q := ⟨d, hq⟩
    refine ⟨halve_forest hq b, fun c => (root_halve hforest b c).trans (hroots c), ?_⟩
    dsimp only [halve]
    rw [← hroots, hforest.root_parent, hforest.root_parent, hroots]
    exact hb
  have hless : ∀ s, I s → decide (s.1 s.2 ≠ s.2) = true → d (halve s).2 < d s.2 := by
    rintro ⟨q, b⟩ ⟨hq, -, -⟩ htest
    have hne : q b ≠ b := of_decide_eq_true htest
    dsimp only [halve]
    by_cases hparent : q (q b) = q b
    · rw [hparent]
      exact hq b hne
    · exact lt_trans (hq (q b) hparent) (hq b hne)
  have hstart : I (p, a) := ⟨hd, fun b => rfl, rfl⟩
  have hend : I (find p a) := Loop.keeps (I := I) hbody hstart (Fintype.card α)
  have hstop := Loop.ends (I := I) (m := fun s => d s.2) hbody hless hstart (hcard a).le
  obtain ⟨hforest, hroots, ha⟩ := hend
  refine ⟨⟨d, hforest⟩, hroots, ?_⟩
  have hroot : (find p a).1 (find p a).2 = (find p a).2 := not_not.1 (of_decide_eq_false hstop)
  rw [← ha, ← hroots, root_of_isRoot hroot]

/-! ### Uniting -/

/-- The root of the first is hung under that of the second, which is searched for first. -/
def unite (p : α → α) (i j : α) : α → α :=
  let right := find p j
  let left := find right.1 i
  Function.update left.1 left.2 right.2

theorem unite_spec (h : IsForest p) (i j : α) :
    IsForest (unite p i j) ∧ ∀ b, root (unite p i j) b = if root p b = root p i then root p j else root p b := by
  obtain ⟨hforest₁, hroots₁, hright⟩ := find_spec h j
  obtain ⟨hforest, hroots₂, hleft⟩ := find_spec hforest₁ i
  unfold unite
  dsimp only
  rw [hright, hleft, hroots₁]
  set q := (find (find p j).1 i).1
  have hroots : ∀ b, root q b = root p b := fun b => (hroots₂ b).trans (hroots₁ b)
  have hi : q (root p i) = root p i := by
    rw [← hroots i]
    exact hforest.root_isRoot i
  have hj : q (root p j) = root p j := by
    rw [← hroots j]
    exact hforest.root_isRoot j
  have hforest' : IsForest (update q (root p i) (root p j)) := by
    obtain ⟨d, hd⟩ := hforest
    have hforest : IsForest q := ⟨d, hd⟩
    by_cases hsame : root p i = root p j
    · have heq : update q (root p i) (root p j) = q := by
        rw [hsame]
        exact update_eq_self_iff.2 hj.symm
      rw [heq]
      exact hforest
    · refine ⟨fun b => if root q b = root p i then d b + d (root p j) + 1 else d b, fun b hb => ?_⟩
      dsimp only
      by_cases hbi : b = root p i
      · subst hbi
        rw [update_self, if_neg (by rw [root_of_isRoot hj]; exact Ne.symm hsame), if_pos (root_of_isRoot hi)]
        omega
      · rw [update_of_ne hbi] at hb ⊢
        rw [hforest.root_parent]
        have hlt := hd b hb
        split_ifs <;> omega
  refine ⟨hforest', fun b => hforest'.root_unique (g := fun b => if root p b = root p i then root p j else root p b)
    (fun c hc => ?_) (fun c => ?_) b⟩
  · by_cases hci : c = root p i
    · subst hci
      rw [update_self] at hc
      rw [hc]
      split_ifs
      · rfl
      · rw [← hroots, root_of_isRoot hi]
    · rw [update_of_ne hci] at hc
      have hrc : root p c = c := by rw [← hroots, root_of_isRoot hc]
      rw [hrc, if_neg hci]
  · by_cases hci : c = root p i
    · subst hci
      have hself : root p (root p i) = root p i := by rw [← hroots, root_of_isRoot hi]
      have hjself : root p (root p j) = root p j := by rw [← hroots, root_of_isRoot hj]
      rw [update_self, hself, if_pos rfl, hjself]
      split_ifs <;> rfl
    · rw [update_of_ne hci]
      have hup : root p (q c) = root p c := by rw [← hroots, hforest.root_parent, hroots]
      rw [hup]

def uniteAll (p : α → α) (pairs : List (α × α)) : α → α := pairs.foldl (fun p ij => unite p ij.1 ij.2) p

theorem uniteAll_forest (h : IsForest p) (pairs : List (α × α)) : IsForest (uniteAll p pairs) := by
  induction pairs generalizing p with
  | nil => exact h
  | cons ij pairs ih => exact ih (unite_spec h ij.1 ij.2).1

variable {pairs : List (α × α)} {r : α → α → Prop} {b : α}

theorem uniteAll_keeps (h : IsForest p) (pairs : List (α × α)) {a : α} (hab : root p a = root p b) :
    root (uniteAll p pairs) a = root (uniteAll p pairs) b := by
  induction pairs generalizing p with
  | nil => exact hab
  | cons ij pairs ih =>
    obtain ⟨hforest, hroots⟩ := unite_spec h ij.1 ij.2
    exact ih hforest (by rw [hroots, hroots, hab])

theorem uniteAll_unites (h : IsForest p) {ij : α × α} (hij : ij ∈ pairs) :
    root (uniteAll p pairs) ij.1 = root (uniteAll p pairs) ij.2 := by
  induction pairs generalizing p with
  | nil => exact absurd hij List.not_mem_nil
  | cons kl pairs ih =>
    obtain ⟨hforest, hroots⟩ := unite_spec h kl.1 kl.2
    rcases List.mem_cons.1 hij with rfl | hmem
    · refine uniteAll_keeps hforest pairs ?_
      rw [hroots, hroots, if_pos rfl]
      split_ifs <;> rfl
    · exact ih hforest hmem

/-- Nothing else comes together: an equivalence that relates the pairs goes on relating what has one root. -/
theorem uniteAll_only (h : IsForest p) (hr : Equivalence r) (hp : ∀ a b, root p a = root p b → r a b)
    (hpairs : ∀ ij ∈ pairs, r ij.1 ij.2) {a : α}
    (hab : root (uniteAll p pairs) a = root (uniteAll p pairs) b) : r a b := by
  induction pairs generalizing p with
  | nil => exact hp a b hab
  | cons ij pairs ih =>
    obtain ⟨hij, hrest⟩ := List.forall_mem_cons.1 hpairs
    obtain ⟨hforest, hroots⟩ := unite_spec h ij.1 ij.2
    refine ih hforest (fun c d hcd => ?_) hrest hab
    rw [hroots, hroots] at hcd
    split_ifs at hcd with hc hd hd
    · exact hp c d (hc.trans hd.symm)
    · exact hr.trans (hp c _ hc) (hr.trans hij (hp _ d hcd))
    · exact hr.trans (hp c _ hcd) (hr.trans (hr.symm hij) (hp _ d hd.symm))
    · exact hp c d hcd

omit [DecidableEq α] in
theorem root_id (a : α) : root id a = a := root_of_isRoot rfl

omit [DecidableEq α] [Fintype α] in
theorem isForest_id : IsForest (id : α → α) := ⟨fun _ => 0, fun _ ha => absurd rfl ha⟩

/-- From singletons on, the pairs of an equivalence, each taken one way around, give its classes. -/
theorem root_uniteAll (hr : Equivalence r) (hpairs : ∀ ij ∈ pairs, r ij.1 ij.2)
    (hall : ∀ a b, r a b → a = b ∨ (a, b) ∈ pairs ∨ (b, a) ∈ pairs) (a b : α) :
    root (uniteAll id pairs) a = root (uniteAll id pairs) b ↔ r a b := by
  constructor
  · intro hab
    refine uniteAll_only isForest_id hr (fun c d hcd => ?_) hpairs hab
    rw [root_id, root_id] at hcd
    rw [hcd]
    exact hr.refl d
  · intro hab
    rcases hall a b hab with rfl | hmem | hmem
    · rfl
    · exact uniteAll_unites isForest_id hmem
    · exact (uniteAll_unites isForest_id hmem).symm

end UnionFind
