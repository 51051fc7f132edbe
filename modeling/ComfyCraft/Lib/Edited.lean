import Mathlib.Algebra.BigOperators.Group.List.Basic
import Mathlib.Algebra.GroupWithZero.Nat
import Mathlib.Data.List.Nodup

/-! A list whose elements are each kept, changed or dropped, every one in a way a relation allows and
with a log of its own. What holds of the list after and of the whole log follows from the relation. -/

inductive Edited {α ε : Type} (R : α → Option α → List ε → Prop) : List α → List α → List ε → Prop
  | nil : Edited R [] [] []
  | cons {a : α} {o : Option α} {es : List ε} {as bs : List α} {fs : List ε} (h : R a o es) (hrest : Edited R as bs fs) :
      Edited R (a :: as) (o.toList ++ bs) (es ++ fs)

namespace Edited

open List Option List.Sublist

variable {α ε κ : Type} {R R' : α → Option α → List ε → Prop} {as bs : List α} {fs : List ε}

theorem map (f : α → Option α × List ε) (as : List α) (hf : ∀ a ∈ as, R a (f a).1 (f a).2) :
    Edited R as (as.flatMap fun a => (f a).1.toList) (as.flatMap fun a => (f a).2) := by
  induction as with
  | nil => exact nil
  | cons a as ih => exact cons (hf a mem_cons_self) (ih fun b hb => hf b (mem_cons_of_mem _ hb))

theorem refl (hR : ∀ a, R a (some a) []) (as : List α) : Edited R as as [] := by
  induction as with
  | nil => exact nil
  | cons a as ih => exact cons (hR a) ih

/-- Every element that is there afterwards comes from one that was there before. -/
theorem mem_new (h : Edited R as bs fs) {b : α} (hb : b ∈ bs) : ∃ a ∈ as, ∃ es, R a (some b) es ∧ es ⊆ fs := by
  induction h with
  | nil => cases hb
  | cons ha hrest ih =>
    rename_i o es as bs fs
    rcases mem_append.1 hb with hhere | hlater
    · have ho : o = some b := mem_toList.1 hhere
      subst ho
      exact ⟨_, mem_cons_self, es, ha, subset_append_left _ _⟩
    · obtain ⟨a, hmem, es', hR, hsub⟩ := ih hlater
      exact ⟨a, mem_cons_of_mem _ hmem, es', hR, List.Subset.trans hsub (subset_append_right _ _)⟩

theorem mem_old (h : Edited R as bs fs) {a : α} (ha : a ∈ as) : ∃ o es, R a o es ∧ (∀ b ∈ o, b ∈ bs) ∧ es ⊆ fs := by
  induction h with
  | nil => cases ha
  | cons hhead hrest ih =>
    rename_i o es as bs fs
    rcases mem_cons.1 ha with rfl | hlater
    · exact ⟨o, es, hhead, fun b hb => mem_append_left _ (mem_toList.2 hb), subset_append_left _ _⟩
    · obtain ⟨o', es', hR, hin, hsub⟩ := ih hlater
      exact ⟨o', es', hR, fun b hb => mem_append_right _ (hin b hb), List.Subset.trans hsub (subset_append_right _ _)⟩

theorem mem_log (h : Edited R as bs fs) {e : ε} (he : e ∈ fs) : ∃ a ∈ as, ∃ o es, R a o es ∧ (∀ b ∈ o, b ∈ bs) ∧ e ∈ es := by
  induction h with
  | nil => cases he
  | cons hhead hrest ih =>
    rcases mem_append.1 he with hhere | hlater
    · exact ⟨_, mem_cons_self, _, _, hhead, fun b hb => mem_append_left _ (mem_toList.2 hb), hhere⟩
    · obtain ⟨a, hmem, o, es, hR, hin, hes⟩ := ih hlater
      exact ⟨a, mem_cons_of_mem _ hmem, o, es, hR, fun b hb => mem_append_right _ (hin b hb), hes⟩

/-- Where an edit keeps a list of marks of each element, the marks after are some of those before. -/
theorem sublist {f : α → List κ} (hf : ∀ a b es, R a (some b) es → f b = f a) (h : Edited R as bs fs) :
    (bs.flatMap f).Sublist (as.flatMap f) := by
  induction h with
  | nil => exact slnil
  | cons hhead hrest ih =>
    rename_i a o es as bs fs
    rw [flatMap_cons, flatMap_append]
    apply append _ ih
    cases o with
    | none => exact nil_sublist _
    | some b =>
      rw [toList_some, flatMap_singleton, hf a b es hhead]

section focus
variable {key : α → κ} {k : κ}

/-- A weight of the log that edits of elements with other keys do not have. -/
def Local (R : α → Option α → List ε → Prop) (key : α → κ) (k : κ) (w : ε → Nat) : Prop :=
  ∀ a o es, R a o es → key a ≠ k → (es.map w).sum = 0

theorem sum_zero {w : ε → Nat} (hw : Local R key k w) (hno : ∀ a ∈ as, key a ≠ k) (h : Edited R as bs fs) : (fs.map w).sum = 0 := by
  induction h with
  | nil => rfl
  | cons hhead hrest ih =>
    rw [map_append, sum_append, hw _ _ _ hhead (hno _ mem_cons_self), ih fun a ha => hno a (mem_cons_of_mem _ ha)]

/-- What the whole log weighs for a key is what the edit of the one element with that key logged. -/
theorem focus (hkey : ∀ a b es, R a (some b) es → key b = key a) (hnd : (as.map key).Nodup) (h : Edited R as bs fs) {a : α}
    (ha : a ∈ as) (hk : key a = k) :
    ∃ o es, R a o es ∧ es ⊆ fs ∧ (∀ w, Local R key k w → (fs.map w).sum = (es.map w).sum) ∧ ∀ b, (b ∈ bs ∧ key b = k) ↔ o = some b := by
  induction h with
  | nil => cases ha
  | cons hhead hrest ih =>
    rename_i x o es as bs fs
    rw [map_cons, nodup_cons] at hnd
    by_cases hx : key x = k
    · -- the first element is the one: nothing in the rest has its key
      have hnone : ∀ y ∈ as, key y ≠ k := by
        intro y hy hyk
        exact hnd.1 (hx.trans hyk.symm ▸ mem_map_of_mem hy)
      have hax : a = x := by
        rcases mem_cons.1 ha with heq | hlater
        · exact heq
        · exact absurd hk (hnone a hlater)
      subst hax
      refine ⟨o, es, hhead, subset_append_left _ _, fun w hw => ?_, fun b => ?_⟩
      · rw [map_append, sum_append, sum_zero hw hnone hrest, Nat.add_zero]
      constructor
      · rintro ⟨hb, hbk⟩
        rcases mem_append.1 hb with hhere | hlater
        · exact mem_toList.1 hhere
        · obtain ⟨y, hy, es', hR, -⟩ := hrest.mem_new hlater
          exact absurd ((hkey y b es' hR).symm.trans hbk) (hnone y hy)
      · rintro rfl
        exact ⟨mem_append_left _ (mem_toList.2 rfl), (hkey _ _ _ hhead).trans hx⟩
    · have hmem : a ∈ as := by
        rcases mem_cons.1 ha with heq | hlater
        · exact absurd (heq ▸ hk) hx
        · exact hlater
      obtain ⟨o', es', hR, hsub, hsum, hiff⟩ := ih hnd.2 hmem
      refine ⟨o', es', hR, List.Subset.trans hsub (subset_append_right _ _), fun w hw => ?_, fun b => ?_⟩
      · rw [map_append, sum_append, hw _ _ _ hhead hx, hsum w hw, Nat.zero_add]
      rw [← hiff b]
      constructor
      · rintro ⟨hb, hbk⟩
        rcases mem_append.1 hb with hhere | hlater
        · have ho : o = some b := mem_toList.1 hhere
          subst ho
          exact absurd ((hkey _ _ _ hhead).symm.trans hbk) hx
        · exact ⟨hlater, hbk⟩
      · rintro ⟨hb, hbk⟩
        exact ⟨mem_append_right _ hb, hbk⟩

end focus

end Edited

/-- A mark that no two elements share, and none has twice, belongs to one element. -/
theorem eq_of_shared {α κ : Type} {f : α → List κ} {l : List α} (h : (l.flatMap f).Nodup) {a b : α} (ha : a ∈ l) (hb : b ∈ l)
    {x : κ} (hxa : x ∈ f a) (hxb : x ∈ f b) : a = b := by
  induction l with
  | nil => cases ha
  | cons c l ih =>
    rw [List.flatMap_cons, List.nodup_append] at h
    obtain ⟨-, hl, hdis⟩ := h
    rcases List.mem_cons.1 ha with rfl | ha' <;> rcases List.mem_cons.1 hb with rfl | hb'
    · rfl
    · exact absurd rfl (hdis x hxa x (List.mem_flatMap.2 ⟨b, hb', hxb⟩))
    · exact absurd rfl (hdis x hxb x (List.mem_flatMap.2 ⟨a, ha', hxa⟩))
    · exact ih hl ha' hb'

/-- The first element that passes a test, edited; the others as they are. -/
def editFirst {α ε : Type} (p : α → Bool) (f : α → Option α × List ε) : List α → List α × List ε
  | [] => ([], [])
  | a :: as =>
    if p a then ((f a).1.toList ++ as, (f a).2)
    else (a :: (editFirst p f as).1, (editFirst p f as).2)

namespace Edited

variable {α ε : Type} {R : α → Option α → List ε → Prop}

theorem of_editFirst {p : α → Bool} {f : α → Option α × List ε} (hR : ∀ a, R a (some a) [])
    {as : List α} (hf : ∀ a ∈ as, p a = true → R a (f a).1 (f a).2) :
    Edited R as (editFirst p f as).1 (editFirst p f as).2 := by
  induction as with
  | nil => exact nil
  | cons a as ih =>
    unfold editFirst
    split_ifs with hp
    · have h := cons (hf a List.mem_cons_self hp) (refl hR as)
      rwa [List.append_nil] at h
    · exact cons (hR a) (ih fun b hb => hf b (List.mem_cons_of_mem _ hb))

end Edited
