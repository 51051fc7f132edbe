import Mathlib.Data.Finset.Card
import Mathlib.Order.WellFounded

/-! Links from each thing to the one above it, if there is one. Above a thing that is grounded the links come to an end; where that holds of all,
and only finitely many have a link, things can be ranked from below. -/

namespace Forest

open Finset Relation

variable {α : Type} {up up' : α → Option α} {a b : α}

/-- The links come to an end above this one. -/
def Grounded (up : α → Option α) (a : α) : Prop := Acc (fun b a => up a = some b) a

theorem grounded_of_none (h : up a = none) : Grounded up a := by
  refine ⟨a, fun b hb => ?_⟩
  rw [h] at hb
  cases hb

theorem Grounded.below (h : Grounded up b) (hlink : ∀ c, up a = some c → c = b) : Grounded up a := by
  refine ⟨a, fun c hc => ?_⟩
  rw [hlink c hc]
  exact h

/-- Fewer links. -/
def Pruned (up up' : α → Option α) : Prop := ∀ a b, up' a = some b → up a = some b

theorem Pruned.refl (up : α → Option α) : Pruned up up := fun _ _ h => h

theorem Pruned.trans {up'' : α → Option α} (h : Pruned up up') (h' : Pruned up' up'') : Pruned up up'' := fun a b hab => h a b (h' a b hab)

theorem pruned_update [DecidableEq α] (up : α → Option α) (a : α) : Pruned up (Function.update up a none) := by
  intro c b hb
  by_cases hc : c = a
  · rw [hc, Function.update_self] at hb
    cases hb
  · rwa [Function.update_of_ne hc] at hb

theorem Grounded.pruned (h : Grounded up a) (hp : Pruned up up') : Grounded up' a := Subrelation.accessible (fun hab => hp _ _ hab) h

/-- Something is below another by one link or more. -/
def Below (up : α → Option α) : α → α → Prop := Relation.TransGen fun a b => up a = some b

theorem Grounded.not_below (h : Grounded up a) : ¬ Below up a a := by
  intro hcycle
  have hacc : Acc (TransGen fun b a => up a = some b) a := Acc.transGen h
  have hback : TransGen (fun b a => up a = some b) a a := transGen_swap.1 hcycle
  clear h hcycle
  induction hacc with
  | intro a _ ih => exact ih a hback hback

/-- Without cycles there is a rank that goes up along the links. -/
theorem exists_rank (s : Finset α) (hs : ∀ a b, up a = some b → a ∈ s) (hno : ∀ a, ¬ Below up a a) :
    ∃ rank : α → Nat, ∀ a b, up a = some b → rank a < rank b := by
  classical
  refine ⟨fun b => (s.filter fun a => Below up a b).card, fun a b hab => card_lt_card ?_⟩
  have hlink : Below up a b := TransGen.single hab
  refine Finset.ssubset_iff_subset_ne.2 ⟨fun c hc => ?_, fun heq => ?_⟩
  · obtain ⟨hmem, hbelow⟩ := Finset.mem_filter.1 hc
    exact mem_filter.2 ⟨hmem, hbelow.tail hab⟩
  · have hself : a ∈ s.filter fun c => Below up c b := mem_filter.2 ⟨hs a b hab, hlink⟩
    rw [← heq] at hself
    exact hno a (mem_filter.1 hself).2

end Forest
