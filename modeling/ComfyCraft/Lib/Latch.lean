import ComfyCraft.Lib.Runs
import Mathlib.Data.UInt
import Mathlib.Order.Nat

/-! A latch keeps the time a condition began to hold without a break, on a clock of 32 bits. Zero means that it does
not hold, so that a beginning at time zero is kept as one. A gate with such a latch reports exactly when the condition
has held for the grace. -/

namespace Latch

open List UInt32 Nat

def armed (since now : UInt32) : UInt32 := if since ≠ 0 then since else if now ≠ 0 then now else 1

/-- The time since a start; none has passed since one that is ahead of the clock. -/
def elapsed (start now : UInt32) : UInt32 := if start ≤ now then now - start else 0

theorem toNat_elapsed (start now : UInt32) : (elapsed start now).toNat = now.toNat - start.toNat := by
  unfold elapsed
  split
  · rename_i hle
    exact UInt32.toNat_sub_of_le _ _ hle
  · rename_i hnot
    have hlt : now.toNat < start.toNat := UInt32.lt_iff_toNat_lt.1 (UInt32.not_le.1 hnot)
    exact (Nat.sub_eq_zero_of_le (by omega)).symm

theorem le_elapsed (grace start now : UInt32) : grace ≤ elapsed start now ↔ grace.toNat ≤ now.toNat - start.toNat := by
  rw [le_iff_toNat_le, toNat_elapsed]

theorem armed_of_ne {since : UInt32} (h : since ≠ 0) (now : UInt32) : armed since now = since := if_pos h

theorem toNat_armed_zero (now : UInt32) : (armed 0 now).toNat = max 1 now.toNat := by
  unfold armed
  rw [if_neg (fun h => h rfl)]
  split
  · rename_i hne
    have hpos : now.toNat ≠ 0 := fun h => hne (UInt32.toNat_inj.1 h)
    exact (max_eq_right (one_le_iff_ne_zero.2 hpos)).symm
  · rename_i hzero
    rw [not_not.1 hzero]
    rfl

theorem armed_ne_zero (since now : UInt32) : armed since now ≠ 0 := by
  unfold armed
  split
  · assumption
  split
  · assumption
  · decide

variable {α : Type} (clock : α → UInt32) (cond : α → Bool) (grace : UInt32) (step : UInt32 → α → Bool × UInt32)

/-- The clock does not run backwards. -/
def Ordered (ticks : List α) : Prop := ticks.Pairwise fun a b => (clock a).toNat ≤ (clock b).toNat

/-- The condition has held at every tick since some tick, and for the grace. -/
def HeldFor (ticks : List α) (t : α) : Prop :=
  ∃ a held, a :: held <:+ ticks ++ [t] ∧ (∀ x ∈ a :: held, cond x = true) ∧ grace.toNat ≤ (clock t).toNat - max 1 (clock a).toNat

def after (ticks : List α) : UInt32 := Runs.run (fun since t => (step since t).2) 0 ticks

/-- What a gate with a latch does at one tick. With no grace it need not latch. -/
structure Gate : Prop where
  clears : ∀ since a, cond a = false → step since a = (false, 0)
  reports : ∀ since a, cond a = true → (step since a).1 = decide (grace ≤ elapsed (armed since (clock a)) (clock a))
  latches : ∀ since a, cond a = true → grace ≠ 0 → (step since a).2 = armed since (clock a)

/-- The latch holds where the last stretch of the condition began, read as one for zero. -/
def Began (ticks : List α) (since : UInt32) : Prop :=
  ∃ a held, a :: held <:+ ticks ∧ (∀ x ∈ a :: held, cond x = true) ∧ since.toNat = max 1 (clock a).toNat ∧
    ∀ b held', b :: held' <:+ ticks → (∀ x ∈ b :: held', cond x = true) → (clock a).toNat ≤ (clock b).toNat

/-- The condition does not hold now, and the latch is clear. -/
def Clear (ticks : List α) (since : UInt32) : Prop :=
  since = 0 ∧ ∀ b held, b :: held <:+ ticks → ¬ ∀ x ∈ b :: held, cond x = true

variable {clock cond grace step}

theorem after_append (ticks : List α) (t : α) : after step (ticks ++ [t]) = (step (after step ticks) t).2 := by
  unfold after
  rw [Runs.run_append]
  rfl

variable {ticks : List α} {t : α}

/-- A stretch that ends with a tick is that tick, or a stretch before it as well. -/
theorem suffix_append {b : α} {held : List α} (h : b :: held <:+ ticks ++ [t]) :
    (b = t ∧ held = []) ∨ ∃ held', held = held' ++ [t] ∧ b :: held' <:+ ticks := by
  obtain ⟨pre, h⟩ := h
  cases held using reverseRecOn with
  | nil =>
    obtain ⟨-, hb⟩ := append_inj' h rfl
    exact .inl ⟨singleton_inj.1 hb, rfl⟩
  | append_singleton held' c =>
    rw [← cons_append, ← append_assoc] at h
    obtain ⟨hpre, hc⟩ := append_inj' h rfl
    exact .inr ⟨held', by rw [singleton_inj.1 hc], pre, hpre⟩

theorem Ordered.init (h : Ordered clock (ticks ++ [t])) : Ordered clock ticks :=
  (pairwise_append.1 h).1

theorem Gate.began_or_clear (h : Gate clock cond grace step) (hgrace : grace ≠ 0) (hticks : Ordered clock ticks) :
    Began clock cond ticks (after step ticks) ∨ Clear cond ticks (after step ticks) := by
  induction ticks using reverseRecOn with
  | nil => exact .inr ⟨rfl, fun b held hsuf => absurd (eq_nil_of_suffix_nil hsuf) (cons_ne_nil _ _)⟩
  | append_singleton ticks t ih =>
    rw [after_append]
    cases ht : cond t with
    | false =>
      rw [h.clears _ t ht]
      refine .inr ⟨rfl, fun b held hsuf hall => ?_⟩
      obtain ⟨rfl, -⟩ | ⟨held', rfl, -⟩ := suffix_append hsuf
      · rw [hall b mem_cons_self] at ht
        cases ht
      · rw [hall t (mem_cons_of_mem _ (mem_append_right _ mem_cons_self))] at ht
        cases ht
    | true =>
      rw [h.latches _ t ht hgrace]
      left
      obtain ⟨a, held, hsuf, hall, hsince, hfirst⟩ | ⟨hzero, hnone⟩ := ih hticks.init
      · have hne : after step ticks ≠ 0 := by
          intro hzero
          rw [hzero] at hsince
          have hone := le_max_left 1 (clock a).toNat
          rw [← hsince] at hone
          exact absurd hone (by decide)
        rw [armed_of_ne hne]
        have hend : (clock a).toNat ≤ (clock t).toNat :=
          (pairwise_append.1 hticks).2.2 a (hsuf.subset mem_cons_self) t mem_cons_self
        obtain ⟨pre, rfl⟩ := hsuf
        refine ⟨a, held ++ [t], ⟨pre, by simp⟩, fun x hx => ?_, hsince, fun b held' hb hb' => ?_⟩
        · rw [← cons_append] at hx
          rcases mem_append.1 hx with hx | hx
          · exact hall x hx
          · rw [mem_singleton.1 hx, ht]
        · obtain ⟨rfl, -⟩ | ⟨held'', rfl, hb''⟩ := suffix_append hb
          · exact hend
          exact hfirst b held'' hb'' fun x hx => hb' x (by
            rw [← cons_append]
            exact mem_append_left _ hx)
      · rw [hzero]
        refine ⟨t, [], List.suffix_append _ _, fun x hx => ?_, toNat_armed_zero _, fun b held' hb hb' => ?_⟩
        · rw [mem_singleton.1 hx, ht]
        obtain ⟨rfl, -⟩ | ⟨held'', rfl, hb''⟩ := suffix_append hb
        · exact le_rfl
        exact absurd (fun x hx => hb' x (by
          rw [← cons_append]
          exact mem_append_left _ hx)) (hnone b held'' hb'')

/-- A gate reports at a tick exactly when its condition has held since some tick for the grace. -/
theorem Gate.reports_iff (h : Gate clock cond grace step) (hticks : Ordered clock (ticks ++ [t])) :
    (step (after step ticks) t).1 = true ↔ HeldFor clock cond grace ticks t := by
  cases ht : cond t with
  | false =>
    rw [h.clears _ t ht]
    constructor
    · intro hfalse
      cases hfalse
    · rintro ⟨a, held, hsuf, hall, -⟩
      obtain ⟨rfl, -⟩ | ⟨held', rfl, -⟩ := suffix_append hsuf
      · rw [hall a mem_cons_self] at ht
        cases ht
      · rw [hall t (mem_cons_of_mem _ (mem_append_right _ mem_cons_self))] at ht
        cases ht
  | true =>
    rw [h.reports _ t ht, decide_eq_true_iff, le_elapsed]
    by_cases hgrace : grace = 0
    · have hnone : grace.toNat = 0 := by rw [hgrace]; rfl
      rw [hnone]
      exact ⟨fun _ => ⟨t, [], List.suffix_append _ _, fun x hx => by rw [List.mem_singleton.1 hx, ht], by rw [hnone]; exact Nat.zero_le _⟩,
        fun _ => zero_le _⟩
    · have hstate := h.began_or_clear hgrace hticks
      rw [after_append, h.latches _ t ht hgrace] at hstate
      obtain ⟨a, held, hsuf, hall, hsince, hfirst⟩ | ⟨hzero, -⟩ := hstate
      · rw [hsince]
        constructor
        · intro hle
          exact ⟨a, held, hsuf, hall, hle⟩
        · rintro ⟨b, held', hb, hb', hle⟩
          have hab := hfirst b held' hb hb'
          omega
      · exact absurd hzero (armed_ne_zero _ _)

end Latch
