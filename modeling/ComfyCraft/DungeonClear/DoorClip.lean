import Mathlib.Analysis.Convex.Segment
import Mathlib.Tactic.Linarith

/-! The test whether a segment on the map comes through the box around a door. -/

namespace ComfyCraft

open List Prod

namespace DungeonClearMath

/-- The loop over the slabs of the box, with what is left of the segment so far. -/
def clip : List (ℚ × ℚ) → ℚ → ℚ → Bool
  | [], t0, t1 => t0 ≤ t1
  | (p, q) :: slabs, t0, t1 =>
    if p = 0 then if q < 0 then false else clip slabs t0 t1
    else
      let r := q / p
      if p < 0 then if t1 < r then false else clip slabs (if t0 < r then r else t0) t1
      else if r < t0 then false else clip slabs t0 (if r < t1 then r else t1)

def segmentIntersectsAABB2D (a b boxMin boxMax : ℚ × ℚ) : Bool :=
  let dx := b.1 - a.1
  let dy := b.2 - a.2
  clip [(-dx, a.1 - boxMin.1), (dx, boxMax.1 - a.1), (-dy, a.2 - boxMin.2), (dy, boxMax.2 - a.2)] 0 1

/-- A part of the line that meets all slabs is left. -/
theorem clip_iff (slabs : List (ℚ × ℚ)) (t0 t1 : ℚ) :
    clip slabs t0 t1 = true ↔ ∃ t, t0 ≤ t ∧ t ≤ t1 ∧ ∀ e ∈ slabs, e.1 * t ≤ e.2 := by
  induction slabs generalizing t0 t1 with
  | nil => simpa [clip] using ⟨fun h => ⟨t0, le_rfl, h⟩, fun ⟨t, h0, h1⟩ => h0.trans h1⟩
  | cons slab slabs ih =>
    obtain ⟨p, q⟩ := slab
    simp only [forall_mem_cons]
    unfold clip
    rcases lt_trichotomy p 0 with hneg | rfl | hpos
    · -- the segment comes in at `r`
      have hslab : ∀ t, p * t ≤ q ↔ q / p ≤ t := fun t => by rw [div_le_iff_of_neg hneg, mul_comm]
      rw [if_neg hneg.ne]
      rw [if_pos hneg]
      simp only [hslab]
      split_ifs with hout hlater
      · simp only [false_iff]
        rintro ⟨t, -, h1, hr, -⟩
        exact absurd (hr.trans h1) (not_le.2 hout)
      · rw [ih]
        exact ⟨fun ⟨t, hr, h1, hall⟩ => ⟨t, hlater.le.trans hr, h1, hr, hall⟩, fun ⟨t, _, h1, hr, hall⟩ => ⟨t, hr, h1, hall⟩⟩
      · rw [ih]
        exact ⟨fun ⟨t, h0, h1, hall⟩ => ⟨t, h0, h1, (not_lt.1 hlater).trans h0, hall⟩, fun ⟨t, h0, h1, _, hall⟩ => ⟨t, h0, h1, hall⟩⟩
    · -- it runs along the slab
      rw [if_pos rfl]
      simp only [zero_mul]
      split_ifs with hout
      · simp only [false_iff]
        rintro ⟨t, -, -, hq, -⟩
        exact absurd hq (not_le.2 hout)
      · rw [ih]
        exact ⟨fun ⟨t, h0, h1, hall⟩ => ⟨t, h0, h1, not_lt.1 hout, hall⟩, fun ⟨t, h0, h1, _, hall⟩ => ⟨t, h0, h1, hall⟩⟩
    · -- it goes out at `r`
      have hslab : ∀ t, p * t ≤ q ↔ t ≤ q / p := fun t => by rw [le_div_iff₀ hpos, mul_comm]
      rw [if_neg hpos.ne']
      rw [if_neg (not_lt.2 hpos.le)]
      simp only [hslab]
      split_ifs with hout hsooner
      · simp only [false_iff]
        rintro ⟨t, h0, -, hr, -⟩
        exact absurd (h0.trans hr) (not_le.2 hout)
      · rw [ih]
        exact ⟨fun ⟨t, h0, hr, hall⟩ => ⟨t, h0, hr.trans hsooner.le, hr, hall⟩, fun ⟨t, h0, _, hr, hall⟩ => ⟨t, h0, hr, hall⟩⟩
      · rw [ih]
        exact ⟨fun ⟨t, h0, h1, hall⟩ => ⟨t, h0, h1, h1.trans (not_lt.1 hsooner), hall⟩, fun ⟨t, h0, h1, _, hall⟩ => ⟨t, h0, h1, hall⟩⟩

/-- Ends and edges count, and a segment may be a point. -/
theorem segmentIntersectsAABB2D_iff (a b boxMin boxMax : ℚ × ℚ) :
    segmentIntersectsAABB2D a b boxMin boxMax = true ↔ (segment ℚ a b ∩ Set.Icc boxMin boxMax).Nonempty := by
  unfold segmentIntersectsAABB2D
  rw [clip_iff, segment_eq_image']
  constructor
  · rintro ⟨t, h0, h1, hall⟩
    refine ⟨_, ⟨t, ⟨h0, h1⟩, rfl⟩, ?_⟩
    simp only [forall_mem_cons, not_mem_nil, false_imp_iff, implies_true, and_true] at hall
    obtain ⟨hleft, hright, hbottom, htop⟩ := hall
    exact ⟨⟨by simp; linarith, by simp; linarith⟩, ⟨by simp; linarith, by simp; linarith⟩⟩
  · rintro ⟨_, ⟨t, ⟨h0, h1⟩, rfl⟩, ⟨hleft, hbottom⟩, ⟨hright, htop⟩⟩
    simp only [fst_add, snd_add, smul_fst, smul_snd, fst_sub, snd_sub, smul_eq_mul] at hleft hbottom hright htop
    refine ⟨t, h0, h1, ?_⟩
    simp only [forall_mem_cons, not_mem_nil, false_imp_iff, implies_true, and_true]
    exact ⟨by linarith, by linarith, by linarith, by linarith⟩

end DungeonClearMath

end ComfyCraft
