import ComfyCraft.Lib.Latch
import Mathlib.Algebra.Order.Field.Basic
import Mathlib.Data.List.Chain
import Mathlib.Tactic.FieldSimp
import Mathlib.Tactic.Linarith
import Mathlib.Tactic.Ring

/-! Two holds of the dungeon clear that must not last: the muster before a scripted stage, and the tick that a detour
around a bystander borrows. -/

namespace ComfyCraft.DungeonClearMath

open Latch List Nat

/-! ### The muster -/

/-- An armed muster lasts this long whatever the party's state. -/
def floorMs (minMs waitMs : UInt32) : UInt32 := if waitMs < minMs then waitMs else minMs

def ShouldMusterForScriptedStage (stagePending toppedUp : Bool) (waitSince now waitMs minMs : UInt32) : Bool × UInt32 :=
  if !stagePending then (false, 0)
  else if waitSince = 0 && toppedUp then (false, 0)
  else
    let start := armed waitSince now
    if elapsed start now < floorMs minMs waitMs then (true, start)
    else if toppedUp then (false, 0)
    else (elapsed start now < waitMs, start)

structure MusterTick where
  now : UInt32
  toppedUp : Bool

def musters (waitMs minMs waitSince : UInt32) (t : MusterTick) : Bool × UInt32 :=
  ShouldMusterForScriptedStage true t.toppedUp waitSince t.now waitMs minMs

def answers {α : Type} (step : UInt32 → α → Bool × UInt32) (since : UInt32) : List α → List Bool
  | [] => []
  | t :: ticks => (step since t).1 :: answers step (step since t).2 ticks

/-- The muster that began at `start` is not called off at the tick: the party is topped up only within the floor. -/
def Musters (waitMs minMs start : UInt32) (t : MusterTick) : Prop :=
  t.toppedUp = true → elapsed start t.now < floorMs minMs waitMs

variable {waitMs minMs : UInt32}

theorem lt_of_lt_floorMs {x : UInt32} (h : x < floorMs minMs waitMs) : x < waitMs := by
  unfold floorMs at h
  split at h
  · exact h
  · rename_i hle
    exact UInt32.lt_of_lt_of_le h (UInt32.not_lt.1 hle)

variable {t : MusterTick} {start : UInt32} {ticks : List MusterTick}

theorem musters_first (ht : t.toppedUp = false) :
    musters waitMs minMs 0 t = (decide (elapsed (armed 0 t.now) t.now < waitMs), armed 0 t.now) := by
  have hzero : elapsed (armed 0 t.now) t.now = 0 := by
    rw [← UInt32.toNat_inj, toNat_elapsed, toNat_armed_zero]
    show t.now.toNat - max 1 t.now.toNat = 0
    omega
  simp only [musters, ShouldMusterForScriptedStage, ht, hzero, Bool.not_true, Bool.and_false, Bool.false_eq_true, if_false]
  split
  · rename_i hfloor
    rw [decide_eq_true (lt_of_lt_floorMs hfloor)]
  · rfl

/-- While a muster is not called off its latch stays, and it holds for as long as there is time. -/
theorem musters_next (hstart : start ≠ 0) (ht : Musters waitMs minMs start t) :
    musters waitMs minMs start t = (decide (elapsed start t.now < waitMs), start) := by
  have hzero : decide (start = 0) = false := decide_eq_false hstart
  simp only [musters, ShouldMusterForScriptedStage, armed_of_ne hstart, hzero, Bool.not_true, Bool.false_and, Bool.false_eq_true, if_false]
  split
  · rename_i hfloor
    rw [decide_eq_true (lt_of_lt_floorMs hfloor)]
  · rename_i hfloor
    rw [if_neg fun htop => hfloor (ht htop)]

theorem musters_called_off (ht : ¬ Musters waitMs minMs start t) : musters waitMs minMs start t = (false, 0) := by
  unfold Musters at ht
  obtain ⟨htop, hfloor⟩ := Classical.not_imp.1 ht
  unfold musters ShouldMusterForScriptedStage
  rw [htop]
  by_cases hstart : start = 0
  · simp [hstart]
  · simp [hstart, armed_of_ne hstart, hfloor]

theorem answers_musters (hstart : start ≠ 0) (hticks : ∀ t ∈ ticks, Musters waitMs minMs start t) :
    answers (musters waitMs minMs) start ticks = ticks.map fun t => decide (elapsed start t.now < waitMs) := by
  induction ticks with
  | nil => rfl
  | cons t ticks ih =>
    rw [answers, musters_next hstart (hticks t mem_cons_self), map_cons, ih fun x hx => hticks x (mem_cons_of_mem t hx)]

/-- On a clock that does not run backwards the ticks before a time are the first ones. -/
theorem split_at_time (start limit : UInt32) (hticks : Ordered MusterTick.now ticks) :
    ∃ held done, ticks = held ++ done ∧ (∀ t ∈ held, elapsed start t.now < limit) ∧
      ticks.map (fun t => decide (elapsed start t.now < limit)) = List.replicate held.length true ++ List.replicate done.length false := by
  induction ticks with
  | nil => exact ⟨[], [], rfl, fun _ ht => absurd ht not_mem_nil, rfl⟩
  | cons t ticks ih =>
    obtain ⟨hfirst, hrest⟩ := pairwise_cons.1 hticks
    by_cases hlt : elapsed start t.now < limit
    · obtain ⟨held, done, rfl, hheld, hmap⟩ := ih hrest
      refine ⟨t :: held, done, rfl, fun x hx => ?_, ?_⟩
      · rcases mem_cons.1 hx with rfl | hx
        · exact hlt
        · exact hheld x hx
      · rw [map_cons, hmap, decide_eq_true hlt]
        rfl
    · refine ⟨[], t :: ticks, rfl, fun _ ht => absurd ht not_mem_nil, ?_⟩
      rw [length_nil, replicate_zero, nil_append, eq_replicate_iff]
      refine ⟨length_map _, fun b hb => ?_⟩
      obtain ⟨x, hx, rfl⟩ := mem_map.1 hb
      have hle : (elapsed start t.now).toNat ≤ (elapsed start x.now).toNat := by
        rw [toNat_elapsed, toNat_elapsed]
        rcases mem_cons.1 hx with rfl | hx
        · exact le_rfl
        · have hnow := hfirst x hx
          omega
      exact decide_eq_false fun hx => hlt (UInt32.lt_of_le_of_lt (UInt32.le_iff_toNat_le.2 hle) hx)

/-- A muster holds at its first ticks and no more, and the last of these comes within the time it has. -/
theorem muster_bounded (waitMs minMs : UInt32) {first : MusterTick} {rest : List MusterTick} (hticks : Ordered MusterTick.now
    (first :: rest))
    (hshort : first.toppedUp = false) (hrest : ∀ t ∈ rest, Musters waitMs minMs (armed 0 first.now) t) :
    ∃ held done, first :: rest = held ++ done ∧
      answers (musters waitMs minMs) 0 (first :: rest) = List.replicate held.length true ++ List.replicate done.length false ∧
      ∀ t ∈ held, t.now.toNat ≤ first.now.toNat + waitMs.toNat := by
  obtain ⟨held, done, hsplit, hheld, hmap⟩ := split_at_time (armed 0 first.now) waitMs hticks
  refine ⟨held, done, hsplit, ?_, fun t ht => ?_⟩
  · rw [← hmap, answers, musters_first hshort, map_cons, answers_musters (armed_ne_zero _ _) hrest]
  have hlt := UInt32.lt_iff_toNat_lt.1 (hheld t ht)
  rw [toNat_elapsed, toNat_armed_zero] at hlt
  omega

/-! ### The detour -/

section
variable {K : Type}

def ShouldKeepAvoidDetour [Sub K] [LT K] [DecidableLT K] (now : UInt32) (curDist : K) (timeoutMs : UInt32) (progressEpsilon : K)
    (sinceMs : UInt32) (bestDist : K) : Bool × UInt32 × K :=
  if sinceMs = 0 ∨ curDist < bestDist - progressEpsilon then (true, if now ≠ 0 then now else 1, curDist)
  else if timeoutMs = 0 then (true, sinceMs, bestDist)
  else (!(sinceMs ≤ now && timeoutMs ≤ now - sinceMs), sinceMs, bestDist)

structure DetourTick (K : Type) where
  now : UInt32
  curDist : K

/-- The borrow is kept at every one of the ticks. -/
def Keeps [Sub K] [LT K] [DecidableLT K] (timeoutMs : UInt32) (progressEpsilon : K) : UInt32 → K → List (DetourTick K) → Prop
  | _, _, [] => True
  | sinceMs, bestDist, t :: ticks =>
    let r := ShouldKeepAvoidDetour t.now t.curDist timeoutMs progressEpsilon sinceMs bestDist
    r.1 = true ∧ Keeps timeoutMs progressEpsilon r.2.1 r.2.2 ticks

/-- The clock does not run backwards, and no tick comes later than `gap` after the one before it. -/
def Paced (gap : Nat) (ticks : List (DetourTick K)) : Prop :=
  ticks.IsChain fun a b => a.now.toNat ≤ b.now.toNat ∧ b.now.toNat ≤ a.now.toNat + gap

/-- Without a timeout the borrow is never given up. -/
theorem detour_unbounded [Sub K] [LT K] [DecidableLT K] (eps : K) (sinceMs : UInt32) (bestDist : K) (ticks : List
    (DetourTick K)) : Keeps 0 eps sinceMs bestDist ticks := by
  induction ticks generalizing sinceMs bestDist with
  | nil => trivial
  | cons t ticks ih =>
    refine ⟨?_, ih _ _⟩
    unfold ShouldKeepAvoidDetour
    split
    · rfl
    · rfl

variable [Field K] [LinearOrder K] [IsStrictOrderedRing K]

/-- What is left of a borrow: each tick that makes progress costs an epsilon of the distance. -/
theorem kept_until {timeoutMs : UInt32} (htimeout : timeoutMs ≠ 0) {eps : K} (heps : 0 < eps) {gap : Nat} {ticks : List
    (DetourTick K)}
    {prev last : DetourTick K} {sinceMs : UInt32} {bestDist : K} (hsince : sinceMs ≠ 0) (hbest : 0 ≤ bestDist)
    (hprev : prev.now.toNat < sinceMs.toNat + timeoutMs.toNat) (hpaced : Paced gap (prev :: (ticks ++ [last])))
    (hdist : ∀ t ∈ ticks, 0 ≤ t.curDist) (hkept : Keeps timeoutMs eps sinceMs bestDist ticks) :
    (last.now.toNat + 1 : K) ≤ sinceMs.toNat + (timeoutMs.toNat + gap) * (1 + bestDist / eps) := by
  have htime : 0 < timeoutMs.toNat := pos_of_ne_zero fun h => htimeout (UInt32.toNat_inj.1 h)
  have hone : 0 < sinceMs.toNat := pos_of_ne_zero fun h => hsince (UInt32.toNat_inj.1 h)
  induction ticks generalizing prev sinceMs bestDist with
  | nil =>
    have hlast : last.now.toNat ≤ prev.now.toNat + gap := (isChain_pair.1 hpaced).2
    have hle : ((last.now.toNat + 1 : ℕ) : K) ≤ ((sinceMs.toNat + (timeoutMs.toNat + gap) : ℕ) : K) := cast_le.2 (by omega)
    have hmore : 0 ≤ ((timeoutMs.toNat : K) + gap) * (bestDist / eps) := by positivity
    push_cast at hle
    rw [mul_add, mul_one]
    linarith
  | cons t ticks ih =>
    obtain ⟨hnow, hpaced'⟩ := isChain_cons_cons.1 hpaced
    obtain ⟨hthis, hrest⟩ := hkept
    have hdist' : ∀ x ∈ ticks, 0 ≤ x.curDist := fun x hx => hdist x (mem_cons_of_mem t hx)
    have hcur := hdist t mem_cons_self
    by_cases hprogress : t.curDist < bestDist - eps
    · have hstep : ShouldKeepAvoidDetour t.now t.curDist timeoutMs eps sinceMs bestDist = (true, armed 0 t.now, t.curDist) := by
        simp [ShouldKeepAvoidDetour, hprogress, armed]
      rw [hstep] at hrest
      have harmed := toNat_armed_zero t.now
      have hprev' : t.now.toNat < (armed 0 t.now).toNat + timeoutMs.toNat := by omega
      have hnext := ih (armed_ne_zero _ _) hcur hprev' hpaced' hdist' hrest (by omega)
      have hstamp : (((armed 0 t.now).toNat : ℕ) : K) ≤ ((sinceMs.toNat + (timeoutMs.toNat + gap) : ℕ) : K) := cast_le.2 (by omega)
      push_cast at hstamp
      -- the progress is worth one more stretch of the timeout and a gap
      have hless : 1 + t.curDist / eps ≤ bestDist / eps := by
        rw [le_div_iff₀ heps, add_mul, div_mul_cancel₀ _ heps.ne']
        linarith
      have hmul : ((timeoutMs.toNat : K) + gap) * (1 + t.curDist / eps) ≤ (timeoutMs.toNat + gap) * (bestDist / eps) :=
        mul_le_mul_of_nonneg_left hless (by positivity)
      rw [mul_add ((timeoutMs.toNat : K) + gap) 1 (bestDist / eps), mul_one]
      linarith
    · have hstep : ShouldKeepAvoidDetour t.now t.curDist timeoutMs eps sinceMs bestDist =
          (!(sinceMs ≤ t.now && timeoutMs ≤ t.now - sinceMs), sinceMs, bestDist) := by
        simp [ShouldKeepAvoidDetour, hprogress, hsince, htimeout]
      rw [hstep] at hthis hrest
      refine ih hsince hbest ?_ hpaced' hdist' hrest hone
      by_contra hlate
      have hle : sinceMs ≤ t.now := UInt32.le_iff_toNat_le.2 (by omega)
      have hout : timeoutMs ≤ t.now - sinceMs := by
        rw [UInt32.le_iff_toNat_le, UInt32.toNat_sub_of_le _ _ hle]
        omega
      simp [hle, hout] at hthis

/-- A borrow that is kept up to the tick `last` has lasted no longer than the timeout and one tick, once for the start
and once for each epsilon of the distance. -/
theorem detour_bounded (timeoutMs : UInt32) (htimeout : timeoutMs ≠ 0) (eps : K) (heps : 0 < eps) (gap : Nat) (bestDist : K)
    (first last : DetourTick K) (rest : List (DetourTick K)) (hpaced : Paced gap (first :: (rest ++ [last])))
    (hdist : ∀ t ∈ first :: rest, 0 ≤ t.curDist) (hkept : Keeps timeoutMs eps 0 bestDist (first :: rest)) :
    ((last.now.toNat : K) - first.now.toNat) ≤ (timeoutMs.toNat + gap) * (1 + first.curDist / eps) := by
  have htime : 0 < timeoutMs.toNat := pos_of_ne_zero fun h => htimeout (UInt32.toNat_inj.1 h)
  have hstep : ShouldKeepAvoidDetour first.now first.curDist timeoutMs eps 0 bestDist = (true, armed 0 first.now, first.curDist) := by
    simp [ShouldKeepAvoidDetour, armed]
  have hrest := hkept.2
  rw [hstep] at hrest
  have harmed := toNat_armed_zero first.now
  have hfirst : first.now.toNat < (armed 0 first.now).toNat + timeoutMs.toNat := by omega
  have hbound := kept_until htimeout heps (armed_ne_zero _ _) (hdist first mem_cons_self) hfirst hpaced
    (fun t ht => hdist t (mem_cons_of_mem first ht)) hrest
  have hstamp : (((armed 0 first.now).toNat : ℕ) : K) ≤ ((first.now.toNat + 1 : ℕ) : K) := cast_le.2 (by omega)
  push_cast at hstamp
  linarith

end

/-! ### Both -/

/-- A muster that the party does not end by topping up holds at its first ticks only and for no longer than it may, and
one that the party ends is over. A detour's borrow lasts as long as its progress pays for; without a timeout it stays. -/
theorem holds_bounded : (∀ (waitMs minMs : UInt32) (before : List MusterTick) (first : MusterTick) (rest : List MusterTick),
      Ordered MusterTick.now (before ++ first :: rest) → after (musters waitMs minMs) before = 0 → first.toppedUp = false →
      (∀ t ∈ rest, Musters waitMs minMs (armed 0 first.now) t) →
      ∃ held done, first :: rest = held ++ done ∧
        answers (musters waitMs minMs) (after (musters waitMs minMs) before) (first :: rest) =
          List.replicate held.length true ++ List.replicate done.length false ∧
        ∀ t ∈ held, t.now.toNat ≤ first.now.toNat + waitMs.toNat) ∧
    (∀ (waitMs minMs start : UInt32) (t : MusterTick), ¬ Musters waitMs minMs start t → musters waitMs minMs start t = (false, 0)) ∧
    (∀ (K : Type) [Field K] [LinearOrder K] [IsStrictOrderedRing K] (timeoutMs : UInt32), timeoutMs ≠ 0 → ∀ eps : K, 0 < eps →
      ∀ (gap : Nat) (bestDist : K) (first last : DetourTick K) (rest : List (DetourTick K)), Paced gap (first :: (rest ++ [last])) →
        (∀ t ∈ first :: rest, 0 ≤ t.curDist) → Keeps timeoutMs eps 0 bestDist (first :: rest) →
        ((last.now.toNat : K) - first.now.toNat) ≤ (timeoutMs.toNat + gap) * (1 + first.curDist / eps)) ∧
    ∀ (K : Type) [Sub K] [LT K] [DecidableLT K] (eps bestDist : K) (ticks : List (DetourTick K)), Keeps 0 eps 0 bestDist ticks := by
  refine ⟨fun waitMs minMs before first rest hticks hclear hshort hrest => ?_, fun waitMs minMs start t ht => musters_called_off ht,
    fun K _ _ _ timeoutMs htimeout eps heps gap bestDist first last rest hpaced hdist hkept => ?_,
    fun K _ _ _ eps bestDist ticks => detour_unbounded eps 0 bestDist ticks⟩
  · rw [hclear]
    exact muster_bounded waitMs minMs (pairwise_append.1 hticks).2.1 hshort hrest
  · exact detour_bounded timeoutMs htimeout eps heps gap bestDist first last rest hpaced hdist hkept

/-- A party that is topped up for a tick starts a muster again after it; and a detour that makes progress at ticks far
apart is kept for longer than its timeouts and one tick. -/
theorem holds_longer : (¬ ∀ (waitMs minMs : UInt32) (before more : List MusterTick) (t t' : MusterTick),
      Ordered MusterTick.now (before ++ t :: (more ++ [t'])) → after (musters waitMs minMs) before ≠ 0 →
      (musters waitMs minMs (after (musters waitMs minMs) before) t).1 = false →
      (musters waitMs minMs (after (musters waitMs minMs) (before ++ t :: more)) t').1 = false) ∧
    ¬ ∀ (timeoutMs : UInt32) (eps : ℚ), 0 < eps → ∀ (gap : Nat) (bestDist : ℚ) (first last : DetourTick ℚ) (rest : List (DetourTick ℚ)),
      Paced gap (first :: (rest ++ [last])) → (∀ t ∈ first :: rest, 0 ≤ t.curDist) → Keeps timeoutMs eps 0 bestDist (first :: rest) →
      ((last.now.toNat : ℚ) - first.now.toNat) ≤ timeoutMs.toNat * (1 + first.curDist / eps) + gap := by
  constructor
  · intro h
    have hdone := h 40000 8000 [⟨1000, false⟩] [] ⟨14000, true⟩ ⟨14001, false⟩ (by unfold Ordered; decide) (by decide) (by decide)
    exact absurd hdone (by decide)
  · intro h
    have hbound := h 1 1 (by norm_num) 10 0 ⟨100, 3⟩ ⟨130, 0⟩ [⟨110, 19 / 10⟩, ⟨120, 8 / 10⟩]
      (by unfold Paced; simp only [cons_append, nil_append, isChain_cons_cons, isChain_singleton]; decide)
      (by intro t ht; simp only [mem_cons, not_mem_nil, or_false] at ht; rcases ht with rfl | rfl | rfl <;> norm_num)
      (by refine ⟨by decide +kernel, by decide +kernel, by decide +kernel, trivial⟩)
    have hstart : (100 : UInt32).toNat = 100 := rfl
    have hend : (130 : UInt32).toNat = 130 := rfl
    have htimeout : (1 : UInt32).toNat = 1 := rfl
    rw [hstart, hend, htimeout] at hbound
    norm_num at hbound

end ComfyCraft.DungeonClearMath
