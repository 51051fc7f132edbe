import ComfyCraft.Lib.Latch

/-! The gates of the dungeon clear that act once something has gone on for a while. Each keeps a latch that its caller
carries from tick to tick, and returns its answer with the latch it leaves. -/

namespace ComfyCraft.DungeonClearMath

open Latch UInt32 Bool List

/-- The latch that most gates share: armed at the first tick of the condition, and kept until the condition breaks. -/
def latch (qualifying : Bool) (since now graceMs : UInt32) : Bool × UInt32 :=
  if !qualifying then (false, 0) else (graceMs ≤ elapsed (armed since now) now, armed since now)

def ShouldAbortPullForCc (impaired : Bool) (ccSince now graceMs : UInt32) : Bool × UInt32 := latch impaired ccSince now graceMs

section
variable {F : Type} [Zero F] [LT F] [DecidableLT F]

/-- The condition of the camp's valve; a threshold of zero disables it. -/
def campQualifying (inCombat : Bool) (healthPct safetyHpPct : F) (attackerIsPullTarget : Bool) : Bool :=
  inCombat && 0 < safetyHpPct && healthPct < safetyHpPct && !attackerIsPullTarget

def ShouldTripCampSafety (inCombat : Bool) (healthPct safetyHpPct : F) (attackerIsPullTarget : Bool) (since now graceMs : UInt32) :
    Bool × UInt32 :=
  latch (campQualifying inCombat healthPct safetyHpPct attackerIsPullTarget) since now graceMs

end

def ShouldDropPullVerdict (targetPresent : Bool) (lostSince now graceMs : UInt32) : Bool × UInt32 :=
  latch (!targetPresent) lostSince now graceMs

/-- Only the lone patrollers bring the pull over the ceiling. -/
def contended (fullCount reducedCount ceiling : UInt32) : Bool := ceiling < fullCount && reducedCount ≤ ceiling

/-- It waits until the time is up, so its answer is the other way round. -/
def ShouldWaitForPatrol (fullCount reducedCount ceiling waitSince now waitMs : UInt32) : Bool × UInt32 :=
  if !contended fullCount reducedCount ceiling then (false, 0)
  else (elapsed (armed waitSince now) now < waitMs, armed waitSince now)

/-- A timeout of zero disables the gate. -/
def ShouldBreakStuckCombat (phantom : Bool) (now timeoutMs sinceMs : UInt32) : Bool × UInt32 :=
  if !phantom || timeoutMs = 0 then (false, 0)
  else
    let sinceMs := armed sinceMs now
    (sinceMs ≤ now && timeoutMs ≤ now - sinceMs, sinceMs)

/-- With no grace it does not latch; outside of combat it may always drive. -/
def MayDriveWhileFlagged (flagged engaged : Bool) (now graceMs sinceMs : UInt32) : Bool × UInt32 :=
  if !flagged then (true, 0)
  else if engaged then (false, 0)
  else if graceMs = 0 then (true, sinceMs)
  else
    let sinceMs := armed sinceMs now
    (sinceMs ≤ now && graceMs ≤ now - sinceMs, sinceMs)

/-! ### Ticks -/

structure Tick (I : Type) where
  now : UInt32
  input : I

structure CampInput (F : Type) where
  inCombat : Bool
  healthPct : F
  safetyHpPct : F
  attackerIsPullTarget : Bool

structure PatrolInput where
  fullCount : UInt32
  reducedCount : UInt32
  ceiling : UInt32

structure DriveInput where
  flagged : Bool
  engaged : Bool

/-! Each gate at a tick, with whether it says that the time is up. -/

def abortsPull (graceMs since : UInt32) (t : Tick Bool) : Bool × UInt32 := ShouldAbortPullForCc t.input since t.now graceMs

def tripsCamp {F : Type} [Zero F] [LT F] [DecidableLT F] (graceMs since : UInt32) (t : Tick (CampInput F)) : Bool × UInt32 :=
  ShouldTripCampSafety t.input.inCombat t.input.healthPct t.input.safetyHpPct t.input.attackerIsPullTarget since t.now graceMs

def dropsVerdict (graceMs since : UInt32) (t : Tick Bool) : Bool × UInt32 := ShouldDropPullVerdict t.input since t.now graceMs

def endsWait (waitMs since : UInt32) (t : Tick PatrolInput) : Bool × UInt32 :=
  let r := ShouldWaitForPatrol t.input.fullCount t.input.reducedCount t.input.ceiling since t.now waitMs
  (contended t.input.fullCount t.input.reducedCount t.input.ceiling && !r.1, r.2)

def breaksStuck (timeoutMs since : UInt32) (t : Tick Bool) : Bool × UInt32 := ShouldBreakStuckCombat t.input t.now timeoutMs since

def drivesFlagged (graceMs since : UInt32) (t : Tick DriveInput) : Bool × UInt32 :=
  let r := MayDriveWhileFlagged t.input.flagged t.input.engaged t.now graceMs since
  (t.input.flagged && !t.input.engaged && r.1, r.2)

/-- The gate says that the time is up exactly when the condition has held for the grace, at every tick of every run
whose clock does not run backwards. -/
def Agrees {I : Type} (cond : I → Bool) (graceMs : UInt32) (step : UInt32 → Tick I → Bool × UInt32) : Prop :=
  ∀ ticks t, Ordered Tick.now (ticks ++ [t]) →
    ((step (after step ticks) t).1 = true ↔ HeldFor Tick.now (fun x => cond x.input) graceMs ticks t)

variable {I : Type} {cond : I → Bool} {graceMs : UInt32}

theorem guarded_le (since now : UInt32) (h : graceMs ≠ 0) :
    (since ≤ now && graceMs ≤ now - since) = decide (graceMs ≤ elapsed since now) := by
  unfold elapsed
  by_cases hle : since ≤ now
  · rw [if_pos hle, decide_eq_true hle, Bool.true_and]
  have hnot : ¬ graceMs ≤ 0 := by
    intro hzero
    exact h (UInt32.toNat_inj.1 (Nat.le_zero.1 (UInt32.le_iff_toNat_le.1 hzero)))
  rw [if_neg hle, decide_eq_false hle, Bool.false_and, decide_eq_false hnot]

theorem latch_gate (cond : I → Bool) (graceMs : UInt32) :
    Gate Tick.now (fun x : Tick I => cond x.input) graceMs fun since t => latch (cond t.input) since t.now graceMs where
  clears since t h := by simp [latch, h]
  reports since t h := by simp [latch, h]
  latches since t h _ := by simp [latch, h]

theorem endsWait_gate (waitMs : UInt32) : Gate Tick.now
    (fun x : Tick PatrolInput => contended x.input.fullCount x.input.reducedCount x.input.ceiling) waitMs (endsWait waitMs) where
  clears since t h := by simp [endsWait, ShouldWaitForPatrol, h]
  reports since t h := by simp [endsWait, ShouldWaitForPatrol, h, ← UInt32.not_le]
  latches since t h _ := by simp [endsWait, ShouldWaitForPatrol, h]

theorem breaksStuck_gate {timeoutMs : UInt32} (hne : timeoutMs ≠ 0) :
    Gate Tick.now (fun x : Tick Bool => x.input) timeoutMs (breaksStuck timeoutMs) where
  clears since t h := by simp [breaksStuck, ShouldBreakStuckCombat, h]
  reports since t h := by
    simp only [breaksStuck, ShouldBreakStuckCombat, h, decide_eq_false hne, Bool.not_true, Bool.or_false, Bool.false_eq_true, if_false]
    exact guarded_le _ _ hne
  latches since t h _ := by simp [breaksStuck, ShouldBreakStuckCombat, h, hne]

theorem drivesFlagged_gate (graceMs : UInt32) :
    Gate Tick.now (fun x : Tick DriveInput => x.input.flagged && !x.input.engaged) graceMs (drivesFlagged graceMs) where
  clears since t h := by
    unfold drivesFlagged MayDriveWhileFlagged
    cases hflagged : t.input.flagged with
    | false => rfl
    | true =>
      cases hengaged : t.input.engaged with
      | false =>
        rw [hflagged, hengaged] at h
        cases h
      | true => rfl
  reports since t h := by
    obtain ⟨hflagged, hengaged⟩ := and_eq_true_iff.1 h
    rw [not_eq_true'] at hengaged
    by_cases hgrace : graceMs = 0
    · have hle : (0 : UInt32) ≤ elapsed (armed since t.now) t.now := le_iff_toNat_le.2 (Nat.zero_le _)
      simp [drivesFlagged, MayDriveWhileFlagged, hflagged, hengaged, hgrace, hle]
    · simp only [drivesFlagged, MayDriveWhileFlagged, hflagged, hengaged, hgrace, Bool.not_true, Bool.not_false, Bool.true_and,
        false_eq_true, if_false]
      exact guarded_le _ _ hgrace
  latches since t h hgrace := by
    obtain ⟨hflagged, hengaged⟩ := and_eq_true_iff.1 h
    rw [not_eq_true'] at hengaged
    simp [drivesFlagged, MayDriveWhileFlagged, hflagged, hengaged, hgrace]

theorem agrees_of_gate {step : UInt32 → Tick I → Bool × UInt32} (h : Gate Tick.now (fun x : Tick I => cond x.input) graceMs step) :
    Agrees cond graceMs step := fun _ _ hticks => h.reports_iff hticks

/-- A disabled gate never says that the time is up. -/
theorem breaksStuck_disabled (since : UInt32) (t : Tick Bool) : breaksStuck 0 since t = (false, 0) := by
  simp [breaksStuck, ShouldBreakStuckCombat]

/-- Every gate says that the time is up exactly when its condition has held for the grace; the one for stuck combat
does so for every timeout but zero, which disables it. -/
theorem latch_gates_agree (F : Type) [Zero F] [LT F] [DecidableLT F] (graceMs : UInt32) :
    Agrees (fun impaired => impaired) graceMs (abortsPull graceMs) ∧
      Agrees (fun i : CampInput F => campQualifying i.inCombat i.healthPct i.safetyHpPct i.attackerIsPullTarget) graceMs
        (tripsCamp graceMs) ∧
      Agrees (fun targetPresent => !targetPresent) graceMs (dropsVerdict graceMs) ∧
      Agrees (fun i : PatrolInput => contended i.fullCount i.reducedCount i.ceiling) graceMs (endsWait graceMs) ∧
      Agrees (fun i : DriveInput => i.flagged && !i.engaged) graceMs (drivesFlagged graceMs) ∧
      (graceMs ≠ 0 → Agrees (fun phantom => phantom) graceMs (breaksStuck graceMs)) ∧
      (graceMs = 0 → ∀ ticks t, (breaksStuck graceMs (after (breaksStuck graceMs) ticks) t).1 = false) := by
  have hcamp := latch_gate (fun i : CampInput F => campQualifying i.inCombat i.healthPct i.safetyHpPct i.attackerIsPullTarget) graceMs
  have himpaired := latch_gate (fun impaired : Bool => impaired) graceMs
  have hlost := latch_gate (fun targetPresent : Bool => !targetPresent) graceMs
  refine ⟨agrees_of_gate himpaired, agrees_of_gate hcamp, agrees_of_gate hlost, agrees_of_gate (endsWait_gate _),
    agrees_of_gate (drivesFlagged_gate _), fun hne => agrees_of_gate (breaksStuck_gate hne), ?_⟩
  rintro rfl ticks t
  rw [breaksStuck_disabled]

/-- At the first phantom tick no time at all has to pass, and the gate is disabled. -/
theorem breaksStuck_not_held : ¬ ∀ timeoutMs, Agrees (fun phantom => phantom) timeoutMs (breaksStuck timeoutMs) := by
  intro h
  have hreport := (h 0 [] ⟨5, true⟩ (pairwise_singleton _ _)).2
    ⟨⟨5, true⟩, [], suffix_refl _, fun x hx => by rw [mem_singleton.1 hx], Nat.zero_le _⟩
  rw [breaksStuck_disabled] at hreport
  cases hreport

end ComfyCraft.DungeonClearMath
