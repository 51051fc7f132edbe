import ComfyCraft.DungeonClear.TestPlan
import Mathlib.Data.List.Perm.Basic
import Mathlib.Data.List.Range
import Mathlib.Data.List.Nodup

/-! What a test plan counts is what the run manager holds for it. The launches of a plan are the runs accepted
under its id; each is in the plan's active list until its outcome is entered, and in the run manager as long.
Only the plan's own tick adds to them, and aborting a run changes neither its id nor its plan. -/

namespace ComfyCraft

open List

namespace DcTestRunManager

variable {R : Type}

def launches (m : DcTestRunManager R) (planId : PlanId) : List R :=
  m.accepted.filterMap fun a => if a.1 = some planId then some a.2 else none

def runIds (planId : PlanId) (runs : List (TestRun R)) : List R :=
  runs.filterMap fun r => if r.planId = some planId then some r.runId else none

/-- The runs of a plan that have not finished. -/
def running (m : DcTestRunManager R) (planId : PlanId) : List R := runIds planId m.runs

@[simp] theorem runIds_nil (planId : PlanId) : runIds planId ([] : List (TestRun R)) = [] := rfl

@[simp] theorem runIds_append (planId : PlanId) (runs more : List (TestRun R)) :
    runIds planId (runs ++ more) = runIds planId runs ++ runIds planId more := filterMap_append

theorem runIds_cons_own (planId : PlanId) (r : TestRun R) (runs : List (TestRun R)) (h : r.planId = some planId) :
    runIds planId (r :: runs) = r.runId :: runIds planId runs := by
  apply filterMap_cons_some
  exact if_pos h

theorem runIds_cons_other (planId : PlanId) (r : TestRun R) (runs : List (TestRun R)) (h : r.planId ≠ some planId) :
    runIds planId (r :: runs) = runIds planId runs := by
  apply filterMap_cons_none
  exact if_neg h

@[simp] theorem abort_planId (r : TestRun R) : (abort r).planId = r.planId := by
  unfold abort
  split
  · rfl
  · split <;> rfl

@[simp] theorem abort_runId (r : TestRun R) : (abort r).runId = r.runId := by
  unfold abort
  split
  · rfl
  · split <;> rfl

theorem runIds_modify (planId : PlanId) (runs : List (TestRun R)) (i : Nat) :
    runIds planId (runs.modify i abort) = runIds planId runs := by
  induction runs generalizing i with
  | nil => simp
  | cons r runs ih =>
    cases i with
    | zero =>
      rw [modify_zero_cons]
      by_cases h : r.planId = some planId
      · rw [runIds_cons_own planId r runs h, runIds_cons_own planId (abort r) runs (by rw [abort_planId, h]), abort_runId]
      · rw [runIds_cons_other planId r runs h, runIds_cons_other planId (abort r) runs (by rwa [abort_planId])]
    | succ i =>
      rw [modify_succ_cons]
      by_cases h : r.planId = some planId
      · rw [runIds_cons_own planId r _ h, runIds_cons_own planId r _ h, ih]
      · rw [runIds_cons_other planId r _ h, runIds_cons_other planId r _ h, ih]

/-- Two managers that hold the same runs for a plan, and accepted the same. -/
def SameFor (planId : PlanId) (m m' : DcTestRunManager R) : Prop :=
  m'.launches planId = m.launches planId ∧ m'.running planId = m.running planId

variable {planId : PlanId} {m m' : DcTestRunManager R} {w : StartWorld R} {token : String} {heroic : Bool} {runId : R}

theorem SameFor.rfl : SameFor planId m m := ⟨Eq.refl _, Eq.refl _⟩

theorem SameFor.trans {m'' : DcTestRunManager R} (h : SameFor planId m m')
    (h' : SameFor planId m' m'') : SameFor planId m m'' := ⟨h'.1.trans h.1, h'.2.trans h.2⟩

/-- What an accepted launch comes to: the run is listed, under the plan it was launched for. -/
theorem start_ok {planId : Option PlanId} (h : m.start w token heroic planId = .ok (m', runId)) :
    ∃ dungeon, m' = ⟨m.runs ++ [⟨runId, planId, dungeon, false, false, none⟩], m.accepted ++ [(planId, runId)]⟩ := by
  unfold start at h
  split at h
  · cases h
  rename_i row hrow
  split at h
  · cases h
  split at h
  · cases h
  split at h
  · cases h
  split at h
  · cases h
  split at h
  · cases h
  · cases h
    exact ⟨row.token, rfl⟩

theorem start_own (h : m.start w token heroic (some planId) = .ok (m', runId)) :
    m'.launches planId = m.launches planId ++ [runId] ∧ m'.running planId = m.running planId ++ [runId] := by
  obtain ⟨dungeon, rfl⟩ := start_ok h
  constructor
  · simp [launches, filterMap_append]
  · simp [running, runIds_cons_own]

theorem start_other {launcher : Option PlanId} (h : m.start w token heroic launcher = .ok (m', runId))
    (hne : launcher ≠ some planId) :
    SameFor planId m m' := by
  obtain ⟨dungeon, rfl⟩ := start_ok h
  constructor
  · simp [launches, filterMap_append, hne]
  · simp [running, runIds_cons_other, hne]

variable [DecidableEq R]

@[simp] theorem stop_launches (m : DcTestRunManager R) (selector : RunSelector R) (planId : PlanId) :
    (m.stop selector).launches planId = m.launches planId := rfl

@[simp] theorem stop_running (m : DcTestRunManager R) (selector : RunSelector R) (planId : PlanId) :
    (m.stop selector).running planId = m.running planId := by
  unfold stop running
  generalize m.resolve selector = places
  induction places generalizing m with
  | nil => rfl
  | cons i places ih =>
    have := ih ⟨m.runs.modify i abort, m.accepted⟩
    rw [foldl_cons]
    exact this.trans (runIds_modify planId m.runs i)

theorem sameFor_stop (planId : PlanId) (m : DcTestRunManager R) (selector : RunSelector R) :
    SameFor planId m (m.stop selector) := ⟨stop_launches m selector planId, stop_running m selector planId⟩

theorem sameFor_stops (planId : PlanId) (runs : List R) (m : DcTestRunManager R) :
    SameFor planId m (runs.foldl (fun m runId => m.stop (.run runId)) m) := by
  induction runs generalizing m with
  | nil => exact SameFor.rfl
  | cons runId runs ih => exact (sameFor_stop planId m _).trans (ih _)

end DcTestRunManager

open DcTestRunManager

variable {R : Type}

/-- The books of a plan: its counters count its lists, its lists are the run manager's, its limits hold. -/
structure Plan.Booked (plan : Plan R) (m : DcTestRunManager R) : Prop where
  launched_eq : plan.counters.launched = plan.counters.activeNow + plan.counters.succeeded + plan.counters.failed
  activeNow_eq : plan.counters.activeNow = plan.activeRunIds.length
  activeNow_le : plan.counters.activeNow ≤ plan.spec.concurrent
  launched_le : plan.counters.launched ≤ plan.spec.total
  succeeded_eq : plan.counters.succeeded = plan.outcomes.countP fun o => o.result = "success"
  failed_eq : plan.counters.failed = plan.outcomes.countP fun o => ¬ o.result = "success"
  launches_perm : (plan.outcomes.map RunOutcome.runId ++ plan.activeRunIds).Perm (m.launches plan.spec.planId)
  active_perm : plan.activeRunIds.Perm (m.running plan.spec.planId)

namespace Plan.Booked

variable {plan : Plan R} {m m' : DcTestRunManager R}

theorem sameFor (h : plan.Booked m) (hm : SameFor plan.spec.planId m m') : plan.Booked m' where
  launched_eq := h.launched_eq
  activeNow_eq := h.activeNow_eq
  activeNow_le := h.activeNow_le
  launched_le := h.launched_le
  succeeded_eq := h.succeeded_eq
  failed_eq := h.failed_eq
  launches_perm := by rw [hm.1]; exact h.launches_perm
  active_perm := by rw [hm.2]; exact h.active_perm

/-- What a plan notes besides its counters, its lists and its spec is not in the books. -/
theorem congr {plan' : Plan R} (h : plan.Booked m) (hs : plan'.spec = plan.spec) (hc : plan'.counters = plan.counters)
    (ho : plan'.outcomes = plan.outcomes) (ha : plan'.activeRunIds = plan.activeRunIds) : plan'.Booked m where
  launched_eq := by rw [hc]; exact h.launched_eq
  activeNow_eq := by rw [hc, ha]; exact h.activeNow_eq
  activeNow_le := by rw [hc, hs]; exact h.activeNow_le
  launched_le := by rw [hc, hs]; exact h.launched_le
  succeeded_eq := by rw [hc, ho]; exact h.succeeded_eq
  failed_eq := by rw [hc, ho]; exact h.failed_eq
  launches_perm := by rw [hs, ho, ha]; exact h.launches_perm
  active_perm := by rw [hs, ha]; exact h.active_perm

theorem drain (h : plan.Booked m) (reason : String) : (plan.drain reason).Booked m := by
  unfold Plan.drain
  split
  · exact h.congr rfl rfl rfl rfl
  · exact h.congr rfl rfl rfl rfl

theorem runFinished [DecidableEq R] (h : plan.Booked m) (outcome : RunOutcome R) (hmem : outcome.runId ∈ plan.activeRunIds)
    (hl : m'.launches plan.spec.planId = m.launches plan.spec.planId)
    (hr : (m.running plan.spec.planId).Perm (outcome.runId :: m'.running plan.spec.planId)) :
    (plan.runFinished outcome).Booked m' := by
  have hlen : (plan.activeRunIds.erase outcome.runId).length = plan.counters.activeNow - 1 := by
    rw [length_erase_of_mem hmem, h.activeNow_eq]
  have hpos : 0 < plan.counters.activeNow := by
    rw [h.activeNow_eq]
    exact length_pos_of_mem hmem
  have hactive : (plan.runFinished outcome).counters.activeNow = plan.counters.activeNow - 1 := if_pos hpos
  have hlaunched := h.launched_eq
  constructor
  · rw [hactive]
    unfold Plan.runFinished
    by_cases hres : outcome.result = "success"
    · simp only [hres, if_true]
      omega
    · simp only [hres, if_false]
      omega
  · rw [hactive]
    exact hlen.symm
  · rw [hactive]
    exact (Nat.sub_le _ _).trans h.activeNow_le
  · exact h.launched_le
  · have := h.succeeded_eq
    unfold Plan.runFinished
    by_cases hres : outcome.result = "success" <;> simp [hres, List.countP_append, this]
  · have := h.failed_eq
    unfold Plan.runFinished
    by_cases hres : outcome.result = "success" <;> simp [hres, List.countP_append, this]
  · have hperm : (plan.outcomes.map RunOutcome.runId ++ outcome.runId :: plan.activeRunIds.erase outcome.runId).Perm
        (m'.launches plan.spec.planId) := by
      rw [hl]
      exact ((perm_cons_erase hmem).symm.append_left _).trans h.launches_perm
    simpa [Plan.runFinished] using hperm
  · have hperm := (h.active_perm.trans hr).erase outcome.runId
    rwa [erase_cons_head] at hperm

end Plan.Booked

/-- A launch is wanted only below both limits. -/
theorem launchesWanted_pos {spec : PlanSpec} {c : PlanCounters} {headroom backoff : Nat}
    (h : launchesWanted spec c headroom backoff ≠ 0) : c.launched < spec.total ∧ c.activeNow < spec.concurrent := by
  unfold launchesWanted at h
  split at h
  · exact absurd rfl h
  dsimp only at h
  constructor
  · by_contra hlt
    rw [if_neg hlt, Nat.zero_min, Nat.zero_min] at h
    exact h rfl
  · by_contra hlt
    rw [if_neg hlt, Nat.min_zero, Nat.zero_min] at h
    exact h rfl

namespace Plan

variable {plan plan' : Plan R} {m m' : DcTestRunManager R}

theorem Booked.launched {runId : R} (h : plan.Booked m)
    (htotal : plan.counters.launched < plan.spec.total) (hroom : plan.counters.activeNow < plan.spec.concurrent)
    (hl : m'.launches plan.spec.planId = m.launches plan.spec.planId ++ [runId])
    (hr : m'.running plan.spec.planId = m.running plan.spec.planId ++ [runId]) : (plan.launched runId).Booked m' where
  launched_eq := by
    have := h.launched_eq
    show plan.counters.launched + 1 = plan.counters.activeNow + 1 + plan.counters.succeeded + plan.counters.failed
    omega
  activeNow_eq := by
    have := h.activeNow_eq
    simp [Plan.launched, this]
  activeNow_le := hroom
  launched_le := htotal
  succeeded_eq := h.succeeded_eq
  failed_eq := h.failed_eq
  launches_perm := by
    have hperm := h.launches_perm.append_right [runId]
    rw [append_assoc] at hperm
    show (plan.outcomes.map RunOutcome.runId ++ (plan.activeRunIds ++ [runId])).Perm (m'.launches plan.spec.planId)
    rwa [hl]
  active_perm := by
    show (plan.activeRunIds ++ [runId]).Perm (m'.running plan.spec.planId)
    rw [hr]
    exact h.active_perm.append_right [runId]

/-- What a plan's tick does to the run manager concerns the plan alone, and its books stay in order. -/
structure Ticked (plan plan' : Plan R) (m m' : DcTestRunManager R) : Prop where
  spec_eq : plan'.spec = plan.spec
  booked : plan.Booked m → plan'.Booked m'
  others : ∀ planId, plan.spec.planId ≠ planId → SameFor planId m m'

theorem Ticked.same (hs : plan'.spec = plan.spec) (hc : plan'.counters = plan.counters) (ho : plan'.outcomes = plan.outcomes)
    (ha : plan'.activeRunIds = plan.activeRunIds) (hm : ∀ planId, SameFor planId m m') : Ticked plan plan' m m' where
  spec_eq := hs
  booked h := (h.congr hs hc ho ha).sameFor (hm _)
  others planId _ := hm planId

variable [DecidableEq R]

theorem abortPlan_ticked (m : DcTestRunManager R) (reason : String) (hs : plan'.spec = plan.spec)
    (hc : plan'.counters = plan.counters) (ho : plan'.outcomes = plan.outcomes)
    (ha : plan'.activeRunIds = plan.activeRunIds) :
    Ticked plan (plan'.abortPlan m reason).1 m (plan'.abortPlan m reason).2 :=
  Ticked.same hs hc ho ha fun planId => sameFor_stops planId plan'.activeRunIds m

theorem driverWait_ticked (m : DcTestRunManager R) (w : PlanTick R) (hs : plan'.spec = plan.spec)
    (hc : plan'.counters = plan.counters) (ho : plan'.outcomes = plan.outcomes)
    (ha : plan'.activeRunIds = plan.activeRunIds) : Ticked plan (plan'.driverWait m w).1 m (plan'.driverWait m w).2 := by
  unfold driverWait
  dsimp only
  generalize (if plan'.driverWaitSinceMs = 0 then w.nowMs else plan'.driverWaitSinceMs) = since
  split
  · exact abortPlan_ticked m _ hs hc ho ha
  · exact Ticked.same hs hc ho ha fun _ => SameFor.rfl

theorem rejected_ticked (m : DcTestRunManager R) (w : PlanTick R) (err : StartErr) (msg : String)
    (hs : plan'.spec = plan.spec) (hc : plan'.counters = plan.counters) (ho : plan'.outcomes = plan.outcomes)
    (ha : plan'.activeRunIds = plan.activeRunIds) :
    Ticked plan (plan'.rejected m w err msg).1 m (plan'.rejected m w err msg).2 := by
  unfold rejected
  dsimp only
  split
  · split
    · split
      · exact abortPlan_ticked m _ hs hc ho ha
      · exact Ticked.same hs hc ho ha fun _ => SameFor.rfl
    · exact Ticked.same hs hc ho ha fun _ => SameFor.rfl
  · exact abortPlan_ticked m _ hs hc ho ha

theorem tickPlan_ticked (plan : Plan R) (m : DcTestRunManager R) (diff : Nat) (w : PlanTick R) :
    Ticked plan (plan.tickPlan m diff w).1 m (plan.tickPlan m diff w).2 := by
  unfold tickPlan
  dsimp only
  generalize (if plan.backoffMs > diff then plan.backoffMs - diff else 0) = backoff
  split
  · exact Ticked.same rfl rfl rfl rfl fun _ => SameFor.rfl
  split
  · exact Ticked.same rfl rfl rfl rfl fun _ => SameFor.rfl
  rename_i hwanted
  obtain ⟨htotal, hroom⟩ := launchesWanted_pos hwanted
  split
  · exact driverWait_ticked m w rfl rfl rfl rfl
  -- The tick goes on with a plan that differs in its notes alone.
  generalize hp : (if w.gmConnected = true then _ else _ : Plan R) = waited
  have hsame : waited.spec = plan.spec ∧ waited.counters = plan.counters ∧ waited.outcomes = plan.outcomes ∧
      waited.activeRunIds = plan.activeRunIds := by
    rw [← hp]
    split <;> exact ⟨rfl, rfl, rfl, rfl⟩
  obtain ⟨hs, hc, ho, ha⟩ := hsame
  cases hstart : m.start w.launch waited.spec.dungeonToken waited.spec.heroic (some waited.spec.planId) with
  | error e => exact rejected_ticked m w e.1 e.2 hs hc ho ha
  | ok r =>
    rw [hs] at hstart
    obtain ⟨hl, hr⟩ := start_own hstart
    rw [← hs] at hl hr
    constructor
    · exact hs
    · intro h
      apply (h.congr hs hc ho ha).launched
      · rw [hs, hc]; exact htotal
      · rw [hs, hc]; exact hroom
      · exact hl
      · exact hr
    · intro planId hne
      exact start_other hstart fun heq => hne (Option.some.inj heq)

end Plan

end ComfyCraft
