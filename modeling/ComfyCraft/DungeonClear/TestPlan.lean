import ComfyCraft.Lib.Runs

/-! Test plans of the dungeon-clear module: campaigns that keep some test runs of one dungeon in flight until
a total has finished. The plan manager launches the runs through the run manager and is told of each that
finished; what the world decides about a launch, a login or a run is part of the step. -/

namespace ComfyCraft

structure PlanId where
  stamp : String
  counter : Nat
deriving DecidableEq

structure PlanSpec where
  planId : PlanId
  dungeonToken : String
  total : Nat
  /-- 0 for the default. -/
  concurrent : Nat
  heroic : Bool

structure PlanCounters where
  launched : Nat
  succeeded : Nat
  failed : Nat
  activeNow : Nat

structure RunOutcome (R : Type) where
  runId : R
  result : String

/-- A row of the dungeon registry; level 0 where a dungeon has no heroic mode. -/
structure DungeonRow where
  token : String
  heroicLevel : Nat

def launchesWanted (spec : PlanSpec) (c : PlanCounters) (globalHeadroom backoffMs : Nat) : Nat :=
  if backoffMs > 0 then 0
  else
    let remaining := if spec.total > c.launched then spec.total - c.launched else 0
    let planHeadroom := if spec.concurrent > c.activeNow then spec.concurrent - c.activeNow else 0
    min (min remaining planHeadroom) globalHeadroom

def driverWaitVerdict (loginPending : Bool) (waitedMs capMs : Nat) : Bool :=
  !loginPending || waitedMs ≥ capMs

def isFinished (spec : PlanSpec) (c : PlanCounters) (stopping : Bool) : Bool :=
  c.activeNow = 0 && (stopping || c.succeeded + c.failed ≥ spec.total)

inductive StartErr
  | unknownDungeon
  | noMgr
  | capHit
  | botBudget
  | poolExhausted
deriving DecidableEq

def StartErr.transient : StartErr → Bool
  | .capHit => true
  | .botBudget => true
  | .poolExhausted => true
  | _ => false

/-- A test run. A run that is set up can be aborted at once, one that is monitored is asked to. -/
structure TestRun (R : Type) where
  runId : R
  planId : Option PlanId
  dungeon : String
  monitoring : Bool
  abortRequested : Bool
  done : Option String

/-- What a launch finds: the registry row, the issuer's playerbot manager, the limits, and the job that is
created or why none is. -/
structure StartWorld (R : Type) where
  row : Option DungeonRow
  playerbotMgr : Bool
  maxConcurrent : Nat
  currentBots : Nat
  maxAddedBots : Int
  job : Except String R

def kPartySize : Nat := 5

inductive RunSelector (R : Type)
  | single
  | all
  | run (runId : R)
  | dungeon (token : String)

/-- The run manager; the launches it accepted are listed beside it. -/
structure DcTestRunManager (R : Type) where
  runs : List (TestRun R)
  accepted : List (Option PlanId × R)

namespace DcTestRunManager

variable {R : Type} [DecidableEq R]

variable (m : DcTestRunManager R)

def capHeadroom (maxConcurrent : Nat) : Nat :=
  if maxConcurrent = 0 then 4294967295
  else if maxConcurrent > m.runs.length then maxConcurrent - m.runs.length else 0

def start (w : StartWorld R) (dungeonToken : String) (heroic : Bool) (planId : Option PlanId) :
    Except (StartErr × String) (DcTestRunManager R × R) :=
  let fail (kind : StartErr) (why : String) := .error (kind, "Test run not started: " ++ why)
  match w.row with
  | none => fail .unknownDungeon ("unknown dungeon '" ++ dungeonToken ++ "' — see .dc test list")
  | some row =>
    if heroic ∧ row.heroicLevel = 0 then
      fail .unknownDungeon ("'" ++ row.token ++ "' has no heroic mode (classic dungeons have none)")
    else if !w.playerbotMgr then fail .noMgr "no playerbot manager on this account"
    else if w.maxConcurrent ≠ 0 ∧ m.runs.length ≥ w.maxConcurrent then
      fail .capHit ("max concurrent test runs reached (" ++ toString w.maxConcurrent ++ ") — .dc test stop <run> first")
    else if w.maxAddedBots > 0 ∧ (w.currentBots + kPartySize : Int) > w.maxAddedBots then
      fail .botBudget ("would exceed AiPlayerbot.MaxAddedBots (" ++ toString w.maxAddedBots ++ "; " ++ toString w.currentBots ++
        " bots already added, this run needs " ++ toString kPartySize ++ ") — raise it or stop a run")
    else
      match w.job with
      | .error err => fail .poolExhausted err
      | .ok runId =>
        .ok (⟨m.runs ++ [⟨runId, planId, row.token, false, false, none⟩], m.accepted ++ [(planId, runId)]⟩, runId)

def resolve : RunSelector R → List Nat
  | .single => if m.runs.length = 1 then [0] else []
  | .all => List.range m.runs.length
  | .run runId => (m.runs.findIdx? fun r => r.runId = runId).toList
  | .dungeon token => (List.range m.runs.length).filter fun i => (m.runs[i]?.map TestRun.dungeon) = some token

def abort (r : TestRun R) : TestRun R :=
  if r.done.isSome then r
  else if r.monitoring then { r with abortRequested := true }
  else { r with done := some "setup_failed" }

def stop (selector : RunSelector R) : DcTestRunManager R :=
  { m with runs := (m.resolve selector).foldl (fun runs i => runs.modify i abort) m.runs }

end DcTestRunManager

structure Plan (R : Type) where
  spec : PlanSpec
  counters : PlanCounters
  gmGuid : UInt64
  backoffMs : Nat
  transientStreak : Nat
  /-- 0 while the driver's login is not waited for. -/
  driverWaitSinceMs : Nat
  stopping : Bool
  result : String
  abortReason : String
  outcomes : List (RunOutcome R)
  activeRunIds : List R

inductive Readiness
  | ready
  | pendingLogin
  | unavailable
deriving DecidableEq

structure PlanTick (R : Type) where
  gmConnected : Bool
  driver : Readiness
  driverWhy : String
  nowMs : Nat
  backoffCfg : Nat
  waitCap : Nat
  launch : StartWorld R

def kMaxTransientStreak : Nat := 3

namespace Plan

variable {R : Type} [DecidableEq R]

variable (plan : Plan R) (m : DcTestRunManager R)

/-- `AbortPlan`, and the runs it stops. -/
def abortPlan (reason : String) : Plan R × DcTestRunManager R :=
  ({ plan with stopping := true, result := "aborted", abortReason := reason },
    plan.activeRunIds.foldl (fun m runId => m.stop (.run runId)) m)

def driverWait (w : PlanTick R) : Plan R × DcTestRunManager R :=
  let since := if plan.driverWaitSinceMs = 0 then w.nowMs else plan.driverWaitSinceMs
  let waiting := { plan with driverWaitSinceMs := since, backoffMs := w.backoffCfg }
  if driverWaitVerdict (w.driver = .pendingLogin) (w.nowMs - since) w.waitCap then
    waiting.abortPlan m ("no issuing GM: " ++ w.driverWhy)
  else (waiting, m)

def launched (plan : Plan R) (runId : R) : Plan R :=
  { plan with
    counters := { plan.counters with launched := plan.counters.launched + 1, activeNow := plan.counters.activeNow + 1 }
    activeRunIds := plan.activeRunIds ++ [runId]
    transientStreak := 0 }

def rejected (w : PlanTick R) (err : StartErr) (msg : String) :
    Plan R × DcTestRunManager R :=
  if err.transient then
    let plan := { plan with backoffMs := w.backoffCfg }
    if plan.counters.activeNow = 0 ∧ m.runs = [] then
      let plan := { plan with transientStreak := plan.transientStreak + 1 }
      if plan.transientStreak ≥ kMaxTransientStreak then plan.abortPlan m ("stalled: " ++ msg) else (plan, m)
    else (plan, m)
  else plan.abortPlan m msg

def tickPlan (diff : Nat) (w : PlanTick R) : Plan R × DcTestRunManager R :=
  let plan := { plan with backoffMs := if plan.backoffMs > diff then plan.backoffMs - diff else 0 }
  if plan.stopping then (plan, m)
  else if launchesWanted plan.spec plan.counters (m.capHeadroom w.launch.maxConcurrent) plan.backoffMs = 0 then (plan, m)
  else if !w.gmConnected ∧ w.driver ≠ .ready then plan.driverWait m w
  else
    let plan := if w.gmConnected then plan else { plan with driverWaitSinceMs := 0 }
    match m.start w.launch plan.spec.dungeonToken plan.spec.heroic (some plan.spec.planId) with
    | .ok (m, runId) => (plan.launched runId, m)
    | .error (err, msg) => plan.rejected m w err msg

def runFinished (outcome : RunOutcome R) : Plan R :=
  { plan with
    activeRunIds := plan.activeRunIds.erase outcome.runId
    counters := { plan.counters with
      activeNow := if plan.counters.activeNow > 0 then plan.counters.activeNow - 1 else plan.counters.activeNow
      succeeded := if outcome.result = "success" then plan.counters.succeeded + 1 else plan.counters.succeeded
      failed := if outcome.result = "success" then plan.counters.failed else plan.counters.failed + 1 }
    outcomes := plan.outcomes ++ [outcome] }

/-- Marked as draining, by `Stop` or by `StopAll`. -/
def drain (reason : String) : Plan R :=
  if plan.result = "" then { plan with stopping := true, result := "stopped", abortReason := reason }
  else { plan with stopping := true }

end Plan

inductive PlanSelector
  | single
  | all
  | plan (planId : PlanId)
  | unknown

structure PlanStart where
  row : Option DungeonRow
  maxPlans : Nat
  maxTotal : Nat
  maxConcurrent : Nat
  stamp : String
  gmGuid : UInt64

/-- Both managers. The plans that were finalised are listed as their summaries were written. -/
structure TestHarness (R : Type) where
  plans : List (Plan R)
  planCounter : Nat
  mgr : DcTestRunManager R
  finalized : List (Plan R)

namespace TestHarness

variable {R : Type} [DecidableEq R]

def empty : TestHarness R := ⟨[], 0, ⟨[], []⟩, []⟩

/-- The default, the cap of the run manager, and the total, in the order of `Start`. -/
def clampConcurrent (spec : PlanSpec) (maxConcurrent : Nat) : Nat :=
  let wanted := if spec.concurrent = 0 then min 5 (if maxConcurrent ≠ 0 then maxConcurrent else 5) else spec.concurrent
  let capped := if maxConcurrent ≠ 0 then min wanted maxConcurrent else wanted
  min (max capped 1) spec.total

def start (h : TestHarness R) (w : PlanStart) (spec : PlanSpec) : TestHarness R × Option String :=
  let fail (why : String) := (h, some ("Test plan not started: " ++ why))
  match w.row with
  | none => fail ("unknown dungeon '" ++ spec.dungeonToken ++ "' — see .dc test list")
  | some row =>
    if spec.heroic ∧ row.heroicLevel = 0 then fail ("'" ++ row.token ++ "' has no heroic mode (classic dungeons have none)")
    else if w.maxPlans ≠ 0 ∧ h.plans.length ≥ w.maxPlans then
      fail ("max active test plans reached (" ++ toString w.maxPlans ++ ") — .dc test plan stop <planId> first")
    else if w.maxTotal ≠ 0 ∧ spec.total > w.maxTotal then
      fail ("total=" ++ toString spec.total ++ " exceeds the cap (" ++ toString w.maxTotal ++
        ", DungeonClear.TestRun.Plan.MaxTotal)")
    else
      let planId : PlanId := ⟨w.stamp, h.planCounter + 1⟩
      let spec := { spec with
        planId := planId, dungeonToken := row.token, concurrent := clampConcurrent spec w.maxConcurrent }
      ({ h with
        planCounter := h.planCounter + 1
        plans := h.plans ++ [⟨spec, ⟨0, 0, 0, 0⟩, w.gmGuid, 0, 0, 0, false, "", "", [], []⟩] }, none)

def selected (h : TestHarness R) : PlanSelector → Plan R → Bool
  | .single, _ => h.plans.length = 1
  | .all, _ => true
  | .plan planId, plan => plan.spec.planId = planId
  | .unknown, _ => false

/-- `Stop`: the selected plans drain, and their runs are aborted. -/
def stop (h : TestHarness R) (selector : PlanSelector) : TestHarness R :=
  { h with
    plans := h.plans.map fun plan => if h.selected selector plan then plan.drain plan.abortReason else plan
    mgr := (h.plans.filter (h.selected selector)).foldl
      (fun m plan => plan.activeRunIds.foldl (fun m runId => m.stop (.run runId)) m) h.mgr }

def stopAll (h : TestHarness R) (reason : String) : TestHarness R :=
  { h with plans := h.plans.map fun plan => plan.drain reason }

def tickPlans (diff : Nat) (w : PlanId → PlanTick R) :
    List (Plan R) → DcTestRunManager R → List (Plan R) × DcTestRunManager R
  | [], m => ([], m)
  | plan :: plans, m =>
    let ticked := plan.tickPlan m diff (w plan.spec.planId)
    let rest := tickPlans diff w plans ticked.2
    (ticked.1 :: rest.1, rest.2)

def finished (plan : Plan R) : Bool := isFinished plan.spec plan.counters plan.stopping

/-- `DcTestPlanManager::Tick`: the plans that are finished are finalised and erased. -/
def tick (h : TestHarness R) (diff : Nat) (w : PlanId → PlanTick R) : TestHarness R :=
  let ticked := tickPlans diff w h.plans h.mgr
  { h with
    plans := ticked.1.filter fun plan => !finished plan
    finalized := h.finalized ++ ticked.1.filter finished
    mgr := ticked.2 }

def onRunFinished (planId : PlanId) (outcome : RunOutcome R) : List (Plan R) → List (Plan R)
  | [] => []
  | plan :: plans =>
    if plan.spec.planId = planId then plan.runFinished outcome :: plans else plan :: onRunFinished planId outcome plans

structure RunTick where
  monitoring : Bool
  done : Option String

def tickRun (r : TestRun R) (t : RunTick) : TestRun R :=
  if r.done.isSome then r else { r with monitoring := t.monitoring, done := t.done }

/-- The erase pass: the finished runs are handed to the plans in their order and removed. -/
def eraseRuns : List (TestRun R) → List (Plan R) → List (TestRun R) × List (Plan R)
  | [], plans => ([], plans)
  | r :: runs, plans =>
    match r.done with
    | none =>
      let rest := eraseRuns runs plans
      (r :: rest.1, rest.2)
    | some result =>
      match r.planId with
      | none => eraseRuns runs plans
      | some planId => eraseRuns runs (onRunFinished planId ⟨r.runId, result⟩ plans)

/-- `DcTestRunManager::Tick`. -/
def tickRuns (h : TestHarness R) (w : Nat → RunTick) : TestHarness R :=
  let erased := eraseRuns (h.mgr.runs.mapIdx fun i r => tickRun r (w i)) h.plans
  { h with mgr := { h.mgr with runs := erased.1 }, plans := erased.2 }

end TestHarness

inductive TestStep (R : Type)
  | startPlan (w : PlanStart) (spec : PlanSpec)
  | stopPlan (selector : PlanSelector)
  | stopAllPlans (reason : String)
  | startRun (w : StartWorld R) (dungeonToken : String) (heroic : Bool)
  | stopRun (selector : RunSelector R)
  | tickPlans (diff : Nat) (w : PlanId → PlanTick R)
  | tickRuns (w : Nat → TestHarness.RunTick)

namespace TestHarness

variable {R : Type} [DecidableEq R]

def step (h : TestHarness R) : TestStep R → TestHarness R
  | .startPlan w spec => (h.start w spec).1
  | .stopPlan selector => h.stop selector
  | .stopAllPlans reason => h.stopAll reason
  | .startRun w dungeonToken heroic =>
    match h.mgr.start w dungeonToken heroic none with
    | .ok (m, _) => { h with mgr := m }
    | .error _ => h
  | .stopRun selector => { h with mgr := h.mgr.stop selector }
  | .tickPlans diff w => h.tick diff w
  | .tickRuns w => h.tickRuns w

end TestHarness

end ComfyCraft
