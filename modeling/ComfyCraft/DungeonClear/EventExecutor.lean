import ComfyCraft.Lib.Runs

/-! Scripted dungeon events of the dungeon-clear module: the progress record of one event, what one
`Drive` call does to it, and a run of such calls. What a step sees of the world is part of the call. -/

namespace ComfyCraft

inductive EventStepKind
  | moveTo
  | jump
  | useGameObject
  | gossip
  | waitForSpawn
  | waitForGameObjectState
  | killCreature
  | clearRadius
  | castSpell
  | useItem
  | wait
  | custom
  | escortCreature
  | dropInHole
  | teleportParty
  | useItemOnGO
deriving DecidableEq

structure EventStep where
  kind : EventStepKind
  /-- 0 for the configured default. -/
  timeoutMs : UInt32
deriving DecidableEq

inductive Difficulty
  | normal
  | heroic
deriving DecidableEq

inductive DcDifficultyGate
  | any
  | normalOnly
  | heroicOnly
deriving DecidableEq

def dcGateMatches : DcDifficultyGate → Difficulty → Bool
  | .normalOnly, difficulty => difficulty = .normal
  | .heroicOnly, difficulty => difficulty = .heroic
  | .any, _ => true

structure DungeonEvent where
  mapId : UInt32
  id : UInt32
  gate : DcDifficultyGate
  steps : List EventStep
  required : Bool
  persistent : Bool
deriving DecidableEq

inductive StepResult
  | running
  | done
  | blocked
  | failed
deriving DecidableEq

inductive EventDriveOutcome
  | running
  | completed
  | stalled
  | skipped
deriving DecidableEq

structure DungeonEventProgress where
  eventId : UInt32 := 0
  stepIndex : Nat := 0
  stepStartMs : UInt32 := 0
  attempts : UInt32 := 0
  lastDriveMs : UInt32 := 0
  instanceId : UInt32 := 0
  maxStepIndex : Nat := 0
  progressMs : UInt32 := 0
  escortProgressMs : UInt32 := 0
  escortCombatWedgeMs : UInt32 := 0
  relocationCombatHoldMs : UInt32 := 0
  lastLoggedStep : Int := -1
  lastLoggedResult : Int := -1
  lastLogMs : UInt32 := 0
deriving DecidableEq

def getMSTimeDiff (oldMSTime newMSTime : UInt32) : UInt32 :=
  if oldMSTime > newMSTime then min ((0xFFFFFFFF - oldMSTime) + newMSTime) (oldMSTime - newMSTime)
  else newMSTime - oldMSTime

def DC_EVENT_STALE_FLOOR_MS : UInt32 := 3000
def DC_EVENT_NO_PROGRESS_FACTOR : UInt32 := 3
def DC_RELOCATION_COMBAT_HOLD_MS : UInt32 := 60000

/-- The playerbot delays that `EventStaleGapMs` reads. -/
structure PlayerbotAIConfig where
  passiveDelay : UInt32
  reactDelay : UInt32
deriving DecidableEq

def eventStaleGapMs (config : PlayerbotAIConfig) : UInt32 :=
  max DC_EVENT_STALE_FLOOR_MS (max config.passiveDelay (config.reactDelay * 30) * 2)

structure EventBot where
  instanceId : UInt32
  /-- None where `FindMap` gives no map. -/
  difficulty : Option Difficulty
  /-- The `EventStepTimeout` setting, in seconds. -/
  eventStepTimeout : UInt32
deriving DecidableEq

/-- What the active step finds. A party that is relocated is held while it fights; every other kind of step
reports the result that the world gives. -/
structure StepWorld where
  result : StepResult
  onLanding : Bool
  partyHeldByLiveEnemy : Bool
deriving DecidableEq

namespace DungeonEventProgress

variable (prog : DungeonEventProgress)

/-- `DcRunEventAction` rewinds a repeatable event that completed or was skipped. -/
def repeatEvent (now : UInt32) : DungeonEventProgress :=
  { prog with stepIndex := 0, attempts := 0, stepStartMs := now, maxStepIndex := 0, progressMs := now }

def runStep (bot : Option EventBot) (step : EventStep) (prog : DungeonEventProgress) (nowMs : UInt32) (world : StepWorld) :
    DungeonEventProgress × StepResult :=
  match bot with
  | none => (prog, .blocked)
  | some _ =>
    if step.kind = .teleportParty then
      if world.onLanding then (prog, .done)
      else if world.partyHeldByLiveEnemy then
        let since := if prog.relocationCombatHoldMs = 0 then nowMs else prog.relocationCombatHoldMs
        if getMSTimeDiff since nowMs < DC_RELOCATION_COMBAT_HOLD_MS then
          ({ prog with relocationCombatHoldMs := since, stepStartMs := nowMs, progressMs := nowMs }, .running)
        else ({ prog with relocationCombatHoldMs := 0 }, world.result)
      else ({ prog with relocationCombatHoldMs := 0 }, world.result)
    else (prog, world.result)

def timeout (step : EventStep) (defaultTimeoutMs : UInt32) : UInt32 :=
  if step.timeoutMs ≠ 0 then step.timeoutMs else defaultTimeoutMs

/-- The result after both timeouts of `Advance`: of the whole event's progress, and of a step that runs. -/
def escalate (step : EventStep) (result : StepResult) (nowMs defaultTimeoutMs : UInt32) :
    StepResult :=
  let limit := timeout step defaultTimeoutMs
  let watched := step.kind ≠ .escortCreature ∧ limit > 0
  if watched ∧ nowMs - prog.progressMs ≥ limit * DC_EVENT_NO_PROGRESS_FACTOR then .failed
  else if result = .running ∧ watched ∧ nowMs - prog.stepStartMs ≥ limit then .failed
  else result

/-- A step that reported `Done`: the next one is active, and only a new high-water index counts as progress. -/
def nextStep (nowMs : UInt32) : DungeonEventProgress :=
  let next := { prog with stepIndex := prog.stepIndex + 1, attempts := 0, stepStartMs := nowMs }
  if next.stepIndex > next.maxStepIndex then { next with maxStepIndex := next.stepIndex, progressMs := nowMs } else next

def advance (ev : DungeonEvent) (prog : DungeonEventProgress) (result : StepResult) (nowMs defaultTimeoutMs : UInt32) :
    DungeonEventProgress × EventDriveOutcome :=
  match ev.steps[prog.stepIndex]? with
  | none => (prog, .completed)
  | some step =>
    match escalate prog step result nowMs defaultTimeoutMs with
    | .running => (prog, .running)
    | .done => (prog.nextStep nowMs, if prog.stepIndex + 1 ≥ ev.steps.length then .completed else .running)
    | .blocked => (prog, .stalled)
    | .failed => (prog, if ev.required then .stalled else .skipped)

def newInstance (instanceId : UInt32) : Bool :=
  instanceId ≠ 0 ∧ prog.instanceId ≠ 0 ∧ prog.instanceId ≠ instanceId

def atInstance (instanceId : UInt32) : DungeonEventProgress :=
  { (if prog.newInstance instanceId then {} else prog) with instanceId := instanceId }

def lapsed (config : PlayerbotAIConfig) (now : UInt32) : Bool :=
  getMSTimeDiff prog.lastDriveMs now > eventStaleGapMs config

/-- The part of `Drive` before the step is run: a new instance, a new event or a lapse re-bases the clocks,
and all but a lapse of a persistent event go back to step 0. -/
def activate (ev : DungeonEvent) (prog : DungeonEventProgress) (instanceId : UInt32) (config : PlayerbotAIConfig)
    (now : UInt32) : DungeonEventProgress :=
  let prog := prog.atInstance instanceId
  let prog :=
    if prog.eventId ≠ ev.id then
      { prog with eventId := ev.id, stepIndex := 0, attempts := 0, stepStartMs := now, maxStepIndex := 0, progressMs := now }
    else if prog.lapsed config now then
      let based := { prog with stepStartMs := now, progressMs := now }
      if ev.persistent then based else { based with stepIndex := 0, attempts := 0, maxStepIndex := 0 }
    else prog
  { prog with lastDriveMs := now }

/-- The throttled log line of `Drive`: on a change of step or result, or every five seconds. -/
def logStep (result : Int) (now : UInt32) : DungeonEventProgress :=
  if prog.lastLoggedStep ≠ prog.stepIndex ∨ prog.lastLoggedResult ≠ result ∨ now - prog.lastLogMs ≥ 5000 then
    { prog with lastLoggedStep := prog.stepIndex, lastLoggedResult := result, lastLogMs := now }
  else prog

end DungeonEventProgress

def StepResult.toInt : StepResult → Int
  | .running => 0
  | .done => 1
  | .blocked => 2
  | .failed => 3

/-- One call of `Drive`, at a time in milliseconds since the server's clock started. -/
structure DriveCall where
  bot : Option EventBot
  ev : DungeonEvent
  time : Nat
  config : PlayerbotAIConfig
  world : StepWorld
deriving DecidableEq

namespace DriveCall

variable (c : DriveCall)

def now : UInt32 := UInt32.ofNat c.time

def instanceId : UInt32 :=
  match c.bot with
  | some bot => bot.instanceId
  | none => 0

def defaultTimeoutMs : UInt32 :=
  match c.bot with
  | some bot => bot.eventStepTimeout * 1000
  | none => 30000

/-- The wrong difficulty: the event is never driven. -/
def gated : Bool :=
  match c.bot with
  | some bot =>
    match bot.difficulty with
    | some difficulty => !dcGateMatches c.ev.gate difficulty
    | none => false
  | none => false

def activated (prog : DungeonEventProgress) : DungeonEventProgress :=
  prog.activate c.ev c.instanceId c.config c.now

def drive (prog : DungeonEventProgress) : DungeonEventProgress × EventDriveOutcome :=
  if c.gated then (prog, .skipped)
  else
    let prog := c.activated prog
    match c.ev.steps[prog.stepIndex]? with
    | none => (prog, .completed)
    | some active =>
      let ran := prog.runStep c.bot active c.now c.world
      let logged := if c.bot.isSome then ran.1.logStep ran.2.toInt c.now else ran.1
      logged.advance c.ev ran.2 c.now c.defaultTimeoutMs

end DriveCall

end ComfyCraft
