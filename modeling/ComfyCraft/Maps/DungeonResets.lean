import ComfyCraft.Lib.Multimap
import ComfyCraft.Lib.Runs
import ComfyCraft.Lib.Table

/-! The scheduler of dungeon resets: the reset times of the maps with a global reset, the queue of resets and warnings, and the
table the times are stored in. Statements that are executed directly change the table at once, the others wait. -/

namespace ComfyCraft

def MINUTE : Nat := 60
def HOUR : UInt32 := 3600
def DAY : Nat := 86400

inductive MapType
  | common | instanced | raid | battleground
deriving DecidableEq

structure MapEntry where
  mapType : MapType
  resetDelay : UInt32
deriving DecidableEq

def MapEntry.isDungeon (e : MapEntry) : Bool := e.mapType = .instanced || e.mapType = .raid

/-- `sMapStorage` and `CONFIG_UINT32_INSTANCE_RESET_TIME_HOUR`. -/
structure ResetConfig where
  maps : Table UInt16 MapEntry
  instanceResetTimeHour : UInt32

namespace ResetConfig

def diff (c : ResetConfig) : Nat := (c.instanceResetTimeHour * HOUR).toNat

def getMaxResetTimeFor (temp : MapEntry) : Nat := (temp.resetDelay * UInt32.ofNat DAY).toNat

def calculateNextResetTime (c : ResetConfig) (temp : MapEntry) (prevResetTime : Nat) : Nat :=
  (prevResetTime + MINUTE) / DAY * DAY + getMaxResetTimeFor temp + c.diff

end ResetConfig

inductive ResetEventType
  | normalDungeon
  | inform1 | inform2 | inform3 | informLast
  | forcedInform1 | forcedInform2 | forcedInform3 | forcedInformLast
deriving DecidableEq

namespace ResetEventType

/-- `resetEventTypeDelay`. -/
def delay : ResetEventType → Nat
  | normalDungeon => 0
  | inform1 => 3600
  | inform2 => 900
  | inform3 => 300
  | informLast => 60
  | forcedInform1 => 60
  | forcedInform2 => 30
  | forcedInform3 => 10
  | forcedInformLast => 5

/-- `ResetEventType(type + 1)`. -/
def next : ResetEventType → ResetEventType
  | normalDungeon => inform1
  | inform1 => inform2
  | inform2 => inform3
  | inform3 => informLast
  | informLast => forcedInform1
  | forcedInform1 => forcedInform2
  | forcedInform2 => forcedInform3
  | forcedInform3 => forcedInformLast
  | forcedInformLast => forcedInformLast

def isLast (type : ResetEventType) : Bool := type = informLast || type = forcedInformLast

/-- The first warning of a reset that is still ahead, or the reset itself. -/
def upcoming (resetTime now : Nat) : ResetEventType :=
  ([inform1, inform2, inform3].find? fun type => (now : Int) < resetTime - type.delay).getD informLast

end ResetEventType

structure DungeonResetEvent where
  type : ResetEventType
  mapid : UInt16
  instanceId : UInt32
deriving DecidableEq

/-- `operator ==`, which leaves the type out. -/
def DungeonResetEvent.same (e e' : DungeonResetEvent) : Bool := e.mapid = e'.mapid && e.instanceId = e'.instanceId

abbrev ResetTimeQueue := List (Int × DungeonResetEvent)

def ResetTimeQueue.enqueue (q : ResetTimeQueue) (time : Int) (event : DungeonResetEvent) : ResetTimeQueue :=
  Multimap.insert Prod.fst (time, event) q

inductive ResetDeed
  | took (mapid : UInt16) (resetTime : Nat)
  | forced (mapid : UInt16) (resetTime : Nat)
  | warned (mapid : UInt16) (timeLeft : Nat)
  | reset (mapid : UInt16)
  | instanceReset (mapid : UInt16) (instanceId : UInt32)
deriving DecidableEq

/-- `instanceReset` is the table `instance_reset`, `writes` the updates of it that wait; nothing reads the history. -/
structure DungeonResetScheduler where
  resetTimeByMapId : UInt16 → Nat
  resetTimeQueue : ResetTimeQueue
  instanceReset : UInt16 → Option Nat
  writes : List (UInt16 × Nat)
  history : List ResetDeed

namespace DungeonResetScheduler

/-- `UPDATE instance_reset SET resettime = .. WHERE mapid = ..`. -/
def updateRow (table : UInt16 → Option Nat) (mapid : UInt16) (resetTime : Nat) : UInt16 → Option Nat :=
  Function.update table mapid ((table mapid).map fun _ => resetTime)

variable (c : ResetConfig) (now : Nat) (s : DungeonResetScheduler)

/-- `ScheduleReset`: an event that is to go is looked for under its time first, and then everywhere. -/
def scheduleReset (add : Bool) (time : Int) (event : DungeonResetEvent) : DungeonResetScheduler :=
  if add then { s with resetTimeQueue := s.resetTimeQueue.enqueue time event }
  else if s.resetTimeQueue.any fun e => e.1 = time && e.2.same event then
    { s with resetTimeQueue := s.resetTimeQueue.eraseP fun e => e.1 = time && e.2.same event }
  else { s with resetTimeQueue := s.resetTimeQueue.eraseP fun e => e.2.same event }

/-- `_ResetOrWarnAll`, which reads the clock again. -/
def resetOrWarnAll (mapid : UInt16) (warn : Bool) (timeLeft now : Nat) : DungeonResetScheduler :=
  match c.maps.lookup mapid with
  -- no event is for a map that is missing
  | none => s
  | some mapEntry =>
    if !mapEntry.isDungeon then s
    else if warn then { s with history := s.history ++ [.warned mapid timeLeft] }
    else if mapEntry.resetDelay = 0 then s
    else
      { s with
        writes := s.writes ++ [(mapid, c.calculateNextResetTime mapEntry (now + timeLeft))]
        history := s.history ++ [.reset mapid] }

/-- `uint32(std::max(int32(resetTime - now), 0))`. -/
def timeLeft (resetTime now : Nat) : Nat := (max (Int.bmod (resetTime - now) (2 ^ 32)) 0).toNat

/-- One turn of the loop of `Update`; `late` is how much later than `now` the clock is when a map is reset at a reset time. -/
def handleFirst (late : UInt16 → Nat → Nat) (s : DungeonResetScheduler) : DungeonResetScheduler :=
  match s.resetTimeQueue with
  | [] => s
  | (t, event) :: rest =>
    if event.type = .normalDungeon then
      { s with
        resetTimeQueue := rest
        history := s.history ++ [.instanceReset event.mapid event.instanceId] }
    else
      let resetTime := s.resetTimeByMapId event.mapid
      let s := s.resetOrWarnAll c event.mapid (!event.type.isLast) (timeLeft resetTime now) (now + late event.mapid resetTime)
      if !event.type.isLast then
        -- the entry is rewritten in its place, the next one goes in, and the first one goes
        let event := { event with type := event.type.next }
        { s with resetTimeQueue := (ResetTimeQueue.enqueue ((t, event) :: rest) (resetTime - event.type.delay) event).tail }
      else
        match c.maps.lookup event.mapid with
        | none => s
        | some instanceTemplate =>
          let nextReset := c.calculateNextResetTime instanceTemplate resetTime
          let event := { event with type := ResetEventType.upcoming nextReset now }
          { s with
            resetTimeQueue := (ResetTimeQueue.enqueue ((t, event) :: rest) (nextReset - event.type.delay) event).tail
            instanceReset := updateRow s.instanceReset event.mapid nextReset
            resetTimeByMapId := Function.update s.resetTimeByMapId event.mapid nextReset
            history := s.history ++ [.took event.mapid nextReset] }

def due : Bool := s.resetTimeQueue.head?.any fun e => e.1 < (now : Int)

def overdue : Nat := (s.resetTimeQueue.map fun e => ((now : Int) - e.1).toNat).sum

/-- `Update`: the loop, with the time that has passed as its fuel. -/
def update (late : UInt16 → Nat → Nat) (s : DungeonResetScheduler) : DungeonResetScheduler :=
  Loop.run (due now) (handleFirst c now late) (s.overdue now) s

/-- The entry of the queue that `ResetAllRaid` puts in for one that it finds. -/
def forceEvent (e : Int × DungeonResetEvent) : DungeonResetScheduler :=
  if e.2.type = .normalDungeon then { s with resetTimeQueue := s.resetTimeQueue.enqueue e.1 e.2 }
  else
    let nextReset := now + ResetEventType.delay .forcedInform1
    { s with
      resetTimeByMapId := Function.update s.resetTimeByMapId e.2.mapid nextReset
      resetTimeQueue := s.resetTimeQueue.enqueue now { e.2 with type := .forcedInform1 }
      history := s.history ++ [.forced e.2.mapid nextReset] }

def resetAllRaid (now : Nat) : DungeonResetScheduler :=
  s.resetTimeQueue.foldl (forceEvent now) { s with resetTimeQueue := [] }

/-- `LoadResetTimes`: a stored time is moved to the hour of the config, and a row for a map that is no dungeon goes. -/
def loadResetTimes (rows : UInt16 → Option Nat) : DungeonResetScheduler :=
  let table := fun mapid => (rows mapid).bind fun t => if (c.maps.lookup mapid).any MapEntry.isDungeon then some (t / DAY * DAY + c.diff) else none
  ⟨fun mapid => (table mapid).getD 0, [], table, [], []⟩

def initializeResetTime (itr : Sigma fun _ : UInt16 => MapEntry) (r : Nat × (UInt16 → Option Nat)) :
    Nat × (UInt16 → Option Nat) :=
  if r.1 = 0 then
    let t := now / DAY * DAY + ResetConfig.getMaxResetTimeFor itr.2 + c.diff
    (t, Function.update r.2 itr.1 ((r.2 itr.1).or (some t)))
  else r

def renewResetTime (itr : Sigma fun _ : UInt16 => MapEntry) (r : Nat × (UInt16 → Option Nat)) :
    Nat × (UInt16 → Option Nat) :=
  if r.1 < now then
    let today := now / DAY * DAY
    let period := ResetConfig.getMaxResetTimeFor itr.2
    let t := r.1 / DAY * DAY
    let t := t + ((today - t) / period + 1) * period + c.diff
    (t, updateRow r.2 itr.1 t)
  else r

/-- `ScheduleAllDungeonResets` for one map. -/
def scheduleMap (itr : Sigma fun _ : UInt16 => MapEntry) : DungeonResetScheduler :=
  if !itr.2.isDungeon || itr.2.resetDelay = 0 then s
  else
    let (t, table) := renewResetTime c now itr (initializeResetTime c now itr (s.resetTimeByMapId itr.1, s.instanceReset))
    let type := ResetEventType.upcoming t now
    { s with
      instanceReset := table
      resetTimeByMapId := Function.update s.resetTimeByMapId itr.1 t
      resetTimeQueue := s.resetTimeQueue.enqueue (t - type.delay) ⟨type, itr.1, 0⟩
      history := s.history ++ [.took itr.1 t] }

/-- `ScheduleAllDungeonResets` for one row of `instance`. -/
def scheduleInstance (row : Sigma fun _ : UInt32 => UInt16 × Nat) : DungeonResetScheduler :=
  if row.2.2 = 0 then s else s.scheduleReset true row.2.2 ⟨.normalDungeon, row.2.1, row.1⟩

def scheduleAllDungeonResets (instances : Table UInt32 (UInt16 × Nat)) (s : DungeonResetScheduler) :
    DungeonResetScheduler :=
  c.maps.ordered.foldl (scheduleMap c now) (instances.ordered.foldl scheduleInstance s)

def start (rows : UInt16 → Option Nat) (instances : Table UInt32 (UInt16 × Nat)) (now : Nat) : DungeonResetScheduler :=
  scheduleAllDungeonResets c now instances (loadResetTimes c rows)

end DungeonResetScheduler

/-- `Update`, a forced reset, the reset of an instance that is scheduled or called off, or one of the waiting writes. -/
inductive ResetStep
  | update (now : Nat) (late : UInt16 → Nat → Nat)
  | force (now : Nat)
  | schedule (add : Bool) (time : Nat) (mapid : UInt16) (instanceId : UInt32) (h : instanceId ≠ 0)
  | write (i : Nat)

namespace DungeonResetScheduler

/-- A worker runs a write that waits; there are several of them, so that it need not be the oldest. -/
def runWrite (s : DungeonResetScheduler) (i : Nat) : DungeonResetScheduler :=
  match s.writes[i]? with
  | none => s
  | some (mapid, resetTime) =>
    { s with
      instanceReset := updateRow s.instanceReset mapid resetTime
      writes := s.writes.eraseIdx i }

def step (c : ResetConfig) (s : DungeonResetScheduler) : ResetStep → DungeonResetScheduler
  | .update now late => s.update c now late
  | .force now => s.resetAllRaid now
  | .schedule add time mapid instanceId _ => s.scheduleReset add time ⟨.normalDungeon, mapid, instanceId⟩
  | .write i => s.runWrite i

end DungeonResetScheduler
end ComfyCraft
