import ComfyCraft.Lib.Table
import ComfyCraft.Lib.Upsert
import Mathlib.Data.UInt

/-! The dungeon run timer: the runs in memory, what a player entering and a boss kill do to them, and the
transaction that saves a run. What only goes to clients (chat lines, the announcement of a record) is left out.

A run also has a list of the transactions it has queued, which the source does not keep. -/

namespace ComfyCraft.DungeonRun

structure DungeonBoss where
  mapId : UInt16
  wing : UInt8
  oneOf : UInt8
  isOptional : Bool
  entry : UInt32
deriving DecidableEq

structure DungeonLastBoss where
  mapId : UInt16
  wing : UInt8
  entry : UInt32
deriving DecidableEq

/-- The lists of `DungeonBosses.h`. The rows of one entry come in whatever order the hash table has them. -/
structure Lists where
  bosses : List DungeonBoss
  lastBosses : List DungeonLastBoss
  /-- The maps that have a row in `DUNGEON_BOSS_WINGS`. -/
  wingMaps : List UInt16
  bossesByEntry : UInt32 → List DungeonBoss
  bossesByEntry_perm : ∀ entry, (bossesByEntry entry).Perm (bosses.filter fun row => row.entry = entry)

namespace Lists

def hasBosses (t : Lists) (mapId : UInt32) : Bool := t.bosses.any fun row => row.mapId.toUInt32 = mapId

def isSplit (t : Lists) (mapId : UInt32) : Bool := t.wingMaps.any fun w => w.toUInt32 = mapId

end Lists

def slotId (row : DungeonBoss) : UInt32 := if row.oneOf ≠ 0 then 0x80000000 ||| row.oneOf.toUInt32 else row.entry

/-- Push what is not there yet. -/
def pushNew (seen : List UInt32) (slot : UInt32) : List UInt32 := if slot ∈ seen then seen else seen ++ [slot]

namespace Lists

def slotCount (t : Lists) (mapId : UInt32) (wing : UInt8) : UInt32 :=
  UInt32.ofNat (((t.bosses.filter fun row => row.mapId.toUInt32 = mapId && row.wing = wing && !row.isOptional).map slotId).foldl
    pushNew []).length

def lastSlots (t : Lists) (mapId : UInt32) (wing : UInt8) : List UInt32 :=
  ((t.lastBosses.filter fun last => last.mapId.toUInt32 = mapId && last.wing = wing).flatMap fun last =>
    (t.bosses.filter fun row => row.mapId.toUInt32 = mapId && row.wing = wing && row.entry = last.entry).map slotId).foldl
      pushNew []

def rowOf (t : Lists) (mapId entry : UInt32) : Option DungeonBoss :=
  (t.bossesByEntry entry).find? fun row => row.mapId.toUInt32 = mapId

end Lists

structure Member where
  guid : UInt32
  name : String
  cls : UInt8
  level : UInt8
  bot : Bool
  gm : Bool
deriving DecidableEq

structure Kill where
  entry : UInt32
  slot : UInt32
  ms : UInt32
deriving DecidableEq

/-- A row of `dungeon_run`, without its key. -/
structure RunRow where
  map : UInt32
  wing : UInt8
  startedAt : Nat
  lastBossMs : Option UInt32
  fullMs : Option UInt32
  groupSize : Nat
  bossLevel : Nat
  lastMaxLevel : Nat
  maxLevel : Nat
deriving DecidableEq

/-- A row of `dungeon_run_member`, without its key. -/
structure MemberRow where
  guid : UInt32
  name : String
  cls : UInt8
  level : UInt8
  isBot : Bool
deriving DecidableEq

structure SaveTx where
  id : UInt32
  row : RunRow
  bosses : List ((UInt32 × UInt32) × UInt32)
  members : List ((UInt32 × Nat) × MemberRow)
deriving DecidableEq

structure Run where
  startMs : UInt32
  startTime : Nat
  untimed : Bool
  wingKnown : Bool
  wing : UInt8 := 0
  id : UInt32 := 0
  lastDone : Bool := false
  done : Bool := false
  required : UInt32 := 0
  maxLevel : UInt8 := 0
  lastMaxLevel : UInt8 := 0
  bossLevel : UInt8 := 0
  kills : List Kill := []
  members : List Member := []
  saves : List SaveTx := []
deriving DecidableEq

structure Store where
  tablesPresent : Bool
  lastRunId : UInt32
  runs : Table (UInt32 × UInt32) Run

/-- `WorldTimer::getMSTimeDiff`. -/
def getMSTimeDiff (oldMSTime newMSTime : UInt32) : UInt32 :=
  if newMSTime < oldMSTime then min ((0xFFFFFFFF - oldMSTime) + newMSTime) (oldMSTime - newMSTime)
  else newMSTime - oldMSTime

def msOrNull (ms : UInt32) : Option UInt32 := if ms ≠ 0 then some ms else none

def memberRow (m : Member) : MemberRow := ⟨m.guid, m.name, m.cls, m.level, m.bot⟩

variable (t : Lists) (tablesPresent : Bool) (mapId : UInt32) (run : Run)

/-- The values `Save` writes: everything the run knows. -/
def saveOf (lastMs fullMs : UInt32) : SaveTx where
  id := run.id
  row := {
    map := mapId
    wing := run.wing
    startedAt := run.startTime % 2 ^ 32
    lastBossMs := msOrNull lastMs
    fullMs := msOrNull fullMs
    groupSize := run.members.length
    bossLevel := run.bossLevel.toNat
    lastMaxLevel := run.lastMaxLevel.toNat
    maxLevel := run.maxLevel.toNat }
  bosses := run.kills.map fun k => ((run.id, k.entry), k.ms)
  members := run.members.zipIdx.map fun m => ((run.id, m.2), memberRow m.1)

/-- `Save`, with the counter of the run ids. -/
def save (lastRunId mapId : UInt32) (run : Run) (lastMs fullMs : UInt32) : UInt32 × Run :=
  if !tablesPresent then (lastRunId, run)
  else
    let lastRunId' := if run.id = 0 then lastRunId + 1 else lastRunId
    let run := if run.id = 0 then { run with id := lastRunId + 1 } else run
    (lastRunId', { run with saves := run.saves ++ [saveOf mapId run lastMs fullMs] })

/-- A player as `OnPlayerEnter` reads them. -/
structure Entrant where
  guid : UInt32
  name : String
  cls : UInt8
  level : UInt8
  bot : Bool
  gm : Bool

/-- The part of `OnPlayerEnter` that a run sees. -/
def enterRun (player : Entrant) : Run :=
  if !run.untimed && !run.done then
    let known := run.members.any fun m => m.guid = player.guid
    let members := if known then run.members
      else run.members ++ [⟨player.guid, player.name, player.cls, player.level, player.bot, player.gm⟩]
    { run with members := members, maxLevel := max run.maxLevel player.level }
  else run

def freshRun (mapId now : UInt32) (time : Nat) (hasCreatureRespawnTimes : Bool) : Run where
  startMs := now
  startTime := time
  untimed := hasCreatureRespawnTimes
  wingKnown := !t.isSplit mapId

def onPlayerEnter (s : Store) (mapId instanceId : UInt32) (player : Entrant) (now : UInt32) (time : Nat)
    (hasCreatureRespawnTimes : Bool) : Store :=
  if !t.hasBosses mapId then s
  else
    let run := (s.runs.lookup (mapId, instanceId)).getD (freshRun t mapId now time hasCreatureRespawnTimes)
    { s with runs := s.runs.insert (mapId, instanceId) (enterRun run player) }

def lastKilled : Bool :=
  let slots := t.lastSlots mapId run.wing
  !slots.isEmpty && slots.all fun s => run.kills.any fun k => k.slot = s

/-- The kill entered into the run: the split, the levels, the number of required slots. -/
def addKill (row : DungeonBoss) (entry : UInt32) (level : UInt8) (present : List UInt8) (ms : UInt32) : Run :=
  { run with
    kills := run.kills ++ [⟨entry, slotId row, ms⟩]
    maxLevel := present.foldl max run.maxLevel
    bossLevel := if slotId row ∈ t.lastSlots mapId run.wing then max run.bossLevel level else run.bossLevel
    required := if row.isOptional then run.required else run.required + 1 }

/-- What the kill ends: the last-boss time, the full run, or neither; then the save. -/
def finishKill (lastRunId mapId : UInt32) (run : Run) (row : DungeonBoss) (ms : UInt32) :
    UInt32 × Run :=
  let lastNow := !run.lastDone && lastKilled t mapId run
  let run := if lastNow then { run with lastDone := true, lastMaxLevel := run.maxLevel } else run
  let fullNow := !row.isOptional && t.slotCount mapId run.wing ≤ run.required
  let run := { run with done := fullNow }
  if lastNow || fullNow then
    save tablesPresent lastRunId mapId run (if lastNow then ms else 0) (if fullNow then ms else 0)
  else (lastRunId, run)

/-- The part of `OnCreatureKilled` under the lock, for the run of the instance. -/
def killRun (lastRunId mapId : UInt32) (run : Run) (row : DungeonBoss) (entry : UInt32)
    (level : UInt8) (present : List UInt8) (now : UInt32) : UInt32 × Run :=
  if run.untimed || run.done then (lastRunId, run)
  else
    let run := if run.wingKnown then run else { run with wing := row.wing, wingKnown := true }
    if row.wing ≠ run.wing then (lastRunId, run)
    else if run.kills.any fun k => k.slot = slotId row then (lastRunId, run)
    else
      let ms := getMSTimeDiff run.startMs now
      finishKill t tablesPresent lastRunId mapId (addKill t mapId run row entry level present ms) row ms

def onCreatureKilled (s : Store) (mapId instanceId entry : UInt32) (level : UInt8) (present : List UInt8)
    (now : UInt32) : Store :=
  match t.rowOf mapId entry with
  | none => s
  | some row =>
    match s.runs.lookup (mapId, instanceId) with
    | none => s
    | some run =>
      let r := killRun t s.tablesPresent s.lastRunId mapId run row entry level present now
      { s with lastRunId := r.1, runs := s.runs.insert (mapId, instanceId) r.2 }

def onInstanceGone (s : Store) (mapId instanceId : UInt32) : Store :=
  { s with runs := s.runs.erase (mapId, instanceId) }

/-- What happens to the timer. A level gained is seen at the next entry or kill, as the level read there. -/
inductive Event
  | enter (mapId instanceId : UInt32) (player : Entrant) (now : UInt32) (time : Nat) (hasCreatureRespawnTimes : Bool)
  | killed (mapId instanceId entry : UInt32) (level : UInt8) (present : List UInt8) (now : UInt32)
  | gone (mapId instanceId : UInt32)

def step (s : Store) : Event → Store
  | .enter mapId instanceId player now time old => onPlayerEnter t s mapId instanceId player now time old
  | .killed mapId instanceId entry level present now => onCreatureKilled t s mapId instanceId entry level present now
  | .gone mapId instanceId => onInstanceGone s mapId instanceId

/-- The store after `Load`. -/
def load (maxId : UInt32) : Store := ⟨tablesPresent, maxId, ∅⟩

structure Tables where
  run : UInt32 → Option RunRow
  boss : UInt32 × UInt32 → Option UInt32
  member : UInt32 × Nat → Option MemberRow

/-- `ON DUPLICATE KEY UPDATE` of the insert into `dungeon_run`. -/
def mergeRow (old new : RunRow) : RunRow :=
  { old with
    lastBossMs := old.lastBossMs.or new.lastBossMs
    fullMs := old.fullMs.or new.fullMs
    groupSize := max old.groupSize new.groupSize
    maxLevel := max old.maxLevel new.maxLevel }

def execute (db : Tables) (tx : SaveTx) : Tables where
  run := Upsert.upsert mergeRow db.run tx.id tx.row
  boss := Upsert.insertIgnore db.boss tx.bosses
  member := Upsert.insertIgnore db.member tx.members

end ComfyCraft.DungeonRun
