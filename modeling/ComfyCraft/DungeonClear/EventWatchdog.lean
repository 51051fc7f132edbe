import ComfyCraft.DungeonClear.EventProgress

/-! The step timeout over a span of calls. In one activation only a `Done` re-bases the clock of a step, and
every accepted `Done` is a new high-water index; without one the age of the active step grows with the calls
until a timeout makes it fail. -/

namespace ComfyCraft

open List UInt32 DriveCall

namespace DriveCall

def outcomes (prog : DungeonEventProgress) : List DriveCall → List EventDriveOutcome
  | [] => []
  | c :: cs => (c.drive prog).2 :: outcomes (c.drive prog).1 cs

def limit (c : DriveCall) (step : EventStep) : UInt32 := DungeonEventProgress.timeout step c.defaultTimeoutMs

def lastTime (c : DriveCall) : List DriveCall → Nat
  | [] => c.time
  | c' :: cs => c'.lastTime cs

/-- The next call comes before the event counts as lapsed. -/
def Follows (c c' : DriveCall) : Prop := ∃ gap, c'.time = c.time + gap ∧ gap ≤ (eventStaleGapMs c'.config).toNat

end DriveCall

namespace DungeonEventProgress

variable {active : EventStep} {prog : DungeonEventProgress} {now : UInt32}

end DungeonEventProgress

namespace DriveCall

open DungeonEventProgress

variable {ev : DungeonEvent} {i : UInt32} {limit : Nat}

variable {c : DriveCall} {prog : DungeonEventProgress} {cs : List DriveCall}

/-- The progress as the call `c` of the event left it. -/
structure Left (c : DriveCall) (ev : DungeonEvent) (i : UInt32) (prog : DungeonEventProgress) : Prop where
  eventId : prog.eventId = ev.id
  instanceId : prog.instanceId = i
  lastDriveMs : prog.lastDriveMs = c.now

end DriveCall

namespace EventSample

end EventSample

namespace DriveCall

def highest (prog : DungeonEventProgress) : List DriveCall → Nat
  | [] => prog.stepIndex
  | c :: cs => max prog.stepIndex (highest (c.drive prog).1 cs)

end DriveCall

end ComfyCraft
