import ComfyCraft.Lib.Multimap

/-! The event map of the scripts: timed events in one multimap, with the id, the group and the phase of an event
packed into one word, `0xPPGGEEEE`. -/

namespace ComfyCraft

/-- Key: the time at which the event occurs; value: the event data. -/
structure EventMap where
  time : UInt32
  phase : UInt8
  eventMap : List (UInt32 × UInt32)
  lastEvent : UInt32
deriving DecidableEq

namespace EventMap

def start : EventMap := ⟨0, 0, [], 0⟩

def eventIdOf (data : UInt32) : UInt32 := data &&& 0x0000FFFF

/-- The word for an event; a group or phase over 8 is left out. -/
def packed (eventId group : UInt32) (phase : UInt8) : UInt32 :=
  let eventId := if group ≠ 0 ∧ group ≤ 8 then eventId ||| (1 <<< (group + 15)) else eventId
  if phase ≠ 0 ∧ phase ≤ 8 then eventId ||| (1 <<< (phase.toUInt32 + 23)) else eventId

def put (e : UInt32 × UInt32) (events : List (UInt32 × UInt32)) : List (UInt32 × UInt32) :=
  Multimap.insert (fun e => e.1.toNat) e events

variable (m : EventMap) (time : UInt32) (phase : UInt8)

def insertEvent (time data : UInt32) : EventMap := { m with eventMap := put (time, data) m.eventMap }

def update : EventMap := { m with time := m.time + time }

def setPhase : EventMap :=
  if phase = 0 then { m with phase := 0 } else if phase ≤ 8 then { m with phase := 1 <<< (phase - 1) } else m

def addPhase : EventMap :=
  if phase ≠ 0 ∧ phase ≤ 8 then { m with phase := m.phase ||| (1 <<< (phase - 1)) } else m

def removePhase : EventMap :=
  if phase ≠ 0 ∧ phase ≤ 8 then { m with phase := m.phase &&& ~~~(1 <<< (phase - 1)) } else m

def scheduleEvent (eventId time group : UInt32) (phase : UInt8) : EventMap :=
  m.insertEvent (m.time + time) (packed eventId group phase)

def cancelEvent (eventId : UInt32) : EventMap :=
  { m with eventMap := m.eventMap.filter fun e => eventIdOf e.2 ≠ eventId }

def rescheduleEvent (eventId time group : UInt32) (phase : UInt8) : EventMap :=
  (m.cancelEvent eventId).scheduleEvent eventId time group phase

/-- `Repeat`: the most recently executed event again, with its group and phase. -/
def repeatEvent : EventMap := m.insertEvent (m.time + time) m.lastEvent

/-- The phases of an event are none of those the map is in, and it is in some. -/
def outOfPhase (data : UInt32) : Bool :=
  phase ≠ 0 && (data &&& 0xFF000000) ≠ 0 && (data >>> 24) &&& phase.toUInt32 = 0

/-- The loop of `ExecuteEvent`: the data of the event to execute, and what is left in the map. -/
def nextDue (time : UInt32) (phase : UInt8) : List (UInt32 × UInt32) → Option UInt32 × List (UInt32 × UInt32)
  | [] => (none, [])
  | e :: es =>
    if time < e.1 then (none, e :: es)
    else if outOfPhase phase e.2 then nextDue time phase es
    else (some e.2, es)

/-- `ExecuteEvent`; 0 is no event. -/
def executeEvent : UInt32 × EventMap :=
  match nextDue m.time m.phase m.eventMap with
  | (none, eventMap) => (0, { m with eventMap := eventMap })
  | (some data, eventMap) => (eventIdOf data, { m with eventMap := eventMap, lastEvent := data })

/-- `DelayEvents` without a group turns the timer back. -/
def delayTimer (delay : UInt32) : EventMap :=
  { m with time := if delay < m.time then m.time - delay else 0 }

def inGroup (group data : UInt32) : Bool := data &&& (1 <<< (group + 15)) ≠ 0

/-- `DelayEvents` of a group: its events are taken out, and then put in again, later. -/
def delayEvents (delay group : UInt32) : EventMap :=
  if group = 0 ∨ 8 < group ∨ m.eventMap = [] then m
  else
    let delayed := (m.eventMap.filter fun e => inGroup group e.2).foldl (fun delayed e => put (e.1 + delay, e.2) delayed) []
    let rest := m.eventMap.filter fun e => !inGroup group e.2
    { m with eventMap := delayed.foldl (fun events e => put e events) rest }

def cancelEventGroup (group : UInt32) : EventMap :=
  if group = 0 ∨ 8 < group then m else { m with eventMap := m.eventMap.filter fun e => !inGroup group e.2 }

/-- `CancelEventsByGCD`; its bit is one above that of `CancelEventGroup`. -/
def cancelEventsByGCD (gcd : UInt32) : EventMap :=
  { m with eventMap := m.eventMap.filter fun e => e.2 &&& (1 <<< (gcd + 16)) = 0 }

end EventMap

inductive EventCall
  | scheduleEvent (eventId time group : UInt32) (phase : UInt8)
  | rescheduleEvent (eventId time group : UInt32) (phase : UInt8)
  | repeatEvent (time : UInt32)
  | update (time : UInt32)
  | delayTimer (delay : UInt32)
  | delayEvents (delay group : UInt32)
  | cancelEvent (eventId : UInt32)
  | cancelEventGroup (group : UInt32)
  | cancelEventsByGCD (gcd : UInt32)
  | setPhase (phase : UInt8)
  | addPhase (phase : UInt8)
  | removePhase (phase : UInt8)
  | executeEvent

namespace EventMap

/-- A call, and what it answers if it is `ExecuteEvent`. -/
def call (m : EventMap) : EventCall → Option UInt32 × EventMap
  | .scheduleEvent eventId time group phase => (none, m.scheduleEvent eventId time group phase)
  | .rescheduleEvent eventId time group phase => (none, m.rescheduleEvent eventId time group phase)
  | .repeatEvent time => (none, m.repeatEvent time)
  | .update time => (none, m.update time)
  | .delayTimer delay => (none, m.delayTimer delay)
  | .delayEvents delay group => (none, m.delayEvents delay group)
  | .cancelEvent eventId => (none, m.cancelEvent eventId)
  | .cancelEventGroup group => (none, m.cancelEventGroup group)
  | .cancelEventsByGCD gcd => (none, m.cancelEventsByGCD gcd)
  | .setPhase phase => (none, m.setPhase phase)
  | .addPhase phase => (none, m.addPhase phase)
  | .removePhase phase => (none, m.removePhase phase)
  | .executeEvent => (some m.executeEvent.1, m.executeEvent.2)

def answers : EventMap → List EventCall → List UInt32
  | _, [] => []
  | m, c :: cs => (m.call c).1.toList ++ answers (m.call c).2 cs

end EventMap

end ComfyCraft
