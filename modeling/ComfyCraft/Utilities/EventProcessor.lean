import ComfyCraft.Lib.Multimap

/-! The event processor: the events that wait for their times, and the loops over them. A loop calls back into an event, which
may call the processor again; until the event returns the loop is among the calls that are running, the innermost first. -/

namespace ComfyCraft

inductive AbortState
  | running | abortScheduled | aborted
deriving DecidableEq

/-- A node of `m_events`; the nodes are numbered as they come in. -/
structure EventNode where
  time : UInt64
  event : Nat
  node : Nat
deriving DecidableEq

/-- Where a call is: `Update` before the next event, in `Execute` or `Abort` of one, or asking it `IsDeletable`; `KillAllEvents`
likewise, with its iterator. An event that is executing has added itself again or has not. -/
inductive ProcessorCall
  | update
  | executing (event : Nat) (readded : Bool)
  | aborting (event : Nat)
  | checking (event : Nat)
  | kill (force : Bool) (itr : Option Nat)
  | killAborting (force : Bool) (itr : Nat)
  | killChecking (force : Bool) (itr : Nat)
deriving DecidableEq

/-- What was done to an event; of one that is executed also how many nodes had come in until then. -/
inductive EventDeed
  | executed (n : EventNode) (nodes : Nat)
  | aborted (event : Nat)
  | deleted (event : Nat)
deriving DecidableEq

def EventDeed.event : EventDeed → Nat
  | executed n _ => n.event
  | aborted event => event
  | deleted event => event

/-- `added` are the events that were ever added, `released` those whose `Execute` returned false without adding them again,
`history` what was done, the latest first: nothing reads them but the pointers to deleted events. `fault` is set when an
iterator or a pointer that is not valid any more is used, or an assertion fails; nothing happens then. -/
structure EventProcessor where
  time : UInt64
  events : List EventNode
  abortState : Nat → AbortState
  calls : List ProcessorCall
  nodes : Nat
  added : List Nat
  released : List Nat
  history : List EventDeed
  fault : Bool

/-- What calls the processor, and how a running call goes on: a loop to its next event, or with what an event returns. -/
inductive ProcessorEvent
  | addEvent (event : Nat) (time : UInt64)
  | scheduleAbort (event : Nat)
  | update (diff : UInt32)
  | killAllEvents (force : Bool)
  | next
  | executed (done : Bool)
  | aborted
  | deletable (answer : Bool)

namespace EventProcessor

def start : EventProcessor := ⟨0, [], fun _ => .running, [], 0, [], [], [], false⟩

variable (p : EventProcessor) (itr event : Nat) (calls : List ProcessorCall)

def failed : EventProcessor := { p with fault := true }

def isDeleted : Bool := .deleted event ∈ p.history

def setAbortState (state : AbortState) : EventProcessor :=
  { p with abortState := Function.update p.abortState event state }

def setCalls : EventProcessor := { p with calls := calls }

def record (deed : EventDeed) : EventProcessor := { p with history := deed :: p.history }

/-- `delete` -/
def delete : EventProcessor :=
  if p.isDeleted event then p.failed else p.record (.deleted event)

def find : Option EventNode := p.events.find? fun n => n.node = itr

/-- Where the iterator points to after `++itr`. -/
def after : Option Nat :=
  (p.events.dropWhile fun n => n.node ≠ itr).tail.head?.map EventNode.node

/-- The event is not in the hands of the call any more that executes it. -/
def readd : ProcessorCall → ProcessorCall
  | .executing other readded => .executing other (readded || other = event)
  | call => call

def addEvent (time : UInt64) : EventProcessor :=
  { p with
    events := Multimap.insert (fun n => n.time.toNat) ⟨time, event, p.nodes⟩ p.events
    nodes := p.nodes + 1
    calls := p.calls.map (readd event)
    added := p.added.insert event
    released := p.released.erase event }

def calculateTime (offset : UInt64) : UInt64 := p.time + offset

/-- An event that is not running any more. -/
def scheduleAbort : EventProcessor :=
  if p.isDeleted event ∨ p.abortState event ≠ .running then p.failed else p.setAbortState event .abortScheduled

/-- One round of the loop of `Update`, up to the call of the event. -/
def updateNext : EventProcessor :=
  match p.events with
  | [] => p.setCalls calls
  | n :: events =>
    if p.time < n.time then p.setCalls calls
    else if p.isDeleted n.event then p.failed
    else
      let p := { p with events := events }
      match p.abortState n.event with
      | .running => (p.record (.executed n p.nodes)).setCalls (.executing n.event false :: calls)
      | .abortScheduled => (p.record (.aborted n.event)).setCalls (.aborting n.event :: calls)
      | .aborted => p.setCalls (.checking n.event :: calls)

/-- `KillAllEvents` at its iterator, up to the call of the event. -/
def killNext (force : Bool) (itr : Nat) (calls : List ProcessorCall) : EventProcessor :=
  match p.find itr with
  | none => p.failed
  | some n =>
    if p.isDeleted n.event then p.failed
    else if p.abortState n.event = .aborted then p.setCalls (.killChecking force itr :: calls)
    else ((p.setAbortState n.event .aborted).record (.aborted n.event)).setCalls (.killAborting force itr :: calls)

def killPast (force deletable : Bool) (itr : Nat) (calls : List ProcessorCall) : EventProcessor :=
  match p.find itr with
  | none => p.failed
  | some n =>
    if p.isDeleted n.event then p.failed
    else
      let calls := .kill force (p.after itr) :: calls
      if !force ∧ !deletable then p.setCalls calls
      else if force then (p.delete n.event).setCalls calls
      else { (p.delete n.event).setCalls calls with events := p.events.eraseP fun n => n.node = itr }

/-- Code outside the processor runs: no call is running, or the innermost has called an event. -/
def isOutside : Bool :=
  match p.calls with
  | [] | .executing _ _ :: _ | .aborting _ :: _ | .killAborting _ _ :: _ => true
  | _ => false

def go : ProcessorEvent → EventProcessor
  | .addEvent event time => if p.isOutside then if p.isDeleted event then p.failed else p.addEvent event time else p
  | .scheduleAbort event => if p.isOutside then p.scheduleAbort event else p
  | .update diff =>
    if p.isOutside then ({ p with time := p.time + diff.toUInt64 } : EventProcessor).setCalls (.update :: p.calls) else p
  | .killAllEvents force => if p.isOutside then p.setCalls (.kill force (p.events.head?.map EventNode.node) :: p.calls) else p
  | .next =>
    match p.calls with
    | .update :: calls => p.updateNext calls
    | .kill force (some itr) :: calls => p.killNext force itr calls
    | .kill force none :: calls => { p.setCalls calls with events := if force then [] else p.events }
    | _ => p
  | .executed done =>
    match p.calls with
    | .executing event readded :: calls =>
      if done then (p.delete event).setCalls (.update :: calls)
      else { p.setCalls (.update :: calls) with released := if readded then p.released else event :: p.released }
    | _ => p
  | .aborted =>
    match p.calls with
    | .aborting event :: calls =>
      if p.abortState event = .aborted then p.failed else (p.setAbortState event .aborted).setCalls (.checking event :: calls)
    | .killAborting force itr :: calls => p.setCalls (.killChecking force itr :: calls)
    | _ => p
  | .deletable answer =>
    match p.calls with
    | .checking event :: calls =>
      if p.isDeleted event then p.failed
      else if answer then (p.delete event).setCalls (.update :: calls)
      else (p.setCalls (.update :: calls)).addEvent event (p.calculateTime 1)
    | .killChecking force itr :: calls => p.killPast force answer itr calls
    | _ => p

def step (e : ProcessorEvent) : EventProcessor := if p.fault then p else p.go e

/-! Which runs there are promises for. -/

/-- `KillAllEvents(true)` is in the `Abort` of an event. -/
def forced : Option Nat :=
  match p.calls with
  | .killAborting true itr :: _ => some itr
  | _ => none

/-- An event is added that never was, that was released, or that is executing; inside a forced kill not before the event that
it is at. -/
def mayAdd (time : UInt64) : Bool :=
  (event ∉ p.added || event ∈ p.released || .executing event false ∈ p.calls) &&
    (p.forced.bind p.find).all fun n => n.time ≤ time

/-- Aborts are scheduled of running events; a forced kill is not entered by other loops, no event that added itself again asks to
be deleted, and one that a kill aborts is still in the queue afterwards. -/
def admits : ProcessorEvent → Bool
  | .addEvent event time => p.mayAdd event time
  | .scheduleAbort event => !p.isDeleted event && p.abortState event = .running
  | .update _ | .killAllEvents _ => p.forced.isNone
  | .executed done =>
    match p.calls with
    | .executing _ readded :: _ => !(done && readded)
    | _ => true
  | .aborted =>
    match p.calls with
    | .killAborting _ itr :: _ => (p.find itr).isSome
    | _ => true
  | .next | .deletable _ => true

end EventProcessor

end ComfyCraft
