import ComfyCraft.Lib.Runs
import Mathlib.Data.List.Basic

/-! The asynchronous half of the database layer, from `AllowAsyncTransactions` on: operations that producers
put on the shared delay queue or on the serial queue of one worker, and the delay threads that take them
off and execute them. A step is one that a thread takes without the others looking on: under the lock of a
queue, or between two such places. -/

namespace ComfyCraft

inductive Attempt
  | committed
  | retryable
  | failed
deriving DecidableEq

/-- An operation as it is queued; `no` counts the operations queued before it. -/
structure SqlOperation (P S : Type) where
  producer : P
  no : Nat
  serialId : UInt32
  transaction : Bool
  statements : List S
deriving DecidableEq

def maxAttempts : Nat := 3

/-- The attempts of `SqlTransaction::Execute`, of which `left` may still be made. -/
def attemptsLeft (outcome : Nat → Attempt) : Nat → List Attempt
  | 0 => []
  | left + 1 =>
    let result := outcome (maxAttempts - left)
    result :: if result = .retryable then attemptsLeft outcome left else []

namespace SqlOperation

variable {P S : Type}

/-- `Execute`: a transaction is run again after a deadlock, anything else is run once. -/
def execute (op : SqlOperation P S) (outcome : Nat → Attempt) : List Attempt :=
  if op.transaction then if op.statements.isEmpty then [] else attemptsLeft outcome maxAttempts else [outcome 1]

end SqlOperation

structure Executed (P S : Type) where
  op : SqlOperation P S
  attempts : List Attempt

/-- Where a delay thread is: asleep, in one of the two loops of `ProcessRequests`, at its end, or deleted. -/
inductive Place
  | asleep
  | delayQueue
  | serialQueue
  | joined
  | gone
deriving DecidableEq

structure SqlDelayThread (P S : Type) where
  serialDelayQueue : List (SqlOperation P S)
  running : Bool
  place : Place
  /-- Taken off a queue and not executed yet. -/
  hand : Option (SqlOperation P S)
  destroyed : Bool

/-- A database with `n` asynchronous workers. The operations are listed as they were queued and as they were
executed. -/
structure Database (n : Nat) (P S : Type) where
  transStorage : P → Option (UInt32 × List S)
  delayQueue : List (SqlOperation P S)
  threadsBodies : Fin n → SqlDelayThread P S
  /-- The delay threads have not been joined yet. -/
  up : Bool
  queued : List (SqlOperation P S)
  executed : List (Executed P S)

inductive DbAction (n : Nat) (P S : Type)
  | beginTransaction (p : P) (serialId : UInt32)
  | execute (p : P) (statement : S)
  | commitTransaction (p : P)
  | rollbackTransaction (p : P)
  | asyncQuery (p : P) (query : S)
  | delayQueryHolder (p : P) (serialId : UInt32) (queries : List S)
  | wake (w : Fin n)
  | next (w : Fin n)
  | perform (w : Fin n) (outcome : Nat → Attempt)
  | stop (w : Fin n)
  | join
  | destroy (w : Fin n)

/-- The worker that a serial id is bound to: none without an id, and none when there are no workers. -/
def serialWorker (n : Nat) (serialId : UInt32) : Option (Fin n) :=
  if h : serialId ≠ 0 ∧ 0 < n then some ⟨serialId.toNat % n, Nat.mod_lt _ h.2⟩ else none

namespace Database

variable {n : Nat} {P S : Type}

/-- After `Initialize`: the threads run, and nothing is queued. -/
def start (n : Nat) (P S : Type) : Database n P S where
  transStorage := fun _ => none
  delayQueue := []
  threadsBodies := fun _ => ⟨[], true, .asleep, none, false⟩
  up := true
  queued := []
  executed := []

def setThread (db : Database n P S) (w : Fin n) (t : SqlDelayThread P S) : Database n P S :=
  { db with threadsBodies := Function.update db.threadsBodies w t }

def addToDelayQueue (db : Database n P S) (op : SqlOperation P S) : Database n P S :=
  { db with delayQueue := db.delayQueue ++ [op], queued := db.queued ++ [op] }

def addToSerialDelayQueue (db : Database n P S) (op : SqlOperation P S) : Database n P S :=
  match serialWorker n op.serialId with
  | none => db.addToDelayQueue op
  | some w =>
    let t := db.threadsBodies w
    { db.setThread w { t with serialDelayQueue := t.serialDelayQueue ++ [op] } with queued := db.queued ++ [op] }

/-- An operation of a producer, numbered. Nothing is queued any more once the threads are joined: the
producers have ended before. -/
def queue (db : Database n P S) (p : P) (serialId : UInt32) (transaction : Bool) (statements : List S) : Database n P S :=
  if db.up then db.addToSerialDelayQueue ⟨p, db.queued.length, serialId, transaction, statements⟩ else db

def setTrans [DecidableEq P] (db : Database n P S) (p : P) (t : Option (UInt32 × List S)) : Database n P S :=
  { db with transStorage := Function.update db.transStorage p t }

/-- One turn of a loop of `ProcessRequests`: the next operation, or on to what follows the loop. -/
def next (db : Database n P S) (w : Fin n) : Database n P S :=
  let t := db.threadsBodies w
  match t.hand, t.place with
  | none, .delayQueue =>
    match db.delayQueue with
    | op :: ops => { db.setThread w { t with hand := some op } with delayQueue := ops }
    | [] => db.setThread w { t with place := .serialQueue }
  | none, .serialQueue =>
    match t.serialDelayQueue with
    | op :: ops => db.setThread w { t with hand := some op, serialDelayQueue := ops }
    | [] => db.setThread w { t with place := if t.destroyed then .gone else if t.running then .asleep else .joined }
  | _, _ => db

def perform (db : Database n P S) (w : Fin n) (outcome : Nat → Attempt) : Database n P S :=
  let t := db.threadsBodies w
  match t.hand with
  | none => db
  | some op => { db.setThread w { t with hand := none } with executed := db.executed ++ [⟨op, op.execute outcome⟩] }

def wake (db : Database n P S) (w : Fin n) : Database n P S :=
  let t := db.threadsBodies w
  if t.place = .asleep then db.setThread w { t with place := .delayQueue } else db

def stop (db : Database n P S) (w : Fin n) : Database n P S := db.setThread w { db.threadsBodies w with running := false }

/-- The joins of `HaltDelayThread`, which return once every thread has ended. -/
def join (db : Database n P S) : Database n P S :=
  if ∀ w, (db.threadsBodies w).place = .joined then { db with up := false } else db

/-- The destructor of a body goes through `ProcessRequests` once more. -/
def destroy (db : Database n P S) (w : Fin n) : Database n P S :=
  let t := db.threadsBodies w
  if db.up = false ∧ t.place = .joined then db.setThread w { t with place := .delayQueue, destroyed := true } else db

def step [DecidableEq P] (db : Database n P S) : DbAction n P S → Database n P S
  | .beginTransaction p serialId => if (db.transStorage p).isSome then db else db.setTrans p (some (serialId, []))
  | .execute p statement =>
    match db.transStorage p with
    | some (serialId, statements) => db.setTrans p (some (serialId, statements ++ [statement]))
    | none => db.queue p 0 false [statement]
  | .commitTransaction p =>
    match db.transStorage p with
    | some (serialId, statements) => (db.setTrans p none).queue p serialId true statements
    | none => db
  | .rollbackTransaction p => db.setTrans p none
  | .asyncQuery p query => db.queue p 0 false [query]
  | .delayQueryHolder p serialId queries => db.queue p serialId false queries
  | .wake w => db.wake w
  | .next w => db.next w
  | .perform w outcome => db.perform w outcome
  | .stop w => db.stop w
  | .join => db.join
  | .destroy w => db.destroy w

/-- All that a turn can be: nothing, a move to another place, or an operation taken off one of the queues. -/
theorem next_cases (db : Database n P S) (w : Fin n) : db.next w = db ∨
    (∃ place, db.next w = db.setThread w { db.threadsBodies w with place := place } ∧
      (place = .gone → (db.threadsBodies w).destroyed ∧ (db.threadsBodies w).serialDelayQueue = [] ∧
        (db.threadsBodies w).hand = none)) ∨
    (∃ op ops, (db.threadsBodies w).hand = none ∧ (db.threadsBodies w).place = .delayQueue ∧ db.delayQueue = op :: ops ∧
      db.next w = { db.setThread w { db.threadsBodies w with hand := some op } with delayQueue := ops }) ∨
    (∃ op ops, (db.threadsBodies w).hand = none ∧ (db.threadsBodies w).place = .serialQueue ∧
      (db.threadsBodies w).serialDelayQueue = op :: ops ∧
      db.next w = db.setThread w { db.threadsBodies w with hand := some op, serialDelayQueue := ops }) := by
  unfold next
  cases hhand : (db.threadsBodies w).hand with
  | some op => exact .inl (by simp only [hhand])
  | none =>
    cases hplace : (db.threadsBodies w).place with
    | asleep => exact .inl (by simp only [hhand, hplace])
    | joined => exact .inl (by simp only [hhand, hplace])
    | gone => exact .inl (by simp only [hhand, hplace])
    | delayQueue =>
      cases hq : db.delayQueue with
      | nil => exact .inr (.inl ⟨.serialQueue, by simp only [hhand, hplace], by simp⟩)
      | cons op ops => exact .inr (.inr (.inl ⟨op, ops, rfl, rfl, rfl, by simp only [hhand, hplace]⟩))
    | serialQueue =>
      cases hq : (db.threadsBodies w).serialDelayQueue with
      | nil =>
        refine .inr (.inl ⟨if (db.threadsBodies w).destroyed then .gone else if (db.threadsBodies w).running then .asleep
          else .joined, by simp only [hhand, hplace, hq], fun hgone => ?_⟩)
        split_ifs at hgone with hd
        exact ⟨hd, rfl, rfl⟩
      | cons op ops => exact .inr (.inr (.inr ⟨op, ops, rfl, rfl, rfl, by simp only [hhand, hplace, hq]⟩))

theorem perform_hand {db : Database n P S} {w : Fin n} {op : SqlOperation P S} (h : (db.threadsBodies w).hand = some op)
    (outcome : Nat → Attempt) :
    db.perform w outcome = { db.setThread w { db.threadsBodies w with hand := none } with
      executed := db.executed ++ [⟨op, op.execute outcome⟩] } := by
  unfold perform
  simp only [h]

end Database

end ComfyCraft
