import ComfyCraft.Database.Delay
import Mathlib.Data.UInt

/-! `SqlTransaction::Execute` over a MySQL connection whose every command is answered in any way. The
database is the list of the statements that have taken effect, in order; what stands in its rows is a
function of that list. Its tables are transactional. -/

namespace ComfyCraft

def lockWaitTimeout : UInt32 := 1205
def lockDeadlock : UInt32 := 1213
def serverGoneError : UInt32 := 2006
def serverLost : UInt32 := 2013
def invalidConnHandle : UInt32 := 2048
def serverLostExtended : UInt32 := 2055

/-- The errors on which `HandleMySQLError` closes the connection and opens it again. -/
def connectionLost (errNo : UInt32) : Bool :=
  errNo = serverGoneError || errNo = serverLost || errNo = invalidConnHandle || errNo = serverLostExtended

def endsTransaction (errNo : UInt32) : Bool :=
  errNo = lockDeadlock || connectionLost errNo

/-- What comes of `START TRANSACTION`, `COMMIT` or `ROLLBACK`; with `unanswered` the server obeyed and the
connection was lost before its answer. -/
inductive Answer
  | done
  | error (errNo : UInt32)
  | unanswered
deriving DecidableEq

/-- What comes of a statement: with `reopened` the connection was lost, `HandleMySQLError` opened it again,
and the statement is sent once more; with `unprepared` no statement could be prepared and no error is set. -/
inductive Sending
  | done
  | error (errNo : UInt32)
  | unprepared
  | reopened (again : Sending)
deriving DecidableEq

/-- The connection, with the statements that have taken effect for good and those of the open transaction. -/
structure MySQLConnection (S : Type) where
  kept : List S
  work : Option (List S)
  lastErrno : UInt32
deriving DecidableEq

namespace MySQLConnection

variable {S : Type}

def isRetryableError (errNo : UInt32) : Bool :=
  errNo = lockDeadlock || errNo = lockWaitTimeout

/-- The database as the connection sees it; the next `START TRANSACTION` on it commits all of it. -/
def stored (c : MySQLConnection S) : List S :=
  c.kept ++ c.work.getD []

def write (s : S) (c : MySQLConnection S) : MySQLConnection S :=
  match c.work with
  | some ws => { c with work := some (ws ++ [s]) }
  | none => { c with kept := c.kept ++ [s] }

def refuse (errNo : UInt32) (c : MySQLConnection S) : MySQLConnection S :=
  { c with
    work := if endsTransaction errNo then none else c.work
    lastErrno := errNo }

/-- `Execute`: after a reconnection the statement is sent again by itself, outside any transaction. -/
def execute (s : S) : Sending → MySQLConnection S → Bool × MySQLConnection S
  | .done, c => (true, c.write s)
  | .error errNo, c => (false, c.refuse errNo)
  | .unprepared, c => (false, c)
  | .reopened again, c => execute s again { c with work := none }

/-- `_TransactionCmd`: no reconnection here. -/
def transactionCmd (command : MySQLConnection S → MySQLConnection S) (a : Answer) (c : MySQLConnection S) :
    Bool × MySQLConnection S :=
  match a with
  | .done => (true, command c)
  | .error errNo => (false, c.refuse errNo)
  | .unanswered => (false, (command c).refuse serverLost)

def beginTransaction : Answer → MySQLConnection S → Bool × MySQLConnection S :=
  transactionCmd fun c => { c with
    kept := c.stored
    work := some [] }

def commitTransaction : Answer → MySQLConnection S → Bool × MySQLConnection S :=
  transactionCmd fun c => { c with
    kept := c.stored
    work := none }

def rollbackTransaction : Answer → MySQLConnection S → Bool × MySQLConnection S :=
  transactionCmd fun c => { c with work := none }

end MySQLConnection

/-- What comes of the commands of one attempt; statements by their place in the queue. -/
structure Answers where
  start : Answer
  sent : Nat → Sending
  commit : Answer
  rollback : Answer

structure Try (S : Type) where
  answers : Answers
  before : MySQLConnection S
  after : MySQLConnection S
  outcome : Attempt

namespace SqlTransaction

variable {S : Type}

/-- The loop over `m_queue`, from place `i` on. -/
def runStatements (sent : Nat → Sending) : Nat → List S → MySQLConnection S → Bool × MySQLConnection S
  | _, [], c => (true, c)
  | i, s :: queue, c =>
    let (executed, c) := c.execute s (sent i)
    if executed then runStatements sent (i + 1) queue c else (false, c)

/-- The body of the retry loop. The results of `BeginTransaction` and `RollbackTransaction` are not read. -/
def attempt (queue : List S) (a : Answers) (c : MySQLConnection S) : Try S :=
  let begun := (MySQLConnection.beginTransaction a.start { c with lastErrno := 0 }).2
  let (executed, ran) := runStatements a.sent 0 queue begun
  let (committed, ended) := if executed then ran.commitTransaction a.commit else (false, ran)
  if committed then
    ⟨a, c, ended, .committed⟩
  else
    ⟨a, c, (ended.rollbackTransaction a.rollback).2,
      if MySQLConnection.isRetryableError ended.lastErrno then .retryable else .failed⟩

/-- What `Execute` returns, with the attempts it made. -/
structure Executed (S : Type) where
  returned : Bool
  tries : List (Try S)

/-- The retry loop with `left` attempts still allowed. -/
def executeLeft (queue : List S) (pattern : Nat → Answers) : Nat → MySQLConnection S → Executed S
  | 0, _ => ⟨false, []⟩
  | left + 1, c =>
    let t := attempt queue (pattern (maxAttempts - left)) c
    match t.outcome with
    | .committed => ⟨true, [t]⟩
    | .failed => ⟨false, [t]⟩
    | .retryable =>
      let rest := executeLeft queue pattern left t.after
      ⟨rest.returned, t :: rest.tries⟩

/-- `SqlTransaction::Execute`; `pattern n` answers the `n`-th attempt, from 1. -/
def execute (queue : List S) (pattern : Nat → Answers) (c : MySQLConnection S) : Executed S :=
  if queue = [] then ⟨true, []⟩ else executeLeft queue pattern maxAttempts c

end SqlTransaction

end ComfyCraft
