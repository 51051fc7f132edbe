import ComfyCraft.Database.SqlTransaction
import Mathlib.Order.Nat

/-! One attempt at a transaction: what its statements leave when the connection is lost over one of them or
one fails, and the exact condition on the answers under which the attempt is all or nothing and says so. -/

namespace ComfyCraft

open List MySQLConnection Sending Nat

namespace Answer

/-- No transaction is open any more after this answer to a command that ends one. -/
def ends : Answer → Bool
  | .done => true
  | .error errNo => endsTransaction errNo
  | .unanswered => true

end Answer

namespace Sending

def runs : Sending → Bool
  | .done => true
  | .error _ => false
  | .unprepared => false
  | .reopened again => again.runs

def loses : Sending → Bool
  | .reopened _ => true
  | _ => false

/-- No transaction is open any more after a statement that failed so. -/
def ends : Sending → Bool
  | .done => false
  | .error errNo => endsTransaction errNo
  | .unprepared => false
  | .reopened _ => true

end Sending

namespace MySQLConnection

variable {S : Type}

/-- Nothing of an earlier transaction is waiting for its end. -/
def Clean (c : MySQLConnection S) : Prop :=
  c.work.getD [] = []

variable {c : MySQLConnection S} {s : S} {sent : Sending}

theorem Clean.stored (h : c.Clean) : c.stored = c.kept := by
  rw [MySQLConnection.stored, h, append_nil]

theorem execute_work_none (s : S) (sent : Sending) : ∀ c : MySQLConnection S, c.work = none →
      (c.execute s sent).1 = sent.runs ∧ (c.execute s sent).2.work = none ∧
      (c.execute s sent).2.kept = c.kept ++ if sent.runs then [s] else [] := by
  induction sent with
  | done => intro c h; simp [execute, write, h, runs]
  | error errNo => intro c h; simp [execute, refuse, h, runs]
  | unprepared => intro c h; simp [execute, h, runs]
  | reopened again ih => intro c h; exact ih { c with work := none } rfl

theorem execute_runs (c : MySQLConnection S) (s : S) (sent : Sending) : (c.execute s sent).1 = sent.runs := by
  induction sent generalizing c with
  | done => rfl
  | error errNo => rfl
  | unprepared => rfl
  | reopened again ih => exact ih _

/-- A connection that is lost over a statement takes the open transaction with it. -/
theorem execute_loses (h : sent.loses = true) : (c.execute s sent).2.work = none ∧
      (c.execute s sent).2.kept = c.kept ++ if sent.runs then [s] else [] := by
  cases sent with
  | done => cases h
  | error errNo => cases h
  | unprepared => cases h
  | reopened again => exact (execute_work_none s again { c with work := none } rfl).2

theorem execute_stays {ws : List S} (hw : c.work = some ws) (hl : sent.loses = false) (hr : sent.runs = true) :
    (c.execute s sent).2 = { c with work := some (ws ++ [s]) } := by
  cases sent with
  | done => simp [execute, write, hw]
  | error errNo => cases hr
  | unprepared => cases hr
  | reopened again => cases hl

/-- A statement that fails takes no effect. -/
theorem execute_fails (c : MySQLConnection S) (s : S) (hr : sent.runs = false) : (c.execute s sent).2.kept = c.kept ∧
      (c.execute s sent).2.work = if sent.ends then none else c.work := by
  cases sent with
  | done => cases hr
  | error errNo => exact ⟨rfl, rfl⟩
  | unprepared => exact ⟨rfl, rfl⟩
  | reopened again =>
    have hloss : (reopened again).loses = true := rfl
    obtain ⟨hw, hk⟩ := execute_loses (c := c) (s := s) hloss
    rw [hr] at hk
    exact ⟨by simpa using hk, hw⟩

end MySQLConnection

namespace SqlTransaction

variable {S : Type}

/-- How many of `n` statements from place `i` on run before the first that fails. -/
def runCount (sent : Nat → Sending) (i : Nat) : Nat → Nat
  | 0 => 0
  | n + 1 => if (sent i).runs then runCount sent (i + 1) n + 1 else 0

section

variable (sent : Nat → Sending)
include sent

theorem runCount_le (n : Nat) : ∀ i, runCount sent i n ≤ n := by
  induction n with
  | zero => intro i; exact le_refl 0
  | succ n ih =>
    intro i
    rw [runCount]
    split
    · exact succ_le_succ (ih (i + 1))
    · exact zero_le _

theorem runStatements_fst (queue : List S) :
    ∀ i c, (runStatements sent i queue c).1 = decide (runCount sent i queue.length = queue.length) := by
  induction queue with
  | nil => intro i c; rfl
  | cons s queue ih =>
    intro i c
    have hs := execute_runs c s (sent i)
    simp only [runStatements, length_cons, runCount, hs]
    split
    · rw [ih (i + 1)]
      simp
    · simp

/-- Outside a transaction every statement takes effect as it runs. -/
theorem runStatements_autocommit (queue : List S) : ∀ i c, c.work = none →
      (runStatements sent i queue c).2.work = none ∧
      (runStatements sent i queue c).2.kept = c.kept ++ queue.take (runCount sent i queue.length) := by
  induction queue with
  | nil => intro i c h; exact ⟨h, by simp [runStatements]⟩
  | cons s queue ih =>
    intro i c h
    obtain ⟨h₁, h₂, h₃⟩ := execute_work_none s (sent i) c h
    simp only [runStatements, length_cons, runCount, h₁]
    split
    · rename_i hr
      obtain ⟨hw, hk⟩ := ih (i + 1) _ h₂
      refine ⟨hw, ?_⟩
      rw [hk, h₃, if_pos hr, take_succ_cons, append_assoc, singleton_append]
    · rename_i hr
      exact ⟨h₂, by rw [h₃, if_neg hr, take_zero]⟩

/-- In a transaction, as long as no statement that runs loses the connection, nothing takes effect yet. -/
theorem runStatements_within (queue : List S) : ∀ i c ws, c.work = some ws →
      (∀ j < runCount sent i queue.length, (sent (i + j)).loses = false) →
      (runStatements sent i queue c).2.kept = c.kept ∧
      (runStatements sent i queue c).2.work =
        if runCount sent i queue.length < queue.length ∧ (sent (i + runCount sent i queue.length)).ends = true then none
        else some (ws ++ queue.take (runCount sent i queue.length)) := by
  induction queue with
  | nil => intro i c ws h _; exact ⟨rfl, by simp [runStatements, h]⟩
  | cons s queue ih =>
    intro i c ws h hl
    have hs := execute_runs c s (sent i)
    simp only [length_cons, runCount] at hl
    simp only [runStatements, length_cons, runCount, hs]
    split
    · rename_i hr
      rw [if_pos hr] at hl
      have hstay : (c.execute s (sent i)).2 = { c with work := some (ws ++ [s]) } :=
        execute_stays h (hl 0 (succ_pos _)) hr
      have hrest : ∀ j < runCount sent (i + 1) queue.length, (sent (i + 1 + j)).loses = false := by
        intro j hj
        have := hl (j + 1) (succ_lt_succ hj)
        rwa [← add_assoc, add_right_comm] at this
      obtain ⟨hk, hw⟩ := ih (i + 1) (c.execute s (sent i)).2 (ws ++ [s]) (by rw [hstay]) hrest
      refine ⟨by rw [hk, hstay], ?_⟩
      have hplace : i + (runCount sent (i + 1) queue.length + 1) = i + 1 + runCount sent (i + 1) queue.length := by omega
      rw [hw, take_succ_cons, append_assoc, singleton_append, hplace]
      simp only [Nat.add_lt_add_iff_right]
    · rename_i hr
      obtain ⟨hk, hw⟩ := execute_fails c s (Bool.eq_false_iff.mpr hr)
      refine ⟨hk, ?_⟩
      rw [hw, h]
      simp

/-- The statements from the first that loses the connection on take effect one by one, those before it are
gone. -/
theorem runStatements_lost (queue : List S) : ∀ i c j, j < runCount sent i queue.length → (sent (i + j)).loses = true →
      (∀ k < j, (sent (i + k)).loses = false) → c.work.isSome = true →
      (runStatements sent i queue c).2.work = none ∧
      (runStatements sent i queue c).2.kept = c.kept ++ (queue.take (runCount sent i queue.length)).drop j := by
  induction queue with
  | nil => intro i c j hj; exact absurd hj (not_lt_zero j)
  | cons s queue ih =>
    intro i c j hj hloss hbefore hopen
    have hs := execute_runs c s (sent i)
    simp only [length_cons, runCount] at hj
    simp only [runStatements, length_cons, runCount, hs]
    split
    · rename_i hr
      rw [if_pos hr] at hj
      cases j with
      | zero =>
        rw [add_zero] at hloss
        obtain ⟨hw, hk⟩ := execute_loses (c := c) (s := s) hloss
        obtain ⟨hw', hk'⟩ := runStatements_autocommit sent queue (i + 1) _ hw
        refine ⟨hw', ?_⟩
        rw [hk', hk, if_pos hr, take_succ_cons, drop_zero, append_assoc, singleton_append]
      | succ j =>
        obtain ⟨ws, hws⟩ := Option.isSome_iff_exists.mp hopen
        have hstay : (c.execute s (sent i)).2 = { c with work := some (ws ++ [s]) } :=
          execute_stays hws (hbefore 0 (succ_pos j)) hr
        have hplace : ∀ k, i + 1 + k = i + (k + 1) := by intro k; omega
        obtain ⟨hw', hk'⟩ := ih (i + 1) (c.execute s (sent i)).2 j (lt_of_succ_lt_succ hj) (by rw [hplace]; exact hloss)
          (fun k hk => by rw [hplace]; exact hbefore (k + 1) (succ_lt_succ hk))
          (by rw [hstay]; rfl)
        refine ⟨hw', ?_⟩
        rw [hk', hstay, take_succ_cons, drop_succ_cons]
    · rename_i hr
      rw [if_neg hr] at hj
      exact absurd hj (not_lt_zero j)

end

def opened (a : Answers) (c : MySQLConnection S) : Bool :=
  match a.start with
  | .done => true
  | .error errNo => c.work.isSome && !endsTransaction errNo
  | .unanswered => false

def begun (a : Answers) (c : MySQLConnection S) : MySQLConnection S :=
  (MySQLConnection.beginTransaction a.start { c with lastErrno := 0 }).2

variable {c : MySQLConnection S} {queue : List S}

theorem begun_of_clean (a : Answers) (h : c.Clean) :
    (begun a c).kept = c.kept ∧ (begun a c).work = if opened a c then some [] else none := by
  have hs : ({ c with lastErrno := 0 } : MySQLConnection S).stored = c.kept := h.stored
  unfold begun opened
  generalize a.start = start
  cases start with
  | done => exact ⟨hs, rfl⟩
  | unanswered => exact ⟨hs, rfl⟩
  | error errNo =>
    refine ⟨rfl, ?_⟩
    simp only [beginTransaction, transactionCmd, refuse]
    cases hw : c.work with
    | none => simp
    | some ws =>
      have hws : ws = [] := by simpa [Clean, hw] using h
      by_cases he : endsTransaction errNo = true
      · simp [he]
      · simp [he, hws]

/-- What the statements of an attempt leave: either all of them wait in the transaction, or those from the
`j`-th on have taken effect outside of one and those before are gone. -/
theorem ran_cases (queue : List S) (a : Answers) (h : c.Clean) : let m := runCount a.sent 0 queue.length
    let ran := (runStatements a.sent 0 queue (begun a c)).2
    (opened a c = true ∧ (∀ j < m, (a.sent j).loses = false) ∧ ran.kept = c.kept ∧
      ran.work = if m < queue.length ∧ (a.sent m).ends = true then none else some (queue.take m)) ∨
    (∃ j, (j < m ∧ opened a c = true ∧ (a.sent j).loses = true ∨ j = 0 ∧ opened a c = false) ∧
      (∀ k < j, (a.sent k).loses = false) ∧
      ran.kept = c.kept ++ (queue.take m).drop j ∧ ran.work = none) := by
  intro m ran
  obtain ⟨hk, hw⟩ := begun_of_clean a h
  cases ho : opened a c with
  | false =>
    rw [ho] at hw
    obtain ⟨h₁, h₂⟩ := runStatements_autocommit a.sent queue 0 (begun a c) hw
    refine .inr ⟨0, .inr ⟨rfl, rfl⟩, fun k hk => absurd hk (not_lt_zero k), ?_, h₁⟩
    rw [drop_zero, h₂, hk]
  | true =>
    rw [ho, if_pos rfl] at hw
    by_cases hl : ∃ j, j < m ∧ (a.sent j).loses = true
    · -- the first statement that loses the connection
      have hfirst := Nat.find_spec hl
      have hbefore : ∀ k < Nat.find hl, (a.sent k).loses = false := by
        intro k hk
        have := Nat.find_min hl hk
        rw [not_and, Bool.not_eq_true] at this
        exact this (lt_trans hk hfirst.1)
      obtain ⟨h₁, h₂⟩ := runStatements_lost a.sent queue 0 (begun a c) (Nat.find hl) hfirst.1
        (by rw [zero_add]; exact hfirst.2) (fun k hk => by rw [zero_add]; exact hbefore k hk)
        (by rw [hw]; rfl)
      exact .inr ⟨Nat.find hl, .inl ⟨hfirst.1, rfl, hfirst.2⟩, hbefore, by rw [h₂, hk], h₁⟩
    · have hnone : ∀ j < m, (a.sent j).loses = false := by
        intro j hj
        rw [← Bool.not_eq_true]
        exact fun hl' => hl ⟨j, hj, hl'⟩
      obtain ⟨h₁, h₂⟩ := runStatements_within a.sent queue 0 (begun a c) [] hw (fun j hj => by rw [zero_add]; exact hnone j hj)
      refine .inl ⟨rfl, hnone, h₁.trans hk, ?_⟩
      rw [h₂, zero_add, nil_append]

/-- The statements of the attempt all ran and were committed. -/
def Whole (queue : List S) (t : Try S) : Prop :=
  t.after.kept = t.before.stored ++ queue

/-- The attempt reports what it did, and left nothing behind unless it committed its statements. -/
def RightTry (queue : List S) (t : Try S) : Prop :=
  (t.outcome = .committed ↔ Whole queue t) ∧ (¬ Whole queue t → t.after.stored = t.before.stored)

theorem rollback_kept (c : MySQLConnection S) (r : Answer) : (c.rollbackTransaction r).2.kept = c.kept ∧
      (c.rollbackTransaction r).2.work = if r.ends then none else c.work := by
  cases r <;> exact ⟨rfl, rfl⟩

theorem outcome_ne_committed (errNo : UInt32) :
    (if MySQLConnection.isRetryableError errNo then Attempt.retryable else Attempt.failed) ≠ .committed := by
  split <;> exact fun h => by cases h

theorem attempt_failing (queue : List S) (a : Answers) (c : MySQLConnection S)
    (h : runCount a.sent 0 queue.length ≠ queue.length) :
    let ran := (runStatements a.sent 0 queue (begun a c)).2
    let t := attempt queue a c
    t.before = c ∧ t.outcome ≠ .committed ∧ t.after.kept = ran.kept ∧
      t.after.work = if a.rollback.ends then none else ran.work := by
  have hf := runStatements_fst a.sent queue 0 (begun a c)
  rw [decide_eq_false h] at hf
  have he : attempt queue a c = ⟨a, c, ((runStatements a.sent 0 queue (begun a c)).2.rollbackTransaction a.rollback).2,
      if isRetryableError (runStatements a.sent 0 queue (begun a c)).2.lastErrno
        then .retryable else .failed⟩ := by
    rw [begun] at hf ⊢
    simp [attempt, hf]
  intro ran t
  rw [show t = attempt queue a c from rfl, he]
  exact ⟨rfl, outcome_ne_committed _, rollback_kept _ _⟩

theorem attempt_running (queue : List S) (a : Answers) (c : MySQLConnection S)
    (h : runCount a.sent 0 queue.length = queue.length) :
    let ran := (runStatements a.sent 0 queue (begun a c)).2
    let t := attempt queue a c
    t.before = c ∧ (t.outcome = .committed ↔ a.commit = .done) ∧
      match a.commit with
      | .error errNo => t.after.kept = ran.kept ∧
          t.after.work = if endsTransaction errNo || a.rollback.ends then none else ran.work
      | _ => t.after.kept = ran.stored ∧ t.after.work = none := by
  have hf := runStatements_fst a.sent queue 0 (begun a c)
  rw [decide_eq_true h] at hf
  intro ran t
  rw [begun] at hf
  cases hc : a.commit with
  | done =>
    have he : t = ⟨a, c, { ran with
        kept := ran.stored
        work := none }, .committed⟩ := by
      simp [t, ran, attempt, begun, hf, hc, commitTransaction, transactionCmd]
    rw [he]
    exact ⟨rfl, Iff.intro (fun _ => rfl) (fun _ => rfl), rfl, rfl⟩
  | error errNo =>
    have he : t = ⟨a, c, ((ran.refuse errNo).rollbackTransaction a.rollback).2,
        if isRetryableError errNo then .retryable else .failed⟩ := by
      simp [t, ran, attempt, begun, hf, hc, commitTransaction, transactionCmd, refuse]
    obtain ⟨h₁, h₂⟩ := rollback_kept (ran.refuse errNo) a.rollback
    rw [he]
    refine ⟨rfl, Iff.intro (fun h => absurd h (outcome_ne_committed errNo)) (fun h => by cases h), h₁, ?_⟩
    rw [h₂, refuse]
    by_cases hends : endsTransaction errNo = true
    · simp [hends]
    · simp [hends]
  | unanswered =>
    have he : t = ⟨a, c, ((({ ran with
        kept := ran.stored
        work := none } : MySQLConnection S).refuse serverLost).rollbackTransaction a.rollback).2,
        if isRetryableError serverLost then .retryable else .failed⟩ := by
      simp [t, ran, attempt, begun, hf, hc, commitTransaction, transactionCmd, refuse]
    obtain ⟨h₁, h₂⟩ := rollback_kept (({ ran with
        kept := ran.stored
        work := none } : MySQLConnection S).refuse serverLost) a.rollback
    rw [he]
    refine ⟨rfl, Iff.intro (fun h => absurd h (outcome_ne_committed serverLost)) (fun h => by cases h), h₁, ?_⟩
    have hgone : endsTransaction serverLost = true := by decide
    rw [h₂, refuse, hgone]
    exact ite_self none

def inTransaction (a : Answers) (c : MySQLConnection S) : Bool :=
  opened a c && !(a.sent 0).loses

/-- With a transaction open: no statement that runs loses the connection, and unless the commit is done, the
server is told, or tells, that the transaction is over. Without one: no statement runs, or all of them do
and the commit is done. -/
def Sound (n : Nat) (a : Answers) (c : MySQLConnection S) : Prop :=
  let m := runCount a.sent 0 n
  if inTransaction a c then
    (∀ j < m, (a.sent j).loses = false) ∧
      if m = n then
        match a.commit with
        | .done => True
        | .error errNo => endsTransaction errNo = true ∨ a.rollback.ends = true
        | .unanswered => False
      else
        m = 0 ∨ (a.sent m).ends = true ∨ a.rollback.ends = true
  else
    if m = n then a.commit = .done else m = 0

theorem append_left_eq_self {xs ys : List S} : xs ++ ys = xs ↔ ys = [] := by
  simp

section

variable (hq : queue ≠ []) (a : Answers) (hc : c.Clean)
include hq a hc

theorem rightTry_within (hk : (runStatements a.sent 0 queue (begun a c)).2.kept = c.kept)
    (hw : (runStatements a.sent 0 queue (begun a c)).2.work =
      if runCount a.sent 0 queue.length < queue.length ∧ (a.sent (runCount a.sent 0 queue.length)).ends = true then none
      else some (queue.take (runCount a.sent 0 queue.length))) :
    RightTry queue (attempt queue a c) ↔
      if runCount a.sent 0 queue.length = queue.length then
        match a.commit with
        | .done => True
        | .error errNo => endsTransaction errNo = true ∨ a.rollback.ends = true
        | .unanswered => False
      else
        runCount a.sent 0 queue.length = 0 ∨
          (a.sent (runCount a.sent 0 queue.length)).ends = true ∨ a.rollback.ends = true := by
  have hs := hc.stored
  by_cases hm : runCount a.sent 0 queue.length = queue.length
  · obtain ⟨hb, ho, ht⟩ := attempt_running queue a c hm
    rw [hm, take_length, if_neg (fun h => absurd h.1 (lt_irrefl _))] at hw
    have hst : (runStatements a.sent 0 queue (begun a c)).2.stored = c.kept ++ queue := by
      rw [stored, hk, hw]; rfl
    rw [if_pos hm]
    unfold RightTry Whole
    rw [ho, hb, hs]
    generalize a.commit = commit at ht ⊢
    cases commit with
    | done =>
      rw [ht.1, hst]
      exact ⟨fun _ => trivial, fun _ => ⟨⟨fun _ => rfl, fun _ => rfl⟩, fun h => absurd rfl h⟩⟩
    | unanswered =>
      rw [ht.1, hst]
      exact ⟨fun h => (by cases h.1.mpr rfl), False.elim⟩
    | error errNo =>
      have hnot : ¬ c.kept = c.kept ++ queue := fun h => hq (append_left_eq_self.mp h.symm)
      rw [ht.1, hk, stored, ht.2, hw, ht.1, hk]
      change _ ↔ (endsTransaction errNo = true ∨ a.rollback.ends = true)
      rw [← Bool.or_eq_true]
      constructor
      · intro h
        have h' := h.2 hnot
        by_contra hne
        rw [if_neg hne] at h'
        exact hq (append_left_eq_self.mp h')
      · intro h
        refine ⟨⟨fun h' => (by cases h'), fun h' => absurd h' hnot⟩, fun _ => ?_⟩
        rw [if_pos h]
        exact append_nil _
  · obtain ⟨hb, ho, htk, htw⟩ := attempt_failing queue a c hm
    have hlt := lt_of_le_of_ne (runCount_le a.sent queue.length 0) hm
    rw [if_neg hm]
    have hnot : ¬ c.kept = c.kept ++ queue := fun h => hq (append_left_eq_self.mp h.symm)
    unfold RightTry Whole
    rw [hb, hs, stored, htk, hk, htw, hw]
    constructor
    · intro h
      have h' := append_left_eq_self.mp (h.2 hnot)
      by_contra hne
      rw [not_or, not_or] at hne
      rw [if_neg hne.2.2, if_neg (fun h => hne.2.1 h.2)] at h'
      have hnil : queue.take (runCount a.sent 0 queue.length) = [] := h'
      rw [take_eq_nil_iff] at hnil
      exact hnil.elim hne.1 hq
    · intro h
      refine ⟨⟨fun h' => absurd h' ho, fun h' => absurd h' hnot⟩, fun _ => append_left_eq_self.mpr ?_⟩
      obtain h | h | h := h
      · rw [h, take_zero]
        split_ifs <;> rfl
      · have hboth : runCount a.sent 0 queue.length < queue.length ∧
            (a.sent (runCount a.sent 0 queue.length)).ends = true := ⟨hlt, h⟩
        rw [if_pos hboth, ite_self]
        rfl
      · rw [if_pos h]
        rfl

/-- Statements of the attempt took effect outside of a transaction. -/
theorem rightTry_strays {j : Nat} (hj : j < runCount a.sent 0 queue.length ∨ j = 0)
    (hk : (runStatements a.sent 0 queue (begun a c)).2.kept = c.kept ++ (queue.take (runCount a.sent 0 queue.length)).drop j)
    (hw : (runStatements a.sent 0 queue (begun a c)).2.work = none) :
    RightTry queue (attempt queue a c) ↔
      if runCount a.sent 0 queue.length = queue.length then a.commit = .done ∧ j = 0
      else runCount a.sent 0 queue.length = 0 := by
  have hs := hc.stored
  have hle := runCount_le a.sent queue.length 0
  by_cases hm : runCount a.sent 0 queue.length = queue.length
  · obtain ⟨hb, ho, ht⟩ := attempt_running queue a c hm
    rw [hm, take_length] at hk
    have hpos : 0 < queue.length := length_pos_iff.mpr hq
    have hdrop : ¬ c.kept ++ queue.drop j = c.kept := by
      rw [append_left_eq_self, drop_eq_nil_iff]
      omega
    have hwhole : c.kept ++ queue.drop j = c.kept ++ queue ↔ j = 0 := by
      rw [append_cancel_left_eq]
      constructor
      · intro h
        have := congrArg length h
        rw [length_drop] at this
        omega
      · intro h
        rw [h, drop_zero]
    have hst : (runStatements a.sent 0 queue (begun a c)).2.stored = c.kept ++ queue.drop j := by
      rw [stored, hw, hk]
      exact append_nil _
    -- whatever the commit answers, what stands afterwards is what took effect on the way
    have hafter : (attempt queue a c).after.kept = c.kept ++ queue.drop j ∧ (attempt queue a c).after.work = none := by
      generalize a.commit = commit at ht
      cases commit with
      | done => exact ⟨ht.1.trans hst, ht.2⟩
      | unanswered => exact ⟨ht.1.trans hst, ht.2⟩
      | error errNo =>
        refine ⟨ht.1.trans hk, ht.2.trans ?_⟩
        rw [hw]
        exact ite_self none
    rw [if_pos hm]
    unfold RightTry Whole
    rw [ho, hb, hs, stored, hafter.1, hafter.2, hwhole]
    constructor
    · intro h
      have hzero : j = 0 := by
        by_contra hne
        exact hdrop ((append_nil _).symm.trans (h.2 hne))
      exact ⟨h.1.mpr hzero, hzero⟩
    · intro h
      exact ⟨⟨fun _ => h.2, fun _ => h.1⟩, fun hne => absurd h.2 hne⟩
  · obtain ⟨hb, ho, htk, htw⟩ := attempt_failing queue a c hm
    have hnot : ¬ c.kept ++ (queue.take (runCount a.sent 0 queue.length)).drop j = c.kept ++ queue := by
      intro h
      have := congrArg length (append_cancel_left h)
      rw [length_drop, length_take] at this
      omega
    rw [hw, ite_self] at htw
    rw [if_neg hm]
    unfold RightTry Whole
    rw [hb, hs, stored, htk, hk, htw]
    constructor
    · intro h
      have h' := append_left_eq_self.mp ((append_nil _).symm.trans (h.2 hnot))
      rw [drop_eq_nil_iff, length_take] at h'
      omega
    · intro h
      refine ⟨⟨fun h' => absurd h' ho, fun h' => absurd h' hnot⟩, fun _ => ?_⟩
      rw [h, take_zero, drop_nil, append_nil]
      exact append_nil _

/-- An attempt on a clean connection is right exactly when its answers are sound. -/
theorem rightTry_iff : RightTry queue (attempt queue a c) ↔ Sound queue.length a c := by
  have hpos : 0 < queue.length := length_pos_iff.mpr hq
  obtain ⟨ho, hl, hk, hw⟩ | ⟨j, hj, hbefore, hk, hw⟩ := ran_cases queue a hc
  · rw [rightTry_within hq a hc hk hw]
    unfold Sound inTransaction
    rw [ho]
    by_cases hin : (a.sent 0).loses = true
    · -- the first statement lost the connection and failed: nothing ran
      have hzero : runCount a.sent 0 queue.length = 0 := by
        by_contra hne
        rw [hl 0 (Nat.pos_of_ne_zero hne)] at hin
        cases hin
      simp only [hin, hzero]
      simp [Nat.ne_of_lt hpos]
    · rw [Bool.not_eq_true] at hin
      simp only [hin, Bool.not_false, Bool.and_self, if_true]
      exact (and_iff_right hl).symm
  · have hj' : j < runCount a.sent 0 queue.length ∨ j = 0 := hj.imp (fun h => h.1) (fun h => h.1)
    rw [rightTry_strays hq a hc hj' hk hw]
    unfold Sound inTransaction
    obtain ⟨hlt, ho, hloss⟩ | ⟨rfl, ho⟩ := hj
    · rw [ho]
      cases j with
      | zero =>
        rw [hloss]
        simp
      | succ j =>
        rw [hbefore 0 (Nat.succ_pos j)]
        simp only [Bool.not_false, Bool.and_self, if_true]
        constructor
        · intro h
          split_ifs at h
          · cases h.2
          · exact absurd hlt (by rw [h]; exact Nat.not_lt_zero _)
        · intro h
          rw [h.1 (j + 1) hlt] at hloss
          cases hloss
    · rw [ho]
      simp

end

@[simp] theorem attempt_answers (queue : List S) (a : Answers) (c : MySQLConnection S) : (attempt queue a c).answers = a := by
  simp only [attempt]
  split_ifs <;> rfl

@[simp] theorem attempt_before (queue : List S) (a : Answers) (c : MySQLConnection S) : (attempt queue a c).before = c := by
  simp only [attempt]
  split_ifs <;> rfl

/-- What an attempt on a clean connection leaves: statements are waiting only where none took effect. -/
theorem attempt_leaves (hq : queue ≠ []) (a : Answers) (hc : c.Clean) : ∃ xs ws, (attempt queue a c).after.kept = c.kept ++ xs ∧
      (attempt queue a c).after.work.getD [] = ws ∧ (xs = [] ∨ ws = []) ∧
      ((attempt queue a c).outcome = .committed → xs ≠ []) := by
  obtain ⟨ho, hl, hk, hw⟩ | ⟨j, hj, hbefore, hk, hw⟩ := ran_cases queue a hc
  all_goals by_cases hm : runCount a.sent 0 queue.length = queue.length
  · obtain ⟨-, hout, ht⟩ := attempt_running queue a c hm
    rw [hm, take_length, if_neg (fun h => absurd h.1 (lt_irrefl _))] at hw
    have hst : (runStatements a.sent 0 queue (begun a c)).2.stored = c.kept ++ queue := by
      rw [stored, hk, hw]; rfl
    generalize a.commit = commit at ht hout
    cases commit with
    | done => exact ⟨queue, [], ht.1.trans hst, by rw [ht.2]; rfl, .inr rfl, fun _ => hq⟩
    | unanswered => exact ⟨queue, [], ht.1.trans hst, by rw [ht.2]; rfl, .inr rfl, fun _ => hq⟩
    | error errNo =>
      exact ⟨[], _, by rw [ht.1, hk, append_nil], rfl, .inl rfl, fun h => by cases hout.mp h⟩
  · obtain ⟨-, hout, htk, -⟩ := attempt_failing queue a c hm
    exact ⟨[], _, by rw [htk, hk, append_nil], rfl, .inl rfl, fun h => absurd h hout⟩
  · obtain ⟨-, hout, ht⟩ := attempt_running queue a c hm
    have hpos : 0 < queue.length := length_pos_iff.mpr hq
    rw [hm, take_length] at hk
    have hdrop : queue.drop j ≠ [] := by
      rw [Ne, drop_eq_nil_iff]
      omega
    have hst : (runStatements a.sent 0 queue (begun a c)).2.stored = c.kept ++ queue.drop j := by
      rw [stored, hw, hk]
      exact append_nil _
    generalize a.commit = commit at ht
    cases commit with
    | done => exact ⟨_, [], ht.1.trans hst, by rw [ht.2]; rfl, .inr rfl, fun _ => hdrop⟩
    | unanswered => exact ⟨_, [], ht.1.trans hst, by rw [ht.2]; rfl, .inr rfl, fun _ => hdrop⟩
    | error errNo =>
      exact ⟨_, [], ht.1.trans hk, by rw [ht.2, hw, ite_self]; rfl, .inr rfl, fun _ => hdrop⟩
  · obtain ⟨-, hout, htk, htw⟩ := attempt_failing queue a c hm
    exact ⟨_, [], htk.trans hk, by rw [htw, hw, ite_self]; rfl, .inr rfl, fun h => absurd h hout⟩

/-- An attempt that is whole, or that left the database unchanged, leaves the connection clean. -/
theorem attempt_clean (hq : queue ≠ []) (a : Answers) (hc : c.Clean)
    (h : Whole queue (attempt queue a c) ∨ (attempt queue a c).after.stored = c.stored) :
    (attempt queue a c).after.Clean := by
  obtain ⟨xs, ws, hk, hw, hor, -⟩ := attempt_leaves hq a hc
  rw [Clean, hw]
  obtain rfl | rfl := hor
  · rw [append_nil] at hk
    obtain h | h := h
    · rw [Whole, attempt_before, hc.stored, hk] at h
      exact absurd (append_left_eq_self.mp h.symm) hq
    · rw [stored, hk, hw, hc.stored] at h
      exact append_left_eq_self.mp h
  · rfl

end SqlTransaction
end ComfyCraft
