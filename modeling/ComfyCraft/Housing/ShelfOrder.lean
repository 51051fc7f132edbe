import ComfyCraft.Database.Settle
import ComfyCraft.Housing.Shelf

/-! The rows of the furniture storage under several workers. Requests queue statements that name no
serial id, so any worker may take them, and what one worker holds is executed whenever its thread goes on.
Requests that keep away from the squares still being written leave rows that equal the shelves. -/

namespace ComfyCraft

open List Runs Database Writes HouseMgr

variable {om : ObjectMgr} {F : Type} {sv : Server F} {ι : Type} {n : Nat}

/-- The players, the manager, the delay threads and the rows of `house_storage`. -/
structure ShelfServer (om : ObjectMgr) {F : Type} (sv : Server F) (ι : Type) (n : Nat) where
  players : ι → Player om
  mgr : HouseMgr sv
  db : Database n Unit StorageStmt
  rows : StorageRows

inductive ShelfRequest
  | deposit (itemEntry slot : UInt32)
  | depositAll
  | withdraw (slot : UInt32)
  | move (from_ to_ : UInt32)

def ShelfRequest.handle (w : HouseWorld om sv) (p : Visitor F) : ShelfRequest → HouseWorld om sv
  | .deposit itemEntry slot => (HouseMgr.storageDeposit w p itemEntry slot).2
  | .depositAll => (HouseMgr.storageDepositAll w p).2.2
  | .withdraw slot => (HouseMgr.storageWithdraw w p slot).2
  | .move from_ to_ => { w with mgr := (w.mgr.storageMove p from_ to_).2 }

/-- A request of a player, or a step of a thread; the database carries out what a worker executes. -/
inductive ShelfStep (ι F : Type) (n : Nat)
  | request (i : ι) (p : Visitor F) (r : ShelfRequest)
  | wake (w : Fin n)
  | next (w : Fin n)
  | perform (w : Fin n)
  | stop (w : Fin n)
  | join
  | destroy (w : Fin n)

namespace ShelfServer

def opsOf [DecidableEq ι] (s : ShelfServer om sv ι n) (i : ι) (p : Visitor F) (r : ShelfRequest) : List (Bool × List StorageStmt) :=
  (r.handle ⟨s.players i, s.mgr⟩ p).mgr.db.storageOps.drop s.mgr.db.storageOps.length

def step [DecidableEq ι] (s : ShelfServer om sv ι n) : ShelfStep ι F n → ShelfServer om sv ι n
  | .request i p r =>
    if s.db.up then
      let w := r.handle ⟨s.players i, s.mgr⟩ p
      { s with players := Function.update s.players i w.player, mgr := w.mgr, db := s.db.queueAll (s.opsOf i p r) }
    else s
  | .wake w => { s with db := s.db.wake w }
  | .next w => { s with db := s.db.next w }
  | .perform w =>
    match (s.db.threadsBodies w).hand with
    | none => s
    | some op => { s with db := s.db.perform w (fun _ => .committed), rows := carryOut s.rows op.statements }
  | .stop w => { s with db := s.db.stop w }
  | .join => { s with db := s.db.join }
  | .destroy w => { s with db := s.db.destroy w }

/-- The server after `LoadStorage`. -/
def started (players : ι → Player om) (mgr : HouseMgr sv) (rows : StorageRows) (n : Nat) : ShelfServer om sv ι n :=
  ⟨players, mgr, Database.start n Unit StorageStmt, rows⟩

/-- With one worker every request is in order; with several, one that writes only squares that nothing
pending writes, each of them once. -/
def InOrder [DecidableEq ι] (s : ShelfServer om sv ι n) : ShelfStep ι F n → Prop
  | .request i p r =>
    n ≤ 1 ∨ (s.db.pending.map (fun op => opWrites op.statements) ++ (s.opsOf i p r).map fun op => opWrites op.2).Pairwise Writes.Apart
  | _ => True

def rowsInOrder (rows : StorageRows) (db : Database n Unit StorageStmt) : StorageRows :=
  db.queued.foldl (fun t op => carryOut t op.statements) rows

/-- The statements of the pending operations, in the order in which one worker would execute them. -/
def pendingWrites (db : Database n Unit StorageStmt) : List (List (Square × Option UInt32)) :=
  db.pending.map fun op => opWrites op.statements

structure Settling (rows : StorageRows) (s : ShelfServer om sv ι n) : Prop where
  serial : ∀ w, (s.db.threadsBodies w).serialDelayQueue = []
  sound : ∀ op ∈ s.db.pending, Sound op.statements
  apart : n ≤ 1 ∨ (pendingWrites s.db).Pairwise Writes.Apart
  shelves : (pendingWrites s.db).foldl Writes.write (entryAt s.rows) = s.mgr.shelves
  inOrder : entryAt (rowsInOrder rows s.db) = s.mgr.shelves

variable {rows : StorageRows} {s : ShelfServer om sv ι n} {w : Fin n}

/-- Steps that leave the pending operations what they are, if perhaps in another order. -/
theorem Settling.reorder {db : Database n Unit StorageStmt} (h : s.Settling rows)
    (hserial : ∀ w, (db.threadsBodies w).serialDelayQueue = []) (hpending : db.pending.Perm s.db.pending)
    (hone : n ≤ 1 → db.pending = s.db.pending) (hqueued : db.queued = s.db.queued) :
    ({ s with db := db } : ShelfServer om sv ι n).Settling rows := by
  have hwrites : (pendingWrites db).Perm (pendingWrites s.db) := hpending.map _
  refine ⟨hserial, fun op hop => h.sound op (hpending.subset hop), ?_, ?_, ?_⟩
  · rcases h.apart with hn | hapart
    · exact .inl hn
    · exact .inr ((hwrites.pairwise_iff fun hab => symm hab).2 hapart)
  · refine Eq.trans ?_ h.shelves
    rcases h.apart with hn | hapart
    · unfold pendingWrites; rw [hone hn]
    · exact (foldl_write_perm hapart hwrites.symm _).symm
  · unfold rowsInOrder; rw [hqueued]; exact h.inOrder

theorem Settling.setThread (h : s.Settling rows)
    {t : SqlDelayThread Unit StorageStmt} (hqueue : t.serialDelayQueue = (s.db.threadsBodies w).serialDelayQueue)
    (hhand : t.hand = (s.db.threadsBodies w).hand) :
    ({ s with db := s.db.setThread w t } : ShelfServer om sv ι n).Settling rows := by
  have hthread : ∀ w', ((s.db.setThread w t).threadsBodies w').serialDelayQueue = (s.db.threadsBodies w').serialDelayQueue ∧
      (s.db.setThread w t).held w' = s.db.held w' := by
    intro w'
    by_cases hw' : w' = w
    · subst hw'
      simp [setThread, held, hqueue, hhand]
    · simp [Database.setThread, Database.held, hw']
  have hpending : (s.db.setThread w t).pending = s.db.pending := by
    unfold pending
    rw [funext fun w' => (hthread w').2]
    rfl
  apply h.reorder
  · intro w'
    rw [(hthread w').1]
    exact h.serial w'
  · rw [hpending]
  · exact fun _ => hpending
  · rfl

theorem Settling.next (h : s.Settling rows) (w : Fin n) :
    ({ s with db := s.db.next w } : ShelfServer om sv ι n).Settling rows := by
  rcases s.db.next_cases w with heq | ⟨place, heq, -⟩ | ⟨op, ops, hhand, hplace, hq, heq⟩ | ⟨op, ops, hhand, hplace, hq, heq⟩
  · rw [heq]; exact h
  · rw [heq]
    exact h.setThread rfl rfl
  · rw [heq]
    set db' : Database n Unit StorageStmt :=
      { s.db.setThread w { s.db.threadsBodies w with hand := some op } with delayQueue := ops } with hdb'
    have hperm := held_perm s.db db' w op (by intro w' hw'; simp [hdb', Database.held, Database.setThread, hw'])
      (by simp [Database.held, hhand]) (by simp [hdb', Database.held, Database.setThread])
    apply h.reorder
    · intro w'
      by_cases hw' : w' = w
      · subst hw'
        simpa [hdb', Database.setThread] using h.serial w'
      · simpa [hdb', Database.setThread, hw'] using h.serial w'
    · unfold pending
      rw [hq]
      exact (hperm.1.append_right ops).trans perm_middle.symm
    · intro hn
      obtain ⟨hbefore, hafter⟩ := hperm.2 hn
      unfold pending
      rw [hbefore, hafter, hq]
      rfl
    · rfl
  · rw [h.serial w] at hq
    cases hq

/-- The operation a worker executes may be thought of as the first that was pending. -/
theorem Settling.perform (h : s.Settling rows)
    {op : SqlOperation Unit StorageStmt} (hhand : (s.db.threadsBodies w).hand = some op) :
    ({ s with db := s.db.perform w (fun _ => .committed), rows := carryOut s.rows op.statements } : ShelfServer om sv ι n).Settling
      rows := by
  rw [perform_hand hhand]
  set db' : Database n Unit StorageStmt := { s.db.setThread w { s.db.threadsBodies w with hand := none } with
    executed := s.db.executed ++ [⟨op, op.execute fun _ => .committed⟩] } with hdb'
  have hperm := held_perm db' s.db w op (by intro w' hw'; simp [hdb', Database.held, Database.setThread, hw'])
    (by simp [hdb', Database.held, Database.setThread]) (by simp [Database.held, hhand])
  have hpending : s.db.pending.Perm (op :: db'.pending) := hperm.1.append_right s.db.delayQueue
  have hwrites : (pendingWrites s.db).Perm (opWrites op.statements :: pendingWrites db') := hpending.map _
  have hop : Sound op.statements := h.sound op (hpending.symm.subset mem_cons_self)
  refine ⟨?_, fun x hx => h.sound x (hpending.symm.subset (mem_cons_of_mem _ hx)), ?_, ?_, h.inOrder⟩
  · intro w'
    by_cases hw' : w' = w
    · subst hw'
      simpa [hdb', Database.setThread] using h.serial w'
    · simpa [hdb', Database.setThread, hw'] using h.serial w'
  · rcases h.apart with hn | hapart
    · exact .inl hn
    · exact .inr (pairwise_cons.1 ((hwrites.pairwise_iff fun hab => symm hab).1 hapart)).2
  · change (pendingWrites db').foldl write (entryAt (carryOut s.rows op.statements)) = s.mgr.shelves
    rw [hop s.rows, ← h.shelves]
    rcases h.apart with hn | hapart
    · obtain ⟨hafter, hbefore⟩ := hperm.2 hn
      have hafter' : db'.pending = s.db.delayQueue := by
        unfold pending
        rw [hafter]
        rfl
      unfold pendingWrites
      rw [hafter']
      unfold pending
      rw [hbefore]
      rfl
    · exact (foldl_write_perm hapart hwrites _).symm

theorem queues_handle (w : HouseWorld om sv) (p : Visitor F) (r : ShelfRequest) :
    ∃ ops, HouseMgr.Queues w.mgr (r.handle w p).mgr ops := by
  cases r with
  | deposit itemEntry slot => exact queues_storageDeposit w p itemEntry slot
  | depositAll => exact queues_storageDepositAll w p
  | withdraw slot => exact queues_storageWithdraw w p slot
  | move from_ to_ => exact queues_storageMove w.mgr p from_ to_

theorem foldl_sound {stmts : List (List StorageStmt)} (h : ∀ op ∈ stmts, Sound op) (t : StorageRows) :
    entryAt (stmts.foldl carryOut t) = (stmts.map opWrites).foldl Writes.write (entryAt t) := by
  induction stmts generalizing t with
  | nil => rfl
  | cons op stmts ih =>
    rw [foldl_cons, map_cons, foldl_cons, ← h op mem_cons_self t]
    exact ih (fun x hx => h x (mem_cons_of_mem _ hx)) _

variable [DecidableEq ι]

theorem Settling.request (h : s.Settling rows) {i : ι} {p : Visitor F}
    {r : ShelfRequest} (hok : s.InOrder (.request i p r)) : (s.step (.request i p r)).Settling rows := by
  unfold ShelfServer.step
  simp only
  split_ifs with hup
  · obtain ⟨ops, hops⟩ := queues_handle ⟨s.players i, s.mgr⟩ p r
    have hnew : s.opsOf i p r = ops := by
      unfold opsOf
      rw [hops.queued]
      exact drop_left
    simp only [InOrder, hnew] at hok
    rw [hnew]
    obtain ⟨hthreads, new, hpending, hqueued, hstatements⟩ := s.db.pending_queueAll ops hup
    have hwrites : new.map (fun op => opWrites op.statements) = ops.map fun op => opWrites op.2 := by
      have := congrArg (map opWrites) hstatements
      simpa only [map_map, Function.comp_def] using this
    have hall : pendingWrites (s.db.queueAll ops) = pendingWrites s.db ++ ops.map fun op => opWrites op.2 := by
      unfold pendingWrites
      rw [hpending, map_append, hwrites]
    refine ⟨fun w => ?_, ?_, ?_, ?_, ?_⟩
    · simp only [hthreads w]
      exact h.serial w
    · intro op hop
      simp only at hop
      rw [hpending] at hop
      rcases mem_append.1 hop with hop | hop
      · exact h.sound op hop
      have hin : op.statements ∈ ops.map Prod.snd := by rw [← hstatements]; exact mem_map_of_mem hop
      obtain ⟨op', hop', heq⟩ := mem_map.1 hin
      rw [← heq]
      exact hops.sound op' hop'
    · simp only [hall]
      exact hok
    · simp only [hall]
      rw [foldl_append, h.shelves, ← hops.shelves]
    · have hsound : ∀ op ∈ new.map SqlOperation.statements, Sound op := by
        rw [hstatements]
        intro op hop
        obtain ⟨op', hop', heq⟩ := mem_map.1 hop
        rw [← heq]
        exact hops.sound op' hop'
      have hfold := foldl_sound hsound (rowsInOrder rows s.db)
      rw [foldl_map] at hfold
      unfold rowsInOrder at hfold ⊢
      simp only [hqueued, foldl_append]
      rw [hfold, map_map, hops.shelves]
      have hstart := h.inOrder
      unfold rowsInOrder at hstart
      rw [hstart, ← hwrites]
      rfl
  · exact h

theorem Settling.step (h : s.Settling rows) (a : ShelfStep ι F n) (hok : s.InOrder a) : (s.step a).Settling rows := by
  cases a with
  | request i p r => exact h.request hok
  | wake w =>
    simp only [ShelfServer.step, wake]
    split_ifs
    · exact h.setThread rfl rfl
    · exact h
  | next w => exact h.next w
  | perform w =>
    simp only [ShelfServer.step]
    cases hhand : (s.db.threadsBodies w).hand with
    | none => exact h
    | some op => exact h.perform hhand
  | stop w => exact h.setThread rfl rfl
  | join =>
    simp only [ShelfServer.step, join]
    split_ifs
    · exact ⟨h.serial, h.sound, h.apart, h.shelves, h.inOrder⟩
    · exact h
  | destroy w =>
    simp only [ShelfServer.step, destroy]
    split_ifs
    · exact h.setThread rfl rfl
    · exact h

end ShelfServer

end ComfyCraft
