import ComfyCraft.Database.Delay
import Mathlib.Data.List.Nodup

/-! Operations with one serial id go through one worker, so they are executed in the order they were
queued, and each of them once. What a worker has executed of its own, holds, and has in its queue is, in
this order, all that was ever queued for it. -/

namespace ComfyCraft

open List Runs Nat SqlOperation

variable {n : Nat} {P S : Type}

namespace Database

def executedOps (db : Database n P S) : List (SqlOperation P S) := db.executed.map Executed.op

/-- What a worker has taken off a queue and not executed yet. -/
def held (db : Database n P S) (w : Fin n) : List (SqlOperation P S) := (db.threadsBodies w).hand.toList

def mine (w : Fin n) (op : SqlOperation P S) : Bool := serialWorker n op.serialId = some w

def waiting (db : Database n P S) (serialId : UInt32) : List (SqlOperation P S) :=
  (match serialWorker n serialId with
    | some w => db.held w ++ (db.threadsBodies w).serialDelayQueue
    | none => db.delayQueue).filter fun op => op.serialId = serialId

structure InPlace (db : Database n P S) : Prop where
  numbers : db.queued.map SqlOperation.no = List.range db.queued.length
  delayQueue : ∀ op ∈ db.delayQueue, serialWorker n op.serialId = none
  hand : ∀ w, ∀ op ∈ db.held w, serialWorker n op.serialId = none ∨ serialWorker n op.serialId = some w
  order : ∀ w, db.executedOps.filter (mine w) ++ (db.held w).filter (mine w) ++ (db.threadsBodies w).serialDelayQueue =
    db.queued.filter (mine w)
  idle : n = 0 → db.executed = [] ∧ db.delayQueue = db.queued
  gone : ∀ w, (db.threadsBodies w).place = .gone →
    db.up = false ∧ (db.threadsBodies w).serialDelayQueue = [] ∧ (db.threadsBodies w).hand = none
  destroyed : ∀ w, (db.threadsBodies w).destroyed → db.up = false
  attempts : ∀ e ∈ db.executed, e.attempts.count .committed ≤ 1

theorem inPlace_start (n : Nat) (P S : Type) : (start n P S).InPlace where
  numbers := rfl
  delayQueue := by simp [start]
  hand := by simp [start, held]
  order := by simp [start, executedOps, held]
  idle := fun _ => ⟨rfl, rfl⟩
  gone := by simp [start]
  destroyed := by simp [start]
  attempts := by simp [start]

variable {serialId : UInt32} {db : Database n P S} {op b : SqlOperation P S} {w : Fin n} {ops : List (SqlOperation P S)}

theorem serialWorker_of_ne_zero (h0 : serialId ≠ 0) (hn : 0 < n) : ∃ w, serialWorker n serialId = some w := by
  unfold serialWorker
  rw [dif_pos ⟨h0, hn⟩]
  exact ⟨_, rfl⟩

/-- A transaction that ends in a commit made no other. -/
theorem count_attemptsLeft (outcome : Nat → Attempt) (left : Nat) : (attemptsLeft outcome left).count .committed ≤ 1 := by
  induction left with
  | zero => exact zero_le 1
  | succ left ih =>
    unfold attemptsLeft
    simp only
    cases outcome (maxAttempts - left) with
    | committed => simp
    | retryable => simpa using ih
    | failed => simp

theorem count_execute (op : SqlOperation P S) (outcome : Nat → Attempt) : (op.execute outcome).count .committed ≤ 1 := by
  unfold execute
  split_ifs
  · exact zero_le 1
  · exact count_attemptsLeft outcome maxAttempts
  · exact Nat.le_trans count_le_length (Nat.le_refl 1)

theorem InPlace.setTrans [DecidableEq P] (h : db.InPlace) (p : P) (t : Option (UInt32 × List S)) : (db.setTrans p t).InPlace :=
  ⟨h.numbers, h.delayQueue, h.hand, h.order, h.idle, h.gone, h.destroyed, h.attempts⟩

theorem InPlace.addToDelayQueue (h : db.InPlace)
    (hno : op.no = db.queued.length) (hop : serialWorker n op.serialId = none) : (db.addToDelayQueue op).InPlace where
  numbers := by
    change (db.queued ++ [op]).map no = range (db.queued ++ [op]).length
    simp [range_succ, h.numbers, hno]
  delayQueue := by
    intro x hx
    rcases mem_append.1 hx with hx | hx
    · exact h.delayQueue x hx
    · rw [mem_singleton.1 hx]; exact hop
  hand := h.hand
  order := by
    intro w
    have hnot : mine w op = false := by simp [mine, hop]
    have hq : (db.queued ++ [op]).filter (mine w) = db.queued.filter (mine w) := by simp [hnot]
    exact (h.order w).trans hq.symm
  idle := fun hn => ⟨(h.idle hn).1, by rw [show (db.addToDelayQueue op).delayQueue = db.delayQueue ++ [op] from rfl, (h.idle hn).2]; rfl⟩
  gone := h.gone
  destroyed := h.destroyed
  attempts := h.attempts

theorem InPlace.queue (h : db.InPlace) (p : P) (serialId : UInt32) (transaction : Bool)
    (statements : List S) : (db.queue p serialId transaction statements).InPlace := by
  unfold Database.queue
  split_ifs with hup
  · unfold addToSerialDelayQueue
    simp only
    cases hw : serialWorker n serialId with
    | none => exact h.addToDelayQueue rfl hw
    | some w =>
      simp only
      set op : SqlOperation P S := ⟨p, db.queued.length, serialId, transaction, statements⟩ with hop
      have hmine : ∀ w', mine w' op = decide (w' = w) := by
        intro w'
        simp only [mine, hop, hw, Option.some.injEq, eq_comm]
      refine ⟨?_, h.delayQueue, ?_, ?_, ?_, ?_, ?_, h.attempts⟩
      · change (db.queued ++ [op]).map no = range (db.queued ++ [op]).length
        simp [range_succ, h.numbers, hop]
      · intro w' x hx
        by_cases hw' : w' = w
        · subst hw'
          exact h.hand w' x (by simpa [held, setThread] using hx)
        · exact h.hand w' x (by simpa [held, setThread, hw'] using hx)
      · intro w'
        have horder := h.order w'
        by_cases hw' : w' = w
        · subst hw'
          simp only [executedOps, held, setThread, Function.update_self, filter_append] at horder ⊢
          rw [← horder]
          simp [hmine]
        · simp only [executedOps, held, setThread, Function.update_of_ne hw', filter_append] at horder ⊢
          rw [← horder]
          simp [hmine, hw']
      · intro hn
        exact absurd w.isLt (by omega)
      · intro w' hw'
        by_cases hww : w' = w
        · subst hww
          have := (h.gone w' (by simpa [setThread] using hw')).1
          rw [hup] at this
          cases this
        · have := h.gone w' (by simpa [setThread, hww] using hw')
          simpa [setThread, hww] using this
      · intro w' hw'
        by_cases hww : w' = w
        · subst hww
          exact h.destroyed w' (by simpa [setThread] using hw')
        · exact h.destroyed w' (by simpa [setThread, hww] using hw')
  · exact h

/-- A step of a thread that moves no operation. -/
theorem InPlace.setThread {t : SqlDelayThread P S} (h : db.InPlace)
    (hqueue : t.serialDelayQueue = (db.threadsBodies w).serialDelayQueue) (hhand : t.hand = (db.threadsBodies w).hand)
    (hgone : t.place = .gone → db.up = false ∧ t.serialDelayQueue = [] ∧ t.hand = none)
    (hdestroyed : t.destroyed → db.up = false) : (db.setThread w t).InPlace where
  numbers := h.numbers
  delayQueue := h.delayQueue
  hand := by
    intro w' x hx
    by_cases hw' : w' = w
    · subst hw'
      exact h.hand w' x (by simpa [held, setThread, hhand] using hx)
    · exact h.hand w' x (by simpa [held, Database.setThread, hw'] using hx)
  order := by
    intro w'
    have horder := h.order w'
    by_cases hw' : w' = w
    · subst hw'
      simpa [executedOps, held, setThread, hqueue, hhand] using horder
    · simpa [executedOps, held, Database.setThread, hw'] using horder
  idle := h.idle
  gone := by
    intro w' hw'
    by_cases hww : w' = w
    · subst hww
      simpa [setThread] using hgone (by simpa [setThread] using hw')
    · have := h.gone w' (by simpa [Database.setThread, hww] using hw')
      simpa [Database.setThread, hww] using this
  destroyed := by
    intro w' hw'
    by_cases hww : w' = w
    · subst hww
      exact hdestroyed (by simpa [setThread] using hw')
    · exact h.destroyed w' (by simpa [Database.setThread, hww] using hw')
  attempts := h.attempts

section

variable (h : db.InPlace)
include h

/-- A worker takes the first operation off the shared queue. -/
theorem InPlace.takeShared (hq : db.delayQueue = op :: ops) (hhand : (db.threadsBodies w).hand = none)
    (hplace : (db.threadsBodies w).place ≠ .gone) :
    ({ db.setThread w { db.threadsBodies w with hand := some op } with delayQueue := ops } : Database n P S).InPlace := by
  have hop : serialWorker n op.serialId = none := h.delayQueue op (by rw [hq]; exact mem_cons_self)
  refine ⟨h.numbers, ?_, ?_, ?_, ?_, ?_, ?_, h.attempts⟩
  · intro x hx
    exact h.delayQueue x (by rw [hq]; exact mem_cons_of_mem _ hx)
  · intro w' x hx
    by_cases hw' : w' = w
    · subst hw'
      have hx' : x = op := by simpa [held, Database.setThread] using hx
      exact .inl (by rw [hx']; exact hop)
    · exact h.hand w' x (by simpa [held, Database.setThread, hw'] using hx)
  · intro w'
    have horder := h.order w'
    by_cases hw' : w' = w
    · subst hw'
      have hnot : mine w' op = false := by simp [mine, hop]
      simpa [executedOps, held, Database.setThread, hhand, hnot] using horder
    · simpa [executedOps, held, Database.setThread, hw'] using horder
  · intro hn
    exact absurd w.isLt (by omega)
  · intro w' hw'
    by_cases hww : w' = w
    · subst hww
      exact absurd (by simpa [Database.setThread] using hw') hplace
    · have := h.gone w' (by simpa [Database.setThread, hww] using hw')
      simpa [Database.setThread, hww] using this
  · intro w' hw'
    by_cases hww : w' = w
    · subst hww
      exact h.destroyed w' (by simpa [Database.setThread] using hw')
    · exact h.destroyed w' (by simpa [Database.setThread, hww] using hw')

theorem InPlace.takeSerial (hq : (db.threadsBodies w).serialDelayQueue = op :: ops) (hhand : (db.threadsBodies w).hand = none)
    (hplace : (db.threadsBodies w).place ≠ .gone) :
    (db.setThread w { db.threadsBodies w with hand := some op, serialDelayQueue := ops }).InPlace := by
  have hmem : op ∈ db.queued.filter (mine w) := by
    rw [← h.order w, hq]
    simp
  have hop : serialWorker n op.serialId = some w := by simpa [mine] using (mem_filter.1 hmem).2
  refine ⟨h.numbers, h.delayQueue, ?_, ?_, h.idle, ?_, ?_, h.attempts⟩
  · intro w' x hx
    by_cases hw' : w' = w
    · subst hw'
      have hx' : x = op := by simpa [held, Database.setThread] using hx
      exact .inr (by rw [hx']; exact hop)
    · exact h.hand w' x (by simpa [held, Database.setThread, hw'] using hx)
  · intro w'
    have horder := h.order w'
    by_cases hw' : w' = w
    · subst hw'
      have hyes : mine w' op = true := by simp [mine, hop]
      simpa [executedOps, held, Database.setThread, hhand, hq, hyes] using horder
    · simpa [executedOps, held, Database.setThread, hw'] using horder
  · intro w' hw'
    by_cases hww : w' = w
    · subst hww
      exact absurd (by simpa [Database.setThread] using hw') hplace
    · have := h.gone w' (by simpa [Database.setThread, hww] using hw')
      simpa [Database.setThread, hww] using this
  · intro w' hw'
    by_cases hww : w' = w
    · subst hww
      exact h.destroyed w' (by simpa [Database.setThread] using hw')
    · exact h.destroyed w' (by simpa [Database.setThread, hww] using hw')

theorem InPlace.perform (w : Fin n) (outcome : Nat → Attempt) : (db.perform w outcome).InPlace := by
  cases hhand : (db.threadsBodies w).hand with
  | none =>
    unfold Database.perform
    simpa only [hhand] using h
  | some op =>
    rw [perform_hand hhand]
    have hop := h.hand w op (by simp [held, hhand])
    refine ⟨h.numbers, h.delayQueue, ?_, ?_, ?_, ?_, ?_, ?_⟩
    · intro w' x hx
      by_cases hw' : w' = w
      · subst hw'
        simp [held, Database.setThread] at hx
      · exact h.hand w' x (by simpa [held, Database.setThread, hw'] using hx)
    · intro w'
      have horder := h.order w'
      by_cases hw' : w' = w
      · subst hw'
        simpa [executedOps, held, Database.setThread, hhand, filter_append] using horder
      -- the operation is not one of another worker's
      have hnot : mine w' op = false := by
        rcases hop with hop | hop
        · simp [mine, hop]
        · simp [mine, hop, Ne.symm hw']
      simpa [executedOps, held, Database.setThread, hw', hnot, filter_append] using horder
    · intro hn
      exact absurd w.isLt (by omega)
    · intro w' hw'
      by_cases hww : w' = w
      · subst hww
        have hg := h.gone w' (by simpa [Database.setThread] using hw')
        rw [hhand] at hg
        exact absurd hg.2.2 (by simp)
      · have := h.gone w' (by simpa [Database.setThread, hww] using hw')
        simpa [Database.setThread, hww] using this
    · intro w' hw'
      by_cases hww : w' = w
      · subst hww
        exact h.destroyed w' (by simpa [Database.setThread] using hw')
      · exact h.destroyed w' (by simpa [Database.setThread, hww] using hw')
    · intro e he
      rcases mem_append.1 he with he | he
      · exact h.attempts e he
      · rw [mem_singleton.1 he]; exact count_execute op outcome

theorem InPlace.next (w : Fin n) : (db.next w).InPlace := by
  rcases db.next_cases w with heq | ⟨place, heq, hgone⟩ | ⟨op, ops, hhand, hplace, hq, heq⟩ | ⟨op, ops, hhand, hplace, hq, heq⟩
  · rw [heq]; exact h
  · rw [heq]
    refine h.setThread rfl rfl (fun hp => ?_) (h.destroyed w)
    obtain ⟨hd, hq, hhand⟩ := hgone hp
    exact ⟨h.destroyed w hd, hq, hhand⟩
  · rw [heq]
    exact h.takeShared hq hhand (by rw [hplace]; decide)
  · rw [heq]
    exact h.takeSerial hq hhand (by rw [hplace]; decide)

/-- The operations queued with one serial id are those executed, in this order, and then those that wait. -/
theorem InPlace.split (h0 : serialId ≠ 0) : (db.executedOps.filter fun op => op.serialId = serialId) ++ db.waiting serialId =
      db.queued.filter fun op => op.serialId = serialId := by
  rcases Nat.eq_zero_or_pos n with hn | hn
  · obtain ⟨hexecuted, hqueue⟩ := h.idle hn
    have hnone : serialWorker n serialId = none := dif_neg (by omega)
    simp [executedOps, waiting, hexecuted, hqueue, hnone]
  obtain ⟨w, hw⟩ := serialWorker_of_ne_zero h0 hn
  have hsub : ∀ l : List (SqlOperation P S),
      (l.filter (mine w)).filter (fun op => op.serialId = serialId) = l.filter fun op => op.serialId = serialId := by
    intro l
    rw [filter_filter]
    apply filter_congr
    intro op _
    by_cases hop : op.serialId = serialId
    · simp [mine, hop, hw]
    · simp [hop]
  have horder := congrArg (filter fun op => op.serialId = serialId) (h.order w)
  rw [filter_append, filter_append, hsub, hsub, hsub] at horder
  rw [← horder, waiting, hw, filter_append, append_assoc]

theorem InPlace.numbered (serialId : UInt32) :
    (db.queued.filter fun op => op.serialId = serialId).Pairwise fun a b => a.no < b.no := by
  have hall : (db.queued.map no).Pairwise (· < ·) := by rw [h.numbers]; exact pairwise_lt_range
  exact (pairwise_map.1 hall).sublist filter_sublist

theorem InPlace.held_waiting (h0 : b.serialId ≠ 0) (hb : b ∈ db.held w) : ∃ rest, db.waiting b.serialId = b :: rest := by
  obtain ⟨w', hw'⟩ := serialWorker_of_ne_zero h0 (Nat.lt_of_le_of_lt (Nat.zero_le _) w.isLt)
  have hw : w' = w := by
    rcases h.hand w b hb with hnone | hsome
    · rw [hw'] at hnone; cases hnone
    · rw [hw'] at hsome; exact Option.some.inj hsome
  subst hw
  have hhand : db.held w' = [b] := by
    unfold held at hb ⊢
    rw [Option.mem_toList] at hb
    rw [hb]
    rfl
  refine ⟨(db.threadsBodies w').serialDelayQueue.filter fun op => op.serialId = b.serialId, ?_⟩
  unfold waiting
  rw [hw']
  simp [hhand]

theorem InPlace.waiting_gone (h0 : serialId ≠ 0) (hn : 0 < n)
    (hgone : ∀ w, (db.threadsBodies w).place = .gone) : db.waiting serialId = [] := by
  obtain ⟨w, hw⟩ := serialWorker_of_ne_zero h0 hn
  obtain ⟨-, hqueue, hhand⟩ := h.gone w (hgone w)
  simp [waiting, hw, held, hqueue, hhand]

end

theorem pair_sublist {l : List (SqlOperation P S)} {a : SqlOperation P S} (hl : l.Pairwise fun a b => a.no < b.no)
    (ha : a ∈ l) (hb : b ∈ l) (hno : a.no < b.no) : [a, b].Sublist l := by
  obtain ⟨l₁, l₂, rfl⟩ := append_of_mem ha
  rw [pairwise_append] at hl
  rcases mem_append.1 hb with hb | hb
  · have := hl.2.2 b hb a mem_cons_self
    omega
  · rcases mem_cons.1 hb with hb | hb
    · rw [hb] at hno; omega
    · exact ((singleton_sublist.2 hb).cons_cons a).trans (sublist_append_right _ _)

variable [DecidableEq P]

theorem InPlace.step (h : db.InPlace) (a : DbAction n P S) : (db.step a).InPlace := by
  cases a with
  | beginTransaction p serialId =>
    simp only [Database.step]
    split_ifs
    · exact h
    · exact h.setTrans _ _
  | execute p statement =>
    simp only [Database.step]
    cases ht : db.transStorage p with
    | some t => simpa only [ht] using h.setTrans _ _
    | none => simpa only [ht] using h.queue _ _ _ _
  | commitTransaction p =>
    simp only [Database.step]
    cases ht : db.transStorage p with
    | some t => simpa only [ht] using (h.setTrans p none).queue _ _ _ _
    | none => simpa only [ht] using h
  | rollbackTransaction p => exact h.setTrans _ _
  | asyncQuery p query => exact h.queue _ _ _ _
  | delayQueryHolder p serialId queries => exact h.queue _ _ _ _
  | wake w =>
    simp only [Database.step, Database.wake]
    split_ifs
    · exact h.setThread rfl rfl (by simp) (h.destroyed w)
    · exact h
  | next w => exact h.next w
  | perform w outcome => exact h.perform w outcome
  | stop w => exact h.setThread rfl rfl (h.gone w) (h.destroyed w)
  | join =>
    simp only [Database.step, Database.join]
    split_ifs
    · exact ⟨h.numbers, h.delayQueue, h.hand, h.order, h.idle, fun w hw => ⟨rfl, (h.gone w hw).2⟩, fun _ _ => rfl, h.attempts⟩
    · exact h
  | destroy w =>
    simp only [Database.step, Database.destroy]
    split_ifs with hup
    · exact h.setThread rfl rfl (by simp) (fun _ => hup.1)
    · exact h

theorem inPlace_run (as : List (DbAction n P S)) : (Runs.run step (start n P S) as).InPlace := by
  have hadmitted : Admitted step (fun _ _ => True) (start n P S) as := admitted_of_forall (fun _ _ => trivial) _ _
  exact invariant (fun _ a h _ => h.step a) (inPlace_start n P S) hadmitted

/-- Two operations that one producer queued with one serial id: each is executed, or still waits, once; the
later one is not even taken up before the earlier one is executed; and no worker is deleted before it
has executed both. -/
theorem serial_ops_in_order [DecidableEq S] (as : List (DbAction n P S)) {a b : SqlOperation P S}
    (ha : a ∈ (Runs.run step (start n P S) as).queued) (hb : b ∈ (Runs.run step (start n P S) as).queued)
    (hproducer : a.producer = b.producer) (hid : a.serialId = b.serialId) (h0 : a.serialId ≠ 0) (hno : a.no < b.no) :
    let db := run step (start n P S) as
    (∀ op ∈ [a, b], db.executedOps.count op + (db.waiting a.serialId).count op = 1) ∧
    ((b ∈ db.executedOps ∨ ∃ w, b ∈ db.held w) → a ∈ db.executedOps) ∧
    (b ∈ db.executedOps → [a, b].Sublist db.executedOps) ∧
    (∀ e ∈ db.executed, e.attempts.count .committed ≤ 1) ∧
    (0 < n → (∀ w, (db.threadsBodies w).place = .gone) → a ∈ db.executedOps ∧ b ∈ db.executedOps) := by
  intro db
  have h : db.InPlace := inPlace_run as
  have hsplit := h.split h0
  have hsorted := h.numbered a.serialId
  have hnodup : (db.queued.filter fun op => op.serialId = a.serialId).Nodup :=
    hsorted.imp fun hlt heq => by rw [heq] at hlt; omega
  have hmem : ∀ op ∈ [a, b], op ∈ db.queued ∧ op.serialId = a.serialId := by
    intro op hop
    rcases mem_cons.1 hop with rfl | hop
    · exact ⟨ha, rfl⟩
    · rw [mem_singleton.1 hop]; exact ⟨hb, hid.symm⟩
  have hsame : ∀ op ∈ [a, b], op ∈ db.executedOps ↔ op ∈ db.executedOps.filter fun op => op.serialId = a.serialId :=
    fun op hop => by simp [mem_filter, (hmem op hop).2]
  have ha2 := mem_cons_self (a := a) (l := [b])
  have hb2 := mem_cons_of_mem a (mem_singleton_self b)
  rw [← hsplit, pairwise_append] at hsorted
  -- what is executed or comes first among the waiting leaves the earlier operation no other place
  have hearlier : ∀ rest, db.waiting a.serialId = b :: rest ∨ b ∈ db.executedOps → a ∈ db.executedOps := by
    intro rest hcase
    have hin : a ∈ db.queued.filter fun op => op.serialId = a.serialId := mem_filter.2 ⟨ha, by simp⟩
    rw [← hsplit] at hin
    rcases mem_append.1 hin with hin | hin
    · exact (hsame a ha2).2 hin
    exfalso
    rcases hcase with hwait | hexecuted
    · rw [hwait] at hin hsorted
      rcases mem_cons.1 hin with heq | hin
      · rw [heq] at hno; omega
      · have := (pairwise_cons.1 hsorted.2.1).1 a hin
        omega
    · have := hsorted.2.2 b ((hsame b hb2).1 hexecuted) a hin
      omega
  refine ⟨?_, ?_, ?_, h.attempts, ?_⟩
  · intro op hop
    have hcount : (db.executedOps.filter fun op => op.serialId = a.serialId).count op = db.executedOps.count op :=
      count_filter (by simp [(hmem op hop).2])
    rw [← hcount, ← count_append, hsplit]
    exact count_eq_one_of_mem hnodup (mem_filter.2 ⟨(hmem op hop).1, by simp [(hmem op hop).2]⟩)
  · rintro (hexecuted | ⟨w, hheld⟩)
    · exact hearlier [] (.inr hexecuted)
    obtain ⟨rest, hrest⟩ := h.held_waiting (by rw [← hid]; exact h0) hheld
    rw [← hid] at hrest
    exact hearlier rest (.inl hrest)
  · intro hexecuted
    have haexecuted := hearlier [] (.inr hexecuted)
    exact (pair_sublist hsorted.1 ((hsame a ha2).1 haexecuted) ((hsame b hb2).1 hexecuted) hno).trans filter_sublist
  · intro hn hgone
    have hwaiting := h.waiting_gone h0 hn hgone
    have hall : ∀ op ∈ [a, b], op ∈ db.executedOps := by
      intro op hop
      rw [hsame op hop]
      have hin : op ∈ db.queued.filter fun op => op.serialId = a.serialId :=
        mem_filter.2 ⟨(hmem op hop).1, by simp [(hmem op hop).2]⟩
      rw [← hsplit, hwaiting, append_nil] at hin
      exact hin
    exact ⟨hall a ha2, hall b hb2⟩

/-- Two transactions with serial id 5 of two workers, both executed by the second. -/
def serialSample : List (DbAction 2 Unit Nat) :=
  let first : Fin 2 := ⟨0, Nat.two_pos⟩
  let second : Fin 2 := ⟨1, Nat.one_lt_two⟩
  [.beginTransaction () 5, .execute () 1, .commitTransaction (), .execute () 7, .delayQueryHolder () 5 [2], .wake first, .wake second,
    .next second, .perform second (fun _ => .committed), .next second, .next second, .next second,
    .perform second (fun n => if n < 3 then .retryable else .committed), .next second]

theorem serial_ops_in_order_sample :
    (⟨(), 0, 5, true, [1]⟩ : SqlOperation Unit Nat) ∈ (Runs.run step (start 2 Unit Nat) serialSample).executedOps := by
  have h := serial_ops_in_order serialSample (a := ⟨(), 0, 5, true, [1]⟩) (b := ⟨(), 2, 5, false, [2]⟩) (by decide) (by decide)
    rfl rfl (by decide) (by decide)
  exact h.2.1 (.inr ⟨1, by decide⟩)

end Database

end ComfyCraft
