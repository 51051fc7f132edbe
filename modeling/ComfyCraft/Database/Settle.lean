import ComfyCraft.Database.Serial
import Mathlib.Data.List.Pairwise
import Mathlib.Data.List.Perm.Basic

/-! Statements that name no serial id: any worker may take them, and what one worker holds is executed
whenever its thread goes on. With one worker they are executed as they were queued; with several, in any
order, which makes no difference to operations that commute. -/

namespace ComfyCraft

open List Std.Symm SqlOperation

variable {n : Nat}

inductive ThreadAction (n : Nat)
  | wake (w : Fin n)
  | next (w : Fin n)
  | perform (w : Fin n)
  | stop (w : Fin n)
  | join
  | destroy (w : Fin n)

namespace Database

variable {P S D : Type}

/-- What is queued or held by a worker, in the order in which one worker would execute it. -/
def pending (db : Database n P S) : List (SqlOperation P S) := (List.finRange n).flatMap db.held ++ db.delayQueue

def queueAll (db : Database n Unit S) (ops : List (Bool × List S)) : Database n Unit S :=
  ops.foldl (fun db op => db.queue () 0 op.1 op.2) db

def thread (db : Database n P S) : ThreadAction n → Database n P S × List S
  | .wake w => (db.wake w, [])
  | .next w => (db.next w, [])
  | .perform w => (db.perform w (fun _ => .committed), ((db.held w).flatMap SqlOperation.statements))
  | .stop w => (db.stop w, [])
  | .join => (db.join, [])
  | .destroy w => (db.destroy w, [])

/-- One worker's share of a list that grows from nothing to one element. -/
theorem flatMap_perm {α : Type} {l : List (Fin n)} (hl : l.Nodup) {w : Fin n} (hw : w ∈ l) {f g : Fin n → List α} {x : α}
    (hother : ∀ w', w' ≠ w → g w' = f w') (hf : f w = []) (hg : g w = [x]) : (l.flatMap g).Perm (x :: l.flatMap f) := by
  induction l with
  | nil => cases hw
  | cons a l ih =>
    obtain ⟨ha, hl⟩ := nodup_cons.1 hl
    rw [flatMap_cons, flatMap_cons]
    rcases mem_cons.1 hw with rfl | hw
    · have hmap : l.map g = l.map f := map_congr_left fun w' hw' => hother w' fun heq => ha (heq ▸ hw')
      have hsame : l.flatMap g = l.flatMap f := congrArg flatten hmap
      rw [hf, hg, hsame]
      exact List.Perm.refl _
    · have hne : a ≠ w := fun heq => ha (heq ▸ hw)
      rw [hother a hne]
      exact ((ih hl hw).append_left (f a)).trans perm_middle

/-- Between two states one worker gets an operation into its hand. -/
theorem held_perm (db db' : Database n P S) (w : Fin n) (op : SqlOperation P S) (hother : ∀ w', w' ≠ w → db'.held w' = db.held w')
    (hempty : db.held w = []) (hheld : db'.held w = [op]) :
    ((List.finRange n).flatMap db'.held).Perm (op :: (List.finRange n).flatMap db.held) ∧
      (n ≤ 1 → (List.finRange n).flatMap db.held = [] ∧ (List.finRange n).flatMap db'.held = [op]) := by
  refine ⟨flatMap_perm (nodup_finRange n) (mem_finRange w) hother hempty hheld, fun hn => ?_⟩
  have hone : n = 1 := by have := w.isLt; omega
  subst hone
  have hw : w = 0 := Subsingleton.elim _ _
  subst hw
  simp [finRange_succ, hempty, hheld]

theorem pending_queue (db : Database n P S) (p : P) (transaction : Bool) (statements : List S) (hup : db.up = true) :
    (db.queue p 0 transaction statements).pending = db.pending ++ [⟨p, db.queued.length, 0, transaction, statements⟩] := by
  unfold queue addToSerialDelayQueue
  rw [if_pos hup]
  have hnone : serialWorker n 0 = none := dif_neg (by simp)
  simp only [hnone]
  change (finRange n).flatMap db.held ++ (db.delayQueue ++ [_]) = _
  rw [pending, append_assoc]

theorem pending_queueAll (db : Database n Unit S) (ops : List (Bool × List S)) (hup : db.up = true) :
    (∀ w, ((db.queueAll ops).threadsBodies w) = db.threadsBodies w) ∧
    (∃ new : List (SqlOperation Unit S), (db.queueAll ops).pending = db.pending ++ new ∧
      (db.queueAll ops).queued = db.queued ++ new ∧ new.map SqlOperation.statements = ops.map Prod.snd) := by
  induction ops generalizing db with
  | nil => exact ⟨fun _ => rfl, [], (append_nil _).symm, (append_nil _).symm, rfl⟩
  | cons op ops ih =>
    have hqueue : db.queue () 0 op.1 op.2 = db.addToDelayQueue ⟨(), db.queued.length, 0, op.1, op.2⟩ := by
      unfold queue addToSerialDelayQueue
      rw [if_pos hup]
      have hnone : serialWorker n 0 = none := dif_neg (by simp)
      simp only [hnone]
    have hpending := pending_queue db () op.1 op.2 hup
    obtain ⟨hthreads, new, hp, hq, hstatements⟩ := ih (db.queue () 0 op.1 op.2) (by rw [hqueue]; exact hup)
    refine ⟨fun w => ?_, ⟨(), db.queued.length, 0, op.1, op.2⟩ :: new, ?_, ?_, ?_⟩
    · refine (hthreads w).trans ?_
      rw [hqueue]
      rfl
    · refine hp.trans ?_
      rw [hpending, append_assoc]
      rfl
    · refine hq.trans ?_
      rw [hqueue]
      exact append_assoc _ [_] _
    · rw [map_cons, map_cons, hstatements]

/-- Every two statements of two operations are related. -/
def Apart (R : S → S → Prop) (a b : List S) : Prop := ∀ s ∈ a, ∀ t ∈ b, R s t

instance Apart.decide (R : S → S → Prop) [DecidableRel R] (a b : List S) : Decidable (Apart R a b) :=
  inferInstanceAs (Decidable (∀ s ∈ a, ∀ t ∈ b, R s t))

def pendingStatements (db : Database n P S) : List (List S) := db.pending.map SqlOperation.statements

/-- Executing all that is pending takes the rows to what they should be, in whatever order the workers
get to it. -/
structure Settles (act : D → S → D) (R : S → S → Prop) (db : Database n P S) (d goal : D) : Prop where
  serial : ∀ w, (db.threadsBodies w).serialDelayQueue = []
  apart : n ≤ 1 ∨ db.pendingStatements.Pairwise (Apart R)
  goal : db.pendingStatements.foldl (fun d ss => ss.foldl act d) d = goal

section commuting
variable {act : D → S → D} {R : S → S → Prop} (hR : ∀ s t, R s t → ∀ d, act (act d s) t = act (act d t) s)
include hR

theorem foldl_statement_comm {s : S} {ss : List S} (h : ∀ t ∈ ss, R s t) (d : D) : ss.foldl act (act d s) = act (ss.foldl act d) s := by
  induction ss generalizing d with
  | nil => rfl
  | cons t ss ih =>
    rw [foldl_cons, foldl_cons, hR s t (h t mem_cons_self) d]
    exact ih (fun u hu => h u (mem_cons_of_mem _ hu)) _

theorem foldl_comm {a b : List S} (h : Apart R a b) (d : D) : b.foldl act (a.foldl act d) = a.foldl act (b.foldl act d) := by
  induction a generalizing d with
  | nil => rfl
  | cons s a ih =>
    rw [foldl_cons, foldl_cons, ← foldl_statement_comm hR (h s mem_cons_self)]
    exact ih (fun u hu => h u (mem_cons_of_mem _ hu)) _

/-- What is executed at once goes before all that is pending and commutes with it. -/
theorem foldl_ops_comm {a : List S} {ops : List (List S)} (h : ∀ b ∈ ops, Apart R a b) (d : D) :
    ops.foldl (fun d ss => ss.foldl act d) (a.foldl act d) = a.foldl act (ops.foldl (fun d ss => ss.foldl act d) d) := by
  induction ops generalizing d with
  | nil => rfl
  | cons b ops ih =>
    rw [foldl_cons, foldl_cons, foldl_comm hR (h b mem_cons_self)]
    exact ih (fun c hc => h c (mem_cons_of_mem _ hc)) _

theorem foldl_ops_perm [Std.Symm R] {l l' : List (List S)} (hl : l.Pairwise (Apart R)) (hp : l.Perm l') (d : D) :
    l.foldl (fun d ss => ss.foldl act d) d = l'.foldl (fun d ss => ss.foldl act d) d := by
  have hsymm : Std.Symm (Apart R) := ⟨fun _ _ h s hs t ht => symm _ _ (h t ht s hs)⟩
  apply hp.foldl_eq'
  intro a ha b hb d
  rcases eq_or_ne a b with rfl | hne
  · rfl
  · exact foldl_comm hR (hl.forall ha hb hne) d

end commuting

section settles
variable {act : D → S → D} {R : S → S → Prop} {db db' : Database n P S} {d goal : D}

theorem Settles.same (h : db.Settles act R d goal) (hserial : ∀ w, (db'.threadsBodies w).serialDelayQueue = (db.threadsBodies w).serialDelayQueue)
    (hpending : db'.pending = db.pending) : db'.Settles act R d goal := by
  have hsame : db'.pendingStatements = db.pendingStatements := congrArg (map statements) hpending
  refine ⟨fun w => (hserial w).trans (h.serial w), ?_, ?_⟩
  · rw [hsame]
    exact h.apart
  · rw [hsame]
    exact h.goal

theorem Settles.setThread (h : db.Settles act R d goal) {w : Fin n} {t : SqlDelayThread P S}
    (hqueue : t.serialDelayQueue = (db.threadsBodies w).serialDelayQueue) (hhand : t.hand = (db.threadsBodies w).hand) :
    (db.setThread w t).Settles act R d goal := by
  have hthread : ∀ w', ((db.setThread w t).threadsBodies w').serialDelayQueue = (db.threadsBodies w').serialDelayQueue ∧
      (db.setThread w t).held w' = db.held w' := by
    intro w'
    by_cases hw' : w' = w
    · subst hw'
      simp [Database.setThread, held, hqueue, hhand]
    · simp [Database.setThread, held, hw']
  apply h.same fun w' => (hthread w').1
  unfold pending
  rw [funext fun w' => (hthread w').2]
  rfl

theorem Settles.queueAll {db : Database n Unit S} (h : db.Settles act R d goal) (hup : db.up = true) {ops : List (Bool × List S)}
    (hapart : n ≤ 1 ∨ (db.pendingStatements ++ ops.map Prod.snd).Pairwise (Apart R)) :
    (db.queueAll ops).Settles act R d ((ops.map Prod.snd).foldl (fun d ss => ss.foldl act d) goal) := by
  obtain ⟨hthreads, new, hpending, -, hstatements⟩ := db.pending_queueAll ops hup
  have hall : (db.queueAll ops).pendingStatements = db.pendingStatements ++ ops.map Prod.snd := by
    unfold pendingStatements
    rw [hpending, map_append, hstatements]
  refine ⟨fun w => ?_, ?_, ?_⟩
  · rw [hthreads w]
    exact h.serial w
  · rw [hall]
    exact hapart
  · rw [hall, foldl_append, h.goal]

variable (hR : ∀ s t, R s t → ∀ d, act (act d s) t = act (act d t) s)
include hR

theorem Settles.direct (h : db.Settles act R d goal) {ss : List S} (hapart : ∀ b ∈ db.pendingStatements, Apart R ss b) :
    db.Settles act R (ss.foldl act d) (ss.foldl act goal) :=
  ⟨h.serial, h.apart, by rw [foldl_ops_comm hR hapart, h.goal]⟩

variable [Std.Symm R]

section

variable (h : db.Settles act R d goal)
include h

theorem Settles.reorder (hserial : ∀ w, (db'.threadsBodies w).serialDelayQueue = [])
    (hpending : db'.pending.Perm db.pending) (hone : n ≤ 1 → db'.pending = db.pending) : db'.Settles act R d goal := by
  have hperm : db'.pendingStatements.Perm db.pendingStatements := hpending.map _
  rcases h.apart with hn | hapart
  · have hsame : db'.pendingStatements = db.pendingStatements := congrArg (map statements) (hone hn)
    exact ⟨hserial, .inl hn, hsame ▸ h.goal⟩
  · have hsymm : Std.Symm (Apart R) := ⟨fun _ _ h s hs t ht => symm _ _ (h t ht s hs)⟩
    refine ⟨hserial, .inr ((hperm.pairwise_iff fun hab => symm hab).2 hapart), ?_⟩
    rw [← foldl_ops_perm hR hapart hperm.symm]
    exact h.goal

theorem Settles.next (w : Fin n) : (db.next w).Settles act R d goal := by
  rcases db.next_cases w with heq | ⟨place, heq, -⟩ | ⟨op, ops, hhand, hplace, hq, heq⟩ | ⟨op, ops, hhand, hplace, hq, heq⟩
  · rw [heq]; exact h
  · rw [heq]
    exact h.setThread rfl rfl
  · rw [heq]
    set db' : Database n P S := { db.setThread w { db.threadsBodies w with hand := some op } with delayQueue := ops } with hdb'
    have hperm := held_perm db db' w op (by intro w' hw'; simp [hdb', held, Database.setThread, hw']) (by simp [held, hhand])
      (by simp [hdb', held, Database.setThread])
    apply h.reorder hR
    · intro w'
      by_cases hw' : w' = w
      · subst hw'
        simpa [hdb', Database.setThread] using h.serial w'
      · simpa [hdb', Database.setThread, hw'] using h.serial w'
    · unfold pending
      rw [hq]
      exact (hperm.1.append_right ops).trans perm_middle.symm
    · intro hn
      obtain ⟨hbefore, hafter⟩ := hperm.2 hn
      unfold pending
      rw [hbefore, hafter, hq]
      rfl
  · rw [h.serial w] at hq
    cases hq

/-- The operation a worker executes may be thought of as the first that was pending. -/
theorem Settles.perform (w : Fin n) (outcome : Nat → Attempt) :
    (db.perform w outcome).Settles act R (((db.held w).flatMap SqlOperation.statements).foldl act d) goal := by
  cases hhand : (db.threadsBodies w).hand with
  | none =>
    have hheld : db.held w = [] := by simp [held, hhand]
    have hsame : db.perform w outcome = db := by
      unfold Database.perform
      simp only [hhand]
    rw [hsame, hheld]
    exact h
  | some op =>
    have hheld : (db.held w).flatMap statements = op.statements := by simp [held, hhand]
    rw [perform_hand hhand, hheld]
    set db' : Database n P S := { db.setThread w { db.threadsBodies w with hand := none } with
      executed := db.executed ++ [⟨op, op.execute outcome⟩] } with hdb'
    have hperm := held_perm db' db w op (by intro w' hw'; simp [hdb', held, Database.setThread, hw'])
      (by simp [hdb', held, Database.setThread]) (by simp [held, hhand])
    have hpending : db.pending.Perm (op :: db'.pending) := hperm.1.append_right db.delayQueue
    have hstatements : db.pendingStatements.Perm (op.statements :: db'.pendingStatements) := hpending.map _
    have hserial : ∀ w', (db'.threadsBodies w').serialDelayQueue = [] := by
      intro w'
      by_cases hw' : w' = w
      · subst hw'
        simpa [hdb', Database.setThread] using h.serial w'
      · simpa [hdb', Database.setThread, hw'] using h.serial w'
    rcases h.apart with hn | hapart
    · obtain ⟨hafter, hbefore⟩ := hperm.2 hn
      have hfirst : db.pendingStatements = op.statements :: db'.pendingStatements := by
        unfold pendingStatements pending
        rw [hbefore, hafter]
        rfl
      refine ⟨hserial, .inl hn, ?_⟩
      rw [← h.goal, hfirst]
      rfl
    · have hsymm : Std.Symm (Apart R) := ⟨fun _ _ h s hs t ht => symm _ _ (h t ht s hs)⟩
      refine ⟨hserial, .inr (pairwise_cons.1 ((hstatements.pairwise_iff fun hab => symm hab).1 hapart)).2, ?_⟩
      rw [← h.goal, foldl_ops_perm hR hapart hstatements]
      rfl

/-- Whatever the threads do, what is pending leads where it led before. -/
theorem Settles.thread (a : ThreadAction n) : (db.thread a).1.Settles act R ((db.thread a).2.foldl act d) goal := by
  cases a with
  | wake w =>
    simp only [Database.thread, Database.wake]
    split_ifs
    · exact h.setThread rfl rfl
    · exact h
  | next w => exact h.next hR w
  | perform w => exact h.perform hR w _
  | stop w => exact h.setThread rfl rfl
  | join =>
    simp only [Database.thread, Database.join]
    split_ifs
    · exact ⟨h.serial, h.apart, h.goal⟩
    · exact h
  | destroy w =>
    simp only [Database.thread, Database.destroy]
    split_ifs
    · exact h.setThread rfl rfl
    · exact h

end

end settles

end Database

end ComfyCraft
