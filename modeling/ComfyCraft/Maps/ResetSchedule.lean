import ComfyCraft.Maps.DungeonResets

/-! What the scheduler of dungeon resets keeps to, over whole runs: one pending event for every map with a global reset, at its
reset time less the delay of the event; one reset for every reset time; the instances of the other maps left alone. -/

namespace ComfyCraft

open List Function ResetTimeQueue Multimap ResetEventType ResetConfig ResetDeed Loop

namespace ResetConfig

/-- A map with a global reset. -/
def Reset (c : ResetConfig) (mapid : UInt16) : Prop :=
  ∃ e, c.maps.lookup mapid = some e ∧ e.isDungeon = true ∧ e.resetDelay ≠ 0

/-- An hour of the day, and reset delays whose seconds fit into their word. -/
structure Sane (c : ResetConfig) : Prop where
  hour : c.instanceResetTimeHour < 24
  days : ∀ mapid e, c.maps.lookup mapid = some e → e.isDungeon = true → e.resetDelay.toNat * DAY < 2 ^ 32

variable {c : ResetConfig} {e : MapEntry}

theorem getMaxResetTimeFor_eq (h : e.resetDelay.toNat * DAY < 2 ^ 32) : getMaxResetTimeFor e = e.resetDelay.toNat * DAY := by
  unfold getMaxResetTimeFor
  rw [UInt32.toNat_mul]
  exact Nat.mod_eq_of_lt h

theorem one_le_delay (h : e.resetDelay ≠ 0) : 1 ≤ e.resetDelay.toNat := by
  have hne : e.resetDelay.toNat ≠ 0 := fun h0 => h (UInt32.toNat_inj.1 h0)
  omega

theorem lt_calculateNextResetTime (c : ResetConfig) (hdays : e.resetDelay.toNat * DAY < 2 ^ 32) (hdelay : e.resetDelay ≠ 0)
    (prevResetTime : Nat) :
    ((prevResetTime + MINUTE) / DAY + 1) * DAY ≤ c.calculateNextResetTime e prevResetTime := by
  have hone := one_le_delay hdelay
  unfold calculateNextResetTime
  rw [getMaxResetTimeFor_eq hdays]
  unfold DAY
  omega

theorem lt_calculateNextResetTime_add (c : ResetConfig) (hdays : e.resetDelay.toNat * DAY < 2 ^ 32) (hdelay : e.resetDelay ≠ 0)
    (prevResetTime : Nat) : prevResetTime + MINUTE < c.calculateNextResetTime e prevResetTime := by
  have hday := lt_calculateNextResetTime c hdays hdelay prevResetTime
  unfold DAY at hday
  omega

end ResetConfig

namespace ResetEventType

theorem next_ne (type : ResetEventType) : type.next ≠ normalDungeon := by
  cases type <;> decide

variable {type : ResetEventType}

theorem next_delay_lt (hnormal : type ≠ normalDungeon) (hlast : type.isLast = false) : type.next.delay < type.delay := by
  cases type with
  | normalDungeon => exact absurd rfl hnormal
  | informLast => cases hlast
  | forcedInformLast => cases hlast
  | _ => decide

def last : ResetEventType → ResetEventType
  | forcedInform1 | forcedInform2 | forcedInform3 | forcedInformLast => forcedInformLast
  | _ => informLast

theorem last_next (hlast : type.isLast = false) : type.next.last = type.last := by
  cases type with
  | informLast => cases hlast
  | _ => rfl

theorem last_eq (hlast : type.isLast = true) : type.last = type := by
  cases type <;> first | rfl | cases hlast

theorem last_delay_le (type : ResetEventType) : type.last.delay ≤ MINUTE := by
  cases type <;> decide

theorem upcoming_cases (resetTime now : Nat) : upcoming resetTime now = informLast ∨
      upcoming resetTime now ∈ [inform1, inform2, inform3] ∧ (now : Int) < resetTime - (upcoming resetTime now).delay := by
  unfold upcoming
  cases h : [inform1, inform2, inform3].find? fun type => decide ((now : Int) < resetTime - type.delay) with
  | none => exact .inl rfl
  | some type =>
    have hahead := find?_some h
    exact .inr ⟨mem_of_find?_eq_some h, of_decide_eq_true hahead⟩

theorem upcoming_ne (resetTime now : Nat) : upcoming resetTime now ≠ normalDungeon := by
  rcases upcoming_cases resetTime now with h | ⟨h, -⟩
  · rw [h]
    decide
  · intro hnormal
    rw [hnormal] at h
    revert h
    decide

theorem upcoming_last (resetTime now : Nat) : (upcoming resetTime now).last = informLast := by
  rcases upcoming_cases resetTime now with h | ⟨h, -⟩
  · rw [h]
    rfl
  · generalize upcoming resetTime now = type at h
    revert h
    cases type <;> decide

/-- The next event of a map comes after the reset that was due. -/
theorem lt_upcoming {now : Nat} {t : Int} {resetTime nextReset : Nat} (hdue : t < now) (ht : t ≤ resetTime)
    (hnext : resetTime + MINUTE < nextReset) : t < nextReset - (upcoming nextReset now).delay := by
  rcases upcoming_cases nextReset now with hlast | ⟨-, hnow⟩
  · rw [hlast]
    change t < (nextReset : Int) - ((60 : Nat) : Int)
    unfold MINUTE at hnext
    omega
  · exact lt_trans hdue hnow

end ResetEventType

/-- What has become of the reset times of one map, and the one it has now: each has had its reset, and the next one is taken, or
a forced reset has put another in its place. -/
inductive Values (mapid : UInt16) : List ResetDeed → Nat → Prop
  | took (t : Nat) : Values mapid [.took mapid t] t
  | reset {l : List ResetDeed} {t : Nat} (h : Values mapid l t) (t' : Nat) : Values mapid (l ++ [.reset mapid, .took mapid t']) t'
  | forced {l : List ResetDeed} {t : Nat} (h : Values mapid l t) (t' : Nat) : Values mapid (l ++ [.forced mapid t']) t'

def ResetDeed.about (mapid : UInt16) : ResetDeed → Bool
  | took m _ | forced m _ | reset m => m = mapid
  | warned .. | instanceReset .. => false

def ResetDeed.instance? : ResetDeed → Option (UInt16 × UInt32)
  | instanceReset mapid instanceId => some (mapid, instanceId)
  | _ => none

def ResetTimeQueue.pending (q : ResetTimeQueue) (mapid : UInt16) : ResetTimeQueue :=
  q.filter fun e => e.2.type ≠ .normalDungeon && e.2.mapid = mapid

def ResetTimeQueue.normals (q : ResetTimeQueue) : ResetTimeQueue := q.filter fun e => e.2.type = .normalDungeon

namespace DungeonResetScheduler

variable {c : ResetConfig} {s s' : DungeonResetScheduler}

/-- Every map with a global reset has one pending event, at its reset time less the delay of the event, and a row. -/
structure Scheduled (c : ResetConfig) (s : DungeonResetScheduler) : Prop where
  sorted : s.resetTimeQueue.Pairwise fun a b => a.1 ≤ b.1
  one : ∀ mapid, c.Reset mapid → ∃ type, type ≠ .normalDungeon ∧
    s.resetTimeQueue.pending mapid = [((s.resetTimeByMapId mapid : Int) - type.delay, ⟨type, mapid, 0⟩)]
  only : ∀ e ∈ s.resetTimeQueue, e.2.type ≠ .normalDungeon → c.Reset e.2.mapid
  rowed : ∀ mapid, c.Reset mapid → (s.instanceReset mapid).isSome = true
  values : ∀ mapid, c.Reset mapid → Values mapid (s.history.filter (ResetDeed.about mapid)) (s.resetTimeByMapId mapid)

variable {now : Nat} {t time : Int} {event : DungeonResetEvent} {rest q : ResetTimeQueue} {mapid : UInt16}
  {e : Int × DungeonResetEvent} {l : List ResetDeed} {deed : ResetDeed} {late : UInt16 → Nat → Nat}

theorem due_iff : s.due now = true ↔ ∃ e rest, s.resetTimeQueue = e :: rest ∧ e.1 < (now : Int) := by
  unfold due
  cases hq : s.resetTimeQueue with
  | nil => simp
  | cons e rest => simp

/-- What one turn of the loop of `Update` does. -/
inductive Handled (c : ResetConfig) (now : Nat) (late : UInt16 → Nat → Nat) (s : DungeonResetScheduler) : DungeonResetScheduler → Prop
  | normal {t : Int} {mapid : UInt16} {instanceId : UInt32} {rest : ResetTimeQueue}
      (hq : s.resetTimeQueue = (t, ⟨.normalDungeon, mapid, instanceId⟩) :: rest) (hdue : t < now) :
      Handled c now late s { s with
        resetTimeQueue := rest
        history := s.history ++ [.instanceReset mapid instanceId] }
  | warned {type : ResetEventType} {mapid : UInt16} {rest : ResetTimeQueue} (hreset : c.Reset mapid) (htype : type ≠ .normalDungeon)
      (hlast : type.isLast = false)
      (hq : s.resetTimeQueue = ((s.resetTimeByMapId mapid : Int) - type.delay, ⟨type, mapid, 0⟩) :: rest)
      (hdue : (s.resetTimeByMapId mapid : Int) - type.delay < now) :
      Handled c now late s { s with
        resetTimeQueue := rest.enqueue (s.resetTimeByMapId mapid - type.next.delay) ⟨type.next, mapid, 0⟩
        history := s.history ++ [.warned mapid (timeLeft (s.resetTimeByMapId mapid) now)] }
  | reset {e : MapEntry} {type : ResetEventType} {mapid : UInt16} {rest : ResetTimeQueue} (he : c.maps.lookup mapid = some e)
      (hdungeon : e.isDungeon = true) (hdelay : e.resetDelay ≠ 0) (htype : type ≠ .normalDungeon) (hlast : type.isLast = true)
      (hq : s.resetTimeQueue = ((s.resetTimeByMapId mapid : Int) - type.delay, ⟨type, mapid, 0⟩) :: rest)
      (hdue : (s.resetTimeByMapId mapid : Int) - type.delay < now) :
      Handled c now late s { s with
        resetTimeQueue := rest.enqueue
          (c.calculateNextResetTime e (s.resetTimeByMapId mapid) -
            (ResetEventType.upcoming (c.calculateNextResetTime e (s.resetTimeByMapId mapid)) now).delay)
          ⟨ResetEventType.upcoming (c.calculateNextResetTime e (s.resetTimeByMapId mapid)) now, mapid, 0⟩
        instanceReset := updateRow s.instanceReset mapid (c.calculateNextResetTime e (s.resetTimeByMapId mapid))
        resetTimeByMapId := Function.update s.resetTimeByMapId mapid (c.calculateNextResetTime e (s.resetTimeByMapId mapid))
        writes := s.writes ++ [(mapid, c.calculateNextResetTime e
          (now + late mapid (s.resetTimeByMapId mapid) + timeLeft (s.resetTimeByMapId mapid) now))]
        history := s.history ++ [.reset mapid] ++ [.took mapid (c.calculateNextResetTime e (s.resetTimeByMapId mapid))] }

/-- The first entry, where it is a global one, is the one of its map. -/
theorem Scheduled.head (h : Scheduled c s) (hq : s.resetTimeQueue = (t, event) :: rest) (htype : event.type ≠ .normalDungeon) :
    c.Reset event.mapid ∧ t = (s.resetTimeByMapId event.mapid : Int) - event.type.delay ∧ event.instanceId = 0 ∧
      rest.pending event.mapid = [] := by
  have hreset : c.Reset event.mapid := h.only (t, event) (hq ▸ mem_cons_self) htype
  obtain ⟨type, -, hone⟩ := h.one event.mapid hreset
  have hpending : pending ((t, event) :: rest) event.mapid = (t, event) :: rest.pending event.mapid := by
    unfold pending
    rw [filter_cons_of_pos]
    simp [htype]
  rw [hq, hpending] at hone
  obtain ⟨hhead, hrest⟩ := cons.inj hone
  obtain ⟨ht, hevent⟩ := Prod.mk.inj hhead
  have htypes : event.type = type := congrArg DungeonResetEvent.type hevent
  refine ⟨hreset, ?_, congrArg DungeonResetEvent.instanceId hevent, hrest⟩
  rw [htypes]
  exact ht

/-- The new entry goes in behind the first, so that the first is the one that goes. -/
theorem tail_enqueue {event' : DungeonResetEvent} (h : t ≤ time) :
    (ResetTimeQueue.enqueue ((t, event) :: rest) time event').tail = rest.enqueue time event' := by
  unfold enqueue
  rw [insert_cons_of_le h]
  rfl

theorem Scheduled.handled (hc : c.Sane) (h : Scheduled c s) (late : UInt16 → Nat → Nat) (hdue : s.due now = true) :
    Handled c now late s (s.handleFirst c now late) := by
  obtain ⟨⟨t, type, mapid, instanceId⟩, rest, hq, hlt⟩ := due_iff.1 hdue
  unfold handleFirst
  rw [hq]
  dsimp only
  by_cases htype : type = .normalDungeon
  · subst htype
    rw [if_pos rfl]
    exact Handled.normal hq hlt
  rw [if_neg htype]
  obtain ⟨hreset, ht, hinstance, -⟩ := h.head hq htype
  dsimp only at hreset ht hinstance
  subst hinstance ht
  obtain ⟨e, he, hdungeon, hdelay⟩ := hreset
  unfold resetOrWarnAll
  rw [he]
  dsimp only
  rw [hdungeon]
  cases hlast : type.isLast with
  | false =>
    have hle : (s.resetTimeByMapId mapid : Int) - type.delay ≤ s.resetTimeByMapId mapid - type.next.delay := by
      have hnext := next_delay_lt htype hlast
      omega
    simp only [Bool.not_true, Bool.not_false, if_true, Bool.false_eq_true, if_false]
    rw [tail_enqueue hle]
    exact Handled.warned ⟨e, he, hdungeon, hdelay⟩ htype hlast hq hlt
  | true =>
    simp only [Bool.not_true, Bool.false_eq_true, if_false]
    rw [if_neg hdelay, tail_enqueue ?_]
    · exact Handled.reset he hdungeon hdelay htype hlast hq hlt
    refine Int.le_of_lt (lt_upcoming hlt ?_
      (lt_calculateNextResetTime_add c (hc.days mapid e he hdungeon) hdelay (s.resetTimeByMapId mapid)))
    omega

/-! The queue and the history under one turn. -/

theorem pending_enqueue_other (h : event.mapid ≠ mapid) : (q.enqueue time event).pending mapid = q.pending mapid := by
  unfold pending enqueue
  exact filter_insert_of_neg (by simp [h])

theorem pending_enqueue_normal (h : event.type = .normalDungeon) : (q.enqueue time event).pending mapid = q.pending mapid := by
  unfold pending enqueue
  exact filter_insert_of_neg (by simp [h])

theorem pending_enqueue_self (htype : event.type ≠ .normalDungeon)
    (hnone : q.pending event.mapid = []) : (q.enqueue time event).pending event.mapid = [(time, event)] := by
  unfold pending enqueue at *
  apply perm_singleton.1
  refine ((insert_perm _ _ _).filter _).trans ?_
  rw [filter_cons_of_pos (by simp [htype]), hnone]

theorem pending_cons_other (h : e.2.mapid ≠ mapid) : ResetTimeQueue.pending (e :: q) mapid = q.pending mapid := by
  unfold pending
  exact filter_cons_of_neg (by simp [h])

theorem pending_cons_normal (h : e.2.type = .normalDungeon) : ResetTimeQueue.pending (e :: q) mapid = q.pending mapid := by
  unfold pending
  exact filter_cons_of_neg (by simp [h])

theorem normals_enqueue (h : event.type ≠ .normalDungeon) : (q.enqueue time event).normals = q.normals := by
  unfold normals enqueue
  exact filter_insert_of_neg (by simp [h])

theorem sorted_enqueue (h : q.Pairwise fun a b => a.1 ≤ b.1) : (q.enqueue time event).Pairwise fun a b => a.1 ≤ b.1 := by
  unfold enqueue
  refine insert_sorted h ?_ ?_ ?_
  · exact fun _ _ hle => hle
  · exact fun _ _ hle => hle
  · exact fun _ _ hlt => le_of_lt hlt

theorem mem_enqueue : e ∈ q.enqueue time event ↔ e = (time, event) ∨ e ∈ q := mem_insert

theorem filter_about_append (h : deed.about mapid = false) :
    (l ++ [deed]).filter (ResetDeed.about mapid) = l.filter (ResetDeed.about mapid) := by
  rw [filter_append, filter_cons_of_neg (by simp [h]), filter_nil, append_nil]

theorem filter_about_append_self (h : deed.about mapid = true) :
    (l ++ [deed]).filter (ResetDeed.about mapid) = l.filter (ResetDeed.about mapid) ++ [deed] := by
  rw [filter_append, filter_cons_of_pos h, filter_nil]

theorem isSome_updateRow {table : UInt16 → Option Nat} {other : UInt16} {t : Nat} (h : (table other).isSome = true) :
    (updateRow table mapid t other).isSome = true := by
  unfold updateRow
  by_cases hother : other = mapid
  · rw [hother, update_self, Option.isSome_map, ← hother]
    exact h
  · rw [update_of_ne hother]
    exact h

theorem Scheduled.of_handled (h : Scheduled c s) (hs' : Handled c now late s s') : Scheduled c s' := by
  cases hs' with
  | @normal t mapid instanceId rest hq hdue =>
    have hsorted := h.sorted
    rw [hq, pairwise_cons] at hsorted
    refine ⟨hsorted.2, fun m hm => ?_, fun e he => h.only e (hq ▸ mem_cons_of_mem _ he), h.rowed, fun m hm => ?_⟩
    · obtain ⟨type, htype, hone⟩ := h.one m hm
      rw [hq, pending_cons_normal rfl] at hone
      exact ⟨type, htype, hone⟩
    · dsimp only
      rw [filter_about_append rfl]
      exact h.values m hm
  | @warned type mapid rest hreset htype hlast hq hdue =>
    have hsorted := h.sorted
    rw [hq, pairwise_cons] at hsorted
    obtain ⟨-, -, -, hnone⟩ := h.head hq htype
    refine ⟨sorted_enqueue hsorted.2, fun m hm => ?_, fun e he hglobal => ?_, h.rowed, fun m hm => ?_⟩
    · by_cases hmap : mapid = m
      · subst hmap
        exact ⟨type.next, type.next_ne, pending_enqueue_self type.next_ne hnone⟩
      · obtain ⟨type', htype', hone⟩ := h.one m hm
        rw [hq, pending_cons_other hmap] at hone
        exact ⟨type', htype', (pending_enqueue_other hmap).trans hone⟩
    · rcases mem_enqueue.1 he with rfl | he
      · exact hreset
      · exact h.only e (hq ▸ mem_cons_of_mem _ he) hglobal
    · dsimp only
      rw [filter_about_append rfl]
      exact h.values m hm
  | @reset e type mapid rest he hdungeon hdelay htype hlast hq hdue =>
    have hsorted := h.sorted
    rw [hq, pairwise_cons] at hsorted
    obtain ⟨hreset, -, -, hnone⟩ := h.head hq htype
    have hupcoming := upcoming_ne (c.calculateNextResetTime e (s.resetTimeByMapId mapid)) now
    refine ⟨sorted_enqueue hsorted.2, fun m hm => ?_, fun e' he' hglobal => ?_, fun m hm => isSome_updateRow (h.rowed m hm), fun m hm => ?_⟩
    · by_cases hmap : mapid = m
      · subst hmap
        dsimp only
        rw [update_self]
        exact ⟨_, hupcoming, pending_enqueue_self hupcoming hnone⟩
      · obtain ⟨type', htype', hone⟩ := h.one m hm
        rw [hq, pending_cons_other hmap] at hone
        dsimp only
        rw [update_of_ne (Ne.symm hmap)]
        exact ⟨type', htype', (pending_enqueue_other hmap).trans hone⟩
    · rcases mem_enqueue.1 he' with rfl | he'
      · exact hreset
      · exact h.only e' (hq ▸ mem_cons_of_mem _ he') hglobal
    · dsimp only
      by_cases hmap : mapid = m
      · subst hmap
        have hwas : (reset mapid).about mapid = true := decide_eq_true rfl
        have htook : (took mapid (c.calculateNextResetTime e (s.resetTimeByMapId mapid))).about mapid = true := decide_eq_true rfl
        rw [update_self, filter_about_append_self htook, filter_about_append_self hwas, append_assoc]
        exact Values.reset (h.values mapid hm) _
      · have hwas : (reset mapid).about m = false := decide_eq_false hmap
        have htook : (took mapid (c.calculateNextResetTime e (s.resetTimeByMapId mapid))).about m = false := decide_eq_false hmap
        rw [update_of_ne (Ne.symm hmap), filter_about_append htook, filter_about_append hwas]
        exact h.values m hm

/-! The loop. -/

theorem overdue_cons (hdue : e.1 < (now : Int)) (hlt : e.1 < time) :
    ((q.enqueue time event).map fun e => ((now : Int) - e.1).toNat).sum < ((e :: q).map fun e => ((now : Int) - e.1).toNat).sum := by
  have hperm : ((q.enqueue time event).map fun e => ((now : Int) - e.1).toNat).Perm
      (((time, event) :: q).map fun e => ((now : Int) - e.1).toNat) := (insert_perm _ _ _).map _
  rw [hperm.sum_eq, map_cons, sum_cons, map_cons, sum_cons]
  dsimp only
  omega

theorem overdue_handled (hc : c.Sane) (hs' : Handled c now late s s') : s'.overdue now < s.overdue now := by
  unfold overdue
  cases hs' with
  | @normal t mapid instanceId rest hq hdue =>
    rw [hq, map_cons, sum_cons]
    dsimp only
    omega
  | @warned type mapid rest hreset htype hlast hq hdue =>
    rw [hq]
    refine overdue_cons hdue ?_
    have hnext := next_delay_lt htype hlast
    dsimp only
    omega
  | @reset e type mapid rest he hdungeon hdelay htype hlast hq hdue =>
    rw [hq]
    refine overdue_cons hdue (lt_upcoming hdue ?_ (lt_calculateNextResetTime_add c (hc.days mapid e he hdungeon) hdelay _))
    dsimp only
    omega

section

variable (hc : c.Sane) (h : Scheduled c s)
include hc h

theorem Scheduled.handleFirst (late : UInt16 → Nat → Nat) (hdue : s.due now = true) :
    Scheduled c (s.handleFirst c now late) := h.of_handled (h.handled hc late hdue)

theorem Scheduled.update (now : Nat) (late : UInt16 → Nat → Nat) : Scheduled c (s.update c now late) :=
  keeps (fun _ hs hdue => hs.handleFirst hc late hdue) h _

/-- The loop of `Update` comes to its own end. -/
theorem due_update (now : Nat) (late : UInt16 → Nat → Nat) : (s.update c now late).due now = false :=
  ends (I := Scheduled c) (m := overdue now) (fun _ hs hdue => hs.handleFirst hc late hdue)
    (fun _ hs hdue => overdue_handled hc (hs.handled hc late hdue)) h le_rfl

end

theorem not_due (h : Scheduled c s) (hdue : s.due now = false) (he : e ∈ s.resetTimeQueue) : (now : Int) ≤ e.1 := by
  by_contra hlt
  have hsorted := h.sorted
  cases hq : s.resetTimeQueue with
  | nil =>
    rw [hq] at he
    cases he
  | cons first rest =>
    rw [hq] at he hsorted
    have hfirst : first.1 ≤ e.1 := by
      rcases mem_cons.1 he with rfl | he
      · exact le_rfl
      · exact (pairwise_cons.1 hsorted).1 e he
    have htrue : s.due now = true := due_iff.2 ⟨first, rest, hq, by omega⟩
    rw [hdue] at htrue
    cases htrue

/-! The instances of normal dungeons. -/

def instancesOf (q : ResetTimeQueue) : List (UInt16 × UInt32) := q.map fun e => (e.2.mapid, e.2.instanceId)

theorem filterMap_instance_append (h : deed.instance? = none) :
    (l ++ [deed]).filterMap ResetDeed.instance? = l.filterMap ResetDeed.instance? := by
  rw [filterMap_append, filterMap_cons_none h, filterMap_nil, append_nil]

/-- What is still to be done of the events that were due, and what was done before, after any number of turns. -/
structure Working (s : DungeonResetScheduler) (now : Nat) (s' : DungeonResetScheduler) : Prop where
  later : s'.resetTimeQueue.normals.filter (fun e => (now : Int) ≤ e.1) = s.resetTimeQueue.normals.filter fun e => (now : Int) ≤ e.1
  done : s'.history.filterMap ResetDeed.instance? ++ instancesOf (s'.resetTimeQueue.normals.filter fun e => e.1 < (now : Int)) =
    s.history.filterMap ResetDeed.instance? ++ instancesOf (s.resetTimeQueue.normals.filter fun e => e.1 < (now : Int))

theorem normals_cons_global (h : e.2.type ≠ .normalDungeon) : ResetTimeQueue.normals (e :: q) = q.normals := by
  unfold normals
  exact filter_cons_of_neg (by simp [h])

theorem normals_cons_normal (h : e.2.type = .normalDungeon) : ResetTimeQueue.normals (e :: q) = e :: q.normals := by
  unfold normals
  exact filter_cons_of_pos (by simp [h])

theorem Working.handled {s₀ : DungeonResetScheduler} (h : Working s₀ now s)
    (hs' : Handled c now late s s') : Working s₀ now s' := by
  obtain ⟨hlater, hdone⟩ := h
  cases hs' with
  | @normal t mapid instanceId rest hq hdue =>
    rw [hq, normals_cons_normal rfl] at hlater hdone
    rw [filter_cons_of_neg (by simp [hdue])] at hlater
    rw [filter_cons_of_pos (by simp [hdue])] at hdone
    refine ⟨hlater, ?_⟩
    rw [filterMap_append, append_assoc]
    exact hdone
  | @warned type mapid rest hreset htype hlast hq hdue =>
    rw [hq, normals_cons_global htype] at hlater hdone
    refine ⟨?_, ?_⟩
    · rw [normals_enqueue type.next_ne]
      exact hlater
    · rw [normals_enqueue type.next_ne, filterMap_instance_append rfl]
      exact hdone
  | @reset e type mapid rest he hdungeon hdelay htype hlast hq hdue =>
    have hupcoming := upcoming_ne (c.calculateNextResetTime e (s.resetTimeByMapId mapid)) now
    rw [hq, normals_cons_global htype] at hlater hdone
    refine ⟨?_, ?_⟩
    · rw [normals_enqueue hupcoming]
      exact hlater
    · rw [normals_enqueue hupcoming, filterMap_instance_append rfl, filterMap_instance_append rfl]
      exact hdone

/-- `Update` resets the instances that are due, in their order, and leaves the others in the queue. -/
theorem normals_update (hc : c.Sane) (h : Scheduled c s) (now : Nat) (late : UInt16 → Nat → Nat) :
    (s.update c now late).resetTimeQueue.normals = s.resetTimeQueue.normals.filter (fun e => (now : Int) ≤ e.1) ∧
      (s.update c now late).history.filterMap ResetDeed.instance? =
        s.history.filterMap ResetDeed.instance? ++ instancesOf (s.resetTimeQueue.normals.filter fun e => e.1 < (now : Int)) := by
  have hboth : Scheduled c (s.update c now late) ∧ Working s now (s.update c now late) :=
    keeps (I := fun s' => Scheduled c s' ∧ Working s now s')
      (fun _ hs hdue => ⟨hs.1.handleFirst hc late hdue, hs.2.handled (hs.1.handled hc late hdue)⟩) ⟨h, rfl, rfl⟩ _
  obtain ⟨hscheduled, hlater, hdone⟩ := hboth
  have hend : ∀ e ∈ (s.update c now late).resetTimeQueue.normals, (now : Int) ≤ e.1 :=
    fun e he => not_due hscheduled (due_update hc h now late) (mem_of_mem_filter he)
  rw [filter_eq_self.2 fun e he => decide_eq_true (hend e he)] at hlater
  rw [filter_eq_nil_iff.2 fun e he => by simpa using hend e he] at hdone
  exact ⟨hlater, (append_nil _).symm.trans hdone⟩

end DungeonResetScheduler
end ComfyCraft
