import ComfyCraft.Utilities.EventMap
import Mathlib.Data.Finset.Basic
import Mathlib.Data.List.Sort

/-! What an event map is for: a plain list of timed records. Every record has a number of its own, given in the order
of insertion; a call of `ExecuteEvent` looks for the first record, by due time and then by number, that is due and not
out of phase. When a record is out of phase is a parameter. -/

namespace ComfyCraft

open List Bool

structure EventRecord where
  due : Nat
  order : Nat
  id : Nat
  group : Nat
  phase : Nat
deriving DecidableEq

namespace EventRecord

/-- Earlier due, or put in earlier. -/
def Before (r q : EventRecord) : Prop := r.due < q.due ∨ r.due = q.due ∧ r.order < q.order

instance : DecidableRel Before := fun r q => inferInstanceAs (Decidable (r.due < q.due ∨ r.due = q.due ∧ r.order < q.order))

variable {r q : EventRecord}

theorem Before.asymm (h1 : r.Before q) : ¬ q.Before r := by
  unfold Before at h1 ⊢
  omega

theorem Before.due_le (h : r.Before q) : r.due ≤ q.due := by
  unfold Before at h
  omega

def what (r : EventRecord) : Nat × Nat × Nat := (r.id, r.group, r.phase)

/-- In the order of due times and numbers. -/
def NotAfter (r q : EventRecord) : Prop := ¬ q.Before r

instance : DecidableRel NotAfter := fun r q => inferInstanceAs (Decidable (¬ q.Before r))

instance : Std.Total NotAfter := ⟨fun r q => by unfold NotAfter Before; omega⟩

instance : IsTrans EventRecord NotAfter := ⟨fun r q t h1 h2 => by unfold NotAfter Before at *; omega⟩

end EventRecord

structure Returned where
  now : Nat
  record : EventRecord
  left : List EventRecord

structure TimedList where
  now : Nat
  next : Nat
  active : Finset Nat
  records : List EventRecord
  last : Nat × Nat × Nat
  returned : List Returned
  gone : List EventRecord

namespace TimedList

def start : TimedList := ⟨0, 0, ∅, [], (0, 0, 0), [], []⟩

def put (a : TimedList) (due : Nat) (what : Nat × Nat × Nat) : TimedList :=
  { a with next := a.next + 1, records := a.records ++ [⟨due, a.next, what.1, what.2.1, what.2.2⟩] }

def remove (a : TimedList) (p : EventRecord → Bool) : TimedList :=
  { a with records := a.records.filter fun r => !p r, gone := a.gone ++ a.records.filter p }

def inOrder (records : List EventRecord) : List EventRecord := records.insertionSort EventRecord.NotAfter

/-- The records of a group are put in anew, later, one after the other as they would have come up. -/
def delayGroup (a : TimedList) (delay group : Nat) : TimedList :=
  (inOrder (a.records.filter fun r => r.group = group)).foldl (fun a r => a.put (r.due + delay) r.what)
    { a with records := a.records.filter fun r => r.group ≠ group }

def first (records : List EventRecord) : Option EventRecord := records.find? fun r => records.all fun q => r = q || r.Before q

variable (outOfPhase : Finset Nat → Nat → Bool)

def due (a : TimedList) : List EventRecord := a.records.filter fun r => r.due ≤ a.now && !outOfPhase a.active r.phase

/-- The records that are due and out of phase, as far as they come up before the one that is returned. -/
def missed (a : TimedList) : List EventRecord :=
  a.records.filter fun r => r.due ≤ a.now && outOfPhase a.active r.phase && (first (a.due outOfPhase)).all fun n => r.Before n

def execute (a : TimedList) : Option EventRecord × TimedList :=
  let missed := a.missed outOfPhase
  let a' := { a with records := a.records.filter (· ∉ missed), gone := a.gone ++ missed }
  match first (a.due outOfPhase) with
  | none => (none, a')
  | some r =>
    let left := a'.records.filter (· ≠ r)
    (some r, { a' with records := left, last := r.what, returned := a.returned ++ [⟨a.now, r, left⟩] })

def call (a : TimedList) : EventCall → Option (Option EventRecord) × TimedList
  | .scheduleEvent eventId time group phase => (none, a.put (a.now + time.toNat) (eventId.toNat, group.toNat, phase.toNat))
  | .rescheduleEvent eventId time group phase =>
    (none, (a.remove fun r => r.id = eventId.toNat).put (a.now + time.toNat) (eventId.toNat, group.toNat, phase.toNat))
  | .repeatEvent time => (none, a.put (a.now + time.toNat) a.last)
  | .update time => (none, { a with now := a.now + time.toNat })
  | .delayTimer delay => (none, { a with now := a.now - delay.toNat })
  | .delayEvents delay group => (none, if group = 0 then a else a.delayGroup delay.toNat group.toNat)
  | .cancelEvent eventId => (none, a.remove fun r => r.id = eventId.toNat)
  | .cancelEventGroup group => (none, if group = 0 then a else a.remove fun r => r.group = group.toNat)
  | .cancelEventsByGCD gcd => (none, if gcd = 0 then a else a.remove fun r => r.group = gcd.toNat)
  | .setPhase phase => (none, { a with active := if phase = 0 then ∅ else {phase.toNat} })
  | .addPhase phase => (none, if phase = 0 then a else { a with active := insert phase.toNat a.active })
  | .removePhase phase => (none, { a with active := a.active.erase phase.toNat })
  | .executeEvent => (some (a.execute outOfPhase).1, (a.execute outOfPhase).2)

def step (a : TimedList) (c : EventCall) : TimedList := (a.call outOfPhase c).2

def answers : TimedList → List EventCall → List (Option EventRecord)
  | _, [] => []
  | a, c :: cs => (a.call outOfPhase c).1.toList ++ answers (a.call outOfPhase c).2 cs

/-! What the list promises. -/

/-- Every record is in the list, was returned once, or was cancelled or missed for good, and its number is its own;
what was returned was due, and was before all that were left. -/
structure Accounted (a : TimedList) : Prop where
  numbered : ∀ r ∈ a.records ++ a.returned.map Returned.record ++ a.gone, r.order < a.next
  once : ((a.records ++ a.returned.map Returned.record ++ a.gone).map EventRecord.order).Nodup
  in_order : ∀ e ∈ a.returned, e.record.due ≤ e.now ∧ ∀ r ∈ e.left, e.record.Before r

variable {outOfPhase} {a : TimedList}

theorem start_accounted : start.Accounted where
  numbered r hr := by cases hr
  once := nodup_nil
  in_order e he := by cases he

theorem Accounted.put (h : a.Accounted) (due : Nat) (what : Nat × Nat × Nat) : (a.put due what).Accounted := by
  have hperm : ((a.put due what).records ++ a.returned.map Returned.record ++ a.gone).Perm
      (⟨due, a.next, what.1, what.2.1, what.2.2⟩ :: (a.records ++ a.returned.map Returned.record ++ a.gone)) := by
    unfold TimedList.put
    rw [append_assoc, append_assoc, append_assoc]
    exact perm_middle
  constructor
  · intro r hr
    rcases mem_cons.1 (hperm.mem_iff.1 hr) with rfl | hr
    · exact Nat.lt_succ_self _
    · exact Nat.lt_succ_of_lt (h.numbered r hr)
  · refine (hperm.map EventRecord.order).nodup_iff.2 (nodup_cons.2 ⟨fun hmem => ?_, h.once⟩)
    obtain ⟨r, hr, hord⟩ := mem_map.1 hmem
    exact absurd hord (Nat.ne_of_lt (h.numbered r hr))
  · exact h.in_order

/-- Records may be left out, or go from the list to those that were returned or are gone. -/
theorem Accounted.move {a' : TimedList} (h : a.Accounted) (hnext : a'.next = a.next)
    (hcount : ∀ r, List.count r (a'.records ++ a'.returned.map Returned.record ++ a'.gone) ≤
      List.count r (a.records ++ a.returned.map Returned.record ++ a.gone))
    (hin : ∀ e ∈ a'.returned, e ∈ a.returned ∨ e.record.due ≤ e.now ∧ ∀ r ∈ e.left, e.record.Before r) : a'.Accounted := by
  have hsub := subperm_iff_count.2 hcount
  constructor
  · intro r hr
    rw [hnext]
    exact h.numbered r (hsub.subset hr)
  · obtain ⟨l, hl, hsl⟩ := hsub
    exact (hl.map EventRecord.order).nodup_iff.1 (h.once.sublist (hsl.map EventRecord.order))
  · intro e he
    rcases hin e he with hold | hnew
    · exact h.in_order e hold
    · exact hnew

theorem count_filter_add (p : EventRecord → Bool) (l : List EventRecord) (r : EventRecord) :
    List.count r (l.filter p) + List.count r (l.filter fun q => !p q) = List.count r l := by
  rw [← count_append]
  exact (filter_append_perm p l).count_eq r

theorem Accounted.remove (h : a.Accounted) (p : EventRecord → Bool) : (a.remove p).Accounted := by
  refine h.move rfl (fun r => ?_) fun e he => .inl he
  have := count_filter_add p a.records r
  unfold TimedList.remove
  simp only [count_append]
  omega

theorem Accounted.delayGroup (h : a.Accounted) (delay group : Nat) : (a.delayGroup delay group).Accounted := by
  have hrest : ({ a with records := a.records.filter fun r => r.group ≠ group } : TimedList).Accounted := by
    refine h.move rfl (fun r => ?_) fun e he => .inl he
    have := (filter_sublist (p := fun r : EventRecord => decide (r.group ≠ group)) (l := a.records)).count_le r
    simp only [count_append]
    omega
  unfold TimedList.delayGroup
  generalize ({ a with records := a.records.filter fun r => r.group ≠ group } : TimedList) = a' at hrest ⊢
  induction inOrder (a.records.filter fun r => r.group = group) generalizing a' with
  | nil => exact hrest
  | cons r rs ih => exact ih _ (hrest.put _ _)

variable {l : List EventRecord} {r q : EventRecord}

theorem mem_of_first (h : first l = some r) : r ∈ l := mem_of_find?_eq_some h

theorem first_before (h : first l = some r) (hq : q ∈ l) : r = q ∨ r.Before q := by
  have hall := find?_some h
  rw [all_eq_true] at hall
  have := hall q hq
  rwa [or_eq_true, decide_eq_true_iff, decide_eq_true_iff] at this

/-- Whatever is left behind a returned record comes after it. -/
theorem before_left (h : a.Accounted) (hr : first (a.due outOfPhase) = some r) (hq : q ∈ a.records)
    (hmissed : q ∉ a.missed outOfPhase) (hne : q ≠ r) : r.Before q := by
  have hmem := mem_filter.1 (mem_of_first hr)
  have hdue : r.due ≤ a.now := by
    have := hmem.2
    rw [and_eq_true, decide_eq_true_iff] at this
    exact this.1
  by_cases hqdue : q.due ≤ a.now
  · cases hphase : outOfPhase a.active q.phase with
    | false =>
      have hin : q ∈ a.due outOfPhase := mem_filter.2 ⟨hq, by simp [hqdue, hphase]⟩
      rcases first_before hr hin with rfl | hb
      · exact absurd rfl hne
      · exact hb
    | true =>
      have hnot : ¬ q.Before r := fun hb => hmissed (mem_filter.2 ⟨hq, by simp [hqdue, hphase, hr, hb]⟩)
      have horder : q.order ≠ r.order := by
        have honce : (a.records.map EventRecord.order).Nodup := by
          have := h.once
          rw [map_append, map_append, append_assoc] at this
          exact this.of_append_left
        exact fun heq => hne (inj_on_of_nodup_map honce hq hmem.1 heq)
      unfold EventRecord.Before at hnot ⊢
      omega
  · unfold EventRecord.Before
    omega

theorem Accounted.execute (h : a.Accounted) : (a.execute outOfPhase).2.Accounted := by
  have hmissed : ∀ r, count r (a.records.filter (· ∉ a.missed outOfPhase)) + count r (a.missed outOfPhase) ≤
      count r a.records := by
    intro r
    by_cases hr : r ∈ a.missed outOfPhase
    · have hout : count r (a.records.filter (· ∉ a.missed outOfPhase)) = 0 :=
        count_eq_zero.2 fun hm => by simpa [hr] using (mem_filter.1 hm).2
      have hsub : (a.missed outOfPhase).Sublist a.records := filter_sublist
      have := hsub.count_le r
      omega
    · have hin : count r (a.missed outOfPhase) = 0 := count_eq_zero.2 hr
      have := (filter_sublist (p := fun q => decide (q ∉ a.missed outOfPhase)) (l := a.records)).count_le r
      omega
  unfold TimedList.execute
  dsimp only
  split
  · refine h.move rfl (fun r => ?_) fun e he => .inl he
    have := hmissed r
    simp only [count_append]
    omega
  · rename_i r hr
    have hrec := mem_filter.1 (mem_of_first hr)
    refine h.move rfl (fun q => ?_) fun e he => ?_
    · have := hmissed q
      have hleft := count_filter_add (fun q => decide (q ≠ r)) (a.records.filter (· ∉ a.missed outOfPhase)) q
      have hone : count q [r] ≤ count q ((a.records.filter (· ∉ a.missed outOfPhase)).filter fun q => !decide (q ≠ r)) := by
        by_cases hqr : q = r
        · subst hqr
          have hnot : q ∉ a.missed outOfPhase := by
            intro hm
            have h1 := (mem_filter.1 hm).2
            have h2 := hrec.2
            cases hp : outOfPhase a.active q.phase <;> simp [hp] at h1 h2
          have hpos : 0 < count q ((a.records.filter (· ∉ a.missed outOfPhase)).filter fun q' => !decide (q' ≠ q)) :=
            count_pos_iff.2 (mem_filter.2 ⟨mem_filter.2 ⟨hrec.1, by simp [hnot]⟩, by simp⟩)
          rw [count_singleton_self]
          exact hpos
        · rw [count_eq_zero.2 (by simpa using hqr)]
          exact Nat.zero_le _
      simp only [count_append, map_append, map_cons, map_nil]
      omega
    · rcases mem_append.1 he with he | he
      · exact .inl he
      right
      rw [mem_singleton.1 he]
      have hdue := hrec.2
      rw [and_eq_true, decide_eq_true_iff] at hdue
      refine ⟨hdue.1, fun q hq => ?_⟩
      have hq1 := mem_filter.1 hq
      have hq2 := mem_filter.1 hq1.1
      exact before_left h hr hq2.1 (by simpa using hq2.2) (by simpa using hq1.2)

theorem Accounted.step (h : a.Accounted) (c : EventCall) : (a.step outOfPhase c).Accounted := by
  -- the calls that only touch the clock, the phases or nothing
  have hsame : ∀ now active, (⟨now, a.next, active, a.records, a.last, a.returned, a.gone⟩ : TimedList).Accounted :=
    fun now active => ⟨h.numbered, h.once, h.in_order⟩
  unfold TimedList.step call
  cases c with
  | scheduleEvent eventId time group phase => exact h.put _ _
  | rescheduleEvent eventId time group phase => exact (h.remove _).put _ _
  | repeatEvent time => exact h.put _ _
  | update time => exact hsame _ _
  | delayTimer delay => exact hsame _ _
  | delayEvents delay group => dsimp only; split_ifs; exacts [h, h.delayGroup _ _]
  | cancelEvent eventId => exact h.remove _
  | cancelEventGroup group => dsimp only; split_ifs; exacts [h, h.remove _]
  | cancelEventsByGCD gcd => dsimp only; split_ifs; exacts [h, h.remove _]
  | setPhase phase => exact hsame _ _
  | addPhase phase => dsimp only; split_ifs; exacts [h, hsame _ _]
  | removePhase phase => exact hsame _ _
  | executeEvent => exact h.execute

end TimedList

end ComfyCraft
