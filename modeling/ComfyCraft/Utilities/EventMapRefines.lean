import ComfyCraft.Lib.Runs
import ComfyCraft.Utilities.EventWord
import ComfyCraft.Utilities.TimedList
import Mathlib.Data.List.Pairwise

/-! The event map does what the plain list does: its multimap is the records of the list, packed, in the order in which
they come up. A record is out of phase while some phase is active and its own is not. -/

namespace ComfyCraft

open List EventMap List.Perm Multimap

open EventMap (word Fits GcdHits)

def outOfActive (active : Finset Nat) (phase : Nat) : Bool := active ≠ ∅ ∧ phase ≠ 0 ∧ phase ∉ active

def EventRecord.entry (r : EventRecord) : UInt32 × UInt32 := (UInt32.ofNat r.due, word r.what)

/-- What `ExecuteEvent` returns for a record. -/
def answerOf : Option EventRecord → UInt32
  | none => 0
  | some r => UInt32.ofNat r.id

/-- The event ids are 1 to 65535, the groups and phases 0 to 8, and no time passes 2^32. -/
def InRange (a : TimedList) : EventCall → Prop
  | .scheduleEvent eventId time group phase =>
    1 ≤ eventId.toNat ∧ Fits (eventId.toNat, group.toNat, phase.toNat) ∧ a.now + time.toNat < 2 ^ 32
  | .rescheduleEvent eventId time group phase =>
    1 ≤ eventId.toNat ∧ Fits (eventId.toNat, group.toNat, phase.toNat) ∧ a.now + time.toNat < 2 ^ 32
  | .repeatEvent time => a.now + time.toNat < 2 ^ 32
  | .update time => a.now + time.toNat < 2 ^ 32
  | .delayTimer _ => True
  | .delayEvents delay group => group.toNat ≤ 8 ∧ ∀ r ∈ a.records, r.group = group.toNat → r.due + delay.toNat < 2 ^ 32
  | .cancelEvent eventId => 1 ≤ eventId.toNat ∧ eventId.toNat < 2 ^ 16
  | .cancelEventGroup group => group.toNat ≤ 8
  | .cancelEventsByGCD gcd => gcd.toNat ≤ 8
  | .setPhase phase => phase.toNat ≤ 8
  | .addPhase phase => phase.toNat ≤ 8
  | .removePhase phase => phase.toNat ≤ 8
  | .executeEvent => True

/-- The bit that `CancelEventsByGCD` looks at is that of the records of its group. -/
def GcdOwn (a : TimedList) : EventCall → Prop
  | .cancelEventsByGCD gcd => ∀ r ∈ a.records, GcdHits gcd.toNat r.what ↔ gcd ≠ 0 ∧ r.group = gcd.toNat
  | _ => True

instance (what : Nat × Nat × Nat) : Decidable (Fits what) :=
  inferInstanceAs (Decidable (what.1 < 2 ^ 16 ∧ what.2.1 ≤ 8 ∧ what.2.2 ≤ 8))

instance (a : TimedList) (c : EventCall) : Decidable (InRange a c) := by
  cases c <;> unfold InRange <;> infer_instance

instance (a : TimedList) (c : EventCall) : Decidable (GcdOwn a c) := by
  cases c <;> unfold GcdOwn <;> infer_instance

/-! The phases. -/

theorem testBit_phase {phase : UInt8} (h0 : phase ≠ 0) (h8 : phase.toNat ≤ 8) (i : Nat) :
    ((1 : UInt8) <<< (phase - 1)).toNat.testBit i = decide (phase.toNat = i + 1) := by
  have hpos : phase.toNat ≠ 0 := fun h => h0 (UInt8.toNat_inj.1 h)
  have hle : (1 : UInt8) ≤ phase := UInt8.le_iff_toNat_le.2 (Nat.pos_of_ne_zero hpos)
  have hsub : (phase - 1).toNat = phase.toNat - 1 := UInt8.toNat_sub_of_le _ _ hle
  have hlt : (phase - 1).toNat < 8 := by omega
  have hpow : 2 ^ (phase - 1).toNat < 2 ^ 8 := Nat.pow_lt_pow_right (by decide) hlt
  rw [UInt8.toNat_shiftLeft, Nat.mod_eq_of_lt hlt, Nat.shiftLeft_eq, UInt8.toNat_one, one_mul, Nat.mod_eq_of_lt hpow,
    Nat.testBit_two_pow, decide_eq_decide, hsub]
  omega

theorem testBit_without (mask flag : UInt8) (i : Nat) :
    (mask &&& ~~~flag).toNat.testBit i = (mask.toNat.testBit i && !flag.toNat.testBit i) := by
  have hbits : (mask &&& ~~~flag).toBitVec.getLsbD i = (mask.toBitVec.getLsbD i && !flag.toBitVec.getLsbD i) := by
    rw [UInt8.toBitVec_and, UInt8.toBitVec_not, BitVec.getLsbD_and, BitVec.getLsbD_not]
    by_cases hi : i < 8
    · simp [hi]
    · simp [hi, BitVec.getLsbD_of_ge mask.toBitVec i (by omega)]
  exact hbits

/-- The mask holds the phases that are active. -/
def Phases (mask : UInt8) (active : Finset Nat) : Prop := ∀ p, p ∈ active ↔ p ≠ 0 ∧ mask.toNat.testBit (p - 1) = true

theorem Phases.zero : Phases 0 ∅ := by
  intro p
  simp

theorem Phases.set {phase : UInt8} (h0 : phase ≠ 0) (h8 : phase.toNat ≤ 8) : Phases (1 <<< (phase - 1)) {phase.toNat} := by
  have hpos : phase.toNat ≠ 0 := fun h => h0 (UInt8.toNat_inj.1 h)
  intro p
  rw [Finset.mem_singleton, testBit_phase h0 h8, decide_eq_true_iff]
  omega

variable {r : EventRecord} {active : Finset Nat} {records : List EventRecord} {group time : UInt32}
  {test : UInt32 × UInt32 → Bool} {mask : UInt8} {what : Nat × Nat × Nat}

theorem Phases.add {phase : UInt8} (h : Phases mask active) (h0 : phase ≠ 0) (h8 : phase.toNat ≤ 8) :
    Phases (mask ||| (1 <<< (phase - 1))) (insert phase.toNat active) := by
  have hpos : phase.toNat ≠ 0 := fun h => h0 (UInt8.toNat_inj.1 h)
  intro p
  rw [Finset.mem_insert, h p, UInt8.toNat_or, Nat.testBit_or, Bool.or_eq_true, testBit_phase h0 h8, decide_eq_true_iff]
  constructor
  · rintro (rfl | ⟨hp, hb⟩)
    · exact ⟨hpos, .inr (by omega)⟩
    · exact ⟨hp, .inl hb⟩
  · rintro ⟨hp, hb | hb⟩
    · exact .inr ⟨hp, hb⟩
    · exact .inl (by omega)

theorem Phases.remove {phase : UInt8} (h : Phases mask active) (h0 : phase ≠ 0) (h8 : phase.toNat ≤ 8) :
    Phases (mask &&& ~~~(1 <<< (phase - 1))) (active.erase phase.toNat) := by
  intro p
  rw [Finset.mem_erase, h p, testBit_without, testBit_phase h0 h8, Bool.and_eq_true, Bool.not_eq_true', decide_eq_false_iff_not]
  constructor
  · rintro ⟨hne, hp, hb⟩
    exact ⟨hp, hb, by omega⟩
  · rintro ⟨hp, hb, hne⟩
    exact ⟨by omega, hp, hb⟩

theorem Phases.outOfPhase (h : Phases mask active) (hw : Fits what) :
    EventMap.outOfPhase mask (word what) = outOfActive active what.2.2 := by
  have hempty : mask ≠ 0 ↔ active ≠ ∅ := by
    rw [not_iff_not]
    constructor
    · rintro rfl
      refine Finset.eq_empty_of_forall_notMem fun p hp => ?_
      have := ((h p).1 hp).2
      rw [UInt8.toNat_zero, Nat.zero_testBit] at this
      cases this
    · rintro rfl
      refine UInt8.toNat_inj.1 (Nat.eq_of_testBit_eq fun i => ?_)
      rw [UInt8.toNat_zero, Nat.zero_testBit]
      cases hb : mask.toNat.testBit i with
      | false => rfl
      | true => exact absurd ((h (i + 1)).2 ⟨Nat.succ_ne_zero i, hb⟩) (Finset.notMem_empty _)
  unfold outOfActive
  rw [outOfPhase_word hw, decide_eq_decide, hempty, h what.2.2]
  cases mask.toNat.testBit (what.2.2 - 1) <;> simp

/-! The multimap. -/

/-- The event map holds the records of the list, which `l` has in the order in which they come up. -/
structure Represents (m : EventMap) (a : TimedList) (l : List EventRecord) : Prop where
  time : m.time.toNat = a.now
  phases : Phases m.phase a.active
  last : m.lastEvent = word a.last
  last_fits : Fits a.last
  perm : l.Perm a.records
  sorted : l.Pairwise EventRecord.Before
  eventMap : m.eventMap = l.map EventRecord.entry
  fits : ∀ r ∈ a.records, Fits r.what ∧ r.due < 2 ^ 32
  numbered : ∀ r ∈ a.records, r.order < a.next

theorem Represents.start : Represents EventMap.start TimedList.start [] where
  time := rfl
  phases := Phases.zero
  last := rfl
  last_fits := ⟨by decide, by decide, by decide⟩
  perm := List.Perm.refl _
  sorted := List.Pairwise.nil
  eventMap := rfl
  fits r hr := by cases hr
  numbered r hr := by cases hr

variable {m : EventMap} {a : TimedList} {l : List EventRecord}

theorem entry_due (h : r.due < 2 ^ 32) : r.entry.1.toNat = r.due := UInt32.toNat_ofNat_of_lt' h

theorem Represents.put (h : Represents m a l) {due : Nat} (hdue : due < 2 ^ 32) (hw : Fits what) :
    ∃ l', Represents (m.insertEvent (UInt32.ofNat due) (word what)) (a.put due what) l' := by
  let r : EventRecord := ⟨due, a.next, what.1, what.2.1, what.2.2⟩
  have hmem : ∀ q ∈ l, q ∈ a.records := fun q hq => h.perm.mem_iff.1 hq
  refine ⟨insert EventRecord.due r l, h.time, h.phases, h.last, h.last_fits, ?_, ?_, ?_, ?_, ?_⟩
  · refine (insert_perm _ _ _).trans ((h.perm.cons r).trans ?_)
    exact (perm_append_singleton r a.records).symm
  · refine insert_sorted h.sorted (fun b c hbc => hbc.due_le) (fun b hb hle => ?_) fun b _ hlt => .inl hlt
    have := h.numbered b (hmem b hb)
    rcases lt_or_eq_of_le hle with hlt | heq
    · exact .inl hlt
    · exact .inr ⟨heq, this⟩
  · have hentry : r.entry = (UInt32.ofNat due, word what) := rfl
    unfold EventMap.insertEvent EventMap.put
    rw [← hentry, h.eventMap]
    refine (map_insert fun b hb => ?_).symm
    rw [entry_due (h.fits b (hmem b hb)).2, entry_due (r := r) hdue]
  · intro q hq
    rcases mem_append.1 hq with hq | hq
    · exact h.fits q hq
    · rw [mem_singleton.1 hq]
      exact ⟨hw, hdue⟩
  · intro q hq
    rcases mem_append.1 hq with hq | hq
    · exact Nat.lt_succ_of_lt (h.numbered q hq)
    · rw [mem_singleton.1 hq]
      exact Nat.lt_succ_self _

/-- Some of the records, kept by a test on their words. -/
theorem Represents.filter (h : Represents m a l) {a' : TimedList} {keep : EventRecord → Bool}
    (htest : ∀ r ∈ a.records, test r.entry = keep r) (hrecords : a'.records = a.records.filter keep) (hnow : a'.now = a.now)
    (hactive : a'.active = a.active) (hlast : a'.last = a.last) (hnext : a'.next = a.next) :
    Represents { m with eventMap := m.eventMap.filter test } a' (l.filter keep) := by
  refine ⟨h.time.trans hnow.symm, ?_, ?_, ?_, ?_, h.sorted.filter keep, ?_, ?_, ?_⟩
  · rw [hactive]
    exact h.phases
  · rw [hlast]
    exact h.last
  · rw [hlast]
    exact h.last_fits
  · rw [hrecords]
    exact h.perm.filter keep
  · have hmap : (l.map EventRecord.entry).filter test = (l.filter keep).map EventRecord.entry := by
      rw [filter_map]
      congr 1
      exact filter_congr fun r hr => htest r (h.perm.mem_iff.1 hr)
    exact (congrArg (List.filter test) h.eventMap).trans hmap
  · intro r hr
    rw [hrecords] at hr
    exact h.fits r (mem_filter.1 hr).1
  · intro r hr
    rw [hrecords] at hr
    rw [hnext]
    exact h.numbered r (mem_filter.1 hr).1

theorem Represents.remove (h : Represents m a l) {p : EventRecord → Bool} (htest : ∀ r ∈ a.records, test r.entry = !p r) :
    ∃ l', Represents { m with eventMap := m.eventMap.filter test } (a.remove p) l' :=
  ⟨_, h.filter htest rfl rfl rfl rfl rfl⟩

theorem word_toNat (eventId group : UInt32) (phase : UInt8) :
    word (eventId.toNat, group.toNat, phase.toNat) = EventMap.packed eventId group phase := by
  unfold word
  rw [UInt32.ofNat_toNat, UInt32.ofNat_toNat, UInt8.ofNat_toNat]

theorem ofNat_later (h : Represents m a l) : m.time + time = UInt32.ofNat (a.now + time.toNat) := by
  rw [← h.time, UInt32.ofNat_add, UInt32.ofNat_toNat, UInt32.ofNat_toNat]

theorem Represents.schedule (h : Represents m a l) {eventId : UInt32} {phase : UInt8}
    (hw : Fits (eventId.toNat, group.toNat, phase.toNat)) (htime : a.now + time.toNat < 2 ^ 32) :
    ∃ l', Represents (m.scheduleEvent eventId time group phase)
      (a.put (a.now + time.toNat) (eventId.toNat, group.toNat, phase.toNat)) l' := by
  unfold scheduleEvent
  rw [ofNat_later h, ← word_toNat]
  exact h.put htime hw

theorem before_or_before (hl : l.Pairwise EventRecord.Before) {q : EventRecord} (hr : r ∈ l) (hq : q ∈ l) (hne : r ≠ q) :
    r.Before q ∨ q.Before r := by
  have hsymm : Std.Symm fun r q : EventRecord => r.Before q ∨ q.Before r := ⟨fun _ _ h => h.symm⟩
  have hl' : l.Pairwise fun r q => r.Before q ∨ q.Before r := hl.imp fun h => .inl h
  exact hl'.forall hr hq hne

theorem inOrder_eq {l : List EventRecord} (hl : l.Pairwise EventRecord.Before) (hperm : l.Perm records) :
    TimedList.inOrder records = l := by
  refine eq_of_pairwise (fun r q hr hq h1 h2 => ?_) (pairwise_insertionSort _ _)
    (hl.imp fun h => h.asymm) ((perm_insertionSort _ _).trans hperm.symm)
  have hr : r ∈ l := hperm.mem_iff.2 (mem_insertionSort _ |>.1 hr)
  by_contra hne
  rcases before_or_before hl hr hq hne with hb | hb
  · exact h2 hb
  · exact h1 hb

theorem shift_entry {delay : UInt32} (r : EventRecord) :
    (r.entry.1 + delay, r.entry.2) = (UInt32.ofNat (r.due + delay.toNat), word r.what) := by
  unfold EventRecord.entry
  rw [UInt32.ofNat_add, UInt32.ofNat_toNat]

theorem Represents.putAll (h : Represents m a l) (delay : UInt32) (lg : List EventRecord)
    (hlg : ∀ r ∈ lg, Fits r.what ∧ r.due + delay.toNat < 2 ^ 32) :
    ∃ l', Represents { m with eventMap := (lg.map fun r => (r.entry.1 + delay, r.entry.2)).foldl (fun events e => EventMap.put e events) m.eventMap }
      (lg.foldl (fun a r => a.put (r.due + delay.toNat) r.what) a) l' := by
  induction lg generalizing m a l with
  | nil => exact ⟨l, h⟩
  | cons r rs ih =>
    obtain ⟨hw, hdue⟩ := hlg r mem_cons_self
    obtain ⟨l1, h1⟩ := h.put hdue hw
    obtain ⟨l2, h2⟩ := ih h1 fun q hq => hlg q (mem_cons_of_mem _ hq)
    refine ⟨l2, ?_⟩
    rw [map_cons, foldl_cons, foldl_cons, shift_entry]
    exact h2

theorem Represents.delay (h : Represents m a l) {delay : UInt32} (h0 : group ≠ 0) (h8 : group.toNat ≤ 8)
    (hdue : ∀ r ∈ a.records, r.group = group.toNat → r.due + delay.toNat < 2 ^ 32) :
    ∃ l', Represents (m.delayEvents delay group) (a.delayGroup delay.toNat group.toNat) l' := by
  have hle : group ≤ 8 := UInt32.le_iff_toNat_le.2 h8
  have htest : ∀ r ∈ a.records, inGroup group r.entry.2 = decide (r.group = group.toNat) :=
    fun r hr => inGroup_word (h.fits r hr).1 h0 hle
  let lg := l.filter fun r => r.group = group.toNat
  have hlg : ∀ r ∈ lg, r ∈ a.records ∧ r.group = group.toNat := by
    intro r hr
    obtain ⟨hr, hgroup⟩ := mem_filter.1 hr
    exact ⟨h.perm.mem_iff.1 hr, by simpa using hgroup⟩
  have hsorted : TimedList.inOrder (a.records.filter fun r => r.group = group.toNat) = lg :=
    inOrder_eq (h.sorted.filter _) (h.perm.filter _)
  have hrest : Represents { m with eventMap := m.eventMap.filter fun e => !inGroup group e.2 }
      { a with records := a.records.filter fun r => r.group ≠ group.toNat } (l.filter fun r => r.group ≠ group.toNat) :=
    h.filter (fun r hr => by rw [htest r hr, decide_not]) rfl rfl rfl rfl rfl
  obtain ⟨l', hput⟩ := hrest.putAll delay lg fun r hr => ⟨(h.fits r (hlg r hr).1).1, hdue r (hlg r hr).1 (hlg r hr).2⟩
  have hgroup : m.eventMap.filter (fun e => inGroup group e.2) = lg.map EventRecord.entry := by
    rw [h.eventMap, filter_map]
    congr 1
    exact filter_congr fun r hr => htest r (h.perm.mem_iff.1 hr)
  have hdelayed : (m.eventMap.filter fun e => inGroup group e.2).foldl
      (fun delayed e => EventMap.put (e.1 + delay, e.2) delayed) [] = lg.map fun r => (r.entry.1 + delay, r.entry.2) := by
    have hpair : ([] ++ lg.map fun r : EventRecord => (r.entry.1 + delay, r.entry.2)).Pairwise
        fun b c : UInt32 × UInt32 => b.1.toNat ≤ c.1.toNat := by
      rw [nil_append, pairwise_map]
      refine (h.sorted.filter _).imp_of_mem fun {r q} hr hq hrq => ?_
      have hr' := hlg r hr
      have hq' := hlg q hq
      have := hrq.due_le
      rw [shift_entry, shift_entry, UInt32.toNat_ofNat_of_lt' (hdue r hr'.1 hr'.2), UInt32.toNat_ofNat_of_lt' (hdue q hq'.1 hq'.2)]
      omega
    have hfold := foldl_insert_sorted (fun e : UInt32 × UInt32 => e.1.toNat) hpair
    rw [hgroup, foldl_map]
    rw [foldl_map, nil_append] at hfold
    exact hfold
  refine ⟨l', ?_⟩
  unfold TimedList.delayGroup
  rw [hsorted]
  unfold delayEvents
  by_cases hempty : m.eventMap = []
  · have hnil : lg = [] := by
      rw [hempty] at hgroup
      exact map_eq_nil_iff.1 hgroup.symm
    have hkeep : m.eventMap.filter (fun e => !inGroup group e.2) = m.eventMap := by rw [hempty]; rfl
    rw [if_pos (.inr (.inr hempty))]
    simp only [hnil, hkeep, map_nil, foldl_nil] at hput ⊢
    exact hput
  · rw [if_neg (by simp [h0, hempty, UInt32.not_lt.2 hle])]
    dsimp only
    rw [hdelayed]
    exact hput

/-! `ExecuteEvent`. -/

def dropped (a : TimedList) (r : EventRecord) : Bool := r.due ≤ a.now && outOfActive a.active r.phase

theorem nextDue_entries (h : Represents m a l) : EventMap.nextDue m.time m.phase (l.map EventRecord.entry) =
      match l.dropWhile (dropped a) with
      | [] => (none, [])
      | r :: rs => if r.due ≤ a.now then (some (word r.what), rs.map EventRecord.entry)
        else (none, (r :: rs).map EventRecord.entry) := by
  have hfits : ∀ r ∈ l, Fits r.what ∧ r.due < 2 ^ 32 := fun r hr => h.fits r (h.perm.mem_iff.1 hr)
  have htime := h.time
  have hphases := h.phases
  clear h
  induction l with
  | nil => rfl
  | cons r rs ih =>
    obtain ⟨hw, hdue⟩ := hfits r mem_cons_self
    have ih := ih fun q hq => hfits q (mem_cons_of_mem _ hq)
    have hlate : m.time < r.entry.1 ↔ ¬ r.due ≤ a.now := by
      rw [UInt32.lt_iff_toNat_lt, entry_due hdue, htime]
      omega
    have hphase : outOfPhase m.phase r.entry.2 = outOfActive a.active r.phase := hphases.outOfPhase hw
    rw [map_cons, nextDue]
    by_cases hle : r.due ≤ a.now
    · rw [if_neg (by rw [hlate]; exact not_not.2 hle), hphase]
      cases hout : outOfActive a.active r.phase with
      | true =>
        rw [if_pos rfl, ih, dropWhile_cons_of_pos (by simp [dropped, hle, hout])]
      | false =>
        rw [if_neg (by decide), dropWhile_cons_of_neg (by simp [dropped, hout])]
        dsimp only
        rw [if_pos hle]
        rfl
    · rw [if_pos (hlate.2 hle), dropWhile_cons_of_neg (by simp [dropped, hle])]
      dsimp only
      rw [if_neg hle]
      rfl

theorem first_eq_none (h : records = []) : TimedList.first records = none := by
  rw [h]
  rfl

theorem first_eq_some (hr : r ∈ records) (hb : ∀ q ∈ records, r = q ∨ r.Before q) : TimedList.first records = some r := by
  cases hf : TimedList.first records with
  | none =>
    have hnot := find?_eq_none.1 hf r hr
    refine absurd (all_eq_true.2 fun q hq => ?_) hnot
    rw [Bool.or_eq_true, decide_eq_true_iff, decide_eq_true_iff]
    exact hb q hq
  | some q =>
    rcases hb q (TimedList.mem_of_first hf) with rfl | h1
    · rfl
    rcases TimedList.first_before hf hr with rfl | h2
    · rfl
    · exact absurd h1 h2.asymm

theorem execute_none (h : TimedList.first (a.due outOfActive) = none) :
    (a.execute outOfActive).1 = none ∧ (a.execute outOfActive).2.records = a.records.filter (· ∉ a.missed outOfActive) := by
  unfold TimedList.execute
  dsimp only
  rw [h]
  exact ⟨rfl, rfl⟩

theorem execute_some (h : TimedList.first (a.due outOfActive) = some r) :
    (a.execute outOfActive).1 = some r ∧ (a.execute outOfActive).2.last = r.what ∧
      (a.execute outOfActive).2.records = (a.records.filter (· ∉ a.missed outOfActive)).filter (· ≠ r) := by
  unfold TimedList.execute
  dsimp only
  rw [h]
  exact ⟨rfl, rfl, rfl⟩

theorem mem_due : r ∈ a.due outOfActive ↔ r ∈ a.records ∧ r.due ≤ a.now ∧ outOfActive a.active r.phase = false := by
  unfold TimedList.due
  rw [mem_filter, Bool.and_eq_true, decide_eq_true_iff, Bool.not_eq_true']

theorem mem_missed : r ∈ a.missed outOfActive ↔ r ∈ a.records ∧ dropped a r = true ∧
      (TimedList.first (a.due outOfActive)).all (fun n => decide (r.Before n)) = true := by
  unfold TimedList.missed dropped
  rw [mem_filter, Bool.and_eq_true]

theorem dropped_iff : dropped a r = true ↔ r.due ≤ a.now ∧ outOfActive a.active r.phase = true := by
  unfold dropped
  rw [Bool.and_eq_true, decide_eq_true_iff]

/-- The records in the order they come up: those the loop drops, then what it stops at. -/
theorem execute_eq (hsorted : l.Pairwise EventRecord.Before) (hperm : l.Perm a.records) : match l.dropWhile (dropped a) with
    | [] => (a.execute outOfActive).1 = none ∧ (a.execute outOfActive).2.records = []
    | r :: rs =>
      if r.due ≤ a.now then (a.execute outOfActive).1 = some r ∧ rs.Perm (a.execute outOfActive).2.records
      else (a.execute outOfActive).1 = none ∧ (r :: rs).Perm (a.execute outOfActive).2.records := by
  have hl : l.takeWhile (dropped a) ++ l.dropWhile (dropped a) = l := takeWhile_append_dropWhile
  have htake : ∀ q ∈ l.takeWhile (dropped a), dropped a q = true := fun q hq => mem_takeWhile_imp hq
  generalize l.takeWhile (dropped a) = front at hl htake
  have hstop : ∀ r rs, l.dropWhile (dropped a) = r :: rs → dropped a r = false := by
    intro r rs hrs
    have := head?_dropWhile_not (dropped a) l
    rw [hrs] at this
    simpa using this
  generalize l.dropWhile (dropped a) = rest at hl hstop
  subst hl
  have hmem : ∀ q, q ∈ a.records ↔ q ∈ front ∨ q ∈ rest := fun q => by rw [← hperm.mem_iff, mem_append]
  obtain ⟨-, hrest, hacross⟩ := pairwise_append.1 hsorted
  have hfront : ∀ q ∈ front, q ∉ a.due outOfActive := by
    intro q hq hdue
    have := (dropped_iff.1 (htake q hq)).2
    rw [(mem_due.1 hdue).2.2] at this
    cases this
  cases rest with
  | nil =>
    have hnone : TimedList.first (a.due outOfActive) = none := by
      refine first_eq_none (eq_nil_iff_forall_not_mem.2 fun q hq => ?_)
      rcases (hmem q).1 (mem_due.1 hq).1 with hf | hr
      · exact hfront q hf hq
      · cases hr
    refine ⟨(execute_none hnone).1, ?_⟩
    rw [(execute_none hnone).2, filter_eq_nil_iff]
    intro q hq
    rcases (hmem q).1 hq with hf | hr
    · rw [decide_eq_true_iff, not_not]
      exact mem_missed.2 ⟨hq, htake q hf, by rw [hnone]; rfl⟩
    · cases hr
  | cons r rs =>
    obtain ⟨hrb, -⟩ := pairwise_cons.1 hrest
    have hr := hstop r rs rfl
    dsimp only
    split_ifs with hle
    · have hin : r ∈ a.due outOfActive := by
        refine mem_due.2 ⟨(hmem r).2 (.inr mem_cons_self), hle, ?_⟩
        cases hout : outOfActive a.active r.phase with
        | false => rfl
        | true => rw [dropped_iff.2 ⟨hle, hout⟩] at hr; cases hr
      have hfirst : TimedList.first (a.due outOfActive) = some r := by
        refine first_eq_some hin fun q hq => ?_
        rcases (hmem q).1 (mem_due.1 hq).1 with hf | hq'
        · exact absurd hq (hfront q hf)
        rcases mem_cons.1 hq' with rfl | hq'
        · exact .inl rfl
        · exact .inr (hrb q hq')
      refine ⟨(execute_some hfirst).1, ?_⟩
      rw [(execute_some hfirst).2.2]
      refine List.Perm.trans (List.Perm.of_eq ?_) ((hperm.filter _).filter _)
      -- the front is missed, what is behind the record is not
      have hf1 : front.filter (· ∉ a.missed outOfActive) = [] := by
        refine filter_eq_nil_iff.2 fun q hq => ?_
        rw [decide_eq_true_iff, not_not]
        refine mem_missed.2 ⟨(hmem q).2 (.inl hq), htake q hq, ?_⟩
        rw [hfirst]
        exact decide_eq_true (hacross q hq r mem_cons_self)
      have hf2 : (r :: rs).filter (· ∉ a.missed outOfActive) = r :: rs := by
        refine filter_eq_self.2 fun q hq => ?_
        rw [decide_eq_true_iff, mem_missed, hfirst]
        rintro ⟨-, hd, hb⟩
        rcases mem_cons.1 hq with rfl | hq
        · rw [hr] at hd
          cases hd
        · exact (hrb q hq).asymm (of_decide_eq_true hb)
      have hf3 : rs.filter (· ≠ r) = rs := by
        refine filter_eq_self.2 fun q hq => ?_
        rw [decide_eq_true_iff]
        rintro rfl
        exact (hrb q hq).asymm (hrb q hq)
      rw [filter_append, hf1, hf2, nil_append, filter_cons_of_neg (by simp), hf3]
    · have hlate : ∀ q ∈ r :: rs, ¬ q.due ≤ a.now := by
        intro q hq
        rcases mem_cons.1 hq with rfl | hq
        · exact hle
        · have := (hrb q hq).due_le
          omega
      have hnone : TimedList.first (a.due outOfActive) = none := by
        refine first_eq_none (eq_nil_iff_forall_not_mem.2 fun q hq => ?_)
        rcases (hmem q).1 (mem_due.1 hq).1 with hf | hq'
        · exact hfront q hf hq
        · exact hlate q hq' (mem_due.1 hq).2.1
      refine ⟨(execute_none hnone).1, ?_⟩
      rw [(execute_none hnone).2]
      refine List.Perm.trans (List.Perm.of_eq ?_) (hperm.filter _)
      have hf1 : front.filter (· ∉ a.missed outOfActive) = [] := by
        refine filter_eq_nil_iff.2 fun q hq => ?_
        rw [decide_eq_true_iff, not_not]
        exact mem_missed.2 ⟨(hmem q).2 (.inl hq), htake q hq, by rw [hnone]; rfl⟩
      have hf2 : (r :: rs).filter (· ∉ a.missed outOfActive) = r :: rs := by
        refine filter_eq_self.2 fun q hq => ?_
        rw [decide_eq_true_iff, mem_missed]
        rintro ⟨-, hd, -⟩
        exact hlate q hq (dropped_iff.1 hd).1
      rw [filter_append, hf1, hf2, nil_append]

theorem execute_fields : (a.execute outOfActive).2.now = a.now ∧ (a.execute outOfActive).2.active = a.active ∧
      (a.execute outOfActive).2.next = a.next ∧ (∀ r ∈ (a.execute outOfActive).2.records, r ∈ a.records) ∧
      (a.execute outOfActive).2.last = ((a.execute outOfActive).1.map EventRecord.what).getD a.last := by
  unfold TimedList.execute
  dsimp only
  split
  · exact ⟨rfl, rfl, rfl, fun r hr => (mem_filter.1 hr).1, rfl⟩
  · exact ⟨rfl, rfl, rfl, fun r hr => (mem_filter.1 (mem_filter.1 hr).1).1, rfl⟩

/-- After a call of `ExecuteEvent` that leaves `rest`. -/
theorem Represents.left (h : Represents m a l) {rest : List EventRecord} (hsub : rest.Sublist l)
    (hperm : rest.Perm (a.execute outOfActive).2.records) (lastEvent : UInt32)
    (hlast : lastEvent = word (a.execute outOfActive).2.last) (hfits : Fits (a.execute outOfActive).2.last) :
    Represents { m with eventMap := rest.map EventRecord.entry, lastEvent := lastEvent } (a.execute outOfActive).2 rest := by
  obtain ⟨hnow, hactive, hnext, hmem, -⟩ := execute_fields (a := a)
  refine ⟨h.time.trans hnow.symm, ?_, hlast, hfits, hperm, h.sorted.sublist hsub, rfl, ?_, ?_⟩
  · rw [hactive]
    exact h.phases
  · exact fun r hr => h.fits r (hmem r hr)
  · intro r hr
    rw [hnext]
    exact h.numbered r (hmem r hr)

theorem answerOf_word (hw : Fits r.what) : EventMap.eventIdOf (word r.what) = answerOf (some r) := by
  refine UInt32.toNat_inj.1 ?_
  rw [eventIdOf_word hw]
  exact (UInt32.toNat_ofNat_of_lt' (lt_trans hw.1 (by decide))).symm

theorem Represents.execute (h : Represents m a l) : m.executeEvent.1 = answerOf (a.execute outOfActive).1 ∧
      ∃ l', Represents m.executeEvent.2 (a.execute outOfActive).2 l' := by
  have hnext := nextDue_entries h
  have hlist := execute_eq h.sorted h.perm
  have hsub : (l.dropWhile (dropped a)).Sublist l := dropWhile_sublist _
  obtain ⟨-, -, -, -, hlast⟩ := execute_fields (a := a)
  rw [← h.eventMap] at hnext
  have hnone : ∀ rest : List EventRecord, rest.Sublist l → (a.execute outOfActive).1 = none →
      rest.Perm (a.execute outOfActive).2.records → nextDue m.time m.phase m.eventMap = (none, rest.map EventRecord.entry) →
      m.executeEvent.1 = answerOf (a.execute outOfActive).1 ∧
        ∃ l', Represents m.executeEvent.2 (a.execute outOfActive).2 l' := by
    intro rest hrest h1 h2 h3
    have hsame : (a.execute outOfActive).2.last = a.last := by rw [hlast, h1]; rfl
    have hrep := h.left hrest h2 m.lastEvent (by rw [hsame]; exact h.last) (by rw [hsame]; exact h.last_fits)
    unfold executeEvent
    rw [h1, h3]
    exact ⟨rfl, rest, hrep⟩
  generalize l.dropWhile (dropped a) = rest at hnext hlist hsub
  cases rest with
  | nil => exact hnone [] (nil_sublist l) hlist.1 (of_eq hlist.2.symm) hnext
  | cons r rs =>
    dsimp only at hnext hlist
    by_cases hdue : r.due ≤ a.now
    · rw [if_pos hdue] at hnext hlist
      have hw := (h.fits r (h.perm.mem_iff.1 (hsub.subset mem_cons_self))).1
      have hwhat : (a.execute outOfActive).2.last = r.what := by rw [hlast, hlist.1]; rfl
      have hrep := h.left ((sublist_cons_self r rs).trans hsub) hlist.2 (word r.what) (by rw [hwhat]) (by rw [hwhat]; exact hw)
      unfold executeEvent
      rw [hlist.1, hnext]
      exact ⟨answerOf_word hw, rs, hrep⟩
    · rw [if_neg hdue] at hnext hlist
      exact hnone (r :: rs) hsub hlist.1 hlist.2 hnext

/-! Every call. -/

section

variable (h : Represents m a l)
include h

theorem Represents.clock {now : Nat} (htime : time.toNat = now) : Represents { m with time := time } { a with now := now } l :=
  ⟨htime, h.phases, h.last, h.last_fits, h.perm, h.sorted, h.eventMap, h.fits, h.numbered⟩

theorem Represents.phase {phase : UInt8} (hphases : Phases phase active) :
    Represents { m with phase := phase } { a with active := active } l :=
  ⟨h.time, hphases, h.last, h.last_fits, h.perm, h.sorted, h.eventMap, h.fits, h.numbered⟩

theorem Represents.cancel (eventId : UInt32) :
    ∃ l', Represents (m.cancelEvent eventId) (a.remove fun r => r.id = eventId.toNat) l' := by
  refine h.remove fun r hr => ?_
  have hid := eventIdOf_word (h.fits r hr).1
  change decide (eventIdOf (word r.what) ≠ eventId) = _
  rw [← decide_not, decide_eq_decide, ne_eq, ← UInt32.toNat_inj, hid]
  exact Iff.rfl

theorem Represents.cancelGroup (h8 : group.toNat ≤ 8) : ∃ l', Represents (m.cancelEventGroup group)
      (if group = 0 then a else a.remove fun r => r.group = group.toNat) l' := by
  have hle : group ≤ 8 := UInt32.le_iff_toNat_le.2 h8
  unfold cancelEventGroup
  by_cases h0 : group = 0
  · rw [if_pos (.inl h0), if_pos h0]
    exact ⟨l, h⟩
  · rw [if_neg (by simp [h0, UInt32.not_lt.2 hle]), if_neg h0]
    exact h.remove fun r hr => congrArg not (inGroup_word (h.fits r hr).1 h0 hle)

theorem Represents.cancelGcd {gcd : UInt32} (h8 : gcd.toNat ≤ 8)
    (hown : ∀ r ∈ a.records, GcdHits gcd.toNat r.what ↔ gcd ≠ 0 ∧ r.group = gcd.toNat) :
    ∃ l', Represents (m.cancelEventsByGCD gcd) (if gcd = 0 then a else a.remove fun r => r.group = gcd.toNat) l' := by
  have hkeep : ∀ r ∈ a.records, decide (r.entry.2 &&& (1 <<< (gcd + 16)) = 0) = decide ¬ (gcd ≠ 0 ∧ r.group = gcd.toNat) := by
    intro r hr
    rw [decide_eq_decide, ← hown r hr]
    exact gcd_word (h.fits r hr).1 (UInt32.le_iff_toNat_le.2 h8)
  split_ifs with h0
  · have hall : ∀ r ∈ a.records, decide (r.entry.2 &&& (1 <<< (gcd + 16)) = 0) = true :=
      fun r hr => (hkeep r hr).trans (by simp [h0])
    exact ⟨_, h.filter hall (filter_eq_self.2 fun _ _ => rfl).symm rfl rfl rfl rfl⟩
  · refine h.remove fun r hr => ?_
    rw [hkeep r hr]
    simp [h0]

theorem Represents.call {c : EventCall} (hrange : InRange a c) (hgcd : GcdOwn a c) :
    (m.call c).1 = (a.call outOfActive c).1.map answerOf ∧ ∃ l', Represents (m.call c).2 (a.call outOfActive c).2 l' := by
  cases c with
  | scheduleEvent eventId time group phase => exact ⟨rfl, h.schedule hrange.2.1 hrange.2.2⟩
  | rescheduleEvent eventId time group phase =>
    obtain ⟨l1, h1⟩ := h.cancel eventId
    exact ⟨rfl, h1.schedule hrange.2.1 hrange.2.2⟩
  | repeatEvent time =>
    have hput := h.put hrange h.last_fits
    rw [← ofNat_later h, ← h.last] at hput
    exact ⟨rfl, hput⟩
  | update time =>
    refine ⟨rfl, l, h.clock ?_⟩
    rw [UInt32.toNat_add, h.time]
    exact Nat.mod_eq_of_lt hrange
  | delayTimer delay =>
    refine ⟨rfl, l, h.clock ?_⟩
    split_ifs with hlt
    · rw [UInt32.toNat_sub_of_le _ _ (UInt32.le_of_lt hlt), h.time]
    rw [UInt32.lt_iff_toNat_lt, h.time] at hlt
    rw [UInt32.toNat_zero]
    omega
  | delayEvents delay group =>
    refine ⟨rfl, ?_⟩
    change ∃ l', Represents (m.delayEvents delay group) (if group = 0 then a else a.delayGroup delay.toNat group.toNat) l'
    split_ifs with h0
    · unfold delayEvents
      rw [if_pos (.inl h0)]
      exact ⟨l, h⟩
    · exact h.delay h0 hrange.1 hrange.2
  | cancelEvent eventId => exact ⟨rfl, h.cancel eventId⟩
  | cancelEventGroup group => exact ⟨rfl, h.cancelGroup hrange⟩
  | cancelEventsByGCD gcd => exact ⟨rfl, h.cancelGcd hrange hgcd⟩
  | setPhase phase =>
    refine ⟨rfl, l, ?_⟩
    change Represents (m.setPhase phase) { a with active := if phase = 0 then ∅ else {phase.toNat} } l
    unfold setPhase
    split_ifs with h0 h8
    · exact h.phase Phases.zero
    · exact h.phase (Phases.set h0 hrange)
    · exact absurd ((UInt8.le_iff_toNat_le (b := 8)).2 hrange) h8
  | addPhase phase =>
    refine ⟨rfl, l, ?_⟩
    change Represents (m.addPhase phase) (if phase = 0 then a else { a with active := insert phase.toNat a.active }) l
    unfold addPhase
    by_cases h0 : phase = 0
    · rw [if_neg (fun hp => hp.1 h0), if_pos h0]
      exact h
    · rw [if_pos ⟨h0, UInt8.le_iff_toNat_le.2 hrange⟩, if_neg h0]
      exact h.phase (h.phases.add h0 hrange)
  | removePhase phase =>
    refine ⟨rfl, l, ?_⟩
    change Represents (m.removePhase phase) { a with active := a.active.erase phase.toNat } l
    unfold removePhase
    by_cases h0 : phase = 0
    · -- no phase is numbered 0
      have hnot : phase.toNat ∉ a.active := fun hmem => ((h.phases _).1 hmem).1 (by rw [h0]; rfl)
      rw [if_neg (fun hp => hp.1 h0), Finset.erase_eq_of_notMem hnot]
      exact h
    · rw [if_pos ⟨h0, UInt8.le_iff_toNat_le.2 hrange⟩]
      exact h.phase (h.phases.remove h0 hrange)
  | executeEvent =>
    obtain ⟨hanswer, hrep⟩ := h.execute
    exact ⟨congrArg some hanswer, hrep⟩

end

theorem Represents.answers {cs : List EventCall} (h : Represents m a l)
    (hcs : Runs.Admitted (TimedList.step outOfActive) (fun a c => InRange a c ∧ GcdOwn a c) a cs) :
    m.answers cs = (a.answers outOfActive cs).map answerOf := by
  induction cs generalizing m a l with
  | nil => rfl
  | cons c cs ih =>
    obtain ⟨⟨hrange, hgcd⟩, hrest⟩ := hcs
    obtain ⟨hanswer, l', h'⟩ := h.call hrange hgcd
    have hrec := ih h' hrest
    unfold answers TimedList.answers
    rw [hanswer, hrec, map_append]
    cases (a.call outOfActive c).1 <;> rfl

/-- What the event map answers is what the list answers, whose records are accounted for. -/
theorem event_map_refines {cs : List EventCall}
    (h : Runs.Admitted (TimedList.step outOfActive) (fun a c => InRange a c ∧ GcdOwn a c) TimedList.start cs) :
    EventMap.start.answers cs = (TimedList.start.answers outOfActive cs).map answerOf ∧
      (Runs.run (TimedList.step outOfActive) TimedList.start cs).Accounted :=
  ⟨Represents.start.answers h, Runs.always (fun _ c ha => ha.step c) TimedList.start_accounted cs⟩

theorem event_map_refines_delayed :
    EventMap.start.answers [.setPhase 1, .scheduleEvent 7 10 2 1, .scheduleEvent 8 5 2 0, .delayEvents 3 2, .update 20,
        .cancelEvent 9, .executeEvent, .executeEvent] =
      (TimedList.start.answers outOfActive [.setPhase 1, .scheduleEvent 7 10 2 1, .scheduleEvent 8 5 2 0, .delayEvents 3 2,
        .update 20, .cancelEvent 9, .executeEvent, .executeEvent]).map answerOf :=
  (event_map_refines (by decide)).1

/-- The phase of a record is not one of those that are active. -/
def outOfInactive (active : Finset Nat) (phase : Nat) : Bool := phase ≠ 0 ∧ phase ∉ active

/-- With no phase active, an event of a phase is not dropped; and the events of a group stay when they are cancelled by
`CancelEventsByGCD`. -/
theorem event_map_refines_not_inactive : (¬ ∀ cs, Runs.Admitted (TimedList.step outOfInactive) InRange TimedList.start cs →
      EventMap.start.answers cs = (TimedList.start.answers outOfInactive cs).map answerOf) ∧
    ¬ ∀ cs, Runs.Admitted (TimedList.step outOfActive) InRange TimedList.start cs →
      EventMap.start.answers cs = (TimedList.start.answers outOfActive cs).map answerOf := by
  constructor
  · intro h
    exact absurd (h [.scheduleEvent 1 0 0 1, .executeEvent] (by decide)) (by decide)
  · intro h
    exact absurd (h [.scheduleEvent 1 0 1 0, .cancelEventsByGCD 1, .executeEvent] (by decide)) (by decide)

end ComfyCraft
