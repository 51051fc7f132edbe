import ComfyCraft.Lib.Runs
import Mathlib.Data.List.DropRight
import Mathlib.Data.List.Pairwise

/-! The event log of a guild: the newest events in memory, and the rows, numbered in a circle, that it is loaded from. -/

namespace ComfyCraft.GuildEventLog

open List Runs

def GUILD_EVENTLOG_MAX_RECORDS : Nat := 100

structure GuildEventLogEntry where
  EventType : UInt8
  PlayerGuid1 : UInt32
  PlayerGuid2 : UInt32
  NewRank : UInt8
  TimeStamp : Nat

structure EventRow where
  LogGuid : Nat
  event : GuildEventLogEntry

/-- A guild's log and its rows of `guild_eventlog`. -/
structure EventLog where
  m_GuildEventLog : List GuildEventLogEntry
  m_GuildEventLogNextGuid : Nat
  rows : List EventRow

inductive LogStep
  | logGuildEvent (event : GuildEventLogEntry)
  | restart

/-- Earlier in the order of the query, which is by time and then by number, turned around. -/
def EventRow.older (a b : EventRow) : Prop :=
  a.event.TimeStamp < b.event.TimeStamp ∨ a.event.TimeStamp = b.event.TimeStamp ∧ a.LogGuid < b.LogGuid

/-- `ORDER BY TimeStamp DESC,LogGuid DESC` -/
def EventRow.listedBefore (a b : EventRow) : Bool :=
  b.event.TimeStamp < a.event.TimeStamp || (b.event.TimeStamp = a.event.TimeStamp && b.LogGuid ≤ a.LogGuid)

section

variable (count : Nat)

def logGuildEvent (s : EventLog) (event : GuildEventLogEntry) : EventLog :=
  let next := (s.m_GuildEventLogNextGuid + 1) % count
  { m_GuildEventLog :=
      (if GUILD_EVENTLOG_MAX_RECORDS ≤ s.m_GuildEventLog.length then s.m_GuildEventLog.tail else s.m_GuildEventLog) ++ [event]
    m_GuildEventLogNextGuid := next
    rows := s.rows.filter (fun r => r.LogGuid ≠ next) ++ [⟨next, event⟩] }

/-- `LoadGuildEventLogFromDB` for a new guild object; `LoadGuilds` deletes the numbers past the count after it. -/
def loadGuildEventLogFromDB (rows : List EventRow) : EventLog :=
  let result := (rows.mergeSort EventRow.listedBefore).take GUILD_EVENTLOG_MAX_RECORDS
  { m_GuildEventLog := result.foldl (fun l r => r.event :: l) []
    m_GuildEventLogNextGuid := (result.head?.map EventRow.LogGuid).getD 0
    rows := rows.filter fun r => r.LogGuid ≤ count }

def step (s : EventLog) : LogStep → EventLog
  | .logGuildEvent event => logGuildEvent count s event
  | .restart => loadGuildEventLogFromDB count s.rows

/-- The clock does not go back, and has gone on when the numbers start again. -/
def InOrder (s : EventLog) : LogStep → Prop
  | .logGuildEvent event => ∀ last ∈ s.m_GuildEventLog.getLast?, last.TimeStamp ≤ event.TimeStamp ∧
      ((s.m_GuildEventLogNextGuid + 1) % count = 0 → last.TimeStamp < event.TimeStamp)
  | .restart => True

/-- The events of a run with their numbers, after so many others. -/
def numbered : Nat → List LogStep → List EventRow
  | _, [] => []
  | n, .logGuildEvent event :: steps => ⟨(n + 1) % count, event⟩ :: numbered (n + 1) steps
  | n, .restart :: steps => numbered n steps

/-- The log and the rows are the ends of what was logged. -/
structure Follows (past : List EventRow) (s : EventLog) : Prop where
  log : s.m_GuildEventLog = (past.rtake GUILD_EVENTLOG_MAX_RECORDS).map EventRow.event
  next : s.m_GuildEventLogNextGuid = past.length % count
  rows : s.rows = past.rtake count
  numbers : ∀ i (h : i < past.length), past[i].LogGuid = (i + 1) % count
  ordered : past.Pairwise EventRow.older

end

variable {count : Nat} {past : List EventRow} {s : EventLog} {event : GuildEventLogEntry}

theorem EventRow.older_trans {a b c : EventRow} (h : a.older b) (h' : b.older c) : a.older c := by
  unfold older at *
  omega

/-- With one more at the end, the last so many lose their first. -/
theorem rtake_concat_eq {α : Type} (l : List α) (x : α) {n : Nat} (hn : 0 < n) :
    (l ++ [x]).rtake n = (if n ≤ (l.rtake n).length then (l.rtake n).tail else l.rtake n) ++ [x] := by
  obtain ⟨n, rfl⟩ : ∃ k, n = k + 1 := ⟨n - 1, by omega⟩
  rw [rtake_concat_succ]
  unfold rtake
  rw [length_drop, tail_drop]
  split
  · rw [show l.length - (n + 1) + 1 = l.length - n by omega]
  · rw [show l.length - (n + 1) = l.length - n by omega]

theorem Follows.last (h : Follows count past s) {last : GuildEventLogEntry} (hlast : ∃ r ∈ past.getLast?, r.event = last) :
    last ∈ s.m_GuildEventLog.getLast? := by
  obtain ⟨r, hr, rfl⟩ := hlast
  obtain ⟨l, rfl⟩ := getLast?_eq_some_iff.1 hr
  rw [h.log, rtake_concat_eq l r (by decide)]
  simp

/-- The number of the next event is that of the first of the rows where there are as many as there can be, and of no other. -/
theorem Follows.filter (h : Follows count past s) (hcount : 0 < count) :
    s.rows.filter (fun r => r.LogGuid ≠ (past.length + 1) % count) =
      if count ≤ s.rows.length then s.rows.tail else s.rows := by
  have hkeep : ∀ k, past.length < k + count →
      (past.drop k).filter (fun r => r.LogGuid ≠ (past.length + 1) % count) = past.drop k := by
    intro k hk
    refine filter_eq_self.2 fun r hr => ?_
    obtain ⟨i, hi, rfl⟩ := mem_iff_getElem.1 hr
    rw [length_drop] at hi
    rw [getElem_drop, h.numbers]
    simp only [ne_eq, decide_not, Bool.not_eq_true', decide_eq_false_iff_not]
    intro heq
    have hdvd := Nat.le_of_dvd (by omega) (Nat.dvd_of_mod_eq_zero (Nat.sub_mod_eq_zero_of_mod_eq heq.symm))
    omega
  rw [h.rows]
  unfold rtake
  rw [length_drop, tail_drop]
  split
  · have hlt : past.length - count < past.length := by omega
    rw [drop_eq_getElem_cons hlt, filter_cons_of_neg, hkeep _ (by omega)]
    rw [h.numbers, show past.length - count + 1 = past.length + 1 - count by omega, Nat.mod_eq_sub_mod (a := past.length + 1) (by omega)]
    simp
  · exact hkeep _ (by omega)

theorem Follows.logGuildEvent (h : Follows count past s) (hcount : 0 < count) (hin : InOrder count s (.logGuildEvent event)) :
    Follows count (past ++ [⟨(past.length + 1) % count, event⟩]) (logGuildEvent count s event) where
  log := by
    unfold GuildEventLog.logGuildEvent
    dsimp only
    rw [rtake_concat_eq past _ (by decide), h.log, length_map, map_append, ← map_tail, apply_ite (map EventRow.event)]
    rfl
  next := by
    unfold GuildEventLog.logGuildEvent
    rw [h.next, length_append, length_singleton, Nat.mod_add_mod]
  rows := by
    unfold GuildEventLog.logGuildEvent
    dsimp only
    rw [h.next, Nat.mod_add_mod, h.filter hcount, h.rows, rtake_concat_eq past _ hcount]
  numbers i hi := by
    rw [length_append, length_singleton] at hi
    by_cases hlt : i < past.length
    · rw [getElem_append_left hlt, h.numbers]
    · obtain rfl : i = past.length := by omega
      simp
  ordered := by
    refine pairwise_append.2 ⟨h.ordered, pairwise_singleton _ _, fun a ha b hb => ?_⟩
    rw [mem_singleton.1 hb]
    obtain ⟨l, last, rfl⟩ := (eq_nil_or_concat' past).resolve_left (ne_nil_of_mem ha)
    obtain ⟨hle, hlt⟩ := hin last.event (h.last ⟨last, by simp, rfl⟩)
    have hnumber := h.numbers l.length (by simp)
    rw [getElem_concat_length rfl] at hnumber
    have hlast : last.older ⟨((l ++ [last]).length + 1) % count, event⟩ := by
      rw [h.next] at hlt
      unfold EventRow.older
      rw [length_append, length_singleton] at hlt ⊢
      rw [hnumber]
      rw [Nat.mod_add_mod] at hlt
      dsimp only
      by_cases hzero : (l.length + 1 + 1) % count = 0
      · exact .inl (hlt hzero)
      · rw [← Nat.mod_add_mod (l.length + 1) count 1] at hzero ⊢
        have hroom := Nat.mod_lt (l.length + 1) hcount
        have hnot : (l.length + 1) % count + 1 ≠ count := fun h => hzero (by rw [h, Nat.mod_self])
        have hnext : ((l.length + 1) % count + 1) % count = (l.length + 1) % count + 1 := Nat.mod_eq_of_lt (by omega)
        rw [hnext]
        omega
    rcases mem_append.1 ha with ha | ha
    · exact EventRow.older_trans ((pairwise_append.1 h.ordered).2.2 a ha last (mem_singleton_self last)) hlast
    · rw [mem_singleton.1 ha]
      exact hlast

/-- The order of the query is the order of age, turned around. -/
theorem mergeSort_eq {l : List EventRow} (h : l.Pairwise EventRow.older) : l.mergeSort EventRow.listedBefore = l.reverse := by
  have hbefore : ∀ a b : EventRow, a.listedBefore b = true ↔
      b.event.TimeStamp < a.event.TimeStamp ∨ b.event.TimeStamp = a.event.TimeStamp ∧ b.LogGuid ≤ a.LogGuid := fun a b => by
    simp [EventRow.listedBefore]
  refine Perm.eq_of_pairwise (fun a b ha hb hab hba => ?_)
    (pairwise_mergeSort (fun a b c => by simp only [hbefore]; omega) (fun a b => by simp only [Bool.or_eq_true, hbefore]; omega) l)
    (pairwise_reverse.2 (h.imp fun {a b} hab => ?_)) ((mergeSort_perm l _).trans (reverse_perm l).symm)
  · by_contra hne
    rw [hbefore] at hab hba
    have : Std.Symm fun a b : EventRow => a.older b ∨ b.older a := ⟨fun _ _ => Or.symm⟩
    have heither := (h.imp (S := fun a b : EventRow => a.older b ∨ b.older a) Or.inl).forall (mem_mergeSort.1 ha) (mem_reverse.1 hb) hne
    unfold EventRow.older at heither
    omega
  · rw [hbefore]
    unfold EventRow.older at hab
    omega

theorem Follows.restart (h : Follows count past s) (hcount : GUILD_EVENTLOG_MAX_RECORDS ≤ count) :
    Follows count past (loadGuildEventLogFromDB count s.rows) := by
  have hpos : 0 < count := Nat.lt_of_lt_of_le (by decide) hcount
  have hsorted := mergeSort_eq (h.ordered.sublist (drop_sublist (past.length - count) past))
  have hresult : (s.rows.mergeSort EventRow.listedBefore).take GUILD_EVENTLOG_MAX_RECORDS =
      (past.rtake GUILD_EVENTLOG_MAX_RECORDS).reverse := by
    rw [h.rows, rtake, hsorted, take_reverse, drop_drop, length_drop, rtake]
    congr 2
    omega
  refine ⟨?_, ?_, ?_, h.numbers, h.ordered⟩
  · unfold loadGuildEventLogFromDB
    dsimp only
    rw [hresult, foldl_reverse]
    exact map_eq_foldr.symm
  · unfold loadGuildEventLogFromDB
    dsimp only
    rw [hresult]
    rcases eq_nil_or_concat' past with rfl | ⟨l, last, rfl⟩
    · simp
    · have hnumber := h.numbers l.length (by simp)
      rw [getElem_concat_length rfl] at hnumber
      rw [rtake_concat_eq l last (by decide)]
      simp [hnumber]
  · unfold loadGuildEventLogFromDB
    dsimp only
    rw [← h.rows]
    refine filter_eq_self.2 fun r hr => ?_
    rw [h.rows] at hr
    obtain ⟨i, hi, rfl⟩ := mem_iff_getElem.1 (mem_of_mem_drop hr)
    rw [h.numbers]
    exact decide_eq_true (Nat.mod_lt _ hpos).le

end ComfyCraft.GuildEventLog
