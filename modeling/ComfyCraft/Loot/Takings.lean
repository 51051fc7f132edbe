import ComfyCraft.Lib.Runs
import ComfyCraft.Loot.Model

/-! What is still to be taken from a loot, read off its items and lists, and the marks on the items that stand for a
place being in somebody's list: both are kept by whatever fills the loot. -/

namespace ComfyCraft

open List AList

namespace Loot

def listed (t : Table Nat (List QuestItem)) (i : Nat) : Bool := t.entries.any fun e => e.2.any fun q => q.index = i

/-- How many entries of a list that a test lets through are not taken. -/
def untaken (test : Nat → Bool) (ql : List QuestItem) : Nat := ql.countP fun q => !q.isLooted && test q.index

def ffaQuest (l : Loot) (i : Nat) : Bool := l.questItems[i]?.any fun item => item.freeforall

/-- A shared item that can be taken: it has no condition, or somebody has it in his list. -/
def sharedTaking (l : Loot) (i : Nat) (item : LootItem) : Bool :=
  !item.isLooted && !item.freeforall && (item.conditionId = 0 || listed l.playerConditionalItems i)

def sharedTakings (l : Loot) : Nat := l.items.zipIdx.countP fun e => l.sharedTaking e.2 e.1

def ffaTakings (l : Loot) : Nat := Table.tally (fun _ ql => untaken (fun _ => true) ql) l.playerFFAItems

def questTakings (l : Loot) : Nat :=
  l.questItems.zipIdx.countP fun e => !e.1.isLooted && !e.1.freeforall && listed l.playerQuestItems e.2

def ffaQuestTakings (l : Loot) : Nat := Table.tally (fun _ ql => untaken l.ffaQuest ql) l.playerQuestItems

def takings (l : Loot) : Nat := l.sharedTakings + l.ffaTakings + l.questTakings + l.ffaQuestTakings

def sharedOpen (item : LootItem) : Bool := !item.isLooted && !item.freeforall && (item.conditionId = 0 || item.isCounted)

def questOpen (item : LootItem) : Bool := !item.isLooted && !item.freeforall && item.isBlocked

def tallies (l : Loot) : Nat := l.items.countP sharedOpen + l.ffaTakings + l.questItems.countP questOpen + l.ffaQuestTakings

/-- The marks on the items stand for the lists, the lists have each place once, and the count is that of the takings. -/
structure Counted (l : Loot) : Prop where
  counted : ∀ i item, l.items[i]? = some item → item.isCounted = listed l.playerConditionalItems i
  blocked : ∀ i item, l.questItems[i]? = some item → item.isBlocked = listed l.playerQuestItems i
  conditional : ∀ i, listed l.playerConditionalItems i = true → i < l.items.length
  quest : ∀ i, listed l.playerQuestItems i = true → i < l.questItems.length
  ffaOnce : ∀ guid ql, l.playerFFAItems.lookup guid = some ql → (ql.map QuestItem.index).Nodup
  questOnce : ∀ guid ql, l.playerQuestItems.lookup guid = some ql → (ql.map QuestItem.index).Nodup
  count : l.unlootedCount = UInt8.ofNat l.tallies

theorem countP_zipIdx {α : Type} {p : α × Nat → Bool} {q : α → Bool} :
    ∀ (l : List α) (k : Nat), (∀ i a, l[i]? = some a → p (a, k + i) = q a) → (l.zipIdx k).countP p = l.countP q := by
  intro l
  induction l with
  | nil => intro k _; rfl
  | cons a rest ih =>
    intro k h
    have hrest := ih (k + 1) fun i b hb => by
      have := h (i + 1) b hb
      rwa [Nat.add_right_comm k 1 i]
    have ha : p (a, k) = q a := h 0 a rfl
    simp only [zipIdx_cons, countP_cons, hrest, ha]

variable {t : Table Nat (List QuestItem)} {l : Loot}

theorem listed_iff {i : Nat} : listed t i = true ↔ ∃ guid ql q, t.lookup guid = some ql ∧ q ∈ ql ∧ q.index = i := by
  unfold listed
  rw [any_eq_true]
  constructor
  · rintro ⟨⟨guid, ql⟩, he, hq⟩
    obtain ⟨q, hq, hi⟩ := any_eq_true.1 hq
    exact ⟨guid, ql, q, Table.lookup_eq_some_iff.2 he, hq, by simpa using hi⟩
  · rintro ⟨guid, ql, q, ht, hq, hi⟩
    exact ⟨⟨guid, ql⟩, Table.lookup_eq_some_iff.1 ht, any_eq_true.2 ⟨q, hq, by simpa using hi⟩⟩

theorem listed_insert {guid : Nat} {ql : List QuestItem} (h : t.lookup guid = none) (i : Nat) :
    listed (t.insert guid ql) i = (ql.any (fun q => q.index = i) || listed t i) := by
  rw [Bool.eq_iff_iff, listed_iff, Bool.or_eq_true, listed_iff, any_eq_true]
  constructor
  · rintro ⟨g, ql', q, hl, hq, hi⟩
    by_cases hg : g = guid
    · subst hg
      rw [lookup_insert] at hl
      cases hl
      exact .inl ⟨q, hq, by simpa using hi⟩
    · rw [lookup_insert_ne hg] at hl
      exact .inr ⟨g, ql', q, hl, hq, hi⟩
  · rintro (⟨q, hq, hi⟩ | ⟨g, ql', q, hl, hq, hi⟩)
    · exact ⟨guid, ql, q, lookup_insert _, hq, by simpa using hi⟩
    have hg : g ≠ guid := by
      rintro rfl
      rw [h] at hl
      cases hl
    exact ⟨g, ql', q, by rw [lookup_insert_ne hg]; exact hl, hq, hi⟩

/-- Marking an entry does not change which places are listed. -/
theorem listed_markEntry (t : Table Nat (List QuestItem)) (guid index i : Nat) : listed
    (markEntry t guid index) i = listed t i := by
  unfold markEntry
  cases hl : t.lookup guid with
  | none => rfl
  | some ql =>
    have hmark : ∀ q : QuestItem, (if q.index = index then { q with isLooted := true } else q).index = q.index := by
      intro q
      by_cases h : q.index = index
      · rw [if_pos h]
      · rw [if_neg h]
    rw [Bool.eq_iff_iff, listed_iff, listed_iff]
    constructor
    · rintro ⟨g, ql', q, hl', hq, hi⟩
      by_cases hg : g = guid
      · subst hg
        rw [lookup_insert] at hl'
        cases hl'
        obtain ⟨q', hq', rfl⟩ := mem_map.1 hq
        exact ⟨g, ql, q', hl, hq', by rwa [hmark] at hi⟩
      · rw [lookup_insert_ne hg] at hl'
        exact ⟨g, ql', q, hl', hq, hi⟩
    · rintro ⟨g, ql', q, hl', hq, hi⟩
      by_cases hg : g = guid
      · subst hg
        rw [hl] at hl'
        cases hl'
        exact ⟨g, _, _, lookup_insert _, mem_map.2 ⟨q, hq, rfl⟩, by rw [hmark]; exact hi⟩
      · exact ⟨g, ql', q, by rw [lookup_insert_ne hg]; exact hl', hq, hi⟩

/-- Where the marks stand for the lists they count the same takings. -/
theorem takings_eq (hc : ∀ i item, l.items[i]? = some item → item.isCounted = listed l.playerConditionalItems i)
    (hb : ∀ i item, l.questItems[i]? = some item → item.isBlocked = listed l.playerQuestItems i) : l.takings = l.tallies := by
  have hshared : l.sharedTakings = l.items.countP sharedOpen :=
    countP_zipIdx l.items 0 fun i item hi => by
      have := hc i item hi
      simp only [sharedOpen, sharedTaking, Nat.zero_add, this]
  have hquest : l.questTakings = l.questItems.countP questOpen :=
    countP_zipIdx l.questItems 0 fun i item hi => by
      have := hb i item hi
      simp only [questOpen, Nat.zero_add, this]
  unfold takings tallies
  rw [hshared, hquest]

theorem Counted.takings_eq (h : Counted l) : l.takings = l.tallies := Loot.takings_eq h.counted h.blocked

/-- With no items there is nothing to count. -/
theorem counted_bare (personal : Bool) (gold : Nat) : Counted ⟨personal, [], gold, 0, [], ∅, ∅, ∅, []⟩ where
  counted _ _ h := nomatch h
  blocked _ _ h := nomatch h
  conditional _ h := nomatch h
  quest _ h := nomatch h
  ffaOnce _ _ h := nomatch h
  questOnce _ _ h := nomatch h
  count := rfl

end Loot

end ComfyCraft
