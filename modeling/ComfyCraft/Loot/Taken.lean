import ComfyCraft.Loot.Filled

/-! Taking from a loot: what `LootItemInSlot` can answer, and what the marks that follow do to the takings. -/

namespace ComfyCraft

open List

namespace Loot

/-- What stands behind an answer of `LootItemInSlot`. -/
inductive InSlot (l : Loot) (slot guid : Nat) : LootItem → Pick → Prop
  | quest {ql : List QuestItem} {q : QuestItem} {item : LootItem} (list : l.playerQuestItems.lookup guid = some ql) (entry : q ∈ ql)
    (at_index : l.questItems[q.index]? = some item) (item_left : item.isLooted = false) (entry_left : q.isLooted = false) :
    InSlot l slot guid item (.quest q.index)
  | ffa {q : QuestItem} {item : LootItem} (at_slot : l.items[slot]? = some item) (free : item.freeforall = true)
    (entry : Loot.entry l.playerFFAItems guid slot = some q) (entry_left : q.isLooted = false) : InSlot l slot guid item .ffa
  | conditional {q : QuestItem} {item : LootItem} (at_slot : l.items[slot]? = some item) (single : item.freeforall = false)
    (item_left : item.isLooted = false) (entry : Loot.entry l.playerConditionalItems guid slot = some q) :
    InSlot l slot guid item .conditional
  | plain {item : LootItem} (at_slot : l.items[slot]? = some item) (item_left : item.isLooted = false)
    (entry : item.freeforall = true → Loot.entry l.playerFFAItems guid slot = none) : InSlot l slot guid item .plain

variable {l : Loot} {slot guid index : Nat} {item : LootItem} {pick : Pick} {f : LootItem → LootItem}
  {t : Table Nat (List QuestItem)} {q : QuestItem} {ql : List QuestItem}

theorem lootItemInSlot_inSlot (h : l.lootItemInSlot slot guid = some (item, pick)) : l.InSlot slot guid item pick := by
  unfold lootItemInSlot at h
  cases hs : l.items[slot]? with
  | none =>
    rw [hs] at h
    dsimp only at h
    cases hq : ((l.playerQuestItems.lookup guid).getD [])[slot - l.items.length]? with
    | none => rw [hq] at h; cases h
    | some q =>
      rw [hq] at h
      dsimp only at h
      cases hi : l.questItems[q.index]? with
      | none => rw [hi] at h; cases h
      | some item' =>
        rw [hi] at h
        dsimp only at h
        by_cases hl : (item'.isLooted || q.isLooted) = true
        · rw [if_pos hl] at h
          cases h
        rw [if_neg hl] at h
        cases h
        rw [Bool.or_eq_true, not_or, Bool.not_eq_true, Bool.not_eq_true] at hl
        cases hlist : l.playerQuestItems.lookup guid with
        | none => rw [hlist] at hq; cases hq
        | some ql =>
          rw [hlist] at hq
          exact .quest hlist (mem_of_getElem? hq) hi hl.1 hl.2
  | some item' =>
    rw [hs] at h
    dsimp only at h
    by_cases hff : item'.freeforall = true
    · rw [if_pos hff] at h
      cases he : entry l.playerFFAItems guid slot with
      | none =>
        rw [he] at h
        dsimp only at h
        by_cases hl : item'.isLooted = true
        · rw [if_pos hl] at h
          cases h
        · rw [if_neg hl] at h
          cases h
          exact .plain hs (Bool.not_eq_true _ ▸ hl) fun _ => he
      | some q =>
        rw [he] at h
        dsimp only at h
        by_cases hl : q.isLooted = true
        · rw [if_pos hl] at h
          cases h
        · rw [if_neg hl] at h
          cases h
          exact .ffa hs hff he (Bool.not_eq_true _ ▸ hl)
    · rw [if_neg hff] at h
      by_cases hl : item'.isLooted = true
      · rw [if_pos hl] at h
        cases h
      rw [if_neg hl] at h
      have hleft : item'.isLooted = false := Bool.not_eq_true _ ▸ hl
      split at h
      · cases he : entry l.playerConditionalItems guid slot with
        | none =>
          rw [he] at h
          cases h
          exact .plain hs hleft fun hff' => absurd hff' hff
        | some q =>
          rw [he] at h
          dsimp only at h
          split at h
          · cases h
          · cases h
            exact .conditional hs (Bool.not_eq_true _ ▸ hff) hleft he
      · cases h
        exact .plain hs hleft fun hff' => absurd hff' hff

theorem autostored_inSlot {p : Looter} {masterLooted room : Bool}
    (h : l.autostored p slot masterLooted room = some (item, pick)) :
    l.InSlot slot p.guid item pick ∧ ¬ item.allowedForPlayer p = false ∧ ¬ ((!pick.isQuest) = true ∧ item.isBlocked = true) ∧
      ¬ (masterLooted = true ∧ (!item.isUnderthreshold) = true ∧ (!pick.isQuest) = true ∧ pick ≠ .ffa) ∧
      room = true ∧ item.count ≠ 0 := by
  unfold autostored at h
  cases hs : l.lootItemInSlot slot p.guid with
  | none => rw [hs] at h; cases h
  | some e =>
    obtain ⟨item', pick'⟩ := e
    rw [hs] at h
    dsimp only at h
    by_cases hallowed : item'.allowedForPlayer p = false
    · rw [if_pos hallowed] at h
      cases h
    rw [if_neg hallowed] at h
    by_cases hblocked : (!pick'.isQuest) = true ∧ item'.isBlocked = true
    · rw [if_pos hblocked] at h
      cases h
    rw [if_neg hblocked] at h
    by_cases hmaster : masterLooted = true ∧ (!item'.isUnderthreshold) = true ∧ (!pick'.isQuest) = true ∧ pick' ≠ .ffa
    · rw [if_pos hmaster] at h
      cases h
    rw [if_neg hmaster] at h
    by_cases hroom : room = true ∧ item'.count ≠ 0
    · rw [if_pos hroom] at h
      cases h
      exact ⟨lootItemInSlot_inSlot hs, hallowed, hblocked, hmaster, hroom⟩
    · rw [if_neg hroom] at h
      cases h

/-! Marks. -/

theorem countP_modify {p : LootItem → Bool} {l : List LootItem} {i : Nat} (h : l[i]? = some item) :
    (l.modify i f).countP p + (p item).toNat = l.countP p + (p (f item)).toNat := by
  have hval : ∀ b : Bool, (if b = true then 1 else 0) = b.toNat := fun b => by cases b <;> rfl
  induction l generalizing i with
  | nil => cases h
  | cons a rest ih =>
    cases i with
    | zero =>
      cases h
      simp only [modify_zero_cons, countP_cons, hval]
      omega
    | succ i =>
      have := ih h
      simp only [modify_succ_cons, countP_cons]
      omega

theorem entry_iff (h : entry t guid index = some q) : ∃ ql, t.lookup guid = some ql ∧ q ∈ ql ∧ q.index = index := by
  unfold entry at h
  rw [Option.bind_eq_some_iff] at h
  obtain ⟨ql, hl, hq⟩ := h
  exact ⟨ql, hl, mem_of_find?_eq_some hq, by simpa using find?_some hq⟩

theorem listed_of_entry (h : entry t guid index = some q) : listed t index = true := by
  obtain ⟨ql, hl, hq, hi⟩ := entry_iff h
  exact listed_iff.2 ⟨guid, ql, q, hl, hq, hi⟩

/-- Of the entries of a list, whose places are distinct, the one for the place is no longer open. -/
theorem untaken_mark (test : Nat → Bool) (hn : (ql.map QuestItem.index).Nodup) (hq : q ∈ ql) (hl : q.isLooted = false) :
    untaken test (ql.map fun r => if r.index = q.index then { r with isLooted := true } else r) + (test q.index).toNat = untaken test ql := by
  have hval : ∀ b : Bool, (if b = true then 1 else 0) = b.toNat := fun b => by cases b <;> rfl
  unfold untaken
  induction ql with
  | nil => cases hq
  | cons r rest ih =>
    rw [map_cons, nodup_cons] at hn
    by_cases hr : r.index = q.index
    · -- the entries that follow are for other places
      have hrest : (rest.map fun r => if r.index = q.index then { r with isLooted := true } else r) = rest := by
        refine (map_congr_left ?_).trans (map_id rest)
        intro r' hr'
        rw [if_neg fun heq => hn.1 (mem_map.2 ⟨r', hr', heq.trans hr.symm⟩)]
        rfl
      have hrq : r = q := by
        obtain rfl | hq := mem_cons.1 hq
        · rfl
        · exact absurd (mem_map.2 ⟨q, hq, hr.symm⟩) hn.1
      subst hrq
      rw [map_cons, hrest, if_pos rfl]
      simp only [countP_cons, hl, hval, Bool.not_true, Bool.false_and, Bool.not_false, Bool.true_and, Bool.toNat_false]
      omega
    · have hq' : q ∈ rest := by
        obtain rfl | hq := mem_cons.1 hq
        · exact absurd rfl hr
        · exact hq
      have := ih hn.2 hq'
      rw [map_cons, if_neg hr]
      simp only [countP_cons]
      omega

theorem tally_markEntry (test : Nat → Bool)
    (ht : t.lookup guid = some ql) (hn : (ql.map QuestItem.index).Nodup) (hq : q ∈ ql) (hl : q.isLooted = false) :
    Table.tally (fun _ ql => untaken test ql) (markEntry t guid q.index) + (test q.index).toNat =
      Table.tally (fun _ ql => untaken test ql) t := by
  have hmark := untaken_mark test hn hq hl
  unfold markEntry
  rw [ht]
  dsimp only
  have hover := Table.tally_insert_over (fun _ ql => untaken test ql)
    (ql.map fun r => if r.index = q.index then { r with isLooted := true } else r) ht
  omega

/-- Marking an entry keeps the places of every list. -/
theorem nodup_markEntry (h : ∀ g ql, t.lookup g = some ql → (ql.map QuestItem.index).Nodup) :
    ∀ g ql, (markEntry t guid index).lookup g = some ql → (ql.map QuestItem.index).Nodup := by
  intro g ql hl
  unfold markEntry at hl
  cases ht : t.lookup guid with
  | none =>
    rw [ht] at hl
    exact h g ql hl
  | some old =>
    rw [ht] at hl
    dsimp only at hl
    by_cases hg : g = guid
    · subst hg
      rw [AList.lookup_insert] at hl
      cases hl
      have hsame : (old.map fun q => if q.index = index then { q with isLooted := true } else q).map QuestItem.index =
          old.map QuestItem.index := by
        rw [map_map]
        apply map_congr_left
        intro q _
        by_cases hq : q.index = index
        · rw [Function.comp_apply, if_pos hq]
        · rw [Function.comp_apply, if_neg hq]
      rw [hsame]
      exact h g old ht
    · rw [AList.lookup_insert_ne hg] at hl
      exact h g ql hl

theorem pred_ofNat {c : UInt8} {n m : Nat} (hc : c = UInt8.ofNat n) (h : m + 1 = n) : c - 1 = UInt8.ofNat m := by
  subst hc
  subst h
  rw [UInt8.ofNat_add]
  exact UInt8.add_sub_cancel _ _

/-- The marks of an item that `modify` keeps. -/
theorem marks_modify {l : List LootItem} {mark : LootItem → Bool} {shown : Nat → Bool}
    (hf : ∀ item, mark (f item) = mark item) (h : ∀ i item, l[i]? = some item → mark item = shown i) :
    ∀ i item, (l.modify index f)[i]? = some item → mark item = shown i := by
  intro i item hi
  rw [getElem?_modify] at hi
  cases hl : l[i]? with
  | none => rw [hl] at hi; cases hi
  | some item' =>
    rw [hl] at hi
    cases hi
    have := h i item' hl
    by_cases hindex : index = i
    · simp only [if_pos hindex, hf]
      exact this
    · simp only [if_neg hindex]
      exact this

end Loot

end ComfyCraft
