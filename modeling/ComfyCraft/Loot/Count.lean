import ComfyCraft.Loot.Taken

/-! The count of a loot over whole runs: filling, taking and giving keep it at the number of takings, as long as nothing
is taken that was no taking and a pocket that is picked again keeps no quest item. -/

namespace ComfyCraft

open List Bool LootItem Runs

namespace Loot

variable {l : Loot} {slot : Nat} {room : Bool}

theorem Counted.mark (h : Counted l) {guid : Nat} {item : LootItem} {pick : Pick} (hs : l.InSlot slot guid item pick)
    (hplain : pick = .plain → l.sharedTaking slot item = true) : Counted (l.mark guid slot pick) := by
  cases hs with
  | quest list entry at_index item_left entry_left =>
    rename_i ql q
    have hlisted : listed l.playerQuestItems q.index = true := listed_iff.2 ⟨guid, ql, q, list, entry, rfl⟩
    have hblocked : item.isBlocked = true := (h.blocked _ _ at_index).trans hlisted
    have hffa : ∀ i, (l.mark guid slot (.quest q.index)).ffaQuest i = l.ffaQuest i := by
      intro i
      unfold ffaQuest Loot.mark
      dsimp only
      rw [getElem?_modify]
      cases l.questItems[i]? with
      | none => rfl
      | some item =>
        by_cases hi : q.index = i
        · simp only [if_pos hi]
          rfl
        · simp only [if_neg hi]
          rfl
    have htally : (l.mark guid slot (.quest q.index)).ffaQuestTakings + (l.ffaQuest q.index).toNat = l.ffaQuestTakings := by
      have := tally_markEntry l.ffaQuest list (h.questOnce guid ql list) entry entry_left
      unfold ffaQuestTakings
      rw [funext hffa]
      exact this
    have hcount := countP_modify (p := questOpen) (f := take) at_index
    have hone : (questOpen item).toNat + (l.ffaQuest q.index).toNat = (questOpen item.take).toNat + 1 := by
      unfold ffaQuest
      rw [at_index, Option.any_some]
      unfold questOpen LootItem.take
      rw [hblocked, item_left]
      cases item.freeforall <;> rfl
    refine ⟨h.counted, ?_, h.conditional, ?_, h.ffaOnce, nodup_markEntry h.questOnce, ?_⟩
    · intro i item' hi
      rw [show listed (l.mark guid slot (.quest q.index)).playerQuestItems i = listed l.playerQuestItems i from listed_markEntry _ _ _ _]
      exact marks_modify (f := take) (fun _ => rfl) h.blocked i item' hi
    · intro i hi
      rw [show listed (l.mark guid slot (.quest q.index)).playerQuestItems i = listed l.playerQuestItems i from listed_markEntry _ _ _ _] at hi
      unfold Loot.mark
      dsimp only
      rw [length_modify]
      exact h.quest i hi
    · apply pred_ofNat h.count
      unfold tallies
      unfold Loot.mark at htally ⊢
      unfold ffaTakings
      dsimp only at htally ⊢
      omega
  | ffa at_slot free entry entry_left =>
    obtain ⟨ql, list, hmem, hindex⟩ := entry_iff entry
    have htally := tally_markEntry (fun _ => true) list (h.ffaOnce guid ql list) hmem entry_left
    rw [hindex] at htally
    have hcount := countP_modify (p := sharedOpen) (f := take) at_slot
    have hone : sharedOpen item.take = sharedOpen item := by
      unfold sharedOpen LootItem.take
      rw [free]
      simp
    rw [hone] at hcount
    refine ⟨marks_modify (fun _ => rfl) h.counted, h.blocked, ?_, h.quest, nodup_markEntry h.ffaOnce, h.questOnce, ?_⟩
    · intro i hi
      unfold Loot.mark
      dsimp only
      rw [length_modify]
      exact h.conditional i hi
    · apply pred_ofNat h.count
      unfold tallies Loot.mark Loot.ffaTakings ffaQuestTakings ffaQuest
      dsimp only
      rw [toNat_true] at htally
      omega
  | conditional at_slot single item_left entry =>
    have hlisted : listed l.playerConditionalItems slot = true := listed_of_entry entry
    have hcounted : item.isCounted = true := (h.counted _ _ at_slot).trans hlisted
    have hcount := countP_modify (p := sharedOpen) (f := take) at_slot
    have hone : (sharedOpen item).toNat = (sharedOpen item.take).toNat + 1 := by
      unfold sharedOpen LootItem.take
      rw [item_left, single, hcounted]
      simp
    refine ⟨?_, h.blocked, ?_, h.quest, h.ffaOnce, h.questOnce, ?_⟩
    · intro i item' hi
      rw [show listed (l.mark guid slot .conditional).playerConditionalItems i = listed l.playerConditionalItems i from
        listed_markEntry _ _ _ _]
      exact marks_modify (f := take) (fun _ => rfl) h.counted i item' hi
    · intro i hi
      rw [show listed (l.mark guid slot .conditional).playerConditionalItems i = listed l.playerConditionalItems i from
        listed_markEntry _ _ _ _] at hi
      unfold Loot.mark
      dsimp only
      rw [length_modify]
      exact h.conditional i hi
    · apply pred_ofNat h.count
      unfold tallies Loot.mark Loot.ffaTakings ffaQuestTakings ffaQuest
      dsimp only
      omega
  | plain at_slot item_left entry =>
    have htaking := hplain rfl
    unfold sharedTaking at htaking
    rw [← h.counted _ _ at_slot] at htaking
    have hcount := countP_modify (p := sharedOpen) (f := take) at_slot
    have hone : (sharedOpen item).toNat = (sharedOpen item.take).toNat + 1 := by
      have hopen : sharedOpen item = true := htaking
      rw [and_eq_true, and_eq_true, not_eq_true', not_eq_true'] at htaking
      rw [hopen]
      unfold sharedOpen LootItem.take
      rw [htaking.1.1, htaking.1.2]
      rfl
    refine ⟨marks_modify (fun _ => rfl) h.counted, h.blocked, ?_, h.quest, h.ffaOnce, h.questOnce, ?_⟩
    · intro i hi
      unfold Loot.mark
      dsimp only
      rw [length_modify]
      exact h.conditional i hi
    · apply pred_ofNat h.count
      unfold tallies Loot.mark Loot.ffaTakings ffaQuestTakings ffaQuest
      dsimp only
      omega

theorem Counted.masterGive (h : Counted l) {target : Nat}
    (htaking : ∀ item, l.items[slot]? = some item → l.sharedTaking slot item = true) : Counted (l.masterGive target slot room) := by
  unfold Loot.masterGive masterGiven
  cases hs : l.items[slot]? with
  | none => exact h
  | some item =>
    dsimp only
    by_cases hok : target ∈ l.allowedLooters ∧ room = true
    · rw [if_pos hok]
      dsimp only
      have hopen : sharedOpen item = true := by
        have := htaking item hs
        unfold sharedTaking at this
        rwa [← h.counted _ _ hs] at this
      have hcount := countP_modify (p := sharedOpen) (f := give) hs
      have hnot : sharedOpen item.give = false := rfl
      rw [hopen, hnot, toNat_true, toNat_false] at hcount
      refine ⟨marks_modify (fun _ => rfl) h.counted, h.blocked, ?_, h.quest, h.ffaOnce, h.questOnce, ?_⟩
      · intro i hi
        rw [length_modify]
        exact h.conditional i hi
      · apply pred_ofNat h.count
        unfold tallies ffaTakings ffaQuestTakings ffaQuest
        dsimp only
        omega
    · rwa [if_neg hok]

/-! Runs. -/

inductive Op
  | fillLoot (drops : List Drop) (owner : Looter) (personal : Bool) (reach : Option (List Looter)) (below : Nat → Bool)
  | generateMoneyLoot (gold : Nat)
  | fillNotNormalLootFor (p : Looter)
  | autostore (p : Looter) (slot : Nat) (masterLooted room : Bool)
  | masterGive (target slot : Nat) (room : Bool)
  | refill (drops : List Drop) (owner : Looter) (reach : Option (List Looter)) (below : Nat → Bool)
  | lootMoney
  | clear

def step (l : Loot) : Op → Loot
  | .fillLoot drops owner personal reach below => l.fillLoot drops owner personal reach below
  | .generateMoneyLoot gold => { l with gold := l.gold + gold }
  | .fillNotNormalLootFor p => l.fillNotNormalLootFor p
  | .autostore p slot masterLooted room => l.autostore p slot masterLooted room
  | .masterGive target slot room => l.masterGive target slot room
  | .refill drops owner reach below => l.refill drops owner reach below
  | .lootMoney => { l with gold := 0 }
  | .clear => l.clear true

/-- A shared item is taken by a player who has an entry for it when it is free for all, and is given while it can be
taken; no quest item is left where a pocket is picked again. -/
def Takes (l : Loot) : Op → Prop
  | .autostore p slot _ _ => ∀ item ∈ l.items[slot]?,
    if item.freeforall then (entry l.playerFFAItems p.guid slot).isSome
    else item.conditionId = 0 ∨ listed l.playerConditionalItems slot
  | .masterGive _ slot _ => ∀ item ∈ l.items[slot]?, l.sharedTaking slot item
  | .refill drops owner reach below => (l.refill drops owner reach below).takings = 0
  | _ => True

instance (l : Loot) (op : Op) : Decidable (l.Takes op) :=
  match op with
  | .autostore p slot _ _ => inferInstanceAs (Decidable (∀ item ∈ l.items[slot]?,
      if item.freeforall then (entry l.playerFFAItems p.guid slot).isSome = true
      else item.conditionId = 0 ∨ listed l.playerConditionalItems slot = true))
  | .masterGive _ slot _ => inferInstanceAs (Decidable (∀ item ∈ l.items[slot]?, l.sharedTaking slot item = true))
  | .refill drops owner reach below => inferInstanceAs (Decidable ((l.refill drops owner reach below).takings = 0))
  | .fillLoot _ _ _ _ _ => isTrue trivial
  | .generateMoneyLoot _ => isTrue trivial
  | .fillNotNormalLootFor _ => isTrue trivial
  | .lootMoney => isTrue trivial
  | .clear => isTrue trivial

theorem Counted.autostore (h : Counted l) {p : Looter} {masterLooted : Bool}
    (hok : l.Takes (.autostore p slot masterLooted room)) : Counted (l.autostore p slot masterLooted room) := by
  unfold Loot.autostore
  cases hs : l.autostored p slot masterLooted room with
  | none => exact h
  | some e =>
    obtain ⟨item, pick⟩ := e
    have hslot := (autostored_inSlot hs).1
    apply h.mark hslot
    intro hplain
    subst hplain
    cases hslot with
    | plain at_slot item_left entry =>
      have htakes := hok item at_slot
      unfold sharedTaking
      split_ifs at htakes with hff
      · rw [entry hff] at htakes
        cases htakes
      · rw [not_eq_true] at hff
        rw [item_left, hff]
        simpa using htakes

/-- The entries that are left are those of quest items. -/
theorem Counted.refill {drops : List Drop} {owner : Looter} {reach : Option (List Looter)} {below : Nat → Bool}
    (hok : l.Takes (.refill drops owner reach below)) : Counted (l.refill drops owner reach below) := by
  have hfill : Counted ((l.clear true).fillLoot drops owner false reach below) :=
    Counted.fillLoot (counted_bare true 0) drops owner false reach below
  have hnone : (l.refill drops owner reach below).takings = 0 := hok
  have hcounted : ∀ i item, (l.refill drops owner reach below).items[i]? = some item →
      item.isCounted = listed (l.refill drops owner reach below).playerConditionalItems i := fun i item h => by cases h
  rw [Loot.takings_eq hcounted hfill.blocked] at hnone
  refine ⟨hcounted, hfill.blocked, ?_, hfill.quest, ?_, hfill.questOnce, ?_⟩
  · intro i hi
    cases hi
  · intro guid ql hl
    cases hl
  · rw [hnone]
    rfl

theorem Counted.step (h : Counted l) {op : Op} (hok : l.Takes op) : Counted (l.step op) := by
  cases op with
  | fillLoot drops owner personal reach below => exact h.fillLoot drops owner personal reach below
  | generateMoneyLoot gold => exact ⟨h.counted, h.blocked, h.conditional, h.quest, h.ffaOnce, h.questOnce, h.count⟩
  | fillNotNormalLootFor p => exact h.fillNotNormalLootFor p
  | autostore p slot masterLooted room => exact h.autostore hok
  | masterGive target slot room => exact h.masterGive hok
  | refill drops owner reach below => exact Counted.refill hok
  | lootMoney => exact ⟨h.counted, h.blocked, h.conditional, h.quest, h.ffaOnce, h.questOnce, h.count⟩
  | clear => exact counted_bare true 0

/-- In every run of a loot the count is that of the takings, as a byte: as long as these are fewer than 256 it never
wraps, and the loot is looted when neither gold nor a taking is left. -/
theorem unlootedCount_takings (ops : List Op) (hok : Runs.Admitted step Takes empty ops) :
    (Runs.run step empty ops).unlootedCount.toNat = (Runs.run step empty ops).takings % 256 ∧
      ((Runs.run step empty ops).takings < 256 →
        (Runs.run step empty ops).unlootedCount.toNat = (Runs.run step empty ops).takings ∧
        ((Runs.run step empty ops).isLooted = true ↔
          (Runs.run step empty ops).gold = 0 ∧ (Runs.run step empty ops).takings = 0)) := by
  have h : Counted (run step empty ops) :=
    invariant (I := Counted) (fun l op hl hop => hl.step hop) (counted_bare false 0) hok
  generalize run step empty ops = l at h ⊢
  have hcount : l.unlootedCount.toNat = l.takings % 256 := by
    rw [h.count, h.takings_eq, UInt8.toNat_ofNat']
  refine ⟨hcount, fun hfew => ?_⟩
  rw [Nat.mod_eq_of_lt hfew] at hcount
  refine ⟨hcount, ?_⟩
  unfold isLooted
  rw [decide_eq_true_eq, ← hcount, ← UInt8.toNat_inj]
  rfl

def anyone (guid : Nat) : Looter := ⟨guid, true, fun _ _ _ => true⟩

/-- The takings with one for each player and entry of a quest item, and of the shared items those that one of the
players may take. -/
def takingsEach (l : Loot) (players : List Looter) : Nat :=
  (l.items.countP fun item => !item.isLooted && !item.freeforall && players.any fun p => p.guid ∈ l.allowedLooters && item.allowedForPlayer p) +
    l.ffaTakings +
    Table.tally (fun _ ql => ql.countP fun q => !q.isLooted && l.questItems[q.index]?.any fun item => !item.isLooted) l.playerQuestItems

/-- A group of two finds an item for both, one with a condition, one free for all, and a quest item for one of them. -/
def sharing : List Op :=
  [.fillLoot [.addItem ⟨10, 0, false, false, 1⟩ [], .addItem ⟨11, 7, false, false, 2⟩ [], .addItem ⟨12, 0, false, true, 1⟩ [],
      .addItem ⟨13, 0, true, false, 1⟩ []] (anyone 1) false (some [anyone 1, anyone 2]) (fun _ => false),
    .generateMoneyLoot 30, .fillNotNormalLootFor (anyone 3), .autostore (anyone 2) 2 false true, .autostore (anyone 1) 3 false true,
    .masterGive 2 0 true, .lootMoney, .autostore (anyone 3) 1 false true, .autostore (anyone 1) 2 false true]

theorem unlootedCount_sharing :
    (Runs.run step empty sharing).unlootedCount.toNat = (Runs.run step empty sharing).takings % 256 ∧
      (Runs.run step empty sharing).unlootedCount = 1 :=
  ⟨(unlootedCount_takings sharing (by decide +kernel)).1, by decide +kernel⟩

/-- A quest item that two may have counts once; an item that starts a quest the only player has already counts although
he may not take it; what a master looter gives twice is counted down twice. -/
theorem unlootedCount_not_each :
    (let l := Runs.run step empty [.fillLoot [.addItem ⟨13, 0, true, false, 1⟩ []] (anyone 1) false (some [anyone 1, anyone 2]) fun _ => false]
     l.unlootedCount.toNat = 1 ∧ l.takingsEach [anyone 1, anyone 2] = 2) ∧
    (let starter := ⟨1, true, fun itemid _ _ => itemid ≠ 10⟩
     let l := Runs.run step empty [.fillLoot [.addItem ⟨10, 0, false, false, 1⟩ []] starter true none fun _ => false]
     l.unlootedCount.toNat = 1 ∧ l.takingsEach [starter] = 0) ∧
    (let l := Runs.run step empty [.fillLoot [.addItem ⟨10, 0, false, false, 1⟩ []] (anyone 1) true none fun _ => false,
       .masterGive 1 0 true, .masterGive 1 0 true]
     l.unlootedCount.toNat = 255 ∧ l.takingsEach [anyone 1] = 0) := by
  decide +kernel

end Loot

end ComfyCraft
