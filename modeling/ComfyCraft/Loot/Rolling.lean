import ComfyCraft.Loot.Ledger

/-! The items that are rolled for, over the operations on a loot: they stay blocked, so that nobody else takes one, and
what a fill puts into a loot is whole. -/

namespace ComfyCraft

open List Loot

namespace LootTarget

open Loot (entry)

def rollKey (item : LootItem) : Bool × Bool × Bool × Nat := (item.freeforall, item.isBlocked, item.isLooted, item.count)

/-- The items that are rolled for are blocked, and nothing is left of one that was given away meanwhile. -/
structure Rolling (items : List LootItem) (rolls : List Nat) : Prop where
  nodup : rolls.Nodup
  blocked : ∀ slot ∈ rolls, ∃ item, items[slot]? = some item ∧ item.freeforall = false ∧ item.isBlocked = true ∧
    (item.isLooted = true → item.count = 0)

theorem Rolling.nil (items : List LootItem) : Rolling items [] := ⟨nodup_nil, fun _ h => nomatch h⟩

variable {items : List LootItem} {rolls : List Nat}

theorem Rolling.keys {items' : List LootItem} (h : Rolling items rolls)
    (hk : items'.map rollKey = items.map rollKey) : Rolling items' rolls where
  nodup := h.nodup
  blocked slot hs := by
    obtain ⟨item, hitem, hff, hb, hl⟩ := h.blocked slot hs
    have hsame : (items'.map rollKey)[slot]? = (items.map rollKey)[slot]? := by rw [hk]
    rw [getElem?_map, getElem?_map, hitem, Option.map_some, Option.map_eq_some_iff] at hsame
    obtain ⟨item', hitem', hkey⟩ := hsame
    unfold rollKey at hkey
    simp only [Prod.mk.injEq] at hkey
    obtain ⟨h1, h2, h3, h4⟩ := hkey
    exact ⟨item', hitem', h1.trans hff, h2.trans hb, fun hl' => h4.trans (hl (h3 ▸ hl'))⟩

theorem Rolling.modify_ne (h : Rolling items rolls) {i : Nat} (hi : i ∉ rolls)
    (f : LootItem → LootItem) : Rolling (items.modify i f) rolls where
  nodup := h.nodup
  blocked slot hs := by
    have hne : i ≠ slot := fun heq => hi (heq ▸ hs)
    rw [getElem?_modify_ne f items hne]
    exact h.blocked slot hs

theorem Rolling.give (h : Rolling items rolls) (i : Nat) : Rolling (items.modify i LootItem.give) rolls where
  nodup := h.nodup
  blocked slot hs := by
    obtain ⟨item, hitem, hff, hb, hl⟩ := h.blocked slot hs
    by_cases hi : i = slot
    · subst hi
      refine ⟨item.give, ?_, hff, hb, fun _ => rfl⟩
      rw [getElem?_modify_eq, hitem]
      rfl
    · rw [getElem?_modify_ne _ _ hi]
      exact ⟨item, hitem, hff, hb, hl⟩

theorem Rolling.erase (h : Rolling items rolls) (slot : Nat) : Rolling items (rolls.erase slot) :=
  ⟨h.nodup.erase slot, fun s hs => h.blocked s (mem_of_mem_erase hs)⟩

/-! What filling does to the keys. -/

section Filled

variable {α : Type} {f : LootItem → α}

theorem map_fillNotNormalLootFor (hf : ∀ item : LootItem, f { item with isCounted := true } = f item) (l : Loot) (p : Looter) :
    (l.fillNotNormalLootFor p).items.map f = l.items.map f := by
  have hallow : (if p.inWorld then l.allow p.guid else l).items = l.items := by
    by_cases hw : p.inWorld = true
    · rw [if_pos hw]
      rfl
    · rw [if_neg hw]
  have hunless : ∀ (t : Table Nat (List QuestItem)) (l filled : Loot), filled.items.map f = l.items.map f →
      (unlessListed t p l filled).items.map f = l.items.map f := by
    intro t l filled h
    unfold unlessListed
    by_cases hl : (t.lookup p.guid).isSome = true
    · rw [if_pos hl]
    · rw [if_neg hl]
      exact h
  have hquest : ∀ l : Loot, (l.fillQuestLoot p).items = l.items := by
    intro l
    unfold fillQuestLoot
    by_cases hw : p.inWorld = false
    · rw [if_pos hw]
    rw [if_neg hw]
    by_cases hfull : l.items.length = maxNrLootItems
    · rw [if_pos hfull]
    rw [if_neg hfull]
    dsimp only
    by_cases hnil : (questLoop p (maxNrLootItems - l.items.length) 0 l.questItems).2.1 = []
    · rw [if_pos hnil]
    · rw [if_neg hnil]
  have hffa : ∀ l : Loot, (l.fillFFALoot p).items = l.items := by
    intro l
    unfold fillFFALoot
    by_cases hw : p.inWorld = false
    · rw [if_pos hw]
    rw [if_neg hw]
    by_cases hnil : entriesOf (ffaFor p) l.items = []
    · rw [if_pos hnil]
    · rw [if_neg hnil]
  have hconditional : ∀ l : Loot, (l.fillConditionalLoot p).items.map f = l.items.map f := by
    intro l
    unfold fillConditionalLoot
    by_cases hw : p.inWorld = false
    · rw [if_pos hw]
    rw [if_neg hw]
    by_cases hnil : entriesOf (conditionalFor p) l.items = []
    · rw [if_pos hnil]
    rw [if_neg hnil]
    dsimp only
    rw [map_map]
    apply map_congr_left
    intro item _
    rw [Function.comp_apply]
    by_cases hc : conditionalFor p item = true
    · rw [if_pos hc, hf]
    · rw [if_neg hc]
  unfold fillNotNormalLootFor
  dsimp only
  rw [hunless _ _ _ (hconditional _), hunless _ _ _ (congrArg _ (hffa _)), hunless _ _ _ (congrArg _ (hquest _)), hallow]

theorem map_markUnderthreshold (hf : ∀ item : LootItem, f { item with isUnderthreshold := true } = f item) (l : Loot)
    (below : Nat → Bool) :
    (l.markUnderthreshold below).items.map f = l.items.map f := by
  unfold markUnderthreshold
  dsimp only
  rw [map_map]
  apply map_congr_left
  intro item _
  rw [Function.comp_apply]
  by_cases hb : below item.itemid = true
  · rw [if_pos hb, hf]
  · rw [if_neg hb]

end Filled

theorem keys_fillNotNormalLootFor (l : Loot) (p : Looter) :
    (l.fillNotNormalLootFor p).items.map rollKey = l.items.map rollKey := map_fillNotNormalLootFor (fun _ => rfl) l p

theorem keys_markUnderthreshold (l : Loot) (below : Nat → Bool) :
    (l.markUnderthreshold below).items.map rollKey = l.items.map rollKey := map_markUnderthreshold (fun _ => rfl) l below

variable {p : LootItem → Prop} {l : Loot}

/-- What holds of all items, told by one field of them or several. -/
theorem forall_of_map {items items' : List LootItem} (hk : items'.map p = items.map p) (h : ∀ item ∈ items, p item) :
    ∀ item ∈ items', p item := by
  intro item' hitem'
  have hmem : p item' ∈ items.map p := hk ▸ mem_map_of_mem hitem'
  obtain ⟨item, hitem, heq⟩ := mem_map.1 hmem
  rw [← heq]
  exact h item hitem

theorem forall_addItem {new : LootItem} (h : ∀ item ∈ l.items, p item) (hnew : p new) :
    ∀ item ∈ (l.addItem new).items, p item := by
  have hpush : ∀ item ∈ l.items ++ [new], p item := by
    intro item hitem
    rcases mem_append.1 hitem with hitem | hitem
    · exact h item hitem
    · rw [mem_singleton.1 hitem]
      exact hnew
  unfold addItem
  split
  · split_ifs <;> exact h
  split
  · exact hpush
  · exact h

/-- What holds of everything that is dropped, and does not depend on the marks a fill sets, holds of all items of the loot. -/
theorem forall_fillLoot (hcounted : ∀ item : LootItem, p { item with isCounted := true } = p item)
    (hunder : ∀ item : LootItem, p { item with isUnderthreshold := true } = p item) (h : ∀ item ∈ l.items, p item) {drops : List Drop}
    (hdrops : ∀ li neederGuids, Drop.addItem li neederGuids ∈ drops →
      p { LootItem.ofStore li with personalRollers := if li.needsQuest then [] else neederGuids })
    (owner : Looter) (personal : Bool) (reach : Option (List Looter)) (below : Nat → Bool) :
    ∀ item ∈ (l.fillLoot drops owner personal reach below).items, p item := by
  have hdropped : ∀ (l : Loot), (∀ item ∈ l.items, p item) → ∀ item ∈ (drops.foldl drop l).items, p item := by
    clear h
    induction drops with
    | nil => exact fun _ h => h
    | cons d rest ih =>
      intro l h
      refine ih (fun li neederGuids hmem => hdrops li neederGuids (mem_cons_of_mem _ hmem)) (l.drop d) ?_
      cases d with
      | addItem li neederGuids =>
        exact forall_addItem h (hdrops li neederGuids mem_cons_self)
      | addPersonalCopy li looter =>
        unfold Loot.drop Loot.addPersonalCopy
        dsimp only
        split_ifs <;> exact h
  have hmembers : ∀ (members : List Looter) (l : Loot), (∀ item ∈ l.items, p item) →
      ∀ item ∈ (members.foldl (fun (l : Loot) p => (l.allow p.guid).fillNotNormalLootFor p) l).items, p item := by
    intro members
    induction members with
    | nil => exact fun _ h => h
    | cons q rest ih => exact fun l h => ih _ (forall_of_map (map_fillNotNormalLootFor hcounted (l.allow q.guid) q) h)
  have hd := hdropped { l with personal := true } h
  unfold fillLoot
  dsimp only
  split
  · exact forall_of_map (map_markUnderthreshold hunder _ _)
      (hmembers _ { drops.foldl drop { l with personal := true } with personal := false } hd)
  · exact forall_of_map (map_fillNotNormalLootFor hcounted _ _) hd

/-- Nothing was taken from the items that are shared out. -/
def Whole (items : List LootItem) : Prop := ∀ item ∈ items, item.isLooted = false

theorem whole_fillLoot (l : Loot) (h : Whole l.items) (drops : List Drop) (owner : Looter) (personal : Bool)
    (reach : Option (List Looter)) (below : Nat → Bool) : Whole (l.fillLoot drops owner personal reach below).items :=
  forall_fillLoot (p := fun item => item.isLooted = false) (fun _ => rfl) (fun _ => rfl) h (fun _ _ _ => rfl) owner personal reach below

theorem whole_refresh (t : LootTarget) (source : Option LootSource) (personal : Bool) (gold : Nat) :
    Whole (t.refresh source personal gold).loot.items := by
  have hnil : Whole (t.loot.clear true).items := fun _ h => nomatch h
  unfold refresh
  cases source with
  | none => exact hnil
  | some s => exact whole_fillLoot _ hnil s.drops s.owner personal s.reach s.below

end LootTarget

end ComfyCraft
