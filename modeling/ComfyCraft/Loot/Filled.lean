import ComfyCraft.Loot.Takings

/-! Filling a loot keeps its count: what `AddItem` and the three fill loops add to it is what they add to the takings. -/

namespace ComfyCraft

open List AList Table Bool UInt8

namespace Loot

variable {α : Type} {l : Loot} {i : Nat} {p : Looter} {r : List LootItem × List QuestItem × Nat} {item : LootItem}
  {items : List LootItem}

theorem getElem?_push {l : List α} {x a : α} (h : (l ++ [x])[i]? = some a) : l[i]? = some a ∨ i = l.length ∧ a = x := by
  by_cases hi : i < l.length
  · rw [List.getElem?_append_left hi] at h
    exact .inl h
  rw [List.getElem?_append_right (Nat.le_of_not_lt hi)] at h
  have hlt := (List.getElem?_eq_some_iff.1 h).1
  simp only [length_singleton] at hlt
  have hz : i - l.length = 0 := by omega
  rw [hz] at h
  cases h
  exact .inr ⟨by omega, rfl⟩

/-- A count that goes up by one for each that a third test lets through. -/
theorem countP_map_add {f : α → α} {p r : α → Bool} (h : ∀ a, (p (f a)).toNat = (p a).toNat + (r a).toNat) (l : List α) :
    (l.map f).countP p = l.countP p + l.countP r := by
  have hval : ∀ b : Bool, (if b = true then 1 else 0) = b.toNat := fun b => by cases b <;> rfl
  induction l with
  | nil => rfl
  | cons a rest ih =>
    have ha := h a
    simp only [map_cons, countP_cons, hval]
    omega

theorem ffaQuestTakings_congr {l' : Loot} (ht : l'.playerQuestItems = l.playerQuestItems)
    (h : ∀ i, listed l.playerQuestItems i = true → l'.ffaQuest i = l.ffaQuest i) : l'.ffaQuestTakings = l.ffaQuestTakings := by
  unfold ffaQuestTakings
  rw [ht]
  apply tally_congr
  intro guid ql hl
  unfold untaken
  apply countP_congr
  intro q hq
  rw [h q.index (listed_iff.2 ⟨guid, ql, q, hl, hq, rfl⟩)]

theorem countP_push_false {p : LootItem → Bool} {l : List LootItem} (h : p item = false) :
    (l ++ [item]).countP p = l.countP p := by
  simp [countP_append, h]

section

variable (h : Counted l)
include h

/-- A quest item that is new is nobody's yet. -/
theorem Counted.pushQuest (hb : item.isBlocked = false) : Counted { l with questItems := l.questItems ++ [item] } := by
  have hffa : ∀ i, listed l.playerQuestItems i = true →
      ({ l with questItems := l.questItems ++ [item] } : Loot).ffaQuest i = l.ffaQuest i := by
    intro i hi
    unfold ffaQuest
    dsimp only
    rw [getElem?_append_left (h.quest i hi)]
  refine ⟨h.counted, ?_, h.conditional, ?_, h.ffaOnce, h.questOnce, ?_⟩
  · intro i item' hi
    obtain hi | ⟨rfl, rfl⟩ := getElem?_push hi
    · exact h.blocked i item' hi
    rw [hb]
    cases hl : listed l.playerQuestItems l.questItems.length with
    | false => rfl
    | true => exact absurd (h.quest _ hl) (lt_irrefl _)
  · intro i hi
    have := h.quest i hi
    rw [length_append]
    omega
  · have htakings : ({ l with questItems := l.questItems ++ [item] } : Loot).ffaQuestTakings = l.ffaQuestTakings :=
      ffaQuestTakings_congr rfl hffa
    have htallies : ({ l with questItems := l.questItems ++ [item] } : Loot).tallies = l.tallies := by
      unfold tallies
      rw [htakings]
      dsimp only
      rw [countP_push_false (by simp [questOpen, hb])]
      rfl
    rw [htallies]
    exact h.count

theorem Counted.pushShared (hl : item.isLooted = false) (hc : item.isCounted = false) : Counted { l with
      items := l.items ++ [item]
      unlootedCount := if item.conditionId = 0 ∧ !item.freeforall then l.unlootedCount + 1 else l.unlootedCount } := by
  refine ⟨?_, h.blocked, ?_, h.quest, h.ffaOnce, h.questOnce, ?_⟩
  · intro i item' hi
    obtain hi | ⟨rfl, rfl⟩ := getElem?_push hi
    · exact h.counted i item' hi
    rw [hc]
    cases hli : listed l.playerConditionalItems l.items.length with
    | false => rfl
    | true => exact absurd (h.conditional _ hli) (lt_irrefl _)
  · intro i hi
    have := h.conditional i hi
    rw [length_append]
    omega
  · by_cases hopen : item.conditionId = 0 ∧ (!item.freeforall) = true
    · have hp : sharedOpen item = true := by simp [sharedOpen, hl, hopen.1, hopen.2]
      dsimp only
      rw [if_pos hopen, h.count]
      unfold tallies
      have hcount : (l.items ++ [item]).countP sharedOpen = l.items.countP sharedOpen + 1 := by simp [countP_append, hp]
      dsimp only
      rw [hcount, add_right_comm _ 1, add_right_comm _ 1, add_right_comm _ 1, ofNat_add _ 1]
      rfl
    · have hp : sharedOpen item = false := by
        rw [not_and_or] at hopen
        obtain hcond | hffa := hopen
        · simp [sharedOpen, hcond, hc]
        · rw [not_eq_true, not_eq_false'] at hffa
          simp [sharedOpen, hffa]
      dsimp only
      rw [if_neg hopen, h.count]
      unfold tallies
      dsimp only
      rw [countP_push_false hp]
      rfl

theorem Counted.addItem (hl : item.isLooted = false) (hb : item.isBlocked = false)
    (hc : item.isCounted = false) : Counted (l.addItem item) := by
  unfold Loot.addItem
  split
  · by_cases hroom : l.questItems.length < maxNrQuestItems
    · rw [if_pos hroom]
      exact h.pushQuest hb
    · rwa [if_neg hroom]
  · by_cases hroom : l.items.length < maxNrLootItems
    · rw [if_pos hroom]
      exact h.pushShared hl hc
    · rwa [if_neg hroom]

theorem Counted.drop (d : Drop) : Counted (l.drop d) := by
  cases d with
  | addItem li neederGuids => exact h.addItem rfl rfl rfl
  | addPersonalCopy li looter =>
    show Counted (l.addPersonalCopy li looter)
    unfold addPersonalCopy
    by_cases hroom : maxNrQuestItems ≤ l.questItems.length
    · rwa [if_pos hroom]
    · rw [if_neg hroom]
      exact h.pushQuest rfl

theorem Counted.drops (drops : List Drop) : Counted (drops.foldl Loot.drop l) := by
  induction drops generalizing l with
  | nil => exact h
  | cons d rest ih => exact ih (h.drop d)

end

/-! The lists of a player. -/

theorem mem_entriesOf {test : LootItem → Bool} {q : QuestItem} :
    q ∈ entriesOf test items ↔ q.isLooted = false ∧ ∃ item, items[q.index]? = some item ∧ test item = true := by
  unfold entriesOf
  rw [mem_map]
  constructor
  · rintro ⟨⟨item, i⟩, he, rfl⟩
    obtain ⟨he, ht⟩ := mem_filter.1 he
    exact ⟨rfl, item, mem_zipIdx_iff_getElem?.1 he, ht⟩
  · rintro ⟨hq, item, hi, ht⟩
    refine ⟨(item, q.index), mem_filter.2 ⟨mem_zipIdx_iff_getElem?.2 hi, ht⟩, ?_⟩
    rw [← hq]

theorem entriesOf_nodup (test : LootItem → Bool) (items : List LootItem) : ((entriesOf test items).map QuestItem.index).Nodup := by
  have hsub : (((items.zipIdx.filter fun e => test e.1)).map Prod.snd).Sublist (items.zipIdx.map Prod.snd) :=
    filter_sublist.map _
  have heq : (entriesOf test items).map QuestItem.index = ((items.zipIdx.filter fun e => test e.1)).map Prod.snd := by
    unfold entriesOf
    rw [map_map]
    rfl
  rw [heq]
  apply hsub.nodup
  rw [zipIdx_map_snd]
  exact nodup_range'

theorem untaken_entriesOf (test : LootItem → Bool) (items : List LootItem) :
    untaken (fun _ => true) (entriesOf test items) = (entriesOf test items).length := by
  unfold untaken
  rw [countP_eq_length]
  intro q hq
  rw [(mem_entriesOf.1 hq).1]
  rfl

theorem Counted.fillFFALoot (h : Counted l) (hn : l.playerFFAItems.lookup p.guid = none) : Counted (l.fillFFALoot p) := by
  unfold Loot.fillFFALoot
  by_cases hw : p.inWorld = false
  · rwa [if_pos hw]
  rw [if_neg hw]
  by_cases hnil : entriesOf (ffaFor p) l.items = []
  · rwa [if_pos hnil]
  rw [if_neg hnil]
  refine ⟨h.counted, h.blocked, h.conditional, h.quest, ?_, h.questOnce, ?_⟩
  · intro guid ql hl
    by_cases hg : guid = p.guid
    · subst hg
      rw [lookup_insert] at hl
      cases hl
      exact entriesOf_nodup _ _
    · rw [lookup_insert_ne hg] at hl
      exact h.ffaOnce guid ql hl
  · have htally : tally (fun _ ql => untaken (fun _ => true) ql)
        (l.playerFFAItems.insert p.guid (entriesOf (ffaFor p) l.items)) =
        (entriesOf (ffaFor p) l.items).length + l.ffaTakings := by
      rw [tally_insert_new _ _ hn, untaken_entriesOf]
      rfl
    dsimp only
    rw [h.count, ← ofNat_add]
    unfold tallies
    unfold ffaTakings at htally ⊢
    dsimp only
    rw [htally]
    congr 1
    unfold ffaQuestTakings ffaQuest
    dsimp only
    omega

theorem Counted.fillConditionalLoot (h : Counted l) (hn : l.playerConditionalItems.lookup p.guid = none) :
    Counted (l.fillConditionalLoot p) := by
  unfold Loot.fillConditionalLoot
  by_cases hw : p.inWorld = false
  · rwa [if_pos hw]
  rw [if_neg hw]
  by_cases hnil : entriesOf (conditionalFor p) l.items = []
  · rwa [if_pos hnil]
  rw [if_neg hnil]
  refine ⟨?_, h.blocked, ?_, h.quest, h.ffaOnce, h.questOnce, ?_⟩
  · intro i item' hi
    dsimp only at hi ⊢
    rw [getElem?_map, Option.map_eq_some_iff] at hi
    obtain ⟨item, hi, rfl⟩ := hi
    have hany : (entriesOf (conditionalFor p) l.items).any (fun q => q.index = i) = conditionalFor p item := by
      rw [Bool.eq_iff_iff, any_eq_true]
      constructor
      · rintro ⟨q, hq, hqi⟩
        obtain ⟨-, item', hi', ht⟩ := mem_entriesOf.1 hq
        rw [decide_eq_true_eq] at hqi
        rw [hqi, hi] at hi'
        cases hi'
        exact ht
      · intro ht
        exact ⟨⟨i, false⟩, mem_entriesOf.2 ⟨rfl, item, hi, ht⟩, by simp⟩
    rw [listed_insert hn, hany, ← h.counted i item hi]
    cases conditionalFor p item <;> simp
  · intro i hi
    dsimp only at hi ⊢
    rw [length_map]
    rw [listed_insert hn, or_eq_true] at hi
    obtain hi | hi := hi
    · obtain ⟨q, hq, hqi⟩ := any_eq_true.1 hi
      obtain ⟨-, item, hitem, -⟩ := mem_entriesOf.1 hq
      rw [decide_eq_true_eq] at hqi
      rw [hqi] at hitem
      exact (List.getElem?_eq_some_iff.1 hitem).1
    · exact h.conditional i hi
  · have hcount : (l.items.map fun item => if conditionalFor p item then { item with isCounted := true } else item).countP sharedOpen =
        l.items.countP sharedOpen + l.items.countP fun item => conditionalFor p item && !item.isCounted := by
      apply countP_map_add
      intro item
      cases hc : conditionalFor p item with
      | false => simp
      | true =>
        unfold conditionalFor at hc
        simp only [and_eq_true, not_eq_true', decide_eq_true_eq] at hc
        obtain ⟨⟨⟨hlo, hff⟩, hcond⟩, -⟩ := hc
        simp [sharedOpen, hlo, hff, hcond]
        cases item.isCounted <;> rfl
    dsimp only
    rw [h.count, ← ofNat_add]
    unfold tallies
    dsimp only
    rw [hcount]
    congr 1
    unfold ffaTakings ffaQuestTakings ffaQuest
    dsimp only
    omega

/-! The loop of `FillQuestLoot`. -/

/-- What the loop makes of the items from the place `i` on: it blocks those it makes an entry for, makes one entry for
each, and adds to the count what it adds to the takings. -/
structure QuestLooped (p : Looter) (i : Nat) (items : List LootItem) (r : List LootItem × List QuestItem × Nat) : Prop where
  length : r.1.length = items.length
  item : ∀ j item, items[j]? = some item →
    r.1[j]? = some (if r.2.1.any (fun q => q.index = i + j) then { item with isBlocked := true } else item)
  entries : ∀ q ∈ r.2.1, q.isLooted = false ∧ i ≤ q.index ∧ ∃ item, items[q.index - i]? = some item ∧ questFor p item = true
  nodup : (r.2.1.map QuestItem.index).Nodup
  count : ∀ test : Nat → Bool, (∀ j item, items[j]? = some item → test (i + j) = item.freeforall) →
    items.countP questOpen + r.2.2 = r.1.countP questOpen + untaken test r.2.1

theorem QuestLooped.stop (p : Looter) (i : Nat) (items : List LootItem) : QuestLooped p i items (items, [], 0) where
  length := rfl
  item _ _ h := h
  entries _ h := nomatch h
  nodup := nodup_nil
  count _ _ := rfl

/-- No entry is for a place before the first. -/
theorem QuestLooped.any_first (h : QuestLooped p (i + 1) items r) : r.2.1.any (fun q => q.index = i) = false := by
  rw [any_eq_false]
  intro q hq hqi
  have := (h.entries q hq).2.1
  rw [decide_eq_true_eq] at hqi
  omega

theorem QuestLooped.skip (item : LootItem)
    (h : QuestLooped p (i + 1) items r) : QuestLooped p i (item :: items) (item :: r.1, r.2.1, r.2.2) where
  length := by rw [length_cons, length_cons, h.length]
  item j item' hj := by
    cases j with
    | zero =>
      cases hj
      dsimp only
      rw [add_zero, h.any_first]
      rfl
    | succ j =>
      have := h.item j item' hj
      rwa [add_right_comm] at this
  entries q hq := by
    obtain ⟨hlo, hi, item', hitem, hfor⟩ := h.entries q hq
    refine ⟨hlo, by omega, item', ?_, hfor⟩
    rw [show q.index - i = q.index - (i + 1) + 1 by omega]
    exact hitem
  nodup := h.nodup
  count test htest := by
    have hrest := h.count test fun j item' hj => by
      rw [add_right_comm]
      exact htest (j + 1) item' hj
    simp only [countP_cons]
    omega

theorem QuestLooped.enter (h : QuestLooped p (i + 1) items r) (hfor : questFor p item = true) : QuestLooped p i (item :: items)
      ({ item with isBlocked := true } :: r.1, ⟨i, false⟩ :: r.2.1, (if item.freeforall || !item.isBlocked then 1 else 0) + r.2.2) where
  length := by rw [length_cons, length_cons, h.length]
  item j item' hj := by
    cases j with
    | zero =>
      cases hj
      simp
    | succ j =>
      have hne : decide (i = i + (j + 1)) = false := by simp
      have := h.item j item' hj
      rw [add_assoc, add_comm 1 j] at this
      dsimp only
      rw [getElem?_cons_succ, any_cons, hne, Bool.false_or]
      exact this
  entries q hq := by
    obtain rfl | hq := mem_cons.1 hq
    · refine ⟨rfl, le_refl _, item, ?_, hfor⟩
      rw [Nat.sub_self]
      rfl
    · obtain ⟨hlo, hi, item', hitem, hfor'⟩ := h.entries q hq
      refine ⟨hlo, by omega, item', ?_, hfor'⟩
      rw [show q.index - i = q.index - (i + 1) + 1 by omega]
      exact hitem
  nodup := by
    rw [map_cons, nodup_cons]
    refine ⟨?_, h.nodup⟩
    intro hmem
    obtain ⟨q, hq, hqi⟩ := mem_map.1 hmem
    have := (h.entries q hq).2.1
    dsimp only at hqi
    omega
  count test htest := by
    have hrest := h.count test fun j item' hj => by
      rw [add_right_comm]
      exact htest (j + 1) item' hj
    have hfirst : test i = item.freeforall := htest 0 item rfl
    have hlooted : item.isLooted = false := by
      unfold questFor at hfor
      rw [and_eq_true, not_eq_true'] at hfor
      exact hfor.1
    unfold untaken at hrest ⊢
    simp only [countP_cons, questOpen, hlooted, hfirst]
    -- free for all: one more entry; for one player: one more item, when it was not blocked before
    cases item.freeforall <;> cases item.isBlocked <;> simp <;> omega

theorem questLoop_looped (p : Looter) (items : List LootItem) (room i : Nat) : QuestLooped p i items
    (questLoop p room i items) := by
  induction items generalizing room i with
  | nil => exact .stop p i []
  | cons item rest ih =>
    unfold questLoop
    by_cases hfor : questFor p item = true
    · rw [if_pos hfor]
      by_cases hroom : room = 1
      · have := (QuestLooped.stop p (i + 1) rest).enter hfor
        simpa only [if_pos hroom, add_zero] using this
      · have := (ih (room - 1) (i + 1)).enter hfor
        simpa only [if_neg hroom] using this
    · rw [if_neg hfor]
      exact (ih room (i + 1)).skip item

theorem Counted.fillQuestLoot (h : Counted l) (hn : l.playerQuestItems.lookup p.guid = none) : Counted (l.fillQuestLoot p) := by
  unfold Loot.fillQuestLoot
  by_cases hw : p.inWorld = false
  · rwa [if_pos hw]
  rw [if_neg hw]
  by_cases hfull : l.items.length = maxNrLootItems
  · rwa [if_pos hfull]
  rw [if_neg hfull]
  have hloop := questLoop_looped p l.questItems (maxNrLootItems - l.items.length) 0
  generalize questLoop p (maxNrLootItems - l.items.length) 0 l.questItems = r at hloop ⊢
  obtain ⟨questItems, ql, count⟩ := r
  dsimp only at hloop ⊢
  by_cases hnil : ql = []
  · rwa [if_pos hnil]
  rw [if_neg hnil]
  have hffa : ∀ i : Nat, questItems[i]?.any (fun item => item.freeforall) = l.ffaQuest i := by
    intro i
    unfold ffaQuest
    cases hi : l.questItems[i]? with
    | none =>
      have : questItems[i]? = none := by
        have hlen := hloop.length
        dsimp only at hlen
        rw [getElem?_eq_none_iff] at hi ⊢
        omega
      rw [this]
    | some item =>
      have := hloop.item i item hi
      dsimp only at this
      rw [this]
      by_cases hq : ql.any (fun q => q.index = 0 + i) = true
      · rw [if_pos hq]
        rfl
      · rw [if_neg hq]
  refine ⟨h.counted, ?_, h.conditional, ?_, h.ffaOnce, ?_, ?_⟩
  · intro i item' hi
    dsimp only at hi ⊢
    have hlt : i < l.questItems.length := hloop.length ▸ (List.getElem?_eq_some_iff.1 hi).1
    have hitem := hloop.item i _ (getElem?_eq_getElem hlt)
    dsimp only at hitem
    rw [hi, zero_add] at hitem
    have hblocked := h.blocked i _ (getElem?_eq_getElem hlt)
    rw [listed_insert hn, ← hblocked]
    split_ifs at hitem with hq
    · cases hitem
      rw [hq]
      rfl
    · cases hitem
      rw [not_eq_true] at hq
      rw [hq]
      rfl
  · intro i hi
    have hlen := hloop.length
    dsimp only at hi hlen ⊢
    rw [listed_insert hn, or_eq_true] at hi
    rw [hlen]
    obtain hi | hi := hi
    · obtain ⟨q, hq, hqi⟩ := any_eq_true.1 hi
      obtain ⟨-, -, item, hitem, -⟩ := hloop.entries q hq
      rw [decide_eq_true_eq] at hqi
      rw [hqi, Nat.sub_zero] at hitem
      exact (List.getElem?_eq_some_iff.1 hitem).1
    · exact h.quest i hi
  · intro guid ql' hl
    by_cases hg : guid = p.guid
    · subst hg
      rw [lookup_insert] at hl
      cases hl
      exact hloop.nodup
    · rw [lookup_insert_ne hg] at hl
      exact h.questOnce guid ql' hl
  · have hcount := hloop.count l.ffaQuest fun j item hj => by
      unfold ffaQuest
      rw [zero_add, hj]
      rfl
    have htakings : tally (fun _ ql => untaken (fun i => questItems[i]?.any fun item => item.freeforall) ql)
        (l.playerQuestItems.insert p.guid ql) = untaken l.ffaQuest ql + l.ffaQuestTakings := by
      rw [funext hffa, tally_insert_new _ _ hn]
      rfl
    dsimp only at hcount ⊢
    rw [h.count, ← ofNat_add]
    unfold tallies
    unfold ffaQuestTakings ffaQuest at htakings ⊢
    dsimp only
    rw [htakings]
    congr 1
    unfold ffaTakings
    unfold ffaQuest at hcount
    dsimp only
    omega

/-! The whole filling. -/

theorem Counted.unlessListed {filled : Loot} {t : Table Nat (List QuestItem)} (h : Counted l)
    (hf : t.lookup p.guid = none → Counted filled) : Counted (Loot.unlessListed t p l filled) := by
  unfold Loot.unlessListed
  by_cases hl : (t.lookup p.guid).isSome = true
  · rwa [if_pos hl]
  · rw [if_neg hl]
    exact hf (by simpa using hl)

theorem Counted.allow (h : Counted l) (guid : Nat) : Counted (l.allow guid) :=
  ⟨h.counted, h.blocked, h.conditional, h.quest, h.ffaOnce, h.questOnce, h.count⟩

theorem Counted.fillNotNormalLootFor (h : Counted l) (p : Looter) : Counted (l.fillNotNormalLootFor p) := by
  unfold Loot.fillNotNormalLootFor
  have hallow : Counted (if p.inWorld then l.allow p.guid else l) := by
    by_cases hw : p.inWorld = true
    · rw [if_pos hw]
      exact h.allow p.guid
    · rwa [if_neg hw]
  have hquest := hallow.unlessListed (p := p) fun hn => hallow.fillQuestLoot hn
  have hffa := hquest.unlessListed (p := p) fun hn => hquest.fillFFALoot hn
  exact hffa.unlessListed fun hn => hffa.fillConditionalLoot hn

theorem Counted.markUnderthreshold (h : Counted l) (below : Nat → Bool) : Counted (l.markUnderthreshold below) := by
  have hopen : ∀ item : LootItem, sharedOpen (if below item.itemid then { item with isUnderthreshold := true } else item) = sharedOpen item := by
    intro item
    cases below item.itemid <;> rfl
  have hcount : (l.items.map fun item => if below item.itemid then { item with isUnderthreshold := true } else item).countP sharedOpen =
      l.items.countP sharedOpen := by
    rw [countP_map]
    apply countP_congr
    intro item _
    rw [Function.comp_apply, hopen]
  refine ⟨?_, h.blocked, ?_, h.quest, h.ffaOnce, h.questOnce, ?_⟩
  · intro i item' hi
    unfold Loot.markUnderthreshold at hi
    dsimp only at hi
    rw [getElem?_map, Option.map_eq_some_iff] at hi
    obtain ⟨item, hi, rfl⟩ := hi
    have := h.counted i item hi
    cases below item.itemid <;> exact this
  · intro i hi
    unfold Loot.markUnderthreshold
    dsimp only
    rw [length_map]
    exact h.conditional i hi
  · have htallies : (l.markUnderthreshold below).tallies = l.tallies := by
      unfold tallies Loot.markUnderthreshold
      dsimp only
      rw [hcount]
      rfl
    rw [htallies]
    exact h.count

theorem Counted.fillLoot (h : Counted l) (drops : List Drop) (owner : Looter) (personal : Bool) (reach : Option (List Looter))
    (below : Nat → Bool) : Counted (l.fillLoot drops owner personal reach below) := by
  have hpersonal : ∀ {l : Loot} (b : Bool), Counted l → Counted { l with personal := b } :=
    fun b h => ⟨h.counted, h.blocked, h.conditional, h.quest, h.ffaOnce, h.questOnce, h.count⟩
  have hdrops := (hpersonal true h).drops drops
  have hmembers : ∀ (members : List Looter) {l : Loot}, Counted l →
      Counted (members.foldl (fun (l : Loot) p => (l.allow p.guid).fillNotNormalLootFor p) l) := by
    intro members
    induction members with
    | nil => exact fun h => h
    | cons p rest ih => exact fun h => ih ((h.allow p.guid).fillNotNormalLootFor p)
  unfold Loot.fillLoot
  dsimp only
  split
  · exact (hmembers _ (hpersonal false hdrops)).markUnderthreshold below
  · exact hdrops.fillNotNormalLootFor owner

end Loot

end ComfyCraft
