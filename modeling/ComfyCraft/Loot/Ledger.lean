import ComfyCraft.Loot.Target
import ComfyCraft.Loot.Taken

/-! What was taken from a loot against the marks in it: an item for one player that was taken is looted, of an item free
for all the entry of a player who took it is. Filling and taking only move the marks onward. -/

namespace ComfyCraft

open List AList Nat Loot

namespace LootTarget

open Loot (entry markEntry)

def total (taken : List LootTaken) (w : LootPlace) : Nat := taken.countP fun e => e.place = w

def ofPlayer (taken : List LootTaken) (w : LootPlace) (guid : Nat) : Nat := taken.countP fun e => e.place = w && e.player = guid

def itemAt (l : Loot) : LootPlace → Option LootItem
  | .item slot => l.items[slot]?
  | .questItem index => l.questItems[index]?

def listFor (l : Loot) : LootPlace → Table Nat (List QuestItem)
  | .item _ => l.playerFFAItems
  | .questItem _ => l.playerQuestItems

def placeIndex : LootPlace → Nat
  | .item slot => slot
  | .questItem index => index

/-- A player has an entry for the place, and it is taken. -/
def Done (t : Table Nat (List QuestItem)) (guid index : Nat) : Prop :=
  ∃ ql, t.lookup guid = some ql ∧ (∃ q ∈ ql, q.index = index) ∧ ∀ q ∈ ql, q.index = index → q.isLooted = true

structure Ledger (l : Loot) (taken : List LootTaken) : Prop where
  absent : ∀ w, itemAt l w = none → total taken w = 0
  single : ∀ w item, itemAt l w = some item → item.freeforall = false →
    total taken w ≤ 1 ∧ (0 < total taken w → item.isLooted = true)
  each : ∀ w item guid, itemAt l w = some item → item.freeforall = true →
    ofPlayer taken w guid ≤ 1 ∧ (0 < ofPlayer taken w guid → item.count = 0 ∨ Done (listFor l w) guid (placeIndex w))

theorem Ledger.nil (l : Loot) : Ledger l [] where
  absent _ _ := rfl
  single _ _ _ _ := ⟨zero_le _, fun h => absurd h (lt_irrefl 0)⟩
  each _ _ _ _ _ := ⟨zero_le _, fun h => absurd h (lt_irrefl 0)⟩

/-- Items one after another in time. -/
structure Later (a b : LootItem) : Prop where
  freeforall : b.freeforall = a.freeforall
  isLooted : a.isLooted = true → b.isLooted = true
  count : a.count = 0 → b.count = 0

theorem Later.refl (a : LootItem) : Later a a := ⟨rfl, fun h => h, fun h => h⟩

structure LaterList (l l' : List LootItem) : Prop where
  length : l'.length = l.length
  at_index : ∀ (i : Nat) a b, l[i]? = some a → l'[i]? = some b → Later a b

theorem LaterList.refl (l : List LootItem) : LaterList l l :=
  ⟨rfl, fun i a b ha hb => by rw [ha] at hb; cases hb; exact Later.refl a⟩

variable {f : LootItem → LootItem} {l l' : Loot} {w : LootPlace} {guid i : Nat} {taken : List LootTaken} {item : LootItem}
  {t : Table Nat (List QuestItem)} {ql : List QuestItem} {q : QuestItem} {p : Looter}

theorem LaterList.map (hf : ∀ a, Later a (f a)) (l : List LootItem) : LaterList l (l.map f) where
  length := length_map _
  at_index i a b ha hb := by
    rw [getElem?_map, ha] at hb
    cases hb
    exact hf a

theorem LaterList.modify (hf : ∀ a, Later a (f a)) (l : List LootItem) (i : Nat) : LaterList l (l.modify i f) where
  length := length_modify _ _ _
  at_index j a b ha hb := by
    rw [getElem?_modify, ha] at hb
    cases hb
    by_cases hij : i = j
    · simp only [if_pos hij]
      exact hf a
    · simp only [if_neg hij]
      exact Later.refl a

/-- A loot one after another in time, without a clear between. -/
structure Onward (l l' : Loot) : Prop where
  items : LaterList l.items l'.items
  questItems : LaterList l.questItems l'.questItems
  ffa : ∀ guid i, Done l.playerFFAItems guid i → Done l'.playerFFAItems guid i
  quest : ∀ guid i, Done l.playerQuestItems guid i → Done l'.playerQuestItems guid i

theorem Onward.refl (l : Loot) : Onward l l := ⟨.refl _, .refl _, fun _ _ h => h, fun _ _ h => h⟩

/-- With the quest items, their lists and the lists of what is free for all as they are. -/
theorem Onward.items_only (h : LaterList l.items l'.items) (hq : l'.questItems = l.questItems)
    (hf : l'.playerFFAItems = l.playerFFAItems) (hp : l'.playerQuestItems = l.playerQuestItems) : Onward l l' :=
  ⟨h, hq ▸ .refl _, hf ▸ fun _ _ h => h, hp ▸ fun _ _ h => h⟩

theorem LaterList.trans {a b c : List LootItem} (h : LaterList a b) (h' : LaterList b c) : LaterList a c where
  length := h'.length.trans h.length
  at_index i x z hx hz := by
    have hi : i < b.length := by
      rw [h.length]
      exact (List.getElem?_eq_some_iff.1 hx).1
    have hxy := h.at_index i x _ hx (getElem?_eq_getElem hi)
    have hyz := h'.at_index i _ z (getElem?_eq_getElem hi) hz
    exact ⟨hyz.freeforall.trans hxy.freeforall, fun hl => hyz.isLooted (hxy.isLooted hl), fun hc => hyz.count (hxy.count hc)⟩

theorem Onward.trans {a b c : Loot} (h : Onward a b) (h' : Onward b c) : Onward a c :=
  ⟨h.items.trans h'.items, h.questItems.trans h'.questItems, fun g i hd => h'.ffa g i (h.ffa g i hd),
    fun g i hd => h'.quest g i (h.quest g i hd)⟩

theorem Onward.itemAt (h : Onward l l') {b : LootItem} (hb : itemAt l' w = some b) : ∃ a, itemAt l w = some a ∧ Later a b := by
  have hlist : ∀ {m m' : List LootItem} {i : Nat}, LaterList m m' → m'[i]? = some b → ∃ a, m[i]? = some a ∧ Later a b := by
    intro m m' i hm hb
    have hi : i < m.length := hm.length ▸ (List.getElem?_eq_some_iff.1 hb).1
    exact ⟨_, getElem?_eq_getElem hi, hm.at_index i _ b (getElem?_eq_getElem hi) hb⟩
  cases w with
  | item slot => exact hlist h.items hb
  | questItem index => exact hlist h.questItems hb

theorem Onward.absent (h : Onward l l') (hb : LootTarget.itemAt l' w = none) : LootTarget.itemAt l w = none := by
  have hlist : ∀ {m m' : List LootItem} {i : Nat}, LaterList m m' → m'[i]? = none → m[i]? = none := by
    intro m m' i hm hb
    rw [getElem?_eq_none_iff] at hb ⊢
    rwa [hm.length] at hb
  cases w with
  | item slot => exact hlist h.items hb
  | questItem index => exact hlist h.questItems hb

theorem Onward.done (h : Onward l l') (hd : Done (listFor l w) guid (placeIndex w)) :
    Done (listFor l' w) guid (placeIndex w) := by
  cases w with
  | item slot => exact h.ffa guid slot hd
  | questItem index => exact h.quest guid index hd

theorem Ledger.onward (h : Ledger l taken) (ho : Onward l l') : Ledger l' taken where
  absent w hw := h.absent w (ho.absent hw)
  single w b hb hff := by
    obtain ⟨a, ha, hab⟩ := ho.itemAt hb
    obtain ⟨hle, hl⟩ := h.single w a ha (hab.freeforall ▸ hff)
    exact ⟨hle, fun ht => hab.isLooted (hl ht)⟩
  each w b guid hb hff := by
    obtain ⟨a, ha, hab⟩ := ho.itemAt hb
    obtain ⟨hle, hd⟩ := h.each w a guid ha (hab.freeforall ▸ hff)
    refine ⟨hle, fun ht => ?_⟩
    obtain hc | hd := hd ht
    · exact .inl (hab.count hc)
    · exact .inr (ho.done hd)

theorem total_cons (taken : List LootTaken) (e : LootTaken) (w : LootPlace) :
    total (e :: taken) w = total taken w + if e.place = w then 1 else 0 := by
  unfold total
  rw [countP_cons]
  simp

theorem ofPlayer_cons (taken : List LootTaken) (e : LootTaken) (w : LootPlace) (guid : Nat) :
    ofPlayer (e :: taken) w guid = ofPlayer taken w guid + if e.place = w ∧ e.player = guid then 1 else 0 := by
  unfold ofPlayer
  rw [countP_cons]
  simp

/-- Something more is taken that was not taken before, and is marked. -/
theorem Ledger.cons (h : Ledger l taken) {e : LootTaken}
    (hat : itemAt l e.place = some item) (hsingle : item.freeforall = false → total taken e.place = 0 ∧ item.isLooted = true)
    (heach : item.freeforall = true → ofPlayer taken e.place e.player = 0 ∧
      (item.count = 0 ∨ Done (listFor l e.place) e.player (placeIndex e.place))) : Ledger l (e :: taken) where
  absent w hw := by
    have hne : e.place ≠ w := by
      rintro rfl
      rw [hat] at hw
      cases hw
    rw [total_cons, if_neg hne, h.absent w hw]
  single w item' hw hff := by
    rw [total_cons]
    by_cases hp : e.place = w
    · subst hp
      rw [hat] at hw
      cases hw
      rw [if_pos rfl, (hsingle hff).1]
      exact ⟨le_refl 1, fun _ => (hsingle hff).2⟩
    · rw [if_neg hp]
      exact h.single w item' hw hff
  each w item' guid hw hff := by
    rw [ofPlayer_cons]
    by_cases hp : e.place = w ∧ e.player = guid
    · obtain ⟨rfl, rfl⟩ := hp
      rw [hat] at hw
      cases hw
      rw [if_pos ⟨rfl, rfl⟩, (heach hff).1]
      exact ⟨le_refl 1, fun _ => (heach hff).2⟩
    · rw [if_neg hp]
      exact h.each w item' guid hw hff

theorem Ledger.total_zero (h : Ledger l taken)
    (hat : itemAt l w = some item) (hff : item.freeforall = false) (hl : item.isLooted = false) : total taken w = 0 := by
  by_contra hne
  rw [(h.single w item hat hff).2 (pos_of_ne_zero hne)] at hl
  cases hl

theorem Ledger.ofPlayer_zero (h : Ledger l taken)
    (hat : itemAt l w = some item) (hff : item.freeforall = true) (hc : item.count ≠ 0)
    (hd : ¬ Done (listFor l w) guid (placeIndex w)) : ofPlayer taken w guid = 0 := by
  by_contra hne
  obtain hz | hdone := (h.each w item guid hat hff).2 (pos_of_ne_zero hne)
  · exact hc hz
  · exact hd hdone

/-! Entries. -/

theorem Done.of_lists {t' : Table Nat (List QuestItem)} (h : ∀ guid ql, t.lookup guid = some ql → t'.lookup guid = some ql)
    (hd : Done t guid i) : Done t' guid i := by
  obtain ⟨ql, hl, hd⟩ := hd
  exact ⟨ql, h guid ql hl, hd⟩

theorem markEntry_index (q : QuestItem) (index : Nat) :
    (if q.index = index then { q with isLooted := true } else q).index = q.index := by
  by_cases h : q.index = index
  · rw [if_pos h]
  · rw [if_neg h]

theorem Done.markEntry (hd : Done t guid i) (g index : Nat) : Done (Loot.markEntry t g index) guid i := by
  obtain ⟨ql, hl, ⟨q, hq, hqi⟩, hall⟩ := hd
  unfold Loot.markEntry
  cases hg : t.lookup g with
  | none => exact ⟨ql, hl, ⟨q, hq, hqi⟩, hall⟩
  | some old =>
    by_cases hgg : guid = g
    · subst hgg
      rw [hl] at hg
      cases hg
      refine ⟨_, lookup_insert _, ⟨_, mem_map.2 ⟨q, hq, rfl⟩, by rw [markEntry_index]; exact hqi⟩, ?_⟩
      intro r' hr' hri
      obtain ⟨r, hr, rfl⟩ := mem_map.1 hr'
      rw [markEntry_index] at hri
      by_cases h : r.index = index
      · rw [if_pos h]
      · rw [if_neg h]
        exact hall r hr hri
    · exact ⟨ql, by rw [lookup_insert_ne hgg]; exact hl, ⟨q, hq, hqi⟩, hall⟩

theorem done_markEntry (hl : t.lookup guid = some ql) (hq : q ∈ ql) : Done (Loot.markEntry t guid q.index) guid q.index := by
  unfold markEntry
  rw [hl]
  refine ⟨_, lookup_insert _, ⟨_, mem_map.2 ⟨q, hq, rfl⟩, markEntry_index q q.index⟩, ?_⟩
  intro r' hr' hri
  obtain ⟨r, hr, rfl⟩ := mem_map.1 hr'
  rw [markEntry_index] at hri
  rw [if_pos hri]

theorem not_done (hl : t.lookup guid = some ql) (hq : q ∈ ql) (hleft : q.isLooted = false) : ¬ Done t guid q.index := by
  rintro ⟨ql', hl', -, hall⟩
  rw [hl] at hl'
  cases hl'
  rw [hall q hq rfl] at hleft
  cases hleft

/-! Filling for a player moves a loot onward. -/

theorem onward_fillQuestLoot (hn : l.playerQuestItems.lookup p.guid = none) : Onward l (l.fillQuestLoot p) := by
  unfold fillQuestLoot
  split
  · exact .refl l
  split
  · exact .refl l
  have hloop := questLoop_looped p l.questItems (maxNrLootItems - l.items.length) 0
  generalize questLoop p (maxNrLootItems - l.items.length) 0 l.questItems = r at hloop ⊢
  obtain ⟨questItems, ql, count⟩ := r
  dsimp only at hloop ⊢
  split
  · exact .refl l
  refine ⟨.refl _, ⟨hloop.length, ?_⟩, fun _ _ h => h, ?_⟩
  · intro i a b ha hb
    have hitem := hloop.item i a ha
    dsimp only at hitem hb
    rw [hb] at hitem
    split at hitem
    · cases hitem
      exact ⟨rfl, fun h => h, fun h => h⟩
    · cases hitem
      exact Later.refl _
  · intro guid i hd
    refine hd.of_lists fun g ql' hl => ?_
    have hne : g ≠ p.guid := by
      rintro rfl
      rw [hn] at hl
      cases hl
    rw [lookup_insert_ne hne]
    exact hl

theorem onward_fillFFALoot (hn : l.playerFFAItems.lookup p.guid = none) : Onward l (l.fillFFALoot p) := by
  unfold fillFFALoot
  split
  · exact .refl l
  split
  · exact .refl l
  refine ⟨.refl _, .refl _, ?_, fun _ _ h => h⟩
  intro guid i hd
  refine hd.of_lists fun g ql' hl => ?_
  have hne : g ≠ p.guid := by
    rintro rfl
    rw [hn] at hl
    cases hl
  rw [lookup_insert_ne hne]
  exact hl

theorem onward_fillConditionalLoot (l : Loot) (p : Looter) : Onward l (l.fillConditionalLoot p) := by
  unfold fillConditionalLoot
  split
  · exact .refl l
  split
  · exact .refl l
  refine .items_only (LaterList.map ?_ l.items) rfl rfl rfl
  intro a
  split
  · exact ⟨rfl, fun h => h, fun h => h⟩
  · exact Later.refl a

theorem onward_unlessListed {filled : Loot}
    (h : t.lookup p.guid = none → Onward l filled) : Onward l (Loot.unlessListed t p l filled) := by
  unfold unlessListed
  split_ifs with hl
  · exact .refl l
  · exact h (by simpa using hl)

theorem onward_fillNotNormalLootFor (l : Loot) (p : Looter) : Onward l (l.fillNotNormalLootFor p) := by
  unfold fillNotNormalLootFor
  have hallow : Onward l (if p.inWorld then l.allow p.guid else l) := by
    split
    · exact .items_only (.refl _) rfl rfl rfl
    · exact .refl l
  have hquest : ∀ l : Loot, Onward l (unlessListed l.playerQuestItems p l (l.fillQuestLoot p)) :=
    fun l => onward_unlessListed onward_fillQuestLoot
  have hffa : ∀ l : Loot, Onward l (unlessListed l.playerFFAItems p l (l.fillFFALoot p)) :=
    fun l => onward_unlessListed onward_fillFFALoot
  have hconditional : ∀ l : Loot, Onward l (unlessListed l.playerConditionalItems p l (l.fillConditionalLoot p)) :=
    fun l => onward_unlessListed fun _ => onward_fillConditionalLoot l p
  exact ((hallow.trans (hquest _)).trans (hffa _)).trans (hconditional _)

theorem later_take (a : LootItem) : Later a a.take := by
  refine ⟨rfl, fun h => ?_, fun h => h⟩
  unfold LootItem.take
  rw [h]
  rfl

theorem later_give (a : LootItem) : Later a a.give := ⟨rfl, fun _ => rfl, fun _ => rfl⟩

theorem onward_mark (l : Loot) (guid slot : Nat) (pick : Loot.Pick) : Onward l (l.mark guid slot pick) := by
  cases pick with
  | quest index => exact ⟨.refl _, .modify later_take _ _, fun _ _ h => h, fun _ _ h => h.markEntry _ _⟩
  | ffa => exact ⟨.modify later_take _ _, .refl _, fun _ _ h => h.markEntry _ _, fun _ _ h => h⟩
  | conditional => exact ⟨.modify later_take _ _, .refl _, fun _ _ h => h, fun _ _ h => h⟩
  | plain => exact ⟨.modify later_take _ _, .refl _, fun _ _ h => h, fun _ _ h => h⟩

end LootTarget

end ComfyCraft
