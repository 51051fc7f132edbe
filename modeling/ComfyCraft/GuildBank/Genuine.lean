import ComfyCraft.GuildBank.Edits

/-! What every edit a command makes is known to satisfy, whatever the message's numbers were: it keeps
an item's identity, puts new items on free slots under a new guid, and queues nothing that belongs
to another bank. -/

namespace ComfyCraft

open List UInt8 GuildBank

variable {om : ObjectMgr}

def nextGuid (items : List (BankItem om)) : UInt32 :=
  items.foldl (fun guid it => if guid < it.guid then it.guid else guid) 0 + 1

namespace BankStore

/-- The item carries the key columns of this bank. -/
structure Owns (s : BankStore om) (it : BankItem om) : Prop where
  guildid : it.guildid = s.guildid
  inferno : it.isInferno = s.inferno

structure OwnsAll (s : BankStore om) : Prop where
  items : ∀ it ∈ s.items, s.Owns it
  queue : ∀ it ∈ s.queue, s.Owns it

def FreeAt (s : BankStore om) (tab slot : UInt32) : Prop := ∀ it ∈ s.items, ¬ (it.tab = tab ∧ it.slot = slot)

/-- A new item: its own key columns, a new guid, and a free slot of a tab. -/
structure GenuineAdd (s : BankStore om) (it : BankItem om) : Prop where
  owns : s.Owns it
  state : it.state = .new
  guid : it.guid = nextGuid s.items
  tab : World.TabInRange it.tab
  slot : World.SlotInRange it.slot
  free : s.FreeAt it.tab it.slot

/-- A changed item keeps its guid and its tab, and its slot or moves to a free one. -/
structure GenuineChange (s : BankStore om) (i : Nat) (old it : BankItem om) : Prop where
  found : s.items[i]? = some old
  owns : s.Owns it
  guid : it.guid = old.guid
  tab : it.tab = old.tab
  slot : it.slot = old.slot ∨ World.SlotInRange it.slot ∧ s.FreeAt it.tab it.slot

/-- Two items of one tab that take each other's slot. -/
structure GenuineExchange (s : BankStore om) (i : Nat) (it : BankItem om) (j : Nat) (jt x y : BankItem om) : Prop where
  src : s.items[i]? = some x
  dst : s.items[j]? = some y
  ne : i ≠ j
  tab : x.tab = y.tab
  it : it = { x with slot := y.slot }
  jt : jt = { y with slot := x.slot }

def Genuine (s : BankStore om) : Edit om → Prop
  | .add it => s.GenuineAdd it
  | .change i it => ∃ old, s.GenuineChange i old it
  | .exchange i it j jt => ∃ x y, s.GenuineExchange i it j jt x y
  | .remove i it => s.items[i]? = some it
  | .enqueue it => s.Owns it ∧ it.state = .removed
  | .tabs n => World.TabInRange n
  | .save => True

variable {s : BankStore om} {it : BankItem om} {e : Edit om}

@[simp] theorem owns_changed : s.Owns it.changed ↔ s.Owns it := ⟨fun h => ⟨h.1, h.2⟩, fun h => ⟨h.1, h.2⟩⟩

@[simp] theorem owns_removed : s.Owns it.removed ↔ s.Owns it := ⟨fun h => ⟨h.1, h.2⟩, fun h => ⟨h.1, h.2⟩⟩

@[simp] theorem guildid_edit (s : BankStore om) (e : Edit om) : (s.edit e).guildid = s.guildid := by
  cases e with
  | save => unfold edit save saveItems saveTabs; simp only; split_ifs <;> rfl
  | _ => rfl

@[simp] theorem inferno_edit (s : BankStore om) (e : Edit om) : (s.edit e).inferno = s.inferno := by
  cases e with
  | save => unfold edit save saveItems saveTabs; simp only; split_ifs <;> rfl
  | _ => rfl

@[simp] theorem locked_edit (s : BankStore om) (e : Edit om) : (s.edit e).locked = s.locked := by
  cases e with
  | save => unfold edit save saveItems saveTabs; simp only; split_ifs <;> rfl
  | _ => rfl

theorem owns_edit : (s.edit e).Owns it ↔ s.Owns it := by
  constructor
  · rintro ⟨h1, h2⟩
    exact ⟨h1.trans (guildid_edit s e), h2.trans (inferno_edit s e)⟩
  · rintro ⟨h1, h2⟩
    exact ⟨h1.trans (guildid_edit s e).symm, h2.trans (inferno_edit s e).symm⟩

/-- A save that does nothing to the items, because the bank is locked or nothing is queued. -/
structure SavedIdle (s : BankStore om) : Prop where
  idle : s.locked = true ∨ s.queue = []
  rows : s.save.rows = s.rows
  items : s.save.items = s.items
  queue : s.save.queue = s.queue

/-- A save that runs the queue and marks the items as written. -/
structure SavedQueue (s : BankStore om) : Prop where
  locked : s.locked = false
  rows : s.save.rows = Transaction.commit s.rows (s.queue.map BankItem.stmt)
  items : s.save.items = s.items.map fun it => { it with state := .unchanged }
  queue : s.save.queue = []

theorem save_cases (s : BankStore om) : s.SavedIdle ∨ s.SavedQueue := by
  by_cases hlock : s.locked = true
  · have hs : s.save = s := if_pos hlock
    exact .inl ⟨.inl hlock, by rw [hs], by rw [hs], by rw [hs]⟩
  by_cases hq : s.queue = []
  · have hs : s.save = s.saveTabs := by
      unfold save saveItems
      rw [if_neg hlock]
      exact if_pos hq
    exact .inl ⟨.inr hq, by rw [hs]; rfl, by rw [hs]; rfl, by rw [hs]; rfl⟩
  · have hs : s.save = { s.saveTabs with
        items := s.items.map fun it => { it with state := .unchanged }
        queue := []
        rows := Transaction.commit s.rows (s.queue.map BankItem.stmt) } := by
      unfold save saveItems
      rw [if_neg hlock]
      exact if_neg hq
    exact .inr ⟨by simpa using hlock, by rw [hs], by rw [hs], by rw [hs]⟩

theorem owns_of_getElem? {i : Nat} (h : s.OwnsAll) (hi : s.items[i]? = some it) : s.Owns it :=
  h.items it (mem_of_getElem? hi)

theorem OwnsAll.edit (h : s.OwnsAll) (he : s.Genuine e) : (s.edit e).OwnsAll := by
  have hpush : ∀ (q : List (BankItem om)), (∀ x ∈ q, s.Owns x) → ∀ x ∈ s.queue ++ q, s.Owns x := by
    intro q hq x hx
    rcases mem_append.1 hx with hx | hx
    · exact h.queue x hx
    · exact hq x hx
  refine ⟨fun x hx => owns_edit.2 ?_, fun x hx => owns_edit.2 ?_⟩
  · cases e with
    | add it =>
      rcases mem_append.1 hx with hx | hx
      · exact h.items x hx
      · rw [mem_singleton.1 hx]; exact he.owns
    | change i it =>
      obtain ⟨old, hc⟩ := he
      rcases mem_or_eq_of_mem_set hx with hx | rfl
      · exact h.items x hx
      · exact owns_changed.2 hc.owns
    | exchange i it j jt =>
      obtain ⟨a, b, hc⟩ := he
      have ha := owns_of_getElem? h hc.src
      have hb := owns_of_getElem? h hc.dst
      rcases mem_or_eq_of_mem_set hx with hx | rfl
      · rcases mem_or_eq_of_mem_set hx with hx | rfl
        · exact h.items x hx
        · rw [hc.it]; exact ⟨ha.1, ha.2⟩
      · rw [hc.jt]; exact ⟨hb.1, hb.2⟩
    | remove i it => exact h.items x (mem_of_mem_eraseIdx hx)
    | enqueue it => exact h.items x hx
    | tabs n => exact h.items x hx
    | save =>
      rw [edit] at hx
      rcases save_cases s with hs | hs
      · rw [hs.items] at hx; exact h.items x hx
      rw [hs.items] at hx
      obtain ⟨y, hy, rfl⟩ := mem_map.1 hx
      exact ⟨(h.items y hy).1, (h.items y hy).2⟩
  · cases e with
    | add it => exact hpush [it] (by simpa using he.owns) x hx
    | change i it =>
      obtain ⟨old, hc⟩ := he
      exact hpush [it.changed] (by simpa using hc.owns) x hx
    | exchange i it j jt =>
      obtain ⟨a, b, hc⟩ := he
      have ha := owns_of_getElem? h hc.src
      have hb := owns_of_getElem? h hc.dst
      refine hpush [it.changed, jt.changed] ?_ x hx
      intro y hy
      rcases mem_cons.1 hy with rfl | hy
      · rw [hc.it]; exact ⟨ha.1, ha.2⟩
      · rw [mem_singleton.1 hy, hc.jt]; exact ⟨hb.1, hb.2⟩
    | remove i it => exact hpush [it.removed] (by simpa using owns_of_getElem? h he) x hx
    | enqueue it => exact hpush [it] (by simpa using he.1) x hx
    | tabs n => exact h.queue x hx
    | save =>
      rw [edit] at hx
      rcases save_cases s with hs | hs
      · rw [hs.queue] at hx; exact h.queue x hx
      · rw [hs.queue] at hx; exact absurd hx not_mem_nil

end BankStore

namespace World

open BankStore

/-- Every edit of the list is genuine where it is made. -/
def AllGenuine (s : BankStore om) (es : List (Edit om)) : Prop := Runs.Admitted BankStore.edit Genuine s es

variable {s : BankStore om} {es : List (Edit om)} {w : World om} {bankTab bankSlot count : UInt32} {i : Nat}
  {bItem : BankItem om} {free : World om → UInt32 → Pos → List (Edit om)} {pos : Pos} {stack : Bool} {r : SlotPair om}

theorem AllGenuine.ownsAll (h : s.OwnsAll) (hes : AllGenuine s es) : (editAll s es).OwnsAll :=
  Runs.invariant (I := OwnsAll) (fun _ _ => OwnsAll.edit) h hes

theorem AllGenuine.append {es' : List (Edit om)} (h : AllGenuine s es) (h' : AllGenuine (editAll s es) es') :
    AllGenuine s (es ++ es') :=
  (Runs.admitted_append _ _).2 ⟨h, h'⟩

theorem AllGenuine.snoc_save (h : AllGenuine s es) : AllGenuine s (es ++ [.save]) :=
  h.append ⟨trivial, trivial⟩

theorem owns_editAll {it : BankItem om} : (editAll s es).Owns it ↔ s.Owns it := by
  induction es generalizing s with
  | nil => exact Iff.rfl
  | cons e es ih => exact ih.trans owns_edit

theorem genuine_over (pItem : Item om)
    (count : UInt32) (stack : Bool) (h : w.store.OwnsAll) (hi : w.bank.getItem bankTab bankSlot = some (i, bItem)) :
    w.store.Genuine (.change i (overItem w bItem pItem count stack)) := by
  have hget := (getItem_some hi).1
  exact ⟨bItem, hget, ⟨(h.items bItem (mem_of_getElem? hget)).guildid, rfl⟩, rfl, rfl, .inl rfl⟩

theorem genuine_new (pItem : Item om) (count : UInt32) (ht : TabInRange bankTab)
    (hs : SlotInRange bankSlot) (hfree : w.bank.getItem bankTab bankSlot = none) :
    w.store.Genuine (.add (newItem w bankTab bankSlot pItem count)) :=
  ⟨⟨rfl, rfl⟩, rfl, rfl, ht, hs, getItem_none hfree⟩

theorem genuine_depositOver {remainer : UInt32} (h : w.store.OwnsAll)
    (hfree : ∀ w' : World om, w'.store.OwnsAll → AllGenuine w'.store (free w' bankTab pos)) :
    AllGenuine w.store (depositItemInSlotEdits free w bankTab bankSlot pos count remainer .changed stack) := by
  unfold depositItemInSlotEdits
  cases w.player.mItems.lookup pos with
  | none => trivial
  | some pItem =>
    simp only [reduceCtorEq, if_false]
    cases hi : w.bank.getItem bankTab bankSlot with
    | none => trivial
    | some found =>
      obtain ⟨i, bItem⟩ := found
      have hg := genuine_over pItem count stack h hi
      refine ⟨hg, AllGenuine.snoc_save ?_⟩
      by_cases hr : remainer = 0
      · rw [if_pos hr]; trivial
      rw [if_neg hr]
      refine hfree { w with
        bank := (w.bank.push (overItem w bItem pItem count stack)).setItem (some i) (overItem w bItem pItem count stack)
        player := w.player.setCountAt pos (pItem.count - count) } ?_
      exact OwnsAll.edit h hg

theorem genuine_depositNew (ht : TabInRange bankTab) (hs : SlotInRange bankSlot)
    (hslot : w.bank.getItem bankTab bankSlot = none) :
    AllGenuine w.store (depositItemInSlotEdits free w bankTab bankSlot pos count 0 .new stack) := by
  unfold depositItemInSlotEdits
  cases w.player.mItems.lookup pos with
  | none => trivial
  | some pItem => exact ⟨genuine_new pItem count ht hs hslot, trivial, trivial⟩

theorem slotInRange_of_mem {i : UInt8} (h : i ∈ slots 1 99) : SlotInRange i.toUInt32 := by
  obtain ⟨h1, h2⟩ := mem_slots h
  have e1 : (1 : UInt8).toNat = 1 := rfl
  have e99 : (99 : UInt8).toNat = 99 := rfl
  unfold SlotInRange
  rw [toNat_toUInt32]
  omega

theorem freeSlot_some {b : GuildBank om} {i : UInt8} (h : freeSlot b bankTab = some i) :
    SlotInRange i.toUInt32 ∧ b.getItem bankTab i.toUInt32 = none := by
  unfold freeSlot at h
  have hp := find?_some h
  exact ⟨slotInRange_of_mem (mem_of_find?_eq_some h), by simpa using hp⟩

theorem genuine_depositInFreeSlot (fuel : Nat) (pos : Pos) (h : w.store.OwnsAll)
    (ht : TabInRange bankTab) : AllGenuine w.store (depositItemInFreeSlotEdits fuel w bankTab pos) := by
  induction fuel generalizing w with
  | zero => trivial
  | succ fuel ih =>
    unfold depositItemInFreeSlotEdits
    cases w.player.mItems.lookup pos with
    | none => trivial
    | some pItem =>
      simp only
      cases (if 1 < pItem.proto.stackable then stackSlot w.bank bankTab pItem else none) with
      | some found =>
        obtain ⟨i, bItem⟩ := found
        simp only
        split_ifs
        · exact genuine_depositOver h fun w' h' => ih h'
        · exact genuine_depositOver h fun w' h' => ih h'
      | none =>
        simp only
        cases hslot : freeSlot w.bank bankTab with
        | some slot => exact genuine_depositNew ht (freeSlot_some hslot).1 (freeSlot_some hslot).2
        | none => trivial

theorem genuine_depositInSlot (bankSlot : UInt32) (pos : Pos) (count : UInt32) (stack : Bool)
    (h : w.store.OwnsAll) (ht : TabInRange bankTab) :
    AllGenuine w.store (depositInSlotEdits w bankTab bankSlot pos count .changed stack) :=
  genuine_depositOver h fun _ h' => genuine_depositInFreeSlot freeSlotFuel pos h' ht

theorem genuine_takeOut (left : Option UInt32) (h : s.OwnsAll)
    (hi : s.items[i]? = some bItem) : AllGenuine s (takeOutEdits (some i) bItem left) := by
  have ho := h.items bItem (mem_of_getElem? hi)
  cases left with
  | none => exact ⟨hi, trivial, trivial⟩
  | some n => exact ⟨⟨bItem, hi, ⟨ho.1, ho.2⟩, rfl, rfl, .inl rfl⟩, trivial, trivial⟩

variable (ctx : Ctx) (text : String) (params : List Int)

theorem genuine_withdrawItemTo (bag slot : UInt8) (count : UInt32)
    (target : Option Pos) (remainer : UInt32) (h : w.store.OwnsAll) (hi : w.bank.bItems[i]? = some bItem) :
    AllGenuine w.store (withdrawItemToEdits ctx w bag slot count (some i) bItem target remainer) := by
  unfold withdrawItemToEdits
  cases w.player.canStoreNewItem bag slot bItem.itemTemplate count with
  | error err => trivial
  | ok dest =>
    cases target with
    | some pos =>
      simp only
      cases w.player.mItems.lookup pos with
      | none => trivial
      | some pItem => exact genuine_takeOut _ h hi
    | none =>
      simp only
      cases w.player.storeNewItem dest bItem.itemTemplate ctx.randomPropertyId with
      | mk stored player =>
        cases stored with
        | none => exact ⟨trivial, trivial⟩
        | some pos => exact genuine_takeOut _ h hi

theorem genuine_withdrawCopy (w : World om) (bag slot : UInt8) (count : UInt32) (ho : s.Owns bItem) : AllGenuine s
    (withdrawItemToEdits ctx w bag slot count none bItem none 0) := by
  unfold withdrawItemToEdits
  cases w.player.canStoreNewItem bag slot bItem.itemTemplate count with
  | error err => trivial
  | ok dest =>
    simp only
    cases w.player.storeNewItem dest bItem.itemTemplate ctx.randomPropertyId with
    | mk stored player =>
      cases stored with
      | none => exact ⟨trivial, trivial⟩
      | some pos => exact ⟨⟨owns_removed.2 ho, rfl⟩, trivial, trivial⟩

theorem genuine_swapItems (pos : Pos) (bagItem : Item om) {bankItem : BankItem om}
    (h : w.store.OwnsAll) (ho : w.store.Owns bankItem) (ht : TabInRange bankItem.tab) :
    AllGenuine w.store (swapItemsEdits ctx w pos bagItem bankItem) := by
  have hgo : ∀ (w' : World om) (bag slot : UInt8), AllGenuine w.store
      (depositInSlotEdits w bankItem.tab bankItem.slot pos bagItem.count .changed false ++
        withdrawItemToEdits ctx w' bag slot bankItem.count none bankItem none 0) := by
    intro w' bag slot
    refine AllGenuine.append (genuine_depositInSlot _ _ _ _ h ht) (genuine_withdrawCopy ctx w' bag slot _ ?_)
    exact owns_editAll.2 ho
  unfold swapItemsEdits
  cases w.player.canStoreNewItem NULL_BAG NULL_SLOT bankItem.itemTemplate bankItem.count with
  | ok dest => exact hgo _ _ _
  | error res => cases res <;> first | trivial | exact hgo _ _ _

theorem genuine_deposit {r : DepositRequest om} (h : w.store.OwnsAll) (hr : r.Accepted w) :
    AllGenuine w.store (depositEdits ctx w r) := by
  unfold depositEdits
  split_ifs with h0
  · exact genuine_depositInFreeSlot freeSlotFuel r.pos h hr.tab
  cases hi : w.bank.getItem r.bankTab r.bankSlot with
  | none => exact genuine_depositNew hr.tab ⟨pos_of_ne_zero h0, hr.slot⟩ hi
  | some found =>
    obtain ⟨ref, dItem⟩ := found
    obtain ⟨hget, htab, -⟩ := getItem_some hi
    simp only
    unfold depositOntoEdits
    split_ifs
    · trivial
    · exact genuine_depositInSlot _ _ _ _ h hr.tab
    · exact genuine_withdrawItemTo ctx _ _ _ _ _ h hget
    · exact genuine_depositInSlot _ _ _ _ h hr.tab
    · exact genuine_swapItems ctx _ _ h (h.items dItem (mem_of_getElem? hget)) (htab ▸ hr.tab)

theorem genuine_withdraw {r : WithdrawRequest om} (h : w.store.OwnsAll) (hr : r.Accepted w) :
    AllGenuine w.store (withdrawEdits ctx w r) := by
  have hget := (getItem_some hr.item).1
  unfold withdrawEdits
  cases r.pos with
  | none => exact genuine_withdrawItemTo ctx _ _ _ _ _ h hget
  | some pos =>
    simp only
    cases w.player.getItemByPos pos with
    | none => exact genuine_withdrawItemTo ctx _ _ _ _ _ h hget
    | some pItem =>
      simp only
      unfold withdrawOntoEdits
      cases isItemBankable pItem with
      | some refusal => trivial
      | none =>
        simp only
        split_ifs
        · exact genuine_withdrawItemTo ctx _ _ _ _ _ h hget
        · exact genuine_withdrawItemTo ctx _ _ _ _ _ h hget
        · exact genuine_swapItems ctx _ _ h (h.items r.bItem (mem_of_getElem? hget)) hr.tab

theorem genuine_moveItemTo (h : w.store.OwnsAll) (hr : r.Accepted w) : AllGenuine w.store (moveItemToEdits r) := by
  obtain ⟨hs, hd⟩ := hr.apart
  have hso := h.items r.sItem (mem_of_getElem? hs)
  unfold moveItemToEdits
  cases hdst : r.dst with
  | none =>
    have hfree := getItem_none (hr.dst.trans hdst)
    exact ⟨⟨r.sItem, hs, ⟨hso.1, hso.2⟩, rfl, rfl, .inr ⟨hr.toSlot, hfree⟩⟩, trivial⟩
  | some found =>
    obtain ⟨d, dItem⟩ := found
    obtain ⟨hdi, hne⟩ := hd d dItem hdst
    obtain ⟨-, hdtab, hdslot⟩ := getItem_some (hr.dst.trans hdst)
    obtain ⟨-, -, hsslot⟩ := getItem_some hr.src
    have hdo := h.items dItem (mem_of_getElem? hdi)
    simp only
    split_ifs
    · refine ⟨⟨dItem, hdi, ⟨hdo.1, hdo.2⟩, rfl, rfl, .inl rfl⟩, ?_, trivial⟩
      exact (getElem?_set_ne hne.symm).trans hs
    · refine ⟨⟨r.sItem, hs, ⟨hso.1, hso.2⟩, rfl, rfl, .inl rfl⟩, ⟨dItem, ?_, ⟨hdo.1, hdo.2⟩, rfl, rfl, .inl rfl⟩, trivial⟩
      exact (getElem?_set_ne hne).trans hdi
    · exact ⟨⟨r.sItem, dItem, hs, hdi, hne, hdtab.symm, by rw [hdslot], by rw [hsslot]⟩, trivial, trivial⟩

theorem genuine_split {split : UInt32} (h : w.store.OwnsAll) (hr : r.Accepted w) :
    AllGenuine w.store (splitEdits w r split) := by
  obtain ⟨hs, hd⟩ := hr.apart
  have hso := h.items r.sItem (mem_of_getElem? hs)
  have hchange : ∀ n : UInt32, w.store.Genuine (.change r.src { r.sItem with count := n }) :=
    fun n => ⟨r.sItem, hs, ⟨hso.1, hso.2⟩, rfl, rfl, .inl rfl⟩
  unfold splitEdits
  cases hdst : r.dst with
  | none =>
    have hfree := getItem_none (hr.dst.trans hdst)
    simp only
    unfold splitToFreeEdits
    split_ifs
    · trivial
    · trivial
    refine ⟨hchange _, ⟨⟨rfl, hso.2⟩, rfl, rfl, hr.tab, hr.toSlot, ?_⟩, trivial, trivial⟩
    intro x hx
    rcases mem_or_eq_of_mem_set hx with hx | rfl
    · exact hfree x hx
    · exact hfree r.sItem (mem_of_getElem? hs)
  | some found =>
    obtain ⟨d, dItem⟩ := found
    obtain ⟨hdi, hne⟩ := hd d dItem hdst
    have hdo := h.items dItem (mem_of_getElem? hdi)
    simp only
    unfold splitOntoEdits
    split_ifs
    · trivial
    · refine ⟨hchange _, ⟨dItem, ?_, ⟨hdo.1, hdo.2⟩, rfl, rfl, .inl rfl⟩, trivial⟩
      exact (getElem?_set_ne hne).trans hdi

theorem unlockTabEdits_cases (w : World om) (params : List Int) : unlockTabEdits ctx w params = [] ∨
      ∃ n, TabInRange n ∧ (unlockTabEdits ctx w params : List (Edit om)) = [.tabs n, .save] := by
  unfold unlockTabEdits
  split_ifs with h0
  · exact .inl rfl
  rcases params with _ | ⟨p1, _ | ⟨p2, _ | ⟨p3, rest⟩⟩⟩
  · exact .inl rfl
  · exact .inl rfl
  · by_cases h1 : ofInt p1 ≤ 1 ∨ MAX_TABS < (ofInt p1).toUInt32 ∨ tabCost (ofInt p1) = 0
    · exact .inl (if_pos h1)
    have hn := h1
    simp only [not_or] at h1
    have htab : TabInRange (ofInt p1).toUInt32 := by
      refine ⟨?_, le_of_not_maxTabs h1.2.1⟩
      have h1 := UInt8.lt_iff_toNat_lt.1 (UInt8.not_le.1 h1.1)
      rw [toNat_toUInt32]
      exact h1.le
    simp only [if_neg hn]
    by_cases hcost : (if ofInt p2 = 0 then w.bank.bMoney else w.player.money) < tabCost (ofInt p1)
    · exact .inl (if_pos hcost)
    · exact .inr ⟨_, htab, if_neg hcost⟩
  · exact .inl rfl

theorem genuine_unlockTab (w : World om) (params : List Int) : AllGenuine w.store (unlockTabEdits ctx w params) := by
  rcases unlockTabEdits_cases ctx w params with hnone | ⟨n, htab, hn⟩
  · rw [hnone]
    trivial
  · rw [hn]
    exact ⟨htab, trivial, trivial⟩

/-- Whatever a message says, the edits of every command it runs are genuine. -/
theorem genuine_edits (cmd : Command) (h : w.store.OwnsAll) :
    AllGenuine w.store (edits ctx text params w cmd) := by
  cases cmd with
  | unlockTab => exact genuine_unlockTab ctx w params
  | depositItem =>
    simp only [edits]
    cases hr : depositRequest ctx w text params with
    | error refusal => trivial
    | ok r => exact genuine_deposit ctx h (depositRequest_ok hr)
  | withdrawItem =>
    simp only [edits]
    cases hr : withdrawRequest ctx w text params with
    | error refusal => trivial
    | ok r => exact genuine_withdraw ctx h (withdrawRequest_ok hr)
  | moveItem =>
    simp only [edits]
    cases hr : moveRequest ctx w text params with
    | error refusal => trivial
    | ok r => exact genuine_moveItemTo h (moveRequest_ok hr)
  | splitItem =>
    simp only [edits]
    cases hr : splitRequest ctx w text params with
    | error refusal => trivial
    | ok r => exact genuine_split h (splitRequest_ok hr).1

def commandsEdits (ctx : Ctx) (text : String) (params : List Int) : World om → List Command → List (Edit om)
  | _, [] => []
  | w, cmd :: cmds => edits ctx text params w cmd ++ commandsEdits ctx text params (runCommand ctx text params w cmd) cmds

theorem store_runCommands (w : World om) (cmds : List Command) :
    (Runs.run (runCommand ctx text params) w cmds).store = editAll w.store (commandsEdits ctx text params w cmds) := by
  induction cmds generalizing w with
  | nil => rfl
  | cons cmd cmds ih =>
    rw [commandsEdits, editAll_append, ← store_runCommand]
    exact ih _

theorem genuine_commands (cmds : List Command)
    (h : w.store.OwnsAll) : AllGenuine w.store (commandsEdits ctx text params w cmds) := by
  induction cmds generalizing w with
  | nil => trivial
  | cons cmd cmds ih =>
    have hg := genuine_edits ctx text params cmd h
    refine hg.append ?_
    have hnext := hg.ownsAll h
    rw [← store_runCommand] at hnext ⊢
    exact ih hnext

/-- The edits of a message; a refused one makes none. -/
def messageEdits (w : World om) (text : String) (commands : List Command) (params : List Int) : List (Edit om) :=
  if !ctx.canUseGuildBank || w.bank.bSaveLock || w.bank.bTabs = 0 then []
  else commandsEdits ctx text params w (handlers.filter (· ∈ commands))

theorem store_handle (w : World om) (text : String) (commands : List Command) (params : List Int) :
    (handleAddonMessages ctx w (.command text commands params)).store =
      editAll w.store (messageEdits ctx w text commands params) := by
  unfold handleAddonMessages messageEdits
  simp only
  split_ifs with h1 h2 h3 h4 h5 h6 h7
  all_goals first | rfl | (simp_all; done) | exact store_runCommands _ _ _ _ _

theorem genuine_message (commands : List Command) (params : List Int)
    (h : w.store.OwnsAll) : AllGenuine w.store (messageEdits ctx w text commands params) := by
  unfold messageEdits
  split_ifs
  · trivial
  · exact genuine_commands ctx text params _ h

end World

end ComfyCraft
