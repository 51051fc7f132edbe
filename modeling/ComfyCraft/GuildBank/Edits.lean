import ComfyCraft.GuildBank.Requests

/-! What the commands do to a bank, as a list of edits. An edit is one write to the items in memory
together with the entry it puts into the queue, or a save. The player, the log and the texts
sent back are left behind here; `store_runCommand` says that nothing else is. -/

namespace ComfyCraft

open List Bool GuildBank

variable {om : ObjectMgr}

inductive Edit (om : ObjectMgr)
  | add (it : BankItem om)
  | change (i : Nat) (it : BankItem om)
  | exchange (i : Nat) (it : BankItem om) (j : Nat) (jt : BankItem om)
  | remove (i : Nat) (it : BankItem om)
  | enqueue (it : BankItem om)
  | tabs (n : UInt32)
  | save

/-- The part of a world that the edits act on. `savedTabs` is what a load would read, if anything. -/
structure BankStore (om : ObjectMgr) where
  guildid : UInt32
  inferno : Bool
  locked : Bool
  tabs : UInt32
  tabsChanged : Bool
  savedTabs : Option UInt32
  items : List (BankItem om)
  queue : List (BankItem om)
  rows : BankTable

def BankItem.changed (it : BankItem om) : BankItem om := { it with state := .changed }

def BankItem.removed (it : BankItem om) : BankItem om := { it with state := .removed }

namespace BankStore

variable (s : BankStore om)

def saveTabs : BankStore om :=
  { s with
    savedTabs := if s.tabsChanged then s.savedTabs.map fun _ => s.tabs else s.savedTabs
    tabsChanged := false }

def saveItems : BankStore om :=
  if s.queue = [] then s
  else { s with
    items := s.items.map fun it => { it with state := .unchanged }
    queue := []
    rows := Transaction.commit s.rows (s.queue.map BankItem.stmt) }

def save : BankStore om := if s.locked then s else s.saveTabs.saveItems

def edit : Edit om → BankStore om
  | .add it => { s with items := s.items ++ [it], queue := s.queue ++ [it] }
  | .change i it => { s with items := s.items.set i it.changed, queue := s.queue ++ [it.changed] }
  | .exchange i it j jt => { s with
      items := (s.items.set i it.changed).set j jt.changed
      queue := s.queue ++ [it.changed, jt.changed] }
  | .remove i it => { s with items := s.items.eraseIdx i, queue := s.queue ++ [it.removed] }
  | .enqueue it => { s with queue := s.queue ++ [it] }
  | .tabs n => { s with tabs := n, tabsChanged := true }
  | .save => s.save

end BankStore

def GuildBank.store (b : GuildBank om) (db : CharacterDatabase) : BankStore om where
  guildid := b.guildid
  inferno := b.bInfernoBank
  locked := b.bSaveLock
  tabs := b.bTabs
  tabsChanged := b.bTabsChanged
  savedTabs := (b.bankRows db).getLast?.map fun r => r.1.tabs
  items := b.bItems
  queue := b.bItemUpdateQueue
  rows := db.guildBank

namespace World

variable (ctx : Ctx) (w : World om)

def store : BankStore om := w.bank.store w.db

def depositItemInSlotEdits (free : World om → UInt32 → Pos → List (Edit om)) (w : World om) (bankTab bankSlot : UInt32)
    (pos : Pos) (count remainer : UInt32) (state : ItemUpdateState) (stack : Bool) : List (Edit om) :=
  match w.player.mItems.lookup pos with
  | none => []
  | some pItem =>
    let formed : Option (GuildBank om × Edit om) :=
      if state = .new then
        let bItem := newItem w bankTab bankSlot pItem count
        some ((w.bank.push bItem).addItem bItem, .add bItem)
      else
        (w.bank.getItem bankTab bankSlot).map fun (i, bItem) =>
          let bItem' := overItem w bItem pItem count stack
          ((w.bank.push bItem').setItem (some i) bItem', .change i bItem')
    match formed with
    | none => []
    | some (bank, e) =>
      e :: ((if remainer = 0 then []
        else free { w with bank := bank, player := w.player.setCountAt pos (pItem.count - count) } bankTab pos) ++ [.save])

def depositItemInFreeSlotEdits : Nat → World om → UInt32 → Pos → List (Edit om)
  | 0, _, _, _ => []
  | fuel + 1, w, bankTab, pos =>
    match w.player.mItems.lookup pos with
    | none => []
    | some pItem =>
      let place := depositItemInSlotEdits (depositItemInFreeSlotEdits fuel) w bankTab
      match (if 1 < pItem.proto.stackable then stackSlot w.bank bankTab pItem else none) with
      | some (i, bItem) =>
        if pItem.count + bItem.count ≤ bItem.maxStackSize then place i.toUInt32 pos pItem.count 0 .changed true
        else
          let remainer := pItem.count - (bItem.maxStackSize - bItem.count)
          place i.toUInt32 pos (bItem.maxStackSize - bItem.count) remainer .changed true
      | none =>
        match freeSlot w.bank bankTab with
        | some slot => place slot.toUInt32 pos pItem.count 0 .new false
        | none => []

def depositInSlotEdits (bankTab bankSlot : UInt32) (pos : Pos) (count : UInt32)
    (state : ItemUpdateState) (stack : Bool) : List (Edit om) :=
  depositItemInSlotEdits (depositItemInFreeSlotEdits freeSlotFuel) w bankTab bankSlot pos count 0 state stack

def takeOutEdits (ref : Option Nat) (bItem : BankItem om) (left : Option UInt32) : List (Edit om) :=
  match ref, left with
  | some i, none => [.remove i bItem, .save]
  | some i, some n => [.change i { bItem with count := n }, .save]
  | none, none => [.enqueue bItem.removed, .save]
  | none, some n => [.enqueue { bItem with count := n, state := .changed }, .save]

def withdrawItemToEdits (bag slot : UInt8) (count : UInt32) (ref : Option Nat)
    (bItem : BankItem om) (target : Option Pos) (remainer : UInt32) : List (Edit om) :=
  match w.player.canStoreNewItem bag slot bItem.itemTemplate count with
  | .error _ => []
  | .ok dest =>
    match target with
    | some pos =>
      match w.player.mItems.lookup pos with
      | none => []
      | some _ => takeOutEdits ref bItem (if remainer = 0 then none else some (bItem.count - count))
    | none =>
      match w.player.storeNewItem dest bItem.itemTemplate ctx.randomPropertyId with
      | (none, _) => [.save]
      | (some _, _) => takeOutEdits ref bItem (if remainer = 0 then none else some remainer)

/-- A swap changes the bank item and then takes a copy of what it was out of the bank. -/
def swapItemsEdits (pos : Pos) (bagItem : Item om) (bankItem : BankItem om) : List (Edit om) :=
  match w.player.canStoreNewItem NULL_BAG NULL_SLOT bankItem.itemTemplate bankItem.count with
  | .error .inventoryFull | .ok _ =>
    let w' := depositInSlot ctx w bankItem.tab bankItem.slot pos bagItem.count .changed false
    let pos' := if (w'.player.mItems.lookup pos).isSome then pos else ⟨INVENTORY_SLOT_BAG_0, NULL_SLOT⟩
    depositInSlotEdits w bankItem.tab bankItem.slot pos bagItem.count .changed false ++
      withdrawItemToEdits ctx w' pos'.bag pos'.slot bankItem.count none bankItem none 0
  | .error _ => []

def depositOntoEdits (bankTab bankSlot count : UInt32) (pos : Pos) (pItem : Item om) (ref : Nat)
    (dItem : BankItem om) : List (Edit om) :=
  if dItem.itemTemplate = pItem.getEntry ∧ dItem.count = pItem.count ∧ dItem.count = dItem.maxStackSize ∧
      dItem.fields.randomPropertyId = pItem.fields.randomPropertyId then []
  else if dItem.itemTemplate = pItem.getEntry ∧ 1 < dItem.maxStackSize then
    if dItem.count + count ≤ dItem.maxStackSize then depositInSlotEdits w bankTab bankSlot pos count .changed true
    else if count < dItem.count ∧ dItem.count = dItem.maxStackSize then
      let withdrawCount := dItem.maxStackSize - count
      withdrawItemToEdits ctx w pos.bag pos.slot withdrawCount (some ref) dItem (some pos) (dItem.maxStackSize - withdrawCount)
    else depositInSlotEdits w bankTab bankSlot pos (dItem.maxStackSize - dItem.count) .changed true
  else swapItemsEdits ctx w pos pItem dItem

def depositEdits (r : DepositRequest om) : List (Edit om) :=
  if r.bankSlot = 0 then depositItemInFreeSlotEdits freeSlotFuel w r.bankTab r.pos
  else
    match w.bank.getItem r.bankTab r.bankSlot with
    | some (ref, dItem) => depositOntoEdits ctx w r.bankTab r.bankSlot r.count r.pos r.pItem ref dItem
    | none => depositInSlotEdits w r.bankTab r.bankSlot r.pos r.count .new false

def withdrawOntoEdits (withdrawCount : UInt32) (ref : Nat) (bItem : BankItem om) (pos : Pos)
    (pItem : Item om) : List (Edit om) :=
  match isItemBankable pItem with
  | some _ => []
  | none =>
    if pItem.getEntry = bItem.itemTemplate ∧ 1 < bItem.maxStackSize then
      let count := if pItem.getMaxStackCount < withdrawCount + pItem.count then pItem.proto.stackable - pItem.count
        else withdrawCount
      withdrawItemToEdits ctx w pos.bag pos.slot count (some ref) bItem (some pos) (bItem.count - count)
    else swapItemsEdits ctx w pos pItem bItem

def withdrawEdits (r : WithdrawRequest om) : List (Edit om) :=
  match r.pos with
  | none => withdrawItemToEdits ctx w NULL_BAG NULL_SLOT r.withdrawCount (some r.ref) r.bItem none 0
  | some pos =>
    match w.player.getItemByPos pos with
    | some pItem => withdrawOntoEdits ctx w r.withdrawCount r.ref r.bItem pos pItem
    | none =>
      withdrawItemToEdits ctx w pos.bag pos.slot r.withdrawCount (some r.ref) r.bItem none (r.bItem.count - r.withdrawCount)

def moveItemToEdits (r : SlotPair om) : List (Edit om) :=
  match r.dst with
  | none => [.change r.src { r.sItem with slot := r.toSlot.toUInt32 }]
  | some (d, dItem) =>
    if r.sItem.itemTemplate = dItem.itemTemplate ∧
        ¬ (r.sItem.count = r.sItem.maxStackSize ∨ dItem.count = dItem.maxStackSize) then
      if r.sItem.count + dItem.count ≤ r.sItem.maxStackSize then
        [.change d { dItem with count := r.sItem.count + dItem.count }, .remove r.src r.sItem]
      else
        [.change r.src { r.sItem with count := r.sItem.count - (r.sItem.maxStackSize - dItem.count) },
          .change d { dItem with count := dItem.maxStackSize }]
    else
      [.exchange r.src { r.sItem with slot := r.toSlot.toUInt32 } d { dItem with slot := r.fromSlot.toUInt32 }, .save]

def splitToFreeEdits (src : Nat) (sItem : BankItem om) (toSlot : UInt8) (split : UInt32) : List (Edit om) :=
  if sItem.maxStackSize ≤ split then []
  else if sItem.count.toInt32 - split.toInt32 ≤ 0 then []
  else
    let b := change w.bank src { sItem with count := sItem.count - split }
    [.change src { sItem with count := sItem.count - split },
      .add { b.cloneBankItem sItem with slot := toSlot.toUInt32, count := split, state := .new }, .save]

def splitOntoEdits (src : Nat) (sItem : BankItem om) (dst : Nat) (dItem : BankItem om) (split : UInt32) : List (Edit om) :=
  if sItem.itemTemplate ≠ dItem.itemTemplate ∨ dItem.maxStackSize < dItem.count + split ∨ sItem.count - split ≤ 0 ∨
      sItem.maxStackSize < sItem.count - split ∨ dItem.count + split ≤ 0 ∨ sItem.maxStackSize < dItem.count + split then []
  else [.change src { sItem with count := sItem.count - split }, .change dst { dItem with count := dItem.count + split }]

def splitEdits (r : SlotPair om) (split : UInt32) : List (Edit om) :=
  match r.dst with
  | none => splitToFreeEdits w r.src r.sItem r.toSlot split
  | some (dst, dItem) => splitOntoEdits r.src r.sItem dst dItem split

def unlockTabEdits (params : List Int) : List (Edit om) :=
  if ctx.playerRankIndex ≠ 0 then []
  else match params with
    | [p1, p2] =>
      let tab := UInt8.ofInt p1
      if tab ≤ 1 ∨ MAX_TABS < tab.toUInt32 ∨ tabCost tab = 0 then []
      else if (if UInt8.ofInt p2 = 0 then w.bank.bMoney else w.player.money) < tabCost tab then []
      else [.tabs tab.toUInt32, .save]
    | _ => []

def edits (text : String) (params : List Int) (w : World om) : Command → List (Edit om)
  | .unlockTab => unlockTabEdits ctx w params
  | .depositItem => match depositRequest ctx w text params with
    | .ok r => depositEdits ctx w r
    | .error _ => []
  | .withdrawItem => match withdrawRequest ctx w text params with
    | .ok r => withdrawEdits ctx w r
    | .error _ => []
  | .moveItem => match moveRequest ctx w text params with
    | .ok r => moveItemToEdits r
    | .error _ => []
  | .splitItem => match splitRequest ctx w text params with
    | .ok (r, split) => splitEdits w r split
    | .error _ => []

theorem store_logAction (ctx : Ctx) (action : UInt8) (tab : UInt32) : (w.logAction ctx action tab).store = w.store := by
  unfold logAction
  split_ifs <;> rfl

section

variable (b : GuildBank om) (db : CharacterDatabase)
include b db

theorem guildBank_saveMoney : (b.saveMoney db).guildBank = db.guildBank := by
  unfold saveMoney
  split_ifs <;> rfl

theorem guildBank_saveTabs : (b.saveTabs db).guildBank = db.guildBank := by
  unfold saveTabs
  split_ifs <;> rfl

theorem bankRows_saveMoney : (b.bankRows (b.saveMoney db)).map Prod.fst = (b.bankRows db).map Prod.fst := by
  unfold saveMoney
  split_ifs
  · cases h : db.guildBankMoney.updateWhere (fun r => r.guildid = b.guildid && r.isInferno = b.bInfernoBank)
        (fun r => { r with money := b.bMoney }) with
    | none => rfl
    | some t =>
      unfold bankRows
      simp only [Option.getD_some, map_flatMap, Rows.updateWhere_some h, filter_map, map_map]
      congr 1
      funext r
      rw [filter_congr (q := fun m => m.guildid = r.guildid && m.isInferno = r.isInferno)]
      · rfl
      intro m _
      simp only [Function.comp_apply]
      split_ifs <;> rfl
  · rfl

end

theorem filter_map_own {α : Type} (own : α → Bool) (f : α → α) (l : List α) (h : ∀ a, own (f a) = own a) :
    (l.map fun a => if own a then f a else a).filter own = (l.filter own).map f := by
  induction l with
  | nil => rfl
  | cons a l ih => by_cases ha : own a = true <;> simp [ha, h, ih]

theorem savedTabs_saveTabs (b : GuildBank om) (db : CharacterDatabase) :
    (b.bankRows (b.saveTabs db)).getLast?.map (fun r => r.1.tabs) =
      if b.bTabsChanged then ((b.bankRows db).getLast?.map fun r => r.1.tabs).map fun _ => b.bTabs
      else (b.bankRows db).getLast?.map fun r => r.1.tabs := by
  unfold saveTabs
  split_ifs with hc
  · have hown := filter_map_own (fun r : TabsRow => r.guildid = b.guildid && r.isInferno = b.bInfernoBank)
      (fun r => { r with tabs := b.bTabs, tabInfo := b.bTabInfo }) db.guildBankTabs fun _ => rfl
    simp only [and_eq_true, decide_eq_true_eq] at hown
    have hrows : b.bankRows { db with guildBankTabs := db.guildBankTabs.map fun r =>
        if r.guildid = b.guildid ∧ r.isInferno = b.bInfernoBank then { r with tabs := b.bTabs, tabInfo := b.bTabInfo }
        else r } = (b.bankRows db).map fun r => ({ r.1 with tabs := b.bTabs, tabInfo := b.bTabInfo }, r.2) := by
      unfold bankRows
      simp only [hown, flatMap_map, map_flatMap, map_map]
      rfl
    rw [hrows, getLast?_map]
    cases (b.bankRows db).getLast? <;> rfl
  · rfl

/-- A save that has nothing queued writes at most the tabs and the money. -/
theorem store_save (b : GuildBank om) (db : CharacterDatabase) :
    (b.saveToDB db).1.store (b.saveToDB db).2 = (b.store db).save := by
  have hmoney : (b.bankRows (b.saveMoney db)).getLast?.map (fun r => r.1.tabs) =
      (b.bankRows db).getLast?.map fun r => r.1.tabs := by
    have h := congrArg (fun l => l.getLast?.map TabsRow.tabs) (bankRows_saveMoney b db)
    simpa only [getLast?_map, Option.map_map, Function.comp_def] using h
  have hsaved := savedTabs_saveTabs b (b.saveMoney db)
  rw [hmoney] at hsaved
  unfold GuildBank.saveToDB BankStore.save
  by_cases hlock : b.bSaveLock = true
  · simp only [hlock, if_true, GuildBank.store]
  have hs : ¬ (b.store db).locked = true := hlock
  rw [if_neg hlock, if_neg hs]
  unfold BankStore.saveItems BankStore.saveTabs
  by_cases hempty : b.bItemUpdateQueue.isEmpty = true
  · have hq : b.bItemUpdateQueue = [] := isEmpty_iff.1 hempty
    have hq' : (b.store db).queue = [] := hq
    rw [if_pos hq']
    by_cases hidle : (!b.bMoneyLogChanged && !b.bTabsChanged && !b.bMoneyChanged && !b.bLogChanged &&
        b.bItemUpdateQueue.isEmpty) = true
    · rw [if_pos hidle]
      simp only [and_eq_true, not_eq_true'] at hidle
      have hc : b.bTabsChanged = false := hidle.1.1.1.2
      unfold GuildBank.store
      simp only [hc, false_eq_true, if_false]
    · rw [if_neg hidle]
      unfold GuildBank.store GuildBank.saveItems
      simp only [hq, guildBank_saveTabs, guildBank_saveMoney, map_nil, isEmpty_nil, if_true]
      rw [← hsaved]
      rfl
  · have hq' : ¬ (b.store db).queue = [] := fun h => hempty (isEmpty_iff.2 h)
    have hflags : ¬ (!b.bMoneyLogChanged && !b.bTabsChanged && !b.bMoneyChanged && !b.bLogChanged &&
        b.bItemUpdateQueue.isEmpty) = true := by simp [hempty]
    rw [if_neg hflags, if_neg hq']
    simp only [if_neg hempty]
    unfold GuildBank.store GuildBank.saveItems
    simp only [guildBank_saveTabs, guildBank_saveMoney]
    rw [← hsaved]
    rfl

theorem store_saveToDB : w.saveToDB.store = w.store.save := store_save w.bank w.db

def editAll (s : BankStore om) (es : List (Edit om)) : BankStore om := Runs.run BankStore.edit s es

@[simp] theorem editAll_nil (s : BankStore om) : editAll s [] = s := rfl

@[simp] theorem editAll_cons (s : BankStore om) (e : Edit om) (es : List (Edit om)) :
    editAll s (e :: es) = editAll (s.edit e) es := rfl

theorem editAll_append (s : BankStore om) (es es' : List (Edit om)) : editAll s (es ++ es') = editAll (editAll s es) es' :=
  Runs.run_append _ _ _ _

@[simp] theorem edit_save (s : BankStore om) : s.edit .save = s.save := rfl

/-- The placing of an item follows its edits, if what comes after it does. -/
theorem store_depositItemInSlot {ctx : Ctx} {free : World om → UInt32 → Pos → World om}
    {freeEdits : World om → UInt32 → Pos → List (Edit om)} (bankTab bankSlot : UInt32) (pos : Pos)
    (count remainer : UInt32) (state : ItemUpdateState) (stack : Bool)
    (hfree : ∀ w tab pos, (free w tab pos).store = editAll w.store (freeEdits w tab pos)) :
    (depositItemInSlot ctx free w bankTab bankSlot pos count remainer state stack).store =
      editAll w.store (depositItemInSlotEdits freeEdits w bankTab bankSlot pos count remainer state stack) := by
  unfold depositItemInSlot depositItemInSlotEdits
  cases w.player.mItems.lookup pos with
  | none => rfl
  | some pItem =>
    simp only
    by_cases hnew : state = .new
    · simp only [if_pos hnew]
      rw [store_saveToDB, store_logAction]
      by_cases hr : remainer = 0
      · simp only [if_pos hr, nil_append]
        rfl
      · simp only [if_neg hr]
        rw [hfree, editAll_cons, editAll_append]
        rfl
    · simp only [if_neg hnew]
      cases w.bank.getItem bankTab bankSlot with
      | none => rfl
      | some found =>
        obtain ⟨i, bItem⟩ := found
        simp only [Option.map_some]
        rw [store_saveToDB, store_logAction]
        by_cases hr : remainer = 0
        · simp only [if_pos hr, nil_append]
          rfl
        · simp only [if_neg hr]
          rw [hfree, editAll_cons, editAll_append]
          rfl

theorem store_depositItemInFreeSlot (fuel : Nat) (w : World om) (bankTab : UInt32) (pos : Pos) :
    (depositItemInFreeSlot ctx fuel w bankTab pos).store = editAll w.store (depositItemInFreeSlotEdits fuel w bankTab pos) := by
  induction fuel generalizing w bankTab pos with
  | zero => rfl
  | succ fuel ih =>
    unfold depositItemInFreeSlot depositItemInFreeSlotEdits
    cases w.player.mItems.lookup pos with
    | none => rfl
    | some pItem =>
      simp only
      cases (if 1 < pItem.proto.stackable then stackSlot w.bank bankTab pItem else none) with
      | some found =>
        obtain ⟨i, bItem⟩ := found
        simp only
        split_ifs
        · exact store_depositItemInSlot _ _ _ _ _ _ _ _ ih
        · exact store_depositItemInSlot _ _ _ _ _ _ _ _ ih
      | none =>
        simp only
        cases freeSlot w.bank bankTab with
        | some slot => exact store_depositItemInSlot _ _ _ _ _ _ _ _ ih
        | none => rfl

theorem store_depositInSlot (bankTab bankSlot : UInt32) (pos : Pos) (count : UInt32) (state : ItemUpdateState) (stack : Bool) :
    (depositInSlot ctx w bankTab bankSlot pos count state stack).store =
      editAll w.store (depositInSlotEdits w bankTab bankSlot pos count state stack) :=
  store_depositItemInSlot _ _ _ _ _ _ _ _ (store_depositItemInFreeSlot ctx freeSlotFuel)

theorem store_takeOut (ref : Option Nat) (bItem : BankItem om) (left : Option UInt32) :
    (takeOut ctx w ref bItem left).store = editAll w.store (takeOutEdits ref bItem left) := by
  cases left with
  | none =>
    unfold takeOut
    simp only
    rw [store_saveToDB]
    cases ref with
    | none =>
      change (store (logAction _ ctx ACTION_WITHDRAW_ITEM _)).save = _
      rw [store_logAction]
      rfl
    | some i =>
      set w' := ({ w with bank := (w.bank.setItem (some i) bItem.removed).push bItem.removed } : World om) with hw'
      have hlog := store_logAction w' ctx ACTION_WITHDRAW_ITEM bItem.tab
      have hdel : (store { (w'.logAction ctx ACTION_WITHDRAW_ITEM bItem.tab) with
          bank := (w'.logAction ctx ACTION_WITHDRAW_ITEM bItem.tab).bank.deleteItem (some i) }) =
          { (w'.logAction ctx ACTION_WITHDRAW_ITEM bItem.tab).store with
            items := (w'.logAction ctx ACTION_WITHDRAW_ITEM bItem.tab).store.items.eraseIdx i } := rfl
      change (store { (w'.logAction ctx ACTION_WITHDRAW_ITEM bItem.tab) with
          bank := (w'.logAction ctx ACTION_WITHDRAW_ITEM bItem.tab).bank.deleteItem (some i) }).save = _
      rw [hdel, hlog, hw']
      simp only [takeOutEdits, editAll_cons, editAll_nil, BankStore.edit, store, GuildBank.store, GuildBank.push,
        GuildBank.setItem, eraseIdx_set_eq]
      rfl
  | some n =>
    unfold takeOut
    simp only
    rw [store_saveToDB, store_logAction]
    cases ref <;> rfl

theorem store_withdrawItemTo (bag slot : UInt8) (count : UInt32) (ref : Option Nat)
    (bItem : BankItem om) (target : Option Pos) (remainer : UInt32) :
    (withdrawItemTo ctx w bag slot count ref bItem target remainer).store =
      editAll w.store (withdrawItemToEdits ctx w bag slot count ref bItem target remainer) := by
  unfold withdrawItemTo withdrawItemToEdits
  cases w.player.canStoreNewItem bag slot bItem.itemTemplate count with
  | error err => rfl
  | ok dest =>
    cases target with
    | some pos =>
      simp only
      cases w.player.mItems.lookup pos with
      | none => rfl
      | some pItem => exact store_takeOut _ _ _ _ _
    | none =>
      simp only
      cases w.player.storeNewItem dest bItem.itemTemplate ctx.randomPropertyId with
      | mk stored player =>
        cases stored with
        | none => exact store_saveToDB _
        | some pos => exact store_takeOut _ _ _ _ _

theorem store_swapItems (pos : Pos) (bagItem : Item om) (bankItem : BankItem om) :
    (swapItems ctx w pos bagItem bankItem).store = editAll w.store (swapItemsEdits ctx w pos bagItem bankItem) := by
  unfold swapItems swapItemsEdits
  cases w.player.canStoreNewItem NULL_BAG NULL_SLOT bankItem.itemTemplate bankItem.count with
  | ok dest =>
    simp only
    rw [store_withdrawItemTo, editAll_append, store_depositInSlot]
  | error res =>
    cases res <;> first | rfl | skip
    simp only
    rw [store_withdrawItemTo, editAll_append, store_depositInSlot]

theorem store_depositOnto (bankTab bankSlot count : UInt32) (pos : Pos) (pItem : Item om) (ref : Nat) (dItem : BankItem om) :
    (depositOnto ctx w bankTab bankSlot count pos pItem ref dItem).store =
      editAll w.store (depositOntoEdits ctx w bankTab bankSlot count pos pItem ref dItem) := by
  unfold depositOnto depositOntoEdits
  split_ifs
  · rfl
  · exact store_depositInSlot _ _ _ _ _ _ _ _
  · exact store_withdrawItemTo _ _ _ _ _ _ _ _ _
  · exact store_depositInSlot _ _ _ _ _ _ _ _
  · exact store_swapItems _ _ _ _ _

theorem store_deposit (r : DepositRequest om) : (deposit ctx w r).store = editAll w.store (depositEdits ctx w r) := by
  unfold deposit depositEdits
  split_ifs
  · exact store_depositItemInFreeSlot _ _ _ _ _
  cases w.bank.getItem r.bankTab r.bankSlot with
  | none => exact store_depositInSlot _ _ _ _ _ _ _ _
  | some found => exact store_depositOnto _ _ _ _ _ _ _ _ _

theorem store_withdraw (r : WithdrawRequest om) : (withdraw ctx w r).store = editAll w.store (withdrawEdits ctx w r) := by
  unfold withdraw withdrawEdits
  cases r.pos with
  | none => exact store_withdrawItemTo _ _ _ _ _ _ _ _ _
  | some pos =>
    simp only
    cases w.player.getItemByPos pos with
    | none => exact store_withdrawItemTo _ _ _ _ _ _ _ _ _
    | some pItem =>
      simp only
      unfold withdrawOnto withdrawOntoEdits
      cases isItemBankable pItem with
      | some refusal => rfl
      | none =>
        simp only
        split_ifs
        · exact store_withdrawItemTo _ _ _ _ _ _ _ _ _
        · exact store_withdrawItemTo _ _ _ _ _ _ _ _ _
        · exact store_swapItems _ _ _ _ _

theorem store_moveItemTo (r : SlotPair om) :
    (moveItemTo w r.src r.sItem r.dst r.fromSlot r.toSlot).store = editAll w.store (moveItemToEdits r) := by
  unfold moveItemTo moveItemToEdits
  cases r.dst with
  | none => rfl
  | some found =>
    obtain ⟨d, dItem⟩ := found
    simp only
    split_ifs
    · rfl
    · rfl
    rw [store_saveToDB]
    simp only [editAll_cons, editAll_nil, edit_save]
    unfold BankStore.edit store GuildBank.store change GuildBank.push GuildBank.setItem BankItem.changed
    simp only [append_assoc, cons_append, nil_append]
    rfl

theorem store_splitItem (r : SlotPair om) (split : UInt32) : (match r.dst with
      | none => splitToFree w r.src r.sItem r.toSlot split
      | some (dst, dItem) => splitOnto w r.src r.sItem dst dItem split).store = editAll w.store (splitEdits w r split) := by
  unfold splitEdits
  cases r.dst with
  | none =>
    unfold splitToFree splitToFreeEdits
    simp only
    split_ifs
    · rfl
    · rfl
    · rw [store_saveToDB]
      rfl
  | some found =>
    obtain ⟨dst, dItem⟩ := found
    unfold splitOnto splitOntoEdits
    simp only
    split_ifs with h1 h2 h3 h4 h5 h6 h7
    all_goals first | rfl | tauto

theorem store_unlockTab (text : String) (params : List Int) :
    (unlockTab ctx w text params).store = editAll w.store (unlockTabEdits ctx w params) := by
  unfold unlockTab unlockTabEdits
  split_ifs with h0
  · rfl
  rcases params with _ | ⟨p1, _ | ⟨p2, _ | ⟨p3, rest⟩⟩⟩
  · rfl
  · rfl
  · simp only
    split_ifs <;> first | rfl | tauto | (rw [store_saveToDB, store_logAction]; rfl)
  · rfl

/-- A command does to the bank's items, the queue and their table exactly what its edits do. -/
theorem store_runCommand (text : String) (params : List Int) (w : World om) (cmd : Command) :
    (runCommand ctx text params w cmd).store = editAll w.store (edits ctx text params w cmd) := by
  cases cmd with
  | unlockTab => exact store_unlockTab ctx w text params
  | depositItem =>
    simp only [runCommand, depositItem, edits]
    cases depositRequest ctx w text params with
    | error refusal => rfl
    | ok r => exact store_deposit ctx w r
  | withdrawItem =>
    simp only [runCommand, withdrawItem, edits]
    cases withdrawRequest ctx w text params with
    | error refusal => rfl
    | ok r => exact store_withdraw ctx w r
  | moveItem =>
    simp only [runCommand, moveItem, edits]
    cases moveRequest ctx w text params with
    | error refusal => rfl
    | ok r => exact store_moveItemTo w r
  | splitItem =>
    simp only [runCommand, splitItem, edits]
    cases splitRequest ctx w text params with
    | error refusal => cases refusal <;> rfl
    | ok r => exact store_splitItem w r.1 r.2

end World

end ComfyCraft
