import ComfyCraft.Lib.Runs
import ComfyCraft.GuildBank.Model

/-! The handlers of the guild bank: what each addon message does to the acting player's bags, the bank
and its tables. The numbers of a message are what `atoi` makes of its tokens, narrowed to the type
each handler reads them into. -/

namespace ComfyCraft

/-- The circumstances of one message: who sends it, when, and the draws of chance behind it. -/
structure Ctx where
  playerGuid : UInt32
  playerRankIndex : UInt32
  canUseGuildBank : Bool
  now : Nat
  weekstart : Nat
  randomPropertyId : Int
  log : List BankLog

structure World (om : ObjectMgr) where
  player : Player om
  bank : GuildBank om
  db : CharacterDatabase
  sent : List String

inductive Command
  | unlockTab
  | depositItem
  | withdrawItem
  | moveItem
  | splitItem
deriving DecidableEq

inductive UnlockQuery
  | cost
  | ok
  | unknown
  | wrongSyntax (text : String)
deriving DecidableEq

/-- An addon message. `commands` are the handlers whose name occurs in the text, `params` the numbers
after its first colon. -/
inductive AddonMessage
  | unlockGuildBank (query : UnlockQuery)
  | command (text : String) (commands : List Command) (params : List Int)

namespace World

variable {om : ObjectMgr}

variable (ctx : Ctx) (w : World om) (text : String)

def sendAddonMessage (msg : String) : World om := { w with sent := w.sent ++ [msg] }

def saveToDB : World om :=
  { w with bank := (w.bank.saveToDB w.db).1, db := (w.bank.saveToDB w.db).2 }

def logAction (ctx : Ctx) (action : UInt8) (tab : UInt32) : World om :=
  if MAX_TABS < tab then w
  else if tab = TAB_MONEY then { w with bank := { w.bank with bMoneyLogChanged := true } }
  else { w with bank := { w.bank with
    bLog := w.bank.bLog ++ [⟨ctx.playerGuid, action, tab.toUInt8, ctx.now⟩]
    bLogChanged := true } }

/-- `GetTabWithdrawalsLeft`, with the start of the week read off the clock. -/
def getTabWithdrawalsLeft (ctx : Ctx) (tab : UInt8) : UInt8 :=
  if tab = 0 ∨ MAX_TABS < tab.toUInt32 then 0
  else
    let weekWithdrawals : UInt8 := UInt8.ofNat (w.bank.bLog.filter fun l =>
      l.action = ACTION_WITHDRAW_ITEM && l.player = ctx.playerGuid && l.tab = tab && ctx.weekstart ≤ l.stamp).length
    if (w.bank.bTabInfo tab).withdrawals ≤ weekWithdrawals then 0 else (w.bank.bTabInfo tab).withdrawals - weekWithdrawals

def canAccessTab (ctx : Ctx) (tab : UInt8) (action : UInt8) : Bool :=
  let info := w.bank.bTabInfo tab
  if (action = ACTION_WITHDRAW_ITEM ∨ action = ACTION_DEPOSIT_ITEM) ∧ 0 < info.withdrawals ∧
      ctx.playerRankIndex = info.minrank.toUInt32 ∧ w.getTabWithdrawalsLeft ctx tab = 0 then false
  else ctx.playerRankIndex ≤ info.minrank.toUInt32

/-- `IsItemBankable`, with the answer a refused item gets. -/
def isItemBankable (it : Item om) : Option String :=
  if it.isSoulBound then some "Error:ItemSoulBound"
  else if it.isConjuredConsumable then some "Error:ItemConjured"
  else if 0 < it.proto.duration then some "Error:ItemTemporary"
  else none

def newItem (bankTab bankSlot : UInt32) (pItem : Item om) (count : UInt32) : BankItem om :=
  let bItem : BankItem om := {
    guildid := w.bank.guildid, guid := w.bank.getNewGuid, tab := bankTab, slot := bankSlot
    itemTemplate := 0, count := count, maxStackSize := om.maxStack 0, maxStackSize_eq := rfl
    fields := {}, fields_eq := rfl, isInferno := w.bank.bInfernoBank, state := .new }
  bItem.cloneItem w.bank.bInfernoBank pItem

def overItem (bItem : BankItem om) (pItem : Item om) (count : UInt32) (stack : Bool) : BankItem om :=
  let bItem := { bItem with count := if stack then bItem.count + count else count, state := .changed }
  bItem.cloneItem w.bank.bInfernoBank pItem

/-- The item at the position after `count` pieces of it were deposited. -/
def taken (p : Player om) (pos : Pos) (pItem : Item om) (count : UInt32) : Player om :=
  if count = pItem.count then p.destroyItem pos else p.setCountAt pos (pItem.count - count)

/-- `DepositItemInSlot`. `free` is where it goes on with the rest of a stack that did not fit. -/
def depositItemInSlot (free : World om → UInt32 → Pos → World om) (w : World om) (bankTab bankSlot : UInt32)
    (pos : Pos) (count remainer : UInt32) (state : ItemUpdateState) (stack : Bool) : World om :=
  match w.player.mItems.lookup pos with
  | none => w
  | some pItem =>
    let formed : Option (GuildBank om × UInt32) :=
      if state = .new then
        let bItem := newItem w bankTab bankSlot pItem count
        some ((w.bank.push bItem).addItem bItem, bankTab)
      else
        (w.bank.getItem bankTab bankSlot).map fun (i, bItem) =>
          let bItem' := overItem w bItem pItem count stack
          ((w.bank.push bItem').setItem (some i) bItem', bItem.tab)
    match formed with
    | none => w.sendAddonMessage "DepositItem:Error:CantFindStackDestinationItemAt"
    | some (bank, tab) =>
      let w' :=
        if remainer = 0 then { w with bank := bank, player := taken w.player pos pItem count }
        else free { w with bank := bank, player := w.player.setCountAt pos (pItem.count - count) } bankTab pos
      (w'.logAction ctx ACTION_DEPOSIT_ITEM tab).saveToDB

/-- The first slot of the tab with a stack of the item that is not full. -/
def stackSlot (b : GuildBank om) (bankTab : UInt32) (pItem : Item om) : Option (UInt8 × BankItem om) :=
  (slots 1 99).findSome? fun i => match b.getItem bankTab i.toUInt32 with
    | some (_, bItem) => if bItem.itemTemplate = pItem.getEntry ∧ bItem.count < bItem.maxStackSize then some (i, bItem) else none
    | none => none

def freeSlot (b : GuildBank om) (bankTab : UInt32) : Option UInt8 :=
  (slots 1 99).find? fun i => (b.getItem bankTab i.toUInt32).isNone

/-- `DepositItemInFreeSlot`, which calls itself through `DepositItemInSlot` once for every stack it fills up. -/
def depositItemInFreeSlot (ctx : Ctx) : Nat → World om → UInt32 → Pos → World om
  | 0, w, _, _ => w
  | fuel + 1, w, bankTab, pos =>
    match w.player.mItems.lookup pos with
    | none => w
    | some pItem =>
      let place := depositItemInSlot ctx (depositItemInFreeSlot ctx fuel) w bankTab
      match (if 1 < pItem.proto.stackable then stackSlot w.bank bankTab pItem else none) with
      | some (i, bItem) =>
        if pItem.count + bItem.count ≤ bItem.maxStackSize then place i.toUInt32 pos pItem.count 0 .changed true
        else
          let remainer := pItem.count - (bItem.maxStackSize - bItem.count)
          place i.toUInt32 pos (bItem.maxStackSize - bItem.count) remainer .changed true
      | none =>
        match freeSlot w.bank bankTab with
        | some slot => place slot.toUInt32 pos pItem.count 0 .new false
        | none => w.sendAddonMessage "DepositItem:Error:BankTabFullAdd"

/-- A tab has 98 slots, so it cannot call itself more often, see `depositItemInFreeSlot_fuel`. -/
def freeSlotFuel : Nat := 99

/-- `DepositItemInSlot` as the other handlers call it. -/
def depositInSlot (bankTab bankSlot : UInt32) (pos : Pos) (count : UInt32)
    (state : ItemUpdateState) (stack : Bool) : World om :=
  depositItemInSlot ctx (depositItemInFreeSlot ctx freeSlotFuel) w bankTab bankSlot pos count 0 state stack

/-- The bank's side of a withdrawal: the item is removed, or keeps `left` pieces. -/
def takeOut (ref : Option Nat) (bItem : BankItem om) (left : Option UInt32) : World om :=
  match left with
  | none =>
    let bItem := { bItem with state := .removed }
    let w := { w with bank := (w.bank.setItem ref bItem).push bItem }
    let w := w.logAction ctx ACTION_WITHDRAW_ITEM bItem.tab
    ({ w with bank := w.bank.deleteItem ref }).saveToDB
  | some n =>
    let bItem := { bItem with count := n, state := .changed }
    let w := { w with bank := (w.bank.setItem ref bItem).push bItem }
    (w.logAction ctx ACTION_WITHDRAW_ITEM bItem.tab).saveToDB

/-- The inner `WithdrawItem`. `ref` points at the bank item, `none` at a copy of one; `target` is the
player's stack the items are added to, if any. -/
def withdrawItemTo (bag slot : UInt8) (count : UInt32) (ref : Option Nat) (bItem : BankItem om)
    (target : Option Pos) (remainer : UInt32) : World om :=
  match w.player.canStoreNewItem bag slot bItem.itemTemplate count with
  | .error _ => w
  | .ok dest =>
    match target with
    | some pos =>
      match w.player.mItems.lookup pos with
      | none => w
      | some pItem =>
        takeOut ctx { w with player := w.player.setCountAt pos (pItem.count + count) } ref bItem
          (if remainer = 0 then none else some (bItem.count - count))
    | none =>
      match w.player.storeNewItem dest bItem.itemTemplate ctx.randomPropertyId with
      | (none, player) => ({ w with player := player }).saveToDB
      | (some pos, player) =>
        takeOut ctx { w with player := player.setFieldsAt pos bItem.fields } ref bItem
          (if remainer = 0 then none else some remainer)

/-- `SwapItems`: the bag item is deposited over the bank item, then a copy of the bank item is
withdrawn to wherever the bag item is after that, which is nowhere. -/
def swapItems (pos : Pos) (bagItem : Item om) (bankItem : BankItem om) : World om :=
  match w.player.canStoreNewItem NULL_BAG NULL_SLOT bankItem.itemTemplate bankItem.count with
  | .error .inventoryFull | .ok _ =>
    let aux := bankItem
    let w := depositInSlot ctx w bankItem.tab bankItem.slot pos bagItem.count .changed false
    let pos := if (w.player.mItems.lookup pos).isSome then pos else ⟨INVENTORY_SLOT_BAG_0, NULL_SLOT⟩
    withdrawItemTo ctx w pos.bag pos.slot aux.count none aux none 0
  | .error _ => w

/-- The player position a deposit names: client bags and slots count from the backpack and from one. -/
def depositPos (playerBag playerSlot : UInt8) : Pos :=
  if playerBag = 0 then ⟨INVENTORY_SLOT_BAG_0, playerSlot + INVENTORY_SLOT_ITEM_START - 1⟩
  else ⟨playerBag + INVENTORY_SLOT_BAG_START - 1, playerSlot - 1⟩

/-- A deposit dropped on the occupied slot `bItem` of the bank. -/
def depositOnto (bankTab bankSlot count : UInt32) (pos : Pos) (pItem : Item om) (ref : Nat) (dItem : BankItem om) : World om :=
  if dItem.itemTemplate = pItem.getEntry ∧ dItem.count = pItem.count ∧ dItem.count = dItem.maxStackSize ∧
      dItem.fields.randomPropertyId = pItem.fields.randomPropertyId then
    w.sendAddonMessage "DepositItem:Swap:Error:SameItemSameCount"
  else if dItem.itemTemplate = pItem.getEntry ∧ 1 < dItem.maxStackSize then
    if dItem.count + count ≤ dItem.maxStackSize then
      depositInSlot ctx w bankTab bankSlot pos count .changed true
    else if count < dItem.count ∧ dItem.count = dItem.maxStackSize then
      -- less than a full stack over a full one takes the difference out of the bank
      let withdrawCount := dItem.maxStackSize - count
      withdrawItemTo ctx w pos.bag pos.slot withdrawCount (some ref) dItem (some pos) (dItem.maxStackSize - withdrawCount)
    else
      depositInSlot ctx w bankTab bankSlot pos (dItem.maxStackSize - dItem.count) .changed true
  else swapItems ctx w pos pItem dItem

structure DepositRequest (om : ObjectMgr) where
  bankTab : UInt32
  bankSlot : UInt32
  count : UInt32
  pos : Pos
  pItem : Item om

/-- The checks of `DepositItem`; a refusal is the answer the player gets. -/
def depositRequest : List Int → Except String (DepositRequest om)
  | [p1, p2, p3, p4, p5] =>
    let playerBag := UInt8.ofInt p1
    let playerSlot := UInt8.ofInt p2
    let bankTab := UInt8.ofInt p3
    let bankSlot := UInt8.ofInt p4
    let count := UInt8.ofInt p5
    if bankTab = 0 ∨ MAX_TABS < bankTab.toUInt32 ∨ BANK_TAB_SIZE < bankSlot.toUInt32 then
      .error "DepositItem:Error:ParamsOutOfRange"
    else if !w.canAccessTab ctx bankTab ACTION_DEPOSIT_ITEM then .error "DepositItem:Error:NoRights"
    else
      let pos := depositPos playerBag playerSlot
      match w.player.getItemByPos pos with
      | none => .error s!"DepositItem:Error:CantGetPlayerItem:{pos.bag}:{pos.slot}"
      | some pItem =>
        match isItemBankable pItem with
        | some refusal => .error refusal
        | none =>
          if pItem.getMaxStackCount < count.toUInt32 then .error "DepositItem:Error:Count>GetMaxStackCount"
          else .ok ⟨bankTab.toUInt32, bankSlot.toUInt32, count.toUInt32, pos, pItem⟩
  | _ => .error ("DepositItem:Error:WrongSyntax(" ++ text ++ ")")

def deposit (r : DepositRequest om) : World om :=
  if r.bankSlot = 0 then depositItemInFreeSlot ctx freeSlotFuel w r.bankTab r.pos
  else
    match w.bank.getItem r.bankTab r.bankSlot with
    | some (ref, dItem) => depositOnto ctx w r.bankTab r.bankSlot r.count r.pos r.pItem ref dItem
    | none => depositInSlot ctx w r.bankTab r.bankSlot r.pos r.count .new false

def depositItem (params : List Int) : World om :=
  match depositRequest ctx w text params with
  | .error refusal => w.sendAddonMessage refusal
  | .ok r => deposit ctx w r

/-- The player position a withdrawal names, in 32 bits as the handler computes it. -/
def withdrawPos (playerBag playerSlot : UInt32) : Pos :=
  let playerBag := if playerBag = 0 then 255 else playerBag + 18
  let playerSlot := if playerBag = 255 then playerSlot + 22 else playerSlot - 1
  ⟨playerBag.toUInt8, playerSlot.toUInt8⟩

/-- A withdrawal dropped on the occupied position `pos` of the player. -/
def withdrawOnto (withdrawCount : UInt32) (ref : Nat) (bItem : BankItem om) (pos : Pos) (pItem : Item om) : World om :=
  match isItemBankable pItem with
  | some refusal => w.sendAddonMessage refusal
  | none =>
    if pItem.getEntry = bItem.itemTemplate ∧ 1 < bItem.maxStackSize then
      let count := if pItem.getMaxStackCount < withdrawCount + pItem.count then pItem.proto.stackable - pItem.count
        else withdrawCount
      withdrawItemTo ctx w pos.bag pos.slot count (some ref) bItem (some pos) (bItem.count - count)
    else swapItems ctx w pos pItem bItem

/-- A withdrawal that has passed the handler's checks; without a position it is one to anywhere. -/
structure WithdrawRequest (om : ObjectMgr) where
  ref : Nat
  bItem : BankItem om
  withdrawCount : UInt32
  pos : Option Pos

def withdrawRequest : List Int → Except String (WithdrawRequest om)
  | [p1, p2, p3, p4, p5] =>
    let bankTab := UInt32.ofInt p1
    let bankSlot := UInt32.ofInt p2
    let playerBag := UInt32.ofInt p3
    let playerSlot := UInt32.ofInt p4
    let withdrawCount := UInt32.ofInt p5
    if bankTab = 0 ∨ MAX_TABS < bankTab ∨ bankSlot = 0 ∨ BANK_TAB_SIZE < bankSlot then
      .error "WithdrawItem:Error:ParamsOutOfRange"
    else if !w.canAccessTab ctx bankTab.toUInt8 ACTION_WITHDRAW_ITEM then .error "WithdrawItem:Error:NoRights"
    else
      match w.bank.getItem bankTab bankSlot with
      | none => .error "WithdrawItem:Error:CantFindBankItem"
      | some (ref, bItem) =>
        if bItem.count < withdrawCount then .error "WithdrawItem:Error:CantWithdrawMoreThanCount"
        else if playerBag = 0 ∧ playerSlot = 0 then
          if bItem.count = withdrawCount then .ok ⟨ref, bItem, withdrawCount, none⟩
          else .error "WithdrawItem:Error:CantAutoWithdrawDifferentCount"
        else .ok ⟨ref, bItem, withdrawCount, some (withdrawPos playerBag playerSlot)⟩
  | _ => .error ("WithdrawItem:Error:WrongSyntax(" ++ text ++ ")")

def withdraw (r : WithdrawRequest om) : World om :=
  match r.pos with
  | none => withdrawItemTo ctx w NULL_BAG NULL_SLOT r.withdrawCount (some r.ref) r.bItem none 0
  | some pos =>
    match w.player.getItemByPos pos with
    | some pItem => withdrawOnto ctx w r.withdrawCount r.ref r.bItem pos pItem
    | none =>
      withdrawItemTo ctx w pos.bag pos.slot r.withdrawCount (some r.ref) r.bItem none (r.bItem.count - r.withdrawCount)

def withdrawItem (params : List Int) : World om :=
  match withdrawRequest ctx w text params with
  | .error refusal => w.sendAddonMessage refusal
  | .ok r => withdraw ctx w r

def change (b : GuildBank om) (ref : Nat) (it : BankItem om) : GuildBank om :=
  (b.setItem (some ref) { it with state := .changed }).push { it with state := .changed }

/-- The inner `MoveItem`, from an existing source. Moves to a free slot and stacking return before
the save, only swapping saves. -/
def moveItemTo (src : Nat) (sItem : BankItem om) (dst : Option (Nat × BankItem om)) (fromSlot toSlot : UInt8) :
    World om :=
  match dst with
  | none => { w with bank := change w.bank src { sItem with slot := toSlot.toUInt32 } }
  | some (d, dItem) =>
    if sItem.itemTemplate = dItem.itemTemplate ∧
        ¬ (sItem.count = sItem.maxStackSize ∨ dItem.count = dItem.maxStackSize) then
      if sItem.count + dItem.count ≤ sItem.maxStackSize then
        let b := change w.bank d { dItem with count := sItem.count + dItem.count }
        { w with bank := (b.push { sItem with state := .removed }).deleteItem (some src) }
      else
        let b := change w.bank src { sItem with count := sItem.count - (sItem.maxStackSize - dItem.count) }
        { w with bank := change b d { dItem with count := dItem.maxStackSize } }
    else
      let b := change w.bank src { sItem with slot := toSlot.toUInt32 }
      ({ w with bank := change b d { dItem with slot := fromSlot.toUInt32 } }).saveToDB

/-- The two slots of one tab that a move or a split names, once it has passed the handler's checks. -/
structure SlotPair (om : ObjectMgr) where
  src : Nat
  sItem : BankItem om
  dst : Option (Nat × BankItem om)
  fromSlot : UInt8
  toSlot : UInt8

def moveRequest : List Int → Except String (SlotPair om)
  | [p1, p2, p3] =>
    let bankTab := UInt8.ofInt p1
    let fromSlot := UInt8.ofInt p2
    let toSlot := UInt8.ofInt p3
    if !w.canAccessTab ctx bankTab ACTION_MOVE_ITEM then .error "MoveItem:Error:NoRights"
    else if fromSlot = toSlot then .error "MoveItem:Error:SameSourceDest"
    else if bankTab = 0 ∨ MAX_TABS < bankTab.toUInt32 ∨ fromSlot = 0 ∨ BANK_TAB_SIZE < fromSlot.toUInt32 ∨ toSlot = 0 ∨
        BANK_TAB_SIZE < toSlot.toUInt32 then .error "MoveItem:Error:ParamsOutOfRange"
    else
      match w.bank.getItem bankTab.toUInt32 fromSlot.toUInt32 with
      | none => .error "MoveItem:Error:CantGetSource"
      | some (src, sItem) => .ok ⟨src, sItem, w.bank.getItem bankTab.toUInt32 toSlot.toUInt32, fromSlot, toSlot⟩
  | _ => .error ("MoveItem:Error:WrongSyntax(" ++ text ++ ")")

def moveItem (params : List Int) : World om :=
  match moveRequest ctx w text params with
  | .error refusal => w.sendAddonMessage refusal
  | .ok r => moveItemTo w r.src r.sItem r.dst r.fromSlot r.toSlot

/-- A split onto a free slot: the source may not be left with nothing, compared as signed numbers. -/
def splitToFree (src : Nat) (sItem : BankItem om) (toSlot : UInt8) (split : UInt32) : World om :=
  if sItem.maxStackSize ≤ split then w.sendAddonMessage "SplitItem:Error:DestinationCountTooBig"
  else if sItem.count.toInt32 - split.toInt32 ≤ 0 then w.sendAddonMessage "SplitItem:Error:SourceLeftCount0"
  else
    let b := change w.bank src { sItem with count := sItem.count - split }
    let dItem := { b.cloneBankItem sItem with slot := toSlot.toUInt32, count := split, state := .new }
    ({ w with bank := (b.push dItem).addItem dItem }).saveToDB

/-- A split onto a stack of the same item; it returns before the save. -/
def splitOnto (src : Nat) (sItem : BankItem om) (dst : Nat) (dItem : BankItem om) (split : UInt32) : World om :=
  if sItem.itemTemplate ≠ dItem.itemTemplate then w.sendAddonMessage "SplitItem:destinationItemDifferent"
  else if dItem.maxStackSize < dItem.count + split then w.sendAddonMessage "SplitItem:cantStackOnTarget"
  else
    let sourceNewCount := sItem.count - split
    let destNewCount := dItem.count + split
    if sourceNewCount ≤ 0 then w.sendAddonMessage "SplitItem:Error:SourceCount0"
    else if sItem.maxStackSize < sourceNewCount then w.sendAddonMessage "SplitItem:Error:BadSourceCount"
    else if destNewCount ≤ 0 then w.sendAddonMessage "SplitItem:Error:DestCount0"
    else if sItem.maxStackSize < destNewCount then w.sendAddonMessage "SplitItem:Error:BadDestCount"
    else
      let b := change w.bank src { sItem with count := sourceNewCount }
      { w with bank := change b dst { dItem with count := destNewCount } }

/-- The checks of `SplitItem` and the count to split off; a missing source is refused without a word. -/
def splitRequest : List Int → Except (Option String) (SlotPair om × UInt32)
  | [p1, p2, p3, p4] =>
    let bankTab := UInt8.ofInt p1
    let fromSlot := UInt8.ofInt p2
    let toSlot := UInt8.ofInt p3
    let split := UInt8.ofInt p4
    if !w.canAccessTab ctx bankTab ACTION_SPLIT_ITEM then .error (some "SplitItem:Error:NoRights")
    else if fromSlot = toSlot then .error (some "SplitItem:Error:fromSlot=toSlot")
    else if bankTab = 0 ∨ MAX_TABS < bankTab.toUInt32 ∨ fromSlot = 0 ∨ BANK_TAB_SIZE < fromSlot.toUInt32 ∨ toSlot = 0 ∨
        BANK_TAB_SIZE < toSlot.toUInt32 then .error (some "SplitItem:Error:ParamsOutOfRange")
    else
      match w.bank.getItem bankTab.toUInt32 fromSlot.toUInt32 with
      | none => .error none
      | some (src, sItem) =>
        .ok (⟨src, sItem, w.bank.getItem bankTab.toUInt32 toSlot.toUInt32, fromSlot, toSlot⟩, split.toUInt32)
  | _ => .error (some ("SplitItem:Error:WrongSyntax(" ++ text ++ ")"))

def splitItem (params : List Int) : World om :=
  match splitRequest ctx w text params with
  | .error none => w
  | .error (some refusal) => w.sendAddonMessage refusal
  | .ok (r, split) =>
    match r.dst with
    | none => splitToFree w r.src r.sItem r.toSlot split
    | some (dst, dItem) => splitOnto w r.src r.sItem dst dItem split

def unlockGuildBank (query : UnlockQuery) : World om :=
  if ctx.playerRankIndex ≠ 0 then w.sendAddonMessage "UnlockGuildBank:Error:NotGM"
  else match query with
    | .cost => w.sendAddonMessage "UnlockGuildBank:Cost:2000"
    | .unknown => w.sendAddonMessage "UnlockGuildBank:Error:UnknownAction"
    | .wrongSyntax text => w.sendAddonMessage ("UnlockGuildBank:Error:WrongSyntax(" ++ text ++ ")")
    | .ok =>
      if w.player.money < GUILD_BANK_COST then w
      else
        let b := w.bank
        let tabs : TabsRow := ⟨b.guildid, b.bInfernoBank, 1, fun _ => ⟨0, 0⟩⟩
        let db := { w.db with
          guildBankTabs := w.db.guildBankTabs ++ [tabs]
          guildBankMoney := (w.db.guildBankMoney.insert ⟨b.guildid, b.bInfernoBank, 0⟩).getD w.db.guildBankMoney }
        { w with
          db := db
          bank := { GuildBank.loadBank { b with bTabs := 1 } db with bLog := ctx.log }
          player := { w.player with money := w.player.money - GUILD_BANK_COST } }

def tabCost (tab : UInt8) : UInt32 :=
  if tab = 2 then 500 * GOLD else if tab = 3 then 1000 * GOLD else if tab = 4 then 1500 * GOLD
  else if tab = 5 then 2000 * GOLD else 0

/-- `UnlockTab`; the tab unlocked becomes the number of tabs, whatever it was before. -/
def unlockTab (params : List Int) : World om :=
  if ctx.playerRankIndex ≠ 0 then w.sendAddonMessage "UnlockTab:Error:NotGM"
  else match params with
    | [p1, p2] =>
      let tab := UInt8.ofInt p1
      let moneySource := UInt8.ofInt p2
      if tab ≤ 1 ∨ MAX_TABS < tab.toUInt32 then w.sendAddonMessage "UnlockTab:Error:ParamsOutOfRange"
      else if tabCost tab = 0 then w.sendAddonMessage "UnlockTab:Error:CantFindPrice"
      else
        let unlock := fun (w : World om) (action : UInt8) =>
          (({ w with bank := { w.bank with bTabs := tab.toUInt32, bTabsChanged := true } }).logAction ctx action TAB_MONEY).saveToDB
        if moneySource = 0 then
          if w.bank.bMoney < tabCost tab then w.sendAddonMessage "UnlockTab:Error:Player:NotEnoughMoney"
          else unlock { w with bank := { w.bank with bMoney := w.bank.bMoney - tabCost tab, bMoneyChanged := true } }
            ACTION_UNLOCK_TAB_GUILD_MONEY
        else if w.player.money < tabCost tab then w.sendAddonMessage "UnlockTab:Error:Bank:NotEnoughMoney"
        else unlock { w with player := { w.player with money := w.player.money - tabCost tab } }
          ACTION_UNLOCK_TAB_PERSONAL_MONEY
    | _ => w.sendAddonMessage ("UnlockTab:Error:WrongSyntax(" ++ text ++ ")")

def runCommand (params : List Int) (w : World om) : Command → World om
  | .unlockTab => unlockTab ctx w text params
  | .depositItem => depositItem ctx w text params
  | .withdrawItem => withdrawItem ctx w text params
  | .moveItem => moveItem ctx w text params
  | .splitItem => splitItem ctx w text params

def handlers : List Command := [.unlockTab, .depositItem, .withdrawItem, .moveItem, .splitItem]

/-- `HandleAddonMessages`: every handler named in the text runs, one after the other. -/
def handleAddonMessages (msg : AddonMessage) : World om :=
  if !ctx.canUseGuildBank then w
  else if w.bank.bSaveLock then w.sendAddonMessage "ActionBlockedBySaveLock"
  else match msg with
    | .unlockGuildBank query => unlockGuildBank ctx w query
    | .command text commands params =>
      if w.bank.bTabs = 0 then w.sendAddonMessage "BankInfo:NoGuildBank"
      else Runs.run (runCommand ctx text params) w (handlers.filter (· ∈ commands))

end World

/-! A freshly unlocked bank of one tab and a player with five pieces of an item that stacks to twenty,
for the runs that the results below are shown on. -/

namespace Sample

def proto (itemId stackable : UInt32) (h : 0 < stackable.toNat) (h' : stackable.toNat ≤ 255) : ItemPrototype where
  itemId := itemId
  itemClass := 7
  subClass := 0
  flags := 0
  inventoryType := 0
  maxCount := 0
  stackable := stackable
  containerSlots := 0
  bonding := 0
  bagFamily := 0
  duration := 0
  maxDurability := 0
  createBroken := false
  spellCharges := []
  stackable_pos := h
  stackable_le := h'
  containerSlots_le := by decide
  containerSlots_bag := Or.inl rfl

def ore : ItemPrototype := proto 1 20 (by decide) (by decide)

def sword : ItemPrototype := proto 2 1 (by decide) (by decide)

def objectMgr : ObjectMgr where
  getItemPrototype e := if e = 1 then some ore else if e = 2 then some sword else none
  itemId_eq := by
    intro e p h
    split_ifs at h with h1 h2
    · cases h; exact h1.symm
    · cases h; exact h2.symm

def item (count : UInt32) : Item objectMgr where
  guid := 1
  proto := ore
  known := rfl
  count := count
  fields := {}
  inTrade := false
  hasGeneratedLoot := false

def player : Player objectMgr where
  guid := 1
  mItems := AList.singleton ⟨255, 23⟩ (item 5)
  nextItemGuid := 2
  money := 0

def bank : GuildBank objectMgr where
  guildid := 1
  bInfernoBank := false
  bTabs := 1
  bItems := []
  bTabInfo _ := ⟨0, 0⟩
  bLog := []
  bMoney := 0
  bItemUpdateQueue := []
  bSaveLock := false
  bTabsChanged := false
  bMoneyChanged := false
  bMoneyLogChanged := false
  bLogChanged := false

def db : CharacterDatabase where
  guildBank := Rows.empty
  guildBankTabs := [⟨1, false, 1, fun _ => ⟨0, 0⟩⟩]
  guildBankMoney := ⟨[⟨1, false, 0⟩], by decide⟩

def bankSword : BankItem objectMgr where
  guildid := 1
  guid := 1
  tab := 1
  slot := 1
  itemTemplate := 2
  count := 1
  maxStackSize := 1
  maxStackSize_eq := rfl
  fields := {}
  fields_eq := rfl
  isInferno := false
  state := .unchanged

def swordBank : GuildBank objectMgr := { bank with bItems := [bankSword] }

def swordDb : CharacterDatabase := { db with guildBank := ⟨[bankSword.row], List.nodup_singleton _⟩ }

def ctx : Ctx where
  playerGuid := 1
  playerRankIndex := 0
  canUseGuildBank := true
  now := 0
  weekstart := 0
  randomPropertyId := 0
  log := []

end Sample

end ComfyCraft
