import ComfyCraft.Lib.Seq
import ComfyCraft.Lib.Rows
import ComfyCraft.Inventory.Store

/-! The guild bank's data: the items of a bank in memory, the queue of item changes waiting to be
written, and the tables they are written to. A pointer to a bank item is its place in `bItems`. What a
bank keeps only for display (names, icons, item quality) and the log table are left out. -/

namespace ComfyCraft

inductive ItemUpdateState
  | unchanged
  | changed
  | new
  | removed
deriving DecidableEq

/-- The stack size of a template; an unknown template has none. -/
def ObjectMgr.maxStack (om : ObjectMgr) (entry : UInt32) : UInt32 :=
  match om.getItemPrototype entry with
  | some proto => proto.stackable
  | none => 0

theorem maxStack_le (om : ObjectMgr) (entry : UInt32) : (om.maxStack entry).toNat ≤ 255 := by
  unfold ObjectMgr.maxStack
  split
  · rename_i proto _
    exact proto.stackable_le
  · decide

/-- The columns a bank item keeps of an item's: flags and durability shrink to a byte. -/
def ItemFields.toBank (f : ItemFields) : ItemFields :=
  { f with flags := f.flags.toUInt8.toUInt32, durability := f.durability.toUInt8.toUInt32 }

@[simp] theorem ItemFields.toBank_toBank (f : ItemFields) : f.toBank.toBank = f.toBank := by
  unfold ItemFields.toBank
  simp only [UInt8.toUInt8_toUInt32]

structure BankItem (om : ObjectMgr) where
  guildid : UInt32
  guid : UInt32
  tab : UInt32
  slot : UInt32
  itemTemplate : UInt32
  count : UInt32
  maxStackSize : UInt32
  maxStackSize_eq : maxStackSize = om.maxStack itemTemplate
  fields : ItemFields
  fields_eq : fields.toBank = fields
  isInferno : Bool
  state : ItemUpdateState

/-- A row of `guild_bank`. -/
structure BankRow where
  guildid : UInt32
  guid : UInt32
  isInferno : Bool
  tab : UInt32
  slot : UInt32
  itemTemplate : UInt32
  count : UInt32
  fields : ItemFields
deriving DecidableEq

def BankRow.key (r : BankRow) : UInt32 × UInt32 × Bool := (r.guildid, r.guid, r.isInferno)

structure BankTab where
  withdrawals : UInt8
  minrank : UInt8

structure BankLog where
  player : UInt32
  action : UInt8
  tab : UInt8
  stamp : Nat

structure GuildBank (om : ObjectMgr) where
  guildid : UInt32
  bInfernoBank : Bool
  bTabs : UInt32
  bItems : List (BankItem om)
  bTabInfo : UInt8 → BankTab
  bLog : List BankLog
  bMoney : UInt32
  bItemUpdateQueue : List (BankItem om)
  bSaveLock : Bool
  bTabsChanged : Bool
  bMoneyChanged : Bool
  bMoneyLogChanged : Bool
  bLogChanged : Bool

structure TabsRow where
  guildid : UInt32
  isInferno : Bool
  tabs : UInt32
  tabInfo : UInt8 → BankTab

structure MoneyRow where
  guildid : UInt32
  isInferno : Bool
  money : UInt32

def MoneyRow.key (r : MoneyRow) : UInt32 × Bool := (r.guildid, r.isInferno)

abbrev BankTable := Rows BankRow (UInt32 × UInt32 × Bool) BankRow.key

structure CharacterDatabase where
  guildBank : BankTable
  guildBankTabs : List TabsRow
  guildBankMoney : Rows MoneyRow (UInt32 × Bool) MoneyRow.key

def MAX_TABS : UInt32 := 5
def BANK_TAB_SIZE : UInt32 := 98
def TAB_MONEY : UInt32 := 0
def GOLD : UInt32 := 10000
def GUILD_BANK_COST : UInt32 := 2000 * GOLD

def ACTION_WITHDRAW_ITEM : UInt8 := 0
def ACTION_DEPOSIT_ITEM : UInt8 := 1
def ACTION_UNLOCK_TAB_PERSONAL_MONEY : UInt8 := 3
def ACTION_UNLOCK_TAB_GUILD_MONEY : UInt8 := 6
def ACTION_SPLIT_ITEM : UInt8 := 8
def ACTION_MOVE_ITEM : UInt8 := 9

namespace BankItem

variable {om : ObjectMgr}

/-- `CloneItem(bItem, pItem)`: the template and columns of a player's item. -/
def cloneItem (bItem : BankItem om) (isInferno : Bool) (pItem : Item om) : BankItem om :=
  { bItem with
    itemTemplate := pItem.getEntry
    maxStackSize := pItem.proto.stackable
    maxStackSize_eq := by unfold ObjectMgr.maxStack Item.getEntry; rw [pItem.known]
    fields := pItem.fields.toBank
    fields_eq := ItemFields.toBank_toBank _
    isInferno := isInferno }

variable (b : BankItem om) (t : BankTable)

def row : BankRow where
  guildid := b.guildid
  guid := b.guid
  isInferno := b.isInferno
  tab := b.tab
  slot := b.slot
  itemTemplate := b.itemTemplate
  count := b.count
  fields := b.fields

/-- `LoadFromDB`; tab and slot are read as bytes. -/
def loadFromDB (r : BankRow) : BankItem om where
  guildid := r.guildid
  guid := r.guid
  tab := r.tab.toUInt8.toUInt32
  slot := r.slot.toUInt8.toUInt32
  itemTemplate := r.itemTemplate
  count := r.count
  maxStackSize := om.maxStack r.itemTemplate
  maxStackSize_eq := rfl
  fields := r.fields.toBank
  fields_eq := ItemFields.toBank_toBank _
  isInferno := r.isInferno
  state := .unchanged

/-- `INSERT`; the `guid` column is a signed integer. -/
def addToDB : Option BankTable :=
  if b.guid.toNat < 2 ^ 31 then t.insert b.row else none

/-- `UPDATE … WHERE guildid and guid`: every column but these two is written, `isInferno` included. -/
def saveToDB : Option BankTable :=
  t.updateWhere (fun r => r.guildid = b.guildid && r.guid = b.guid) fun _ => b.row

def deleteFromDB : Option BankTable :=
  some (t.deleteWhere fun r => r.guildid = b.guildid && r.guid = b.guid && r.isInferno = b.isInferno)

def stmt : Option BankTable :=
  match b.state with
  | .new => b.addToDB t
  | .changed => b.saveToDB t
  | .removed => b.deleteFromDB t
  | .unchanged => some t

end BankItem

namespace GuildBank

variable {om : ObjectMgr}

variable (b : GuildBank om) (db : CharacterDatabase)

def getItem (tab slot : UInt32) : Option (Nat × BankItem om) :=
  Seq.locate (fun it => it.tab = tab && it.slot = slot) b.bItems

def getNewGuid : UInt32 :=
  b.bItems.foldl (fun guid it => if guid < it.guid then it.guid else guid) 0 + 1

def addItem (it : BankItem om) : GuildBank om := { b with bItems := b.bItems ++ [it] }

/-- The write through a pointer; `none` points at a copy that is not in the bank. -/
def setItem (ref : Option Nat) (it : BankItem om) : GuildBank om :=
  match ref with
  | some i => { b with bItems := b.bItems.set i it }
  | none => b

def deleteItem (ref : Option Nat) : GuildBank om :=
  match ref with
  | some i => { b with bItems := b.bItems.eraseIdx i }
  | none => b

def push (it : BankItem om) : GuildBank om :=
  { b with bItemUpdateQueue := b.bItemUpdateQueue ++ [it] }

/-- `CloneBankItem`: a copy under a new guid. -/
def cloneBankItem (sItem : BankItem om) : BankItem om :=
  { sItem with guildid := b.guildid, guid := b.getNewGuid }

/-- `UPDATE guild_bank_money`; the key columns stay, so it cannot fail. -/
def saveMoney : CharacterDatabase :=
  if b.bMoneyChanged then
    { db with guildBankMoney :=
        ((db.guildBankMoney.updateWhere (fun r => r.guildid = b.guildid && r.isInferno = b.bInfernoBank)
          fun r => { r with money := b.bMoney }).getD db.guildBankMoney) }
  else db

def saveTabs : CharacterDatabase :=
  if b.bTabsChanged then
    { db with guildBankTabs := db.guildBankTabs.map fun r =>
        if r.guildid = b.guildid ∧ r.isInferno = b.bInfernoBank then { r with tabs := b.bTabs, tabInfo := b.bTabInfo }
        else r }
  else db

/-- The queued item statements in queue order. Only `guild_bank` is transactional: when one of them
fails, the money and tab rows written before stay written. -/
def saveItems : CharacterDatabase :=
  { db with guildBank := Transaction.commit db.guildBank (b.bItemUpdateQueue.map BankItem.stmt) }

def bankRows : List (TabsRow × MoneyRow) :=
  (db.guildBankTabs.filter fun r => r.guildid = b.guildid && r.isInferno = b.bInfernoBank).flatMap fun r =>
    (db.guildBankMoney.rows.filter fun m => m.guildid = r.guildid && m.isInferno = r.isInferno).map fun m => (r, m)

def create (isInfernoBank : Bool) : GuildBank om where
  guildid := 0
  bInfernoBank := isInfernoBank
  bTabs := 0
  bItems := []
  bTabInfo _ := ⟨0, 0⟩
  bLog := []
  bMoney := 0
  bItemUpdateQueue := []
  bSaveLock := false
  bTabsChanged := false
  bMoneyChanged := false
  bMoneyLogChanged := false
  bLogChanged := false

/-- `LoadBank`: the last tab row counts, and the items are added to those already in memory. -/
def loadBank : GuildBank om :=
  match (b.bankRows db).getLast? with
  | none => b
  | some (tabs, money) =>
    let items := db.guildBank.rows.filter fun r => r.guildid = b.guildid && r.isInferno = b.bInfernoBank
    { b with
      bTabs := tabs.tabs
      bMoney := money.money
      bTabInfo := fun tab =>
        if tab = 0 then { b.bTabInfo 0 with minrank := 1 }
        else if tab.toUInt32 ≤ MAX_TABS then tabs.tabInfo tab
        else b.bTabInfo tab
      bItems := b.bItems ++ items.map BankItem.loadFromDB }

/-- `SetGuild`, at the start of the server: a new bank is loaded from its rows. -/
def setGuild (guildid : UInt32) (log : List BankLog) : GuildBank om :=
  { loadBank { b with guildid := guildid, bTabs := 0 } db with
    bLog := log
    bTabsChanged := false
    bMoneyChanged := false
    bMoneyLogChanged := false
    bLogChanged := false
    bItemUpdateQueue := [] }

/-- `SaveToDB`. The lock is only ever set by disbanding the guild. -/
def saveToDB : GuildBank om × CharacterDatabase :=
  if b.bSaveLock then (b, db)
  else if !b.bMoneyLogChanged && !b.bTabsChanged && !b.bMoneyChanged && !b.bLogChanged && b.bItemUpdateQueue.isEmpty then (b, db)
  else
    ({ b with
        bMoneyChanged := false
        bTabsChanged := false
        bMoneyLogChanged := false
        bLogChanged := false
        bItems := if b.bItemUpdateQueue.isEmpty then b.bItems else b.bItems.map fun it => { it with state := .unchanged }
        bItemUpdateQueue := [] },
      b.saveItems (b.saveTabs (b.saveMoney db)))

end GuildBank

end ComfyCraft
