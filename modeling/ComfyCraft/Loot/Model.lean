import ComfyCraft.Lib.Table

/-! A loot: the items that are shared out, the items of quests, the gold, and beside them what each player has been
shown as his own. Three lists of a player refer to items by their place: the quest items he may have, the shared items
that are free for all, and the shared items with a condition. `unlootedCount` is kept by hand along the way. -/

namespace ComfyCraft

/-- A row of a loot template once its number is rolled; `partyLoot` is a flag of the item's prototype. -/
structure LootStoreItem where
  itemid : Nat
  conditionId : Nat
  needsQuest : Bool
  partyLoot : Bool
  count : Nat
deriving DecidableEq

structure LootItem where
  itemid : Nat
  conditionId : Nat
  count : Nat
  isLooted : Bool
  isBlocked : Bool
  freeforall : Bool
  isUnderthreshold : Bool
  isCounted : Bool
  needsQuest : Bool
  lootOwner : Option Nat
  personalRollers : List Nat
deriving DecidableEq

structure QuestItem where
  index : Nat
  isLooted : Bool
deriving DecidableEq

/-- A player as he is when the loot is filled for him or he takes from it; `eligible` is what the conditions, the
prototypes and his quests say to an item, by its id, its condition and whether it is a quest drop. -/
structure Looter where
  guid : Nat
  inWorld : Bool
  eligible : Nat → Nat → Bool → Bool

namespace LootItem

def ofStore (li : LootStoreItem) : LootItem :=
  ⟨li.itemid, li.conditionId, li.count, false, false, li.partyLoot, false, false, li.needsQuest, none, []⟩

def allowedForPlayer (item : LootItem) (p : Looter) : Bool :=
  p.eligible item.itemid item.conditionId item.needsQuest &&
    match item.lootOwner with
    | some owner => p.guid = owner
    | none => p.guid ∉ item.personalRollers

def take (item : LootItem) : LootItem := { item with isLooted := item.isLooted || !item.freeforall }

def give (item : LootItem) : LootItem := { item with count := 0, isLooted := true }

end LootItem

/-- What a loot template adds: an item for everybody but those who rolled for it on their own, or a copy of it for one
of them. -/
inductive Drop
  | addItem (li : LootStoreItem) (neederGuids : List Nat)
  | addPersonalCopy (li : LootStoreItem) (looter : Nat)

def maxNrLootItems : Nat := 16
def maxNrQuestItems : Nat := 32

structure Loot where
  personal : Bool
  items : List LootItem
  gold : Nat
  unlootedCount : UInt8
  questItems : List LootItem
  playerQuestItems : Table Nat (List QuestItem)
  playerFFAItems : Table Nat (List QuestItem)
  playerConditionalItems : Table Nat (List QuestItem)
  allowedLooters : List Nat

namespace Loot

def empty : Loot := ⟨false, [], 0, 0, [], ∅, ∅, ∅, []⟩

variable (l : Loot) (p : Looter) (item : LootItem) (slot : Nat)

def clear (clearQuestItems : Bool) : Loot where
  personal := true
  items := []
  gold := 0
  unlootedCount := 0
  questItems := if clearQuestItems then [] else l.questItems
  playerQuestItems := if clearQuestItems then ∅ else l.playerQuestItems
  playerFFAItems := ∅
  playerConditionalItems := ∅
  allowedLooters := []

def leaveOnlyQuestItems : Loot := l.clear false

def isLooted : Bool := l.gold = 0 ∧ l.unlootedCount = 0

/-! Filling. -/

def addItem : Loot :=
  if item.needsQuest then
    if l.questItems.length < maxNrQuestItems then { l with questItems := l.questItems ++ [item] } else l
  else if l.items.length < maxNrLootItems then
    { l with
      items := l.items ++ [item]
      unlootedCount := if item.conditionId = 0 ∧ !item.freeforall then l.unlootedCount + 1 else l.unlootedCount }
  else l

def addPersonalCopy (li : LootStoreItem) (looter : Nat) : Loot :=
  if maxNrQuestItems ≤ l.questItems.length then l
  else { l with questItems := l.questItems ++ [{ LootItem.ofStore li with needsQuest := true, freeforall := false, lootOwner := some looter }] }

/-- Only shared copies have others who rolled for themselves. -/
def drop : Drop → Loot
  | .addItem li neederGuids => l.addItem { LootItem.ofStore li with personalRollers := if li.needsQuest then [] else neederGuids }
  | .addPersonalCopy li looter => l.addPersonalCopy li looter

def ffaFor : Bool := !item.isLooted && item.freeforall && item.allowedForPlayer p

def conditionalFor : Bool :=
  !item.isLooted && !item.freeforall && item.conditionId ≠ 0 && item.allowedForPlayer p

def questFor : Bool := !item.isLooted && item.allowedForPlayer p

/-- The places of the items a test lets through, as a new list of a player. -/
def entriesOf (test : LootItem → Bool) (items : List LootItem) : List QuestItem :=
  (items.zipIdx.filter fun e => test e.1).map fun e => ⟨e.2, false⟩

def fillFFALoot : Loot :=
  if p.inWorld = false then l
  else if entriesOf (ffaFor p) l.items = [] then l
  else { l with
    playerFFAItems := l.playerFFAItems.insert p.guid (entriesOf (ffaFor p) l.items)
    unlootedCount := l.unlootedCount + UInt8.ofNat (entriesOf (ffaFor p) l.items).length }

/-- The loop of `FillQuestLoot` from the place `i` on, with `room` for so many more entries: the items afterwards, the
entries, and what is added to the count. -/
def questLoop (p : Looter) : Nat → Nat → List LootItem → List LootItem × List QuestItem × Nat
  | _, _, [] => ([], [], 0)
  | room, i, item :: rest =>
    if questFor p item then
      let more := if item.freeforall || !item.isBlocked then 1 else 0
      if room = 1 then ({ item with isBlocked := true } :: rest, [⟨i, false⟩], more)
      else
        let (items, ql, count) := questLoop p (room - 1) (i + 1) rest
        ({ item with isBlocked := true } :: items, ⟨i, false⟩ :: ql, more + count)
    else
      let (items, ql, count) := questLoop p room (i + 1) rest
      (item :: items, ql, count)

def fillQuestLoot : Loot :=
  if p.inWorld = false then l
  else if l.items.length = maxNrLootItems then l
  else
    let (questItems, ql, count) := questLoop p (maxNrLootItems - l.items.length) 0 l.questItems
    if ql = [] then l
    else { l with
      questItems := questItems
      playerQuestItems := l.playerQuestItems.insert p.guid ql
      unlootedCount := l.unlootedCount + UInt8.ofNat count }

def fillConditionalLoot : Loot :=
  if p.inWorld = false then l
  else if entriesOf (conditionalFor p) l.items = [] then l
  else { l with
    items := l.items.map fun item => if conditionalFor p item then { item with isCounted := true } else item
    playerConditionalItems := l.playerConditionalItems.insert p.guid (entriesOf (conditionalFor p) l.items)
    unlootedCount := l.unlootedCount + UInt8.ofNat (l.items.countP fun item => conditionalFor p item && !item.isCounted) }

def unlessListed (t : Table Nat (List QuestItem)) (p : Looter) (l filled : Loot) : Loot :=
  if (t.lookup p.guid).isSome then l else filled

def allow (guid : Nat) : Loot := { l with allowedLooters := l.allowedLooters ++ [guid] }

def fillNotNormalLootFor : Loot :=
  let l := if p.inWorld then l.allow p.guid else l
  let l := unlessListed l.playerQuestItems p l (l.fillQuestLoot p)
  let l := unlessListed l.playerFFAItems p l (l.fillFFALoot p)
  unlessListed l.playerConditionalItems p l (l.fillConditionalLoot p)

def markUnderthreshold (below : Nat → Bool) : Loot :=
  { l with items := l.items.map fun item => if below item.itemid then { item with isUnderthreshold := true } else item }

/-- `reach` are the members of the owner's group that the loot is for, when it is shared out in a group; `below` says
whose quality is below the group's threshold. -/
def fillLoot (drops : List Drop) (owner : Looter) (personal : Bool) (reach : Option (List Looter)) (below : Nat → Bool) : Loot :=
  let l := drops.foldl drop { l with personal := true }
  match personal, reach with
  | false, some members =>
    (members.foldl (fun (l : Loot) p => (l.allow p.guid).fillNotNormalLootFor p) { l with personal := false }).markUnderthreshold below
  | _, _ => l.fillNotNormalLootFor owner

def refill (drops : List Drop) (owner : Looter) (reach : Option (List Looter)) (below : Nat → Bool) : Loot :=
  ((l.clear true).fillLoot drops owner false reach below).leaveOnlyQuestItems

/-! Taking. -/

def entry (t : Table Nat (List QuestItem)) (guid index : Nat) : Option QuestItem :=
  (t.lookup guid).bind fun ql => ql.find? fun q => q.index = index

def markEntry (t : Table Nat (List QuestItem)) (guid index : Nat) : Table Nat (List QuestItem) :=
  match t.lookup guid with
  | none => t
  | some ql => t.insert guid (ql.map fun q => if q.index = index then { q with isLooted := true } else q)

/-- Which of the pointers `LootItemInSlot` sets. -/
inductive Pick
  | quest (index : Nat)
  | ffa
  | conditional
  | plain
deriving DecidableEq

def Pick.isQuest : Pick → Bool
  | .quest _ => true
  | _ => false

def lootItemInSlot (slot guid : Nat) : Option (LootItem × Pick) :=
  match l.items[slot]? with
  | none =>
    match ((l.playerQuestItems.lookup guid).getD [])[slot - l.items.length]? with
    | none => none
    | some q =>
      match l.questItems[q.index]? with
      | none => none
      | some item => if item.isLooted || q.isLooted then none else some (item, .quest q.index)
  | some item =>
    if item.freeforall then
      match entry l.playerFFAItems guid slot with
      | some q => if q.isLooted then none else some (item, .ffa)
      | none => if item.isLooted then none else some (item, .plain)
    else if item.isLooted then none
    else if item.conditionId ≠ 0 then
      match entry l.playerConditionalItems guid slot with
      | some q => if q.isLooted then none else some (item, .conditional)
      | none => some (item, .plain)
    else some (item, .plain)

/-- The checks of `HandleAutostoreLootItemOpcode` on the item; `masterLooted` when the loot is a creature's and the
group of the player has a master looter, `room` when he can store it. Nothing is made of a count of zero. -/
def autostored (masterLooted room : Bool) : Option (LootItem × Pick) :=
  match l.lootItemInSlot slot p.guid with
  | none => none
  | some (item, pick) =>
    if item.allowedForPlayer p = false then none
    else if !pick.isQuest ∧ item.isBlocked then none
    else if masterLooted ∧ !item.isUnderthreshold ∧ !pick.isQuest ∧ pick ≠ .ffa then none
    else if room ∧ item.count ≠ 0 then some (item, pick)
    else none

def mark (guid slot : Nat) : Pick → Loot
  | .quest index =>
    { l with
      playerQuestItems := markEntry l.playerQuestItems guid index
      questItems := l.questItems.modify index LootItem.take
      unlootedCount := l.unlootedCount - 1 }
  | .ffa =>
    { l with
      playerFFAItems := markEntry l.playerFFAItems guid slot
      items := l.items.modify slot LootItem.take
      unlootedCount := l.unlootedCount - 1 }
  | .conditional =>
    { l with
      playerConditionalItems := markEntry l.playerConditionalItems guid slot
      items := l.items.modify slot LootItem.take
      unlootedCount := l.unlootedCount - 1 }
  | .plain =>
    { l with
      items := l.items.modify slot LootItem.take
      unlootedCount := l.unlootedCount - 1 }

def autostore (masterLooted room : Bool) : Loot :=
  match l.autostored p slot masterLooted room with
  | none => l
  | some (_, pick) => l.mark p.guid slot pick

/-- The item a master looter gives, past the checks of `HandleLootMasterGiveOpcode` on the loot. -/
def masterGiven (target slot : Nat) (room : Bool) : Option LootItem :=
  match l.items[slot]? with
  | none => none
  | some item => if target ∈ l.allowedLooters ∧ room then some item else none

def masterGive (target slot : Nat) (room : Bool) : Loot :=
  match l.masterGiven target slot room with
  | none => l
  | some _ => { l with items := l.items.modify slot LootItem.give, unlootedCount := l.unlootedCount - 1 }

end Loot

end ComfyCraft
