import ComfyCraft.Loot.Model

/-! What is looted: a creature, alive or dead, or a chest, with its loot, the players who have it open, and the rolls that
go on for its items. `SendLoot` opens it and says with which permission; the handlers of the loot messages look only at
whose loot guid it is. -/

namespace ComfyCraft

inductive LootPermission
  | all | group | master | roundRobin | owner | none
deriving DecidableEq

inductive LootMethod
  | freeForAll | roundRobin | master | groupLoot | needBeforeGreed
deriving DecidableEq

inductive LootType
  | corpse | pickpocketing | skinning
deriving DecidableEq

inductive ChestState
  | ready | activated | justDeactivated
deriving DecidableEq

/-- A member of a group who is in the world, with whether he is near enough for a roll and which items he can use. -/
structure LootMember where
  player : Looter
  near : Bool
  canUse : Nat → Bool

/-- `quality` tells of an item that has a prototype whether its quality is up to the threshold. -/
structure LootGroup where
  id : Nat
  method : LootMethod
  battleground : Bool
  members : List LootMember
  quality : Nat → Option Bool

structure LootRecipient where
  guid : Nat
  group : Option LootGroup

structure LootSource where
  drops : List Drop
  owner : Looter
  reach : Option (List Looter)
  below : Nat → Bool

/-- A call of `SendLoot` with what it finds: `enabled` when the map of the player has its loot on, `reachable` when
nothing of distance, faction or script is against it, `groupRules` for a chest that is shared out in a group, `source`
and `gold` for what would be generated. `found` and `again` are for the release before it. -/
structure LootVisit where
  player : Looter
  lootType : LootType
  enabled : Bool
  reachable : Bool
  group : Option LootGroup
  recipient : Option LootRecipient
  groupRecipient : Option LootGroup
  groupRules : Bool
  source : Option LootSource
  gold : Nat
  found : Bool
  again : Bool

inductive LootPlace
  | item (slot : Nat)
  | questItem (index : Nat)
deriving DecidableEq

/-- An item that left the loot for a player; `permission` is the one with which he who took or gave it had it open. -/
structure LootTaken where
  place : LootPlace
  player : Nat
  permission : Option LootPermission
deriving DecidableEq

structure LootTarget where
  creature : Bool
  alive : Bool
  chest : ChestState
  lootForPickPocketed : Bool
  lootForBody : Bool
  lootForSkin : Bool
  loot : Loot
  openers : Table Nat LootPermission
  rolls : List Nat
  taken : List LootTaken

/-- How a roll is counted out: somebody won it, by need or by greed, or all passed. -/
inductive RollEnd
  | won (need : Bool) (winner : Nat) (online room : Bool)
  | passed

inductive LootEvent
  | sendLoot (v : LootVisit)
  | autostore (p : Looter) (slot : Nat) (rogue near masterLoot room : Bool)
  | masterGive (giver target slot : Nat) (granted room : Bool)
  | lootMoney (guid : Nat)
  | countTheRoll (slot : Nat) (result : RollEnd)
  | release (guid : Nat) (found again : Bool)

namespace LootGroup

/-- Whether `StartLootRoll` finds a looter for the item. -/
def rolls (g : LootGroup) (l : Loot) (item : LootItem) : Bool :=
  g.quality item.itemid = some true && g.members.any fun m =>
    (g.method ≠ .needBeforeGreed || m.canUse item.itemid) && item.allowedForPlayer m.player &&
      m.player.guid ∈ l.allowedLooters && m.near

/-- What becomes of an item: below the threshold it is free, else it is rolled for. -/
def share (g : LootGroup) (l : Loot) (item : LootItem) : LootItem :=
  if item.freeforall then item
  else if g.quality item.itemid = some false then { item with isUnderthreshold := true }
  else if g.rolls l item then { item with isBlocked := true }
  else item

end LootGroup

namespace LootPlace

def ofPick (slot : Nat) : Loot.Pick → LootPlace
  | .quest index => .questItem index
  | _ => .item slot

end LootPlace

namespace LootTarget

variable (t : LootTarget) (slot : Nat) (v : LootVisit)

/-- The loot is cleared: the rolls for it are not valid any more, and what is in it from now on is another loot. -/
def clear : LootTarget := { t with loot := t.loot.clear true, rolls := [], taken := [] }

/-- The loot is cleared and filled, when there is a table to fill it from. -/
def refresh (source : Option LootSource) (personal : Bool) (gold : Nat) : LootTarget :=
  let loot := match source with
    | none => t.loot.clear true
    | some s => (t.loot.clear true).fillLoot s.drops s.owner personal s.reach s.below
  { t.clear with loot := { loot with gold := gold } }

/-- `DoLootRelease`, where `found` says that the player is in the world and the target there, and `again` that a chest is
a vein that can be opened once more. -/
def doLootRelease (guid : Nat) (found again : Bool) : LootTarget :=
  let t := { t with openers := t.openers.erase guid };
  if !found then t
  else if t.loot.isLooted then
    if t.creature then t.clear else { t.clear with chest := if again then .ready else .justDeactivated }
  else if t.creature then t else { t with chest := .activated }

/-- `GroupLoot` and `NeedBeforeGreed`. -/
def groupLoot (g : LootGroup) : LootTarget :=
  { t with
    loot := { t.loot with items := t.loot.items.map (g.share t.loot) }
    rolls := t.rolls ++ ((t.loot.items.zipIdx.filter fun e => !e.1.freeforall && g.rolls t.loot e.1).map Prod.snd) }

def masterLoot (g : LootGroup) : LootTarget :=
  { t with loot := t.loot.markUnderthreshold fun itemid => g.quality itemid = some false }

def openBody (r : LootRecipient) : LootTarget :=
  if t.lootForBody then t
  else
    let t := { t with lootForBody := true }
    match v.groupRecipient with
    | some g => if g.method = .groupLoot ∨ g.method = .needBeforeGreed then t.groupLoot g else t
    | none =>
      match r.group with
      | some g => if g.battleground ∧ g.method = .groupLoot then t.groupLoot g else t
      | none => t

def pickPocket : LootTarget :=
  if !t.lootForPickPocketed then { t.refresh v.source false v.gold with lootForPickPocketed := true }
  else if (t.loot.items = [] ∧ t.loot.questItems = [] ∧ t.loot.gold = 0) ∨ v.player.guid ∉ t.loot.allowedLooters then
    let t := t.refresh v.source false 0
    { t with loot := t.loot.leaveOnlyQuestItems }
  else t

/-- Which permission a corpse is opened with when it is not for its skin. -/
def corpsePermission (r : LootRecipient) : LootPermission :=
  match v.group with
  | some g =>
    if r.group.map LootGroup.id = some g.id then
      match g.method with
      | .master => .master
      | .freeForAll => .all
      | .roundRobin => .roundRobin
      | _ => .group
    else .none
  | none => if r.guid = v.player.guid then .owner else .none

/-- The rest of `SendLoot` for a corpse whose recipient is there. -/
def openCorpse (r : LootRecipient) : LootTarget × LootPermission :=
  let t := if t.lootForPickPocketed then { t.clear with lootForPickPocketed := false } else t
  let t := t.openBody v r
  if v.lootType = .skinning then
    if !t.lootForSkin then ({ t.refresh v.source false 0 with lootForSkin := true }, .owner) else (t, .all)
  else
    let t := match v.group with
      | some g => if r.group.map LootGroup.id = some g.id ∧ g.method = .master then t.masterLoot g else t
      | none => t
    (t, corpsePermission v r)

def openChest : LootTarget :=
  match t.chest with
  | .ready =>
    let t := if v.source.isSome then t.refresh v.source (!v.groupRules) v.gold else t
    { t with chest := .activated }
  | .activated => { t with loot := t.loot.fillNotNormalLootFor v.player }
  | .justDeactivated => t

/-- What `SendLoot` makes of the target and the permission it computes, or nothing when it returns before. -/
def opened : Option (LootTarget × LootPermission) :=
  if !v.reachable then none
  else if t.creature then
    if t.alive ≠ decide (v.lootType = .pickpocketing) then none
    else if v.lootType = .pickpocketing then some (t.pickPocket v, .owner)
    else v.recipient.map fun r => t.openCorpse v r
  else some (t.openChest v, .all)

def sendLoot : LootTarget :=
  if !v.enabled then t
  else
    let t := if (t.openers.lookup v.player.guid).isSome then t.doLootRelease v.player.guid v.found v.again else t
    match t.opened v with
    | none => t
    | some (t, permission) => { t with openers := t.openers.insert v.player.guid permission }

def autostore (p : Looter) (slot : Nat) (rogue near masterLoot room : Bool) : LootTarget :=
  match t.openers.lookup p.guid with
  | none => t
  | some permission =>
    if !near ∨ t.creature ∧ t.alive ≠ (rogue && t.lootForPickPocketed) then t
    else
      match t.loot.autostored p slot (t.creature && masterLoot) room with
      | none => t
      | some (_, pick) =>
        { t with
          loot := t.loot.mark p.guid slot pick
          taken := ⟨.ofPick slot pick, p.guid, some permission⟩ :: t.taken }

/-- `granted` says that the giver is the master looter of his group and the target near and in it. -/
def masterGive (giver target slot : Nat) (granted room : Bool) : LootTarget :=
  match t.openers.lookup giver with
  | none => t
  | some permission =>
    if !granted then t
    else
      match t.loot.masterGiven target slot room with
      | none => t
      | some item =>
        { t with
          loot := t.loot.masterGive target slot room
          taken := if item.count ≠ 0 then ⟨.item slot, target, some permission⟩ :: t.taken else t.taken }

def setItem (f : LootItem → LootItem) : LootTarget :=
  { t with loot := { t.loot with items := t.loot.items.modify slot f } }

/-- `CountTheRoll`. -/
def countTheRoll (result : RollEnd) : LootTarget :=
  if slot ∉ t.rolls then t
  else
    let t := { t with rolls := t.rolls.erase slot }
    match t.loot.items[slot]? with
    | none => t
    | some item =>
      match result with
      | .passed => t.setItem slot fun item => { item with isBlocked := false }
      | .won need winner online room =>
        if !online then if need then t.setItem slot fun item => { item with lootOwner := some winner } else t
        else if room then
          let t := t.setItem slot fun item => { item with isLooted := true }
          { t with
            loot := { t.loot with unlootedCount := t.loot.unlootedCount - 1 }
            taken := if item.count ≠ 0 then ⟨.item slot, winner, none⟩ :: t.taken else t.taken }
        else t.setItem slot fun item => { item with isBlocked := false, lootOwner := some winner }

def step : LootEvent → LootTarget
  | .sendLoot v => t.sendLoot v
  | .autostore p slot rogue near masterLoot room => t.autostore p slot rogue near masterLoot room
  | .masterGive giver target slot granted room => t.masterGive giver target slot granted room
  | .lootMoney guid => if (t.openers.lookup guid).isSome then { t with loot := { t.loot with gold := 0 } } else t
  | .countTheRoll slot result => t.countTheRoll slot result
  | .release guid found again =>
    if (t.openers.lookup guid).isSome then t.doLootRelease guid found again else t

def unopened (creature alive : Bool) : LootTarget :=
  ⟨creature, alive, .ready, false, false, false, Loot.empty, ∅, [], []⟩

/-- A creature that was just killed, a living one, and a chest. -/
inductive Start : LootTarget → Prop
  | corpse (source : Option LootSource) (gold : Nat) : Start ((unopened true false).refresh source false gold)
  | creature : Start (unopened true true)
  | chest : Start (unopened false false)

end LootTarget

end ComfyCraft
