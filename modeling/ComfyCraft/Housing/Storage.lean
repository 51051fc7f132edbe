import ComfyCraft.Inventory.Store
import ComfyCraft.Housing.Critters

/-! The furniture storage: an account's shelf of crates, filled from the bags one crate at a time or from
a house that is about to be torn down, and emptied into the bags. -/

namespace ComfyCraft

variable {om : ObjectMgr} {F : Type} {sv : Server F}

/-- What a request that moves crates works on: the bags of the player and the manager. -/
structure HouseWorld (om : ObjectMgr) {F : Type} (sv : Server F) where
  player : Player om
  mgr : HouseMgr sv

namespace HouseMgr

def isFurnitureItem (sv : Server F) (itemEntry : UInt32) : Bool := sv.furnitureItems.any fun i => i.1 = itemEntry

def isCritterItem (sv : Server F) (itemEntry : UInt32) : Bool := sv.critterItems.any fun i => i.1 = itemEntry

def isStorableItem (sv : Server F) (itemEntry : UInt32) : Bool := isFurnitureItem sv itemEntry || isCritterItem sv itemEntry

/-- A house's own door, or any door that leads to the template it was made from. -/
def isHomePortal (house : House F) (portal : HousePortal F) : Bool :=
  house.portalId ≠ 0 && house.portalId = portal.id || house.templateId ≠ 0 && portal.templateId = house.templateId

variable (s : HouseMgr sv) (accountId : UInt32) (p : Visitor F)

def atOwnHomeDoor : Bool :=
  if !sv.enabled then false
  else match s.getHouseByAccount p.accountId with
    | none => false
    | some house => s.portals.entries.any fun e =>
        e.2.map = p.mapId && isHomePortal house e.2 && p.within e.2.x e.2.y e.2.z p.markHide

def storageAllowed : Except String Unit :=
  if s.atOwnHomeDoor p then .ok ()
  else match s.getHouseAt p with
    | none => .error "Your furniture storage is inside your house, or at your front door."
    | some house => if canEditHouse p house then .ok () else .error "This is not your house."

def shelf : Table UInt32 UInt32 := (s.storage.lookup accountId).getD ∅

/-- The lowest free square from `next` on, as far as the squares go. -/
def freeSquare (shelf : Table UInt32 UInt32) (next : UInt32) : Option UInt32 :=
  ((List.range' next.toNat (HOUSE_STORAGE_MAX.toNat + 1 - next.toNat)).map UInt32.ofNat).find? fun slot => (shelf.lookup slot).isNone

def queueStorage (transaction : Bool) (stmts : List StorageStmt) : HouseMgr sv :=
  { s with db := { s.db with storageOps := s.db.storageOps ++ [(transaction, stmts)] } }

/-- A crate in a square, in memory and by `REPLACE` in the table. -/
def putOnShelf (accountId slot itemEntry : UInt32) : HouseMgr sv :=
  { s with storage := s.storage.insert accountId ((s.shelf accountId).insert slot itemEntry) }.queueStorage false
    [.replace ⟨accountId, slot, itemEntry⟩]

def storageDeposit (w : HouseWorld om sv) (p : Visitor F) (itemEntry slot : UInt32) : Reply (HouseWorld om sv) :=
  match w.mgr.storageAllowed p with
  | .error e => refuse w e
  | .ok () =>
    if isStorableItem sv itemEntry = false then refuse w "Only furniture and pets go in there."
    else if w.player.getItemCount itemEntry false = 0 then refuse w "You are not carrying that."
    else if HOUSE_STORAGE_MAX < slot then refuse w "There is no such square."
    else
      let square : Except String UInt32 :=
        if slot = 0 then
          match freeSquare (w.mgr.shelf p.accountId) 1 with
          | some slot => .ok slot
          | none => .error "Your furniture storage cannot hold any more."
        else if ((w.mgr.shelf p.accountId).lookup slot).isSome then .error "There is already something in that square."
        else .ok slot
      match square with
      | .error e => refuse w e
      | .ok slot => done ⟨w.player.destroyItemCount itemEntry 1, w.mgr.putOnShelf p.accountId slot itemEntry⟩

/-- The deposits of one kind of crate: as many as were counted, up to the first that is refused. -/
def depositKind (p : Visitor F) (itemEntry : UInt32) : Nat → HouseWorld om sv → Nat × Bool × HouseWorld om sv
  | 0, w => (0, false, w)
  | have_ + 1, w =>
    match storageDeposit w p itemEntry 0 with
    | (.error _, w) => (0, true, w)
    | (.ok (), w) =>
      let (moved, full, w) := depositKind p itemEntry have_ w
      (moved + 1, full, w)

def depositKinds (p : Visitor F) : List UInt32 → HouseWorld om sv → Nat × Bool × HouseWorld om sv
  | [], w => (0, false, w)
  | entry :: entries, w =>
    match depositKind p entry (w.player.getItemCount entry false).toNat w with
    | (moved, true, w) => (moved, true, w)
    | (moved, false, w) =>
      let (more, full, w) := depositKinds p entries w
      (moved + more, full, w)

/-- `StorageDepositAll`, and how many crates it moved. -/
def storageDepositAll (w : HouseWorld om sv) (p : Visitor F) : Nat × Reply (HouseWorld om sv) :=
  match w.mgr.storageAllowed p with
  | .error e => (0, refuse w e)
  | .ok () =>
    let (moved, full, w) := depositKinds p (sv.furnitureItems.map Prod.fst ++ sv.critterItems.map Prod.fst) w
    if moved = 0 then
      (0, refuse w (if full then "Your furniture storage is full." else "You are not carrying anything that goes in there."))
    else (moved, done w)

/-- The item every piece and animal of a house came from, 0 for none; the fabric of the house is passed over. -/
def stowable (house : House F) : List UInt32 :=
  (((s.piecesOf house).filter fun o => !isHouseFabric o).map HouseObject.itemEntry) ++
    (house.critters.filterMap s.critters.lookup).map HouseCritter.itemEntry

structure StowCount where
  savable : Nat
  noRoom : Nat
  noItem : Nat
deriving DecidableEq

/-- `CountStowable`: what packing the house up would come to. -/
def countStowable (house : House F) : StowCount :=
  let used := (s.shelf house.accountId).entries.length
  let free := if HOUSE_STORAGE_MAX.toNat ≤ used then 0 else HOUSE_STORAGE_MAX.toNat - used
  (((s.stowable house).foldl fun (count : StowCount × Nat) itemEntry =>
    if itemEntry = 0 then ({ count.1 with noItem := count.1.noItem + 1 }, count.2)
    else if count.2 ≠ 0 then ({ count.1 with savable := count.1.savable + 1 }, count.2 - 1)
    else ({ count.1 with noRoom := count.1.noRoom + 1 }, 0)) (⟨0, 0, 0⟩, free)).1

/-- The loop of `StowHouseFurniture`: the manager, the square to look on from, and the two counts. -/
structure Stowing {F : Type} (sv : Server F) where
  mgr : HouseMgr sv
  next : UInt32
  stowed : Nat
  lost : Nat

def Stowing.stow (t : Stowing sv) (itemEntry : UInt32) : Stowing sv :=
  if itemEntry = 0 then { t with lost := t.lost + 1 }
  else match freeSquare (t.mgr.shelf accountId) t.next with
    | none => { t with next := HOUSE_STORAGE_MAX + 1, lost := t.lost + 1 }
    | some slot => { mgr := t.mgr.putOnShelf accountId slot itemEntry, next := slot + 1, stowed := t.stowed + 1, lost := t.lost }

/-- `StowHouseFurniture`; the pieces themselves are left to the purge of the caller. -/
def stowHouseFurniture (house : House F) : Stowing sv :=
  Runs.run (Stowing.stow house.accountId) ⟨s, 1, 0, 0⟩ (s.stowable house)

def giveItem (player : Player om) (itemEntry : UInt32) : Except String (Player om) :=
  match player.canStoreNewItem NULL_BAG NULL_SLOT itemEntry 1 with
  | .error _ => .error "Your bags are full."
  | .ok dest =>
    match player.storeNewItem dest itemEntry 0 with
    | (none, _) => .error "Could not put that in your bags."
    | (some _, player) => .ok player

def storageWithdraw (w : HouseWorld om sv) (p : Visitor F) (slot : UInt32) : Reply (HouseWorld om sv) :=
  match w.mgr.storageAllowed p with
  | .error e => refuse w e
  | .ok () =>
    match w.mgr.storage.lookup p.accountId with
    | none => refuse w "There is nothing in your storage."
    | some shelf =>
      match shelf.lookup slot with
      | none => refuse w "That square is empty."
      | some itemEntry =>
        match giveItem w.player itemEntry with
        | .error e => refuse w e
        | .ok player =>
          done ⟨player, { w.mgr with storage := w.mgr.storage.insert p.accountId (shelf.erase slot) }.queueStorage false
            [.delete p.accountId [slot]]⟩

/-- The transaction of `StorageMove`. -/
def moveStmts (accountId from_ to_ moving : UInt32) (displaced : Option UInt32) : List StorageStmt :=
  .delete accountId [from_, to_] :: .insert ⟨accountId, to_, moving⟩ ::
    match displaced with
    | some displaced => [.insert ⟨accountId, from_, displaced⟩]
    | none => []

def storageMove (from_ to_ : UInt32) : Reply (HouseMgr sv) :=
  match s.storageAllowed p with
  | .error e => refuse s e
  | .ok () =>
    if from_ = 0 ∨ HOUSE_STORAGE_MAX < from_ ∨ to_ = 0 ∨ HOUSE_STORAGE_MAX < to_ then refuse s "There is no such square."
    else if from_ = to_ then done s
    else match s.storage.lookup p.accountId with
      | none => refuse s "There is nothing in your storage."
      | some shelf =>
        match shelf.lookup from_ with
        | none => refuse s "That square is empty."
        | some moving =>
          let displaced := shelf.lookup to_
          let shelf' := match displaced with
            | some displaced => shelf.insert from_ displaced
            | none => shelf.erase from_
          let s := { s with storage := s.storage.insert p.accountId (shelf'.insert to_ moving) }
          done (s.queueStorage true (moveStmts p.accountId from_ to_ moving displaced))

end HouseMgr

namespace HouseSample

theorem crate_stackable_pos : 0 < (1 : UInt32).toNat := by decide

theorem crate_stackable_le : (1 : UInt32).toNat ≤ 255 := by decide

theorem crate_slots_le : (0 : UInt32).toNat ≤ 36 := by decide

theorem crate_slots_bag : (0 : UInt32) = 0 ∨ (0 : UInt32) = 18 := Or.inl rfl

def crate : ItemPrototype where
  itemId := 5
  itemClass := 0
  subClass := 0
  flags := 0
  inventoryType := 0
  maxCount := 0
  stackable := 1
  containerSlots := 0
  bonding := 0
  bagFamily := 0
  duration := 0
  maxDurability := 0
  createBroken := false
  spellCharges := []
  stackable_pos := crate_stackable_pos
  stackable_le := crate_stackable_le
  containerSlots_le := crate_slots_le
  containerSlots_bag := crate_slots_bag

def objectMgr : ObjectMgr where
  getItemPrototype e := if e = 5 then some crate else none
  itemId_eq := by
    intro e p h
    split_ifs at h with h1
    cases h
    exact h1.symm

/-- A server that reckons in whole yards, whose one crate holds the object 9. -/
def server : Server Int where
  lit q := q.num
  pi := 3
  add := (· + ·)
  sub := (· - ·)
  mul := (· * ·)
  div := (· / ·)
  cos _ := 1
  sin _ := 0
  fabs x := x.natAbs
  lt x y := x < y
  beq x y := x = y
  normalizeOrientation x := x
  isValidMapCoord _ _ _ _ := true
  column x := x
  column_zero := rfl
  collate name := name
  portalName name := if name.length ≤ 48 then some name else none
  enabled := true
  crittersEnabled := true
  getGameObjectInfo e := if e = 9 then some ⟨1, 1⟩ else none
  hasDisplayInfo _ := true
  isCreature e := e = 7
  isCritter e := e = 7
  furnitureItems := [(5, ⟨9, 1⟩)]
  critterItems := []

def item : Item objectMgr where
  guid := 1
  proto := crate
  known := rfl
  count := 1
  fields := {}
  inTrade := false
  hasGeneratedLoot := false

def player : Player objectMgr where
  guid := 1
  mItems := AList.singleton ⟨255, 23⟩ item
  nextItemGuid := 2
  money := 0

/-- The owner of house 1, inside it. -/
def owner : Visitor Int where
  accountId := 1
  account_lt := by decide
  developer := false
  inWorld := true
  mapId := HOUSE_MAP_ID
  instanceId := 1
  inCombat := false
  x := 0
  y := 0
  z := 0
  o := 0
  within _ _ _ _ := true
  mark := none
  markHide := 1
  newInstanceId := 2

def house : House Int where
  id := 1
  accountId := 1
  portalId := 0
  instanceId := 1
  objects := []
  critters := []
  templateId := 0
  authorsTemplate := 0
  exit := ⟨false, 0, 0, 0, 0⟩

def mgr : HouseMgr server :=
  { HouseMgr.empty server with
    houses := AList.singleton 1 house
    houseByAccount := AList.singleton 1 1
    houseByInstance := AList.singleton 1 1 }

end HouseSample

end ComfyCraft
