import ComfyCraft.Housing.Portals

/-! Pieces and animals that come out of crates: using the item places one and takes the item, and picking it
up gives the item back first. -/

namespace ComfyCraft

variable {om : ObjectMgr} {F : Type} {sv : Server F}

namespace HouseMgr

def catalogued {I : Type} (items : List (UInt32 × I)) (itemEntry : UInt32) : Option I :=
  (items.find? fun i => i.1 = itemEntry).map fun i => i.2

def useFurnitureItem (s : HouseMgr sv) (p : Visitor F) (itemEntry : UInt32) : Reply (HouseMgr sv) :=
  match catalogued sv.furnitureItems itemEntry with
  | none => refuse s "That is not furniture."
  | some item => s.placeObject p item.goEntry (sv.lit HOUSE_PLACE_DISTANCE) itemEntry item.scale none

def useCritterItem (s : HouseMgr sv) (p : Visitor F) (itemEntry : UInt32) : Reply (HouseMgr sv) :=
  match catalogued sv.critterItems itemEntry with
  | none => refuse s "There is nothing in that crate."
  | some item => s.placeCritter p item.critterEntry item.wander itemEntry

/-- `HouseUseFurnitureItem`. -/
def useItem (s : HouseMgr sv) (p : Visitor F) (itemEntry : UInt32) : Reply (HouseMgr sv) :=
  if isCritterItem sv itemEntry then s.useCritterItem p itemEntry else s.useFurnitureItem p itemEntry

variable (w : HouseWorld om sv) (p : Visitor F)

/-- `spell_house_furniture_place`: the item that was cast is taken once its piece stands. -/
def placeFromItem (pos : Pos) : Reply (HouseWorld om sv) :=
  match w.player.getItemByPos pos with
  | none => refuse w ""
  | some item =>
    match w.mgr.useItem p item.getEntry with
    | (.error e, mgr) => refuse { w with mgr := mgr } e
    | (.ok (), mgr) => done ⟨(w.player.destroyItemCountAt pos 1).1, mgr⟩

def returnItem (itemEntry : UInt32) : Except String (Player om) :=
  if itemEntry = 0 then .ok w.player else giveItem w.player itemEntry

def removeObject (guid : UInt32) : Reply (HouseWorld om sv) :=
  match w.mgr.checkOwner p with
  | .error e => refuse w e
  | .ok house =>
    match (w.mgr.objects.lookup guid).filter fun o => o.houseId = house.id with
    | none => refuse w "That object is not in this house."
    | some o =>
      if isHouseFabric o then refuse w "That came with the house."
      else match returnItem w o.itemEntry with
        | .error e => refuse w e
        | .ok player => done ⟨player, purgeObject house.id w.mgr guid⟩

def removeCritter (guid : UInt32) : Reply (HouseWorld om sv) :=
  match w.mgr.resolveCritter p guid with
  | .error e => refuse w e
  | .ok (house, c) =>
    match returnItem w c.itemEntry with
    | .error e => refuse w e
    | .ok player => done ⟨player, purgeCritter house.id w.mgr guid⟩

/-- What `ClearHouse` reports. -/
structure ClearCount where
  removed : Nat
  kept : Nat
  noRoom : Nat
deriving DecidableEq

/-- `RemoveObject` on each piece, with the counts of how it went. -/
def clearObjects (p : Visitor F) : List UInt32 → HouseWorld om sv × ClearCount → HouseWorld om sv × ClearCount
  | [], r => r
  | guid :: guids, (w, n) =>
    clearObjects p guids (match removeObject w p guid with
      | (.ok (), w) => (w, { n with removed := n.removed + 1 })
      | (.error why, w) => (w, if why = "Your bags are full." then { n with noRoom := n.noRoom + 1 } else { n with kept := n.kept + 1 }))

def clearHouse : Reply (HouseWorld om sv × ClearCount) :=
  match w.mgr.checkOwner p with
  | .error e => refuse (w, ⟨0, 0, 0⟩) e
  | .ok house => done (clearObjects p house.objects (w, ⟨0, 0, 0⟩))

end HouseMgr

end ComfyCraft
