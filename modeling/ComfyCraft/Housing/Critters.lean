import ComfyCraft.Housing.Objects
import Mathlib.Data.List.DropRight

/-! The animals of a house: placing, naming, moving and taking one away. -/

namespace ComfyCraft

variable {F : Type} {sv : Server F}

def Server.savedCritter (sv : Server F) (c : HouseCritter F) : HouseCritter F :=
  { c with x := sv.column c.x, y := sv.column c.y, z := sv.column c.z, o := sv.column c.o, wander := sv.column c.wander }

namespace HouseMgr

def countCritters (house : House F) : Nat := house.critters.length

variable (s : HouseMgr sv) (p : Visitor F) (guid : UInt32)

def allocateCritterGuid : UInt32 × HouseMgr sv :=
  if s.nextCritterGuid = 0 ∨ HOUSE_CRITTER_GUID_MAX ≤ s.nextCritterGuid then (0, s)
  else (s.nextCritterGuid, { s with nextCritterGuid := s.nextCritterGuid + 1 })

def allocateCritterSlot (house : House F) : UInt32 :=
  highest ((house.critters.filterMap s.critters.lookup).map HouseCritter.slot) + 1

def addCritter (c : HouseCritter F) : HouseMgr sv :=
  let s := { s with db := { s.db with houseCritter := insertRow s.db.houseCritter (sv.savedCritter c) } }
  { s with critters := s.critters.insert c.guid c }.modifyHouse c.houseId fun h => { h with critters := h.critters ++ [c.guid] }

def clampWander (sv : Server F) (wander : F) : F :=
  let wander := if sv.lt wander (sv.lit 0) then sv.lit 0 else wander
  if sv.lt (sv.lit HOUSE_CRITTER_WANDER_MAX) wander then sv.lit HOUSE_CRITTER_WANDER_MAX else wander

/-- The animal `PlaceCritter` forms: on the chalk mark, or where the player stands. -/
def placedCritter (house : House F) (guid entry itemEntry : UInt32) (wander : F) : HouseCritter F :=
  let spot := match p.mark with
    | some (x, y, z) => if p.within x y z (sv.lit HOUSE_PLACE_DISTANCE_MAX) then (x, y, z) else (p.x, p.y, p.z)
    | none => (p.x, p.y, p.z)
  { guid := guid, houseId := house.id, slot := s.allocateCritterSlot house, entry := entry, itemEntry := itemEntry
    customName := [], x := spot.1, y := spot.2.1, z := spot.2.2, o := p.o, wander := clampWander sv wander }

def placeCritter (entry : UInt32) (wander : F) (itemEntry : UInt32) : Reply (HouseMgr sv) :=
  match s.checkOwner p with
  | .error e => refuse s e
  | .ok house =>
    if s.nextCritterGuid = 0 then refuse s "Critters are not available on this server."
    else if HOUSE_MAX_CRITTERS ≤ countCritters house then refuse s "Your house is full of animals. Send one away first."
    else if itemEntry = 0 ∧ p.developer = false then refuse s "Animals come in crates. Critterkeeper Wren sells them."
    else if sv.isCreature entry = false then refuse s "There is no creature with that id."
    else if sv.isCritter entry = false ∧ p.developer = false then refuse s "That is not a critter."
    else
      let (guid, s) := s.allocateCritterGuid
      if guid = 0 then refuse s "Out of critter ids."
      else done (s.addCritter (s.placedCritter p house guid entry itemEntry wander))

/-- The animal a request names, if it is in the house the player may edit. -/
def resolveCritter : Except String (House F × HouseCritter F) :=
  match s.checkOwner p with
  | .error e => .error e
  | .ok house =>
    match s.critters.lookup guid with
    | none => .error "That animal is not in this house."
    | some c => if c.houseId ≠ house.id then .error "That animal is not in this house." else .ok (house, c)

def setCritter (c : HouseCritter F) (columns : HouseCritter F → HouseCritter F) : HouseMgr sv :=
  { s with
    critters := s.critters.insert guid c
    db := { s.db with houseCritter := updateRows s.db.houseCritter (fun r => r.guid = c.guid) columns } }

def HOUSE_CRITTER_NAME_MAX : Nat := 24

/-- `CleanCritterName`, on the bytes of the name. -/
def cleanCritterName (name : List UInt8) : List UInt8 :=
  let out := name.filter fun ch => !(ch < 0x20 || ch = 0x7F) && !(ch = 0x7C || ch = 0x3A)
  let out := (out.dropWhile (· = 0x20)).rdropWhile (· = 0x20)
  out.take HOUSE_CRITTER_NAME_MAX

def nameCritter (name : List UInt8) : Reply (HouseMgr sv) :=
  match s.resolveCritter p guid with
  | .error e => refuse s e
  | .ok (_, c) =>
    let clean := cleanCritterName name
    if clean = [] then refuse s "That is not a name."
    else done (s.setCritter guid { c with customName := clean } fun r => { r with customName := clean })

def moveCritter (drag : Bool) (setWander : Option F) : Reply (HouseMgr sv) :=
  match s.resolveCritter p guid with
  | .error e => refuse s e
  | .ok (_, c) =>
    let c := if drag then { c with x := p.x, y := p.y, z := p.z, o := p.o } else c
    let c := match setWander with
      | some wander => { c with wander := clampWander sv wander }
      | none => c
    done (s.setCritter guid c fun r =>
      { r with x := sv.column c.x, y := sv.column c.y, z := sv.column c.z, o := sv.column c.o, wander := sv.column c.wander })

def purgeCritter (houseId : UInt32) (s : HouseMgr sv) (guid : UInt32) : HouseMgr sv :=
  match s.critters.lookup guid with
  | none => s
  | some _ =>
    let s := { s with db := { s.db with houseCritter := s.db.houseCritter.deleteWhere fun r => r.guid = guid } }
    let s := s.modifyHouse houseId fun h => { h with critters := h.critters.filter (· ≠ guid) }
    { s with critters := s.critters.erase guid }

def purgeCritters (house : House F) : HouseMgr sv := Runs.run (purgeCritter house.id) s house.critters

end HouseMgr

end ComfyCraft
