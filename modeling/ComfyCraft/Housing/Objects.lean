import ComfyCraft.Housing.Model

/-! Furniture: placing a piece, rearranging one or a whole group, and taking one down. A pointer to a
piece is its guid. A request is answered with an error, or with nothing, together with the state it
leaves behind. -/

namespace ComfyCraft

open List

abbrev Reply (σ : Type) := Except String Unit × σ

def refuse {σ : Type} (s : σ) (error : String) : Reply σ := (.error error, s)

def done {σ : Type} (s : σ) : Reply σ := (.ok (), s)

variable {F : Type} {sv : Server F}

/-- The coordinates as a row of their table gives them back. -/
def Server.saved (sv : Server F) (o : HouseObject F) : HouseObject F :=
  { o with
    x := sv.column o.x, y := sv.column o.y, z := sv.column o.z, o := sv.column o.o
    rot0 := sv.column o.rot0, rot1 := sv.column o.rot1, rot2 := sv.column o.rot2, rot3 := sv.column o.rot3
    scale := sv.column o.scale }

namespace HouseMgr

variable (s : HouseMgr sv) (p : Visitor F) (guid : UInt32)

def canEditHouse (house : House F) : Bool :=
  house.accountId = p.accountId || house.authorsTemplate ≠ 0 && p.developer

def checkOwner : Except String (House F) :=
  match s.getHouseAt p with
  | none => .error "You are not in a house."
  | some house => if canEditHouse p house then .ok house else .error "This is not your house."

def piecesOf (house : House F) : List (HouseObject F) := house.objects.filterMap s.objects.lookup

def countPlayerObjects (house : House F) : Nat := (s.piecesOf house).countP fun o => o.source = .player

def highest (l : List UInt32) : UInt32 := l.foldl (fun highest n => if highest < n then n else highest) 0

theorem highest_concat (l : List UInt32) (n : UInt32) : highest (l ++ [n]) = if highest l < n then n else highest l := by
  unfold highest
  rw [foldl_append]
  rfl

variable {l : List UInt32}

theorem le_highest {n : UInt32} (h : n ∈ l) : n ≤ highest l := by
  induction l using reverseRecOn with
  | nil => cases h
  | append_singleton l m ih =>
    rw [highest_concat]
    rcases mem_append.1 h with hl | hm
    · split_ifs with hlt
      · exact UInt32.le_trans (ih hl) (UInt32.le_of_lt hlt)
      · exact ih hl
    · rw [mem_singleton.1 hm]
      split_ifs with hlt
      · exact UInt32.le_refl _
      · exact UInt32.not_lt.1 hlt

theorem highest_mem (h : highest l ≠ 0) : highest l ∈ l := by
  induction l using reverseRecOn with
  | nil => exact absurd rfl h
  | append_singleton l m ih =>
    rw [highest_concat] at h ⊢
    split_ifs at h ⊢ with hlt
    · exact mem_append_right _ (mem_singleton.2 rfl)
    · exact mem_append_left _ (ih h)

def allocateSlot (house : House F) : UInt32 := highest ((s.piecesOf house).map HouseObject.slot) + 1

def allocateGroupNo (house : House F) : UInt32 := highest ((s.piecesOf house).map HouseObject.groupNo) + 1

def allocateObjectGuid : UInt32 × HouseMgr sv :=
  if HOUSE_GO_GUID_MAX ≤ s.nextObjectGuid then (0, s)
  else (s.nextObjectGuid, { s with nextObjectGuid := s.nextObjectGuid + 1 })

/-- A new piece: the row is written, then the map and the list of its house get it. -/
def addObject (o row : HouseObject F) : HouseMgr sv :=
  let s := { s with db := { s.db with houseObject := insertRow s.db.houseObject row } }
  { s with objects := s.objects.insert o.guid o }.modifyHouse o.houseId fun h => { h with objects := h.objects ++ [o.guid] }

def placeAheadOfPlayer (sv : Server F) (p : Visitor F) (distance : F) : F × F × F :=
  (sv.add p.x (sv.mul (sv.cos p.o) distance), sv.add p.y (sv.mul (sv.sin p.o) distance), p.z)

def placeAtPoint (sv : Server F) (p : Visitor F) (at_ : F × F × F) : Except String (F × F × F) :=
  let (x, y, z) := at_
  if !p.within x y z (sv.lit HOUSE_PLACE_DISTANCE_MAX) then .error "That is too far away."
  else if sv.lt (sv.lit HOUSE_PLACE_HEIGHT_MAX) (sv.fabs (sv.sub z p.z)) then .error "Aim closer to the ground."
  else .ok at_

/-- The piece `PlaceObject` forms for a house. -/
def placedObject (house : House F) (guid goEntry itemEntry : UInt32) (scale : F) (spot : F × F × F) : HouseObject F where
  guid := guid
  houseId := house.id
  slot := s.allocateSlot house
  groupNo := 0
  goEntry := goEntry
  itemEntry := itemEntry
  x := spot.1
  y := spot.2.1
  z := sv.add spot.2.2 (sv.lit HOUSE_PLACE_LIFT)
  o := sv.normalizeOrientation (sv.add p.o sv.pi)
  rot0 := sv.lit 0
  rot1 := sv.lit 0
  rot2 := sv.lit 0
  rot3 := sv.lit 0
  scale := scale
  source := .player

/-- The row `PlaceObject` inserts: no group, and zeros for the rotation. -/
def placedRow (sv : Server F) (o : HouseObject F) : HouseObject F :=
  { sv.saved o with groupNo := 0, rot0 := sv.lit 0, rot1 := sv.lit 0, rot2 := sv.lit 0, rot3 := sv.lit 0 }

def placeObject (goEntry : UInt32) (distance : F) (itemEntry : UInt32) (scale : F)
    (at_ : Option (F × F × F)) : Reply (HouseMgr sv) :=
  match s.checkOwner p with
  | .error e => refuse s e
  | .ok house =>
    if HOUSE_MAX_OBJECTS ≤ s.countPlayerObjects house then refuse s "Your house is full. Remove something first."
    else match sv.getGameObjectInfo goEntry with
      | none => refuse s "There is no object with that id."
      | some info =>
        if info.displayId ≠ 0 ∧ sv.hasDisplayInfo info.displayId = false then
          refuse s "That object has no model and would be invisible."
        else
          let distance := if sv.lt distance (sv.lit 0) then sv.lit 0 else distance
          let distance := if sv.lt (sv.lit HOUSE_PLACE_DISTANCE_MAX) distance then sv.lit HOUSE_PLACE_DISTANCE_MAX else distance
          -- an explicit point beats the chalk mark, and the mark beats straight ahead
          let spot := match at_.or p.mark with
            | some at_ => placeAtPoint sv p at_
            | none => .ok (placeAheadOfPlayer sv p distance)
          match spot with
          | .error e => refuse s e
          | .ok spot =>
            let (guid, s) := s.allocateObjectGuid
            if guid = 0 then refuse s "Out of furniture ids."
            else
              let o := s.placedObject p house guid goEntry itemEntry scale spot
              done (s.addObject o (placedRow sv o))

/-- A new position, facing and size for a piece; a size of 0 leaves it as it is. -/
structure Placement (F : Type) where
  obj : UInt32
  x : F
  y : F
  z : F
  o : F
  scale : F

def Placement.apply (sv : Server F) (p : Placement F) (o : HouseObject F) : Option (HouseObject F) :=
  let no := sv.normalizeOrientation p.o
  let moved := !sv.beq p.x o.x || !sv.beq p.y o.y || !sv.beq p.z o.z
  let turned := !sv.beq no o.o
  let resized := sv.lt (sv.lit 0) p.scale && !sv.beq p.scale o.scale
  if !moved && !turned && !resized then none
  else some { o with x := p.x, y := p.y, z := p.z, o := no, scale := if resized then p.scale else o.scale }

/-- The columns `ApplyPlacement` writes. -/
def placementColumns (sv : Server F) (o row : HouseObject F) : HouseObject F :=
  { row with x := sv.column o.x, y := sv.column o.y, z := sv.column o.z, o := sv.column o.o, scale := sv.column o.scale }

def applyPlacement (p : Placement F) : HouseMgr sv :=
  match (s.objects.lookup p.obj).bind (p.apply sv) with
  | none => s
  | some o =>
    { s with
      objects := s.objects.insert p.obj o
      db := { s.db with houseObject := updateRows s.db.houseObject (fun r => r.guid = o.guid) (placementColumns sv o) } }

def placeAll (all : List (Placement F)) : Reply (HouseMgr sv) :=
  if all.all fun p => sv.isValidMapCoord p.x p.y p.z p.o then done (Runs.run applyPlacement s all)
  else refuse s (if 1 < all.length then "Too far for one of the pieces." else "Too far.")

/-- The pieces of a house that share the number of a group, the piece asked about first. -/
def groupMembers (o : HouseObject F) : List (HouseObject F) :=
  match s.objects.lookup o.guid with
  | none => []
  | some self =>
    self :: match s.getHouseById o.houseId with
      | none => []
      | some house =>
        if o.groupNo = 0 ∨ isHouseFabric o then []
        else (house.objects.filter (· ≠ o.guid)).filterMap fun guid =>
          (s.objects.lookup guid).filter fun m => m.groupNo = o.groupNo && !isHouseFabric m

/-- The piece a request names, if the player may rearrange it. -/
def resolve : Except String (House F × HouseObject F) :=
  match s.checkOwner p with
  | .error e => .error e
  | .ok house =>
    match s.objects.lookup guid with
    | none => .error "That object is not in this house."
    | some o =>
      if o.houseId ≠ house.id then .error "That object is not in this house."
      else if isHouseFabric o then .error "That came with the house."
      else .ok (house, o)

/-- What a rearranging request does once it knows where every member goes. -/
def rearrange (placements : HouseObject F → List (HouseObject F) → Except String (List (Placement F))) : Reply (HouseMgr sv) :=
  match s.resolve p guid with
  | .error e => refuse s e
  | .ok (_, o) =>
    match placements o (s.groupMembers o) with
    | .error e => refuse s e
    | .ok all => s.placeAll all

def shifted (sv : Server F) (dx dy dz : F) (m : HouseObject F) : Placement F :=
  ⟨m.guid, sv.add m.x dx, sv.add m.y dy, sv.add m.z dz, m.o, sv.lit 0⟩

def dragObject : Reply (HouseMgr sv) :=
  s.rearrange p guid fun o members =>
    .ok (members.map (shifted sv (sv.sub p.x o.x) (sv.sub p.y o.y) (sv.sub (sv.add p.z (sv.lit HOUSE_PLACE_LIFT)) o.z)))

def offsetObject (dx dy dz : F) : Reply (HouseMgr sv) :=
  s.rearrange p guid fun _ members =>
    let far := fun d => sv.lt (sv.lit HOUSE_MAX_NUDGE) (sv.fabs d)
    if far dx || far dy || far dz then .error "Too far." else .ok (members.map (shifted sv dx dy dz))

def turnObject (degrees : F) (faceMe : Bool) : Reply (HouseMgr sv) :=
  s.rearrange p guid fun o members =>
    let from_ := if faceMe then p.o else o.o
    let theta := sv.sub (sv.add from_ (sv.mul degrees (sv.div sv.pi (sv.lit 180)))) o.o
    let c := sv.cos theta
    let n := sv.sin theta
    .ok (members.map fun m =>
      let rx := sv.sub m.x o.x
      let ry := sv.sub m.y o.y
      ⟨m.guid, sv.sub (sv.add o.x (sv.mul rx c)) (sv.mul ry n), sv.add (sv.add o.y (sv.mul rx n)) (sv.mul ry c), m.z,
        sv.add m.o theta, sv.lit 0⟩)

def baseScale (sv : Server F) (goEntry : UInt32) : F :=
  match sv.getGameObjectInfo goEntry with
  | some info => if sv.lt (sv.lit 0) info.size then info.size else sv.lit 1
  | none => sv.lit 1

def currentScale (sv : Server F) (o : HouseObject F) : F := if sv.lt (sv.lit 0) o.scale then o.scale else baseScale sv o.goEntry

def scaledMember (sv : Server F) (o : HouseObject F) (wanted f : F) (m : HouseObject F) : Except String (Placement F) :=
  if m.guid = o.guid then .ok ⟨m.guid, m.x, m.y, m.z, m.o, wanted⟩
  else
    let mWanted := sv.mul (currentScale sv m) f
    if sv.lt mWanted (sv.lit (1 / 10)) then .error "Too small for one of the pieces."
    else if sv.lt (sv.lit 50) mWanted then .error "Too big for one of the pieces."
    else .ok ⟨m.guid, sv.add o.x (sv.mul (sv.sub m.x o.x) f), sv.add o.y (sv.mul (sv.sub m.y o.y) f),
      sv.add o.z (sv.mul (sv.sub m.z o.z) f), m.o, mWanted⟩

def scaleObject (factor : F) (relative : Bool) : Reply (HouseMgr sv) :=
  s.rearrange p guid fun o members =>
    let current := currentScale sv o
    let wanted := sv.mul (if relative then current else baseScale sv o.goEntry) factor
    let wanted := if sv.lt wanted (sv.lit (1 / 10)) then sv.lit (1 / 10) else wanted
    let wanted := if sv.lt (sv.lit 50) wanted then sv.lit 50 else wanted
    members.mapM (scaledMember sv o wanted (sv.div wanted current))

/-- `group_no` of one piece, in memory and in its row. -/
def setGroupNo (no : UInt32) (s : HouseMgr sv) (guid : UInt32) : HouseMgr sv :=
  match s.objects.lookup guid with
  | none => s
  | some o =>
    { s with
      objects := s.objects.insert guid { o with groupNo := no }
      db := { s.db with houseObject := updateRows s.db.houseObject (fun r => r.guid = o.guid) fun r => { r with groupNo := no } } }

def joinGroup (guid withGuid : UInt32) : Reply (HouseMgr sv) :=
  if guid = withGuid then refuse s "Choose a different piece to group with."
  else match s.resolve p guid with
    | .error e => refuse s e
    | .ok (_, o) =>
      match s.resolve p withGuid with
      | .error e => refuse s e
      | .ok (house, with_) =>
        let mine := s.groupMembers o
        let theirs := s.groupMembers with_
        if with_.guid ∈ mine.map HouseObject.guid then refuse s "Those are already grouped."
        else if HOUSE_GROUP_MAX < mine.length + theirs.length then
          refuse s s!"A group holds at most {HOUSE_GROUP_MAX} pieces."
        else
          let target := if 1 < theirs.length then with_.groupNo else if 1 < mine.length then o.groupNo else s.allocateGroupNo house
          -- a piece that has the number already is not written again
          let change := (mine ++ theirs).filter fun m => m.groupNo ≠ target
          done (Runs.run (setGroupNo target) s (change.map HouseObject.guid))

/-- `objectLabel` is how a refusal names a piece. -/
def leaveGroup (objectLabel : UInt32 → String) : Reply (HouseMgr sv) :=
  match s.resolve p guid with
  | .error e => refuse s e
  | .ok (_, o) =>
    let members := s.groupMembers o
    if members.length < 2 then refuse s (objectLabel guid ++ " is not in a group.")
    else
      let release := if members.length = 2 then 2 else 1
      done (Runs.run (setGroupNo 0) s ((members.take release).map HouseObject.guid))

/-- `PurgeObject`: the row, the entry in the list of the house and the piece itself go. -/
def purgeObject (houseId : UInt32) (s : HouseMgr sv) (guid : UInt32) : HouseMgr sv :=
  match s.objects.lookup guid with
  | none => s
  | some _ =>
    let s := { s with db := { s.db with houseObject := s.db.houseObject.deleteWhere fun r => r.guid = guid } }
    let s := s.modifyHouse houseId fun h => { h with objects := h.objects.filter (· ≠ guid) }
    { s with objects := s.objects.erase guid }

def purgeObjects (house : House F) : HouseMgr sv := Runs.run (purgeObject house.id) s house.objects

end HouseMgr

end ComfyCraft
