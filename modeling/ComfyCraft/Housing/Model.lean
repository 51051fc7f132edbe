import ComfyCraft.Lib.Rows
import ComfyCraft.Lib.Runs
import ComfyCraft.Inventory.Player

/-! Player housing: the houses, templates, entrances, furniture and animals that the manager keeps in
memory, and the tables each change is written to as it is made. A coordinate is a value of an arbitrary
type with the operations the code uses; what a `FLOAT` column gives back for it is a function of its
own. Left out are the live objects on the maps, what a player has selected or marked, and the columns
that nothing reads back. -/

namespace ComfyCraft

/-- The arithmetic of `float`, as far as housing uses it. -/
structure FloatOps (F : Type) where
  lit : ℚ → F
  pi : F
  add : F → F → F
  sub : F → F → F
  mul : F → F → F
  div : F → F → F
  cos : F → F
  sin : F → F
  fabs : F → F
  lt : F → F → Bool
  beq : F → F → Bool
  normalizeOrientation : F → F
  isValidMapCoord : F → F → F → F → Bool

def HOUSE_MAP_ID : UInt32 := 28
def HOUSE_GO_GUID_MIN : UInt32 := 8000000
def HOUSE_GO_GUID_MAX : UInt32 := 12000000
def HOUSE_MAX_OBJECTS : Nat := 100
def HOUSE_CRITTER_GUID_MIN : UInt32 := 8000000
def HOUSE_CRITTER_GUID_MAX : UInt32 := 8100000
def HOUSE_MAX_CRITTERS : Nat := 10
def HOUSE_CRITTER_WANDER_MAX : ℚ := 20
def HOUSE_STORAGE_MAX : UInt32 := 1000
def HOUSE_PLACE_DISTANCE : ℚ := 2
def HOUSE_PLACE_DISTANCE_MAX : ℚ := 40
def HOUSE_PLACE_HEIGHT_MAX : ℚ := 20
def HOUSE_PLACE_LIFT : ℚ := 1 / 40
def HOUSE_MAX_NUDGE : ℚ := 100
def HOUSE_GROUP_MAX : Nat := 40
def HOUSE_PORTAL_PLACE_DISTANCE : ℚ := 3
def HOUSE_PORTAL_GUID_MIN : UInt32 := HOUSE_GO_GUID_MAX - 1000
def HOUSE_PORTAL_GUID_MAX : UInt32 := HOUSE_GO_GUID_MAX - 1
def HOUSE_PORTAL_MAX_ID : UInt32 := 999
def HOUSE_TEMPLATE_ACCOUNT_MAX : UInt32 := 0xFFFFFFFE
def HOUSE_TEMPLATE_ACCOUNT_MIN : UInt32 := 0xFFFF0000

inductive HouseObjectSource
  | player
  | template
deriving DecidableEq

/-- A piece of furniture; a row of `house_object` has the same columns. -/
structure HouseObject (F : Type) where
  guid : UInt32
  houseId : UInt32
  slot : UInt32
  groupNo : UInt32
  goEntry : UInt32
  itemEntry : UInt32
  x : F
  y : F
  z : F
  o : F
  rot0 : F
  rot1 : F
  rot2 : F
  rot3 : F
  scale : F
  source : HouseObjectSource

/-- An animal; a row of `house_critter` has the same columns. -/
structure HouseCritter (F : Type) where
  guid : UInt32
  houseId : UInt32
  slot : UInt32
  entry : UInt32
  itemEntry : UInt32
  customName : List UInt8
  x : F
  y : F
  z : F
  o : F
  wander : F

def isHouseFabric {F : Type} (o : HouseObject F) : Bool := o.source = .template

structure HouseExit (F : Type) where
  exitSet : Bool
  exitX : F
  exitY : F
  exitZ : F
  exitO : F

structure House (F : Type) where
  id : UInt32
  accountId : UInt32
  portalId : UInt32
  instanceId : UInt32
  objects : List UInt32
  critters : List UInt32
  templateId : UInt32
  authorsTemplate : UInt32
  exit : HouseExit F

/-- A template; its objects are the frozen rows that stamping copies. -/
structure HouseTemplate (F : Type) where
  id : UInt32
  name : String
  houseId : UInt32
  exit : HouseExit F
  objects : List (HouseObject F)

/-- An entrance; a row of `house_portal` has the same columns. -/
structure HousePortal (F : Type) where
  id : UInt32
  map : UInt32
  x : F
  y : F
  z : F
  o : F
  name : String
  templateId : UInt32

structure FurnitureItem (F : Type) where
  goEntry : UInt32
  scale : F

structure CritterItem (F : Type) where
  critterEntry : UInt32
  wander : F

structure GameObjectInfo (F : Type) where
  displayId : UInt32
  size : F

/-- What housing finds around itself: the arithmetic, what the database makes of a coordinate and of a
name, and the catalogues. The name of an entrance is refused, or kept in full or in part. The catalogues of
items are in the order of their keys. -/
structure Server (F : Type) extends FloatOps F where
  column : F → F
  column_zero : column (lit 0) = lit 0
  collate : String → String
  portalName : String → Option String
  enabled : Bool
  crittersEnabled : Bool
  getGameObjectInfo : UInt32 → Option (GameObjectInfo F)
  hasDisplayInfo : UInt32 → Bool
  isCreature : UInt32 → Bool
  isCritter : UInt32 → Bool
  furnitureItems : List (UInt32 × FurnitureItem F)
  critterItems : List (UInt32 × CritterItem F)

structure HouseRow (F : Type) where
  id : UInt32
  account : UInt32
  instanceId : UInt32
  portalId : UInt32
  templateId : UInt32
  exit : HouseExit F

structure TemplateRow (F : Type) where
  id : UInt32
  name : String
  houseId : UInt32
  exit : HouseExit F

structure TemplateObjectRow (F : Type) where
  templateId : UInt32
  goEntry : UInt32
  x : F
  y : F
  z : F
  o : F
  rot0 : F
  rot1 : F
  rot2 : F
  rot3 : F
  scale : F

structure StorageRow where
  account : UInt32
  slot : UInt32
  itemEntry : UInt32
deriving DecidableEq

abbrev StorageRows := Rows StorageRow (UInt32 × UInt32) fun r => (r.account, r.slot)

/-- The statements on `house_storage`. -/
inductive StorageStmt
  | replace (row : StorageRow)
  | insert (row : StorageRow)
  | delete (account : UInt32) (squares : List UInt32)
deriving DecidableEq

def StorageStmt.execute : StorageStmt → StorageRows → Option StorageRows
  | .replace row, t => (t.deleteWhere fun r => r.account = row.account && r.slot = row.slot).insert row
  | .insert row, t => t.insert row
  | .delete account squares, t => some (t.deleteWhere fun r => r.account = account && squares.contains r.slot)

/-- The tables of housing. The first field of an `AUTO_INCREMENT` pair is the next id, 0 when they
are used up. What goes to `house_storage` is listed as it is queued; a transaction is one entry. -/
structure HouseTables {F : Type} (sv : Server F) where
  houseNext : UInt32
  house : Rows (HouseRow F) UInt32 HouseRow.account
  houseObject : Rows (HouseObject F) UInt32 HouseObject.guid
  houseCritter : Rows (HouseCritter F) UInt32 HouseCritter.guid
  templateNext : UInt32
  houseTemplate : Rows (TemplateRow F) String fun r => sv.collate r.name
  houseTemplateObject : List (TemplateObjectRow F)
  portalNext : UInt32
  housePortal : List (HousePortal F)
  storageOps : List (Bool × List StorageStmt)

structure HouseMgr {F : Type} (sv : Server F) where
  nextObjectGuid : UInt32
  nextCritterGuid : UInt32
  houses : Table UInt32 (House F)
  houseByAccount : Table UInt32 UInt32
  houseByInstance : Table UInt32 UInt32
  objects : Table UInt32 (HouseObject F)
  critters : Table UInt32 (HouseCritter F)
  houseTemplates : Table UInt32 (HouseTemplate F)
  templateByName : Table String UInt32
  portals : Table UInt32 (HousePortal F)
  storage : Table UInt32 (Table UInt32 UInt32)
  db : HouseTables sv

/-- The player a request comes from: session, place and what the request's own values are. Real accounts
are far below those the templates' houses are entered under. -/
structure Visitor (F : Type) where
  accountId : UInt32
  account_lt : accountId < HOUSE_TEMPLATE_ACCOUNT_MIN
  developer : Bool
  inWorld : Bool
  mapId : UInt32
  instanceId : UInt32
  inCombat : Bool
  x : F
  y : F
  z : F
  o : F
  /-- `IsWithinDist3d` of a point. -/
  within : F → F → F → F → Bool
  mark : Option (F × F × F)
  markHide : F
  /-- What `GenerateInstanceId` answers. -/
  newInstanceId : UInt32

namespace HouseMgr

variable {F : Type} {sv : Server F}

def empty (sv : Server F) : HouseMgr sv where
  nextObjectGuid := HOUSE_GO_GUID_MIN
  nextCritterGuid := if sv.crittersEnabled then HOUSE_CRITTER_GUID_MIN else 0
  houses := ∅
  houseByAccount := ∅
  houseByInstance := ∅
  objects := ∅
  critters := ∅
  houseTemplates := ∅
  templateByName := ∅
  portals := ∅
  storage := ∅
  db := ⟨1, Rows.empty, Rows.empty, Rows.empty, 1, Rows.empty, [], 1, [], []⟩

variable (s : HouseMgr sv) (id : UInt32)

def getHouseById : Option (House F) := s.houses.lookup id

def getHouseByAccount (accountId : UInt32) : Option (House F) :=
  (s.houseByAccount.lookup accountId).bind s.getHouseById

def getHouseByInstance (instanceId : UInt32) : Option (House F) :=
  (s.houseByInstance.lookup instanceId).bind s.getHouseById

def getHouseAt (p : Visitor F) : Option (House F) :=
  if !p.inWorld || p.mapId ≠ HOUSE_MAP_ID then none else s.getHouseByInstance p.instanceId

def getTemplate : Option (HouseTemplate F) := s.houseTemplates.lookup id

def getPortal : Option (HousePortal F) := s.portals.lookup id

def getObject (guid : UInt32) : Option (HouseObject F) := s.objects.lookup guid

def modifyHouse (f : House F → House F) : HouseMgr sv :=
  match s.houses.lookup id with
  | some h => { s with houses := s.houses.insert id (f h) }
  | none => s

/-- `INSERT`; a duplicate key is an error that the server logs and goes on from. -/
def insertRow {R K : Type} {key : R → K} [DecidableEq K] (t : Rows R K key) (r : R) : Rows R K key := (t.insert r).getD t

/-- `UPDATE`, with the same treatment of errors. -/
def updateRows {R K : Type} {key : R → K} [DecidableEq K] (t : Rows R K key) (p : R → Bool) (f : R → R) : Rows R K key :=
  (t.updateWhere p f).getD t

end HouseMgr

end ComfyCraft
