import ComfyCraft.Housing.Houses

/-! The instances of the house map: the tables that name them, what a restart does to these, and the ways
a character comes to be bound to one. What has respawned in an instance and the corpses left in one are
left out, and what a clock says of a row is part of the step. -/

namespace ComfyCraft

def RESERVED_INSTANCES_LAST : UInt32 := 100

/-- A row of `instance`. -/
structure InstanceRow where
  id : UInt32
  map : UInt32
deriving DecidableEq

/-- A row of `character_instance`. -/
structure CharacterInstance where
  guid : UInt32
  instanceId : UInt32
  permanent : Bool
deriving DecidableEq

/-- A row of `group_instance`. -/
structure GroupInstance where
  leaderGuid : UInt32
  instanceId : UInt32
  permanent : Bool
deriving DecidableEq

structure InstanceTables where
  instances : Rows InstanceRow UInt32 InstanceRow.id
  characterInstance : Rows CharacterInstance (UInt32 × UInt32) fun b => (b.guid, b.instanceId)
  groupInstance : Rows GroupInstance (UInt32 × UInt32) fun b => (b.leaderGuid, b.instanceId)

/-- The maps there are; a continent is no dungeon, and without the house map there is no housing. -/
structure MapStorage {F : Type} (sv : Server F) where
  isDungeon : UInt32 → Bool
  continent : ∀ map ≤ 1, isDungeon map = false
  house : sv.enabled = true → isDungeon HOUSE_MAP_ID = true

/-- What a restart finds besides the tables: the instances whose time is over, and the leaders of groups. -/
structure Restart where
  expired : List UInt32
  leaders : List UInt32

namespace InstanceTables

variable (t : InstanceTables)

/-- The map of an instance; an outer join gives 0 where there is no row. -/
def mapOf (id : UInt32) : UInt32 := ((t.instances.lookup id).map InstanceRow.map).getD 0

def deleteInstanceFromDB (id : UInt32) : InstanceTables :=
  if id = 0 then t
  else
    { instances := t.instances.deleteWhere fun r => r.id = id
      characterInstance := t.characterInstance.deleteWhere fun b => b.instanceId = id
      groupInstance := t.groupInstance.deleteWhere fun b => b.instanceId = id }

/-- `LoadResetTimes`: what is on no dungeon map goes with its binds, and what has expired without them. -/
def loadResetTimes (isDungeon : UInt32 → Bool) (expired : List UInt32) : InstanceTables :=
  let t := (t.instances.rows.filter fun r => !isDungeon r.map).foldl (fun t r => t.deleteInstanceFromDB r.id) t
  { t with instances := t.instances.deleteWhere fun r => expired.contains r.id }

/-- `CleanupInstances`; its statements were all selected before the first of them ran. -/
def cleanupInstances (isDungeon : UInt32 → Bool) (characters : Table UInt32 UInt32) (e : Restart) :
    InstanceTables :=
  let t := t.loadResetTimes isDungeon e.expired
  { instances := t.instances.deleteWhere fun r =>
      !(t.characterInstance.rows.any fun b => b.instanceId = r.id) && !(t.groupInstance.rows.any fun b => b.instanceId = r.id)
    characterInstance := t.characterInstance.deleteWhere fun b =>
      (characters.lookup b.guid).isNone || (t.instances.lookup b.instanceId).isNone
    groupInstance := t.groupInstance.deleteWhere fun b =>
      !e.leaders.contains b.leaderGuid || (t.instances.lookup b.instanceId).isNone }

def rename (p : UInt32 → Bool) (f : UInt32 → UInt32) : InstanceTables :=
  Transaction.commit t
    [fun t => (t.characterInstance.updateWhere (fun b => p b.instanceId) fun b => { b with instanceId := f b.instanceId }).map
      fun rows => { t with characterInstance := rows },
    fun t => (t.instances.updateWhere (fun r => p r.id) fun r => { r with id := f r.id }).map fun rows => { t with instances := rows },
    fun t => (t.groupInstance.updateWhere (fun b => p b.instanceId) fun b => { b with instanceId := f b.instanceId }).map
      fun rows => { t with groupInstance := rows }]

def shiftable (id : UInt32) : Bool := id.toNat + RESERVED_INSTANCES_LAST.toNat < 2 ^ 32

/-- The first transaction of `PackInstances`: every id out of the way of the new ones. -/
def shift : InstanceTables :=
  if (t.instances.rows.all fun r => shiftable r.id) && (t.characterInstance.rows.all fun b => shiftable b.instanceId) &&
      t.groupInstance.rows.all fun b => shiftable b.instanceId then
    let t := t.rename (fun _ => true) (· + RESERVED_INSTANCES_LAST)
    { t with instances := t.instances.deleteWhere fun r => r.map ≤ 1 }
  else t

/-- The instances, in ascending order, get the numbers from `number` on. -/
def renumber : UInt32 → List UInt32 → InstanceTables → InstanceTables
  | _, [], t => t
  | number, i :: ids, t => renumber (number + 1) ids (if i ≠ number then t.rename (· = i) (fun _ => number) else t)

def instanceSet : List UInt32 := (t.instances.rows.map InstanceRow.id).insertionSort (· ≤ ·)

def packInstances : InstanceTables := renumber RESERVED_INSTANCES_LAST t.shift.instanceSet t.shift

/-- `InitMaxInstanceId`. -/
def maxInstanceId : UInt32 := (t.instances.rows.map InstanceRow.id).foldl max RESERVED_INSTANCES_LAST

end InstanceTables

namespace HouseMgr

variable {F : Type} {sv : Server F}

variable (s : HouseMgr sv)

/-- A house as its row gives it; what stands in it is read afterwards. -/
def loadHouse (r : HouseRow F) : HouseMgr sv :=
  { s with
    houses := s.houses.insert r.id ⟨r.id, r.account, r.portalId, r.instanceId, [], [], r.templateId, 0, r.exit⟩
    houseByAccount := s.houseByAccount.insert r.account r.id }

def loadHouses : HouseMgr sv :=
  s.db.house.rows.foldl loadHouse { s with houses := ∅, houseByAccount := ∅, houseByInstance := ∅ }

/-- One house of the last loop of `LoadFromDB`; `named` is the query for a row of the house map. -/
def checkInstance (named : UInt32 → Bool) (s : HouseMgr sv) (id : UInt32) : HouseMgr sv :=
  match s.getHouseById id with
  | none => s
  | some h =>
    if h.instanceId = 0 then s
    else if named h.instanceId then { s with houseByInstance := s.houseByInstance.insert h.instanceId h.id }
    else (s.modifyHouse h.id fun h => { h with instanceId := 0 }).updateHouseRow h.id fun r => { r with instanceId := 0 }

/-- `LoadFromDB`, as far as the houses and their instances go. -/
def loadFromDB (named : UInt32 → Bool) : HouseMgr sv :=
  if !sv.enabled then { s with houses := ∅, houseByAccount := ∅, houseByInstance := ∅ }
  else (s.loadHouses.houses.ordered.map Sigma.fst).foldl (checkInstance named) s.loadHouses

end HouseMgr

structure Bound where
  instanceId : UInt32
  perm : Bool
deriving DecidableEq

structure HouseRealm {F : Type} (sv : Server F) where
  mgr : HouseMgr sv
  maxInstanceId : UInt32
  tables : InstanceTables
  characters : Table UInt32 UInt32
  boundInstances : Table UInt32 (Table UInt32 Bound)

inductive HouseStep (F : Type)
  | login (guid : UInt32) (inGroup : Bool)
  | logout (guid : UInt32)
  | goHome (guid : UInt32) (p : Visitor F)
  /-- Somebody enters a map that they have no bind for, and is bound to a new instance of it. -/
  | enterNew (guid map : UInt32) (permanent : Bool)
  | cleanUp (id : UInt32)
  | restart (e : Restart)

namespace HouseRealm

variable {F : Type} {sv : Server F} (maps : MapStorage sv)

/-- One row of `_LoadBoundInstances`. -/
def loadBind (inGroup : Bool) (s : HouseRealm sv) (b : CharacterInstance) : HouseRealm sv :=
  let map := s.tables.mapOf b.instanceId
  if !maps.isDungeon map || !b.permanent && inGroup then
    { s with
      tables := { s.tables with
        characterInstance := s.tables.characterInstance.deleteWhere fun r => r.guid = b.guid && r.instanceId = b.instanceId } }
  else
    { s with
      boundInstances :=
        s.boundInstances.insert b.guid (((s.boundInstances.lookup b.guid).getD ∅).insert map ⟨b.instanceId, b.permanent⟩) }

variable (s : HouseRealm sv) (guid : UInt32)

def login (inGroup : Bool) : HouseRealm sv :=
  (s.tables.characterInstance.rows.filter fun b => b.guid = guid).foldl (loadBind maps inGroup)
    { s with boundInstances := s.boundInstances.insert guid ∅ }

/-- What `BindToInstance` writes. -/
def writeBind (t : InstanceTables) (guid : UInt32) (bind : Option Bound) (instanceId : UInt32) (permanent : Bool) : InstanceTables :=
  match bind with
  | some old =>
    if permanent ≠ old.perm ∨ instanceId ≠ old.instanceId then
      { t with
        characterInstance := HouseMgr.updateRows t.characterInstance (fun b => b.guid = guid && b.instanceId = old.instanceId)
          fun b => { b with instanceId := instanceId, permanent := permanent } }
    else t
  | none => { t with characterInstance := HouseMgr.insertRow t.characterInstance ⟨guid, instanceId, permanent⟩ }

def bindToInstance (binds : Table UInt32 Bound) (map instanceId : UInt32) (permanent : Bool) :
    HouseRealm sv :=
  { s with
    tables := writeBind s.tables guid (binds.lookup map) instanceId permanent
    boundInstances := s.boundInstances.insert guid (binds.insert map ⟨instanceId, permanent⟩) }

/-- `GenerateInstanceId`, and the row of `instance` that the new id is put in. -/
def addInstance (instances : Rows InstanceRow UInt32 InstanceRow.id) (map : UInt32) : HouseRealm sv :=
  { s with
    maxInstanceId := s.maxInstanceId + 1
    tables := { s.tables with instances := HouseMgr.insertRow instances ⟨s.maxInstanceId + 1, map⟩ } }

/-- `SendPlayerHome`, for the session a character is played in. -/
def goHome (p : Visitor F) : HouseRealm sv :=
  match s.boundInstances.lookup guid with
  | none => s
  | some binds =>
    if s.characters.lookup guid ≠ some p.accountId then s
    else match s.mgr.getHouseByAccount p.accountId, s.mgr.sendPlayerHome { p with newInstanceId := s.maxInstanceId + 1 } with
      | some house, (.ok (), mgr) =>
        if house.instanceId = 0 then
          -- a `REPLACE`, where any other instance is inserted
          let others := s.tables.instances.deleteWhere fun r => r.id = s.maxInstanceId + 1
          ({ s with mgr := mgr }.addInstance others HOUSE_MAP_ID).bindToInstance guid binds HOUSE_MAP_ID (s.maxInstanceId + 1) true
        else { s with mgr := mgr }.bindToInstance guid binds HOUSE_MAP_ID house.instanceId true
      | _, (_, mgr) => { s with mgr := mgr }

def enterNew (guid map : UInt32) (permanent : Bool) : HouseRealm sv :=
  match s.boundInstances.lookup guid with
  | none => s
  | some binds =>
    if !maps.isDungeon map || (binds.lookup map).isSome then s
    else (s.addInstance s.tables.instances map).bindToInstance guid binds map (s.maxInstanceId + 1) permanent

/-- `_ResetInstance`: the players bound to the instance lose their binds, and then the rows go. -/
def cleanUp (id : UInt32) : HouseRealm sv :=
  { s with
    tables := s.tables.deleteInstanceFromDB id
    boundInstances := s.boundInstances.mapValues fun binds => binds.keep fun _ b => b.instanceId ≠ id }

def restart (e : Restart) : HouseRealm sv :=
  let t := (s.tables.cleanupInstances maps.isDungeon s.characters e).packInstances
  { s with
    mgr := s.mgr.loadFromDB fun id => (t.instances.lookup id).any fun r => r.map = HOUSE_MAP_ID
    maxInstanceId := t.maxInstanceId
    tables := t
    boundInstances := ∅ }

def step : HouseStep F → HouseRealm sv
  | .login guid inGroup => s.login maps guid inGroup
  | .logout guid => { s with boundInstances := s.boundInstances.erase guid }
  | .goHome guid p => s.goHome guid p
  | .enterNew guid map permanent => s.enterNew maps guid map permanent
  | .cleanUp id => s.cleanUp id
  | .restart e => s.restart maps e

end HouseRealm

end ComfyCraft
