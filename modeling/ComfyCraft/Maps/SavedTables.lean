import ComfyCraft.Housing.Packing

/-! All tables that name instances: the instances and their binds, what has respawned in one and the corpses
in one. `CleanupInstances` and `PackInstances` over them, the statements of a transaction in their order. -/

namespace ComfyCraft

/-- A row of `creature_respawn` or `gameobject_respawn`. -/
structure RespawnRow where
  guid : UInt32
  instanceId : UInt32
deriving DecidableEq

/-- A row of `corpse`. -/
structure CorpseRow where
  guid : UInt32
  instanceId : UInt32
deriving DecidableEq

abbrev RespawnTable : Type := Rows RespawnRow (UInt32 × UInt32) fun r => (r.guid, r.instanceId)

structure SavedTables extends InstanceTables where
  creatureRespawn : RespawnTable
  gameobjectRespawn : RespawnTable
  corpse : Rows CorpseRow UInt32 CorpseRow.guid

/-- An `UPDATE` of the column that names an instance, in the rows that a test of it picks; a value that does
not fit is an error. -/
def setColumn {R K : Type} {key : R → K} [DecidableEq K] (t : Rows R K key) (column : R → UInt32) (set : R → UInt32 → R)
    (p : UInt32 → Bool) (f : UInt32 → UInt32) (fits : UInt32 → Bool) : Option (Rows R K key) :=
  if t.rows.all fun r => !p (column r) || fits (column r) then
    t.updateWhere (fun r => p (column r)) fun r => set r (f (column r))
  else none

namespace SavedTables

/-- The column of the respawns is a `mediumint`. -/
def respawnShiftable (id : UInt32) : Bool := id.toNat + RESERVED_INSTANCES_LAST.toNat < 2 ^ 24

def deleteInstanceFromDB (t : SavedTables) (id : UInt32) : SavedTables :=
  if id = 0 then t
  else
    { toInstanceTables := t.toInstanceTables.deleteInstanceFromDB id
      creatureRespawn := t.creatureRespawn.deleteWhere fun r => r.instanceId = id
      gameobjectRespawn := t.gameobjectRespawn.deleteWhere fun r => r.instanceId = id
      corpse := t.corpse }

/-- `CleanupInstances`: respawns of instances that are gone go after everything else, corpses stay. -/
def cleanupInstances (t : SavedTables) (isDungeon : UInt32 → Bool) (characters : Table UInt32 UInt32) (e : Restart) :
    SavedTables :=
  let loaded := (t.instances.rows.filter fun r => !isDungeon r.map).foldl (fun t r => t.deleteInstanceFromDB r.id) t
  let cleaned := t.toInstanceTables.cleanupInstances isDungeon characters e
  { toInstanceTables := cleaned
    creatureRespawn := loaded.creatureRespawn.deleteWhere fun r =>
      RESERVED_INSTANCES_LAST ≤ r.instanceId && (cleaned.instances.lookup r.instanceId).isNone
    gameobjectRespawn := loaded.gameobjectRespawn.deleteWhere fun r =>
      RESERVED_INSTANCES_LAST ≤ r.instanceId && (cleaned.instances.lookup r.instanceId).isNone
    corpse := loaded.corpse }

section Statements

variable (p : UInt32 → Bool) (f : UInt32 → UInt32) (fits : UInt32 → Bool) (t : SavedTables)

def setInstance : Option SavedTables :=
  (setColumn t.instances InstanceRow.id (fun r v => { r with id := v }) p f fits).map fun rows =>
    { t with instances := rows }

def setCreatureRespawn : Option SavedTables :=
  (setColumn t.creatureRespawn RespawnRow.instanceId (fun r v => { r with instanceId := v }) p f fits).map fun rows =>
    { t with creatureRespawn := rows }

def setGameobjectRespawn : Option SavedTables :=
  (setColumn t.gameobjectRespawn RespawnRow.instanceId (fun r v => { r with instanceId := v }) p f fits).map fun rows =>
    { t with gameobjectRespawn := rows }

def setCorpse : Option SavedTables :=
  (setColumn t.corpse CorpseRow.instanceId (fun r v => { r with instanceId := v }) p f fits).map fun rows =>
    { t with corpse := rows }

def setCharacterInstance : Option SavedTables :=
  (setColumn t.characterInstance CharacterInstance.instanceId (fun r v => { r with instanceId := v }) p f fits).map
    fun rows => { t with characterInstance := rows }

def setGroupInstance : Option SavedTables :=
  (setColumn t.groupInstance GroupInstance.instanceId (fun r v => { r with instanceId := v }) p f fits).map
    fun rows => { t with groupInstance := rows }

end Statements

/-- The first transaction of `PackInstances`. Respawns move from the reserved ids on, everything else whatever
its id is. -/
def shift (t : SavedTables) : SavedTables :=
  Transaction.commit t
    [setInstance (fun _ => true) (· + RESERVED_INSTANCES_LAST) InstanceTables.shiftable,
    setCreatureRespawn (RESERVED_INSTANCES_LAST ≤ ·) (· + RESERVED_INSTANCES_LAST) respawnShiftable,
    setGameobjectRespawn (RESERVED_INSTANCES_LAST ≤ ·) (· + RESERVED_INSTANCES_LAST) respawnShiftable,
    setCorpse (fun _ => true) (· + RESERVED_INSTANCES_LAST) InstanceTables.shiftable,
    setCharacterInstance (fun _ => true) (· + RESERVED_INSTANCES_LAST) InstanceTables.shiftable,
    setGroupInstance (fun _ => true) (· + RESERVED_INSTANCES_LAST) InstanceTables.shiftable,
    fun t => some { t with instances := t.instances.deleteWhere fun r => r.map ≤ 1 }]

def renameInstance (t : SavedTables) (i number : UInt32) : SavedTables :=
  Transaction.commit t
    [setCreatureRespawn (· = i) (fun _ => number) (fun _ => true),
    setGameobjectRespawn (· = i) (fun _ => number) (fun _ => true),
    setCorpse (· = i) (fun _ => number) (fun _ => true),
    setCharacterInstance (· = i) (fun _ => number) (fun _ => true),
    setInstance (· = i) (fun _ => number) (fun _ => true),
    setGroupInstance (· = i) (fun _ => number) (fun _ => true)]

def renumber : UInt32 → List UInt32 → SavedTables → SavedTables
  | _, [], t => t
  | number, i :: ids, t => renumber (number + 1) ids (if i ≠ number then t.renameInstance i number else t)

def packInstances (t : SavedTables) : SavedTables :=
  renumber RESERVED_INSTANCES_LAST t.shift.toInstanceTables.instanceSet t.shift

end SavedTables
end ComfyCraft
