import Mathlib.Algebra.Ring.Int.Defs
import Mathlib.Algebra.Ring.Nat
import Mathlib.Data.Finset.Basic

/-! Pools of spawns: of the creatures, gameobjects and child pools that a pool has, at most a limit is spawned at a
time, chosen by a roll. What is spawned on a map is kept as two sets and one map, in which a pool is spawned when it has
an entry, and the entry says how much of the pool is. -/

namespace ComfyCraft

inductive PoolKind
  | creature | gameobject | pool
deriving DecidableEq

/-- `flagged` is `FLAG_SPAWN_ENABLE_IF_WORLD_POP_OVER_BLIZZLIKE`; chances and rolls are numbers of any kind. -/
structure PoolObject (F : Type) where
  guid : Nat
  chance : F
  flagged : Bool

/-- The pools as they are loaded. `poolOf` is the search maps, with 0 for none; `rank` says how deep a pool reaches,
so that no pool is below itself. -/
structure PoolTable (F : Type) where
  maxLimit : Nat → Nat
  explicitlyChanced : PoolKind → Nat → List (PoolObject F)
  equalChanced : PoolKind → Nat → List (PoolObject F)
  poolOf : PoolKind → Nat → Nat
  rank : Nat → Nat
  height : Nat
  limit_lt : ∀ p, maxLimit p < 2 ^ 32
  length_lt : ∀ k p, (equalChanced k p ++ explicitlyChanced k p).length < 2 ^ 31
  listed : ∀ k p, ((equalChanced k p ++ explicitlyChanced k p).map PoolObject.guid).Nodup
  searched : ∀ k p g, (∃ o ∈ equalChanced k p ++ explicitlyChanced k p, o.guid = g) ↔ poolOf k g = p ∧ p ≠ 0 ∧ g ≠ 0
  acyclic : ∀ p, poolOf .pool p ≠ 0 → rank p < rank (poolOf .pool p)
  rank_le : ∀ p, rank p ≤ height

/-- What is marked as spawned on a map. `exclude` is the flag of each pool object; `rolled` counts the rolls taken. -/
structure SpawnedPoolData where
  creatures : Finset Nat
  gameobjects : Finset Nat
  pools : Nat → Option Nat
  exclude : PoolKind → Nat → Bool
  rolled : Nat

namespace SpawnedPoolData

def start : SpawnedPoolData := ⟨∅, ∅, fun _ => none, fun _ _ => false, 0⟩

variable (d : SpawnedPoolData)

def spawnedObjects (p : Nat) : Nat := (d.pools p).getD 0

def isSpawned : PoolKind → Nat → Bool
  | .creature, g => g ∈ d.creatures
  | .gameobject, g => g ∈ d.gameobjects
  | .pool, g => (d.pools g).isSome

/-- `++mSpawnedPools[pool_id]`, which makes the entry if there is none. -/
def increase (p : Nat) : SpawnedPoolData :=
  { d with pools := Function.update d.pools p (some (d.spawnedObjects p + 1)) }

def decrease (p : Nat) : SpawnedPoolData :=
  { d with pools := Function.update d.pools p (some (d.spawnedObjects p - 1)) }

def addSpawn : PoolKind → Nat → Nat → SpawnedPoolData
  | .creature, g, p => { d with creatures := insert g d.creatures }.increase p
  | .gameobject, g, p => { d with gameobjects := insert g d.gameobjects }.increase p
  | .pool, g, p => { d with pools := Function.update d.pools g (some 0) }.increase p

def removeSpawn : PoolKind → Nat → Nat → SpawnedPoolData
  | .creature, g, p => { d with creatures := d.creatures.erase g }.decrease p
  | .gameobject, g, p => { d with gameobjects := d.gameobjects.erase g }.decrease p
  | .pool, g, p => { d with pools := Function.update d.pools g none }.decrease p

end SpawnedPoolData

/-- What a call finds outside the pools: whether the realm is full enough for flagged objects, the respawn times that
are set, and the rolls, each with a number for the chances and an index. -/
structure PoolWorld (F : Type) where
  populated : Bool
  respawnTime : PoolKind → Nat → Bool
  dice : Nat → F × Nat

/-- The loop of `SpawnObject` between two rounds. -/
structure Spawning where
  data : SpawnedPoolData
  triggerFrom : Nat
  lastDespawned : Nat

namespace PoolTable

variable {F : Type} (T : PoolTable F) (w : PoolWorld F)

def members (k : PoolKind) (p : Nat) : List (PoolObject F) := T.equalChanced k p ++ T.explicitlyChanced k p

/-- `CanBeSpawned`, and not spawned yet or the trigger itself. -/
def eligible (d : SpawnedPoolData) (k : PoolKind) (triggerFrom : Nat) (o : PoolObject F) : Bool :=
  !d.exclude k o.guid && (!o.flagged || w.populated) && (o.guid = triggerFrom || !d.isSpawned k o.guid)

section
variable [Sub F] [Zero F] [LT F] [DecidableLT F]

/-- The loop of `RollOne` over the explicit chances. -/
def rollExplicit (ok : PoolObject F → Bool) (roll : F) : List (PoolObject F) → Option (PoolObject F)
  | [] => none
  | o :: os => if roll - o.chance < 0 ∧ ok o then some o else rollExplicit ok (roll - o.chance) os

def rollOne (d : SpawnedPoolData) (k : PoolKind) (p triggerFrom : Nat) : Option (PoolObject F) :=
  let ok := eligible w d k triggerFrom
  match rollExplicit ok (w.dice d.rolled).1 (T.explicitlyChanced k p) with
  | some o => some o
  | none =>
    let possible := (T.equalChanced k p).filter ok
    possible[(w.dice d.rolled).2 % possible.length]?

/-- `DespawnObject`: guid 0 is all of them. -/
def despawnObject (despawn1 : Nat → SpawnedPoolData → SpawnedPoolData) (k : PoolKind) (p guid : Nat) (d : SpawnedPoolData) :
    SpawnedPoolData :=
  (T.members k p).foldl (fun d o =>
    if d.isSpawned k o.guid ∧ (guid = 0 ∨ o.guid = guid) then (despawn1 o.guid d).removeSpawn k o.guid p else d) d

/-- One round of the loop of `SpawnObject`. -/
def spawnOne (spawn1 despawn1 : Nat → SpawnedPoolData → SpawnedPoolData) (k : PoolKind) (p subPool motherPool : Nat)
    (isTriggerSpawned : Bool) (s : Spawning) : Spawning :=
  let triggerFrom := if motherPool ≠ 0 then motherPool else s.triggerFrom
  let d := { s.data with rolled := s.data.rolled + 1 }
  match T.rollOne w s.data k p triggerFrom with
  | none => ⟨d, triggerFrom, s.lastDespawned⟩
  | some o =>
    if o.guid = s.lastDespawned then ⟨d, triggerFrom, s.lastDespawned⟩
    else if o.guid = triggerFrom ∧ isTriggerSpawned then ⟨d, 0, s.lastDespawned⟩
    else
      let d := spawn1 o.guid (d.addSpawn k o.guid p)
      if triggerFrom ≠ 0 ∧ isTriggerSpawned then
        -- one spawn one despawn; the trigger is redirected to the sub pool
        let triggerFrom := if motherPool ≠ 0 then subPool else triggerFrom
        ⟨T.despawnObject despawn1 k p triggerFrom d, 0, triggerFrom⟩
      else ⟨d, if triggerFrom = o.guid then 0 else triggerFrom, s.lastDespawned⟩

/-- `GetPoolObjectRespawnTime` is set; a pool has none. -/
def hasRespawnTime : PoolKind → Nat → Bool
  | .pool, _ => false
  | k, g => w.respawnTime k g

def spawnLoaded (spawn1 : Nat → SpawnedPoolData → SpawnedPoolData) (k : PoolKind) (p : Nat) (count : Int) (d : SpawnedPoolData) :
    Int × SpawnedPoolData :=
  let objects := if (T.explicitlyChanced k p).isEmpty then T.equalChanced k p else T.explicitlyChanced k p
  objects.foldl (fun (c : Int × SpawnedPoolData) o =>
    if c.1 ≠ 0 ∧ hasRespawnTime w k o.guid then (c.1 - 1, spawn1 o.guid (c.2.addSpawn k o.guid p)) else c) (count, d)

/-- `SpawnObject`; the count is a signed 32-bit number. -/
def spawnObject (spawn1 despawn1 : Nat → SpawnedPoolData → SpawnedPoolData) (k : PoolKind) (p triggerFrom motherPool : Nat)
    (d : SpawnedPoolData) : SpawnedPoolData :=
  let isTriggerSpawned := d.isSpawned k triggerFrom
  let count := Int.bmod ((T.maxLimit p : Int) - d.spawnedObjects p) (2 ^ 32)
  let (count, d) :=
    if triggerFrom ≠ 0 then (if isTriggerSpawned then count + 1 else count, d)
    else if count ≠ 0 ∧ count = Int.bmod (T.maxLimit p) (2 ^ 32) then T.spawnLoaded w spawn1 k p count d
    else (count, d)
  (Nat.iterate (T.spawnOne w spawn1 despawn1 k p triggerFrom motherPool isTriggerSpawned) count.toNat ⟨d, triggerFrom, 0⟩).data

/-- `DespawnPool` of a pool and all that is below it. -/
def despawnPool (p : Nat) (d : SpawnedPoolData) : SpawnedPoolData :=
  let d := T.despawnObject (fun _ d => d) .creature p 0 d
  let d := T.despawnObject (fun _ d => d) .gameobject p 0 d
  T.despawnObject (fun child d => if T.rank child < T.rank p then despawnPool child d else d) .pool p 0 d
termination_by T.rank p

/-- `SpawnPool`: the child pools first, then gameobjects, then creatures. -/
def spawnPool (p : Nat) (d : SpawnedPoolData) : SpawnedPoolData :=
  let d := T.spawnObject w (fun child d => if T.rank child < T.rank p then spawnPool child d else d) T.despawnPool .pool p 0 p d
  let d := T.spawnObject w (fun _ d => d) (fun _ d => d) .gameobject p 0 0 d
  T.spawnObject w (fun _ d => d) (fun _ d => d) .creature p 0 0 d
termination_by T.rank p

variable (k : PoolKind)

/-- `SpawnPoolGroup` for one child pool, creature or gameobject. -/
def spawnPoolGroup (p guid : Nat) (d : SpawnedPoolData) : SpawnedPoolData :=
  match k with
  | .pool => T.spawnObject w (T.spawnPool w) T.despawnPool .pool p guid p d
  | k => T.spawnObject w (fun _ d => d) (fun _ d => d) k p guid 0 d

/-- `UpdatePool`: what is in a child pool has that replaced as a whole. -/
def updatePool (p guid : Nat) (d : SpawnedPoolData) : SpawnedPoolData :=
  if T.poolOf .pool p ≠ 0 then T.spawnPoolGroup w .pool (T.poolOf .pool p) p d else T.spawnPoolGroup w k p guid d

end

end PoolTable

inductive PoolEvent (F : Type)
  | spawnPool (p : Nat) (w : PoolWorld F)
  | despawnPool (p : Nat)
  | creatureReady (guid : Nat) (w : PoolWorld F)
  | gameobjectReady (guid : Nat) (w : PoolWorld F)
  | deleteGameobject (guid : Nat)
  | setExclude (k : PoolKind) (guid : Nat) (state : Bool)

namespace PoolTable

variable {F : Type} [Sub F] [Zero F] [LT F] [DecidableLT F] (T : PoolTable F)

/-- Only top pools are spawned and despawned by themselves; a creature that is ready to respawn is one that is
spawned, and so is a gameobject, which `JustDespawnedWaitingRespawn` takes out of its pool first. -/
def step (d : SpawnedPoolData) : PoolEvent F → SpawnedPoolData
  | .spawnPool p w => if p ≠ 0 ∧ T.poolOf .pool p = 0 then T.spawnPool w p d else d
  | .despawnPool p => if p ≠ 0 ∧ T.poolOf .pool p = 0 then T.despawnPool p d else d
  | .creatureReady guid w =>
    if d.isSpawned .creature guid then T.updatePool w .creature (T.poolOf .creature guid) guid d else d
  | .gameobjectReady guid w =>
    if d.isSpawned .gameobject guid then
      T.updatePool w .gameobject (T.poolOf .gameobject guid) guid
        (T.despawnObject (fun _ d => d) .gameobject (T.poolOf .gameobject guid) guid d)
    else d
  | .deleteGameobject guid => T.despawnObject (fun _ d => d) .gameobject (T.poolOf .gameobject guid) guid d
  | .setExclude k guid state => { d with exclude := Function.update d.exclude k (Function.update (d.exclude k) guid state) }

end PoolTable

end ComfyCraft
