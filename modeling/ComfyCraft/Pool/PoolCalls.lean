import ComfyCraft.Pool.PoolNesting
import ComfyCraft.Pool.PoolSpawn

/-! `SpawnPool` and `DespawnPool` call themselves for the children in the group lists, whatever those are. A call that is nested deeper than it has
fuel for gives nothing; where the lists have no circles there is always enough. -/

namespace ComfyCraft

open List Option Forest

namespace PoolManager

variable {F : Type}

section
variable (P : Pools F) (w : PoolWorld F)

def members (k : PoolKind) (p : Nat) : List (PoolObject F) := P.EqualChanced k p ++ P.ExplicitlyChanced k p

/-- `DespawnObject`: guid 0 is all of them. -/
def DespawnObject (Despawn1Object : Nat → SpawnedPoolData → Option SpawnedPoolData) (k : PoolKind) (p guid : Nat) (d : SpawnedPoolData) :
    Option SpawnedPoolData :=
  (members P k p).foldlM (fun d o =>
    if d.isSpawned k o.guid ∧ (guid = 0 ∨ o.guid = guid) then (Despawn1Object o.guid d).map fun d => d.removeSpawn k o.guid p else some d) d

section
variable [Sub F] [Zero F] [LT F] [DecidableLT F]

def RollOne (d : SpawnedPoolData) (k : PoolKind) (p triggerFrom : Nat) : Option (PoolObject F) :=
  let ok := PoolTable.eligible w d k triggerFrom
  match PoolTable.rollExplicit ok (w.dice d.rolled).1 (P.ExplicitlyChanced k p) with
  | some o => some o
  | none =>
    let possible := (P.EqualChanced k p).filter ok
    possible[(w.dice d.rolled).2 % possible.length]?

/-- One round of the loop of `SpawnObject`. -/
def spawnRound (Spawn1Object Despawn1Object : Nat → SpawnedPoolData → Option SpawnedPoolData) (k : PoolKind) (p sub_pool motherPool : Nat)
    (isTriggerSpawned : Bool) (s : Spawning) : Option Spawning :=
  let triggerFrom := if motherPool ≠ 0 then motherPool else s.triggerFrom
  let d := { s.data with rolled := s.data.rolled + 1 }
  match RollOne P w s.data k p triggerFrom with
  | none => some ⟨d, triggerFrom, s.lastDespawned⟩
  | some o =>
    if o.guid = s.lastDespawned then some ⟨d, triggerFrom, s.lastDespawned⟩
    else if o.guid = triggerFrom ∧ isTriggerSpawned then some ⟨d, 0, s.lastDespawned⟩
    else
      (Spawn1Object o.guid (d.addSpawn k o.guid p)).bind fun d =>
        if triggerFrom ≠ 0 ∧ isTriggerSpawned then
          let triggerFrom := if motherPool ≠ 0 then sub_pool else triggerFrom
          (DespawnObject P Despawn1Object k p triggerFrom d).map fun d => ⟨d, 0, triggerFrom⟩
        else some ⟨d, if triggerFrom = o.guid then 0 else triggerFrom, s.lastDespawned⟩

def rounds (round : Spawning → Option Spawning) : Nat → Spawning → Option Spawning
  | 0, s => some s
  | n + 1, s => (round s).bind (rounds round n)

def spawnLoaded (Spawn1Object : Nat → SpawnedPoolData → Option SpawnedPoolData) (k : PoolKind) (p : Nat) (count : Int) (d : SpawnedPoolData) :
    Option (Int × SpawnedPoolData) :=
  let objects := if (P.ExplicitlyChanced k p).isEmpty then P.EqualChanced k p else P.ExplicitlyChanced k p
  objects.foldlM (fun (c : Int × SpawnedPoolData) o =>
    if c.1 ≠ 0 ∧ PoolTable.hasRespawnTime w k o.guid then (Spawn1Object o.guid (c.2.addSpawn k o.guid p)).map fun d => (c.1 - 1, d)
    else some c) (count, d)

/-- `SpawnPoolGroup` and `SpawnObject`; `limit` is the spawn count of each pool at the time. -/
def SpawnObject (limit : Nat → Nat) (Spawn1Object Despawn1Object : Nat → SpawnedPoolData → Option SpawnedPoolData) (k : PoolKind)
    (p triggerFrom motherPool : Nat) (d : SpawnedPoolData) : Option SpawnedPoolData :=
  if (members P k p).isEmpty then some d
  else
    let isTriggerSpawned := d.isSpawned k triggerFrom
    let count := Int.bmod ((limit p : Int) - d.spawnedObjects p) (2 ^ 32)
    let start :=
      if triggerFrom ≠ 0 then some (if isTriggerSpawned then count + 1 else count, d)
      else if count ≠ 0 ∧ count = Int.bmod (limit p) (2 ^ 32) then spawnLoaded P w Spawn1Object k p count d
      else some (count, d)
    start.bind fun c =>
      (rounds (spawnRound P w Spawn1Object Despawn1Object k p triggerFrom motherPool isTriggerSpawned) c.1.toNat ⟨c.2, triggerFrom, 0⟩).map
        Spawning.data

end

def DespawnPool : Nat → Nat → SpawnedPoolData → Option SpawnedPoolData
  | 0, _, _ => none
  | fuel + 1, p, d =>
    (DespawnObject P (fun _ d => some d) .creature p 0 d).bind fun d =>
      (DespawnObject P (fun _ d => some d) .gameobject p 0 d).bind fun d =>
        DespawnObject P (DespawnPool fuel) .pool p 0 d

def SpawnPool [Sub F] [Zero F] [LT F] [DecidableLT F] (limit : Nat → Nat) : Nat → Nat → SpawnedPoolData → Option SpawnedPoolData
  | 0, _, _ => none
  | fuel + 1, p, d =>
    (SpawnObject P w limit (SpawnPool limit fuel) (DespawnPool P fuel) .pool p 0 p d).bind fun d =>
      (SpawnObject P w limit (fun _ d => some d) (fun _ d => some d) .gameobject p 0 0 d).bind fun d =>
        SpawnObject P w limit (fun _ d => some d) (fun _ d => some d) .creature p 0 0 d

end

/-! ### Calls for the members only -/

section
variable {P : Pools F} {w : PoolWorld F} {k : PoolKind} {p : Nat}

theorem foldlM_isSome {α σ : Type} {f : σ → α → Option σ} (l : List α) (h : ∀ x ∈ l, ∀ s, (f s x).isSome = true) (s : σ) :
    (l.foldlM f s).isSome = true := by
  induction l generalizing s with
  | nil => rfl
  | cons x l ih =>
    obtain ⟨s', hs'⟩ := isSome_iff_exists.1 (h x mem_cons_self s)
    rw [foldlM_cons, hs']
    exact ih (fun y hy => h y (mem_cons_of_mem x hy)) s'

/-- What is called for the members of a group comes back. -/
def Returns (P : Pools F) (k : PoolKind) (p : Nat) (call : Nat → SpawnedPoolData → Option SpawnedPoolData) : Prop :=
  ∀ o ∈ members P k p, ∀ d, (call o.guid d).isSome = true

theorem returns_some (P : Pools F) (k : PoolKind) (p : Nat) : Returns P k p fun _ d => some d := fun _ _ _ => rfl

variable {Spawn1Object Despawn1Object : Nat → SpawnedPoolData → Option SpawnedPoolData}

theorem DespawnObject_isSome (h : Returns P k p Despawn1Object) (guid : Nat) (d : SpawnedPoolData) :
    (DespawnObject P Despawn1Object k p guid d).isSome = true := by
  refine foldlM_isSome _ (fun o ho d => ?_) d
  split_ifs
  · rw [isSome_map]
    exact h o ho d
  · rfl

section
variable [Sub F] [Zero F] [LT F] [DecidableLT F] {motherPool sub_pool triggerFrom : Nat} {isTriggerSpawned : Bool}

theorem RollOne_mem {d : SpawnedPoolData} {o : PoolObject F} (h : RollOne P w d k p triggerFrom = some o) : o ∈ members P k p := by
  unfold RollOne at h
  dsimp only at h
  split at h
  · rename_i x hx
    cases h
    exact mem_append_right _ (PoolTable.rollExplicit_some hx).1
  · exact mem_append_left _ (mem_filter.1 (mem_of_getElem? h)).1

theorem spawnRound_isSome (hS : Returns P k p Spawn1Object) (hD : Returns P k p Despawn1Object) (s : Spawning) :
    (spawnRound P w Spawn1Object Despawn1Object k p sub_pool motherPool isTriggerSpawned s).isSome = true := by
  unfold spawnRound
  dsimp only
  generalize (if motherPool ≠ 0 then motherPool else s.triggerFrom) = triggerFrom
  split
  · rfl
  rename_i o hroll
  split
  · rfl
  split
  · rfl
  obtain ⟨d, hd⟩ := isSome_iff_exists.1 (hS o (RollOne_mem hroll) ({ s.data with rolled := s.data.rolled + 1 }.addSpawn k o.guid p))
  rw [hd, bind_some]
  split_ifs
  · rw [isSome_map]
    exact DespawnObject_isSome hD _ d
  · rw [isSome_map]
    exact DespawnObject_isSome hD _ d
  · rfl
  · rfl

theorem rounds_isSome {round : Spawning → Option Spawning} (h : ∀ s, (round s).isSome = true) (n : Nat) (s : Spawning) :
    (rounds round n s).isSome = true := by
  induction n generalizing s with
  | zero => rfl
  | succ n ih =>
    obtain ⟨s', hs'⟩ := isSome_iff_exists.1 (h s)
    unfold rounds
    rw [hs', bind_some]
    exact ih s'

omit [Sub F] [Zero F] [LT F] [DecidableLT F] in
theorem spawnLoaded_isSome (hS : Returns P k p Spawn1Object) (count : Int) (d : SpawnedPoolData) :
    (spawnLoaded P w Spawn1Object k p count d).isSome = true := by
  unfold spawnLoaded
  refine foldlM_isSome _ (fun o ho c => ?_) (count, d)
  have hmem : o ∈ members P k p := by
    split_ifs at ho
    · exact mem_append_left _ ho
    · exact mem_append_right _ ho
  split_ifs
  · rw [isSome_map]
    exact hS o hmem _
  · rfl

theorem SpawnObject_isSome (limit : Nat → Nat) (hS : Returns P k p Spawn1Object) (hD : Returns P k p Despawn1Object) (d : SpawnedPoolData) :
    (SpawnObject P w limit Spawn1Object Despawn1Object k p triggerFrom motherPool d).isSome = true := by
  unfold SpawnObject
  split
  · rfl
  dsimp only
  generalize hstart : (if triggerFrom ≠ 0 then _ else _ : Option (Int × SpawnedPoolData)) = start
  have hsome : start.isSome = true := by
    rw [← hstart]
    split_ifs
    · rfl
    · rfl
    · exact spawnLoaded_isSome hS _ d
    · rfl
  obtain ⟨c, hc⟩ := isSome_iff_exists.1 hsome
  rw [hc, bind_some, isSome_map]
  exact rounds_isSome (spawnRound_isSome hS hD) _ _

end

end

/-! ### Nested calls -/

section
variable {P : Pools F} {rank : Nat → Nat}

/-- The rank that the lists have when they have no circles. -/
def Ranked (P : Pools F) (rank : Nat → Nat) : Prop := ∀ p, ∀ o ∈ members P .pool p, rank o.guid < rank p

theorem DespawnPool_isSome (h : Ranked P rank) (fuel p : Nat) (hfuel : rank p < fuel) (d : SpawnedPoolData) :
    (DespawnPool P fuel p d).isSome = true := by
  induction fuel generalizing p d with
  | zero => exact absurd hfuel (Nat.not_lt_zero _)
  | succ fuel ih =>
    obtain ⟨d1, hd1⟩ := isSome_iff_exists.1 (DespawnObject_isSome (returns_some P .creature p) 0 d)
    obtain ⟨d2, hd2⟩ := isSome_iff_exists.1 (DespawnObject_isSome (returns_some P .gameobject p) 0 d1)
    unfold DespawnPool
    rw [hd1, bind_some, hd2, bind_some]
    refine DespawnObject_isSome (fun o ho d => ih o.guid ?_ d) 0 d2
    have hlt := h p o ho
    omega

theorem SpawnPool_isSome [Sub F] [Zero F] [LT F] [DecidableLT F] (h : Ranked P rank) (w : PoolWorld F) (limit : Nat → Nat) (fuel p : Nat)
    (hfuel : rank p < fuel) (d : SpawnedPoolData) : (SpawnPool P w limit fuel p d).isSome = true := by
  induction fuel generalizing p d with
  | zero => exact absurd hfuel (Nat.not_lt_zero _)
  | succ fuel ih =>
    have hlt : ∀ o ∈ members P .pool p, rank o.guid < fuel := by
      intro o ho
      have hlt := h p o ho
      omega
    have hS : Returns P .pool p (SpawnPool P w limit fuel) := fun o ho d => ih o.guid (hlt o ho) d
    have hD : Returns P .pool p (DespawnPool P fuel) := fun o ho d => DespawnPool_isSome h fuel o.guid (hlt o ho) d
    unfold SpawnPool
    have hpools : ∀ d, (SpawnObject P w limit (SpawnPool P w limit fuel) (DespawnPool P fuel) .pool p 0 p d).isSome = true :=
      SpawnObject_isSome limit hS hD
    have hobjects : ∀ d, (SpawnObject P w limit (fun _ d => some d) (fun _ d => some d) .gameobject p 0 0 d).isSome = true :=
      SpawnObject_isSome limit (returns_some P .gameobject p) (returns_some P .gameobject p)
    obtain ⟨d1, hd1⟩ := isSome_iff_exists.1 (hpools d)
    obtain ⟨d2, hd2⟩ := isSome_iff_exists.1 (hobjects d1)
    rw [hd1, bind_some, hd2, bind_some]
    exact SpawnObject_isSome limit (returns_some P .creature p) (returns_some P .creature p) d2

end

/-! ### The load -/

section
variable [Neg F] [Zero F] [NatCast F] [LT F] [DecidableLT F] [DecidableEq F]

theorem loadRow_max (P : Pools F) (row : PoolPoolRow F) : (loadRow P row).max_pool_id = P.max_pool_id := by
  unfold loadRow insertLink AddEntry
  dsimp only
  split_ifs
  · rfl
  · rfl
  · rfl
  all_goals split <;> rfl

theorem loadRows_max (rows : List (PoolPoolRow F)) (P : Pools F) : (loadRows P rows).max_pool_id = P.max_pool_id := by
  unfold loadRows
  induction rows generalizing P with
  | nil => rfl
  | cons row rows ih => exact (ih (loadRow P row)).trans (loadRow_max P row)

/-- Whatever rows there are, one for each child as its number is read: every walk of the pass ends, the groups and the search map say the same
after it, the groups have no circles, and with enough fuel `SpawnPool` and `DespawnPool` come back for every pool. -/
theorem nesting_terminates [Sub F] (lookup : Nat → Option MapEntry) (P : Pools F) (rows : List (PoolPoolRow F))
    (hempty : ∀ p, children P p = []) (hsearch : ∀ c, P.mPoolSearchMap c = none)
    (hunique : (rows.map fun row => GetUInt16 row.pool_id).Nodup) (fuel : Nat) (hfuel : P.max_pool_id < fuel) :
    let L := loadRows P rows
    let C := checkCircular lookup fuel L P.max_pool_id
    (∀ i < P.max_pool_id, (walk lookup fuel (checkCircular lookup fuel L i) i).poolItr = none) ∧
      (∀ c p, c ∈ children C p ↔ C.mPoolSearchMap c = some p) ∧
      (∀ c, ¬ Relation.TransGen (fun c p => c ∈ children C p) c c) ∧
      ∃ rank : Nat → Nat, (∀ c p, c ∈ children C p → rank c < rank p) ∧ ∀ p n, rank p < n → ∀ (w : PoolWorld F) (limit : Nat → Nat)
        (d : SpawnedPoolData), (SpawnPool C w limit n p d).isSome = true ∧ (DespawnPool C n p d).isSome = true := by
  intro L C
  have hstart : InStep P := by
    refine ⟨fun p => ?_, fun c p => ?_, fun c p hc => ?_⟩
    · rw [hempty]
      exact nodup_nil
    · rw [hempty, hsearch]
      exact ⟨fun hmem => absurd hmem not_mem_nil, fun hnone => by cases hnone⟩
    · rw [hsearch] at hc
      cases hc
  have hmax : L.max_pool_id = P.max_pool_id := loadRows_max rows P
  have hloaded : InStep L := loadRows_inStep rows hstart hunique fun row _ => hsearch _
  have hfuelL : L.max_pool_id < fuel := hmax ▸ hfuel
  obtain ⟨hstep, hmaxC, -⟩ := checkCircular_spec lookup hloaded hfuelL P.max_pool_id
  have hgrounded : ∀ c, Grounded C.mPoolSearchMap c := fun c => by
    have h := grounded_all lookup hloaded hfuelL c
    rwa [hmax] at h
  have hno : ∀ c, ¬ Below C.mPoolSearchMap c c := fun c => (hgrounded c).not_below
  refine ⟨fun i _ => ?_, hstep.same, fun c hcircle => ?_, ?_⟩
  · obtain ⟨hstepI, hmaxI, -⟩ := checkCircular_spec lookup hloaded hfuelL i
    exact walk_ends hstepI i (by rw [hmaxI]; exact hfuelL)
  · exact hno c (Relation.TransGen.mono (fun c p hmem => (hstep.same c p).1 hmem) c c hcircle)
  obtain ⟨rank, hrank⟩ := exists_rank (Finset.range (C.max_pool_id + 1))
    (fun c p hc => Finset.mem_range.2 (Nat.lt_succ_of_le (hstep.bounded c p hc).1)) hno
  have hchildren : ∀ c p, c ∈ children C p → rank c < rank p := fun c p hmem => hrank c p ((hstep.same c p).1 hmem)
  have hranked : Ranked C rank := fun p o ho => hchildren o.guid p (mem_map_of_mem ho)
  refine ⟨rank, hchildren, fun p n hn w limit d => ⟨?_, ?_⟩⟩
  · exact SpawnPool_isSome hranked w limit n p hn d
  · exact DespawnPool_isSome hranked n p hn d

end

namespace NestingSample

def empty : Pools Int where
  max_pool_id := 3
  MaxLimit := fun _ => 1
  mapEntry := fun _ => none
  ExplicitlyChanced := fun _ _ => []
  EqualChanced := fun _ _ => []
  mPoolSearchMap := fun _ => none

def circle : List (PoolPoolRow Int) := [⟨1, 2, 0, 0⟩, ⟨2, 3, 0, 0⟩, ⟨3, 1, 0, 0⟩]

theorem nesting_terminates_circle :
    ¬ Relation.TransGen (fun c p => c ∈ children (checkCircular (fun _ => none) 4 (loadRows empty circle) 3) p) 1 1 :=
  (nesting_terminates (fun _ => none) empty circle (fun _ => rfl) (fun _ => rfl) (by decide) 4 (by decide)).2.2.1 1

/-- The numbers of the children are all different, but two are read as 1; the search map has only the first. -/
def sameWhenRead : List (PoolPoolRow Int) := [⟨1, 2, 0, 0⟩, ⟨3, 1, 0, 0⟩, ⟨65537, 3, 0, 0⟩]

def loaded : Pools Int := checkCircular (fun _ => none) 4 (loadRows empty sameWhenRead) 3

theorem DespawnPool_only {p : Nat} {o : PoolObject Int} (hcreatures : members loaded .creature p = [])
    (hgameobjects : members loaded .gameobject p = []) (hpools : members loaded .pool p = [o]) (fuel : Nat) {d : SpawnedPoolData}
    (hmarked : d.isSpawned .pool o.guid = true) :
    DespawnPool loaded (fuel + 1) p d = (DespawnPool loaded fuel o.guid d).map fun d => d.removeSpawn .pool o.guid p := by
  have hnone : ∀ k call, members loaded k p = [] → DespawnObject loaded call k p 0 d = some d := by
    intro k call hk
    unfold DespawnObject
    rw [hk]
    rfl
  change (DespawnObject loaded _ .creature p 0 d).bind _ = _
  rw [hnone _ _ hcreatures, bind_some, hnone _ _ hgameobjects, bind_some]
  unfold DespawnObject
  rw [hpools]
  change (if d.isSpawned .pool o.guid = true ∧ _ then _ else _ : Option SpawnedPoolData).bind some = _
  rw [if_pos ⟨hmarked, Or.inl rfl⟩, bind_fun_some]

theorem circle_left : (sameWhenRead.map fun row => row.pool_id).Nodup ∧ 1 ∈ children loaded 3 ∧ 3 ∈ children loaded 1 ∧
      ∀ fuel d, d.isSpawned .pool 1 = true → d.isSpawned .pool 3 = true → DespawnPool loaded fuel 1 d = none := by
  refine ⟨by decide, by decide +kernel, by decide +kernel, fun fuel d h1 h3 => ?_⟩
  have hboth : ∀ fuel, DespawnPool loaded fuel 1 d = none ∧ DespawnPool loaded fuel 3 d = none := by
    intro fuel
    induction fuel with
    | zero => exact ⟨rfl, rfl⟩
    | succ fuel ih =>
      have hone := DespawnPool_only (p := 1) (o := ⟨3, 0, false⟩) rfl rfl rfl fuel h3
      have hthree := DespawnPool_only (p := 3) (o := ⟨1, 0, false⟩) rfl rfl rfl fuel h1
      rw [hone, hthree, ih.1, ih.2]
      exact ⟨rfl, rfl⟩
  exact (hboth fuel).1

end NestingSample

end PoolManager

end ComfyCraft
