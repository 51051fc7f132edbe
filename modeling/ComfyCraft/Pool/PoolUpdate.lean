import ComfyCraft.Pool.PoolKept

/-! What `UpdatePool` does when a member that is spawned is ready to respawn. The member's place is given away in the first round of
`SpawnObject` in which the roll finds anything; a child pool is replaced as a whole, by a child of its mother that is not spawned. -/

namespace ComfyCraft

open List Function Bool Nat SpawnedPoolData

namespace PoolTable

variable {F : Type}

/-! ### The members of one pool -/

section
variable {T : PoolTable F} {d d' : SpawnedPoolData} {k : PoolKind} {g p : Nat}

theorem countP_lt {α : Type} {f f' : α → Bool} {l : List α} (h : ∀ x ∈ l, f x = true → f' x = true) {a : α} (ha : a ∈ l)
    (hold : f a = false)
    (hnew : f' a = true) : l.countP f < l.countP f' := by
  induction l with
  | nil => exact (not_mem_nil ha).elim
  | cons x l ih =>
    have hrest := fun y hy => h y (mem_cons_of_mem x hy)
    rw [countP_cons, countP_cons]
    rcases mem_cons.1 ha with rfl | ha
    · have hle := countP_mono_left hrest
      rw [hold, hnew, if_neg Bool.false_ne_true, if_pos rfl]
      omega
    have hlt := ih hrest ha
    have hx := h x mem_cons_self
    split_ifs with h1 h2
    · omega
    · exact absurd (hx h1) h2
    · omega
    · exact hlt

/-- Where marks are only added and a pool counts as many members, it has the same members spawned. -/
theorem same_members (hd : T.Counted d) (hd' : T.Counted d') (hmore : ∀ k g, d.isSpawned k g = true → d'.isSpawned k g = true)
    (hcount : d'.spawnedObjects p = d.spawnedObjects p) {o : PoolObject F} (ho : o ∈ T.members k p) :
    d'.isSpawned k o.guid = d.isSpawned k o.guid := by
  have hle : ∀ k, T.markedOf d k p ≤ T.markedOf d' k p := fun k => countP_mono_left fun x _ => hmore k x.guid
  have hc := hle .creature
  have hg := hle .gameobject
  have hp := hle .pool
  rw [hd.counts, hd'.counts] at hcount
  unfold marked at hcount
  cases hold : d.isSpawned k o.guid with
  | true => exact hmore k o.guid hold
  | false =>
    cases hnew : d'.isSpawned k o.guid with
    | false => rfl
    | true =>
      have hlt : T.markedOf d k p < T.markedOf d' k p := countP_lt (fun x _ => hmore k x.guid) ho hold hnew
      cases k <;> omega

variable {spawn1 despawn1 : Nat → SpawnedPoolData → SpawnedPoolData}

theorem Spawns.members (hS : T.Spawns spawn1 k p) (h : T.Counted d) (hmember : T.poolOf k g = p) (hg : g ≠ 0)
    (hnew : d.isSpawned k g = false) (hup : T.Up d p) :
    (spawn1 g (d.addSpawn k g p)).isSpawned k g = true ∧
      ∀ o ∈ T.members k p, o.guid ≠ g → (spawn1 g (d.addSpawn k g p)).isSpawned k o.guid = d.isSpawned k o.guid := by
  obtain ⟨hadded, hmore, -⟩ := hS.added h hmember hg hnew hup
  refine ⟨hmore.more k g ((hadded.spawned k g).2 (.inr (.inl ⟨rfl, rfl⟩))), fun o ho hne => ?_⟩
  rw [same_members hadded.counted hmore.counted hmore.more (hmore.above p (le_refl _)) ho, Bool.eq_iff_iff, hadded.spawned]
  refine ⟨?_, .inl⟩
  rintro (hold | ⟨-, heq⟩ | ⟨hk, heq⟩)
  · exact hold
  · exact absurd heq hne
  · exact absurd heq (ne_of_child (of_mem ho).1 hup.1 hk)

theorem Despawns.members (hD : T.Despawns despawn1 k p) (h : T.Counted d) (hmember : T.poolOf k g = p) (hp : p ≠ 0)
    (hmarked : d.isSpawned k g = true) :
    ∀ o ∈ T.members k p, o.guid ≠ g → ((despawn1 g d).removeSpawn k g p).isSpawned k o.guid = d.isSpawned k o.guid := by
  intro o ho hne
  obtain ⟨hless, hkept, hempty⟩ := hD g d hmember hp h hmarked
  have hremoved := hless.counted.removeSpawn hmember hp hkept hempty
  rw [same_members hless.counted h hless.fewer (hless.above p (le_refl _)).1.symm ho, Bool.eq_iff_iff, hremoved.spawned]
  exact ⟨And.left, fun hold => ⟨hold, fun heq => hne heq.2⟩⟩

end

/-! ### What is respawned -/

section
variable [Sub F] [Zero F] [LT F] [DecidableLT F] (T : PoolTable F) (w : PoolWorld F)

/-- The guid that `ReSpawn1Object` is called with in one round, if it is. -/
def respawnOne (k : PoolKind) (p motherPool : Nat) (isTriggerSpawned : Bool) (s : Spawning) : Option Nat :=
  let triggerFrom := if motherPool ≠ 0 then motherPool else s.triggerFrom
  match T.rollOne w s.data k p triggerFrom with
  | none => none
  | some o =>
    if o.guid = s.lastDespawned then none
    else if o.guid = triggerFrom ∧ isTriggerSpawned then some o.guid
    else none

/-- The count and the marks with which `SpawnObject` gets to its loop. -/
def spawnStart (spawn1 : Nat → SpawnedPoolData → SpawnedPoolData) (k : PoolKind) (p triggerFrom : Nat) (d : SpawnedPoolData) :
    Int × SpawnedPoolData :=
  let count := Int.bmod ((T.maxLimit p : Int) - d.spawnedObjects p) (2 ^ 32)
  if triggerFrom ≠ 0 then (if d.isSpawned k triggerFrom then count + 1 else count, d)
  else if count ≠ 0 ∧ count = Int.bmod (T.maxLimit p) (2 ^ 32) then T.spawnLoaded w spawn1 k p count d
  else (count, d)

def spawnCount (k : PoolKind) (p triggerFrom : Nat) (d : SpawnedPoolData) : Int :=
  Int.bmod ((T.maxLimit p : Int) - d.spawnedObjects p) (2 ^ 32) + if d.isSpawned k triggerFrom then 1 else 0

/-- What `ReSpawn1Object` is called with in `SpawnObject`. -/
def respawnObjects (spawn1 despawn1 : Nat → SpawnedPoolData → SpawnedPoolData) (k : PoolKind) (p triggerFrom motherPool : Nat)
    (d : SpawnedPoolData) : List Nat :=
  let start := T.spawnStart w spawn1 k p triggerFrom d
  let isTriggerSpawned := d.isSpawned k triggerFrom
  (List.range start.1.toNat).filterMap fun i =>
    T.respawnOne w k p motherPool isTriggerSpawned
      (Nat.iterate (T.spawnOne w spawn1 despawn1 k p triggerFrom motherPool isTriggerSpawned) i ⟨start.2, triggerFrom, 0⟩)

theorem spawnObject_eq (spawn1 despawn1 : Nat → SpawnedPoolData → SpawnedPoolData) (k : PoolKind) (p triggerFrom motherPool : Nat)
    (d : SpawnedPoolData) : T.spawnObject w spawn1 despawn1 k p triggerFrom motherPool d =
      (Nat.iterate (T.spawnOne w spawn1 despawn1 k p triggerFrom motherPool (d.isSpawned k triggerFrom))
        (T.spawnStart w spawn1 k p triggerFrom d).1.toNat ⟨(T.spawnStart w spawn1 k p triggerFrom d).2, triggerFrom, 0⟩).data := rfl

omit [Sub F] [Zero F] [LT F] [DecidableLT F] in
theorem spawnStart_trigger (spawn1 : Nat → SpawnedPoolData → SpawnedPoolData) (k : PoolKind) {p triggerFrom : Nat}
    (h : triggerFrom ≠ 0)
    (d : SpawnedPoolData) : T.spawnStart w spawn1 k p triggerFrom d = (T.spawnCount k p triggerFrom d, d) := by
  unfold spawnStart spawnCount
  dsimp only
  rw [if_pos h]
  split_ifs
  · rfl
  · rw [Int.add_zero]

/-- What `ReSpawn1Object` is called with in `UpdatePool`; what is spawned besides is spawned with no trigger. -/
def updateRespawns (k : PoolKind) (p guid : Nat) (d : SpawnedPoolData) : List Nat :=
  if T.poolOf .pool p ≠ 0 then
    T.respawnObjects w (T.spawnPool w) T.despawnPool .pool (T.poolOf .pool p) p (T.poolOf .pool p) d
  else
    match k with
    | .pool => T.respawnObjects w (T.spawnPool w) T.despawnPool .pool p guid p d
    | k => T.respawnObjects w (fun _ d => d) (fun _ d => d) k p guid 0 d

end

/-! ### The rounds until the roll finds something -/

section
variable [Sub F] [Zero F] [LT F] [DecidableLT F] {T : PoolTable F} {w : PoolWorld F} {d : SpawnedPoolData} {k : PoolKind}
  {p trigger mother n r : Nat} {spawn1 despawn1 : Nat → SpawnedPoolData → SpawnedPoolData} {isTriggerSpawned : Bool} {s : Spawning}

/-- Nothing has been found, in so many rolls. -/
structure Waiting (d : SpawnedPoolData) (trigger mother r : Nat) (s : Spawning) : Prop where
  data : s.data = { d with rolled := r }
  last : s.lastDespawned = 0
  kept : mother = 0 → s.triggerFrom = trigger

theorem Waiting.from (h : Waiting d trigger mother r s) :
    (if mother ≠ 0 then mother else s.triggerFrom) = if mother ≠ 0 then mother else trigger := by
  by_cases hm : mother = 0
  · rw [if_neg (not_not.2 hm), if_neg (not_not.2 hm), h.kept hm]
  · rw [if_pos hm, if_pos hm]

variable (spawn1 despawn1 isTriggerSpawned) in
theorem Waiting.step (h : Waiting d trigger mother r s)
    (hroll : T.rollOne w { d with rolled := r } k p (if mother ≠ 0 then mother else trigger) = none) :
    Waiting d trigger mother (r + 1) (T.spawnOne w spawn1 despawn1 k p trigger mother isTriggerSpawned s) ∧
      T.respawnOne w k p mother isTriggerSpawned s = none := by
  have hfrom := h.from
  unfold spawnOne respawnOne
  rw [hfrom, h.data]
  dsimp only
  rw [hroll]
  exact ⟨⟨rfl, h.last, fun hm => if_neg (not_not.2 hm)⟩, rfl⟩

variable (spawn1 despawn1 isTriggerSpawned) in
theorem Waiting.all (h : Waiting d trigger mother r s)
    (hroll : ∀ i < n, T.rollOne w { d with rolled := r + i } k p (if mother ≠ 0 then mother else trigger) = none) :
    Waiting d trigger mother (r + n) (Nat.iterate (T.spawnOne w spawn1 despawn1 k p trigger mother isTriggerSpawned) n s) ∧
      ∀ i < n, T.respawnOne w k p mother isTriggerSpawned
        (Nat.iterate (T.spawnOne w spawn1 despawn1 k p trigger mother isTriggerSpawned) i s) = none := by
  induction n with
  | zero => exact ⟨h, fun i hi => absurd hi (not_lt_zero i)⟩
  | succ n ih =>
    obtain ⟨hwait, hnone⟩ := ih fun i hi => hroll i (lt_succ_of_lt hi)
    obtain ⟨hnext, hlast⟩ := hwait.step spawn1 despawn1 isTriggerSpawned (hroll n (lt_succ_self n))
    rw [iterate_succ_apply']
    refine ⟨hnext, fun i hi => ?_⟩
    rcases Nat.lt_succ_iff_lt_or_eq.1 hi with hlt | rfl
    · exact hnone i hlt
    · exact hlast

/-- The trigger is out, and another member is in its place. -/
structure Replaced (T : PoolTable F) (k : PoolKind) (p trigger mother g : Nat) (s : Spawning) : Prop where
  counted : T.Counted s.data
  up : T.Up s.data p
  last : s.lastDespawned = trigger
  kept : mother = 0 → s.triggerFrom = 0
  gone : s.data.isSpawned k trigger = false
  taken : s.data.isSpawned k g = true

variable {g : Nat}

section

variable (hS : T.Spawns spawn1 k p) (hmother : mother = 0 ∨ k = .pool ∧ mother = p) (hmember : T.poolOf k trigger = p)
  (htrigger : trigger ≠ 0) (h : T.Replaced k p trigger mother g s)
include hS hmother hmember htrigger h

/-- The rounds after that only add to what is spawned, never the trigger. -/
theorem Replaced.step : T.Replaced k p trigger mother g (T.spawnOne w spawn1 despawn1 k p trigger mother true s) := by
  have hp := h.up.1
  unfold spawnOne
  dsimp only
  have hfrom : mother = 0 → (if mother ≠ 0 then mother else s.triggerFrom) = 0 := fun hm => (if_neg (not_not.2 hm)).trans (h.kept hm)
  have hfromMother : mother ≠ 0 → (if mother ≠ 0 then mother else s.triggerFrom) = p := fun hm => (if_pos hm).trans (hmother.resolve_left hm).2
  generalize (if mother ≠ 0 then mother else s.triggerFrom) = triggerFrom at hfrom hfromMother
  have hcounted : T.Counted { s.data with rolled := s.data.rolled + 1 } := ⟨h.counted.counts, h.counted.known⟩
  have hidle : T.Replaced k p trigger mother g ⟨{ s.data with rolled := s.data.rolled + 1 }, triggerFrom, s.lastDespawned⟩ :=
    ⟨hcounted, h.up, h.last, hfrom, h.gone, h.taken⟩
  split
  · exact hidle
  rename_i o hroll
  obtain ⟨ho, helig⟩ := rollOne_some hroll
  obtain ⟨hpool, -, hg⟩ := of_mem ho
  have hnotFrom : o.guid ≠ triggerFrom := by
    intro heq
    by_cases hm : mother = 0
    · exact hg (heq.trans (hfrom hm))
    · exact ne_of_child hpool hp (hmother.resolve_left hm).1 (heq.trans (hfromMother hm))
  by_cases hlast : o.guid = s.lastDespawned
  · rw [if_pos hlast]
    exact hidle
  rw [if_neg hlast, if_neg fun hrespawn => hnotFrom hrespawn.1]
  have hnew : s.data.isSpawned k o.guid = false := helig.resolve_left hnotFrom
  have hentered := hS.enter hcounted hpool hg hnew h.up
  obtain ⟨-, hothers⟩ := hS.members hcounted hpool hg hnew h.up
  generalize spawn1 o.guid _ = d1 at hentered hothers ⊢
  obtain ⟨t, ht, rfl⟩ := exists_mem hmember hp htrigger
  have hgone : d1.isSpawned k t.guid = false := (hothers t ht fun heq => hlast (heq.symm.trans h.last.symm)).trans h.gone
  have hdisposed : T.despawnObject despawn1 k p t.guid d1 = d1 := by
    rw [despawnObject_one htrigger hmember hp, hgone, if_neg Bool.false_ne_true]
  by_cases hm : mother = 0
  · rw [hfrom hm, if_neg fun hone => hone.1 rfl]
    exact ⟨hentered.counted, hentered.up h.up, h.last, fun _ => ite_self 0, hgone, hentered.more k g h.taken⟩
  have hne : triggerFrom ≠ 0 := by
    rw [hfromMother hm]
    exact hp
  rw [if_pos ⟨hne, rfl⟩, if_pos hm, hdisposed]
  exact ⟨hentered.counted, hentered.up h.up, rfl, fun _ => rfl, hgone, hentered.more k g h.taken⟩

theorem Replaced.all (n : Nat) :
    T.Replaced k p trigger mother g (Nat.iterate (T.spawnOne w spawn1 despawn1 k p trigger mother true) n s) := by
  induction n with
  | zero => exact h
  | succ n ih =>
    rw [iterate_succ_apply']
    exact ih.step hS hmother hmember htrigger

end

/-- The round in which the roll finds something: either the trigger is respawned or another member takes its place. -/
theorem Waiting.found {o : PoolObject F} (hS : T.Spawns spawn1 k p) (hD : T.Despawns despawn1 k p)
    (hmother : mother = 0 ∨ k = .pool ∧ mother = p) (hmember : T.poolOf k trigger = p) (hcounted : T.Counted d) (hup : T.Up d p)
    (hmarked : d.isSpawned k trigger = true) (h : Waiting d trigger mother r s)
    (hroll : T.rollOne w { d with rolled := r } k p (if mother ≠ 0 then mother else trigger) = some o) :
    mother = 0 ∧ T.respawnOne w k p mother true s = some trigger ∨ o ∈ T.members k p ∧ d.isSpawned k o.guid = false ∧
      T.Replaced k p trigger mother o.guid (T.spawnOne w spawn1 despawn1 k p trigger mother true s) := by
  have hp := hup.1
  have htrigger := (hcounted.known k trigger hmarked).1
  obtain ⟨ho, helig⟩ := rollOne_some hroll
  obtain ⟨hpool, -, hg⟩ := of_mem ho
  have hfrom := h.from
  unfold respawnOne spawnOne
  rw [hfrom, h.data, h.last]
  dsimp only
  rw [hroll]
  dsimp only
  rw [if_neg hg, if_neg hg]
  by_cases hrespawn : o.guid = if mother ≠ 0 then mother else trigger
  · by_cases hm : mother = 0
    · rw [if_neg (not_not.2 hm)] at hrespawn ⊢
      exact .inl ⟨hm, by rw [if_pos ⟨hrespawn, rfl⟩, hrespawn]⟩
    · rw [if_pos hm] at hrespawn
      exact absurd (hrespawn.trans (hmother.resolve_left hm).2) (ne_of_child hpool hp (hmother.resolve_left hm).1)
  · have hnew : d.isSpawned k o.guid = false := helig.resolve_left hrespawn
    refine .inr ⟨ho, hnew, ?_⟩
    have hne : (if mother ≠ 0 then mother else trigger) ≠ 0 := by
      split_ifs with hm
      · exact hm
      · exact htrigger
    have hdisposed : (if mother ≠ 0 then trigger else if mother ≠ 0 then mother else trigger) = trigger := by
      split_ifs <;> rfl
    have hcounted' : T.Counted { d with rolled := r + 1 } := ⟨hcounted.counts, hcounted.known⟩
    have hentered := hS.enter hcounted' hpool hg hnew hup
    obtain ⟨htaken, -⟩ := hS.members hcounted' hpool hg hnew hup
    rw [if_neg fun hboth => hrespawn hboth.1, if_pos ⟨hne, rfl⟩, hdisposed, despawnObject_one htrigger hmember hp]
    -- the other member is spawned before the trigger is despawned
    generalize spawn1 o.guid _ = d1 at hentered htaken ⊢
    have hstill : d1.isSpawned k trigger = true := hentered.more k trigger hmarked
    have hother : o.guid ≠ trigger := by
      intro heq
      rw [heq, hmarked] at hnew
      cases hnew
    obtain ⟨hless, -, hgone, hkey⟩ := hD.one hentered.counted hmember hp hstill
    rw [if_pos hstill]
    refine ⟨hless.counted, ⟨hp, ?_⟩, rfl, fun _ => rfl, hgone, ?_⟩
    · rw [hkey]
      exact (hentered.up hup).2
    · exact (hD.members hentered.counted hmember hp hstill o ho hother).trans htaken

theorem later {P : Nat → Prop} (h : ∃ i < n + 1, P (r + i)) (hnot : ¬ P r) : ∃ i < n, P (r + 1 + i) := by
  obtain ⟨i, hi, hP⟩ := h
  cases i with
  | zero => exact absurd hP hnot
  | succ i => exact ⟨i, by omega, by rwa [add_assoc, add_comm 1 i]⟩

section

variable (hS : T.Spawns spawn1 k p) (hD : T.Despawns despawn1 k p) (hmother : mother = 0 ∨ k = .pool ∧ mother = p)
  (hmember : T.poolOf k trigger = p) (hcounted : T.Counted d) (hup : T.Up d p)
  (hmarked : d.isSpawned k trigger = true)
include hS hD hmother hmember hcounted hup hmarked

theorem Waiting.outcome (h : Waiting d trigger mother r s)
    (hfound : ∃ i < n, (T.rollOne w { d with rolled := r + i } k p (if mother ≠ 0 then mother else trigger)).isSome = true) :
    (mother = 0 ∧ ∃ i < n, T.respawnOne w k p mother true (Nat.iterate (T.spawnOne w spawn1 despawn1 k p trigger mother true) i s) = some trigger) ∨
      ∃ o ∈ T.members k p, d.isSpawned k o.guid = false ∧
        T.Replaced k p trigger mother o.guid (Nat.iterate (T.spawnOne w spawn1 despawn1 k p trigger mother true) n s) := by
  induction n generalizing r s with
  | zero =>
    obtain ⟨i, hi, -⟩ := hfound
    exact absurd hi (not_lt_zero i)
  | succ n ih =>
    cases hroll : T.rollOne w { d with rolled := r } k p (if mother ≠ 0 then mother else trigger) with
    | none =>
      have hlater := later (P := fun r => (T.rollOne w { d with rolled := r } k p (if mother ≠ 0 then mother else trigger)).isSome = true)
        hfound (by rw [hroll]; exact false_ne_true)
      rcases ih (h.step spawn1 despawn1 true hroll).1 hlater with ⟨hm, i, hi, hrespawn⟩ | ⟨o, ho, hnew, hend⟩
      · exact .inl ⟨hm, i + 1, by omega, hrespawn⟩
      · exact .inr ⟨o, ho, hnew, hend⟩
    | some o =>
      rcases h.found hS hD hmother hmember hcounted hup hmarked hroll with ⟨hm, hrespawn⟩ | ⟨ho, hnew, hnext⟩
      · exact .inl ⟨hm, 0, succ_pos n, hrespawn⟩
      · exact .inr ⟨o, ho, hnew, hnext.all hS hmother hmember (hcounted.known k trigger hmarked).1 n⟩

/-- `SpawnObject` with a trigger that is spawned: the trigger is respawned or replaced once the roll finds something. -/
theorem spawnObject_resolves (hfound : ∃ i < (T.spawnCount k p trigger d).toNat,
      (T.rollOne w { d with rolled := d.rolled + i } k p (if mother ≠ 0 then mother else trigger)).isSome = true) :
    mother = 0 ∧ trigger ∈ T.respawnObjects w spawn1 despawn1 k p trigger mother d ∨
      T.Counted (T.spawnObject w spawn1 despawn1 k p trigger mother d) ∧
        (T.spawnObject w spawn1 despawn1 k p trigger mother d).isSpawned k trigger = false ∧
        ∃ o ∈ T.members k p, d.isSpawned k o.guid = false ∧ (T.spawnObject w spawn1 despawn1 k p trigger mother d).isSpawned k o.guid = true := by
  have htrigger := (hcounted.known k trigger hmarked).1
  have hwait : Waiting d trigger mother d.rolled ⟨d, trigger, 0⟩ := ⟨rfl, rfl, fun _ => rfl⟩
  rw [spawnObject_eq]
  unfold respawnObjects
  rw [spawnStart_trigger T w spawn1 k htrigger, hmarked]
  rcases hwait.outcome hS hD hmother hmember hcounted hup hmarked hfound with ⟨hm, i, hi, hrespawn⟩ | ⟨o, ho, hnew, hend⟩
  · exact .inl ⟨hm, mem_filterMap.2 ⟨i, mem_range.2 hi, hrespawn⟩⟩
  · exact .inr ⟨hend.counted, hend.gone, o, ho, hnew, hend.taken⟩

end

theorem spawnObject_idle (htrigger : trigger ≠ 0) (hnone : ∀ i < (T.spawnCount k p trigger d).toNat,
      T.rollOne w { d with rolled := d.rolled + i } k p (if mother ≠ 0 then mother else trigger) = none) :
    T.respawnObjects w spawn1 despawn1 k p trigger mother d = [] ∧
      T.spawnObject w spawn1 despawn1 k p trigger mother d = { d with rolled := d.rolled + (T.spawnCount k p trigger d).toNat } := by
  have hwait : Waiting d trigger mother d.rolled ⟨d, trigger, 0⟩ := ⟨rfl, rfl, fun _ => rfl⟩
  obtain ⟨hend, hrespawns⟩ := hwait.all spawn1 despawn1 (d.isSpawned k trigger) hnone
  rw [spawnObject_eq]
  unfold respawnObjects
  rw [spawnStart_trigger T w spawn1 k htrigger]
  exact ⟨filterMap_eq_nil_iff.2 fun i hi => hrespawns i (mem_range.1 hi), hend.data⟩

/-! ### A trigger that is out already -/

/-- With a trigger that is not spawned a round only adds, if it rolls anything but the trigger again. -/
theorem spawnOne_more (h : s.data.isSpawned k g = true) :
    (T.spawnOne w (fun _ d => d) (fun _ d => d) k p trigger 0 false s).data.isSpawned k g = true := by
  unfold spawnOne
  dsimp only
  split
  · exact h
  rename_i o hroll
  split
  · exact h
  · rw [if_neg fun hboth => Bool.false_ne_true hboth.2, if_neg fun hboth => Bool.false_ne_true hboth.2]
    exact isSpawned_addSpawn.2 (.inl h)

theorem iterate_more (h : s.data.isSpawned k g = true) (n : Nat) :
    (Nat.iterate (T.spawnOne w (fun _ d => d) (fun _ d => d) k p trigger 0 false) n s).data.isSpawned k g = true := by
  induction n with
  | zero => exact h
  | succ n ih =>
    rw [iterate_succ_apply']
    exact spawnOne_more ih

theorem Waiting.fills (hfree : d.isSpawned k trigger = false) (h : Waiting d trigger 0 r s)
    (hfound : ∃ i < n, (T.rollOne w { d with rolled := r + i } k p trigger).isSome = true) :
    ∃ o ∈ T.members k p, d.isSpawned k o.guid = false ∧
      (Nat.iterate (T.spawnOne w (fun _ d => d) (fun _ d => d) k p trigger 0 false) n s).data.isSpawned k o.guid = true := by
  induction n generalizing r s with
  | zero =>
    obtain ⟨i, hi, -⟩ := hfound
    exact absurd hi (not_lt_zero i)
  | succ n ih =>
    cases hroll : T.rollOne w { d with rolled := r } k p trigger with
    | none =>
      have hlater := later (P := fun r => (T.rollOne w { d with rolled := r } k p trigger).isSome = true) hfound (by simp [hroll])
      exact ih (h.step (fun _ d => d) (fun _ d => d) false hroll).1 hlater
    | some o =>
      obtain ⟨ho, helig⟩ := rollOne_some hroll
      obtain ⟨-, -, hg⟩ := of_mem ho
      have hnew : d.isSpawned k o.guid = false := helig.elim (fun heq => heq ▸ hfree) id
      refine ⟨o, ho, hnew, iterate_more ?_ n⟩
      have hfrom := h.from
      unfold spawnOne
      rw [hfrom, h.data, h.last]
      dsimp only
      rw [if_neg (not_not.2 rfl), hroll]
      dsimp only
      rw [if_neg hg, if_neg fun hboth => Bool.false_ne_true hboth.2, if_neg fun hboth => Bool.false_ne_true hboth.2]
      exact isSpawned_addSpawn.2 (.inr (.inl ⟨rfl, rfl⟩))

/-! ### The update -/

/-- The group that `UpdatePool` rolls in. -/
def updateGroup (T : PoolTable F) (k : PoolKind) (p : Nat) : PoolKind × Nat :=
  if T.poolOf .pool p ≠ 0 then (.pool, T.poolOf .pool p) else (k, p)

def updateTrigger (T : PoolTable F) (p guid : Nat) : Nat := if T.poolOf .pool p ≠ 0 then p else guid

def updateFrom (T : PoolTable F) (p guid : Nat) : Nat := if T.poolOf .pool p ≠ 0 then T.poolOf .pool p else guid

/-- How many rounds `UpdatePool` makes. -/
def updateRounds (T : PoolTable F) (k : PoolKind) (p guid : Nat) (d : SpawnedPoolData) : Int :=
  T.spawnCount (T.updateGroup k p).1 (T.updateGroup k p).2 (T.updateTrigger p guid) d

/-- The roll of one of these rounds finds something. -/
def Finds (T : PoolTable F) (w : PoolWorld F) (k : PoolKind) (p guid : Nat) (d : SpawnedPoolData) : Prop :=
  ∃ i < (T.updateRounds k p guid d).toNat,
    (T.rollOne w { d with rolled := d.rolled + i } (T.updateGroup k p).1 (T.updateGroup k p).2 (T.updateFrom p guid)).isSome = true

/-- The marks when `UpdatePool` is called for a member: a gameobject has just been taken out of its pool. -/
def ready (T : PoolTable F) : PoolKind → Nat → SpawnedPoolData → SpawnedPoolData
  | .gameobject, guid, d => T.despawnObject (fun _ d => d) .gameobject (T.poolOf .gameobject guid) guid d
  | _, _, d => d

/-- The member is respawned, or it is out and something else of the group that is rolled in is newly spawned. -/
def Resolved (T : PoolTable F) (w : PoolWorld F) (k : PoolKind) (guid : Nat) (d : SpawnedPoolData) : Prop :=
  let p := T.poolOf k guid
  let d' := T.updatePool w k p guid d
  guid ∈ T.updateRespawns w k p guid d ∨ d.isSpawned k guid = false ∧ d'.isSpawned k guid = true ∨
    d'.isSpawned k guid = false ∧ ∃ o ∈ T.members (T.updateGroup k p).1 (T.updateGroup k p).2,
      d.isSpawned (T.updateGroup k p).1 o.guid = false ∧ d'.isSpawned (T.updateGroup k p).1 o.guid = true

/-- Where all chances are equal, something is found where there is something that may be spawned. -/
theorem rollOne_isSome_iff {triggerFrom : Nat} (hequal : T.explicitlyChanced k p = []) :
    (T.rollOne w d k p triggerFrom).isSome = true ↔ ∃ o ∈ T.equalChanced k p, eligible w d k triggerFrom o = true := by
  unfold rollOne
  rw [hequal]
  dsimp only [rollExplicit]
  constructor
  · intro hsome
    obtain ⟨o, ho⟩ := Option.isSome_iff_exists.1 hsome
    obtain ⟨hmem, hok⟩ := mem_filter.1 (mem_of_getElem? ho)
    exact ⟨o, hmem, hok⟩
  · rintro ⟨o, ho, hok⟩
    have hpos := length_pos_of_mem (mem_filter.2 ⟨ho, hok⟩)
    rw [getElem?_eq_getElem (mod_lt _ hpos)]
    rfl

theorem update_child (T : PoolTable F) (w : PoolWorld F) (k : PoolKind) {p : Nat} (g : Nat) (d : SpawnedPoolData)
    (hm : T.poolOf .pool p ≠ 0) :
    T.updateGroup k p = (.pool, T.poolOf .pool p) ∧ T.updateRounds k p g d = T.spawnCount .pool (T.poolOf .pool p) p d ∧
      (T.Finds w k p g d ↔ ∃ i < (T.spawnCount .pool (T.poolOf .pool p) p d).toNat,
        (T.rollOne w { d with rolled := d.rolled + i } .pool (T.poolOf .pool p)
          (if T.poolOf .pool p ≠ 0 then T.poolOf .pool p else p)).isSome = true) ∧
      T.updateRespawns w k p g d = T.respawnObjects w (T.spawnPool w) T.despawnPool .pool (T.poolOf .pool p) p (T.poolOf .pool p) d ∧
      T.updatePool w k p g d = T.spawnObject w (T.spawnPool w) T.despawnPool .pool (T.poolOf .pool p) p (T.poolOf .pool p) d := by
  have hgroup : T.updateGroup k p = (.pool, T.poolOf .pool p) := if_pos hm
  have hrounds : T.updateRounds k p g d = T.spawnCount .pool (T.poolOf .pool p) p d := by
    unfold updateRounds updateTrigger
    rw [hgroup, if_pos hm]
  refine ⟨hgroup, hrounds, ?_, if_pos hm, if_pos hm⟩
  unfold Finds updateFrom
  rw [hrounds, hgroup, if_pos hm, if_pos hm]

/-- All others in their own. -/
theorem update_alone (T : PoolTable F) (w : PoolWorld F) {k : PoolKind} {p : Nat} (g : Nat) (d : SpawnedPoolData) (hk : k ≠ .pool)
    (hm : T.poolOf .pool p = 0) :
    T.updateGroup k p = (k, p) ∧ T.updateRounds k p g d = T.spawnCount k p g d ∧
      (T.Finds w k p g d ↔ ∃ i < (T.spawnCount k p g d).toNat,
        (T.rollOne w { d with rolled := d.rolled + i } k p (if 0 ≠ 0 then 0 else g)).isSome = true) ∧
      T.updateRespawns w k p g d = T.respawnObjects w (fun _ d => d) (fun _ d => d) k p g 0 d ∧
      T.updatePool w k p g d = T.spawnObject w (fun _ d => d) (fun _ d => d) k p g 0 d := by
  have hnot := not_not.2 hm
  have hgroup : T.updateGroup k p = (k, p) := if_neg hnot
  have hrounds : T.updateRounds k p g d = T.spawnCount k p g d := by
    unfold updateRounds updateTrigger
    rw [hgroup, if_neg hnot]
  refine ⟨hgroup, hrounds, ?_, ?_, ?_⟩
  · unfold Finds updateFrom
    rw [hrounds, hgroup, if_neg hnot, if_neg (not_not.2 rfl)]
  · unfold updateRespawns
    rw [if_neg hnot]
    cases k with
    | creature => rfl
    | gameobject => rfl
    | pool => exact absurd rfl hk
  · unfold updatePool spawnPoolGroup
    rw [if_neg hnot]
    cases k with
    | creature => rfl
    | gameobject => rfl
    | pool => exact absurd rfl hk

omit [Sub F] [Zero F] [LT F] [DecidableLT F] in
theorem not_found {P : Nat → Option (PoolObject F)} (h : ¬ ∃ i < n, (P i).isSome = true) : ∀ i < n, P i = none := by
  intro i hi
  by_contra hne
  exact h ⟨i, hi, Option.isSome_iff_ne_none.2 hne⟩

section

variable (hk : k ≠ .pool)
include hk

/-- Where nothing is found, nothing has happened. -/
theorem updatePool_idle (hp : p ≠ 0) (hg : g ≠ 0) (h : ¬ T.Finds w k p g d) :
    T.updateRespawns w k p g d = [] ∧ T.updatePool w k p g d = { d with rolled := d.rolled + (T.updateRounds k p g d).toNat } := by
  by_cases hm : T.poolOf .pool p = 0
  · obtain ⟨-, hrounds, hfinds, hrespawns, hupdate⟩ := update_alone T w g d hk hm
    rw [hfinds] at h
    rw [hrounds, hrespawns, hupdate]
    exact spawnObject_idle hg (not_found h)
  · obtain ⟨-, hrounds, hfinds, hrespawns, hupdate⟩ := update_child T w k g d hm
    rw [hfinds] at h
    rw [hrounds, hrespawns, hupdate]
    exact spawnObject_idle hp (not_found h)

theorem Finds.of_resolved (hp : T.poolOf k g ≠ 0) (hg : g ≠ 0) (h : T.Resolved w k g d) : T.Finds w k (T.poolOf k g) g d := by
  by_contra hnot
  obtain ⟨hrespawns, hupdate⟩ := updatePool_idle hk hp hg hnot
  unfold Resolved at h
  dsimp only at h
  rw [hrespawns, hupdate] at h
  rcases h with hmem | ⟨hfree, hmarked⟩ | ⟨-, o, -, hfree, hmarked⟩
  · exact not_mem_nil hmem
  · exact false_ne_true (hfree.symm.trans hmarked)
  · exact false_ne_true (hfree.symm.trans hmarked)

theorem Finds.child (hcounted : T.Counted d) (hm : T.poolOf .pool (T.poolOf k g) ≠ 0)
    (hmarked : d.isSpawned .pool (T.poolOf k g) = true) (h : T.Finds w k (T.poolOf k g) g d) : T.Resolved w k g d := by
  obtain ⟨hgroup, -, hfinds, -, hupdate⟩ := update_child T w k g d hm
  have hup := hcounted.up_of_marked (hcounted.mother hmarked hm)
  rcases spawnObject_resolves (spawns_pool _) (despawns_pool _) (.inr ⟨rfl, rfl⟩) rfl hcounted hup hmarked (hfinds.1 h) with
    ⟨hzero, -⟩ | ⟨hcounted', hgone, o, ho, hnew, htaken⟩
  · exact absurd hzero hm
  rw [← hupdate] at hcounted' hgone htaken
  refine .inr (.inr ⟨?_, ?_⟩)
  · refine eq_false_iff.2 fun hstill => ?_
    have hpool := hcounted'.pool_marked hk hstill
    rw [hgone] at hpool
    exact false_ne_true hpool
  · rw [hgroup]
    exact ⟨o, ho, hnew, htaken⟩

/-- A pool of its own respawns the member or replaces it. -/
theorem Finds.alone (hcounted : T.Counted d) (hm : T.poolOf .pool (T.poolOf k g) = 0)
    (hmarked : d.isSpawned k g = true) (h : T.Finds w k (T.poolOf k g) g d) : T.Resolved w k g d := by
  obtain ⟨hgroup, -, hfinds, hrespawns, hupdate⟩ := update_alone T w g d hk hm
  have hup := hcounted.up_of_marked (hcounted.pool_marked hk hmarked)
  rcases spawnObject_resolves (spawns_id k _) (despawns_id hk _) (.inl rfl) rfl hcounted hup hmarked (hfinds.1 h) with
    ⟨-, hrespawn⟩ | ⟨-, hgone, o, ho, hnew, htaken⟩
  · rw [← hrespawns] at hrespawn
    exact .inl hrespawn
  · rw [← hupdate] at hgone htaken
    refine .inr (.inr ⟨hgone, ?_⟩)
    rw [hgroup]
    exact ⟨o, ho, hnew, htaken⟩

/-- And so it does with a member that is out already. -/
theorem Finds.fill (hg : g ≠ 0) (hm : T.poolOf .pool (T.poolOf k g) = 0) (hfree : d.isSpawned k g = false)
    (h : T.Finds w k (T.poolOf k g) g d) : T.Resolved w k g d := by
  obtain ⟨hgroup, -, hfinds, -, hupdate⟩ := update_alone T w g d hk hm
  have hwait : Waiting d g 0 d.rolled ⟨d, g, 0⟩ := ⟨rfl, rfl, fun _ => rfl⟩
  obtain ⟨o, ho, hnew, htaken⟩ := hwait.fills hfree (hfinds.1 h)
  have hend : T.updatePool w k (T.poolOf k g) g d = (iterate (T.spawnOne w (fun _ d => d) (fun _ d => d) k (T.poolOf k g) g 0 false)
      (T.spawnCount k (T.poolOf k g) g d).toNat ⟨d, g, 0⟩).data := by
    rw [hupdate, spawnObject_eq, spawnStart_trigger T w _ k hg, hfree]
  rw [← hend] at htaken
  cases hback : (T.updatePool w k (T.poolOf k g) g d).isSpawned k g with
  | true => exact .inr (.inl ⟨hfree, hback⟩)
  | false =>
    refine .inr (.inr ⟨hback, ?_⟩)
    rw [hgroup]
    exact ⟨o, ho, hnew, htaken⟩

/-- The marks that `UpdatePool` is called with are in order, and the member's pool is spawned. -/
theorem ready_spec (hcounted : T.Counted d) (hmarked : d.isSpawned k g = true) :
    T.Counted (T.ready k g d) ∧ (T.ready k g d).isSpawned .pool (T.poolOf k g) = true ∧
      (T.ready k g d).spawnedObjects (T.poolOf k g) + (if (T.ready k g d).isSpawned k g then 0 else 1) = d.spawnedObjects (T.poolOf k g) := by
  have hpool := hcounted.pool_marked hk hmarked
  cases k with
  | creature => exact ⟨hcounted, hpool, if_pos hmarked ▸ rfl⟩
  | gameobject =>
    have hp := (hcounted.known .gameobject g hmarked).2 hk
    have hout : T.ready .gameobject g d = d.removeSpawn .gameobject g (T.poolOf .gameobject g) := by
      change T.despawnObject (fun _ d => d) .gameobject (T.poolOf .gameobject g) g d = _
      rw [despawnObject_one (hcounted.known .gameobject g hmarked).1 rfl hp, if_pos hmarked]
    obtain ⟨hless, hcount, hgone, hkey⟩ := (despawns_id (T := T) hk _).one hcounted rfl hp hmarked
    rw [hout, hgone]
    exact ⟨hless.counted, hkey.trans hpool, hcount.symm⟩
  | pool => exact absurd rfl hk

end

/-- `UpdatePool` for a member that is spawned and ready to respawn resolves the member exactly when one of its rolls finds something; otherwise
it leaves everything as it is. With equal chances that takes a round to make and an entry that may be spawned and is not: in a pool of its own
the member itself will do, for a child pool it has to be another child of the mother. -/
theorem update_resolves_iff (T : PoolTable F) (w : PoolWorld F) (d : SpawnedPoolData) (k : PoolKind) (g : Nat) (hk : k ≠ .pool)
    (hcounted : T.Counted d) (hmarked : d.isSpawned k g = true) :
    let p := T.poolOf k g
    let d0 := T.ready k g d
    let grp := T.updateGroup k p
    (T.Resolved w k g d0 ↔ T.Finds w k p g d0) ∧
      (T.explicitlyChanced grp.1 grp.2 = [] → (∀ o ∈ T.equalChanced grp.1 grp.2, d0.exclude grp.1 o.guid = false) →
        (T.Resolved w k g d0 ↔ 0 < T.updateRounds k p g d0 ∧ ∃ o ∈ T.equalChanced grp.1 grp.2,
          (o.flagged = true → w.populated = true) ∧ (o.guid = T.updateFrom p g ∨ d0.isSpawned grp.1 o.guid = false))) ∧
      (T.poolOf .pool p = 0 → T.explicitlyChanced k p = [] → (∀ o ∈ T.equalChanced k p, d0.exclude k o.guid = false) →
        (∀ o ∈ T.equalChanced k p, o.flagged = true → w.populated = true) → d.spawnedObjects p ≤ T.maxLimit p → T.maxLimit p < 2 ^ 31 →
        T.Resolved w k g d0) ∧
      (¬ T.Resolved w k g d0 →
        T.updateRespawns w k p g d0 = [] ∧ T.updatePool w k p g d0 = { d0 with rolled := d0.rolled + (T.updateRounds k p g d0).toNat }) := by
  intro p d0 grp
  obtain ⟨hg, hp⟩ := hcounted.known k g hmarked
  obtain ⟨hcounted0, hpool0, hcount0⟩ := ready_spec hk hcounted hmarked
  have hiff : T.Resolved w k g d0 ↔ T.Finds w k p g d0 := by
    refine ⟨Finds.of_resolved hk (hp hk) hg, fun hfinds => ?_⟩
    by_cases hm : T.poolOf .pool (T.poolOf k g) = 0
    · cases hstill : d0.isSpawned k g with
      | true => exact hfinds.alone hk hcounted0 hm hstill
      | false => exact hfinds.fill hk hg hm hstill
    · exact hfinds.child hk hcounted0 hm hpool0
  have hequal : T.explicitlyChanced grp.1 grp.2 = [] → (∀ o ∈ T.equalChanced grp.1 grp.2, d0.exclude grp.1 o.guid = false) →
      (T.Resolved w k g d0 ↔ 0 < T.updateRounds k p g d0 ∧ ∃ o ∈ T.equalChanced grp.1 grp.2,
        (o.flagged = true → w.populated = true) ∧ (o.guid = T.updateFrom p g ∨ d0.isSpawned grp.1 o.guid = false)) := by
    intro hchances hfree
    have hroll : ∀ i, (T.rollOne w { d0 with rolled := d0.rolled + i } grp.1 grp.2 (T.updateFrom p g)).isSome = true ↔
        ∃ o ∈ T.equalChanced grp.1 grp.2,
          (o.flagged = true → w.populated = true) ∧ (o.guid = T.updateFrom p g ∨ d0.isSpawned grp.1 o.guid = false) := by
      intro i
      rw [rollOne_isSome_iff hchances]
      refine exists_congr fun o => and_congr_right fun ho => ?_
      have hsame : ({ d0 with rolled := d0.rolled + i } : SpawnedPoolData).isSpawned grp.1 o.guid = d0.isSpawned grp.1 o.guid := rfl
      unfold eligible
      rw [hfree o ho, hsame]
      cases o.flagged <;> simp
    rw [hiff]
    constructor
    · rintro ⟨i, hi, hsome⟩
      have hpos : 0 < T.updateRounds k p g d0 := by
        change i < (T.updateRounds k p g d0).toNat at hi
        omega
      exact ⟨hpos, (hroll i).1 hsome⟩
    · rintro ⟨hpos, hsome⟩
      exact ⟨0, by omega, (hroll 0).2 hsome⟩
  refine ⟨hiff, hequal, fun hm hchances hfree hflags hlimit hsmall => ?_, fun hnot => updatePool_idle hk (hp hk) hg (mt hiff.2 hnot)⟩
  obtain ⟨hgroup, hrounds, -⟩ := update_alone T w g d0 hk hm
  have hgroup' : grp = (k, p) := hgroup
  have hfrom : T.updateFrom p g = g := if_neg (not_not.2 hm)
  rw [hequal (by rw [hgroup']; exact hchances) (by rw [hgroup']; exact hfree), hgroup']
  obtain ⟨o, ho, hguid⟩ := exists_mem (T := T) (k := k) rfl (hp hk) hg
  have hlisted : o ∈ T.equalChanced k p := by
    rcases mem_append.1 ho with heq | hexp
    · exact heq
    · rw [hchances] at hexp
      exact absurd hexp not_mem_nil
  refine ⟨?_, o, hlisted, hflags o hlisted, .inl (hguid.trans hfrom.symm)⟩
  have hpos := hcounted.pos_of_member rfl (hp hk) hmarked
  change d0.spawnedObjects p + (if d0.isSpawned k g then 0 else 1) = d.spawnedObjects p at hcount0
  change 0 < d.spawnedObjects p at hpos
  have hroom : 0 ≤ (T.maxLimit p : Int) - d0.spawnedObjects p := by
    split_ifs at hcount0 <;> omega
  have hcases := bmod_cases hroom (by omega)
  rw [hrounds]
  unfold spawnCount
  split_ifs at hcount0 ⊢ <;> omega

end

namespace UpdateSample

def membersOf : PoolKind → Nat → List (PoolObject Int)
  | .creature, 2 => [⟨10, 0, false⟩]
  | .creature, 4 => [⟨20, 0, false⟩, ⟨21, 0, false⟩]
  | .pool, 1 => [⟨2, 0, false⟩]
  | _, _ => []

def searchMap : PoolKind → Nat → Nat
  | .creature, 10 => 2
  | .creature, 20 => 4
  | .creature, 21 => 4
  | .pool, 2 => 1
  | _, _ => 0

/-- Pool 2 is the only child of pool 1; pool 4 stands alone. -/
def table : PoolTable Int where
  maxLimit := fun _ => 1
  explicitlyChanced := fun _ _ => []
  equalChanced := membersOf
  poolOf := searchMap
  rank := fun p => if p = 1 then 1 else 0
  height := 1
  limit_lt := fun _ => by decide
  length_lt := fun k p => by
    unfold membersOf
    split <;> simp
  listed := fun k p => by
    unfold membersOf
    split <;> simp
  searched := fun k p g => by
    unfold membersOf searchMap
    split <;> split <;> simp_all <;> omega
  acyclic := fun p hp => by
    unfold searchMap at hp ⊢
    split at hp <;> simp_all
  rank_le := fun p => by
    split_ifs <;> decide

def world : PoolWorld Int := ⟨false, fun _ _ => false, fun _ => (0, 0)⟩

def marks : SpawnedPoolData := ⟨{10, 20}, ∅, fun p => if p = 1 ∨ p = 2 ∨ p = 4 then some 1 else none, fun _ _ => false, 0⟩

theorem marks_counted : table.Counted marks := by
  refine ⟨fun p => ?_, fun k g h => ?_⟩
  · by_cases hp : p = 1 ∨ p = 2 ∨ p = 4
    · rcases hp with rfl | rfl | rfl <;> decide
    have hnone : ∀ k, table.members k p = [] := by
      intro k
      change membersOf k p ++ [] = []
      unfold membersOf
      split <;> simp_all
    have hcount : marks.spawnedObjects p = 0 := by
      simp [spawnedObjects, marks, hp]
    simp [hcount, marked, markedOf, hnone]
  · cases k with
    | creature =>
      have hg : g = 10 ∨ g = 20 := by
        simpa [marks] using h
      rcases hg with rfl | rfl <;> decide
    | gameobject => simp [marks] at h
    | pool =>
      refine ⟨?_, fun hne => absurd rfl hne⟩
      rintro rfl
      exact absurd h (by decide)

/-- Creature 20 stands in a pool of its own. -/
theorem update_resolves_alone : table.Resolved world .creature 20 (table.ready .creature 20 marks) :=
  (update_resolves_iff table world marks .creature 20 (by decide) marks_counted (by decide)).2.2.1 (by decide) rfl
    (fun _ _ => rfl) (by decide) (by decide) (by decide)

/-- Creature 10 is in a child pool with no sibling: it stays marked, and nothing is respawned or spawned. -/
theorem only_child_stays :
    table.Counted marks ∧ marks.isSpawned .creature 10 = true ∧ table.poolOf .pool (table.poolOf .creature 10) = 1 ∧
      (∀ k p, table.explicitlyChanced k p = []) ∧ (∀ k g, marks.exclude k g = false) ∧
      table.updateRespawns world .creature 2 10 marks = [] ∧
      (table.updatePool world .creature 2 10 marks).isSpawned .creature 10 = true ∧
      ¬ table.Resolved world .creature 10 marks := by
  have hnone : ¬ table.Finds world .creature 2 10 marks := by
    rintro ⟨i, -, hsome⟩
    obtain ⟨o, ho, hok⟩ := (rollOne_isSome_iff rfl).1 hsome
    obtain rfl : o = ⟨2, 0, false⟩ := mem_singleton.1 ho
    exact false_ne_true hok
  have hidle := updatePool_idle (by decide) (by decide) (by decide) hnone
  refine ⟨marks_counted, by decide, rfl, fun _ _ => rfl, fun _ _ => rfl, hidle.1, ?_, ?_⟩
  · rw [hidle.2]
    decide
  · exact mt (Finds.of_resolved (by decide) (by decide) (by decide)) hnone

end UpdateSample

end PoolTable

end ComfyCraft
