import ComfyCraft.Pool.PoolManager

/-! The entry of a pool is the number of its members that are marked: what one `AddSpawn` and one `RemoveSpawn` do to
that, where the map of the entries is also the set of the pools that are spawned. -/

namespace ComfyCraft

open List SpawnedPoolData

namespace SpawnedPoolData

variable {d : SpawnedPoolData} {k k' : PoolKind} {g p q x : Nat}

@[simp] theorem isSpawned_creature : d.isSpawned .creature g = true ↔ g ∈ d.creatures := decide_eq_true_iff

@[simp] theorem isSpawned_gameobject : d.isSpawned .gameobject g = true ↔ g ∈ d.gameobjects := decide_eq_true_iff

@[simp] theorem isSpawned_pool : d.isSpawned .pool g = (d.pools g).isSome := rfl

theorem spawnedObjects_pos (h : 0 < d.spawnedObjects p) : d.isSpawned .pool p = true := by
  unfold spawnedObjects at h
  rw [isSpawned_pool]
  cases hp : d.pools p with
  | none =>
    rw [hp] at h
    exact absurd h (Nat.lt_irrefl 0)
  | some n => rfl

theorem isSpawned_addSpawn : (d.addSpawn k g p).isSpawned k' x = true ↔
    d.isSpawned k' x = true ∨ k' = k ∧ x = g ∨ k' = .pool ∧ x = p := by
  cases k <;> cases k' <;> by_cases hx : x = p <;> by_cases hg : x = g <;>
    simp_all [addSpawn, increase]

theorem isSpawned_removeSpawn (hgp : k = .pool → g ≠ p) : (d.removeSpawn k g p).isSpawned k' x = true ↔
    d.isSpawned k' x = true ∧ ¬ (k' = k ∧ x = g) ∨ k' = .pool ∧ x = p := by
  cases k <;> cases k' <;> by_cases hx : x = p <;> by_cases hg : x = g <;>
    simp_all [removeSpawn, decrease]

theorem spawnedObjects_addSpawn (hgp : k = .pool → g ≠ p) : (d.addSpawn k g p).spawnedObjects q =
    if q = p then d.spawnedObjects p + 1 else if k = .pool ∧ q = g then 0 else d.spawnedObjects q := by
  cases k <;> by_cases hq : q = p <;> by_cases hg : q = g <;>
    simp_all [spawnedObjects, addSpawn, increase, Function.update_apply, eq_comm]

theorem spawnedObjects_removeSpawn (hgp : k = .pool → g ≠ p) : (d.removeSpawn k g p).spawnedObjects q =
    if q = p then d.spawnedObjects p - 1 else if k = .pool ∧ q = g then 0 else d.spawnedObjects q := by
  cases k <;> by_cases hq : q = p <;> by_cases hg : q = g <;>
    simp_all [spawnedObjects, removeSpawn, decrease, Function.update_apply, eq_comm]

end SpawnedPoolData

namespace PoolTable

variable {F : Type} {T : PoolTable F} {d d' : SpawnedPoolData} {k : PoolKind} {g p : Nat}

/-- How many of a pool's members of one kind are marked as spawned. -/
def markedOf (T : PoolTable F) (d : SpawnedPoolData) (k : PoolKind) (p : Nat) : Nat :=
  (T.members k p).countP fun o => d.isSpawned k o.guid

def marked (T : PoolTable F) (d : SpawnedPoolData) (p : Nat) : Nat :=
  T.markedOf d .creature p + T.markedOf d .gameobject p + T.markedOf d .pool p

/-- Every entry is the number of marked members; and what is marked is something that the table has. -/
structure Counted (T : PoolTable F) (d : SpawnedPoolData) : Prop where
  counts : ∀ p, d.spawnedObjects p = T.marked d p
  known : ∀ k g, d.isSpawned k g = true → g ≠ 0 ∧ (k ≠ .pool → T.poolOf k g ≠ 0)

theorem start_counted : T.Counted SpawnedPoolData.start := by
  have hnone : ∀ k p, T.markedOf start k p = 0 := by
    intro k p
    refine countP_eq_zero.2 fun o _ => ?_
    cases k <;> simp [start, isSpawned]
  refine ⟨fun p => ?_, fun k g h => ?_⟩
  · unfold marked
    rw [hnone, hnone, hnone]
    rfl
  · cases k <;> simp [start, isSpawned] at h

variable {o : PoolObject F}

theorem of_mem (h : o ∈ T.members k p) : T.poolOf k o.guid = p ∧ p ≠ 0 ∧ o.guid ≠ 0 :=
  (T.searched k p o.guid).1 ⟨o, h, rfl⟩

theorem exists_mem (h : T.poolOf k g = p) (hp : p ≠ 0) (hg : g ≠ 0) : ∃ o ∈ T.members k p, o.guid = g :=
  (T.searched k p g).2 ⟨h, hp, hg⟩

theorem countP_flip {l : List (PoolObject F)} (hl : (l.map PoolObject.guid).Nodup) (ho : o ∈ l)
    {f f' : Nat → Bool} (hold : f o.guid = false) (hnew : f' o.guid = true)
    (hrest : ∀ x ∈ l, x.guid ≠ o.guid → f' x.guid = f x.guid) :
    l.countP (fun x => f' x.guid) = l.countP (fun x => f x.guid) + 1 := by
  induction l with
  | nil => exact (not_mem_nil ho).elim
  | cons x l ih =>
    rw [map_cons, nodup_cons] at hl
    obtain ⟨hx, hl⟩ := hl
    rw [countP_cons, countP_cons]
    rcases mem_cons.1 ho with rfl | ho
    · have hsame : l.countP (fun x => f' x.guid) = l.countP (fun x => f x.guid) := by
        refine countP_congr fun y hy => ?_
        rw [hrest y (mem_cons_of_mem _ hy) fun heq => hx (mem_map.2 ⟨y, hy, heq⟩)]
      rw [hsame, hold, hnew]
      rfl
    · have hne : x.guid ≠ o.guid := fun heq => hx (heq ▸ mem_map_of_mem ho)
      rw [ih hl ho fun y hy => hrest y (mem_cons_of_mem _ hy), hrest x mem_cons_self hne]
      omega

theorem markedOf_congr (h : ∀ o ∈ T.members k p, d'.isSpawned k o.guid = d.isSpawned k o.guid) :
    T.markedOf d' k p = T.markedOf d k p := by
  unfold markedOf
  exact countP_congr fun o ho => by rw [h o ho]

/-- With one member more that is marked, its pool counts one more. -/
theorem marked_flip (hmember : T.poolOf k g = p) (hp : p ≠ 0) (hg : g ≠ 0) (hold : d.isSpawned k g = false)
    (hnew : d'.isSpawned k g = true)
    (hrest : ∀ k' x, ¬ (k' = k ∧ x = g) → T.poolOf k' x ≠ 0 → d'.isSpawned k' x = d.isSpawned k' x) (q : Nat) :
    T.marked d' q = T.marked d q + if q = p then 1 else 0 := by
  have hother : ∀ k', ¬ (k' = k ∧ q = p) → T.markedOf d' k' q = T.markedOf d k' q := by
    intro k' hne
    refine markedOf_congr fun o ho => hrest k' o.guid (fun heq => hne ⟨heq.1, ?_⟩) ?_
    · rw [← (of_mem ho).1, heq.1, heq.2, hmember]
    · rw [(of_mem ho).1]
      exact (of_mem ho).2.1
  have hself : q = p → T.markedOf d' k q = T.markedOf d k q + 1 := by
    rintro rfl
    obtain ⟨o, ho, rfl⟩ := exists_mem hmember hp hg
    refine countP_flip (T.listed k q) ho hold hnew fun x hx hne => hrest k x.guid (fun heq => hne heq.2) ?_
    rw [(of_mem hx).1]
    exact hp
  unfold marked
  by_cases hq : q = p
  · have hk := hself hq
    rw [if_pos hq]
    cases k with
    | creature => rw [hk, hother .gameobject (by simp), hother .pool (by simp)]; omega
    | gameobject => rw [hk, hother .creature (by simp), hother .pool (by simp)]; omega
    | pool => rw [hk, hother .creature (by simp), hother .gameobject (by simp)]; omega
  · rw [if_neg hq, hother _ (fun h => hq h.2), hother _ (fun h => hq h.2), hother _ (fun h => hq h.2)]
    rfl

theorem ne_of_child (hmember : T.poolOf k g = p) (hp : p ≠ 0) : k = .pool → g ≠ p := by
  rintro rfl rfl
  have := T.acyclic g (by rw [hmember]; exact hp)
  rw [hmember] at this
  exact absurd this (Nat.lt_irrefl _)

/-- What holds of a pool that may be spawned into: it is a top pool, or it is spawned itself. -/
def Up (T : PoolTable F) (d : SpawnedPoolData) (p : Nat) : Prop := p ≠ 0 ∧ (T.poolOf .pool p = 0 ∨ d.isSpawned .pool p = true)

structure Added (T : PoolTable F) (d d' : SpawnedPoolData) (k : PoolKind) (g p : Nat) : Prop where
  counted : T.Counted d'
  counts : ∀ q, d'.spawnedObjects q = d.spawnedObjects q + if q = p then 1 else 0
  spawned : ∀ k' x, d'.isSpawned k' x = true ↔ d.isSpawned k' x = true ∨ k' = k ∧ x = g ∨ k' = .pool ∧ x = p

/-- `AddSpawn` of a member that is not spawned. -/
theorem Counted.addSpawn (h : T.Counted d) (hmember : T.poolOf k g = p) (hg : g ≠ 0) (hnew : d.isSpawned k g = false)
    (hup : T.Up d p) : T.Added d (d.addSpawn k g p) k g p := by
  obtain ⟨hp, hup⟩ := hup
  have hgp := ne_of_child hmember hp
  have hspawned : ∀ k' x, (d.addSpawn k g p).isSpawned k' x = true ↔
      d.isSpawned k' x = true ∨ k' = k ∧ x = g ∨ k' = .pool ∧ x = p := fun _ _ => isSpawned_addSpawn
  have hcounts : ∀ q, (d.addSpawn k g p).spawnedObjects q = d.spawnedObjects q + if q = p then 1 else 0 := by
    intro q
    rw [spawnedObjects_addSpawn hgp]
    split_ifs with hq hpool
    · rw [hq]
    · obtain ⟨rfl, rfl⟩ := hpool
      by_contra hne
      have hpos : 0 < d.spawnedObjects q := Nat.pos_of_ne_zero fun hz => hne (by rw [hz])
      rw [spawnedObjects_pos hpos] at hnew
      cases hnew
    · rfl
  refine ⟨⟨fun q => ?_, fun k' x hx => ?_⟩, hcounts, hspawned⟩
  · rw [hcounts, h.counts, marked_flip hmember hp hg hnew ((hspawned k g).2 (.inr (.inl ⟨rfl, rfl⟩))) fun k' x hne hx => ?_]
    rw [Bool.eq_iff_iff, hspawned]
    constructor
    · rintro (hold | hself | ⟨rfl, rfl⟩)
      · exact hold
      · exact absurd hself hne
      · exact hup.resolve_left hx
    · exact .inl
  · rcases (hspawned k' x).1 hx with hold | ⟨rfl, rfl⟩ | ⟨rfl, rfl⟩
    · exact h.known k' x hold
    · exact ⟨hg, fun _ => by rw [hmember]; exact hp⟩
    · exact ⟨hp, fun hne => absurd rfl hne⟩

theorem Counted.pos_of_member (h : T.Counted d) (hmember : T.poolOf k g = p) (hp : p ≠ 0) (hmarked : d.isSpawned k g = true) :
    0 < d.spawnedObjects p := by
  obtain ⟨o, ho, rfl⟩ := exists_mem hmember hp (h.known k g hmarked).1
  have hpos : 0 < T.markedOf d k p := countP_pos_iff.2 ⟨o, ho, hmarked⟩
  rw [h.counts]
  unfold marked
  cases k <;> omega

structure Removed (T : PoolTable F) (d d' : SpawnedPoolData) (k : PoolKind) (g p : Nat) : Prop where
  counted : T.Counted d'
  counts : ∀ q, d.spawnedObjects q = d'.spawnedObjects q + if q = p then 1 else 0
  spawned : ∀ k' x, d'.isSpawned k' x = true ↔ d.isSpawned k' x = true ∧ ¬ (k' = k ∧ x = g)

/-- `RemoveSpawn` of a member that is spawned; a child pool has nothing spawned any more. -/
theorem Counted.removeSpawn (h : T.Counted d) (hmember : T.poolOf k g = p) (hp : p ≠ 0) (hmarked : d.isSpawned k g = true)
    (hempty : k = .pool → d.spawnedObjects g = 0) : T.Removed d (d.removeSpawn k g p) k g p := by
  have hgp := ne_of_child hmember hp
  have hpos := h.pos_of_member hmember hp hmarked
  have hup := spawnedObjects_pos hpos
  have hspawned : ∀ k' x, (d.removeSpawn k g p).isSpawned k' x = true ↔ d.isSpawned k' x = true ∧ ¬ (k' = k ∧ x = g) := by
    intro k' x
    rw [isSpawned_removeSpawn hgp]
    constructor
    · rintro (hold | ⟨rfl, rfl⟩)
      · exact hold
      · exact ⟨hup, fun heq => hgp heq.1.symm heq.2.symm⟩
    · exact .inl
  have hcounts : ∀ q, d.spawnedObjects q = (d.removeSpawn k g p).spawnedObjects q + if q = p then 1 else 0 := by
    intro q
    rw [spawnedObjects_removeSpawn hgp]
    split_ifs with hq hpool
    · rw [hq]
      omega
    · obtain ⟨rfl, rfl⟩ := hpool
      exact hempty rfl
    · rfl
  refine ⟨⟨fun q => ?_, fun k' x hx => h.known k' x ((hspawned k' x).1 hx).1⟩, hcounts, hspawned⟩
  have hgone : (d.removeSpawn k g p).isSpawned k g = false := by
    rw [Bool.eq_false_iff]
    exact fun htrue => ((hspawned k g).1 htrue).2 ⟨rfl, rfl⟩
  have hflip := marked_flip hmember hp (h.known k g hmarked).1 hgone hmarked (fun k' x hne _ => by
    rw [Bool.eq_iff_iff, hspawned]
    exact ⟨fun hold => ⟨hold, hne⟩, And.left⟩) q
  have h1 := hcounts q
  have h2 := h.counts q
  omega

end PoolTable

end ComfyCraft
