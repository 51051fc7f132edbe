import ComfyCraft.Pool.PoolSpawn

/-! What holds of the pools of a map after any sequence of events. -/

namespace ComfyCraft

open SpawnedPoolData

namespace PoolTable

variable {F : Type} {T : PoolTable F} {d d' : SpawnedPoolData} {k : PoolKind} {g p lvl : Nat}

structure Kept (T : PoolTable F) (d : SpawnedPoolData) : Prop where
  counted : T.Counted d
  limit : ∀ p, d.spawnedObjects p ≤ T.maxLimit p

theorem Kept.within (h : T.Kept d) (hw : T.Within lvl d d') : T.Kept d' := ⟨hw.counted, fun q => hw.keeps q (h.limit q)⟩

theorem Kept.less (h : T.Kept d) (hl : T.Less lvl d d') : T.Kept d' := ⟨hl.counted, fun q => (hl.le q).trans (h.limit q)⟩

/-- The pools from `p` up to a top pool are all spawned. -/
inductive Chain (T : PoolTable F) (d : SpawnedPoolData) : Nat → Prop
  | top {p : Nat} (hp : p ≠ 0) (hmarked : d.isSpawned .pool p = true) (htop : T.poolOf .pool p = 0) : Chain T d p
  | up {p : Nat} (hp : p ≠ 0) (hmarked : d.isSpawned .pool p = true) (hmother : Chain T d (T.poolOf .pool p)) : Chain T d p

section

variable (h : T.Counted d) (hmarked : d.isSpawned .pool p = true)
include h hmarked

theorem Counted.mother (hm : T.poolOf .pool p ≠ 0) : d.isSpawned .pool (T.poolOf .pool p) = true :=
  spawnedObjects_pos (h.pos_of_member rfl hm hmarked)

theorem Counted.chain : T.Chain d p := by
  induction hheight : T.height - T.rank p using Nat.strong_induction_on generalizing p with
  | _ n ih =>
    have hp := (h.known .pool p hmarked).1
    by_cases hm : T.poolOf .pool p = 0
    · exact Chain.top hp hmarked hm
    have hlt := T.acyclic p hm
    have hle := T.rank_le (T.poolOf .pool p)
    exact Chain.up hp hmarked (ih _ (by omega) (h.mother hmarked hm) rfl)

theorem Counted.up_of_marked : T.Up d p :=
  ⟨(h.known .pool p hmarked).1, .inr hmarked⟩

end

section
variable [Sub F] [Zero F] [LT F] [DecidableLT F] {w : PoolWorld F}

theorem spawns_pool (p : Nat) : T.Spawns (T.spawnPool w) .pool p := by
  intro child d hmember hp hchild h hmarked hempty
  have hlt := T.acyclic child (by rw [hmember]; exact hp)
  rw [hmember] at hlt
  exact ⟨(spawnPool_spec h ⟨hchild, .inr hmarked⟩ (by rw [hempty rfl]; exact Nat.zero_le _)).mono hlt, fun hk => absurd rfl hk⟩

theorem Kept.updatePool (h : T.Kept d) (hk : k ≠ .pool) (hmember : T.poolOf k g = p) (hmarked : d.isSpawned .pool p = true) :
    T.Kept (T.updatePool w k p g d) := by
  unfold PoolTable.updatePool
  split_ifs with hm
  · have hup := h.counted.up_of_marked (h.counted.mother hmarked hm)
    exact h.within (spawnObject_spec p (spawns_pool _) (despawns_pool _) (.inr ⟨rfl, rfl⟩) (fun _ => rfl) h.counted hup (h.limit _)).1
  have hspec := (spawnObject_spec (w := w) g (spawns_id k p) (despawns_id hk p) (.inl ⟨hk, rfl⟩) (fun _ => hmember) h.counted
    (h.counted.up_of_marked hmarked) (h.limit p)).1
  cases k with
  | creature => exact h.within hspec
  | gameobject => exact h.within hspec
  | pool => exact absurd rfl hk

theorem Counted.pool_marked (h : T.Counted d) (hk : k ≠ .pool) (hmarked : d.isSpawned k g = true) :
    d.isSpawned .pool (T.poolOf k g) = true :=
  spawnedObjects_pos (h.pos_of_member rfl ((h.known k g hmarked).2 hk) hmarked)

theorem Kept.step (h : T.Kept d) (e : PoolEvent F) : T.Kept (T.step d e) := by
  cases e with
  | spawnPool p w =>
    unfold PoolTable.step
    dsimp only
    split_ifs with htop
    · exact h.within (spawnPool_spec h.counted ⟨htop.1, .inl htop.2⟩ (h.limit p)).toWithin
    · exact h
  | despawnPool p =>
    unfold PoolTable.step
    dsimp only
    split_ifs
    · exact h.less (despawnPool_spec h.counted p).1
    · exact h
  | creatureReady guid w =>
    unfold PoolTable.step
    dsimp only
    split_ifs with hmarked
    · exact h.updatePool (by decide) rfl (h.counted.pool_marked (by decide) hmarked)
    · exact h
  | gameobjectReady guid w =>
    unfold PoolTable.step
    dsimp only
    split_ifs with hmarked
    · obtain ⟨hless, hkey, -⟩ := (despawns_id (T := T) (k := .gameobject) (by decide) _).object h.counted guid
      exact (h.less hless).updatePool (by decide) rfl (hkey.trans (h.counted.pool_marked (by decide) hmarked))
    · exact h
  | deleteGameobject guid =>
    exact h.less ((despawns_id (T := T) (k := .gameobject) (by decide) _).object h.counted guid).1
  | setExclude k guid state => exact ⟨⟨h.counted.counts, h.counted.known⟩, h.limit⟩

theorem start_kept : T.Kept SpawnedPoolData.start := ⟨start_counted, fun _ => Nat.zero_le _⟩

/-- After any events the count of each pool is the number of its members that are spawned, within its limit, and what
is spawned has all the pools above it spawned. -/
theorem pools_kept (T : PoolTable F) (es : List (PoolEvent F)) : let d := Runs.run T.step start es
    (∀ p, d.spawnedObjects p = T.marked d p ∧ d.spawnedObjects p ≤ T.maxLimit p) ∧
      ∀ k g, k ≠ .pool → d.isSpawned k g = true → T.Chain d (T.poolOf k g) := by
  have h : T.Kept (Runs.run T.step start es) := Runs.always (fun _ e hd => hd.step e) start_kept es
  exact ⟨fun p => ⟨h.counted.counts p, h.limit p⟩, fun k g hk hmarked => h.counted.chain (h.counted.pool_marked hk hmarked)⟩

end

end PoolTable

end ComfyCraft
