import ComfyCraft.Lib.Runs
import ComfyCraft.Pool.PoolDespawn

/-! What `SpawnObject` and `SpawnPool` do. In the loop of `SpawnObject` a pool may be over its limit by the trigger that is
still spawned; the first that is spawned besides takes the trigger's place, so at the end no pool is over its limit. -/

namespace ComfyCraft

open List Bool Nat Int

namespace PoolTable

variable {F : Type} {T : PoolTable F} {w : PoolWorld F} {d d' : SpawnedPoolData} {k : PoolKind} {g p lvl : Nat}

/-- No pool gets over its limit, and only entries below a level change. -/
structure Within (T : PoolTable F) (lvl : Nat) (d d' : SpawnedPoolData) : Prop where
  counted : T.Counted d'
  keeps : ∀ q, d.spawnedObjects q ≤ T.maxLimit q → d'.spawnedObjects q ≤ T.maxLimit q
  above : ∀ q, lvl ≤ T.rank q → d'.spawnedObjects q = d.spawnedObjects q

/-- And no mark is taken away. -/
structure More (T : PoolTable F) (lvl : Nat) (d d' : SpawnedPoolData) : Prop extends Within T lvl d d' where
  more : ∀ k g, d.isSpawned k g = true → d'.isSpawned k g = true

theorem More.refl (h : T.Counted d) (lvl : Nat) : T.More lvl d d where
  counted := h
  keeps _ hq := hq
  above _ _ := rfl
  more _ _ h := h

variable {d'' : SpawnedPoolData}

theorem More.trans (h1 : T.More lvl d d') (h2 : T.More lvl d' d'') : T.More lvl d d'' where
  counted := h2.counted
  keeps q hq := h2.keeps q (h1.keeps q hq)
  above q hq := (h2.above q hq).trans (h1.above q hq)
  more k g h := h2.more k g (h1.more k g h)

theorem More.mono (h : T.More lvl d d') {lvl' : Nat} (hle : lvl ≤ lvl') : T.More lvl' d d' where
  counted := h.counted
  keeps := h.keeps
  above q hq := h.above q (hle.trans hq)
  more := h.more

theorem More.up (h : T.More lvl d d') {q : Nat} (hup : T.Up d q) : T.Up d' q := ⟨hup.1, hup.2.imp_right (h.more .pool q)⟩

/-- What is asked of `Spawn1Object` of a member that has just been marked. -/
def Spawns (T : PoolTable F) (spawn1 : Nat → SpawnedPoolData → SpawnedPoolData) (k : PoolKind) (p : Nat) : Prop :=
  ∀ g d, T.poolOf k g = p → p ≠ 0 → g ≠ 0 → T.Counted d → d.isSpawned k g = true → (k = .pool → d.spawnedObjects g = 0) →
    T.More (T.rank p) d (spawn1 g d) ∧ (k ≠ .pool → spawn1 g d = d)

theorem spawns_id (k : PoolKind) (p : Nat) : T.Spawns (fun _ d => d) k p :=
  fun _ _ _ _ _ h _ _ => ⟨More.refl h _, fun _ => rfl⟩

variable {spawn1 despawn1 : Nat → SpawnedPoolData → SpawnedPoolData}

/-- What holds of a pool that is spawned into, its own limit apart. -/
structure Grown (T : PoolTable F) (p : Nat) (d d' : SpawnedPoolData) : Prop where
  counted : T.Counted d'
  keeps : ∀ q, q ≠ p → d.spawnedObjects q ≤ T.maxLimit q → d'.spawnedObjects q ≤ T.maxLimit q
  above : ∀ q, T.rank p < T.rank q → d'.spawnedObjects q = d.spawnedObjects q
  more : ∀ k g, d.isSpawned k g = true → d'.isSpawned k g = true

theorem Grown.refl (h : T.Counted d) : T.Grown p d d := ⟨h, fun _ _ => id, fun _ _ => rfl, fun _ _ => id⟩

theorem Grown.trans (h1 : T.Grown p d d') (h2 : T.Grown p d' d'') : T.Grown p d d'' where
  counted := h2.counted
  keeps q hq hle := h2.keeps q hq (h1.keeps q hq hle)
  above q hq := (h2.above q hq).trans (h1.above q hq)
  more k g h := h2.more k g (h1.more k g h)

theorem Grown.up (h : T.Grown p d d') (hup : T.Up d p) : T.Up d' p := ⟨hup.1, hup.2.imp_right (h.more .pool p)⟩

/-- One member more is spawned. -/
structure Entered (T : PoolTable F) (k : PoolKind) (g p : Nat) (d d' : SpawnedPoolData) : Prop extends Grown T p d d' where
  one : d'.spawnedObjects p = d.spawnedObjects p + 1
  same : k ≠ .pool → ∀ x, x ≠ g → d'.isSpawned k x = d.isSpawned k x

section

variable (hS : T.Spawns spawn1 k p) (h : T.Counted d) (hmember : T.poolOf k g = p) (hg : g ≠ 0)
  (hnew : d.isSpawned k g = false) (hup : T.Up d p)
include hS h hmember hg hnew hup

theorem Spawns.added : T.Added d (d.addSpawn k g p) k g p ∧ T.More (T.rank p) (d.addSpawn k g p) (spawn1 g (d.addSpawn k g p)) ∧
      (k ≠ .pool → spawn1 g (d.addSpawn k g p) = d.addSpawn k g p) := by
  have hadded := h.addSpawn hmember hg hnew hup
  have hempty : k = .pool → (d.addSpawn k g p).spawnedObjects g = 0 := by
    intro hk
    rw [hadded.counts, if_neg (ne_of_child hmember hup.1 hk)]
    by_contra hne
    rw [hk, SpawnedPoolData.spawnedObjects_pos (Nat.pos_of_ne_zero hne)] at hnew
    cases hnew
  exact ⟨hadded,
    hS g (d.addSpawn k g p) hmember hup.1 hg hadded.counted ((hadded.spawned k g).2 (.inr (.inl ⟨rfl, rfl⟩))) hempty⟩

theorem Spawns.enter : T.Entered k g p d (spawn1 g (d.addSpawn k g p)) := by
  obtain ⟨hadded, hmore, hid⟩ := hS.added h hmember hg hnew hup
  have hcount := hadded.counts
  refine ⟨⟨hmore.counted, fun q hq hle => ?_, fun q hq => ?_, fun k' x hx => ?_⟩, ?_, fun hk x hx => ?_⟩
  · refine hmore.keeps q ?_
    rw [hcount, if_neg hq]
    exact hle
  · have hne : q ≠ p := by
      rintro rfl
      omega
    rw [hmore.above q (by omega), hcount, if_neg hne]
    rfl
  · exact hmore.more k' x ((hadded.spawned k' x).2 (.inl hx))
  · rw [hmore.above p (le_refl _), hcount, if_pos rfl]
  · rw [hid hk, Bool.eq_iff_iff, hadded.spawned]
    refine ⟨?_, .inl⟩
    rintro (hold | ⟨-, heq⟩ | ⟨heq, -⟩)
    · exact hold
    · exact absurd heq hx
    · exact absurd heq hk

end

/-! The roll. -/

theorem bmod_cases {x : Int} (h0 : 0 ≤ x) (h : x < 2 ^ 32) :
    Int.bmod x (2 ^ 32) = x ∧ x < 2 ^ 31 ∨ Int.bmod x (2 ^ 32) = x - 2 ^ 32 ∧ 2 ^ 31 ≤ x := by
  have hpow : ((2 ^ 32 : Nat) : Int) = 2 ^ 32 := rfl
  rw [bmod_def, hpow]
  split_ifs <;> omega

/-! The rounds of the loop. -/

/-- Before a round, with `n` to go, for the pool `p` and a trigger that is spawned or not. -/
structure Round (T : PoolTable F) (k : PoolKind) (p trigger mother : Nat) (isTriggerSpawned : Bool) (d : SpawnedPoolData)
    (n : Nat) (s : Spawning) : Prop where
  counted : T.Counted s.data
  up : T.Up s.data p
  keeps : ∀ q, q ≠ p → d.spawnedObjects q ≤ T.maxLimit q → s.data.spawnedObjects q ≤ T.maxLimit q
  above : ∀ q, T.rank p < T.rank q → s.data.spawnedObjects q = d.spawnedObjects q
  more : isTriggerSpawned = false → ∀ k g, d.isSpawned k g = true → s.data.isSpawned k g = true
  phase : (isTriggerSpawned = true ∧ s.data.isSpawned k trigger = true ∧ (mother = 0 → s.triggerFrom = trigger) ∧
      s.data.spawnedObjects p = d.spawnedObjects p ∧ s.data.spawnedObjects p + n ≤ T.maxLimit p + 1) ∨
    (s.data.spawnedObjects p + n ≤ T.maxLimit p ∧ (isTriggerSpawned = true → mother = 0 → s.triggerFrom = 0) ∧
      (isTriggerSpawned = false → mother = 0 → s.triggerFrom = 0 ∨ s.triggerFrom = trigger ∧ s.data.isSpawned k trigger = false))

variable {trigger mother n : Nat} {isTriggerSpawned : Bool} {s : Spawning}

theorem Round.end_le (h : T.Round k p trigger mother isTriggerSpawned d n s) (hlimit : d.spawnedObjects p ≤ T.maxLimit p) :
    s.data.spawnedObjects p ≤ T.maxLimit p := by
  rcases h.phase with ⟨-, -, -, hsame, -⟩ | ⟨hle, -⟩
  · omega
  · omega

theorem Round.idle (h : T.Round k p trigger mother isTriggerSpawned d (n + 1) s) {triggerFrom : Nat}
    (htrigger : mother = 0 → triggerFrom = s.triggerFrom) (lastDespawned rolled : Nat) :
    T.Round k p trigger mother isTriggerSpawned d n ⟨{ s.data with rolled := rolled }, triggerFrom, lastDespawned⟩ := by
  refine ⟨⟨h.counted.counts, h.counted.known⟩, h.up, h.keeps, h.above, h.more, ?_⟩
  rcases h.phase with ⟨h1, h2, h3, h4, h5⟩ | ⟨h1, h2, h3⟩
  · exact .inl ⟨h1, h2, fun hm => (htrigger hm).trans (h3 hm), h4, by change s.data.spawnedObjects p + n ≤ _; omega⟩
  refine .inr ⟨by change s.data.spawnedObjects p + n ≤ _; omega, fun ht hm => (htrigger hm).trans (h2 ht hm), fun ht hm => ?_⟩
  rcases h3 ht hm with hzero | ⟨heq, hfree⟩
  · exact .inl ((htrigger hm).trans hzero)
  · exact .inr ⟨(htrigger hm).trans heq, hfree⟩

section
variable [Sub F] [Zero F] [LT F] [DecidableLT F]

variable {o : PoolObject F}

theorem rollExplicit_some {ok : PoolObject F → Bool} {roll : F} {os : List (PoolObject F)}
    (h : rollExplicit ok roll os = some o) : o ∈ os ∧ ok o = true := by
  induction os generalizing roll with
  | nil => cases h
  | cons x os ih =>
    unfold rollExplicit at h
    split_ifs at h with hx
    · cases h
      exact ⟨mem_cons_self, hx.2⟩
    · exact ⟨mem_cons_of_mem x (ih h).1, (ih h).2⟩

theorem rollOne_some {triggerFrom : Nat} (h : T.rollOne w d k p triggerFrom = some o) :
    o ∈ T.members k p ∧ (o.guid = triggerFrom ∨ d.isSpawned k o.guid = false) := by
  have hok : o ∈ T.members k p ∧ eligible w d k triggerFrom o = true := by
    unfold rollOne at h
    dsimp only at h
    split at h
    · rename_i x hx
      cases h
      exact ⟨mem_append_right _ (rollExplicit_some hx).1, (rollExplicit_some hx).2⟩
    · obtain ⟨ho, hok⟩ := mem_filter.1 (mem_of_getElem? h)
      exact ⟨mem_append_left _ ho, hok⟩
  refine ⟨hok.1, ?_⟩
  have := hok.2
  unfold eligible at this
  simp only [and_eq_true, or_eq_true, decide_eq_true_eq, not_eq_true'] at this
  exact this.2

section

variable (hS : T.Spawns spawn1 k p) (hD : T.Despawns despawn1 k p)
  (hmother : k ≠ .pool ∧ mother = 0 ∨ k = .pool ∧ mother = p)
  (htrigger : isTriggerSpawned = true → T.poolOf k trigger = p ∧ trigger ≠ 0)
include hS hD hmother htrigger

theorem Round.step (h : T.Round k p trigger mother isTriggerSpawned d (n + 1) s) :
    T.Round k p trigger mother isTriggerSpawned d n (T.spawnOne w spawn1 despawn1 k p trigger mother isTriggerSpawned s) := by
  have hp := h.up.1
  unfold spawnOne
  dsimp only
  have hfrom : mother = 0 → (if mother ≠ 0 then mother else s.triggerFrom) = s.triggerFrom := fun hm => if_neg (not_not.2 hm)
  have hfromMother : mother ≠ 0 → (if mother ≠ 0 then mother else s.triggerFrom) = p := fun hm =>
    (if_pos hm).trans (hmother.resolve_left fun hzero => hm hzero.2).2
  generalize (if mother ≠ 0 then mother else s.triggerFrom) = triggerFrom at hfrom hfromMother
  split
  · exact h.idle hfrom s.lastDespawned (s.data.rolled + 1)
  rename_i o hroll
  obtain ⟨ho, helig⟩ := rollOne_some hroll
  obtain ⟨hmember, -, hg⟩ := of_mem ho
  -- the pool itself is never one of its members
  have hnotMother : o.guid = triggerFrom → mother = 0 := by
    intro heq
    by_contra hm
    exact ne_of_child hmember hp (hmother.resolve_left fun hzero => hm hzero.2).1 (heq.trans (hfromMother hm))
  split
  · exact h.idle hfrom s.lastDespawned (s.data.rolled + 1)
  by_cases hrespawn : o.guid = triggerFrom ∧ isTriggerSpawned = true
  · rw [if_pos hrespawn]
    have hm := hnotMother hrespawn.1
    refine ⟨⟨h.counted.counts, h.counted.known⟩, h.up, h.keeps, h.above, h.more, ?_⟩
    rcases h.phase with ⟨-, -, -, -, hle⟩ | ⟨-, hzero, -⟩
    · refine .inr ⟨?_, fun _ _ => rfl, fun _ _ => .inl rfl⟩
      change s.data.spawnedObjects p + n ≤ _
      omega
    · exact absurd (hrespawn.1.trans ((hfrom hm).trans (hzero hrespawn.2 hm))) hg
  rw [if_neg hrespawn]
  have hnew : s.data.isSpawned k o.guid = false := by
    rcases helig with heq | hnew
    · have hm := hnotMother heq
      rcases h.phase with ⟨ht, -⟩ | ⟨-, -, hfree⟩
      · exact absurd ⟨heq, ht⟩ hrespawn
      have ht : isTriggerSpawned = false := eq_false_iff.2 fun ht => hrespawn ⟨heq, ht⟩
      rcases hfree ht hm with hzero | ⟨htrig, hfree⟩
      · exact absurd (heq.trans ((hfrom hm).trans hzero)) hg
      · rw [heq, hfrom hm, htrig]
        exact hfree
    · exact hnew
  have hentered := hS.enter (d := { s.data with rolled := s.data.rolled + 1 }) ⟨h.counted.counts, h.counted.known⟩ hmember hg hnew h.up
  generalize spawn1 o.guid _ = d1 at hentered ⊢
  have hcount : d1.spawnedObjects p = s.data.spawnedObjects p + 1 := hentered.one
  have hup : T.Up d1 p := hentered.up h.up
  by_cases hone : triggerFrom ≠ 0 ∧ isTriggerSpawned = true
  · -- one spawn, one despawn
    rw [if_pos hone]
    obtain ⟨htf, ht⟩ := hone
    obtain ⟨htm, htz⟩ := htrigger ht
    have hdisposed : (if mother ≠ 0 then trigger else triggerFrom) = trigger := by
      by_cases hm : mother = 0
      · rw [if_neg (not_not.2 hm), hfrom hm]
        rcases h.phase with ⟨-, -, heq, -⟩ | ⟨-, hzero, -⟩
        · exact heq hm
        · exact absurd ((hfrom hm).trans (hzero ht hm)) htf
      · exact if_pos hm
    rw [hdisposed, despawnObject_one htz htm hp]
    split_ifs with hmarked
    · obtain ⟨hless, hminus, -, hkey⟩ := hD.one hentered.counted htm hp hmarked
      refine ⟨hless.counted, ⟨hp, ?_⟩, fun q hq hle => ?_, fun q hq => ?_, fun hf => Bool.noConfusion (ht.symm.trans hf),
        .inr ⟨?_, fun _ _ => rfl, fun _ _ => .inl rfl⟩⟩
      · rw [hkey]
        exact hup.2
      · exact (hless.le q).trans (hentered.keeps q hq (h.keeps q hq hle))
      · exact ((hless.above q (by omega)).1.trans (hentered.above q hq)).trans (h.above q hq)
      · change ((despawn1 trigger d1).removeSpawn k trigger p).spawnedObjects p + n ≤ _
        rcases h.phase with ⟨-, -, -, -, hle⟩ | ⟨hle, -⟩ <;> omega
    · refine ⟨hentered.counted, hup, fun q hq hle => hentered.keeps q hq (h.keeps q hq hle),
        fun q hq => (hentered.above q hq).trans (h.above q hq), fun hf => Bool.noConfusion (ht.symm.trans hf),
        .inr ⟨?_, fun _ _ => rfl, fun _ _ => .inl rfl⟩⟩
      change d1.spawnedObjects p + n ≤ _
      rcases h.phase with ⟨-, hold, -⟩ | ⟨hle, -⟩
      · exact absurd (hentered.more k trigger hold) hmarked
      · omega
  · rw [if_neg hone]
    have hsettled : s.data.spawnedObjects p + (n + 1) ≤ T.maxLimit p ∧ (isTriggerSpawned = true → triggerFrom = 0) ∧
        (isTriggerSpawned = false → mother = 0 → s.triggerFrom = 0 ∨ s.triggerFrom = trigger ∧ s.data.isSpawned k trigger = false) := by
      have hzero : isTriggerSpawned = true → triggerFrom = 0 := fun ht => by
        by_contra hne
        exact hone ⟨hne, ht⟩
      rcases h.phase with ⟨ht, -, heq, -⟩ | ⟨hle, -, hfree⟩
      · have hm : mother = 0 := by
          by_contra hm
          exact hp ((hfromMother hm).symm.trans (hzero ht))
        exact absurd ((heq hm).symm.trans ((hfrom hm).symm.trans (hzero ht))) (htrigger ht).2
      · exact ⟨hle, hzero, hfree⟩
    obtain ⟨hle, hzero, hfree⟩ := hsettled
    refine ⟨hentered.counted, hup, fun q hq hle => hentered.keeps q hq (h.keeps q hq hle),
      fun q hq => (hentered.above q hq).trans (h.above q hq), fun hf k' x hx => hentered.more k' x (h.more hf k' x hx),
      .inr ⟨?_, fun ht hm => ?_, fun ht hm => ?_⟩⟩
    · change d1.spawnedObjects p + n ≤ _
      omega
    · dsimp only
      rw [hzero ht]
      split_ifs <;> rfl
    dsimp only
    split_ifs with heq
    · exact .inl rfl
    rcases hfree ht hm with hz | ⟨htrig, hunmarked⟩
    · exact .inl ((hfrom hm).trans hz)
    have hk : k ≠ .pool := by
      rcases hmother with hk | ⟨-, hmp⟩
      · exact hk.1
      · exact absurd (hmp.symm.trans hm) hp
    have hne : trigger ≠ o.guid := fun h' => heq ((hfrom hm).trans (htrig.trans h'))
    exact .inr ⟨(hfrom hm).trans htrig, (hentered.same hk trigger hne).trans hunmarked⟩

theorem Round.all (h : T.Round k p trigger mother isTriggerSpawned d n s) :
    T.Round k p trigger mother isTriggerSpawned d 0
      (Nat.iterate (T.spawnOne w spawn1 despawn1 k p trigger mother isTriggerSpawned) n s) := by
  induction n generalizing s with
  | zero => exact h
  | succ n ih =>
    rw [Function.iterate_succ_apply]
    exact ih (h.step hS hD hmother htrigger)

end

end

/-! A map that is loaded. -/

/-- The count goes down to zero; one that is past the signed numbers never comes back to it. -/
theorem loaded_fold (hS : T.Spawns spawn1 k p) (l : List (PoolObject F)) (hl : ∀ o ∈ l, o ∈ T.members k p)
    (hnodup : (l.map PoolObject.guid).Nodup) (c : Int × SpawnedPoolData) (h : T.Counted c.2) (hup : T.Up c.2 p)
    (hfree : ∀ o ∈ l, c.2.isSpawned k o.guid = false)
    (hc : 0 ≤ c.1 ∧ c.2.spawnedObjects p + c.1 ≤ T.maxLimit p ∨ c.1 < 0 ∧ c.2.spawnedObjects p + l.length ≤ T.maxLimit p) :
    let r := l.foldl (fun (c : Int × SpawnedPoolData) o =>
      if c.1 ≠ 0 ∧ hasRespawnTime w k o.guid then (c.1 - 1, spawn1 o.guid (c.2.addSpawn k o.guid p)) else c) c
    T.Grown p c.2 r.2 ∧ r.2.spawnedObjects p + r.1.toNat ≤ T.maxLimit p := by
  induction l generalizing c with
  | nil =>
    refine ⟨Grown.refl h, ?_⟩
    change c.2.spawnedObjects p + c.1.toNat ≤ _
    rcases hc with hc | hc
    · omega
    have := hc.2
    simp only [length_nil] at this
    omega
  | cons o l ih =>
    rw [map_cons, nodup_cons] at hnodup
    obtain ⟨hx, hnodup⟩ := hnodup
    have hl' := fun x hx => hl x (mem_cons_of_mem o hx)
    have hfree' := fun x hx => hfree x (mem_cons_of_mem o hx)
    rw [length_cons] at hc
    rw [foldl_cons]
    split_ifs with hact
    · have hk : k ≠ .pool := by
        rintro rfl
        cases hact.2
      obtain ⟨hmember, -, hg⟩ := of_mem (hl o mem_cons_self)
      have hentered := hS.enter h hmember hg (hfree o mem_cons_self) hup
      have hone := hentered.one
      obtain ⟨hgrown, hle⟩ := ih hl' hnodup (c.1 - 1, spawn1 o.guid (c.2.addSpawn k o.guid p)) hentered.counted (hentered.up hup)
        (fun x hxl => (hentered.same hk x.guid fun heq => hx (mem_map.2 ⟨x, hxl, heq⟩)).trans (hfree' x hxl))
        (by have := hact.1; dsimp only; omega)
      exact ⟨hentered.toGrown.trans hgrown, hle⟩
    · exact ih hl' hnodup c h hup hfree' (by omega)

theorem spawnLoaded_spec (hS : T.Spawns spawn1 k p) (h : T.Counted d) (hup : T.Up d p)
    (hlimit : d.spawnedObjects p ≤ T.maxLimit p)
    (hload : Int.bmod ((T.maxLimit p : Int) - d.spawnedObjects p) (2 ^ 32) = Int.bmod (T.maxLimit p) (2 ^ 32)) :
    let r := T.spawnLoaded w spawn1 k p (bmod ((T.maxLimit p : Int) - d.spawnedObjects p) (2 ^ 32)) d
    T.Grown p d r.2 ∧ r.2.spawnedObjects p + r.1.toNat ≤ T.maxLimit p := by
  have hlt := T.limit_lt p
  have hcases := bmod_cases (x := (T.maxLimit p : Int) - d.spawnedObjects p) (by omega) (by omega)
  have hzero : d.spawnedObjects p = 0 := by
    have hcases' := bmod_cases (x := (T.maxLimit p : Int)) (by omega) (by omega)
    rw [← hload] at hcases'
    omega
  have hfree : ∀ o ∈ T.members k p, d.isSpawned k o.guid = false := by
    intro o ho
    obtain ⟨hmember, hp, -⟩ := of_mem ho
    refine eq_false_iff.2 fun hmarked => ?_
    have := h.pos_of_member hmember hp hmarked
    omega
  have hlength := T.length_lt k p
  have hlisted := T.listed k p
  unfold spawnLoaded
  dsimp only
  have hpart : ∀ l : List (PoolObject F), List.Sublist l (T.members k p) →
      let r := l.foldl (fun (c : Int × SpawnedPoolData) o =>
        if c.1 ≠ 0 ∧ hasRespawnTime w k o.guid then (c.1 - 1, spawn1 o.guid (c.2.addSpawn k o.guid p)) else c)
        (bmod ((T.maxLimit p : Int) - d.spawnedObjects p) (2 ^ 32), d)
      T.Grown p d r.2 ∧ r.2.spawnedObjects p + r.1.toNat ≤ T.maxLimit p := by
    intro l hl
    have hle : l.length < 2 ^ 31 := lt_of_le_of_lt hl.length_le hlength
    refine loaded_fold hS l (fun o ho => hl.subset ho) ((hl.map PoolObject.guid).nodup hlisted)
      (bmod ((T.maxLimit p : Int) - d.spawnedObjects p) (2 ^ 32), d) h hup (fun o ho => hfree o (hl.subset ho)) ?_
    dsimp only
    omega
  split_ifs
  · exact hpart _ (sublist_append_left _ _)
  · exact hpart _ (sublist_append_right _ _)

theorem despawns_pool (p : Nat) : T.Despawns T.despawnPool .pool p := by
  intro child d hmember hp h hmarked
  obtain ⟨hless, hkey, hzero⟩ := despawnPool_spec h child
  have hlt := T.acyclic child (by rw [hmember]; exact hp)
  rw [hmember] at hlt
  exact ⟨hless.mono hlt, hkey.trans hmarked, fun _ => hzero⟩

section
variable [Sub F] [Zero F] [LT F] [DecidableLT F]

/-- `SpawnObject` of a pool that may be spawned into keeps it within its limit; with no trigger it takes no mark away. -/
theorem spawnObject_spec (trigger : Nat) (hS : T.Spawns spawn1 k p) (hD : T.Despawns despawn1 k p)
    (hmother : k ≠ .pool ∧ mother = 0 ∨ k = .pool ∧ mother = p) (htrigger : trigger ≠ 0 → T.poolOf k trigger = p)
    (h : T.Counted d) (hup : T.Up d p) (hlimit : d.spawnedObjects p ≤ T.maxLimit p) :
    T.Within (T.rank p + 1) d (T.spawnObject w spawn1 despawn1 k p trigger mother d) ∧
      (trigger = 0 → T.More (T.rank p + 1) d (T.spawnObject w spawn1 despawn1 k p trigger mother d)) := by
  have hlt := T.limit_lt p
  have hcases := bmod_cases (x := (T.maxLimit p : Int) - d.spawnedObjects p) (by omega) (by omega)
  have hnoTrigger : trigger = 0 → d.isSpawned k trigger = false := fun hz =>
    eq_false_iff.2 fun hmarked => (h.known k trigger hmarked).1 hz
  -- what holds of any start from which the rounds can be made
  have hrounds : ∀ (count : Int) (d1 : SpawnedPoolData), T.Grown p d d1 →
      (trigger ≠ 0 → d1 = d ∧ d.spawnedObjects p + count.toNat ≤ T.maxLimit p + if d.isSpawned k trigger then 1 else 0) →
      (trigger = 0 → d1.spawnedObjects p + count.toNat ≤ T.maxLimit p) →
      let r := (Nat.iterate (T.spawnOne w spawn1 despawn1 k p trigger mother (d.isSpawned k trigger)) count.toNat ⟨d1, trigger, 0⟩).data
      T.Within (T.rank p + 1) d r ∧ (trigger = 0 → T.More (T.rank p + 1) d r) := by
    intro count d1 hgrown hspawned hfresh
    have hround : T.Round k p trigger mother (d.isSpawned k trigger) d count.toNat ⟨d1, trigger, 0⟩ := by
      refine ⟨hgrown.counted, hgrown.up hup, hgrown.keeps, hgrown.above, fun _ => hgrown.more, ?_⟩
      by_cases hz : trigger = 0
      · exact .inr ⟨hfresh hz, fun ht => (Bool.noConfusion ((hnoTrigger hz).symm.trans ht)), fun _ _ => .inl hz⟩
      obtain ⟨rfl, hle⟩ := hspawned hz
      split_ifs at hle with ht
      · exact .inl ⟨ht, ht, fun _ => rfl, rfl, hle⟩
      · exact .inr ⟨hle, fun ht' => absurd ht' ht, fun hf _ => .inr ⟨rfl, hf⟩⟩
    have hend := hround.all (w := w) hS hD hmother fun ht => by
      have hz : trigger ≠ 0 := (h.known k trigger ht).1
      exact ⟨htrigger hz, hz⟩
    generalize Nat.iterate _ _ _ = s at hend ⊢
    have hwithin : T.Within (T.rank p + 1) d s.data := by
      refine ⟨hend.counted, fun q hq => ?_, fun q hq => hend.above q hq⟩
      by_cases hqp : q = p
      · subst hqp
        exact hend.end_le hlimit
      · exact hend.keeps q hqp hq
    exact ⟨hwithin, fun hz => ⟨hwithin, hend.more (hnoTrigger hz)⟩⟩
  unfold spawnObject
  dsimp only
  by_cases hz : trigger = 0
  · rw [if_neg (not_not.2 hz)]
    split_ifs with hload
    · obtain ⟨hgrown, hle⟩ := spawnLoaded_spec (w := w) hS h hup hlimit hload.2
      exact hrounds _ _ hgrown (fun hne => absurd hz hne) fun _ => hle
    · exact hrounds _ _ (Grown.refl h) (fun hne => absurd hz hne) fun _ => by
        dsimp only
        omega
  · rw [if_pos hz]
    refine hrounds _ _ (Grown.refl h) (fun _ => ⟨rfl, ?_⟩) fun hz' => absurd hz' hz
    split_ifs <;> omega

/-- `SpawnPool` of a pool that may be spawned into. -/
theorem spawnPool_spec (h : T.Counted d) (hup : T.Up d p) (hlimit : d.spawnedObjects p ≤ T.maxLimit p) :
    T.More (T.rank p + 1) d (T.spawnPool w p d) := by
  induction hrank : T.rank p using Nat.strong_induction_on generalizing p d with
  | _ r ih =>
    subst hrank
    have hpools : T.Spawns (fun child d => if T.rank child < T.rank p then T.spawnPool w child d else d) .pool p := by
      intro child d hmember hp hchild hd hmarked hempty
      have hlt := T.acyclic child (by rw [hmember]; exact hp)
      rw [hmember] at hlt
      dsimp only
      rw [if_pos hlt]
      have hmore := ih (T.rank child) hlt hd ⟨hchild, .inr hmarked⟩ (by rw [hempty rfl]; exact zero_le _) rfl
      exact ⟨hmore.mono hlt, fun hk => absurd rfl hk⟩
    unfold spawnPool
    have h1 := (spawnObject_spec (w := w) 0 hpools (despawns_pool p) (.inr ⟨rfl, rfl⟩) (absurd rfl) h hup hlimit).2 rfl
    have h2 := (spawnObject_spec (w := w) 0 (spawns_id .gameobject p) (despawns_id (by decide) p)
      (.inl ⟨by decide, rfl⟩) (absurd rfl) h1.counted (h1.up hup) (h1.keeps p hlimit)).2 rfl
    have h12 := h1.trans h2
    have h3 := (spawnObject_spec (w := w) 0 (spawns_id .creature p) (despawns_id (by decide) p)
      (.inl ⟨by decide, rfl⟩) (absurd rfl) h12.counted (h12.up hup) (h12.keeps p hlimit)).2 rfl
    exact h12.trans h3

end

end PoolTable

end ComfyCraft
