import ComfyCraft.Pool.PoolCount

/-! What `DespawnObject` and `DespawnPool` do: they only take marks away, of a pool and of what is below it. -/

namespace ComfyCraft

open List Bool

namespace PoolTable

variable {F : Type} {T : PoolTable F} {d d' : SpawnedPoolData} {k : PoolKind} {g p lvl : Nat}

/-- Marks are only taken away, and only below a level. -/
structure Less (T : PoolTable F) (lvl : Nat) (d d' : SpawnedPoolData) : Prop where
  counted : T.Counted d'
  le : ∀ q, d'.spawnedObjects q ≤ d.spawnedObjects q
  fewer : ∀ k g, d'.isSpawned k g = true → d.isSpawned k g = true
  above : ∀ q, lvl ≤ T.rank q → d'.spawnedObjects q = d.spawnedObjects q ∧ d'.isSpawned .pool q = d.isSpawned .pool q

theorem Less.refl (h : T.Counted d) (lvl : Nat) : T.Less lvl d d where
  counted := h
  le _ := le_refl _
  fewer _ _ h := h
  above _ _ := ⟨rfl, rfl⟩

theorem Less.trans {d'' : SpawnedPoolData} (h1 : T.Less lvl d d') (h2 : T.Less lvl d' d'') : T.Less lvl d d'' where
  counted := h2.counted
  le q := (h2.le q).trans (h1.le q)
  fewer k g h := h1.fewer k g (h2.fewer k g h)
  above q hq := ⟨(h2.above q hq).1.trans (h1.above q hq).1, (h2.above q hq).2.trans (h1.above q hq).2⟩

theorem Less.mono (h : T.Less lvl d d') {lvl' : Nat} (hle : lvl ≤ lvl') : T.Less lvl' d d' :=
  ⟨h.counted, h.le, h.fewer, fun q hq => h.above q (hle.trans hq)⟩

/-- What is asked of `Despawn1Object` of a member: it takes away what is below the member, which stays marked itself. -/
def Despawns (T : PoolTable F) (despawn1 : Nat → SpawnedPoolData → SpawnedPoolData) (k : PoolKind) (p : Nat) : Prop :=
  ∀ g d, T.poolOf k g = p → p ≠ 0 → T.Counted d → d.isSpawned k g = true →
    T.Less (T.rank p) d (despawn1 g d) ∧ (despawn1 g d).isSpawned k g = true ∧ (k = .pool → (despawn1 g d).spawnedObjects g = 0)

theorem despawns_id (hk : k ≠ .pool) (p : Nat) : T.Despawns (fun _ d => d) k p :=
  fun _ _ _ _ h hmarked => ⟨Less.refl h _, hmarked, fun heq => absurd heq hk⟩

variable {despawn1 : Nat → SpawnedPoolData → SpawnedPoolData}

theorem Despawns.one (hD : T.Despawns despawn1 k p) (h : T.Counted d) (hmember : T.poolOf k g = p) (hp : p ≠ 0)
    (hmarked : d.isSpawned k g = true) :
    T.Less (T.rank p + 1) d ((despawn1 g d).removeSpawn k g p) ∧
      d.spawnedObjects p = ((despawn1 g d).removeSpawn k g p).spawnedObjects p + 1 ∧
      ((despawn1 g d).removeSpawn k g p).isSpawned k g = false ∧
      ((despawn1 g d).removeSpawn k g p).isSpawned .pool p = d.isSpawned .pool p := by
  obtain ⟨hless, hkept, hempty⟩ := hD g d hmember hp h hmarked
  have hremoved := hless.counted.removeSpawn hmember hp hkept hempty
  have hgp := ne_of_child hmember hp
  have hsame : ∀ q, T.rank p ≤ T.rank q →
      ((despawn1 g d).removeSpawn k g p).isSpawned .pool q = (despawn1 g d).isSpawned .pool q := by
    intro q hq
    rw [Bool.eq_iff_iff, hremoved.spawned]
    refine ⟨And.left, fun hold => ⟨hold, ?_⟩⟩
    rintro ⟨rfl, rfl⟩
    have := T.acyclic q (by rw [hmember]; exact hp)
    rw [hmember] at this
    omega
  refine ⟨⟨hremoved.counted, fun q => ?_, fun k' x hx => ?_, fun q hq => ?_⟩, ?_, ?_, ?_⟩
  · have h1 := hremoved.counts q
    have h2 := hless.le q
    omega
  · exact hless.fewer k' x ((hremoved.spawned k' x).1 hx).1
  · have h1 := hremoved.counts q
    have hne : q ≠ p := by
      rintro rfl
      omega
    rw [if_neg hne] at h1
    obtain ⟨h2, h3⟩ := hless.above q (by omega)
    exact ⟨h1.symm.trans h2, (hsame q (by omega)).trans h3⟩
  · have h1 := hremoved.counts p
    rw [if_pos rfl] at h1
    rw [← (hless.above p (le_refl _)).1]
    exact h1
  · rw [eq_false_iff]
    exact fun htrue => ((hremoved.spawned k g).1 htrue).2 ⟨rfl, rfl⟩
  · exact (hsame p (le_refl _)).trans (hless.above p (le_refl _)).2

/-- `DespawnObject` takes out the members that it is asked for. -/
theorem Despawns.object (hD : T.Despawns despawn1 k p) (h : T.Counted d) (g : Nat) :
    T.Less (T.rank p + 1) d (T.despawnObject despawn1 k p g d) ∧
      (T.despawnObject despawn1 k p g d).isSpawned .pool p = d.isSpawned .pool p ∧
      ∀ o ∈ T.members k p, g = 0 ∨ o.guid = g → (T.despawnObject despawn1 k p g d).isSpawned k o.guid = false := by
  unfold despawnObject
  have hmem : ∀ o ∈ T.members k p, T.poolOf k o.guid = p ∧ p ≠ 0 := fun o ho => ⟨(of_mem ho).1, (of_mem ho).2.1⟩
  generalize T.members k p = l at hmem
  induction l generalizing d with
  | nil => exact ⟨Less.refl h _, rfl, fun o ho => (not_mem_nil ho).elim⟩
  | cons o l ih =>
    have hrest := fun x hx => hmem x (mem_cons_of_mem o hx)
    rw [foldl_cons]
    split_ifs with hact
    · obtain ⟨hless, -, hgone, hkey⟩ := hD.one h (hmem o mem_cons_self).1 (hmem o mem_cons_self).2 hact.1
      obtain ⟨hless', hkey', hall⟩ := ih hless.counted hrest
      refine ⟨hless.trans hless', hkey'.trans hkey, fun x hx hg => ?_⟩
      rcases mem_cons.1 hx with rfl | hx
      · rw [eq_false_iff]
        exact fun htrue => by rw [hless'.fewer k _ htrue] at hgone; cases hgone
      · exact hall x hx hg
    · obtain ⟨hless', hkey', hall⟩ := ih h hrest
      refine ⟨hless', hkey', fun x hx hg => ?_⟩
      rcases mem_cons.1 hx with rfl | hx
      · rw [eq_false_iff]
        exact fun htrue => hact ⟨hless'.fewer k _ htrue, hg⟩
      · exact hall x hx hg

/-- Asked for one guid, it takes out that one. -/
theorem despawnObject_one (hg : g ≠ 0) (hmember : T.poolOf k g = p) (hp : p ≠ 0) :
    T.despawnObject despawn1 k p g d = if d.isSpawned k g then (despawn1 g d).removeSpawn k g p else d := by
  have hskip : ∀ (l : List (PoolObject F)) (d : SpawnedPoolData), (∀ o ∈ l, o.guid ≠ g) →
      l.foldl (fun d o => if d.isSpawned k o.guid ∧ (g = 0 ∨ o.guid = g) then (despawn1 o.guid d).removeSpawn k o.guid p else d) d = d := by
    intro l
    induction l with
    | nil => exact fun d _ => rfl
    | cons o l ih =>
      intro d hl
      have hne := hl o mem_cons_self
      rw [foldl_cons, if_neg fun hact => (hact.2.resolve_left hg |> hne), ih d fun x hx => hl x (mem_cons_of_mem o hx)]
  obtain ⟨o, ho, rfl⟩ := exists_mem hmember hp hg
  have hlisted := T.listed k p
  unfold despawnObject
  change ((T.members k p).map PoolObject.guid).Nodup at hlisted
  generalize T.members k p = l at ho hlisted
  induction l with
  | nil => exact (not_mem_nil ho).elim
  | cons x l ih =>
    rw [map_cons, nodup_cons] at hlisted
    obtain ⟨hx, hlisted⟩ := hlisted
    rw [foldl_cons]
    rcases mem_cons.1 ho with rfl | ho
    · have hothers : ∀ y ∈ l, y.guid ≠ o.guid := fun y hy heq => hx (mem_map.2 ⟨y, hy, heq⟩)
      rw [hskip l _ hothers]
      by_cases hmarked : d.isSpawned k o.guid = true
      · rw [if_pos ⟨hmarked, .inr rfl⟩, if_pos hmarked]
      · rw [if_neg fun hact => hmarked hact.1, if_neg hmarked]
    · have hne : x.guid ≠ o.guid := fun heq => hx (heq ▸ mem_map_of_mem ho)
      rw [if_neg fun hact => (hact.2.resolve_left hg |> hne)]
      exact ih ho hlisted

/-- After `DespawnPool` nothing of the pool is spawned. -/
theorem despawnPool_spec (h : T.Counted d) (p : Nat) :
    T.Less (T.rank p + 1) d (T.despawnPool p d) ∧ (T.despawnPool p d).isSpawned .pool p = d.isSpawned .pool p ∧
      (T.despawnPool p d).spawnedObjects p = 0 := by
  induction hrank : T.rank p using Nat.strong_induction_on generalizing p d with
  | _ r ih =>
    subst hrank
    have hpools : T.Despawns (fun child d => if T.rank child < T.rank p then T.despawnPool child d else d) .pool p := by
      intro child d hmember hp hd hmarked
      have hlt : T.rank child < T.rank p := by
        have := T.acyclic child (by rw [hmember]; exact hp)
        rwa [hmember] at this
      obtain ⟨hless, hkey, hzero⟩ := ih (T.rank child) hlt hd child rfl
      dsimp only
      rw [if_pos hlt]
      exact ⟨hless.mono hlt, hkey.trans hmarked, fun _ => hzero⟩
    rw [despawnPool]
    obtain ⟨h1, hkey1, hall1⟩ := (despawns_id (T := T) (k := .creature) (by decide) p).object h 0
    obtain ⟨h2, hkey2, hall2⟩ := (despawns_id (T := T) (k := .gameobject) (by decide) p).object h1.counted 0
    obtain ⟨h3, hkey3, hall3⟩ := hpools.object h2.counted 0
    refine ⟨(h1.trans h2).trans h3, hkey3.trans (hkey2.trans hkey1), ?_⟩
    generalize T.despawnObject _ .pool p 0 _ = d3 at h3 hall3 ⊢
    have hnone : ∀ k, (∀ o ∈ T.members k p, d3.isSpawned k o.guid = false) → T.markedOf d3 k p = 0 :=
      fun k hk => countP_eq_zero.2 fun o ho => by rw [hk o ho]; exact false_ne_true
    have hc := hnone .creature fun o ho => eq_false_iff.2 fun htrue => by
      have := hall1 o ho (.inl rfl)
      rw [h2.fewer _ _ (h3.fewer _ _ htrue)] at this
      cases this
    have hg := hnone .gameobject fun o ho => eq_false_iff.2 fun htrue => by
      have := hall2 o ho (.inl rfl)
      rw [h3.fewer _ _ htrue] at this
      cases this
    have hp := hnone .pool fun o ho => hall3 o ho (.inl rfl)
    rw [h3.counted.counts]
    unfold marked
    omega

end PoolTable

end ComfyCraft
