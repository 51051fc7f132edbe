import ComfyCraft.Lib.Forest
import ComfyCraft.Lib.Runs
import ComfyCraft.Pool.PoolManager

/-! The pools of pools as they are loaded: a mother's group lists her children, and the search map has the mother of each child. A pass over the
search map takes out the links that make a circle. -/

namespace ComfyCraft

open List Function Option PoolObject Forest Nat Loop

namespace PoolManager

structure MapEntry where
  id : Nat
  instanceable : Bool
deriving DecidableEq

/-- The groups of all kinds, of which this loads the pools, and of `mPoolTemplate` what that needs. -/
structure Pools (F : Type) where
  max_pool_id : Nat
  MaxLimit : Nat → Nat
  mapEntry : Nat → Option MapEntry
  ExplicitlyChanced : PoolKind → Nat → List (PoolObject F)
  EqualChanced : PoolKind → Nat → List (PoolObject F)
  mPoolSearchMap : Nat → Option Nat

/-- A row of `pool_pool`, with its numbers as the table has them. -/
structure PoolPoolRow (F : Type) where
  pool_id : Nat
  mother_pool : Nat
  chance : F
  flags : UInt32

def GetUInt16 (value : Nat) : Nat := value % 2 ^ 16

def FLAG_SPAWN_ENABLE_IF_WORLD_POP_OVER_BLIZZLIKE : UInt32 := 1

variable {F : Type}

def editGroup (groups : PoolKind → Nat → List (PoolObject F)) (mother : Nat) (f : List (PoolObject F) → List (PoolObject F)) :
    PoolKind → Nat → List (PoolObject F) :=
  Function.update groups .pool (Function.update (groups .pool) mother (f (groups .pool mother)))

/-! ### The rows -/

section
variable [Neg F] [Zero F] [NatCast F] [LT F] [DecidableLT F] [DecidableEq F]

variable (P : Pools F)

def CheckPoolAndChance (pool_id : Nat) (chance : F) : Bool :=
  if P.max_pool_id < pool_id then false
  else if chance < 0 ∨ ((100 : Nat) : F) < chance then false
  else true

/-- The constructor of `PoolObject`. -/
def poolObject (guid : Nat) (chance : F) (flags : UInt32) : PoolObject F :=
  ⟨guid, if chance < 0 then -chance else chance, flags &&& FLAG_SPAWN_ENABLE_IF_WORLD_POP_OVER_BLIZZLIKE ≠ 0⟩

def AddEntry (mother : Nat) (poolitem : PoolObject F) : Pools F :=
  if poolitem.chance ≠ 0 ∧ P.MaxLimit mother = 1 then
    { P with ExplicitlyChanced := editGroup P.ExplicitlyChanced mother fun l => l ++ [poolitem] }
  else { P with EqualChanced := editGroup P.EqualChanced mother fun l => l ++ [poolitem] }

/-- `mPoolSearchMap.insert`, which keeps an entry that is there. -/
def insertLink (child mother : Nat) : Pools F :=
  match P.mPoolSearchMap child with
  | some _ => P
  | none => { P with mPoolSearchMap := Function.update P.mPoolSearchMap child (some mother) }

def loadRow (row : PoolPoolRow F) : Pools F :=
  let child_pool_id := GetUInt16 row.pool_id
  let mother_pool_id := GetUInt16 row.mother_pool
  if P.max_pool_id < child_pool_id then P
  else if mother_pool_id = child_pool_id then P
  else if !CheckPoolAndChance P mother_pool_id row.chance then P
  else insertLink (AddEntry P mother_pool_id (poolObject child_pool_id row.chance row.flags)) child_pool_id mother_pool_id

def loadRows (rows : List (PoolPoolRow F)) : Pools F := rows.foldl loadRow P

end

/-! ### The check for circular references -/

/-- `PoolMapChecker::CheckAndRemember`; `lookup` is the map store. -/
def CheckAndRemember (lookup : Nat → Option MapEntry) (mapid pool_id : Nat) (P : Pools F) : Bool × Pools F :=
  match lookup mapid with
  | none => (false, P)
  | some mapEntry =>
    match P.mapEntry pool_id with
    | none => (true, { P with mapEntry := Function.update P.mapEntry pool_id (some mapEntry) })
    | some poolMapEntry =>
      if poolMapEntry = mapEntry then (true, P)
      else if mapEntry.instanceable then (false, P)
      else if poolMapEntry.instanceable then (false, P)
      else (true, P)

variable (P : Pools F)

def RemoveOneRelation (mother child : Nat) : Pools F :=
  { P with
    ExplicitlyChanced := editGroup P.ExplicitlyChanced mother fun l => l.eraseP fun o => o.guid = child
    EqualChanced := editGroup P.EqualChanced mother fun l => l.eraseP fun o => o.guid = child }

def removeLink (child mother : Nat) : Pools F :=
  let P := RemoveOneRelation P mother child
  { P with mPoolSearchMap := Function.update P.mPoolSearchMap child none }

/-- An iterator of the search map; `none` is its end. -/
def find (pool_id : Nat) : Option (Nat × Nat) := (P.mPoolSearchMap pool_id).map fun mother => (pool_id, mother)

/-- The loop from one pool up between two of its turns; it stops where the iterator is at the end. -/
structure Walking (F : Type) where
  pools : Pools F
  checkedPools : Finset Nat
  poolItr : Option (Nat × Nat)

def walkTurn (lookup : Nat → Option MapEntry) (s : Walking F) : Walking F :=
  match s.poolItr with
  | none => s
  | some (child, mother) =>
    let checked :=
      match s.pools.mapEntry child with
      | none => (true, s.pools)
      | some childMapEntry => CheckAndRemember lookup childMapEntry.id mother s.pools
    if !checked.1 then ⟨removeLink checked.2 child mother, s.checkedPools, none⟩
    else
      let checkedPools := insert child s.checkedPools
      if mother ∈ checkedPools then ⟨removeLink checked.2 child mother, checkedPools, none⟩
      else ⟨checked.2, checkedPools, find checked.2 mother⟩

def walk (lookup : Nat → Option MapEntry) (fuel : Nat) (P : Pools F) (i : Nat) : Walking F :=
  Loop.run (fun s => s.poolItr.isSome) (walkTurn lookup) fuel ⟨P, ∅, find P i⟩

def checkCircular (lookup : Nat → Option MapEntry) (fuel : Nat) (P : Pools F) : Nat → Pools F
  | 0 => P
  | i + 1 => (walk lookup fuel (checkCircular lookup fuel P i) i).pools

/-! ### Groups and search map -/

section
variable {P P' : Pools F} {child mother : Nat}

def children (P : Pools F) (mother : Nat) : List Nat := (P.EqualChanced .pool mother ++ P.ExplicitlyChanced .pool mother).map PoolObject.guid

/-- The groups and the search map say the same, of pools that there are; no pool is its own mother. -/
structure InStep (P : Pools F) : Prop where
  listed : ∀ p, (children P p).Nodup
  same : ∀ c p, c ∈ children P p ↔ P.mPoolSearchMap c = some p
  bounded : ∀ c p, P.mPoolSearchMap c = some p → c ≤ P.max_pool_id ∧ p ≤ P.max_pool_id ∧ c ≠ p

theorem editGroup_self (groups : PoolKind → Nat → List (PoolObject F)) (mother : Nat) (f : List (PoolObject F) → List (PoolObject F)) :
    editGroup groups mother f .pool mother = f (groups .pool mother) := by
  unfold editGroup
  rw [update_self, update_self]

theorem editGroup_ne (groups : PoolKind → Nat → List (PoolObject F)) (f : List (PoolObject F) → List (PoolObject F)) {p : Nat} (h : p ≠ mother) :
    editGroup groups mother f .pool p = groups .pool p := by
  unfold editGroup
  rw [update_self, update_of_ne h]

theorem children_AddEntry [Zero F] [DecidableEq F] (P : Pools F) (mother : Nat) (o : PoolObject F) (p : Nat) :
    (children (AddEntry P mother o) p).Perm (if p = mother then o.guid :: children P p else children P p) := by
  unfold children AddEntry
  by_cases hp : p = mother
  · subst hp
    rw [if_pos rfl]
    split_ifs
    · dsimp only
      rw [editGroup_self, ← append_assoc, map_append]
      exact perm_append_comm
    · dsimp only
      rw [editGroup_self, append_assoc, singleton_append, map_append, map_append, map_cons]
      exact perm_middle
  · rw [if_neg hp]
    split_ifs
    · dsimp only
      rw [editGroup_ne _ _ hp]
    · dsimp only
      rw [editGroup_ne _ _ hp]

theorem InStep.insert [Zero F] [DecidableEq F] (h : InStep P) {o : PoolObject F} (hnew : P.mPoolSearchMap o.guid = none)
    (hchild : o.guid ≤ P.max_pool_id) (hmother : mother ≤ P.max_pool_id) (hne : o.guid ≠ mother) :
    InStep (insertLink (AddEntry P mother o) o.guid mother) ∧
      ∀ c, c ≠ o.guid → (insertLink (AddEntry P mother o) o.guid mother).mPoolSearchMap c = P.mPoolSearchMap c := by
  have hsearch : (AddEntry P mother o).mPoolSearchMap = P.mPoolSearchMap := by
    unfold AddEntry
    split_ifs <;> rfl
  have hmax : (AddEntry P mother o).max_pool_id = P.max_pool_id := by
    unfold AddEntry
    split_ifs <;> rfl
  have hinsert : insertLink (AddEntry P mother o) o.guid mother =
      { AddEntry P mother o with mPoolSearchMap := update P.mPoolSearchMap o.guid (some mother) } := by
    unfold insertLink
    rw [hsearch, hnew]
  rw [hinsert]
  have hfresh : ∀ p, o.guid ∉ children P p := by
    intro p hmem
    rw [h.same, hnew] at hmem
    cases hmem
  refine ⟨⟨fun p => ?_, fun c p => ?_, fun c p hc => ?_⟩, fun c hc => update_of_ne hc _ _⟩
  · refine (children_AddEntry P mother o p).nodup_iff.2 ?_
    split_ifs
    · exact nodup_cons.2 ⟨hfresh p, h.listed p⟩
    · exact h.listed p
  · refine (children_AddEntry P mother o p).mem_iff.trans ?_
    dsimp only
    by_cases hc : c = o.guid
    · subst hc
      rw [update_self]
      split_ifs with hp
      · exact ⟨fun _ => by rw [hp], fun _ => mem_cons_self⟩
      · exact ⟨fun hmem => absurd hmem (hfresh p), fun heq => absurd (some.inj heq).symm hp⟩
    · rw [update_of_ne hc, ← h.same]
      split_ifs
      · exact ⟨fun hmem => (mem_cons.1 hmem).resolve_left hc, mem_cons_of_mem _⟩
      · exact Iff.rfl
  · dsimp only at hc ⊢
    rw [hmax]
    by_cases heq : c = o.guid
    · rw [heq, update_self] at hc
      cases hc
      rw [heq]
      exact ⟨hchild, hmother, hne⟩
    · rw [update_of_ne heq] at hc
      exact h.bounded c p hc

theorem children_removeLink (P : Pools F) (child mother p : Nat) : children (removeLink P child mother) p =
      if p = mother then ((P.EqualChanced .pool p).map PoolObject.guid).erase child ++ ((P.ExplicitlyChanced .pool p).map PoolObject.guid).erase child
      else children P p := by
  have herase : ∀ l : List (PoolObject F), (l.eraseP fun o => o.guid = child).map guid = (l.map guid).erase child := by
    intro l
    rw [erase_eq_eraseP, eraseP_map]
    congr 2
    funext o
    refine Bool.eq_iff_iff.2 (decide_eq_true_iff.trans ⟨fun h => ?_, fun h => ?_⟩)
    · exact beq_iff_eq.2 h.symm
    · exact (beq_iff_eq.1 h).symm
  unfold children removeLink RemoveOneRelation
  dsimp only
  by_cases hp : p = mother
  · subst hp
    rw [if_pos rfl, editGroup_self, editGroup_self, map_append, herase, herase]
  · rw [if_neg hp, editGroup_ne _ _ hp, editGroup_ne _ _ hp]

theorem InStep.removeLink (h : InStep P) (hlink : P.mPoolSearchMap child = some mother) : InStep (removeLink P child mother) := by
  have hlisted := h.listed mother
  have hsame := h.same
  unfold children at hlisted hsame
  simp only [map_append, mem_append] at hlisted hsame
  have hequal := hlisted.of_append_left
  have hexplicit := hlisted.of_append_right
  refine ⟨fun p => ?_, fun c p => ?_, fun c p hc => ?_⟩
  · rw [children_removeLink]
    split_ifs with hp
    · subst hp
      exact (erase_sublist.append erase_sublist).nodup hlisted
    · exact h.listed p
  · have hupdate : (PoolManager.removeLink P child mother).mPoolSearchMap = update P.mPoolSearchMap child none := rfl
    rw [children_removeLink, hupdate]
    split_ifs with hp
    · subst hp
      rw [mem_append, hequal.mem_erase_iff, hexplicit.mem_erase_iff, ← and_or_left, hsame]
      by_cases hc : c = child
      · rw [hc, update_self]
        exact ⟨fun hboth => absurd rfl hboth.1, fun hnone => by cases hnone⟩
      · rw [update_of_ne hc]
        exact and_iff_right hc
    · rw [h.same]
      by_cases hc : c = child
      · rw [hc, update_self, hlink]
        exact ⟨fun heq => absurd (some.inj heq).symm hp, fun hnone => by cases hnone⟩
      · rw [update_of_ne hc]
  · exact h.bounded c p (pruned_update _ child c p hc)

theorem loadRow_inStep [Neg F] [Zero F] [NatCast F] [LT F] [DecidableLT F] [DecidableEq F] (h : InStep P) (row : PoolPoolRow F)
    (hnew : P.mPoolSearchMap (GetUInt16 row.pool_id) = none) :
    InStep (loadRow P row) ∧ ∀ c, c ≠ GetUInt16 row.pool_id → (loadRow P row).mPoolSearchMap c = P.mPoolSearchMap c := by
  have hsame : InStep P ∧ ∀ c, c ≠ GetUInt16 row.pool_id → P.mPoolSearchMap c = P.mPoolSearchMap c := ⟨h, fun _ _ => rfl⟩
  unfold loadRow
  dsimp only
  by_cases hchild : P.max_pool_id < GetUInt16 row.pool_id
  · rw [if_pos hchild]
    exact hsame
  rw [if_neg hchild]
  by_cases hself : GetUInt16 row.mother_pool = GetUInt16 row.pool_id
  · rw [if_pos hself]
    exact hsame
  rw [if_neg hself]
  by_cases hmother : P.max_pool_id < GetUInt16 row.mother_pool
  · unfold CheckPoolAndChance
    rw [if_pos hmother]
    exact hsame
  split_ifs
  · exact hsame
  · exact h.insert (o := poolObject (GetUInt16 row.pool_id) row.chance row.flags) hnew (not_lt.1 hchild) (not_lt.1 hmother) (Ne.symm hself)

/-- Where each child has one row, the groups and the search map are in step after loading. -/
theorem loadRows_inStep [Neg F] [Zero F] [NatCast F] [LT F] [DecidableLT F] [DecidableEq F] (rows : List (PoolPoolRow F)) (h : InStep P)
    (hunique : (rows.map fun row => GetUInt16 row.pool_id).Nodup) (hnew : ∀ row ∈ rows, P.mPoolSearchMap (GetUInt16 row.pool_id) = none) :
    InStep (loadRows P rows) := by
  unfold loadRows
  induction rows generalizing P with
  | nil => exact h
  | cons row rows ih =>
    rw [map_cons, nodup_cons] at hunique
    obtain ⟨hfresh, hrest⟩ := hunique
    obtain ⟨hstep, hothers⟩ := loadRow_inStep h row (hnew row mem_cons_self)
    refine ih hstep hrest fun row' hrow' => ?_
    have hne : GetUInt16 row'.pool_id ≠ GetUInt16 row.pool_id := fun heq => hfresh (mem_map.2 ⟨row', hrow', heq⟩)
    rw [hothers _ hne]
    exact hnew row' (mem_cons_of_mem row hrow')

end

/-! ### The walks -/

section
variable {lookup : Nat → Option MapEntry} {P : Pools F} {s : Walking F} {child mother : Nat}

theorem CheckAndRemember_links (lookup : Nat → Option MapEntry) (mapid pool_id : Nat) (P : Pools F) :
    ∃ f, (CheckAndRemember lookup mapid pool_id P).2 = { P with mapEntry := f } := by
  unfold CheckAndRemember
  split
  · exact ⟨P.mapEntry, rfl⟩
  split
  · exact ⟨_, rfl⟩
  · split_ifs <;> exact ⟨P.mapEntry, rfl⟩

/-- What a turn can do: cut the link and stop, or go on to the mother, who has not been seen. The map entries are not of the links. -/
theorem walkTurn_cases (lookup : Nat → Option MapEntry) (h : s.poolItr = some (child, mother)) :
    ∃ f checkedPools, walkTurn lookup s = ⟨removeLink { s.pools with mapEntry := f } child mother, checkedPools, none⟩ ∨
      mother ∉ insert child s.checkedPools ∧
        walkTurn lookup s = ⟨{ s.pools with mapEntry := f }, insert child s.checkedPools, find s.pools mother⟩ := by
  have hlinks : ∃ f, (match s.pools.mapEntry child with
      | none => (true, s.pools)
      | some childMapEntry => CheckAndRemember lookup childMapEntry.id mother s.pools).2 = { s.pools with mapEntry := f } := by
    split
    · exact ⟨s.pools.mapEntry, rfl⟩
    · exact CheckAndRemember_links lookup _ mother s.pools
  obtain ⟨f, hf⟩ := hlinks
  refine ⟨f, ?_⟩
  unfold walkTurn
  rw [h]
  dsimp only
  rw [hf]
  split_ifs with hmap hseen
  · exact ⟨s.checkedPools, .inl rfl⟩
  · exact ⟨insert child s.checkedPools, .inl rfl⟩
  · exact ⟨∅, .inr ⟨hseen, rfl⟩⟩

/-- What holds between two turns. -/
structure Walks (n : Nat) (s : Walking F) : Prop where
  inStep : InStep s.pools
  size : s.pools.max_pool_id = n
  here : ∀ c p, s.poolItr = some (c, p) → s.pools.mPoolSearchMap c = some p ∧ c ∉ s.checkedPools ∧ ∀ x ∈ s.checkedPools, x ≤ n

theorem find_some {c p : Nat} (h : find P mother = some (c, p)) : c = mother ∧ P.mPoolSearchMap mother = some p := by
  unfold find at h
  obtain ⟨p', hp', heq⟩ := map_eq_some_iff.1 h
  cases heq
  exact ⟨rfl, hp'⟩

theorem InStep.mapEntry (h : InStep P) (f : Nat → Option MapEntry) : InStep { P with mapEntry := f } := ⟨h.listed, h.same, h.bounded⟩

theorem Walks.start (h : InStep P) (i : Nat) : Walks P.max_pool_id ⟨P, ∅, find P i⟩ := by
  refine ⟨h, rfl, fun c p hc => ?_⟩
  obtain ⟨rfl, hp⟩ := find_some hc
  exact ⟨hp, Finset.notMem_empty c, fun x hx => absurd hx (Finset.notMem_empty x)⟩

variable {n : Nat}

theorem Walks.turn (h : Walks n s) (htest : s.poolItr.isSome = true) : Walks n (walkTurn lookup s) := by
  obtain ⟨⟨child, mother⟩, hitr⟩ := isSome_iff_exists.1 htest
  obtain ⟨hlink, -, hchecked⟩ := h.here child mother hitr
  obtain ⟨f, checkedPools, hcut | ⟨hunseen, hnext⟩⟩ := walkTurn_cases lookup hitr
  · rw [hcut]
    exact ⟨(h.inStep.mapEntry f).removeLink hlink, h.size, fun c p hc => by cases hc⟩
  rw [hnext]
  refine ⟨h.inStep.mapEntry f, h.size, fun c p hc => ?_⟩
  obtain ⟨rfl, hp⟩ := find_some hc
  refine ⟨hp, hunseen, fun x hx => ?_⟩
  rcases Finset.mem_insert.1 hx with rfl | hx
  · rw [← h.size]
    exact (h.inStep.bounded x c hlink).1
  · exact hchecked x hx

def unseen (n : Nat) (s : Walking F) : Nat := if s.poolItr.isSome then n + 1 - s.checkedPools.card else 0

theorem Walks.unseen_lt (h : Walks n s) (htest : s.poolItr.isSome = true) : unseen n (walkTurn lookup s) < unseen n s := by
  obtain ⟨⟨child, mother⟩, hitr⟩ := isSome_iff_exists.1 htest
  obtain ⟨hlink, hfresh, hchecked⟩ := h.here child mother hitr
  -- the child is one of the pools, and not among those that are checked
  have hroom : s.checkedPools.card < n + 1 := by
    have hchild : child ≤ n := h.size ▸ (h.inStep.bounded child mother hlink).1
    have hsub : insert child s.checkedPools ⊆ Finset.range (n + 1) := by
      intro x hx
      rcases Finset.mem_insert.1 hx with rfl | hx
      · exact Finset.mem_range.2 (lt_succ_of_le hchild)
      · exact Finset.mem_range.2 (lt_succ_of_le (hchecked x hx))
    have hcard := Finset.card_le_card hsub
    rw [Finset.card_insert_of_notMem hfresh, Finset.card_range] at hcard
    exact hcard
  obtain ⟨f, checkedPools, hcut | ⟨-, hnext⟩⟩ := walkTurn_cases lookup hitr
  · have hzero : unseen n (walkTurn lookup s) = 0 := by
      rw [hcut]
      rfl
    unfold unseen at hzero ⊢
    rw [hzero, if_pos htest]
    omega
  · rw [hnext]
    unfold unseen
    rw [if_pos htest, Finset.card_insert_of_notMem hfresh]
    split_ifs <;> omega

/-- A walk ends; more fuel makes no difference. -/
theorem walk_ends (h : InStep P) (i : Nat) {fuel : Nat} (hfuel : P.max_pool_id < fuel) : (walk lookup fuel P i).poolItr = none := by
  have hmeasure : unseen P.max_pool_id (⟨P, ∅, find P i⟩ : Walking F) ≤ fuel := by
    unfold unseen
    split_ifs
    · rw [Finset.card_empty]
      omega
    · exact zero_le fuel
  have hend : (fun s : Walking F => s.poolItr.isSome) (walk lookup fuel P i) = false :=
    ends (I := Walks P.max_pool_id) (m := unseen P.max_pool_id) (fun _ hs => hs.turn) (fun _ hs => hs.unseen_lt) (Walks.start h i) hmeasure
  exact isNone_iff_eq_none.1 (isSome_eq_false_iff.1 hend)

/-- A walk only takes links out, and where it ends the links above its first pool end too. -/
theorem run_grounded (h : Walks n s) (fuel : Nat)
    (hend : (Loop.run (fun s => s.poolItr.isSome) (walkTurn lookup) fuel s).poolItr = none) :
    Forest.Pruned s.pools.mPoolSearchMap (Loop.run (fun s => s.poolItr.isSome) (walkTurn lookup) fuel s).pools.mPoolSearchMap ∧
      ∀ c p, s.poolItr = some (c, p) →
        Forest.Grounded (Loop.run (fun s => s.poolItr.isSome) (walkTurn lookup) fuel s).pools.mPoolSearchMap c := by
  induction fuel generalizing s with
  | zero =>
    have hnone : s.poolItr = none := hend
    exact ⟨Pruned.refl _, fun c p hc => by rw [hnone] at hc; cases hc⟩
  | succ fuel ih =>
    cases hitr : s.poolItr with
    | none =>
      rw [run_of_ended (by rw [hitr]; rfl)]
      exact ⟨Pruned.refl _, fun c p hc => by cases hc⟩
    | some link =>
      obtain ⟨child, mother⟩ := link
      have htest : s.poolItr.isSome = true := by rw [hitr]; rfl
      have hrun : run (fun s => s.poolItr.isSome) (walkTurn lookup) (fuel + 1) s =
          run (fun s => s.poolItr.isSome) (walkTurn lookup) fuel (walkTurn lookup s) := if_pos htest
      rw [hrun] at hend ⊢
      obtain ⟨hlink, -⟩ := h.here child mother hitr
      obtain ⟨hpruned, hnextGrounded⟩ := ih (h.turn htest) hend
      obtain ⟨f, checkedPools, hcut | ⟨-, hnext⟩⟩ := walkTurn_cases lookup hitr
      · have hsearch : (walkTurn lookup s).pools.mPoolSearchMap = update s.pools.mPoolSearchMap child none := by
          rw [hcut]
          rfl
        rw [hsearch] at hpruned
        refine ⟨(pruned_update _ child).trans hpruned, fun c p hc => ?_⟩
        cases hc
        have hnone : update s.pools.mPoolSearchMap child none child = none := update_self ..
        exact (grounded_of_none hnone).pruned hpruned
      · have hsearch : (walkTurn lookup s).pools.mPoolSearchMap = s.pools.mPoolSearchMap := by rw [hnext]
        rw [hsearch] at hpruned
        refine ⟨hpruned, fun c p hc => ?_⟩
        cases hc
        -- the mother is where the walk goes on, or she has no mother herself
        have hmother : Grounded (run (fun s => s.poolItr.isSome) (walkTurn lookup) fuel (walkTurn lookup s)).pools.mPoolSearchMap mother := by
          have hnextItr : (walkTurn lookup s).poolItr = (s.pools.mPoolSearchMap mother).map fun p => (mother, p) := by
            rw [hnext]
            rfl
          cases habove : s.pools.mPoolSearchMap mother with
          | none => exact (grounded_of_none habove).pruned hpruned
          | some p =>
            rw [habove] at hnextItr
            exact hnextGrounded mother p hnextItr
        refine hmother.below fun p hp => ?_
        have hold := hpruned child p hp
        rw [hlink] at hold
        exact (some.inj hold).symm

end

/-! ### The pass -/

section
variable (lookup : Nat → Option MapEntry) {P : Pools F}

theorem walk_spec (h : InStep P) (i : Nat) {fuel : Nat} (hfuel : P.max_pool_id < fuel) :
    InStep (walk lookup fuel P i).pools ∧ (walk lookup fuel P i).pools.max_pool_id = P.max_pool_id ∧
      Forest.Pruned P.mPoolSearchMap (walk lookup fuel P i).pools.mPoolSearchMap ∧
      Forest.Grounded (walk lookup fuel P i).pools.mPoolSearchMap i := by
  have hkept : Walks P.max_pool_id (walk lookup fuel P i) :=
    keeps (I := Walks P.max_pool_id) (s := ⟨P, ∅, find P i⟩) (fun _ hs => hs.turn) (Walks.start h i) fuel
  obtain ⟨hpruned, hgrounded⟩ := run_grounded (Walks.start h i) fuel (walk_ends h i hfuel)
  refine ⟨hkept.inStep, hkept.size, hpruned, ?_⟩
  cases habove : P.mPoolSearchMap i with
  | none => exact (grounded_of_none habove).pruned hpruned
  | some p => exact hgrounded i p (congrArg (Option.map fun mother => (i, mother)) habove)

theorem checkCircular_spec (h : InStep P) {fuel : Nat} (hfuel : P.max_pool_id < fuel) (n : Nat) :
    InStep (checkCircular lookup fuel P n) ∧ (checkCircular lookup fuel P n).max_pool_id = P.max_pool_id ∧
      Forest.Pruned P.mPoolSearchMap (checkCircular lookup fuel P n).mPoolSearchMap ∧
      ∀ i < n, Forest.Grounded (checkCircular lookup fuel P n).mPoolSearchMap i := by
  induction n with
  | zero => exact ⟨h, rfl, Pruned.refl _, fun i hi => absurd hi (not_lt_zero i)⟩
  | succ n ih =>
    obtain ⟨hstep, hmax, hpruned, hgrounded⟩ := ih
    have hfuel' : (checkCircular lookup fuel P n).max_pool_id < fuel := by rw [hmax]; exact hfuel
    obtain ⟨hstep', hmax', hpruned', hlast⟩ := walk_spec lookup hstep n hfuel'
    refine ⟨hstep', hmax'.trans hmax, hpruned.trans hpruned', fun i hi => ?_⟩
    rcases Nat.lt_succ_iff_lt_or_eq.1 hi with hlt | rfl
    · exact (hgrounded i hlt).pruned hpruned'
    · exact hlast

/-- The pass leaves out the last pool, but that is in no circle by itself. -/
theorem grounded_all (h : InStep P) {fuel : Nat} (hfuel : P.max_pool_id < fuel) (c : Nat) :
    Forest.Grounded (checkCircular lookup fuel P P.max_pool_id).mPoolSearchMap c := by
  obtain ⟨hstep, hmax, -, hgrounded⟩ := checkCircular_spec lookup h hfuel P.max_pool_id
  cases habove : (checkCircular lookup fuel P P.max_pool_id).mPoolSearchMap c with
  | none => exact grounded_of_none habove
  | some p =>
    obtain ⟨hc, hp, hne⟩ := hstep.bounded c p habove
    rw [hmax] at hc hp
    rcases lt_or_eq_of_le hc with hlt | heq
    · exact hgrounded c hlt
    refine (hgrounded p (by omega)).below fun q hq => ?_
    rw [habove] at hq
    exact (some.inj hq).symm

end

end PoolManager

end ComfyCraft
