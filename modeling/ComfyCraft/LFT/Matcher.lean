import ComfyCraft.LFT.Tables

/-! What the matcher selects: five players with a tank, a healer and three damage dealers, each queued for the dungeon in
a role of the player's mask and without an offer. -/

namespace ComfyCraft

open List Option AList Table Sigma Bool RoleCount

/-! Roles and their counts. -/

def IsRole (role : UInt8) : Prop := role = lftRoleTank ∨ role = lftRoleHealer ∨ role = lftRoleDamage

def RoleCount.of (c : RoleCount) (role : UInt8) : Nat :=
  if role = lftRoleTank then c.tanks else if role = lftRoleHealer then c.healers else if role = lftRoleDamage then c.damage else 0

theorem RoleCount.of_add (c : RoleCount) {picked role : UInt8} (hpicked : IsRole picked) (hrole : IsRole role) :
    (c.add picked).of role = c.of role + if picked = role then 1 else 0 := by
  rcases hpicked with rfl | rfl | rfl <;> rcases hrole with rfl | rfl | rfl <;> rfl

theorem pickRole_ne_zero {roleMask : UInt8} {c : RoleCount} (h : pickRole roleMask c ≠ 0) :
    IsRole (pickRole roleMask c) ∧ roleMask &&& pickRole roleMask c ≠ 0 := by
  unfold pickRole at h ⊢
  split_ifs at h ⊢ with htank hhealer hdamage
  · exact ⟨.inl rfl, htank.1⟩
  · exact ⟨.inr (.inl rfl), hhealer.1⟩
  · exact ⟨.inr (.inr rfl), hdamage.1⟩
  · exact absurd rfl h

def roleTally (role : UInt8) (roles : Table Nat UInt8) : Nat := roles.tally fun _ r => if r = role then 1 else 0

namespace LFTManager

variable {s : LFTManager} {w : LFTWorld} {dungeon : String} {seed : QueuedPlayer} {selected : Table Nat UInt8} {base : RoleCount}
  {m b : Selection} {guid : Nat}

/-! A selection. -/

/-- A player who may be listed for a dungeon in a role. -/
def Listable (s : LFTManager) (dungeon : String) (guid : Nat) (role : UInt8) : Prop :=
  IsRole role ∧ ∃ q, s.queue.lookup guid = some q ∧ q.roleMask &&& role ≠ 0 ∧ dungeon ∈ q.instances ∧ s.playerOffers.lookup guid = none

/-- The count is what there was before, and what is selected. -/
structure Chosen (s : LFTManager) (dungeon : String) (base : RoleCount) (m : Selection) : Prop where
  counts : ∀ role, IsRole role → m.count.of role = base.of role + roleTally role m.roles
  listed : ∀ g role, m.roles.lookup g = some role → s.Listable dungeon g role

theorem chosen_empty (s : LFTManager) (dungeon : String) (base : RoleCount) : s.Chosen dungeon base ⟨∅, base⟩ := by
  refine ⟨fun role _ => rfl, fun g role h => ?_⟩
  rw [lookup_empty] at h
  cases h

theorem getQueueOrder_nodup (s : LFTManager) : s.getQueueOrder.Nodup :=
  ((perm_insertionSort _ s.queue.entries).map fst).nodup_iff.2 s.queue.nodupKeys

variable {b' : Selection}

theorem fitOne_some (h : fitOne w s dungeon seed selected b guid = some b') :
    selected.lookup guid = none ∧ ∃ role, s.Listable dungeon guid role ∧ b' = ⟨b.roles.insert guid role, b.count.add role⟩ := by
  unfold fitOne at h
  cases hq : s.queue.lookup guid with
  | none =>
    rw [hq] at h
    cases h
  | some q =>
    rw [hq] at h
    dsimp only at h
    split_ifs at h with hsuits hpick
    cases h
    unfold suits at hsuits
    simp only [not_eq_true', not_eq_false, and_eq_true, isNone_iff_eq_none, decide_eq_true_eq] at hsuits
    obtain ⟨⟨⟨hselected, hoffer⟩, hlisted⟩, -⟩ := hsuits
    obtain ⟨hrole, hmask⟩ := pickRole_ne_zero hpick
    exact ⟨hselected, _, ⟨hrole, q, hq, hmask, hlisted, hoffer⟩, rfl⟩

theorem Chosen.insert (h : s.Chosen dungeon base b) (hnew : b.roles.lookup guid = none) {role : UInt8}
    (hrole : s.Listable dungeon guid role) : s.Chosen dungeon base ⟨b.roles.insert guid role, b.count.add role⟩ := by
  refine ⟨fun other hother => ?_, fun g r hr => ?_⟩
  · unfold roleTally
    rw [of_add _ hrole.1 hother, h.counts other hother, tally_insert_new _ _ hnew]
    unfold roleTally
    omega
  · dsimp only at hr
    by_cases hg : g = guid
    · rw [hg, lookup_insert] at hr
      cases hr
      rw [hg]
      exact hrole
    · rw [lookup_insert_ne hg] at hr
      exact h.listed g r hr

theorem fitBlock_some {block : List Nat} (hblock : block.Nodup) (h : s.Chosen dungeon base b)
    (hapart : ∀ g, (b.roles.lookup g).isSome = true → selected.lookup g = none) (hnew : ∀ g ∈ block, b.roles.lookup g = none) (hb' : block.foldlM (fitOne w s dungeon seed selected) b = some b') :
    s.Chosen dungeon base b' ∧ ∀ g, (b'.roles.lookup g).isSome = true → selected.lookup g = none := by
  induction block generalizing b with
  | nil =>
    cases hb'
    exact ⟨h, hapart⟩
  | cons guid block ih =>
    rw [nodup_cons] at hblock
    rw [foldlM_cons] at hb'
    obtain ⟨b1, hb1, hrest⟩ := bind_eq_some_iff.1 hb'
    obtain ⟨hselected, role, hrole, rfl⟩ := fitOne_some hb1
    refine ih hblock.2 (h.insert (hnew guid mem_cons_self) hrole) (fun g hg => ?_) (fun g hg => ?_) hrest
    · dsimp only at hg
      by_cases hguid : g = guid
      · rw [hguid]
        exact hselected
      · rw [lookup_insert_ne hguid] at hg
        exact hapart g hg
    · have hne : g ≠ guid := fun heq => hblock.1 (heq ▸ hg)
      dsimp only
      rw [lookup_insert_ne hne]
      exact hnew g (mem_cons_of_mem guid hg)

theorem Chosen.merge (h : s.Chosen dungeon RoleCount.zero m) (hb : s.Chosen dungeon m.count b)
    (hapart : ∀ g, (b.roles.lookup g).isSome = true → m.roles.lookup g = none) :
    s.Chosen dungeon RoleCount.zero ⟨b.roles.ordered.foldl (fun roles e => roles.insert e.1 e.2) m.roles, b.count⟩ := by
  refine ⟨fun role hrole => ?_, fun g role hg => ?_⟩
  · unfold roleTally
    dsimp only
    rw [tally_insertAll _ b.roles.ordered_keys_nodup fun e he => hapart e.1 (by rw [mem_ordered.1 he]; rfl)]
    rw [sum_ordered fun _ r => if r = role then 1 else 0]
    have h1 := h.counts role hrole
    have h2 := hb.counts role hrole
    unfold roleTally at h1 h2
    omega
  · rcases lookup_insertAll hg with hmem | hold
    · exact hb.listed g role (mem_ordered.1 hmem)
    · exact h.listed g role hold

theorem Chosen.select (h : s.Chosen dungeon RoleCount.zero m) (candidate : Nat) :
    s.Chosen dungeon RoleCount.zero (select w s dungeon seed m candidate) := by
  unfold LFTManager.select
  split_ifs
  · exact h
  cases s.queue.lookup candidate with
  | none => exact h
  | some q =>
    dsimp only
    split_ifs
    · exact h
    have hnone : ∀ g, (∅ : Table Nat UInt8).lookup g = none := fun g => lookup_empty g
    cases hfit : (s.block (q.blockLeader candidate)).foldlM (fitOne w s dungeon seed m.roles) ⟨∅, m.count⟩ with
    | none => exact h
    | some b =>
      dsimp only
      split_ifs
      · exact h
      obtain ⟨hb, hapart⟩ := fitBlock_some (s.getQueueOrder_nodup.filter _) (s.chosen_empty dungeon m.count)
        (fun g hg => by rw [hnone g] at hg; cases hg) (fun g _ => hnone g) hfit
      exact h.merge hb hapart

/-- What an offer can be made to. -/
structure Formed (s : LFTManager) (dungeon : String) (roles : Table Nat UInt8) : Prop where
  five : roles.entries.length = 5
  tank : roleTally lftRoleTank roles = 1
  healer : roleTally lftRoleHealer roles = 1
  damage : roleTally lftRoleDamage roles = 3
  listed : ∀ g role, roles.lookup g = some role → s.Listable dungeon g role

theorem formed_some {seed : Nat} {roles : Table Nat UInt8} (h : formed w s dungeon seed = some roles) : s.Formed dungeon roles := by
  unfold formed at h
  cases hq : s.queue.lookup seed with
  | none =>
    rw [hq] at h
    cases h
  | some q =>
    rw [hq] at h
    dsimp only at h
    split_ifs at h with hseed hdone
    cases h
    have hchosen : s.Chosen dungeon zero (s.getQueueOrder.foldl (select w s dungeon q) ⟨∅, zero⟩) := by
      have hall : ∀ (order : List Nat) (m : Selection), s.Chosen dungeon zero m →
          s.Chosen dungeon zero (order.foldl (select w s dungeon q) m) := by
        intro order
        induction order with
        | nil => exact fun m hm => hm
        | cons candidate order ih => exact fun m hm => ih _ (hm.select candidate)
      exact hall _ _ (s.chosen_empty dungeon zero)
    have hcounts := hchosen.counts
    rw [hdone.1] at hcounts
    have htank := hcounts lftRoleTank (.inl rfl)
    have hhealer := hcounts lftRoleHealer (.inr (.inl rfl))
    have hdamage := hcounts lftRoleDamage (.inr (.inr rfl))
    exact ⟨hdone.2, by simpa [of, zero] using htank.symm, by simpa [of, zero, lftRoleTank, lftRoleHealer] using hhealer.symm,
      by simpa [of, zero, lftRoleTank, lftRoleHealer, lftRoleDamage] using hdamage.symm, hchosen.listed⟩

/-! Making the offer. -/

theorem assign_foldl (id : Nat) (l : List (Sigma fun _ : Nat => UInt8)) (s : LFTManager)
    (hqueued : ∀ e ∈ l, (s.queue.lookup e.1).isSome = true) :
    let s' := l.foldl (assign id) s
    s'.rolechecks = s.rolechecks ∧ s'.offers = s.offers ∧ s'.nextOfferId = s.nextOfferId ∧ s'.enqueued = s.enqueued ∧
      (∀ g, s'.isInWorld g = s.isInWorld g) ∧
      (∀ g, s'.playerOffers.lookup g = if g ∈ l.map fst then some id else s.playerOffers.lookup g) ∧
      ∀ g, s'.entry g = s.entry g := by
  induction l generalizing s with
  | nil => exact ⟨rfl, rfl, rfl, rfl, fun _ => rfl, fun _ => by simp, fun _ => rfl⟩
  | cons e l ih =>
    obtain ⟨q, hq⟩ := isSome_iff_exists.1 (hqueued e mem_cons_self)
    have hentry : ∀ g, (assign id s e).entry g = s.entry g := by
      intro g
      unfold assign entry
      dsimp only
      by_cases hg : g = e.1
      · rw [hg, lookup_insert, hq]
        rfl
      · rw [lookup_insert_ne hg]
    have hqueued' : ∀ x ∈ l, ((assign id s e).queue.lookup x.1).isSome = true := by
      intro x hx
      rw [← entry_isSome, hentry, entry_isSome]
      exact hqueued x (mem_cons_of_mem e hx)
    obtain ⟨h1, h2, h3, h4, h5, h6, h7⟩ := ih (assign id s e) hqueued'
    rw [foldl_cons]
    refine ⟨h1, h2, h3, h4, h5, fun g => ?_, fun g => (h7 g).trans (hentry g)⟩
    rw [h6]
    unfold assign
    dsimp only
    by_cases hg : g = e.1
    · rw [hg, lookup_insert]
      simp
    have hmem : g ∈ (e :: l).map fst ↔ g ∈ l.map fst := by
      rw [map_cons, mem_cons]
      exact or_iff_right hg
    rw [lookup_insert_ne hg]
    simp only [hmem]

/-- An offer is made, and nothing else changes. -/
structure Built (dungeon : String) (roles : Table Nat UInt8) (s s' : LFTManager) : Prop where
  formed : s.Formed dungeon roles
  rolechecks : s'.rolechecks = s.rolechecks
  offers : s'.offers = s.offers.insert s.nextOfferId ⟨s.nextOfferId, dungeon, roles, [], lftOfferTimeout, s.queue⟩
  playerOffers : ∀ g, s'.playerOffers.lookup g = if (roles.lookup g).isSome then some s.nextOfferId else s.playerOffers.lookup g
  nextOfferId : s'.nextOfferId = s.nextOfferId + 1
  enqueued : s'.enqueued = s.enqueued
  online : ∀ g, s'.isInWorld g = s.isInWorld g
  entries : ∀ g, s'.entry g = s.entry g

/-- The offer that is made is one that forms around a player of the queue. -/
theorem tryBuildOffer_formed (w : LFTWorld) (s : LFTManager) (dungeon : String) :
    tryBuildOfferForInstance w s dungeon = s ∨ ∃ seed roles, LFTManager.formed w s dungeon seed = some roles ∧
      Built dungeon roles s (tryBuildOfferForInstance w s dungeon) := by
  unfold tryBuildOfferForInstance
  cases hfound : s.getQueueOrder.findSome? (formed w s dungeon) with
  | none => exact .inl rfl
  | some roles =>
    obtain ⟨seed, -, hseed⟩ := exists_of_findSome?_eq_some hfound
    have hformed := formed_some hseed
    have hqueued : ∀ e ∈ roles.ordered, (s.queue.lookup e.1).isSome = true := by
      intro e he
      obtain ⟨-, q, hq, -⟩ := hformed.listed e.1 e.2 (mem_ordered.1 he)
      rw [hq]
      rfl
    obtain ⟨h1, h2, h3, h4, h5, h6, h7⟩ := assign_foldl s.nextOfferId roles.ordered { s with
        offers := s.offers.insert s.nextOfferId ⟨s.nextOfferId, dungeon, roles, [], lftOfferTimeout, s.queue⟩
        nextOfferId := s.nextOfferId + 1 } hqueued
    refine .inr ⟨seed, roles, hseed, hformed, h1, h2, fun g => ?_, h3, h4, h5, h7⟩
    refine (h6 g).trans ?_
    simp only [mem_ordered_keys]

theorem tryBuildOffer_cases (w : LFTWorld) (s : LFTManager) (dungeon : String) :
    tryBuildOfferForInstance w s dungeon = s ∨ ∃ roles, Built dungeon roles s (tryBuildOfferForInstance w s dungeon) := by
  rcases tryBuildOffer_formed w s dungeon with hsame | ⟨-, roles, -, hbuilt⟩
  · exact .inl hsame
  · exact .inr ⟨roles, hbuilt⟩

end LFTManager

end ComfyCraft
