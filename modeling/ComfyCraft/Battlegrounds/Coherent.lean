import ComfyCraft.Battlegrounds.Queue

/-! The players' entries, the groups and the lists of the groups belong together. -/

namespace ComfyCraft.BattleGroundMgr

open List Function AList

namespace Queue

variable {q : Queue} {b : BattleGroundBracketId} {j id : Nat} {g : GroupQueueInfo} {p : Guid}

structure Coherent (q : Queue) : Prop where
  listed : ∀ b j id, id ∈ q.m_QueuedGroups b j →
    ∃ g, q.groups id = some g ∧ g.Players ≠ [] ∧ (j = g.GroupTeam.index ∨ j = g.GroupTeam.index + 2)
  unique : ∀ b j b' j' id, id ∈ q.m_QueuedGroups b j → id ∈ q.m_QueuedGroups b' j' → b = b' ∧ j = j'
  nodup : ∀ b j, (q.m_QueuedGroups b j).Nodup
  member : ∀ b j id g p, id ∈ q.m_QueuedGroups b j → q.groups id = some g → p ∈ g.Players →
    ∃ info, q.m_QueuedPlayers.lookup p = some info ∧ info.GroupInfo = id
  queued : ∀ p info, q.m_QueuedPlayers.lookup p = some info →
    ∃ g, q.groups info.GroupInfo = some g ∧ p ∈ g.Players ∧ ∃ b j, info.GroupInfo ∈ q.m_QueuedGroups b j
  once : ∀ id g, q.groups id = some g → g.Players.Nodup
  fresh : ∀ id, q.nextGroup ≤ id → q.groups id = none

theorem setList_self (q : Queue) (b : BattleGroundBracketId) (j : Nat) (l : List Nat) :
    (q.setList b j l).m_QueuedGroups b j = l := by
  simp [setList]

variable {b' : BattleGroundBracketId} {j' : Nat} {players : List Guid} {members : List (Guid × Team)}

theorem setList_other (q : Queue) {b : BattleGroundBracketId} {j : Nat} (l : List Nat) (hne : ¬ (b' = b ∧ j' = j)) :
    (q.setList b j l).m_QueuedGroups b' j' = q.m_QueuedGroups b' j' := by
  simp [setList, hne]

theorem mem_setList {q : Queue} {b : BattleGroundBracketId} {j : Nat} {l : List Nat} :
    id ∈ (q.setList b j l).m_QueuedGroups b' j' ↔ if b' = b ∧ j' = j then id ∈ l else id ∈ q.m_QueuedGroups b' j' := by
  unfold setList
  dsimp only
  split <;> rfl

/-! ### Entries and groups that keep what they point at -/

theorem Coherent.setGroup (h : Coherent q) {g' : GroupQueueInfo} (hg : q.groups id = some g) (hplayers : g'.Players = g.Players)
    (hteam : g'.GroupTeam = g.GroupTeam) : Coherent (q.setGroup id (some g')) := by
  have hself : (q.setGroup id (some g')).groups id = some g' := update_self ..
  have hother : ∀ i, i ≠ id → (q.setGroup id (some g')).groups i = q.groups i := fun i hi => update_of_ne hi ..
  -- every group has the players and the team it had
  have hfwd : ∀ i x, q.groups i = some x → ∃ x', (q.setGroup id (some g')).groups i = some x' ∧ x'.Players = x.Players ∧
      x'.GroupTeam = x.GroupTeam := by
    intro i x hx
    by_cases hi : i = id
    · subst hi
      rw [hg] at hx
      cases hx
      exact ⟨g', hself, hplayers, hteam⟩
    · exact ⟨x, (hother i hi).trans hx, rfl, rfl⟩
  have hback : ∀ i x', (q.setGroup id (some g')).groups i = some x' → ∃ x, q.groups i = some x ∧ x'.Players = x.Players := by
    intro i x' hx'
    by_cases hi : i = id
    · subst hi
      rw [hself] at hx'
      cases hx'
      exact ⟨g, hg, hplayers⟩
    · exact ⟨x', (hother i hi).symm.trans hx', rfl⟩
  refine ⟨?_, h.unique, h.nodup, ?_, ?_, ?_, ?_⟩
  · intro b j i hi
    obtain ⟨x, hx, hne, hj⟩ := h.listed b j i hi
    obtain ⟨x', hx', hp, ht⟩ := hfwd i x hx
    exact ⟨x', hx', hp ▸ hne, ht ▸ hj⟩
  · intro b j i x' p hi hx' hp
    obtain ⟨x, hx, hpl⟩ := hback i x' hx'
    exact h.member b j i x p hi hx (hpl ▸ hp)
  · intro p info hinfo
    obtain ⟨x, hx, hp, hplace⟩ := h.queued p info hinfo
    obtain ⟨x', hx', hpl, _⟩ := hfwd _ x hx
    exact ⟨x', hx', hpl ▸ hp, hplace⟩
  · intro i x' hx'
    obtain ⟨x, hx, hpl⟩ := hback i x' hx'
    exact hpl ▸ h.once i x hx
  · intro i hi
    by_cases hid : i = id
    · subst hid
      have hnone := h.fresh i hi
      rw [hg] at hnone
      cases hnone
    · exact (hother i hid).trans (h.fresh i hi)

theorem Coherent.setOnline (h : Coherent q) (guid : Guid) {f : PlayerQueueInfo → PlayerQueueInfo}
    (hf : ∀ info, (f info).GroupInfo = info.GroupInfo) : Coherent (q.setOnline guid f) := by
  unfold Queue.setOnline
  cases hlook : q.m_QueuedPlayers.lookup guid with
  | none => exact h
  | some info =>
    refine ⟨h.listed, h.unique, h.nodup, ?_, ?_, h.once, h.fresh⟩
    · intro b j i x p hi hx hp
      obtain ⟨info', hinfo', hid⟩ := h.member b j i x p hi hx hp
      by_cases hpg : p = guid
      · subst hpg
        rw [hlook] at hinfo'
        cases hinfo'
        exact ⟨f info, lookup_insert _, (hf info).trans hid⟩
      · exact ⟨info', (lookup_insert_ne hpg).trans hinfo', hid⟩
    · intro p info' hinfo'
      by_cases hpg : p = guid
      · subst hpg
        rw [lookup_insert] at hinfo'
        cases hinfo'
        rw [hf info]
        exact h.queued p info hlook
      · rw [lookup_insert_ne hpg] at hinfo'
        exact h.queued p info' hinfo'

/-- A list in another order, or two lists of one team that exchange a group. -/
theorem Coherent.relisted (h : Coherent q) {lists : BattleGroundBracketId → Nat → List Nat} (hnodup : ∀ b j, (lists b j).Nodup)
    (hmem : ∀ b j i, i ∈ lists b j → ∃ j', i ∈ q.m_QueuedGroups b j' ∧ (j' = j ∨ j' + 2 = j ∧ j' < 2))
    (hunique : ∀ b j j' i, i ∈ lists b j → i ∈ lists b j' → j = j')
    (hall : ∀ b j i, i ∈ q.m_QueuedGroups b j → ∃ j', i ∈ lists b j') : Coherent { q with m_QueuedGroups := lists } := by
  refine ⟨?_, ?_, hnodup, ?_, ?_, h.once, h.fresh⟩
  · intro b j i hi
    obtain ⟨j', hj', hplace⟩ := hmem b j i hi
    obtain ⟨g, hg, hne, hteam⟩ := h.listed b j' i hj'
    refine ⟨g, hg, hne, ?_⟩
    cases hgt : g.GroupTeam <;> rw [hgt] at hteam <;> simp only [Team.index] at hteam ⊢ <;> omega
  · intro b j b' j' i hi hi'
    obtain ⟨k, hk, _⟩ := hmem b j i hi
    obtain ⟨k', hk', _⟩ := hmem b' j' i hi'
    obtain ⟨rfl, _⟩ := h.unique b k b' k' i hk hk'
    exact ⟨rfl, hunique b j j' i hi hi'⟩
  · intro b j i x p hi hx hp
    obtain ⟨j', hj', _⟩ := hmem b j i hi
    exact h.member b j' i x p hj' hx hp
  · intro p info hinfo
    obtain ⟨x, hx, hp, b, j, hplace⟩ := h.queued p info hinfo
    obtain ⟨j', hj'⟩ := hall b j _ hplace
    exact ⟨x, hx, hp, b, j', hj'⟩

/-! ### A new group -/

theorem lookup_entries (players : List Guid) (t : Table Guid PlayerQueueInfo) (info : PlayerQueueInfo) (p : Guid) :
    (players.foldl (fun t g => t.insert g info) t).lookup p = if p ∈ players then some info else t.lookup p := by
  induction players generalizing t with
  | nil => simp
  | cons g rest ih =>
    rw [foldl_cons, ih]
    by_cases hp : p ∈ rest
    · simp [hp]
    by_cases hg : p = g
    · subst hg
      simp [hp]
    · simp [hp, hg, lookup_insert_ne hg]

theorem newGroup_queued (q : Queue) (joining : Joining) (players : List Guid) : (q.newGroup joining players).m_QueuedPlayers =
      players.foldl (fun t g => t.insert g ⟨true, 0, q.nextGroup⟩) q.m_QueuedPlayers := by
  unfold newGroup
  split <;> rfl

theorem newGroup_groups (q : Queue) (joining : Joining) (players : List Guid) :
    (q.newGroup joining players).groups = Function.update q.groups q.nextGroup
        (some ⟨players.dedup, joining.GroupTeam, joining.JoinTime, 0, 0, joining.DesiredInstanceId, joining.BracketId⟩) ∧
      (q.newGroup joining players).nextGroup = q.nextGroup + 1 := by
  unfold newGroup
  split <;> exact ⟨rfl, rfl⟩

/-- The lists have the new group at its place, unless it is empty. -/
theorem mem_newGroup {q : Queue} {joining : Joining} {b : BattleGroundBracketId} {j id : Nat} :
    id ∈ (q.newGroup joining players).m_QueuedGroups b j ↔ id ∈ q.m_QueuedGroups b j ∨
      players ≠ [] ∧ id = q.nextGroup ∧ b = joining.BracketId ∧ j = joinIndex joining.isPremade joining.GroupTeam := by
  unfold newGroup
  cases players with
  | nil => simp
  | cons p rest =>
    simp only [isEmpty_cons, Bool.false_eq_true, if_false, mem_setList]
    by_cases hplace : b = joining.BracketId ∧ j = joinIndex joining.isPremade joining.GroupTeam
    · obtain ⟨rfl, rfl⟩ := hplace
      simp
    · simp only [hplace, if_false, and_false, or_false]

theorem Coherent.listed_lt (h : Coherent q) (hid : id ∈ q.m_QueuedGroups b j) : id ≠ q.nextGroup := by
  rintro rfl
  obtain ⟨g, hg, _⟩ := h.listed b j _ hid
  rw [h.fresh _ (le_refl _)] at hg
  cases hg

theorem Coherent.newGroup (h : Coherent q) (joining : Joining)
    (hnew : ∀ p ∈ players, q.m_QueuedPlayers.lookup p = none) : Coherent (q.newGroup joining players) := by
  obtain ⟨hgroups, hnext⟩ := newGroup_groups q joining players
  have hself : (q.newGroup joining players).groups q.nextGroup =
      some ⟨players.dedup, joining.GroupTeam, joining.JoinTime, 0, 0, joining.DesiredInstanceId, joining.BracketId⟩ := by
    rw [hgroups, update_self]
  have hother : ∀ i, i ≠ q.nextGroup → (q.newGroup joining players).groups i = q.groups i := fun i hi => by
    rw [hgroups, update_of_ne hi]
  have hlook : ∀ p, (q.newGroup joining players).m_QueuedPlayers.lookup p =
      if p ∈ players then some ⟨true, 0, q.nextGroup⟩ else q.m_QueuedPlayers.lookup p := fun p => by
    rw [newGroup_queued, lookup_entries]
  refine ⟨?_, ?_, ?_, ?_, ?_, ?_, ?_⟩
  · intro b j i hi
    rcases mem_newGroup.1 hi with hi | ⟨hne, rfl, rfl, rfl⟩
    · obtain ⟨g, hg, hrest⟩ := h.listed b j i hi
      exact ⟨g, (hother i (h.listed_lt hi)).trans hg, hrest⟩
    · refine ⟨_, hself, by simpa using hne, ?_⟩
      cases joining.isPremade <;> simp [joinIndex, add_comm]
  · intro b j b' j' i hi hi'
    rcases mem_newGroup.1 hi with hi | ⟨_, rfl, rfl, rfl⟩ <;> rcases mem_newGroup.1 hi' with hi' | ⟨_, hid, rfl, rfl⟩
    · exact h.unique b j b' j' i hi hi'
    · exact absurd hid (h.listed_lt hi)
    · exact absurd rfl (h.listed_lt hi')
    · exact ⟨rfl, rfl⟩
  · intro b j
    unfold Queue.newGroup
    split
    · exact h.nodup b j
    by_cases hplace : b = joining.BracketId ∧ j = joinIndex joining.isPremade joining.GroupTeam
    · obtain ⟨rfl, rfl⟩ := hplace
      rw [setList_self]
      refine List.Nodup.append (h.nodup _ _) (nodup_singleton _) ?_
      simpa using fun hi => h.listed_lt hi rfl
    · rw [setList_other _ _ hplace]
      exact h.nodup b j
  · intro b j i x p hi hx hp
    rcases mem_newGroup.1 hi with hi | ⟨_, rfl, rfl, rfl⟩
    · rw [hother i (h.listed_lt hi)] at hx
      obtain ⟨info, hinfo, hid⟩ := h.member b j i x p hi hx hp
      have hnot : p ∉ players := fun hmem => by rw [hnew p hmem] at hinfo; cases hinfo
      exact ⟨info, by rw [hlook, if_neg hnot, hinfo], hid⟩
    · rw [hself] at hx
      cases hx
      exact ⟨⟨true, 0, q.nextGroup⟩, by rw [hlook, if_pos (mem_dedup.1 hp)], rfl⟩
  · intro p info hinfo
    rw [hlook] at hinfo
    split_ifs at hinfo with hp
    · cases hinfo
      exact ⟨_, hself, mem_dedup.2 hp, _, _, mem_newGroup.2 (.inr ⟨ne_nil_of_mem hp, rfl, rfl, rfl⟩)⟩
    · obtain ⟨x, hx, hmem, b, j, hplace⟩ := h.queued p info hinfo
      exact ⟨x, (hother _ (h.listed_lt hplace)).trans hx, hmem, b, j, mem_newGroup.2 (.inl hplace)⟩
  · intro i x hx
    by_cases hi : i = q.nextGroup
    · subst hi
      rw [hself] at hx
      cases hx
      exact nodup_dedup _
    · exact h.once i x ((hother i hi).symm.trans hx)
  · intro i hi
    rw [hnext] at hi
    rw [hother i (ne_of_gt hi), h.fresh i (le_of_lt hi)]

theorem Coherent.addPlayers (h : Coherent q) (joining : Joining) (hnodup : (members.map Prod.fst).Nodup)
    (hnew : ∀ m ∈ members, q.m_QueuedPlayers.lookup m.1 = none) :
    Coherent (members.foldl (fun q m => q.addPlayer { joining with GroupTeam := m.2, isPremade := false } m.1) q) := by
  induction members generalizing q with
  | nil => exact h
  | cons m rest ih =>
    rw [map_cons, nodup_cons] at hnodup
    refine ih (h.newGroup _ fun p hp => ?_) hnodup.2 fun m' hm' => ?_
    · rw [mem_singleton.1 hp]
      exact hnew m mem_cons_self
    · have hne : m'.1 ≠ m.1 := fun heq => hnodup.1 (heq ▸ mem_map_of_mem hm')
      dsimp only [addPlayer]
      rw [newGroup_queued, lookup_entries, if_neg (by simpa using hne)]
      exact hnew m' (mem_cons_of_mem _ hm')

theorem Coherent.addGroup (h : Coherent q) (groupLimit membersCount : Nat) (joining : Joining)
    (excluded : List Guid) (hnodup : (members.map Prod.fst).Nodup)
    (hnew : ∀ m ∈ members, m.1 ∉ excluded → q.m_QueuedPlayers.lookup m.1 = none) :
    Coherent (q.addGroup groupLimit joining membersCount members excluded) := by
  have hjoin : ∀ m ∈ members.filter (fun m => m.1 ∉ excluded), q.m_QueuedPlayers.lookup m.1 = none := fun m hm => by
    obtain ⟨hmem, hnot⟩ := mem_filter.1 hm
    exact hnew m hmem (by simpa using hnot)
  unfold Queue.addGroup
  split
  · refine (h.newGroup joining (fun p hp => by cases hp)).addPlayers joining ?_ fun m hm => ?_
    · exact hnodup.sublist (filter_sublist.map _)
    · rw [newGroup_queued, lookup_entries, if_neg not_mem_nil]
      exact hjoin m hm
  · refine h.newGroup joining fun p hp => ?_
    obtain ⟨m, hm, rfl⟩ := mem_map.1 hp
    exact hjoin m hm

/-! ### A player leaves -/

theorem findSome_unique {α β : Type} {l : List α} {f : α → Option β} {a : α} {y : β} (ha : a ∈ l) (hf : f a = some y)
    (hother : ∀ x ∈ l, x ≠ a → f x = none) : l.findSome? f = some y := by
  induction l with
  | nil => cases ha
  | cons x rest ih =>
    by_cases hx : x = a
    · subst hx
      rw [findSome?_cons, hf]
    · rw [findSome?_cons, hother x mem_cons_self hx]
      exact ih ((mem_cons.1 ha).resolve_left (Ne.symm hx)) fun z hz => hother z (mem_cons_of_mem _ hz)

theorem Coherent.findGroup_eq (h : Coherent q) (hid : id ∈ q.m_QueuedGroups b j) (hg : q.groups id = some g) :
    q.findGroup g.GroupTeam id = some (b, j) := by
  obtain ⟨g', hg', _, hj⟩ := h.listed b j id hid
  rw [hg] at hg'
  cases hg'
  unfold findGroup
  refine findSome_unique (a := b) (by simp) ?_ fun b' _ hne => ?_
  · have hfilter : ([g.GroupTeam.index, g.GroupTeam.index + 2].filter fun k => id ∈ q.m_QueuedGroups b k) = [j] := by
      have hiff : ∀ k, id ∈ q.m_QueuedGroups b k ↔ k = j := fun k =>
        ⟨fun hk => (h.unique b k b j id hk hid).2, fun hk => hk ▸ hid⟩
      rcases hj with rfl | rfl <;> simp [hiff]
    rw [hfilter]
    rfl
  · have hnone : ∀ k, id ∉ q.m_QueuedGroups b' k := fun k hk => hne (h.unique b' k b j id hk hid).1
    simp [hnone]

theorem groupOf_eq_some (hq : q.groupOf p = some (id, g)) :
    ∃ info, q.m_QueuedPlayers.lookup p = some info ∧ info.GroupInfo = id ∧ q.groups id = some g := by
  obtain ⟨info, hinfo, hmap⟩ := Option.bind_eq_some_iff.1 hq
  obtain ⟨g', hg', heq⟩ := Option.map_eq_some_iff.1 hmap
  cases heq
  exact ⟨info, hinfo, rfl, hg'⟩

theorem Coherent.removePlayer (h : Coherent q) (hq : q.groupOf p = some (id, g)) : Coherent (q.removePlayer p id g) := by
  obtain ⟨info, hinfo, hgi, hg⟩ := groupOf_eq_some hq
  obtain ⟨g', hg', hp, b, j, hplace⟩ := h.queued p info hinfo
  rw [hgi] at hg' hplace
  rw [hg] at hg'
  cases hg'
  have honce := h.once id g hg
  have hrest : ∀ x, x ∈ g.Players.erase p ↔ x ∈ g.Players ∧ x ≠ p := fun x => by
    rw [honce.mem_erase_iff, and_comm]
  unfold Queue.removePlayer
  rw [h.findGroup_eq hplace hg]
  dsimp only
  -- who is queued in the group besides the player is one of the rest
  have hothers : ∀ x infox, q.m_QueuedPlayers.lookup x = some infox → x ≠ p → infox.GroupInfo = id → x ∈ g.Players.erase p := by
    intro x infox hx hne hxid
    obtain ⟨gx, hgx, hmem, _⟩ := h.queued x infox hx
    rw [hxid, hg] at hgx
    cases hgx
    exact (hrest x).2 ⟨hmem, hne⟩
  have hlook : ∀ x, (q.m_QueuedPlayers.erase p).lookup x = if x = p then none else q.m_QueuedPlayers.lookup x := by
    intro x
    by_cases hx : x = p
    · subst hx
      simp
    · rw [lookup_erase_ne hx, if_neg hx]
  split
  · rename_i hempty
    have hnone : g.Players.erase p = [] := isEmpty_iff.1 hempty
    have hgroups : ∀ i, i ≠ id → update (update q.groups id (some { g with Players := g.Players.erase p })) id none i =
        q.groups i := fun i hi => by rw [update_of_ne hi, update_of_ne hi]
    have hmem : ∀ b' j' i, i ∈ (q.setList b j ((q.m_QueuedGroups b j).erase id)).m_QueuedGroups b' j' ↔
        i ∈ q.m_QueuedGroups b' j' ∧ i ≠ id := by
      intro b' j' i
      rw [mem_setList]
      by_cases hb : b' = b ∧ j' = j
      · obtain ⟨rfl, rfl⟩ := hb
        rw [if_pos ⟨rfl, rfl⟩, (h.nodup b' j').mem_erase_iff, and_comm]
      · rw [if_neg hb]
        refine ⟨fun hi => ⟨hi, ?_⟩, fun hi => hi.1⟩
        rintro rfl
        exact hb (h.unique b' j' b j i hi hplace)
    refine ⟨?_, ?_, ?_, ?_, ?_, ?_, ?_⟩ <;> simp only [Queue.setGroup, Queue.setList]
    · intro b' j' i hi
      obtain ⟨hi, hne⟩ := (hmem b' j' i).1 hi
      obtain ⟨x, hx, hrest⟩ := h.listed b' j' i hi
      exact ⟨x, (hgroups i hne).trans hx, hrest⟩
    · intro b₁ j₁ b₂ j₂ i hi hi'
      exact h.unique b₁ j₁ b₂ j₂ i ((hmem b₁ j₁ i).1 hi).1 ((hmem b₂ j₂ i).1 hi').1
    · intro b' j'
      split
      · exact (h.nodup b j).sublist erase_sublist
      · exact h.nodup b' j'
    · intro b' j' i x y hi hx hy
      obtain ⟨hi, hne⟩ := (hmem b' j' i).1 hi
      rw [hgroups i hne] at hx
      obtain ⟨infoy, hinfoy, hid⟩ := h.member b' j' i x y hi hx hy
      have hyp : y ≠ p := by
        rintro rfl
        rw [hinfo] at hinfoy
        cases hinfoy
        exact hne (hid.symm.trans hgi)
      exact ⟨infoy, by rw [hlook, if_neg hyp, hinfoy], hid⟩
    · intro x infox hx
      rw [hlook] at hx
      split at hx
      · cases hx
      rename_i hxp
      obtain ⟨gx, hgx, hxmem, b', j', hxplace⟩ := h.queued x infox hx
      have hne : infox.GroupInfo ≠ id := fun hcon => by
        have := hothers x infox hx hxp hcon
        rw [hnone] at this
        cases this
      exact ⟨gx, (hgroups _ hne).trans hgx, hxmem, b', j', (hmem b' j' _).2 ⟨hxplace, hne⟩⟩
    · intro i x hx
      by_cases hi : i = id
      · subst hi
        rw [update_self] at hx
        cases hx
      · exact h.once i x ((hgroups i hi).symm.trans hx)
    · intro i hi
      by_cases hid : i = id
      · subst hid
        exact update_self ..
      · exact (hgroups i hid).trans (h.fresh i hi)
  · rename_i hempty
    have hself : update q.groups id (some { g with Players := g.Players.erase p }) id =
        some { g with Players := g.Players.erase p } := update_self ..
    have hgroups : ∀ i, i ≠ id → update q.groups id (some { g with Players := g.Players.erase p }) i = q.groups i :=
      fun i hi => update_of_ne hi ..
    refine ⟨?_, h.unique, h.nodup, ?_, ?_, ?_, ?_⟩ <;> simp only [Queue.setGroup]
    · intro b' j' i hi
      obtain ⟨x, hx, hne, hteam⟩ := h.listed b' j' i hi
      by_cases hid : i = id
      · subst hid
        rw [hg] at hx
        cases hx
        exact ⟨_, hself, fun hcon => hempty (isEmpty_iff.2 hcon), hteam⟩
      · exact ⟨x, (hgroups i hid).trans hx, hne, hteam⟩
    · intro b' j' i x y hi hx hy
      by_cases hid : i = id
      · subst hid
        rw [hself] at hx
        cases hx
        obtain ⟨hy, hyp⟩ := (hrest y).1 hy
        obtain ⟨infoy, hinfoy, hidy⟩ := h.member b' j' i g y hi hg hy
        exact ⟨infoy, by rw [hlook, if_neg hyp, hinfoy], hidy⟩
      · rw [hgroups i hid] at hx
        obtain ⟨infoy, hinfoy, hidy⟩ := h.member b' j' i x y hi hx hy
        have hyp : y ≠ p := by
          rintro rfl
          rw [hinfo] at hinfoy
          cases hinfoy
          exact hid (hidy.symm.trans hgi)
        exact ⟨infoy, by rw [hlook, if_neg hyp, hinfoy], hidy⟩
    · intro x infox hx
      rw [hlook] at hx
      split at hx
      · cases hx
      rename_i hxp
      obtain ⟨gx, hgx, hxmem, hxplace⟩ := h.queued x infox hx
      by_cases hid : infox.GroupInfo = id
      · exact ⟨_, by rw [hid]; exact hself, hothers x infox hx hxp hid, hxplace⟩
      · exact ⟨gx, (hgroups _ hid).trans hgx, hxmem, hxplace⟩
    · intro i x hx
      by_cases hi : i = id
      · subst hi
        rw [hself] at hx
        cases hx
        exact honce.erase p
      · exact h.once i x ((hgroups i hi).symm.trans hx)
    · intro i hi
      have hne : i ≠ id := by
        rintro rfl
        rw [h.fresh i hi] at hg
        cases hg
      exact (hgroups i hne).trans (h.fresh i hi)

end Queue

end ComfyCraft.BattleGroundMgr
