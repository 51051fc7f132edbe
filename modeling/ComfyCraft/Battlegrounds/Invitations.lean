import ComfyCraft.Battlegrounds.Invited

/-! Ports, invitations and the update keep the invited counts. -/

namespace ComfyCraft.BattleGroundMgr

open List Function UInt32 Option AList Table Queue Nat BattleGround SelectionPool

variable {q q' : Queue} {s s' : State} {conf : Conf} {w : World} {p guid : Guid} {b : Nat} {team : Team}

namespace State

/-! ### Ports -/

variable {id n m : Nat} {g : GroupQueueInfo}

section

variable (hq : s.queue.Coherent) (h : Counted s) (hg : s.queue.groupOf guid = some (id, g))
include hq h hg

/-- Who holds an invitation and is in no battleground is on the way then. -/
theorem Counted.ported {place : Nat × Team} (hp : s.counted.lookup guid = some place) (hway : s.arriving.lookup guid = none)
    (hout : ∀ b bg, s.m_BattleGrounds.lookup b = some bg → bg.m_Players.lookup guid = none) :
    Counted ({ ({ s with queue := s.queue.removePlayer guid id g, counted := s.counted.erase guid } : State).setPlayer guid fun d =>
      { d with bgInstanceID := place.1, bgTeam := place.2 } with arriving := s.arriving.insert guid place } : State) := by
  obtain ⟨hold, hinvited⟩ := h.left hq hg
  obtain ⟨_, _, _, hgroup⟩ := groupOf_eq_some hg
  obtain ⟨_, id', g', hg', hinv, _⟩ := h.invited guid place hp
  rw [hg] at hg'
  cases hg'
  refine { h with
    invited := hinvited
    oldGroup := hold
    right := fun b bg team hb => ?_
    oldPlace := fun p place' hp' => ?_
    way := fun p place' hp' => ?_
    inside := fun b bg p team hb hin => ?_ }
  · obtain ⟨hright, hroom⟩ := h.right b bg team hb
    have herase := tally_erase_counted hp b team
    have hinsert := tally_insert_new (ToBattleGround b team) place hway
    have hone : ToBattleGround b team guid place = if place = (b, team) then 1 else 0 := rfl
    unfold holders at hright ⊢
    dsimp only [State.setPlayer]
    exact ⟨by omega, hroom⟩
  · by_cases hpg : p = guid
    · subst hpg
      rw [lookup_insert] at hp'
      cases hp'
      rw [← hinv]
      exact h.oldGroup id g hgroup
    · rw [lookup_insert_ne hpg] at hp'
      exact h.oldPlace p place' hp'
  · dsimp only [State.setPlayer] at hp' ⊢
    by_cases hpg : p = guid
    · subst hpg
      rw [lookup_insert] at hp'
      cases hp'
      rw [update_self]
      exact ⟨rfl, rfl, hout⟩
    · rw [lookup_insert_ne hpg] at hp'
      rw [update_of_ne hpg]
      exact h.way p place' hp'
  · dsimp only [State.setPlayer] at hb ⊢
    have hpg : p ≠ guid := by
      rintro rfl
      rw [hout b bg hb] at hin
      cases hin
    rw [update_of_ne hpg]
    exact h.inside b bg p team hb hin

theorem portToBattleGround_counted (hp : s.counted.lookup guid ≠ none) (hway : s.arriving.lookup guid = none) :
    Counted (s.portToBattleGround guid g) := by
  obtain ⟨hleft, hout⟩ := leaveBattleground_counted h fun _ => hway
  obtain ⟨harriving, hcounted⟩ := leaveBattleground_frame s guid
  have hqueue := leaveBattleground_queue s guid
  cases hplace : s.counted.lookup guid with
  | none => exact absurd hplace hp
  | some place =>
    obtain ⟨_, id', g', hg', hinv, hteam⟩ := h.invited guid place hplace
    rw [hg] at hg'
    cases hg'
    have hremove : s.removePlayer guid false = { s with queue := s.queue.removePlayer guid id g, counted := s.counted.erase guid } := by
      unfold removePlayer
      rw [hg]
      rfl
    have hported := Counted.ported (s := s.leaveBattleground guid) (by rw [hqueue]; exact hq) hleft (by rw [hqueue]; exact hg)
      (by rw [hcounted]; exact hplace) (by rw [harriving]; exact hway) hout
    rw [hqueue, hcounted, harriving] at hported
    unfold portToBattleGround
    rw [hremove, leaveBattleground_setQueue, hinv, hteam]
    dsimp only [setPlayer] at hported ⊢
    rw [harriving]
    exact hported

end

/-! ### The battlegrounds' own steps -/

theorem Counted.mapBG (h : Counted s) {bgs : Table Nat BattleGround} (free : List Nat)
    (hbgs : ∀ b bg', bgs.lookup b = some bg' → ∃ bg, s.m_BattleGrounds.lookup b = some bg ∧ bg'.m_Players = bg.m_Players ∧
      bg'.m_MaxPlayersPerTeam = bg.m_MaxPlayersPerTeam ∧ bg'.getInvitedCount = bg.getInvitedCount) :
    Counted { s with m_BattleGrounds := bgs, BGFreeSlotQueue := free } := by
  refine { h with
    right := fun b bg' team hb => ?_
    oldBG := fun b bg' hb => ?_
    way := fun p place hp => ?_
    inside := fun b bg' p team hb hin => ?_ }
  · obtain ⟨bg, hbg, hplayers, hmax, hcount⟩ := hbgs b bg' hb
    have hright := h.right b bg team hbg
    unfold holders at hright ⊢
    rw [hplayers, hmax, hcount]
    exact hright
  · obtain ⟨bg, hbg, _⟩ := hbgs b bg' hb
    exact h.oldBG b bg hbg
  · obtain ⟨hid, hteam, hout⟩ := h.way p place hp
    refine ⟨hid, hteam, fun b bg' hb => ?_⟩
    obtain ⟨bg, hbg, hplayers, _⟩ := hbgs b bg' hb
    rw [hplayers]
    exact hout b bg hbg
  · obtain ⟨bg, hbg, hplayers, _⟩ := hbgs b bg' hb
    rw [hplayers] at hin
    exact h.inside b bg p team hbg hin

theorem setStatus_counted (h : Counted s) (b : Nat) (status : BattleGroundStatus) : Counted (s.setStatus b status) := by
  unfold setStatus updateBG
  cases hb : s.m_BattleGrounds.lookup b with
  | none => exact h
  | some bg =>
    refine h.mapBG s.BGFreeSlotQueue fun b' bg' hb' => ?_
    by_cases hbb : b' = b
    · subst hbb
      rw [lookup_insert] at hb'
      cases hb'
      refine ⟨bg, hb, rfl, rfl, funext fun team => ?_⟩
      cases team <;> rfl
    · rw [lookup_insert_ne hbb] at hb'
      exact ⟨bg', hb', rfl, rfl, rfl⟩

theorem endBattleGround_counted (h : Counted s) (b : Nat) : Counted (s.endBattleGround b) :=
  (setStatus_counted h b .WAIT_LEAVE).mapBG _ fun _ bg hb => ⟨bg, hb, rfl, rfl, rfl⟩

theorem deleteBattleGround_counted (h : Counted s) (b : Nat) : Counted (s.deleteBattleGround b) := by
  refine h.mapBG _ fun b' bg' hb' => ⟨bg', ?_, rfl, rfl, rfl⟩
  have hne : b' ≠ b := by
    rintro rfl
    simp at hb'
  rwa [lookup_erase_ne hne] at hb'

theorem removeAll_counted (l : List Guid) (hnodup : l.Nodup) (h : Counted s)
    (hin : ∀ p ∈ l, (s.players p).bgInstanceID = b ∧ s.arriving.lookup p = none) :
    Counted (l.foldl (fun s guid => s.removePlayerAtLeave b guid) s) := by
  induction l generalizing s with
  | nil => exact h
  | cons guid rest ih =>
    obtain ⟨hid, hway⟩ := hin guid mem_cons_self
    obtain ⟨harriving, _, hplayers⟩ := removePlayerAtLeave_frame s b guid
    refine ih (nodup_cons.1 hnodup).2 (removePlayerAtLeave_counted h hid hway).1 fun p hp => ?_
    have hne : p ≠ guid := by
      rintro rfl
      exact (nodup_cons.1 hnodup).1 hp
    rw [hplayers p hne, harriving]
    exact hin p (mem_cons_of_mem _ hp)

theorem battleGroundUpdate_counted (h : Counted s) (b : Nat) (timeOver : Bool) : Counted (s.battleGroundUpdate b timeOver) := by
  unfold battleGroundUpdate
  cases hb : s.m_BattleGrounds.lookup b with
  | none => exact h
  | some bg =>
    dsimp only
    split
    · refine deleteBattleGround_counted (removeAll_counted _ bg.m_Players.ordered_keys_nodup h fun p hp => ?_) b
      obtain ⟨team, hteam⟩ := isSome_iff_exists.1 (mem_ordered_keys.1 hp)
      refine ⟨h.inside b bg p team hb hteam, ?_⟩
      cases hway : s.arriving.lookup p with
      | none => rfl
      | some place =>
        have hcon := (h.way p place hway).2.2 b bg hb
        rw [hteam] at hcon
        cases hcon
    · split
      · exact deleteBattleGround_counted h b
      · exact h

/-! ### Invitations -/

/-- The battleground has room for `n` more of a team. -/
def Room (s : State) (b : Nat) (team : Team) (n : Nat) : Prop :=
  ∃ bg, s.m_BattleGrounds.lookup b = some bg ∧ (bg.getInvitedCount team).toNat + n ≤ bg.m_MaxPlayersPerTeam.toNat

theorem Room.mono (h : Room s b team n) (hle : m ≤ n) : Room s b team m := by
  obtain ⟨bg, hb, hroom⟩ := h
  exact ⟨bg, hb, by omega⟩

/-- Room that is left after `n` of the team were invited. -/
def Leaves (s s' : State) (b : Nat) (team : Team) (n : Nat) : Prop :=
  ∀ team' m, Room s b team' m → Room s' b team' (m - if team' = team then n else 0)

theorem Leaves.refl (s : State) (b : Nat) (team : Team) (n : Nat) : Leaves s s b team n := fun _ _ h => h.mono (sub_le _ _)

theorem Leaves.trans {s'' : State} (h : Leaves s s' b team n) (h' : Leaves s' s'' b team m) : Leaves s s'' b team (n + m) := by
  intro team' k hroom
  refine (h' team' _ (h team' k hroom)).mono ?_
  split <;> omega

theorem Leaves.mono (h : Leaves s s' b team n) (hle : n ≤ m) : Leaves s s' b team m := by
  intro team' k hroom
  refine (h team' k hroom).mono ?_
  split <;> omega

theorem invitePlayer_table (s : State) (b : Nat) (team : Team) (guid : Guid) :
    (s.invitePlayer b team guid).counted = s.counted.insert guid (b, team) := by
  unfold invitePlayer updateBG
  cases s.m_BattleGrounds.lookup b <;> rfl

theorem invitePlayer_counted (h : Counted s) (hg : s.queue.groupOf guid = some (id, g))
    (hinv : g.IsInvitedToBGInstanceGUID = b) (hteam : g.GroupTeam = team) (hnew : s.counted.lookup guid = none)
    (hroom : Room s b team 1) : Counted (s.invitePlayer b team guid) ∧ Leaves s (s.invitePlayer b team guid) b team 1 := by
  obtain ⟨bg, hb, hfree⟩ := hroom
  have hcount := increaseInvitedCount_toNat hfree
  unfold invitePlayer updateBG
  rw [hb]
  have hslots := h.setPlayer guid (f := fun d => { d with bgQueueSlot := d.bgQueueSlot.map fun _ => b }) fun _ => ⟨rfl, rfl⟩
  refine ⟨{ hslots with
    invited := fun p place hp => ?_
    right := fun b' bg' team' hb' => ?_
    oldBG := fun b' bg' hb' => ?_
    way := fun p place hp => ?_
    inside := fun b' bg' p team' hb' hin => ?_ }, fun team' m hroom' => ?_⟩
  · dsimp only [setPlayer] at hp ⊢
    by_cases hpg : p = guid
    · subst hpg
      rw [lookup_insert] at hp
      cases hp
      exact ⟨ne_of_gt (h.oldBG b bg hb).1, id, g, hg, hinv, hteam⟩
    · rw [lookup_insert_ne hpg] at hp
      exact h.invited p place hp
  · have hinsert := tally_insert_new (ToBattleGround b' team') (b, team) hnew
    dsimp only [setPlayer] at hb' ⊢
    unfold holders
    dsimp only
    by_cases hbb : b' = b
    · subst hbb
      rw [lookup_insert] at hb'
      cases hb'
      obtain ⟨hright, hle⟩ := h.right b' bg team' hb
      have hone : ToBattleGround b' team' guid (b', team) = if team' = team then 1 else 0 :=
        if_congr (by rw [Prod.ext_iff]; exact ⟨fun heq => heq.2.symm, fun heq => ⟨rfl, heq.symm⟩⟩) rfl rfl
      have hup := hcount team'
      unfold holders at hright
      rw [le_iff_toNat_le] at hle ⊢
      rw [increaseInvitedCount_players, increaseInvitedCount_max]
      refine ⟨by omega, ?_⟩
      by_cases hteam' : team' = team
      · subst hteam'
        rw [if_pos rfl] at hup
        omega
      · rw [if_neg hteam'] at hup
        omega
    · rw [lookup_insert_ne hbb] at hb'
      obtain ⟨hright, hle⟩ := h.right b' bg' team' hb'
      have hzero : ToBattleGround b' team' guid (b, team) = 0 := if_neg fun heq => hbb (by rw [Prod.ext_iff] at heq; exact heq.1.symm)
      unfold holders at hright
      exact ⟨by omega, hle⟩
  · dsimp only [setPlayer] at hb'
    by_cases hbb : b' = b
    · subst hbb
      exact h.oldBG b' bg hb
    · rw [lookup_insert_ne hbb] at hb'
      exact h.oldBG b' bg' hb'
  · obtain ⟨hid, hpteam, hout⟩ := hslots.way p place hp
    refine ⟨hid, hpteam, fun b' bg' hb' => ?_⟩
    dsimp only [setPlayer] at hb'
    by_cases hbb : b' = b
    · subst hbb
      rw [lookup_insert] at hb'
      cases hb'
      rw [increaseInvitedCount_players]
      exact hout b' bg hb
    · rw [lookup_insert_ne hbb] at hb'
      exact hout b' bg' hb'
  · dsimp only [setPlayer] at hb'
    by_cases hbb : b' = b
    · subst hbb
      rw [lookup_insert] at hb'
      cases hb'
      rw [increaseInvitedCount_players] at hin
      exact hslots.inside b' bg p team' hb hin
    · rw [lookup_insert_ne hbb] at hb'
      exact hslots.inside b' bg' p team' hb' hin
  · obtain ⟨bg', hb', hfree'⟩ := hroom'
    rw [hb] at hb'
    cases hb'
    refine ⟨_, lookup_insert _, ?_⟩
    rw [increaseInvitedCount_max, hcount team']
    by_cases hteam' : team' = team
    · subst hteam'
      rw [if_pos rfl]
      omega
    · rw [if_neg hteam']
      omega

theorem invitePlayers_counted (hinv : g.IsInvitedToBGInstanceGUID = b) (hteam : g.GroupTeam = team)
    (l : List Guid) (hnodup : l.Nodup) (h : Counted s) (hg : ∀ p ∈ l, s.queue.groupOf p = some (id, g))
    (hnew : ∀ p ∈ l, s.counted.lookup p = none) (hroom : Room s b team l.length) :
    Counted (l.foldl (fun s guid => s.invitePlayer b team guid) s) ∧
      Leaves s (l.foldl (fun s guid => s.invitePlayer b team guid) s) b team l.length := by
  induction l generalizing s with
  | nil => exact ⟨h, Leaves.refl s b team _⟩
  | cons guid rest ih =>
    rw [length_cons] at hroom ⊢
    obtain ⟨hfirst, hleaves⟩ := invitePlayer_counted h (hg guid mem_cons_self) hinv hteam (hnew guid mem_cons_self)
      (hroom.mono (le_add_left _ _))
    have hrest := hleaves team _ hroom
    rw [if_pos rfl, Nat.add_sub_cancel] at hrest
    obtain ⟨hall, hleft⟩ := ih (nodup_cons.1 hnodup).2 hfirst
      (fun p hp => by rw [invitePlayer_queue]; exact hg p (mem_cons_of_mem _ hp))
      (fun p hp => by
        have hne : p ≠ guid := by
          rintro rfl
          exact (nodup_cons.1 hnodup).1 hp
        rw [invitePlayer_table, lookup_insert_ne hne]
        exact hnew p (mem_cons_of_mem _ hp))
      hrest
    exact ⟨hall, (hleaves.trans hleft).mono (le_of_eq (add_comm _ _))⟩

end State

/-! ### Groups that keep their players and teams -/

namespace Queue

/-- The queues list the same groups, of the same players and teams. -/
structure Alike (q q' : Queue) : Prop where
  listed : ∀ b j id, id ∈ q.m_QueuedGroups b j → ∃ b' j', id ∈ q'.m_QueuedGroups b' j'
  groups : ∀ id, (q'.groups id).map (fun g => (g.Players, g.GroupTeam)) = (q.groups id).map fun g => (g.Players, g.GroupTeam)

theorem Alike.refl (q : Queue) : Alike q q := ⟨fun b j _ hid => ⟨b, j, hid⟩, fun _ => rfl⟩

theorem Alike.trans {q'' : Queue} (h : Alike q q') (h' : Alike q' q'') : Alike q q'' := by
  refine ⟨fun b j id hid => ?_, fun id => (h'.groups id).trans (h.groups id)⟩
  obtain ⟨b', j', hid'⟩ := h.listed b j id hid
  exact h'.listed b' j' id hid'

variable {id : Nat} {g : GroupQueueInfo}

theorem Alike.group (h : Alike q q') (hg : q.groups id = some g) :
    ∃ g', q'.groups id = some g' ∧ g'.Players = g.Players ∧ g'.GroupTeam = g.GroupTeam := by
  have hmap := h.groups id
  rw [hg] at hmap
  obtain ⟨g', hg', heq⟩ := map_eq_some_iff.1 hmap
  exact ⟨g', hg', (Prod.mk.inj heq).1, (Prod.mk.inj heq).2⟩

theorem Alike.sizeOf (h : Alike q q') (id : Nat) : SelectionPool.sizeOf q' id = SelectionPool.sizeOf q id := by
  have hmap := congrArg (fun o => (o.map fun x : List Guid × Team => x.1.length).getD 0) (h.groups id)
  simpa [SelectionPool.sizeOf, Option.map_map, comp_def] using hmap

theorem Alike.ofTeam (h : Alike q q') {l : List Nat} (hl : OfTeam q team l) : OfTeam q' team l := by
  intro id hid
  obtain ⟨g, hg, hteam, b, j, hplace⟩ := hl id hid
  obtain ⟨g', hg', _, hteam'⟩ := h.group hg
  exact ⟨g', hg', hteam'.trans hteam, h.listed b j id hplace⟩

theorem Alike.of {room : Nat} {pool : SelectionPool} (h : Alike q q') (hpool : pool.Of q team room) : pool.Of q' team room := by
  refine ⟨h.ofTeam hpool.team, ?_, hpool.room⟩
  rw [hpool.count]
  congr 1
  exact map_congr_left fun id _ => (h.sizeOf id).symm

theorem Alike.setGroup {g' : GroupQueueInfo} (hg : q.groups id = some g) (hplayers : g'.Players = g.Players)
    (hteam : g'.GroupTeam = g.GroupTeam) : Alike q (q.setGroup id (some g')) := by
  refine ⟨fun b j _ hid => ⟨b, j, hid⟩, fun i => ?_⟩
  dsimp only [Queue.setGroup]
  by_cases hi : i = id
  · subst hi
    rw [update_self, hg, map_some, map_some, hplayers, hteam]
  · rw [update_of_ne hi]

theorem groupOf_setGroup (hg : q.groupOf p = some (id, g)) (g' : GroupQueueInfo) :
    (q.setGroup id (some g')).groupOf p = some (id, g') := by
  obtain ⟨info, hinfo, rfl, _⟩ := groupOf_eq_some hg
  simp [groupOf, setGroup, hinfo]

theorem Alike.demote (q : Queue) (conf : Conf) (now : UInt32) (mt : Match) (b : BattleGroundBracketId) (team : Team) :
    Alike q (demote conf now mt b q team) := by
  unfold BattleGroundMgr.demote
  cases hlist : q.m_QueuedGroups b team.index with
  | nil => exact Alike.refl q
  | cons id rest =>
    dsimp only
    cases q.groups id with
    | none => exact Alike.refl q
    | some g =>
      dsimp only
      split
      · refine ⟨fun b' j' i hi => ?_, fun _ => rfl⟩
        by_cases hid : i = id
        · refine ⟨b, team.index + 2, ?_⟩
          rw [mem_setList, if_neg (by omega), mem_setList, if_pos ⟨rfl, rfl⟩, hid]
          exact mem_append_right _ mem_cons_self
        refine ⟨b', j', ?_⟩
        rw [mem_setList, mem_setList]
        split
        · rename_i hplace
          rw [hplace.1, hplace.2, hlist] at hi
          exact (mem_cons.1 hi).resolve_left hid
        · split
          · rename_i hplace
            rw [hplace.1, hplace.2] at hi
            exact mem_append_left _ hi
          · exact hi
      · exact Alike.refl q

end Queue

namespace State

theorem inviteGroupToBG_counted (hq : s.queue.Coherent) (h : Counted s) (w : World) {id : Nat} (hid : OfTeam s.queue team [id])
    (hroom : Room s b team (SelectionPool.sizeOf s.queue id)) :
    Counted (s.inviteGroupToBG w b id) ∧ s.queue.Alike (s.inviteGroupToBG w b id).queue ∧
      Leaves s (s.inviteGroupToBG w b id) b team (SelectionPool.sizeOf s.queue id) := by
  obtain ⟨g, hg, hteam, bracket, j, hplace⟩ := hid id mem_cons_self
  have ⟨bg, hb, _⟩ := hroom
  unfold inviteGroupToBG
  rw [sizeOf_eq hg] at hroom ⊢
  rw [hg]
  dsimp only
  split
  · rename_i hzero
    generalize hinvited : { g with IsInvitedToBGInstanceGUID := b, RemoveInviteTime := w.now + INVITE_ACCEPT_WAIT_TIME } = invited
    have hsame : invited.Players = g.Players ∧ invited.GroupTeam = g.GroupTeam ∧ invited.IsInvitedToBGInstanceGUID = b := by
      rw [← hinvited]
      exact ⟨rfl, rfl, rfl⟩
    -- nobody of the group was counted
    have hnew : ∀ p ∈ g.Players, s.queue.groupOf p = some (id, g) ∧ s.counted.lookup p = none := by
      intro p hp
      obtain ⟨info, hinfo, hgi⟩ := hq.member bracket j id g p hplace hg hp
      have hgroup : s.queue.groupOf p = some (id, g) := hgi ▸ groupOf_of hinfo (hgi ▸ hg)
      refine ⟨hgroup, ?_⟩
      cases hcounted : s.counted.lookup p with
      | none => rfl
      | some place =>
        obtain ⟨hne, id', g', hg', hinv, _⟩ := h.invited p place hcounted
        rw [hgroup] at hg'
        cases hg'
        exact absurd (hinv.symm.trans hzero) hne
    have hset : Counted { s with queue := s.queue.setGroup id (some invited) } := by
      refine h.setQueue (h.oldGroup.setGroup (hsame.2.2 ▸ (h.oldBG b bg hb).2)) fun p hp id' g' hg' => ?_
      obtain ⟨info, hinfo, rfl, hgroup⟩ := groupOf_eq_some hg'
      have hne : info.GroupInfo ≠ id := by
        rintro rfl
        obtain ⟨g'', hg'', hmem, _⟩ := hq.queued p info hinfo
        rw [hg] at hg''
        cases hg''
        exact hp (hnew p hmem).2
      exact ⟨g', groupOf_of hinfo ((update_of_ne hne ..).trans hgroup), rfl, rfl⟩
    have hsize := length_filter_le w.invites g.Players
    obtain ⟨hcounted, hleaves⟩ := invitePlayers_counted hsame.2.2 (hsame.2.1.trans hteam) (g.Players.filter w.invites)
      ((hq.once id g hg).filter _) hset
      (fun p hp => groupOf_setGroup (hnew p (mem_of_mem_filter hp)).1 invited)
      (fun p hp => (hnew p (mem_of_mem_filter hp)).2) (hroom.mono hsize)
    rw [hteam]
    refine ⟨hcounted, ?_, hleaves.mono hsize⟩
    rw [foldl_queue fun s guid => invitePlayer_queue s b team guid]
    exact Alike.setGroup hg hsame.1 hsame.2.1
  · exact ⟨h, Alike.refl _, Leaves.refl s b team _⟩

theorem inviteGroups_counted (w : World) (l : List Nat) (hq : s.queue.Coherent) (h : Counted s) (hl : OfTeam s.queue team l)
    (hroom : Room s b team (l.map (SelectionPool.sizeOf s.queue)).sum) :
    let s' := l.foldl (fun s id => s.inviteGroupToBG w b id) s
    s'.queue.Coherent ∧ Counted s' ∧ s.queue.Alike s'.queue ∧ Leaves s s' b team (l.map (sizeOf s.queue)).sum := by
  induction l generalizing s with
  | nil => exact ⟨hq, h, Alike.refl _, Leaves.refl s b team _⟩
  | cons id rest ih =>
    rw [map_cons, sum_cons] at hroom ⊢
    obtain ⟨hfirst, halike, hleaves⟩ := inviteGroupToBG_counted hq h w (hl.sublist (singleton_sublist.2 mem_cons_self))
      (hroom.mono (le_add_right _ _))
    have hsizes : rest.map (sizeOf (s.inviteGroupToBG w b id).queue) = rest.map (sizeOf s.queue) :=
      map_congr_left fun i _ => halike.sizeOf i
    have hrest := hleaves team _ hroom
    rw [if_pos rfl, Nat.add_sub_cancel_left, ← hsizes] at hrest
    obtain ⟨hq', hall, halike', hleft⟩ := ih (inviteGroupToBG_coherent hq w b id) hfirst
      (halike.ofTeam fun i hi => hl i (mem_cons_of_mem _ hi)) hrest
    rw [hsizes] at hleft
    exact ⟨hq', hall, halike.trans halike', hleaves.trans hleft⟩

theorem inviteAllGroupsToBg_counted (hq : s.queue.Coherent) (h : Counted s) (w : World) {room : Team → Nat} (pools : Pools)
    (hpools : ∀ team, (pools team).Of s.queue team (room team)) (hroom : ∀ team, Room s b team (room team)) :
    Counted (s.inviteAllGroupsToBg w b pools) := by
  have hsum : ∀ team, Room s b team ((pools team).SelectedGroups.map (sizeOf s.queue)).sum := fun team =>
    (hroom team).mono ((hpools team).count ▸ (hpools team).room)
  unfold inviteAllGroupsToBg
  rw [foldl_append]
  obtain ⟨hq', hali, halike, hleaves⟩ := inviteGroups_counted w _ hq h (hpools .ALLIANCE).team (hsum .ALLIANCE)
  refine (inviteGroups_counted w _ hq' hali (halike.ofTeam (hpools .HORDE).team) ?_).2.1
  have hrest := hleaves .HORDE _ (hsum .HORDE)
  rw [if_neg (by decide), Nat.sub_zero] at hrest
  rwa [map_congr_left fun i _ => halike.sizeOf i]

theorem Counted.freeSlots (h : Counted s) {bg : BattleGround} (hb : s.m_BattleGrounds.lookup b = some bg) (team : Team) :
    Room s b team (bg.getFreeSlotsForTeam team) := by
  have hroom := (h.right b bg team hb).2
  rw [le_iff_toNat_le] at hroom
  refine ⟨bg, hb, ?_⟩
  unfold getFreeSlotsForTeam
  split
  · split
    · rename_i hlt
      rw [UInt32.toNat_sub_of_le _ _ (UInt32.le_of_lt hlt)]
      omega
    · exact hroom
  · exact hroom

theorem fillOne_counted (hq : s.queue.Coherent) (h : Counted s) (conf : Conf) (w : World) (bracket : BattleGroundBracketId)
    (b : Nat) :
    Counted (s.fillOne conf w bracket b) := by
  unfold fillOne
  cases hb : s.m_BattleGrounds.lookup b with
  | none => exact h
  | some bg =>
    dsimp only
    split
    · obtain ⟨hali, hhorde⟩ := fillPlayersToBG_of hq conf w bg
      have hinvited : ∀ pools : Pools, (∀ team, (pools team).Of s.queue team (bg.getFreeSlotsForTeam team)) →
          Counted (s.inviteAllGroupsToBg w b pools) :=
        fun pools hpools => inviteAllGroupsToBg_counted hq h w pools hpools (h.freeSlots hb)
      split
      · exact hinvited _ fun team => by cases team <;> assumption
      · exact (hinvited _ fun team => by cases team <;> assumption).mapBG _ fun _ bg hbg => ⟨bg, hbg, rfl, rfl, rfl⟩
    · exact h

theorem fillRunning_counted (hq : s.queue.Coherent) (h : Counted s) (conf : Conf) (w : World) (b : BattleGroundBracketId) :
    Counted (s.fillRunning conf w b) := by
  have hall : ∀ (l : List Nat) {s : State}, s.queue.Coherent → Counted s → Counted (l.foldl (fun s bg => s.fillOne conf w b bg) s) := by
    intro l
    induction l with
    | nil => exact fun _ h => h
    | cons bg rest ih => exact fun hq h => ih (fillOne_coherent hq conf w b bg) (fillOne_counted hq h conf w b bg)
  unfold fillRunning
  split
  · refine hall _ (shuffleNormal_coherent hq w _ b) (h.setQueue h.oldGroup fun p _ => ?_)
    exact fun id g hg => ⟨g, hg, rfl, rfl⟩
  · exact hall _ hq h

/-! ### New battlegrounds -/

theorem createNewBattleGround_counted (h : Counted s) (conf : Conf) (w : World) (bracket : BattleGroundBracketId) :
    Counted (s.createNewBattleGround conf w bracket) ∧
      ∀ team, Room (s.createNewBattleGround conf w bracket) s.nextInstance team conf.m_MaxPlayersPerTeam.toNat := by
  have hnobody : ∀ {t : Table Guid (Nat × Team)}, (∀ p place, t.lookup p = some place → place.1 < s.nextInstance) →
      ∀ team, tally (ToBattleGround s.nextInstance team) t = 0 := by
    intro t ht team
    have hzero : tally (ToBattleGround s.nextInstance team) t = tally (fun _ _ => 0) t := by
      refine tally_congr fun p place hp => if_neg ?_
      rintro rfl
      exact lt_irrefl _ (ht p _ hp)
    rw [hzero]
    simp [tally]
  have hcounted := hnobody (t := s.counted) fun p place hp => by
    obtain ⟨_, id, g, hg, hinv, _⟩ := h.invited p place hp
    obtain ⟨_, _, _, hgroup⟩ := groupOf_eq_some hg
    rw [← hinv]
    exact h.oldGroup id g hgroup
  have harriving := hnobody h.oldPlace
  unfold createNewBattleGround
  refine ⟨{ h with
    right := fun b bg team hb => ?_
    started := succ_pos _
    oldGroup := fun id g hg => lt_succ_of_lt (h.oldGroup id g hg)
    oldPlace := fun p place hp => lt_succ_of_lt (h.oldPlace p place hp)
    oldBG := fun b bg hb => ?_
    way := fun p place hp => ?_
    inside := fun b bg p team hb hin => ?_ }, fun team => ?_⟩
  · by_cases hbb : b = s.nextInstance
    · subst hbb
      rw [lookup_insert] at hb
      cases hb
      unfold holders
      rw [hcounted team, harriving team]
      cases team <;> exact ⟨rfl, UInt32.zero_le⟩
    · rw [lookup_insert_ne hbb] at hb
      exact h.right b bg team hb
  · by_cases hbb : b = s.nextInstance
    · subst hbb
      exact ⟨h.started, lt_succ_self _⟩
    · rw [lookup_insert_ne hbb] at hb
      exact ⟨(h.oldBG b bg hb).1, lt_succ_of_lt (h.oldBG b bg hb).2⟩
  · obtain ⟨hid, hteam, hout⟩ := h.way p place hp
    refine ⟨hid, hteam, fun b bg hb => ?_⟩
    by_cases hbb : b = s.nextInstance
    · subst hbb
      rw [lookup_insert] at hb
      cases hb
      rfl
    · rw [lookup_insert_ne hbb] at hb
      exact hout b bg hb
  · by_cases hbb : b = s.nextInstance
    · subst hbb
      rw [lookup_insert] at hb
      cases hb
      cases hin
    · rw [lookup_insert_ne hbb] at hb
      exact h.inside b bg p team hb hin
  · refine ⟨_, lookup_insert _, ?_⟩
    cases team <;> exact le_of_eq (zero_add _)

variable {mt : Match} {pools : Pools}

theorem startMatch_counted (hq : s.queue.Coherent) (h : Counted s) (conf : Conf) (w : World) (bracket : BattleGroundBracketId)
    (hpools : PoolsOf s.queue mt pools) (hmax : mt.maxPlayers ≤ conf.m_MaxPlayersPerTeam.toNat) :
    Counted (s.startMatch conf w bracket pools) := by
  obtain ⟨hnew, hroom⟩ := createNewBattleGround_counted h conf w bracket
  exact inviteAllGroupsToBg_counted (s := s.createNewBattleGround conf w bracket) hq hnew w pools hpools fun team => (hroom team).mono hmax

theorem normalMatches_counted (conf : Conf) (w : World) (bracket : BattleGroundBracketId) (n : Nat)
    (hmax : mt.maxPlayers ≤ conf.m_MaxPlayersPerTeam.toNat) (hq : s.queue.Coherent) (h : Counted s)
    (hpools : PoolsOf s.queue mt pools) : Counted (normalMatches conf w mt bracket n s pools) := by
  induction n generalizing s pools with
  | zero => exact h
  | succ n ih =>
    have hchecked := checkNormalMatch_of hq conf w bracket hpools
    unfold normalMatches
    split
    · rename_i pools' hcheck
      rw [hcheck] at hchecked
      exact ih (startMatch_coherent hq conf w bracket _) (startMatch_counted hq h conf w bracket hchecked hmax) PoolsOf.init
    · rename_i pools' hcheck
      rw [hcheck] at hchecked
      exact ih hq h hchecked

theorem checkPremadeMatch_counted (hq : q.Coherent) (conf : Conf) (w : World) (mt : Match) (b : BattleGroundBracketId) :
    PoolsOf (checkPremadeMatch conf w mt b q Pools.init).1 mt (checkPremadeMatch conf w mt b q Pools.init).2.1 ∧
      (checkPremadeMatch conf w mt b q Pools.init).1.groupOf = q.groupOf ∧
      (checkPremadeMatch conf w mt b q Pools.init).1.groups = q.groups := by
  have hboth := fun team => selectBoth_of (w := w) hq (@PoolsOf.init q mt) b conf.premadeQueueGroupMinSize team
  have hdemote : ∀ (q : Queue) team, (demote conf w.now mt b q team).groups = q.groups ∧
      (demote conf w.now mt b q team).m_QueuedPlayers = q.m_QueuedPlayers := by
    intro q team
    unfold demote
    split
    · exact ⟨rfl, rfl⟩
    split
    · exact ⟨rfl, rfl⟩
    split
    · exact ⟨rfl, rfl⟩
    · exact ⟨rfl, rfl⟩
  obtain ⟨hgroups, hqueued⟩ := hdemote q .ALLIANCE
  obtain ⟨hgroups', hqueued'⟩ := hdemote (demote conf w.now mt b q .ALLIANCE) .HORDE
  unfold checkPremadeMatch
  dsimp only
  split
  · exact ⟨hboth, rfl, rfl⟩
  have halike := (Alike.demote q conf w.now mt b .ALLIANCE).trans (Alike.demote _ conf w.now mt b .HORDE)
  refine ⟨fun team => halike.of (hboth team), funext fun p => ?_, hgroups'.trans hgroups⟩
  unfold groupOf
  rw [hqueued', hqueued, hgroups', hgroups]

/-! ### The update -/

end State

/-- The larger battlegrounds that the settings ask for at first have no more players than a battleground may have. -/
def Conf.InitialFits (conf : Conf) : Prop :=
  conf.isAV = true → conf.avInitialMaxPlayers ≠ 0 → conf.isTesting = false →
    max conf.avInitialMaxPlayers conf.minPlayersPerTeam ≤ conf.m_MaxPlayersPerTeam.toNat

namespace State

theorem matchSettings_max (hfits : conf.InitialFits) (s : State) (b : BattleGroundBracketId) :
    (matchSettings conf s b).2.maxPlayers ≤ conf.m_MaxPlayersPerTeam.toNat := by
  unfold matchSettings
  dsimp only
  split
  · rename_i hinitial
    simp only [Bool.and_eq_true, decide_eq_true_eq, Bool.not_eq_true'] at hinitial
    exact hfits hinitial.1.1.1 hinitial.1.1.2 hinitial.1.2
  · exact le_refl _

theorem newMatches_counted (hq : s.queue.Coherent) (h : Counted s) (hfits : conf.InitialFits) (w : World)
    (b : BattleGroundBracketId) :
    Counted (s.newMatches conf w b) := by
  have hmax := matchSettings_max hfits s b
  unfold newMatches
  dsimp only
  generalize hs : (if conf.isAV && conf.avMinPlayersInQueue ≠ 0 && !conf.isTesting && (matchSettings conf s b).1 ≠ 0 then
    s.shuffleNormal w (fun _ => conf.avMinPlayersInQueue) b else s) = s₁
  have h₁ : s₁.queue.Coherent ∧ Counted s₁ := by
    rw [← hs]
    split
    · exact ⟨shuffleNormal_coherent hq w _ b, h.setQueue h.oldGroup fun _ _ _ g hg => ⟨g, hg, rfl, rfl⟩⟩
    · exact ⟨hq, h⟩
  have hq' := checkPremadeMatch_coherent h₁.1 conf w (matchSettings conf s b).2 b Pools.init
  obtain ⟨hpools, hgroupOf, hgroups⟩ := checkPremadeMatch_counted h₁.1 conf w (matchSettings conf s b).2 b
  have h' : Counted { s₁ with queue := (checkPremadeMatch conf w (matchSettings conf s b).2 b s₁.queue Pools.init).1 } := by
    refine h₁.2.setQueue (fun id g hg => h₁.2.oldGroup id g (hgroups ▸ hg)) fun p _ id g hg => ⟨g, ?_, rfl, rfl⟩
    rw [hgroupOf]
    exact hg
  rcases hcheck : checkPremadeMatch conf w (matchSettings conf s b).2 b s₁.queue Pools.init with ⟨q, pools, found⟩
  rw [hcheck] at hq' hpools h'
  cases found with
  | true =>
    exact normalMatches_counted conf w b _ hmax (startMatch_coherent (s := { s₁ with queue := q }) hq' conf w b pools)
      (startMatch_counted (s := { s₁ with queue := q }) hq' h' conf w b hpools hmax) PoolsOf.init
  | false => exact normalMatches_counted (s := { s₁ with queue := q }) conf w b _ hmax hq' h' hpools

/-- What is asked of a stale player depends on the player's group alone. -/
structure Same (s s' : State) (p : Guid) : Prop where
  entry : s'.queue.m_QueuedPlayers.lookup p = s.queue.m_QueuedPlayers.lookup p
  keeps : Queue.Keeps s.queue s'.queue p
  counted : s'.counted.lookup p = s.counted.lookup p
  status : ∀ b, (s'.m_BattleGrounds.lookup b).map BattleGround.status = (s.m_BattleGrounds.lookup b).map BattleGround.status

theorem any_status {bgs bgs' : Table Nat BattleGround}
    (h : ∀ b, (bgs'.lookup b).map BattleGround.status = (bgs.lookup b).map BattleGround.status) (b : Nat) :
    (bgs'.lookup b).any (fun bg => bg.status = .WAIT_LEAVE) = (bgs.lookup b).any (fun bg => bg.status = .WAIT_LEAVE) ∧
      (bgs'.lookup b).isSome = (bgs.lookup b).isSome := by
  have hb := h b
  cases h' : bgs'.lookup b with
  | none =>
    cases h₀ : bgs.lookup b with
    | none => exact ⟨rfl, rfl⟩
    | some bg =>
      rw [h', h₀] at hb
      cases hb
  | some bg' =>
    cases h₀ : bgs.lookup b with
    | none =>
      rw [h', h₀] at hb
      cases hb
    | some bg =>
      rw [h', h₀] at hb
      have hstatus : bg'.status = bg.status := some.inj hb
      exact ⟨by simp [hstatus], rfl⟩

theorem Same.stale (h : Same s s' p) (hq : s.queue.Coherent) (w : World) : s'.isStale w p = s.isStale w p := by
  unfold isStale
  rw [h.entry]
  cases hinfo : s.queue.m_QueuedPlayers.lookup p with
  | none => rfl
  | some info =>
    obtain ⟨g, hg, _⟩ := hq.queued p info hinfo
    obtain ⟨g', hg', hinv, _⟩ := h.keeps _ g (groupOf_of hinfo hg)
    obtain ⟨info', hinfo', hgi, hgroup⟩ := groupOf_eq_some hg'
    simp only [any_some, hg, hgroup]
    rw [hinv, (any_status h.status _).1]

theorem Same.uncounted (h : Same s s' p) (hq : s.queue.Coherent) : s'.uncounted p = s.uncounted p := by
  unfold State.uncounted
  rw [h.counted]
  cases hg : s.queue.groupOf p with
  | none =>
    have hnone : s'.queue.groupOf p = none := by
      cases hinfo : s.queue.m_QueuedPlayers.lookup p with
      | none => simp [groupOf, h.entry, hinfo]
      | some info =>
        obtain ⟨g, hgroup, _⟩ := hq.queued p info hinfo
        rw [groupOf_of hinfo hgroup] at hg
        cases hg
    rw [hnone]
    rfl
  | some x =>
    obtain ⟨g', hg', hinv, _⟩ := h.keeps x.1 x.2 hg
    rw [hg', any_some, any_some]
    rw [hinv, (any_status h.status _).2]

theorem removePlayer_same (hq : s.queue.Coherent) (guid : Guid) (decrease : Bool) (hp : p ≠ guid) : Same s
    (s.removePlayer guid decrease) p := by
  unfold removePlayer
  cases hg : s.queue.groupOf guid with
  | none => exact ⟨rfl, Keeps.refl _ p, rfl, fun _ => rfl⟩
  | some found =>
    obtain ⟨id, g⟩ := found
    have hleft : Same s { s with queue := s.queue.removePlayer guid id g, counted := s.counted.erase guid } p := by
      refine ⟨?_, Keeps.removePlayer hq hg hp, lookup_erase_ne hp, fun _ => rfl⟩
      rw [removePlayer_queued]
      exact lookup_erase_ne hp
    dsimp only
    split
    · unfold updateBG
      cases hb : s.m_BattleGrounds.lookup g.IsInvitedToBGInstanceGUID with
      | none => exact hleft
      | some bg =>
        refine { hleft with status := fun b => ?_ }
        by_cases hbb : b = g.IsInvitedToBGInstanceGUID
        · subst hbb
          rw [lookup_insert, hb]
          cases g.GroupTeam <;> rfl
        · exact congrArg _ (lookup_insert_ne hbb)
    · exact hleft

theorem removePlayer_gone (hq : s.queue.Coherent) (guid : Guid) (decrease : Bool) (w : World) :
    (s.removePlayer guid decrease).isStale w guid = false := by
  have hgone : (s.removePlayer guid decrease).queue.m_QueuedPlayers.lookup guid = none := by
    unfold removePlayer
    cases hg : s.queue.groupOf guid with
    | none =>
      cases hinfo : s.queue.m_QueuedPlayers.lookup guid with
      | none => rfl
      | some info =>
        obtain ⟨g, hgroup, _⟩ := hq.queued guid info hinfo
        rw [groupOf_of hinfo hgroup] at hg
        cases hg
    | some found =>
      have hleft : (s.queue.removePlayer guid found.1 found.2).m_QueuedPlayers.lookup guid = none := by
        rw [removePlayer_queued]
        exact lookup_erase _ _
      dsimp only
      split
      · rw [updateBG_queue]
        exact hleft
      · exact hleft
  unfold isStale
  rw [hgone]
  rfl

theorem removeStale_counted (w : World) (connected : Guid → Bool) (fuel : Nat) (hq : s.queue.Coherent) (h : Counted s)
    (hstale : ∀ p, s.isStale w p = true → s.uncounted p = false) : Counted (removeStale w connected fuel s) := by
  induction fuel generalizing s with
  | zero => exact h
  | succ fuel ih =>
    unfold removeStale
    split
    · exact h
    rename_i guid hfind
    have hguid : s.isStale w guid = true := by simpa using find?_some hfind
    dsimp only
    generalize hs : (if (s.queue.m_QueuedPlayers.lookup guid).any PlayerQueueInfo.online && connected guid then
      s.removeBattleGroundQueueId guid else s) = s₁
    have hsame : s₁.queue.Coherent ∧ Counted s₁ ∧ (∀ p, s₁.isStale w p = s.isStale w p) ∧ ∀ p, s₁.uncounted p = s.uncounted p := by
      rw [← hs]
      split
      · exact ⟨hq, h.setPlayer guid fun _ => ⟨rfl, rfl⟩, fun _ => rfl, fun _ => rfl⟩
      · exact ⟨hq, h, fun _ => rfl, fun _ => rfl⟩
    obtain ⟨hq₁, h₁, hstale₁, huncounted₁⟩ := hsame
    refine ih (removePlayer_coherent hq₁ guid true) (removePlayer_counted hq₁ h₁ (by rw [huncounted₁]; exact hstale guid hguid)) fun p hp => ?_
    have hne : p ≠ guid := by
      rintro rfl
      rw [removePlayer_gone hq₁] at hp
      cases hp
    have hrest := removePlayer_same hq₁ guid true hne
    rw [hrest.stale hq₁, hstale₁] at hp
    rw [hrest.uncounted hq₁, huncounted₁]
    exact hstale p hp

theorem update_counted (hq : s.queue.Coherent) (h : Counted s) (hfits : conf.InitialFits) (w : World) (connected : Guid → Bool)
    (b : BattleGroundBracketId) (hstale : ∀ p, s.isStale w p = true → s.uncounted p = false) :
    Counted (s.update conf w connected b) := by
  have hq' := removeStale_coherent w connected s.queue.m_QueuedPlayers.entries.length hq
  have h' := removeStale_counted w connected s.queue.m_QueuedPlayers.entries.length hq h hstale
  unfold update matchmake
  split
  · exact h'
  · exact newMatches_counted (fillRunning_coherent hq' conf w b) (fillRunning_counted hq' h' conf w b) hfits w b

end State

end ComfyCraft.BattleGroundMgr
