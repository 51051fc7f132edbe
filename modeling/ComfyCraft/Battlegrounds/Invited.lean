import ComfyCraft.Battlegrounds.Pools
import ComfyCraft.Battlegrounds.Reachable

/-! The invited counts of the battlegrounds: a team's count is the number of its players with a counted invitation,
on the way in and inside, over every run in which nobody who was not counted leaves the queue or enters. -/

namespace ComfyCraft.BattleGroundMgr

open List Function UInt32 AList Table Nat Queue BattleGround

variable {q q' : Queue} {s s' : State} {conf : Conf} {w : World} {p guid : Guid} {b : Nat} {team : Team}

/-! ### What a player's group keeps -/

namespace Queue

/-- The player's group stays the player's, invited as it was and of the team it had. -/
def Keeps (q q' : Queue) (p : Guid) : Prop :=
  ∀ id g, q.groupOf p = some (id, g) → ∃ g', q'.groupOf p = some (id, g') ∧
    g'.IsInvitedToBGInstanceGUID = g.IsInvitedToBGInstanceGUID ∧ g'.GroupTeam = g.GroupTeam

theorem Keeps.refl (q : Queue) (p : Guid) : Keeps q q p := fun _ g hg => ⟨g, hg, rfl, rfl⟩

theorem Keeps.trans {q'' : Queue} (h : Keeps q q' p) (h' : Keeps q' q'' p) : Keeps q q'' p := by
  intro id g hg
  obtain ⟨g', hg', hinv, hteam⟩ := h id g hg
  obtain ⟨g'', hg'', hinv', hteam'⟩ := h' id g' hg'
  exact ⟨g'', hg'', hinv'.trans hinv, hteam'.trans hteam⟩

variable {g : GroupQueueInfo} {members : List (Guid × Team)} {id n : Nat}

theorem groupOf_of {info : PlayerQueueInfo} (hinfo : q.m_QueuedPlayers.lookup p = some info)
    (hg : q.groups info.GroupInfo = some g) : q.groupOf p = some (info.GroupInfo, g) := by
  simp [groupOf, hinfo, hg]

theorem groupOf_queued {x : Nat × GroupQueueInfo} (h : q.groupOf p = some x) : q.m_QueuedPlayers.lookup p ≠ none := by
  intro hnone
  simp [groupOf, hnone] at h

theorem Keeps.newGroup (h : Coherent q) (joining : Joining) {players : List Guid} (hp : p ∉ players) : Keeps q
    (q.newGroup joining players) p := by
  intro id g hq
  obtain ⟨info, hinfo, rfl, hg⟩ := groupOf_eq_some hq
  have hne : info.GroupInfo ≠ q.nextGroup := by
    intro hcon
    rw [h.fresh _ (le_of_eq hcon.symm)] at hg
    cases hg
  refine ⟨g, groupOf_of ?_ ?_, rfl, rfl⟩
  · rw [newGroup_queued, lookup_entries, if_neg hp, hinfo]
  · rw [(newGroup_groups q joining players).1, update_of_ne hne, hg]

theorem Keeps.addPlayers (joining : Joining) (h : Coherent q) (hnodup : (members.map Prod.fst).Nodup)
    (hnew : ∀ m ∈ members, q.m_QueuedPlayers.lookup m.1 = none) (hp : p ∉ members.map Prod.fst) :
    Keeps q (members.foldl (fun q m => q.addPlayer { joining with GroupTeam := m.2, isPremade := false } m.1) q) p := by
  induction members generalizing q with
  | nil => exact Keeps.refl q p
  | cons m rest ih =>
    rw [map_cons, nodup_cons] at hnodup
    rw [map_cons, mem_cons, not_or] at hp
    have hfirst : Keeps q (q.addPlayer { joining with GroupTeam := m.2, isPremade := false } m.1) p :=
      Keeps.newGroup h _ (by simpa using hp.1)
    refine hfirst.trans (ih (h.newGroup _ fun x hx => ?_) hnodup.2 (fun m' hm' => ?_) hp.2)
    · rw [mem_singleton.1 hx]
      exact hnew m mem_cons_self
    · have hne : m'.1 ≠ m.1 := fun heq => hnodup.1 (heq ▸ mem_map_of_mem hm')
      dsimp only [addPlayer]
      rw [newGroup_queued, lookup_entries, if_neg (by simpa using hne)]
      exact hnew m' (mem_cons_of_mem _ hm')

theorem Keeps.addGroup (h : Coherent q) (limit membersCount : Nat) (joining : Joining)
    (excluded : List Guid) (hnodup : (members.map Prod.fst).Nodup)
    (hnew : ∀ m ∈ members, m.1 ∉ excluded → q.m_QueuedPlayers.lookup m.1 = none) (hp : q.m_QueuedPlayers.lookup p ≠ none) :
    Keeps q (q.addGroup limit joining membersCount members excluded) p := by
  have hjoin : ∀ m ∈ members.filter (fun m => m.1 ∉ excluded), q.m_QueuedPlayers.lookup m.1 = none := fun m hm => by
    obtain ⟨hmem, hnot⟩ := mem_filter.1 hm
    exact hnew m hmem (by simpa using hnot)
  have hout : p ∉ (members.filter fun m => m.1 ∉ excluded).map Prod.fst := by
    intro hmem
    obtain ⟨m, hm, rfl⟩ := mem_map.1 hmem
    exact hp (hjoin m hm)
  unfold Queue.addGroup
  split
  · refine (Keeps.newGroup h joining not_mem_nil).trans (Keeps.addPlayers joining (h.newGroup joining (fun p hp => by cases hp)) ?_ ?_ hout)
    · exact hnodup.sublist (filter_sublist.map _)
    intro m hm
    rw [newGroup_queued, lookup_entries, if_neg not_mem_nil]
    exact hjoin m hm
  · exact Keeps.newGroup h joining hout

theorem Keeps.setOnline (q : Queue) (guid p : Guid) {f : PlayerQueueInfo → PlayerQueueInfo} (hf : ∀ info,
    (f info).GroupInfo = info.GroupInfo) :
    Keeps q (q.setOnline guid f) p := by
  intro id g hq
  obtain ⟨info, hinfo, rfl, hg⟩ := groupOf_eq_some hq
  unfold Queue.setOnline
  cases hlook : q.m_QueuedPlayers.lookup guid with
  | none => exact ⟨g, hq, rfl, rfl⟩
  | some online =>
    refine ⟨g, ?_, rfl, rfl⟩
    by_cases hp : p = guid
    · subst hp
      rw [hinfo] at hlook
      cases hlook
      rw [← hf info] at hg ⊢
      exact groupOf_of (lookup_insert _) hg
    · exact groupOf_of ((lookup_insert_ne hp).trans hinfo) hg

theorem removePlayer_queued (q : Queue) (guid : Guid) (id : Nat) (g : GroupQueueInfo) :
    (q.removePlayer guid id g).m_QueuedPlayers = q.m_QueuedPlayers.erase guid := by
  unfold removePlayer
  dsimp only
  split
  · rfl
  · split <;> rfl

theorem Keeps.removePlayer (h : Coherent q) (hq : q.groupOf guid = some (id, g)) (hp : p ≠ guid) :
    Keeps q (q.removePlayer guid id g) p := by
  obtain ⟨left, hleft, hleftId, hg⟩ := groupOf_eq_some hq
  obtain ⟨_, _, _, b, j, hplace⟩ := h.queued guid left hleft
  rw [hleftId] at hplace
  intro id' g' hq'
  obtain ⟨info, hinfo, rfl, hg'⟩ := groupOf_eq_some hq'
  obtain ⟨g'', hg'', hmem, _⟩ := h.queued p info hinfo
  have hlook : (q.m_QueuedPlayers.erase guid).lookup p = some info := (lookup_erase_ne hp).trans hinfo
  unfold Queue.removePlayer
  rw [h.findGroup_eq hplace hg]
  dsimp only
  by_cases hid : info.GroupInfo = id
  · -- the player is one of the rest
    subst hid
    rw [hg] at hg' hg''
    cases hg'
    cases hg''
    have hrest : p ∈ g.Players.erase guid := (mem_erase_of_ne hp).2 hmem
    rw [if_neg (by simpa using ne_nil_of_mem hrest)]
    exact ⟨_, groupOf_of hlook (update_self ..), rfl, rfl⟩
  · refine ⟨g', ?_, rfl, rfl⟩
    split
    · refine groupOf_of hlook ?_
      simp only [setGroup, setList, update_of_ne hid, hg']
    · refine groupOf_of hlook ?_
      simp only [setGroup, update_of_ne hid, hg']

/-- Whether the groups are invited to a battleground below `n`. -/
def InvitedBelow (q : Queue) (n : Nat) : Prop := ∀ id g, q.groups id = some g → g.IsInvitedToBGInstanceGUID < n

theorem InvitedBelow.setGroup (h : InvitedBelow q n) (hg : g.IsInvitedToBGInstanceGUID < n) :
    InvitedBelow (q.setGroup id (some g)) n := by
  intro i x hx
  dsimp only [Queue.setGroup] at hx
  by_cases hi : i = id
  · subst hi
    rw [update_self] at hx
    cases hx
    exact hg
  · rw [update_of_ne hi] at hx
    exact h i x hx

theorem InvitedBelow.newGroup (h : InvitedBelow q n) (hn : 0 < n) (joining : Joining) (players : List Guid) :
    InvitedBelow (q.newGroup joining players) n := by
  intro i x hx
  rw [(newGroup_groups q joining players).1] at hx
  by_cases hi : i = q.nextGroup
  · subst hi
    rw [update_self] at hx
    cases hx
    exact hn
  · rw [update_of_ne hi] at hx
    exact h i x hx

theorem InvitedBelow.addPlayers (hn : 0 < n) (joining : Joining) (members : List (Guid × Team)) (h : InvitedBelow q n) :
    InvitedBelow (members.foldl (fun q m => q.addPlayer { joining with GroupTeam := m.2, isPremade := false } m.1) q) n := by
  induction members generalizing q with
  | nil => exact h
  | cons m rest ih => exact ih (h.newGroup hn _ _)

theorem InvitedBelow.addGroup (h : InvitedBelow q n) (hn : 0 < n) (limit membersCount : Nat) (joining : Joining)
    (members : List (Guid × Team)) (excluded : List Guid) : InvitedBelow (q.addGroup limit joining membersCount members excluded) n := by
  unfold Queue.addGroup
  split
  · exact (h.newGroup hn joining []).addPlayers hn joining _
  · exact h.newGroup hn joining _

theorem InvitedBelow.setOnline (h : InvitedBelow q n) (guid : Guid) (f : PlayerQueueInfo → PlayerQueueInfo) :
    InvitedBelow (q.setOnline guid f) n := by
  unfold Queue.setOnline
  split
  · exact h
  · exact h

theorem InvitedBelow.removePlayer (h : InvitedBelow q n) (hg : g.IsInvitedToBGInstanceGUID < n)
    (guid : Guid) : InvitedBelow (q.removePlayer guid id g) n := by
  have hset : InvitedBelow (q.setGroup id (some { g with Players := g.Players.erase guid })) n := h.setGroup hg
  unfold Queue.removePlayer
  dsimp only
  split
  · exact hset
  split
  · intro i x hx
    dsimp only [Queue.setGroup, Queue.setList] at hx
    by_cases hi : i = id
    · subst hi
      rw [update_self] at hx
      cases hx
    · rw [update_of_ne hi] at hx
      exact hset i x hx
  · exact hset

end Queue

/-! ### The counts -/

namespace BattleGround

@[simp] theorem decreaseInvitedCount_players (bg : BattleGround) (team : Team) :
    (bg.decreaseInvitedCount team).m_Players = bg.m_Players := by
  cases team <;> rfl

@[simp] theorem increaseInvitedCount_players (bg : BattleGround) (team : Team) :
    (bg.increaseInvitedCount team).m_Players = bg.m_Players := by
  cases team <;> rfl

@[simp] theorem decreaseInvitedCount_max (bg : BattleGround) (team : Team) :
    (bg.decreaseInvitedCount team).m_MaxPlayersPerTeam = bg.m_MaxPlayersPerTeam := by
  cases team <;> rfl

@[simp] theorem increaseInvitedCount_max (bg : BattleGround) (team : Team) :
    (bg.increaseInvitedCount team).m_MaxPlayersPerTeam = bg.m_MaxPlayersPerTeam := by
  cases team <;> rfl

variable {bg : BattleGround} {team : Team}

theorem decreaseInvitedCount_toNat (hpos : 0 < (bg.getInvitedCount team).toNat) (team' : Team) :
    ((bg.decreaseInvitedCount team).getInvitedCount team').toNat + (if team' = team then 1 else 0) = (bg.getInvitedCount team').toNat := by
  by_cases hteam : team' = team
  · subst hteam
    have hsub : (bg.decreaseInvitedCount team').getInvitedCount team' = bg.getInvitedCount team' - 1 := by cases team' <;> rfl
    have hone : (1 : UInt32) ≤ bg.getInvitedCount team' := le_iff_toNat_le.2 hpos
    rw [hsub, if_pos rfl, UInt32.toNat_sub_of_le _ _ hone]
    exact Nat.sub_add_cancel hpos
  · rw [if_neg hteam]
    cases team <;> cases team' <;> first | rfl | exact absurd rfl hteam

theorem increaseInvitedCount_toNat {n : UInt32} (hroom : (bg.getInvitedCount team).toNat < n.toNat) (team' : Team) :
    ((bg.increaseInvitedCount team).getInvitedCount team').toNat = (bg.getInvitedCount team').toNat + (if team' = team then 1 else 0) := by
  by_cases hteam : team' = team
  · subst hteam
    have hadd : (bg.increaseInvitedCount team').getInvitedCount team' = bg.getInvitedCount team' + 1 := by cases team' <;> rfl
    have hlt := n.toNat_lt
    rw [hadd, if_pos rfl, UInt32.toNat_add]
    exact mod_eq_of_lt (by simp only [toNat_one]; omega)
  · rw [if_neg hteam]
    cases team <;> cases team' <;> first | rfl | exact absurd rfl hteam

end BattleGround

def ToBattleGround (b : Nat) (team : Team) (_ : Guid) (place : Nat × Team) : Nat := if place = (b, team) then 1 else 0

def InTeam (team : Team) (_ : Guid) (own : Team) : Nat := if own = team then 1 else 0

namespace State

def holders (s : State) (b : Nat) (bg : BattleGround) (team : Team) : Nat :=
  s.counted.tally (ToBattleGround b team) + s.arriving.tally (ToBattleGround b team) + bg.m_Players.tally (InTeam team)

/-- Every battleground's counts are the numbers of the teams' players, and within the maximum. -/
def InvitedRight (s : State) : Prop :=
  ∀ b bg team, s.m_BattleGrounds.lookup b = some bg →
    (bg.getInvitedCount team).toNat = s.holders b bg team ∧ bg.getInvitedCount team ≤ bg.m_MaxPlayersPerTeam

structure Counted (s : State) : Prop where
  invited : ∀ p place, s.counted.lookup p = some place → place.1 ≠ 0 ∧ ∃ id g, s.queue.groupOf p = some (id, g) ∧
    g.IsInvitedToBGInstanceGUID = place.1 ∧ g.GroupTeam = place.2
  right : s.InvitedRight
  started : 0 < s.nextInstance
  oldGroup : s.queue.InvitedBelow s.nextInstance
  oldPlace : ∀ p place, s.arriving.lookup p = some place → place.1 < s.nextInstance
  oldBG : ∀ b bg, s.m_BattleGrounds.lookup b = some bg → 0 < b ∧ b < s.nextInstance
  way : ∀ p place, s.arriving.lookup p = some place → (s.players p).bgInstanceID = place.1 ∧ (s.players p).bgTeam = place.2 ∧
    ∀ b bg, s.m_BattleGrounds.lookup b = some bg → bg.m_Players.lookup p = none
  inside : ∀ b bg p team, s.m_BattleGrounds.lookup b = some bg → bg.m_Players.lookup p = some team → (s.players p).bgInstanceID = b

variable {q' : Queue} {place : Nat × Team} {id : Nat} {g : GroupQueueInfo}

/-- A change of the queue that leaves the groups of the counted players, and of the players' slots. -/
theorem Counted.frame (h : Counted s) {players : Guid → PlayerData} (hold : q'.InvitedBelow s.nextInstance)
    (hkeeps : ∀ p, s.counted.lookup p ≠ none → Queue.Keeps s.queue q' p)
    (hplayers : ∀ p, (players p).bgInstanceID = (s.players p).bgInstanceID ∧ (players p).bgTeam = (s.players p).bgTeam) :
    Counted { s with queue := q', players := players } := by
  refine { h with invited := fun p place hp => ?_, oldGroup := hold, way := fun p place hp => ?_, inside := fun b bg p team hb hp => ?_ }
  · obtain ⟨hne, id, g, hg, hinv, hteam⟩ := h.invited p place hp
    obtain ⟨g', hg', hinv', hteam'⟩ := hkeeps p (fun hnone => by rw [hp] at hnone; cases hnone) id g hg
    exact ⟨hne, id, g', hg', hinv'.trans hinv, hteam'.trans hteam⟩
  · obtain ⟨hid, hteam, hout⟩ := h.way p place hp
    exact ⟨(hplayers p).1.trans hid, (hplayers p).2.trans hteam, hout⟩
  · exact (hplayers p).1.trans (h.inside b bg p team hb hp)

theorem Counted.setPlayer (h : Counted s) (guid : Guid) {f : PlayerData → PlayerData}
    (hf : ∀ d, (f d).bgInstanceID = d.bgInstanceID ∧ (f d).bgTeam = d.bgTeam) : Counted (s.setPlayer guid f) := by
  refine h.frame h.oldGroup (fun p _ => Keeps.refl _ p) fun p => ?_
  by_cases hp : p = guid
  · subst hp
    rw [update_self]
    exact hf _
  · rw [update_of_ne hp]
    exact ⟨rfl, rfl⟩

theorem Counted.setQueue (h : Counted s) (hold : q'.InvitedBelow s.nextInstance)
    (hkeeps : ∀ p, s.counted.lookup p ≠ none → Queue.Keeps s.queue q' p) : Counted { s with queue := q' } :=
  h.frame hold hkeeps fun _ => ⟨rfl, rfl⟩

theorem Counted.queued (h : Counted s) (hp : s.counted.lookup p ≠ none) : s.queue.m_QueuedPlayers.lookup p ≠ none := by
  cases hlook : s.counted.lookup p with
  | none => exact absurd hlook hp
  | some place =>
    obtain ⟨_, id, g, hg, _⟩ := h.invited p place hlook
    exact groupOf_queued hg

/-! ### Leaving the queue -/

/-- A player of a group invited to a battleground that there is, who was not counted then. -/
def uncounted (s : State) (guid : Guid) : Bool :=
  (s.counted.lookup guid).isNone && (s.queue.groupOf guid).any fun x =>
    x.2.IsInvitedToBGInstanceGUID ≠ 0 && (s.m_BattleGrounds.lookup x.2.IsInvitedToBGInstanceGUID).isSome

theorem tally_erase_counted {t : Table Guid (Nat × Team)} (hp : t.lookup guid = some place) (b : Nat) (team : Team) :
    Table.tally (ToBattleGround b team) (t.erase guid) + (if place = (b, team) then 1 else 0) = Table.tally (ToBattleGround b team) t := by
  rw [add_comm]
  exact tally_erase (ToBattleGround b team) hp

section

variable (hq : s.queue.Coherent) (h : Counted s)
include hq h

theorem Counted.left (hg : s.queue.groupOf guid = some (id, g)) : (s.queue.removePlayer guid id g).InvitedBelow s.nextInstance ∧
      ∀ p place, (s.counted.erase guid).lookup p = some place → place.1 ≠ 0 ∧ ∃ id' g', (s.queue.removePlayer guid id g).groupOf p =
        some (id', g') ∧ g'.IsInvitedToBGInstanceGUID = place.1 ∧ g'.GroupTeam = place.2 := by
  obtain ⟨_, _, _, hgroup⟩ := groupOf_eq_some hg
  refine ⟨h.oldGroup.removePlayer (h.oldGroup id g hgroup) guid, fun p place hp => ?_⟩
  have hne : p ≠ guid := by
    rintro rfl
    simp at hp
  rw [lookup_erase_ne hne] at hp
  obtain ⟨hzero, id', g', hg', hinv, hteam⟩ := h.invited p place hp
  obtain ⟨g'', hg'', hinv', hteam'⟩ := Keeps.removePlayer hq hg hne id' g' hg'
  exact ⟨hzero, id', g'', hg'', hinv'.trans hinv, hteam'.trans hteam⟩

/-- The count of the battleground that a counted player was invited to goes down by one, the others stay. -/
theorem Counted.decreased (hg : s.queue.groupOf guid = some (id, g))
    (hp : s.counted.lookup guid = some place) {bgs : Table Nat BattleGround}
    (hbgs : ∀ b bg', bgs.lookup b = some bg' → ∃ bg, s.m_BattleGrounds.lookup b = some bg ∧ bg'.m_Players = bg.m_Players ∧
      bg'.m_MaxPlayersPerTeam = bg.m_MaxPlayersPerTeam ∧ ∀ team, (bg'.getInvitedCount team).toNat +
        (if place = (b, team) then 1 else 0) = (bg.getInvitedCount team).toNat) :
    Counted { s with queue := s.queue.removePlayer guid id g, counted := s.counted.erase guid, m_BattleGrounds := bgs } := by
  obtain ⟨hold, hinvited⟩ := h.left hq hg
  refine { h with
    invited := hinvited, oldGroup := hold, right := fun b bg' team hb => ?_, oldBG := fun b bg' hb => ?_,
    way := fun p place hp => ?_, inside := fun b bg' p team hb hin => ?_ }
  · obtain ⟨bg, hbg, hplayers, hmax, hcount⟩ := hbgs b bg' hb
    obtain ⟨hright, hroom⟩ := h.right b bg team hbg
    have hlow := hcount team
    have herase := tally_erase_counted hp b team
    unfold holders at hright ⊢
    dsimp only
    rw [hmax, hplayers]
    rw [le_iff_toNat_le] at hroom ⊢
    exact ⟨by omega, by omega⟩
  · obtain ⟨bg, hbg, _⟩ := hbgs b bg' hb
    exact h.oldBG b bg hbg
  · obtain ⟨hid, hteam, hout⟩ := h.way p place hp
    refine ⟨hid, hteam, fun b bg' hb => ?_⟩
    obtain ⟨bg, hbg, hplayers, _⟩ := hbgs b bg' hb
    rw [hplayers]
    exact hout b bg hbg
  · obtain ⟨bg, hbg, hplayers, _⟩ := hbgs b bg' hb
    rw [hplayers] at hin
    exact h.inside b bg p team hbg hin

theorem removePlayer_counted (hguid : s.uncounted guid = false) : Counted (s.removePlayer guid true) := by
  unfold removePlayer
  cases hg : s.queue.groupOf guid with
  | none => exact h
  | some found =>
    obtain ⟨id, g⟩ := found
    dsimp only
    cases hp : s.counted.lookup guid with
    | none =>
      have hsame : Counted { s with queue := s.queue.removePlayer guid id g, counted := s.counted.erase guid } := by
        obtain ⟨hold, hinvited⟩ := h.left hq hg
        rw [erase_of_lookup_none hp] at hinvited ⊢
        exact { h with invited := hinvited, oldGroup := hold }
      split
      · rename_i hinv
        -- the battleground is gone
        have hnone : s.m_BattleGrounds.lookup g.IsInvitedToBGInstanceGUID = none := by
          simpa [uncounted, hp, hg, show g.IsInvitedToBGInstanceGUID ≠ 0 by simpa using hinv] using hguid
        unfold updateBG
        rw [hnone]
        exact hsame
      · exact hsame
    | some place =>
      obtain ⟨hzero, id', g', hg', hinv, hteam⟩ := h.invited guid place hp
      rw [hg] at hg'
      cases hg'
      rw [if_pos (by simpa [hinv] using hzero), hinv, hteam]
      unfold updateBG
      cases hb : s.m_BattleGrounds.lookup place.1 with
      | none =>
        refine h.decreased hq hg hp fun b bg hbg => ⟨bg, hbg, rfl, rfl, fun team => ?_⟩
        rw [if_neg, add_zero]
        rintro rfl
        rw [hb] at hbg
        cases hbg
      | some bg =>
        refine h.decreased hq hg hp fun b bg' hbg => ?_
        by_cases hbb : b = place.1
        · subst hbb
          rw [lookup_insert] at hbg
          cases hbg
          have hpos : 0 < (bg.getInvitedCount place.2).toNat := by
            rw [(h.right _ bg place.2 hb).1]
            have := tally_le_of_lookup (ToBattleGround place.1 place.2) hp
            have hone : ToBattleGround place.1 place.2 guid place = 1 := if_pos rfl
            unfold holders
            omega
          refine ⟨bg, hb, bg.decreaseInvitedCount_players _, bg.decreaseInvitedCount_max _, fun team => ?_⟩
          rw [← decreaseInvitedCount_toNat hpos team]
          congr 1
          exact if_congr (by rw [Prod.ext_iff]; exact ⟨fun heq => heq.2.symm, fun heq => ⟨rfl, heq.symm⟩⟩) rfl rfl
        · rw [lookup_insert_ne hbb] at hbg
          refine ⟨bg', hbg, rfl, rfl, fun team => ?_⟩
          rw [if_neg (fun heq => hbb (by rw [heq])), add_zero]

theorem leaveQueue_counted (hguid : s.uncounted guid = false) : Counted (s.leaveQueue guid) :=
  removePlayer_counted (s := s.removeBattleGroundQueueId guid) hq (h.setPlayer guid fun _ => ⟨rfl, rfl⟩) hguid

end

/-! ### In the battlegrounds -/

theorem Counted.outside (h : Counted s) (hway : s.arriving.lookup guid = none)
    (hout : ∀ b bg, s.m_BattleGrounds.lookup b = some bg → bg.m_Players.lookup guid = none) (f : PlayerData → PlayerData) :
    Counted (s.setPlayer guid f) := by
  have hsame : ∀ p, p ≠ guid → (s.setPlayer guid f).players p = s.players p := fun p hp => update_of_ne hp ..
  refine { h with
    way := fun p place hp => ?_
    inside := fun b bg p team hb hp => ?_ }
  · rw [hsame p]
    · exact h.way p place hp
    rintro rfl
    have hnone : s.arriving.lookup p = some place := hp
    rw [hway] at hnone
    cases hnone
  · rw [hsame p]
    · exact h.inside b bg p team hb hp
    rintro rfl
    rw [hout b bg hb] at hp
    cases hp

def without (bg : BattleGround) (guid : Guid) (team : Team) : BattleGround :=
  BattleGround.decreaseInvitedCount { bg with m_Players := bg.m_Players.erase guid } team

theorem without_players (bg : BattleGround) (guid : Guid) (team : Team) :
    (without bg guid team).m_Players = bg.m_Players.erase guid :=
  decreaseInvitedCount_players ..

theorem Counted.without (h : Counted s) {bg : BattleGround} (hb : s.m_BattleGrounds.lookup b = some bg)
    (hin : bg.m_Players.lookup guid = some team) (free : List Nat) :
    Counted { s with m_BattleGrounds := s.m_BattleGrounds.insert b (without bg guid team), BGFreeSlotQueue := free } := by
  have hpos : 0 < (bg.getInvitedCount team).toNat := by
    rw [(h.right b bg team hb).1]
    have := tally_le_of_lookup (InTeam team) hin
    have hone : InTeam team guid team = 1 := if_pos rfl
    unfold holders
    omega
  have hless : ∀ p team', (bg.m_Players.erase guid).lookup p = some team' → bg.m_Players.lookup p = some team' := by
    intro p team' hp
    have hne : p ≠ guid := by
      rintro rfl
      simp at hp
    rwa [lookup_erase_ne hne] at hp
  refine { h with
    right := fun b' bg' team' hb' => ?_
    oldBG := fun b' bg' hb' => ?_
    way := fun p place hp => ?_
    inside := fun b' bg' p team' hb' hp => ?_ }
  · by_cases hbb : b' = b
    · subst hbb
      rw [lookup_insert] at hb'
      cases hb'
      obtain ⟨hright, hroom⟩ := h.right b' bg team' hb
      have hsame : ∀ t, getInvitedCount { bg with m_Players := bg.m_Players.erase guid } t = bg.getInvitedCount t := by
        intro t
        cases t <;> rfl
      have hcount := decreaseInvitedCount_toNat (by rw [hsame]; exact hpos) team'
      rw [hsame] at hcount
      have herase := tally_erase (InTeam team') hin
      have hone : InTeam team' guid team = if team' = team then 1 else 0 := if_congr eq_comm rfl rfl
      rw [le_iff_toNat_le] at hroom ⊢
      unfold holders at hright ⊢
      rw [without_players]
      simp only [State.without, decreaseInvitedCount_max]
      exact ⟨by omega, by omega⟩
    · rw [lookup_insert_ne hbb] at hb'
      exact h.right b' bg' team' hb'
  · by_cases hbb : b' = b
    · subst hbb
      exact h.oldBG b' bg hb
    · rw [lookup_insert_ne hbb] at hb'
      exact h.oldBG b' bg' hb'
  · obtain ⟨hpid, hteam, hout⟩ := h.way p place hp
    refine ⟨hpid, hteam, fun b' bg' hb' => ?_⟩
    by_cases hbb : b' = b
    · subst hbb
      rw [lookup_insert] at hb'
      cases hb'
      rw [without_players]
      cases hlook : (bg.m_Players.erase guid).lookup p with
      | none => rfl
      | some team' =>
        have hcon := hout b' bg hb
        rw [hless p team' hlook] at hcon
        cases hcon
    · rw [lookup_insert_ne hbb] at hb'
      exact hout b' bg' hb'
  · by_cases hbb : b' = b
    · subst hbb
      rw [lookup_insert] at hb'
      cases hb'
      rw [without_players] at hp
      exact h.inside b' bg p team' hb (hless p team' hp)
    · rw [lookup_insert_ne hbb] at hb'
      exact h.inside b' bg' p team' hb' hp

theorem Counted.nowhere (h : Counted s) (hid : (s.players guid).bgInstanceID = b)
    (hout : ∀ bg, s.m_BattleGrounds.lookup b = some bg → bg.m_Players.lookup guid = none) :
    ∀ b' bg, s.m_BattleGrounds.lookup b' = some bg → bg.m_Players.lookup guid = none := by
  intro b' bg hb
  cases hin : bg.m_Players.lookup guid with
  | none => rfl
  | some team =>
    have hbb := (h.inside b' bg guid team hb hin).symm.trans hid
    subst hbb
    rw [hout bg hb] at hin
    cases hin

theorem removePlayerAtLeave_counted (h : Counted s) (hid : (s.players guid).bgInstanceID = b)
    (hway : s.arriving.lookup guid = none) :
    Counted (s.removePlayerAtLeave b guid) ∧
      ∀ b' bg, (s.removePlayerAtLeave b guid).m_BattleGrounds.lookup b' = some bg → bg.m_Players.lookup guid = none := by
  unfold removePlayerAtLeave
  cases hb : s.m_BattleGrounds.lookup b with
  | none => exact ⟨h, h.nowhere hid fun bg hbg => by rw [hb] at hbg; cases hbg⟩
  | some bg =>
    dsimp only
    cases hin : bg.m_Players.lookup guid with
    | none =>
      have hout := h.nowhere hid fun bg' hb' => by
        rw [hb] at hb'
        cases hb'
        exact hin
      exact ⟨h.outside hway hout _, hout⟩
    | some team =>
      have hleft := fun free => h.without hb hin free
      have hout := (hleft []).nowhere hid fun bg' hb' => by
        rw [lookup_insert] at hb'
        cases hb'
        rw [without_players]
        exact lookup_erase _ _
      dsimp only
      split
      · exact ⟨((hleft s.BGFreeSlotQueue).outside hway hout fun d => { d with bgQueueSlot := none }).outside hway hout _, hout⟩
      · exact ⟨((hleft (b :: s.BGFreeSlotQueue)).outside hway hout fun d => { d with bgQueueSlot := none }).outside hway hout _, hout⟩

theorem leaveBattleground_counted (h : Counted s) (hway : (s.players guid).bgInstanceID ≠ 0 → s.arriving.lookup guid = none) :
    Counted (s.leaveBattleground guid) ∧
      ∀ b bg, (s.leaveBattleground guid).m_BattleGrounds.lookup b = some bg → bg.m_Players.lookup guid = none := by
  unfold leaveBattleground
  split
  · rename_i hid
    refine ⟨h, h.nowhere hid fun bg hb => ?_⟩
    have hpos := (h.oldBG 0 bg hb).1
    omega
  · rename_i hid
    exact removePlayerAtLeave_counted h rfl (hway hid)

/-- A leave is told of the battlegrounds, the players and the free slots only. -/
theorem removePlayerAtLeave_setQueue (s : State) (b : Nat) (guid : Guid) (q' : Queue) (counted : Table Guid (Nat × Team)) :
    removePlayerAtLeave { s with queue := q', counted := counted } b guid =
      { s.removePlayerAtLeave b guid with queue := q', counted := counted } := by
  unfold removePlayerAtLeave
  dsimp only
  split
  · rfl
  unfold removeBattleGroundQueueId setPlayer
  split
  · rfl
  · split <;> rfl

theorem leaveBattleground_setQueue (s : State) (guid : Guid) (q' : Queue) (counted : Table Guid (Nat × Team)) :
    leaveBattleground { s with queue := q', counted := counted } guid =
      { s.leaveBattleground guid with queue := q', counted := counted } := by
  unfold leaveBattleground
  split
  · rfl
  · exact removePlayerAtLeave_setQueue ..

theorem removePlayerAtLeave_frame (s : State) (b : Nat) (guid : Guid) :
    (s.removePlayerAtLeave b guid).arriving = s.arriving ∧ (s.removePlayerAtLeave b guid).counted = s.counted ∧
      ∀ p, p ≠ guid → (s.removePlayerAtLeave b guid).players p = s.players p := by
  unfold removePlayerAtLeave
  split
  · exact ⟨rfl, rfl, fun _ _ => rfl⟩
  unfold setPlayer
  dsimp only
  split
  · exact ⟨rfl, rfl, fun p hp => update_of_ne hp ..⟩
  have hsame : ∀ d, ∀ p, p ≠ guid → Function.update (s.removeBattleGroundQueueId guid).players guid d p = s.players p := by
    intro d p hp
    rw [update_of_ne hp]
    exact update_of_ne hp ..
  split
  · exact ⟨rfl, rfl, hsame _⟩
  · exact ⟨rfl, rfl, hsame _⟩

theorem leaveBattleground_frame (s : State) (guid : Guid) :
    (s.leaveBattleground guid).arriving = s.arriving ∧ (s.leaveBattleground guid).counted = s.counted := by
  unfold leaveBattleground
  split
  · exact ⟨rfl, rfl⟩
  · exact ⟨(removePlayerAtLeave_frame ..).1, (removePlayerAtLeave_frame ..).2.1⟩

theorem worldportAck_counted (h : Counted s)
    (hslot : s.arriving.lookup guid ≠ none → (s.players guid).bgQueueSlot = some (s.players guid).bgInstanceID) :
    Counted (s.worldportAck guid) := by
  unfold worldportAck
  cases hplace : s.arriving.lookup guid with
  | none => exact h
  | some place =>
    obtain ⟨hid, hteam, hout⟩ := h.way guid place hplace
    have hslot := hslot (by rw [hplace]; exact Option.some_ne_none place)
    have hway : ∀ p place', (s.arriving.erase guid).lookup p = some place' → p ≠ guid ∧ s.arriving.lookup p = some place' := by
      intro p place' hp
      have hne : p ≠ guid := by
        rintro rfl
        simp at hp
      rw [lookup_erase_ne hne] at hp
      exact ⟨hne, hp⟩
    have herase := fun b team => tally_erase_counted hplace b team
    -- nobody was on the way to a battleground that is not there
    have hgone : s.m_BattleGrounds.lookup place.1 = none → Counted { s with arriving := s.arriving.erase guid } := by
      intro hnone
      refine { h with
        right := fun b bg team hb => ?_
        oldPlace := fun p place' hp => h.oldPlace p place' (hway p place' hp).2
        way := fun p place' hp => h.way p place' (hway p place' hp).2 }
      obtain ⟨hright, hroom⟩ := h.right b bg team hb
      have hne : place ≠ (b, team) := by
        rintro rfl
        rw [hb] at hnone
        cases hnone
      have hsame := herase b team
      rw [if_neg hne] at hsame
      unfold holders at hright ⊢
      dsimp only
      exact ⟨by omega, hroom⟩
    dsimp only
    cases hb : s.m_BattleGrounds.lookup place.1 with
    | none =>
      have hupdate : ∀ f, updateBG { s with arriving := s.arriving.erase guid } place.1 f = { s with arriving := s.arriving.erase guid } := by
        intro f
        unfold updateBG
        rw [hb]
      rw [hid, hupdate, ite_self]
      exact hgone hb
    | some bg =>
      have hzero : (s.players guid).bgInstanceID ≠ 0 := by
        rw [hid]
        exact ne_of_gt (h.oldBG _ bg hb).1
      rw [if_pos ⟨hzero, hslot⟩, hid, hteam]
      unfold updateBG
      rw [hb]
      have hnew := hout place.1 bg hb
      refine { h with
        right := fun b bg' team hb' => ?_
        oldPlace := fun p place' hp => h.oldPlace p place' (hway p place' hp).2
        oldBG := fun b bg' hb' => ?_
        way := fun p place' hp => ?_
        inside := fun b bg' p team hb' hp => ?_ }
      · have hsame := herase b team
        by_cases hbb : b = place.1
        · subst hbb
          rw [lookup_insert] at hb'
          cases hb'
          obtain ⟨hright, hroom⟩ := h.right place.1 bg team hb
          have hinsert := tally_insert_new (InTeam team) place.2 hnew
          have hone : InTeam team guid place.2 = if place = (place.1, team) then 1 else 0 :=
            if_congr (by rw [Prod.ext_iff]; exact ⟨fun heq => ⟨rfl, heq⟩, fun heq => heq.2⟩) rfl rfl
          have hcount : getInvitedCount { bg with m_Players := bg.m_Players.insert guid place.2 } team =
              bg.getInvitedCount team := by cases team <;> rfl
          unfold holders at hright ⊢
          rw [hcount]
          dsimp only
          exact ⟨by omega, hroom⟩
        · rw [lookup_insert_ne hbb] at hb'
          obtain ⟨hright, hroom⟩ := h.right b bg' team hb'
          rw [if_neg (fun heq => hbb (by rw [heq]))] at hsame
          unfold holders at hright ⊢
          dsimp only
          exact ⟨by omega, hroom⟩
      · by_cases hbb : b = place.1
        · subst hbb
          exact h.oldBG _ bg hb
        · rw [lookup_insert_ne hbb] at hb'
          exact h.oldBG b bg' hb'
      · obtain ⟨hne, hp⟩ := hway p place' hp
        obtain ⟨hpid, hpteam, hpout⟩ := h.way p place' hp
        refine ⟨hpid, hpteam, fun b bg' hb' => ?_⟩
        by_cases hbb : b = place.1
        · subst hbb
          rw [lookup_insert] at hb'
          cases hb'
          exact (lookup_insert_ne hne).trans (hpout _ bg hb)
        · rw [lookup_insert_ne hbb] at hb'
          exact hpout b bg' hb'
      · by_cases hbb : b = place.1
        · subst hbb
          rw [lookup_insert] at hb'
          cases hb'
          by_cases hpg : p = guid
          · rw [hpg]
            exact hid
          · rw [lookup_insert_ne hpg] at hp
            exact h.inside _ bg p team hb hp
        · rw [lookup_insert_ne hbb] at hb'
          exact h.inside b bg' p team hb' hp

end State

end ComfyCraft.BattleGroundMgr
