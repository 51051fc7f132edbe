import ComfyCraft.Group.RosterKept
import ComfyCraft.LFT.Guards
import Mathlib.Algebra.BigOperators.Group.Finset.Basic

/-! Completing an offer: when the five of it end in one group, and when a failure leaves every player where the player was. -/

namespace ComfyCraft

open List Function Option Runs Nat GroupRealm Group

namespace Group

variable {g : Group}

/-- How many can still be added: the group has room for so many, and so has every subgroup of a raid. -/
def freePlaces (g : Group) : Nat :=
  match g.subGroupsCounts with
  | none => (if g.raid then 40 else 5) - g.slots.length
  | some counts => min ((if g.raid then 40 else 5) - g.slots.length) (∑ subGroup ∈ Finset.range 8, (5 - (counts subGroup).toNat))

theorem isFull_iff : g.isFull = true ↔ (if g.raid then 40 else 5) - g.slots.length = 0 := by
  unfold isFull
  split_ifs <;> rw [decide_eq_true_iff, Nat.sub_eq_zero_iff_le]

theorem isMember_addSlot (g : Group) (guid subGroup x : Nat) : (g.addSlot guid subGroup).isMember x = (g.isMember x || decide
    (x = guid)) := by
  rw [Bool.eq_iff_iff, Bool.or_eq_true, isMember_iff, isMember_iff, decide_eq_true_iff]
  change (∃ s ∈ g.slots ++ [⟨guid, subGroup, false⟩], s.guid = x) ↔ _
  simp [or_and_right, exists_or, eq_comm]

variable {subGroup : Nat}

/-- One more in the first subgroup that is open. -/
theorem sum_places {counts : Nat → UInt8} (hlt : subGroup < 8) (hopen : counts subGroup < 5) :
    (∑ other ∈ Finset.range 8, (5 - (Function.update counts subGroup (counts subGroup + 1) other).toNat)) + 1 =
      ∑ other ∈ Finset.range 8, (5 - (counts other).toNat) := by
  have hmem : subGroup ∈ Finset.range 8 := Finset.mem_range.2 hlt
  have hlt5 : (counts subGroup).toNat < 5 := UInt8.lt_iff_toNat_lt.1 hopen
  have hsucc : (counts subGroup + 1).toNat = (counts subGroup).toNat + 1 := by
    rw [UInt8.toNat_add, UInt8.toNat_one]
    omega
  have hrest : ∑ other ∈ (Finset.range 8).erase subGroup, (5 - (update counts subGroup (counts subGroup + 1) other).toNat) =
      ∑ other ∈ (Finset.range 8).erase subGroup, (5 - (counts other).toNat) := by
    refine Finset.sum_congr rfl fun other hother => ?_
    rw [update_of_ne (Finset.ne_of_mem_erase hother)]
  rw [← Finset.add_sum_erase _ _ hmem, ← Finset.add_sum_erase _ _ hmem, hrest, update_self, hsucc]
  omega

/-- A group that is not full and has an open subgroup has places, of which a new member takes one. -/
theorem freePlaces_open (hfull : g.isFull = false) (hopen : g.openSubGroup = some subGroup) (guid : Nat) :
    (g.addSlot guid subGroup).freePlaces + 1 = g.freePlaces := by
  have hsize : 0 < (if g.raid then 40 else 5) - g.slots.length :=
    pos_of_ne_zero fun h => Bool.eq_false_iff.1 hfull (isFull_iff.2 h)
  have hslots : (g.addSlot guid subGroup).slots.length = g.slots.length + 1 := by
    unfold addSlot counterIncrease
    simp
  have hraid : (g.addSlot guid subGroup).raid = g.raid := rfl
  unfold freePlaces
  rw [hslots, hraid]
  unfold openSubGroup at hopen
  cases hcounts : g.subGroupsCounts with
  | none =>
    have hnone : (g.addSlot guid subGroup).subGroupsCounts = none := by
      change g.subGroupsCounts.map _ = none
      rw [hcounts]
      rfl
    rw [hnone]
    dsimp only
    omega
  | some counts =>
    rw [hcounts] at hopen
    have hlt := mem_range.1 (mem_of_find?_eq_some hopen)
    have hfree := find?_some hopen
    have hsum := sum_places hlt (of_decide_eq_true hfree)
    have hsome : (g.addSlot guid subGroup).subGroupsCounts = some (update counts subGroup (counts subGroup + 1)) := by
      change g.subGroupsCounts.map _ = _
      rw [hcounts]
      rfl
    rw [hsome]
    dsimp only
    omega

theorem freePlaces_closed (h : g.isFull = true ∨ g.openSubGroup = none) : g.freePlaces = 0 := by
  unfold freePlaces
  rcases h with hfull | hclosed
  · have := isFull_iff.1 hfull
    split <;> omega
  unfold openSubGroup at hclosed
  cases hcounts : g.subGroupsCounts with
  | none =>
    rw [hcounts] at hclosed
    cases hclosed
  | some counts =>
    rw [hcounts] at hclosed
    have hnone : ∑ subGroup ∈ Finset.range 8, (5 - (counts subGroup).toNat) = 0 := by
      refine Finset.sum_eq_zero fun subGroup hmem => ?_
      have hnot := find?_eq_none.1 hclosed subGroup (mem_range.2 (Finset.mem_range.1 hmem))
      have hle := UInt8.le_iff_toNat_le.1 (UInt8.not_lt.1 fun hlt => hnot (decide_eq_true hlt))
      change 5 ≤ _ at hle
      omega
    dsimp only
    omega

end Group

namespace LFTManager

variable {w : LFTWorld} {s s' : LFTManager} {id leader member : Nat} {g : Group}

/-! What completing an offer depends on. -/

def listed (o : Offer) : List Nat := o.roles.ordered.map Sigma.fst

/-- A player who is in the world, in no other group, and may group with the leader. -/
def admits (w : LFTWorld) (s : LFTManager) (id leader member : Nat) : Bool :=
  s.isInWorld member && member ≠ 0 &&
    ((s.realm.players member).group.group = none || (s.realm.players member).group.group = some id) && w.canPlayersGroup leader member

def present (s : LFTManager) (g : Group) (member : Nat) : Bool := s.isInWorld member && g.isMember member

/-- All are there or can be added, one after the other. -/
def Fits (w : LFTWorld) (s : LFTManager) (id leader : Nat) (g : Group) (members : List Nat) : Prop :=
  (∀ member ∈ members, s.present g member = true ∨ admits w s id leader member = true) ∧
    members.countP (fun member => !g.isMember member) ≤ g.freePlaces

/-- The group that the players are added to as it is then: the leader's own, or a new one with the leader in it. -/
def openedGroup (s : LFTManager) (leader : Nat) : Option (Nat × Group) :=
  if !s.isInWorld leader then none
  else
    match (s.realm.players leader).group.group with
    | some id => (s.realm.groups id).map fun g => (id, g)
    | none => if leader = 0 then none else some (s.nextGroupId, ⟨false, false, [⟨leader, 0, false⟩], none, leader, 0, 0⟩)

/-- The five of an offer fit into the group of its leader. -/
def Completable (w : LFTWorld) (s : LFTManager) (o : Offer) : Prop :=
  ∃ id g, s.openedGroup (s.offerLeader o) = some (id, g) ∧ Fits w s id (s.offerLeader o) g (listed o)

/-! One player. -/

/-- One player comes into a group, and the others are where they were. -/
structure Joined (id member : Nat) (g : Group) (s s' : LFTManager) : Prop where
  group : ∃ g', s'.realm.groups id = some g' ∧ (∀ x, g'.isMember x = (g.isMember x || decide (x = member))) ∧
    g'.freePlaces + 1 = g.freePlaces
  others : ∀ x, x ≠ member → s'.realm.players x = s.realm.players x

variable {x group : Nat} {g' : Group} {o : Offer} {s₁ : LFTManager}

theorem players_tell_of_ne (r : GroupRealm) {guid : Nat} (hne : x ≠ guid) (f : PlayerGroups → PlayerGroups) :
    (r.tell guid f).players x = r.players x := by
  unfold GroupRealm.tell
  split_ifs
  · exact update_of_ne hne _ _
  · rfl

theorem groups_tell (r : GroupRealm) (guid : Nat) (f : PlayerGroups → PlayerGroups) : (r.tell guid f).groups = r.groups := by
  unfold GroupRealm.tell
  split_ifs <;> rfl

/-- The realm when one who is not a member is added to a group that there is. -/
theorem addMember_cases (r : GroupRealm) (hg : r.groups id = some g) (hnew : g.isMember member = false) (hfull : g.isFull = false) :
    (r.addMember id member = (false, r) ∧ (member = 0 ∨ g.openSubGroup = none)) ∨
    (member ≠ 0 ∧ ∃ subGroup r', g.openSubGroup = some subGroup ∧ r.addMember id member = (true, r') ∧
      r'.groups id = some (g.addSlot member subGroup) ∧ (∀ x, x ≠ member → r'.players x = r.players x) ∧
      ((r.players member).inWorld = true → (r.players member).group.group = none → (r'.players member).group.group = some id)) := by
  unfold addMember
  rw [hg]
  dsimp only
  cases hopen : g.openSubGroup with
  | none => exact .inl ⟨rfl, .inr rfl⟩
  | some subGroup =>
    dsimp only
    rw [hnew, hfull]
    by_cases hzero : member = 0
    · rw [if_pos hzero]
      exact .inl ⟨rfl, .inl hzero⟩
    rw [if_neg hzero]
    refine .inr ⟨hzero, subGroup, _, rfl, rfl, ?_, fun x hx => players_tell_of_ne _ hx _, fun honline hnone => ?_⟩
    · rw [groups_tell]
      exact update_self ..
    unfold GroupRealm.tell
    rw [if_pos (show ((r.setGroup id (g.addSlot member subGroup)).players member).inWorld = true from honline)]
    dsimp only
    rw [update_self]
    unfold PlayerGroups.join
    rw [show ((r.setGroup id (g.addSlot member subGroup)).players member).group.group = none from hnone]
    rfl

/-- The three ways in which it goes with one player and a group that there is. -/
theorem addPlayerToGroup_cases (hleader : s.isInWorld leader = true) (hg : s.realm.groups id = some g) (w : LFTWorld)
    (member : Nat) :
    (s.present g member = true ∧ ∃ s', addPlayerToGroup w s (some id) leader member = (true, some id, s') ∧ s'.realm = s.realm) ∨
    (g.isMember member = false ∧ admits w s id leader member = true ∧ 0 < g.freePlaces ∧
      ∃ s', addPlayerToGroup w s (some id) leader member = (true, some id, s') ∧ Joined id member g s s') ∨
    (s.present g member = false ∧ (admits w s id leader member = true → g.freePlaces = 0) ∧
      ∃ group s', addPlayerToGroup w s (some id) leader member = (false, group, s') ∧ s'.realm = s.realm) := by
  unfold present admits
  by_cases honline : s.isInWorld member = true
  case neg =>
    rw [Bool.not_eq_true] at honline
    refine .inr (.inr ⟨by rw [honline]; rfl, fun h => ?_, some id, s, ?_, rfl⟩)
    · rw [honline] at h
      cases h
    · unfold addPlayerToGroup
      rw [honline]
      rfl
  have hadd : addPlayerToGroup w s (some id) leader member =
      ((joinGroup w s id leader member).1, some id, (joinGroup w s id leader member).2) := by
    unfold addPlayerToGroup
    rw [honline]
    rfl
  rw [hadd, honline]
  unfold joinGroup
  dsimp only
  rw [hg]
  dsimp only
  by_cases hmember : g.isMember member = true
  · rw [if_pos hmember]
    exact .inl ⟨by rw [hmember]; rfl, _, rfl, rfl⟩
  rw [if_neg hmember]
  rw [Bool.not_eq_true] at hmember
  refine .inr ?_
  by_cases hother : (s.realm.players member).group.group ≠ none ∧ (s.realm.players member).group.group ≠ some id
  · rw [if_pos hother]
    exact .inr ⟨by rw [hmember]; rfl, fun h => by simp [hother] at h, _, _, rfl, rfl⟩
  rw [if_neg hother]
  have hleader' : ({ s with lftGroupIds := s.lftGroupIds.insert id } : LFTManager).isInWorld leader = true := hleader
  rw [hleader']
  by_cases hcan : w.canPlayersGroup leader member = true
  case neg =>
    rw [Bool.not_eq_true] at hcan
    rw [hcan]
    refine .inr ⟨by rw [hmember]; rfl, fun h => ?_, _, _, rfl, rfl⟩
    rw [Bool.and_false] at h
    cases h
  rw [hcan, if_neg (by simp)]
  split_ifs with hfull
  · exact .inr ⟨by rw [hmember]; rfl, fun _ => freePlaces_closed (.inl hfull), _, _, rfl, rfl⟩
  rw [Bool.not_eq_true] at hfull
  rcases addMember_cases s.realm hg hmember hfull with ⟨heq, hwhy⟩ | ⟨hzero, subGroup, r', hopen, heq, hgroup, hothers, -⟩
  · rw [heq]
    refine .inr ⟨by rw [hmember]; rfl, fun h => ?_, _, _, rfl, rfl⟩
    rcases hwhy with hzero | hclosed
    · rw [hzero] at h
      simp at h
    · exact freePlaces_closed (.inr hclosed)
  · rw [heq]
    have hplaces := freePlaces_open hfull hopen member
    refine .inl ⟨hmember, ?_, by omega, _, rfl, ⟨_, hgroup, isMember_addSlot g member subGroup, hplaces⟩, hothers⟩
    have : (s.realm.players member).group.group = none ∨ (s.realm.players member).group.group = some id := by
      by_contra h
      exact hother (not_or.1 h)
    simpa [hzero] using this

/-! All of them. -/

variable {members : List Nat}

theorem fits_realm (h : s'.realm = s.realm) : Fits w s' id leader g members ↔ Fits w s id leader g members := by
  unfold Fits admits present isInWorld
  rw [h]

theorem fits_cons_present (h : s.present g member = true) : Fits w s id leader g
    (member :: members) ↔ Fits w s id leader g members := by
  have hmember : g.isMember member = true := by
    unfold present at h
    exact (Bool.and_eq_true _ _ ▸ h).2
  unfold Fits
  rw [countP_cons_of_neg (by simp [hmember])]
  simp [h]

theorem present_joined (h : Joined id member g s s') (hg' : s'.realm.groups id = some g') (hx : x ≠ member) :
    g'.isMember x = g.isMember x ∧ s'.present g' x = s.present g x ∧ admits w s' id leader x = admits w s id leader x := by
  obtain ⟨g₁, hg₁, hmembers, -⟩ := h.group
  rw [hg'] at hg₁
  cases hg₁
  have hmember : g'.isMember x = g.isMember x := by
    rw [hmembers x]
    simp [hx]
  unfold present admits isInWorld
  rw [hmember, h.others x hx]
  exact ⟨rfl, rfl, rfl⟩

theorem fits_cons_joined (hmember : g.isMember member = false) (hadmits : admits w s id leader member = true)
    (h : Joined id member g s s')
    (hnew : member ∉ members) (hg' : s'.realm.groups id = some g') :
    Fits w s id leader g (member :: members) ↔ Fits w s' id leader g' members := by
  have hsame : ∀ x ∈ members, g'.isMember x = g.isMember x ∧ s'.present g' x = s.present g x ∧
      admits w s' id leader x = admits w s id leader x :=
    fun x hx => present_joined h hg' fun heq => hnew (heq ▸ hx)
  obtain ⟨g₁, hg₁, -, hplaces⟩ := h.group
  rw [hg'] at hg₁
  cases hg₁
  have hcount : members.countP (fun x => !g'.isMember x) = members.countP fun x => !g.isMember x :=
    countP_congr fun x hx => by rw [(hsame x hx).1]
  unfold Fits
  rw [countP_cons_of_pos (by simp [hmember]), hcount]
  constructor
  · rintro ⟨hall, hcount⟩
    refine ⟨fun x hx => ?_, by omega⟩
    rw [(hsame x hx).2.1, (hsame x hx).2.2]
    exact hall x (mem_cons_of_mem member hx)
  · rintro ⟨hall, hcount⟩
    refine ⟨fun x hx => ?_, by omega⟩
    rcases mem_cons.1 hx with rfl | hx
    · exact .inr hadmits
    · rw [← (hsame x hx).2.1, ← (hsame x hx).2.2]
      exact hall x hx

/-- All are added exactly when they fit. -/
theorem addPlayers_iff (hleader : s.isInWorld leader = true) (hg : s.realm.groups id = some g) (w : LFTWorld)
    (hnodup : members.Nodup) :
    (addPlayers w leader members (some id) s).1 = true ↔ Fits w s id leader g members := by
  induction members generalizing s g with
  | nil => exact ⟨fun _ => ⟨fun _ hmem => (not_mem_nil hmem).elim, zero_le _⟩, fun _ => rfl⟩
  | cons member members ih =>
    obtain ⟨hnew, hnodup⟩ := nodup_cons.1 hnodup
    have honline := (addPlayerToGroup_same w s (some id) leader member).online leader
    unfold addPlayers
    rcases addPlayerToGroup_cases hleader hg w member with
      ⟨hpresent, s', heq, hrealm⟩ | ⟨hmember, hadmits, -, s', heq, hjoined⟩ | ⟨habsent, hfull, group, s', heq, -⟩
    · rw [heq] at honline ⊢
      have hrest := ih (honline.trans hleader) (hrealm ▸ hg) hnodup
      exact hrest.trans ((fits_realm hrealm).trans (fits_cons_present hpresent).symm)
    · rw [heq] at honline ⊢
      obtain ⟨g', hg', -⟩ := hjoined.group
      have hrest := ih (honline.trans hleader) hg' hnodup
      exact hrest.trans (fits_cons_joined hmember hadmits hjoined hnew hg').symm
    · rw [heq]
      refine ⟨fun h => Bool.noConfusion h, fun h => ?_⟩
      have hadmits := (h.1 member mem_cons_self).resolve_left (by rw [habsent]; exact Bool.noConfusion)
      have hplaces := h.2
      have hmember : g.isMember member = false := by
        unfold admits at hadmits
        unfold present at habsent
        simp only [Bool.and_eq_true] at hadmits
        rw [hadmits.1.1.1, Bool.true_and] at habsent
        exact habsent
      rw [countP_cons_of_pos (by simp [hmember]), hfull hadmits] at hplaces
      omega

/-- Who is in the group stays as they are, and who is added is in it too. -/
theorem addPlayers_members (hleader : s.isInWorld leader = true) (hg : s.realm.groups id = some g) (w : LFTWorld)
    (members : List Nat) :
    ∃ g', (addPlayers w leader members (some id) s).2.realm.groups id = some g' ∧
      (∀ x, g.isMember x = true → g'.isMember x = true ∧
        (addPlayers w leader members (some id) s).2.realm.players x = s.realm.players x) ∧
      ((addPlayers w leader members (some id) s).1 = true → ∀ member ∈ members, g'.isMember member = true) := by
  induction members generalizing s g with
  | nil => exact ⟨g, hg, fun _ hx => ⟨hx, rfl⟩, fun _ _ hmem => (not_mem_nil hmem).elim⟩
  | cons member members ih =>
    have honline := (addPlayerToGroup_same w s (some id) leader member).online leader
    have hrest : ∀ {s' : LFTManager} {g₁ : Group}, s'.isInWorld leader = true → s'.realm.groups id = some g₁ →
        (∀ x, g.isMember x = true → g₁.isMember x = true ∧ s'.realm.players x = s.realm.players x) → g₁.isMember member = true →
        ∃ g', (addPlayers w leader members (some id) s').2.realm.groups id = some g' ∧
          (∀ x, g.isMember x = true → g'.isMember x = true ∧
            (addPlayers w leader members (some id) s').2.realm.players x = s.realm.players x) ∧
          ((addPlayers w leader members (some id) s').1 = true → ∀ other ∈ member :: members, g'.isMember other = true) := by
      intro s' g₁ hleader' hg₁ hkept hmember
      obtain ⟨g', hg', hold, hall⟩ := ih hleader' hg₁
      refine ⟨g', hg', fun x hx => ?_, fun hdone other hother => ?_⟩
      · obtain ⟨hx', hplayer⟩ := hkept x hx
        exact ⟨(hold x hx').1, (hold x hx').2.trans hplayer⟩
      · rcases mem_cons.1 hother with rfl | hother
        · exact (hold _ hmember).1
        · exact hall hdone other hother
    unfold addPlayers
    rcases addPlayerToGroup_cases hleader hg w member with
      ⟨hpresent, s', heq, hrealm⟩ | ⟨hmember, -, -, s', heq, hjoined⟩ | ⟨-, -, group, s', heq, hrealm⟩
    · rw [heq] at honline ⊢
      have hmember : g.isMember member = true := by
        unfold present at hpresent
        exact (Bool.and_eq_true _ _ ▸ hpresent).2
      exact hrest (honline.trans hleader) (hrealm ▸ hg) (fun _ hx => ⟨hx, by rw [hrealm]⟩) hmember
    · rw [heq] at honline ⊢
      obtain ⟨g', hg', hmembers, -⟩ := hjoined.group
      refine hrest (honline.trans hleader) hg' (fun x hx => ⟨?_, hjoined.others x ?_⟩) ?_
      · rw [hmembers x, hx]
        rfl
      · rintro rfl
        rw [hmember] at hx
        cases hx
      · rw [hmembers member]
        simp
    · rw [heq]
      exact ⟨g, hrealm ▸ hg, fun _ hx => ⟨hx, by rw [hrealm]⟩, fun h => Bool.noConfusion h⟩

/-! The group that the first player opens. -/

/-- Nothing happens when there is no group that they could be added to. -/
theorem addPlayers_none (h : s.openedGroup leader = none) (w : LFTWorld) (member : Nat) (members : List Nat) :
    ∃ s', addPlayers w leader (member :: members) none s = (false, s') ∧ s'.realm = s.realm := by
  unfold addPlayers addPlayerToGroup
  by_cases honline : s.isInWorld member = true
  case neg =>
    rw [if_pos (by simpa using honline)]
    exact ⟨s, rfl, rfl⟩
  rw [if_neg (by simpa using honline)]
  unfold openedGroup at h
  unfold openGroup
  by_cases hleader : s.isInWorld leader = true
  case neg =>
    rw [if_pos (by simpa using hleader)]
    exact ⟨s, rfl, rfl⟩
  rw [if_neg (by simpa using hleader)] at h ⊢
  cases hlink : (s.realm.players leader).group.group with
  | some id =>
    rw [hlink, map_eq_none_iff] at h
    unfold joinGroup
    dsimp only
    rw [h]
    exact ⟨_, rfl, rfl⟩
  | none =>
    rw [hlink] at h
    split_ifs at h with hzero
    have hcreate : s.realm.create s.nextGroupId leader false = (false, s.realm) := by
      rw [hzero]
      unfold create addMember setGroup
      simp [openSubGroup]
    rw [hcreate]
    exact ⟨_, rfl, rfl⟩

/-- There is a group then, and only a leader who had none is not as before. -/
structure Opened (leader id : Nat) (g : Group) (s s' : LFTManager) : Prop where
  online : ∀ x, s'.isInWorld x = s.isInWorld x
  leads : s.isInWorld leader = true
  group : s'.realm.groups id = some g
  kept : (s.realm.players leader).group.group = some id ∧ s'.realm = s.realm ∨
    (s.realm.players leader).group.group = none ∧ g.isMember leader = true ∧ (s'.realm.players leader).group.group = some id ∧
      ∀ x, x ≠ leader → s'.realm.players x = s.realm.players x

theorem openGroup_opened (h : s.openedGroup leader = some (id, g)) : ∃ s', s.openGroup leader =
    (some id, s') ∧ Opened leader id g s s' := by
  have hopen : s.isInWorld leader = true ∧ ∃ s', s.openGroup leader = (some id, s') ∧ s'.realm.groups id = some g ∧
      ((s.realm.players leader).group.group = some id ∧ s'.realm = s.realm ∨
        (s.realm.players leader).group.group = none ∧ g.isMember leader = true ∧ (s'.realm.players leader).group.group = some id ∧
          ∀ x, x ≠ leader → s'.realm.players x = s.realm.players x) := by
    unfold openedGroup at h
    unfold openGroup
    by_cases hleader : s.isInWorld leader = true
    case neg =>
      rw [if_pos (by simpa using hleader)] at h
      cases h
    rw [if_neg (by simpa using hleader)] at h ⊢
    refine ⟨hleader, ?_⟩
    cases hlink : (s.realm.players leader).group.group with
    | some id' =>
      rw [hlink] at h
      obtain ⟨g', hg', heq⟩ := map_eq_some_iff.1 h
      cases heq
      exact ⟨s, rfl, hg', .inl ⟨rfl, rfl⟩⟩
    | none =>
      rw [hlink] at h
      split_ifs at h with hzero
      cases h
      have hnew : (s.realm.setGroup s.nextGroupId ⟨false, false, [], none, leader, 0, 0⟩).groups s.nextGroupId =
          some ⟨false, false, [], none, leader, 0, 0⟩ := update_self ..
      rcases addMember_cases _ hnew (rfl : isMember _ leader = false) rfl with ⟨-, hfailed⟩ | ⟨-, subGroup, r', hsub, heq, hgroup, hothers, hself⟩
      · rcases hfailed with hfailed | hfailed
        · exact absurd hfailed hzero
        · cases hfailed
      have hcreate : s.realm.create s.nextGroupId leader false = (true, r') := by
        unfold create
        simp only [Bool.false_eq_true, if_false, heq, if_true]
      rw [hcreate]
      cases hsub
      refine ⟨_, rfl, hgroup, .inr ⟨rfl, ?_, hself hleader hlink, hothers⟩⟩
      exact isMember_iff.2 ⟨_, mem_singleton_self _, rfl⟩
  obtain ⟨hleader, s', heq, hg, hkept⟩ := hopen
  have honline := (openGroup_same s leader).online
  rw [heq] at honline
  exact ⟨s', heq, honline, hleader, hg, hkept⟩

theorem addPlayers_opened (h : s.openedGroup leader = some (id, g)) (hmember : s.isInWorld member = true) (w : LFTWorld)
    (members : List Nat) :
    ∃ s', addPlayers w leader (member :: members) none s = addPlayers w leader (member :: members) (some id) s' ∧
      Opened leader id g s s' := by
  obtain ⟨s', heq, hopened⟩ := openGroup_opened h
  refine ⟨s', ?_, hopened⟩
  unfold addPlayers addPlayerToGroup
  rw [if_neg (by simpa using hmember), if_neg (by simpa using (hopened.online member).trans hmember)]
  rw [heq]

theorem addPlayers_absent (h : s.isInWorld member = false) (w : LFTWorld) (members : List Nat) (group : Option Nat) :
    addPlayers w leader (member :: members) group s = (false, s) := by
  unfold addPlayers addPlayerToGroup
  rw [h]
  rfl

theorem Opened.fits (h : Opened leader id g s s') : Fits w s' id leader g members ↔ Fits w s id leader g members := by
  have hone : ∀ x, s'.present g x = true ∨ admits w s' id leader x = true ↔ s.present g x = true ∨ admits w s id leader x = true := by
    intro x
    unfold present admits
    rw [h.online x]
    rcases h.kept with ⟨-, hrealm⟩ | ⟨-, hmember, -, hothers⟩
    · rw [hrealm]
    by_cases heq : x = leader
    · simp [heq, hmember, h.leads]
    · rw [hothers x heq]
  unfold Fits
  simp only [hone]

/-- The first player decides whether there is a group; then all are added exactly when they fit. -/
theorem addPlayers_none_iff (w : LFTWorld) (hnodup : (member :: members).Nodup) :
    (addPlayers w leader (member :: members) none s).1 = true ↔
      ∃ id g, s.openedGroup leader = some (id, g) ∧ Fits w s id leader g (member :: members) := by
  cases hopened : s.openedGroup leader with
  | none =>
    obtain ⟨s', heq, -⟩ := addPlayers_none hopened w member members
    rw [heq]
    refine ⟨fun h => Bool.noConfusion h, ?_⟩
    rintro ⟨_, _, h, -⟩
    cases h
  | some opened =>
    obtain ⟨id, g⟩ := opened
    have hiff : (addPlayers w leader (member :: members) none s).1 = true ↔ Fits w s id leader g (member :: members) := by
      by_cases hmember : s.isInWorld member = true
      · obtain ⟨s', heq, hopened⟩ := addPlayers_opened hopened hmember w members
        rw [heq, addPlayers_iff ((hopened.online leader).trans hopened.leads) hopened.group w hnodup]
        exact hopened.fits
      · rw [Bool.not_eq_true] at hmember
        rw [addPlayers_absent hmember]
        refine ⟨fun h => Bool.noConfusion h, fun h => ?_⟩
        have hfirst := h.1 member mem_cons_self
        unfold present admits at hfirst
        simp [hmember] at hfirst
    rw [hiff]
    constructor
    · exact fun h => ⟨id, g, rfl, h⟩
    · rintro ⟨_, _, heq, h⟩
      cases heq
      exact h

/-! The offer. -/

theorem cancelOffer_realm (s : LFTManager) (id : Nat) (requeueAccepted : Bool) (removeGuid : Nat) (requeueOthers : Bool) :
    (s.cancelOffer id requeueAccepted removeGuid requeueOthers).realm = s.realm := by
  unfold cancelOffer
  cases s.offers.lookup id with
  | none => rfl
  | some o =>
    dsimp only
    generalize o.roles.ordered.map Sigma.fst = players
    induction players generalizing s with
    | nil => rfl
    | cons player players ih =>
      rw [foldl_cons, ih]
      unfold cancelOne
      dsimp only
      split <;> rfl

theorem release_realm (players : List Nat) (s : LFTManager) : (players.foldl release s).realm = s.realm := by
  induction players generalizing s with
  | nil => rfl
  | cons player players ih => exact ih _

/-- What `CompleteOffer` says, and where it leaves the groups, is what adding the players does. -/
theorem completeOffer_added (ho : s.offers.lookup id = some o) (w : LFTWorld) :
    (completeOffer w s id).1 = (addPlayers w (s.offerLeader o) (listed o) none s).1 ∧
      (completeOffer w s id).2.realm = (addPlayers w (s.offerLeader o) (listed o) none s).2.realm := by
  unfold completeOffer listed
  rw [ho]
  dsimp only
  split
  · rename_i heq
    rw [heq]
    exact ⟨rfl, cancelOffer_realm _ _ _ _ _⟩
  · rename_i heq
    rw [heq]
    exact ⟨rfl, release_realm _ _⟩

theorem listed_nodup (o : Offer) : (listed o).Nodup := Table.ordered_keys_nodup o.roles

/-- Every offer in a state that the finder can get into has a first player. -/
theorem listed_cons {es : List LFTEvent} (ho : (Runs.run LFTManager.step start es).offers.lookup id = some o) :
    ∃ member members, listed o = member :: members := by
  have hcoherent : (run step start es).Coherent :=
    always (I := Coherent) (fun _ e hs => hs.step e) start_coherent es
  have hfive := (hcoherent.sound id o ho).five.2
  have hlength : (listed o).length = o.roles.keys.length := by
    unfold listed AList.keys
    rw [length_map, (Table.perm_ordered o.roles).length_eq]
    exact (length_map _).symm
  exact exists_cons_of_length_eq_add_one (hlength.trans hfive)

/-- `CompleteOffer` succeeds, and the players of the offer are in one group then. -/
def Completes (w : LFTWorld) (s : LFTManager) (id : Nat) (o : Offer) : Prop :=
  (completeOffer w s id).1 = true ∧
    ∃ group g, (completeOffer w s id).2.realm.groups group = some g ∧ ∀ member ∈ listed o, g.isMember member = true

/-- In every state that the finder can get into, an offer completes exactly when its players fit into the group of its leader. -/
theorem offers_complete {es : List LFTEvent} {o : Offer} (ho : (Runs.run LFTManager.step start es).offers.lookup id = some o)
    (w : LFTWorld) : Completes w (Runs.run LFTManager.step start es) id o ↔ Completable w (Runs.run LFTManager.step start es) o := by
  obtain ⟨member, members, hlisted⟩ := listed_cons ho
  have hnodup := listed_nodup o
  generalize run step start es = s at ho ⊢
  obtain ⟨hdone, hrealm⟩ := completeOffer_added ho w
  unfold Completes Completable
  rw [hdone, hrealm]
  rw [hlisted] at hnodup ⊢
  rw [addPlayers_none_iff w hnodup]
  refine ⟨fun h => h.1, fun h => ⟨h, ?_⟩⟩
  obtain ⟨group, g, hopened, hfits⟩ := h
  have hadded := (addPlayers_none_iff w hnodup).2 ⟨group, g, hopened, hfits⟩
  have hmember : s.isInWorld member = true := by
    by_contra hnot
    rw [addPlayers_absent (Bool.eq_false_iff.2 hnot)] at hadded
    cases hadded
  obtain ⟨s', heq, hgroup⟩ := addPlayers_opened hopened hmember w members
  rw [heq] at hadded ⊢
  obtain ⟨g', hg', -, hall⟩ := addPlayers_members ((hgroup.online _).trans hgroup.leads) hgroup.group w (member :: members)
  exact ⟨group, g', hg', hall hadded⟩

def mages : LFTWorld :=
  { warriors with player := fun guid => { warriors.player guid with playerClass := if guid = 1 then .warrior else if guid = 2 then .priest else .mage } }

def fiveAlone : List LFTEvent :=
  [.realm (.enterWorld 1), .realm (.enterWorld 2), .realm (.enterWorld 3), .realm (.enterWorld 4), .realm (.enterWorld 5),
    .queueJoin 1 ["wc"] "t" mages, .rolecheckResponse 1 "t" mages, .queueJoin 2 ["wc"] "h" mages, .rolecheckResponse 2 "h" mages,
    .queueJoin 3 ["wc"] "d" mages, .rolecheckResponse 3 "d" mages, .queueJoin 4 ["wc"] "d" mages, .rolecheckResponse 4 "d" mages,
    .queueJoin 5 ["wc"] "d" mages]

theorem offers_complete_alone :
    ∃ o, (Runs.run LFTManager.step start (fiveAlone ++ [.rolecheckResponse 5 "d" mages])).offers.lookup 1 = some o ∧
      Completes mages (Runs.run LFTManager.step start (fiveAlone ++ [.rolecheckResponse 5 "d" mages])) 1 o := by
  refine ⟨_, rfl, (offers_complete rfl mages).2 ⟨1, _, rfl, ?_⟩⟩
  unfold Fits
  decide

/-- A tank leads a healer, and a damage dealer leads two more; both parties queue for one dungeon. -/
def twoParties : List LFTEvent :=
  [.realm (.enterWorld 1), .realm (.enterWorld 2), .realm (.enterWorld 3), .realm (.enterWorld 4), .realm (.enterWorld 5),
    .realm (.create 0 1 false), .realm (.addMember 1 2), .realm (.create 0 3 false), .realm (.addMember 2 4), .realm (.addMember 2 5),
    .queueJoin 1 ["wc"] "t" mages, .rolecheckResponse 2 "h" mages, .rolecheckResponse 1 "t" mages, .queueJoin 3 ["wc"] "d" mages,
    .rolecheckResponse 4 "d" mages, .rolecheckResponse 5 "d" mages]

/-- The last answer makes an offer to both parties; nobody leaves, four accept, and the fifth accepts last. -/
theorem not_offers_complete : ¬ ∀ (es : List LFTEvent) (guid last id : Nat) (roles : String) (w : LFTWorld) (o o' : Offer),
      let s := run step start (es ++ [.rolecheckResponse guid roles w])
      let s' := run step s (((listed o).filter (· ≠ last)).map fun member => .offerAccept member w)
      (run step start es).offers.lookup id = none → s.offers.lookup id = some o →
        (∀ member ∈ listed o, s.isInWorld member = true) → s'.offers.lookup id = some o' → (o'.accept last).isAccepted = true →
        Completes w { s' with offers := s'.offers.insert id (o'.accept last) } id o' := by
  intro h
  refine absurd (h twoParties 3 5 1 "d" mages _ _ rfl rfl ?_ rfl ?_).1 ?_
  all_goals decide

/-! A failure. -/

/-- The first player of the list who is not there already decides what a failure leaves behind. -/
theorem addPlayers_first (hleader : s.isInWorld leader = true) (hg : s.realm.groups id = some g) (w : LFTWorld) (members : List Nat)
    (hfind : members.find? (fun member => !s.present g member) = some member) :
    ((admits w s id leader member = false ∨ g.freePlaces = 0) →
      (addPlayers w leader members (some id) s).1 = false ∧ (addPlayers w leader members (some id) s).2.realm = s.realm) ∧
    (admits w s id leader member = true → g.freePlaces ≠ 0 → g.isMember member = false ∧
      ∃ g', (addPlayers w leader members (some id) s).2.realm.groups id = some g' ∧ g'.isMember member = true) := by
  induction members generalizing s with
  | nil => cases hfind
  | cons other members ih =>
    have honline := (addPlayerToGroup_same w s (some id) leader other).online leader
    unfold addPlayers
    rcases addPlayerToGroup_cases hleader hg w other with
      ⟨hpresent, s', heq, hrealm⟩ | ⟨hmember, hadmits, hplaces, s', heq, hjoined⟩ | ⟨habsent, hfull, group, s', heq, hrealm⟩
    · rw [find?_cons_of_neg (by simp [hpresent])] at hfind
      rw [heq] at honline ⊢
      have hsame : s'.present g = s.present g ∧ admits w s' id leader member = admits w s id leader member := by
        unfold present admits isInWorld
        rw [hrealm]
        exact ⟨rfl, rfl⟩
      have hrest := ih (s := s') (honline.trans hleader) (hrealm ▸ hg) (by rw [hsame.1]; exact hfind)
      rw [hsame.2, hrealm] at hrest
      exact hrest
    · have habsent : s.present g other = false := by
        unfold present
        rw [hmember, Bool.and_false]
      rw [find?_cons_of_pos (by simp [habsent])] at hfind
      cases hfind
      rw [heq] at honline ⊢
      refine ⟨fun h => ?_, fun _ _ => ⟨hmember, ?_⟩⟩
      · rcases h with h | h
        · rw [hadmits] at h
          cases h
        · omega
      · obtain ⟨g₁, hg₁, hmembers, -⟩ := hjoined.group
        obtain ⟨g', hg', hkept, -⟩ := addPlayers_members (honline.trans hleader) hg₁ w members
        exact ⟨g', hg', (hkept _ (by rw [hmembers]; simp)).1⟩
    · rw [find?_cons_of_pos (by simp [habsent])] at hfind
      cases hfind
      rw [heq]
      exact ⟨fun _ => ⟨rfl, hrealm⟩, fun hadmits hplaces => absurd (hfull hadmits) hplaces⟩

/-- A player is in the same group, and listed in the same groups. -/
structure SameMembership (s s' : LFTManager) (player : Nat) : Prop where
  link : (s'.realm.players player).group.group = (s.realm.players player).group.group
  listed : ∀ id, (s'.realm.groups id).any (fun g => g.isMember player) = (s.realm.groups id).any fun g => g.isMember player

/-- When `CompleteOffer` fails, every player is in the same groups as before. -/
def AllOrNothing (w : LFTWorld) (s : LFTManager) (id : Nat) : Prop :=
  (completeOffer w s id).1 = false → ∀ player, SameMembership s (completeOffer w s id).2 player

/-- Nobody is added and no group is made: there is no group to add to, the first player is not in the world, or the leader's
own group refuses the first player who is not there already. -/
def Refused (w : LFTWorld) (s : LFTManager) (o : Offer) : Prop :=
  ∀ id g, s.openedGroup (s.offerLeader o) = some (id, g) →
    (∃ first, (listed o).head? = some first ∧ s.isInWorld first = false) ∨
      (s.realm.players (s.offerLeader o)).group.group ≠ none ∧
        ∀ member, (listed o).find? (fun member => !s.present g member) = some member →
          admits w s id (s.offerLeader o) member = false ∨ g.freePlaces = 0

theorem allOrNothing_realm (w : LFTWorld) (h : (completeOffer w s id).2.realm = s.realm) : AllOrNothing w s id := by
  intro _ player
  exact ⟨by rw [h], fun _ => by rw [h]⟩

theorem fits_present (h : members.find? (fun member => !s.present g member) = none) : Fits w s id leader g members := by
  have hall : ∀ member ∈ members, s.present g member = true := fun member hmem => by
    have hnot := find?_eq_none.1 h member hmem
    rw [Bool.not_eq_true, Bool.not_eq_false'] at hnot
    exact hnot
  refine ⟨fun member hmem => .inl (hall member hmem), ?_⟩
  rw [countP_eq_zero.2 fun member hmem => ?_]
  · exact zero_le _
  have hpresent := hall member hmem
  unfold present at hpresent
  rw [Bool.and_eq_true] at hpresent
  simp [hpresent.2]

/-- Once there is a first player in the world and a group, only the leader's own group can refuse. -/
theorem refused_iff (hlisted : listed o = member :: members) (hmember : s.isInWorld member = true)
    (hopened : s.openedGroup (s.offerLeader o) = some (id, g)) :
    Refused w s o ↔ (s.realm.players (s.offerLeader o)).group.group ≠ none ∧
      ∀ x, (listed o).find? (fun member => !s.present g member) = some x →
        admits w s id (s.offerLeader o) x = false ∨ g.freePlaces = 0 := by
  constructor
  · intro h
    refine (h id g hopened).resolve_left ?_
    rintro ⟨first, hhead, habsent⟩
    rw [hlisted] at hhead
    cases hhead
    rw [hmember] at habsent
    cases habsent
  · intro h id' g' hopened'
    rw [hopened] at hopened'
    cases hopened'
    exact .inr h

theorem changed_listed {player : Nat} (hg : s.realm.groups id = some g) (hg' : s'.realm.groups id = some g')
    (hnew : g.isMember player = false) (hadded : g'.isMember player = true) : ¬ SameMembership s s' player := by
  intro h
  have hsame := h.listed id
  rw [hg', hg, any_some, any_some, hadded, hnew] at hsame
  cases hsame

section

variable (hlisted : listed o = member :: members) (ho : s.offers.lookup id = some o)
  (hgroup : Opened (s.offerLeader o) group g s s₁)
include hlisted ho hgroup

/-- With a group of the leader's own that does not refuse its first new player, that player is in it afterwards. -/
theorem own_group_changes (hsame : s₁.realm = s.realm)
    (heq : addPlayers w (s.offerLeader o) (member :: members) none s = addPlayers w (s.offerLeader o) (member :: members) (some group) s₁) (hfind : (listed o).find? (fun member => !s.present g member) = some x) :
    ((admits w s group (s.offerLeader o) x = false ∨ g.freePlaces = 0) → (completeOffer w s id).2.realm = s.realm) ∧
    (¬(admits w s group (s.offerLeader o) x = false ∨ g.freePlaces = 0) → ¬ SameMembership s (completeOffer w s id).2 x) := by
  have hleader := (hgroup.online _).trans hgroup.leads
  have hpresent : s₁.present g = s.present g ∧ admits w s₁ group (s.offerLeader o) x = admits w s group (s.offerLeader o) x := by
    unfold present admits isInWorld
    rw [hsame]
    exact ⟨rfl, rfl⟩
  have hrealm := (completeOffer_added ho w).2
  rw [hlisted, heq] at hrealm
  rw [← hpresent.1, hlisted] at hfind
  have hfirst := addPlayers_first hleader hgroup.group w (member :: members) hfind
  rw [hpresent.2, ← hrealm, hsame] at hfirst
  refine ⟨fun hrefused => (hfirst.1 hrefused).2, fun hadmitted => ?_⟩
  rw [not_or, Bool.not_eq_false] at hadmitted
  obtain ⟨hnew, g', hg', hadded⟩ := hfirst.2 hadmitted.1 hadmitted.2
  exact changed_listed (hsame ▸ hgroup.group) hg' hnew hadded

theorem new_group_changes (hlink : (s.realm.players (s.offerLeader o)).group.group = none)
    (heq : addPlayers w (s.offerLeader o) (member :: members) none s = addPlayers w (s.offerLeader o) (member :: members) (some group) s₁) :
    ¬ SameMembership s (completeOffer w s id).2 (s.offerLeader o) := by
  intro h
  have hrealm := (completeOffer_added ho w).2
  rw [hlisted, heq] at hrealm
  have hleader := (hgroup.online _).trans hgroup.leads
  obtain ⟨_, _, hkept, _⟩ := addPlayers_members hleader hgroup.group w (member :: members)
  rcases hgroup.kept with ⟨hown, -⟩ | ⟨-, hled, hjoined, -⟩
  · rw [hlink] at hown
    cases hown
  · have hsame := h.link
    rw [hrealm, (hkept _ hled).2, hjoined, hlink] at hsame
    cases hsame

end

/-- In every state that the finder can get into, completing an offer is all or nothing exactly when it completes, or when by the
time of the failure nobody had been added and no group made. -/
theorem completion_all_or_nothing {es : List LFTEvent} {o : Offer} (ho :
    (Runs.run LFTManager.step start es).offers.lookup id = some o)
    (w : LFTWorld) :
    AllOrNothing w (Runs.run LFTManager.step start es) id ↔
      Completable w (Runs.run LFTManager.step start es) o ∨ Refused w (Runs.run LFTManager.step start es) o := by
  obtain ⟨member, members, hlisted⟩ := listed_cons ho
  have hnodup := listed_nodup o
  generalize run step start es = s at ho ⊢
  obtain ⟨hdone, hrealm⟩ := completeOffer_added ho w
  have hiff : (completeOffer w s id).1 = true ↔ Completable w s o := by
    unfold Completable
    rw [hlisted] at hnodup hdone ⊢
    rw [hdone]
    exact addPlayers_none_iff w hnodup
  have hcomplete : Completable w s o → AllOrNothing w s id := fun h hfailed => by
    rw [hiff.2 h] at hfailed
    cases hfailed
  have hfails : ¬ Completable w s o → (completeOffer w s id).1 = false := fun h => Bool.eq_false_iff.2 fun hdone => h (hiff.1 hdone)
  rw [hlisted] at hrealm
  cases hopened : s.openedGroup (s.offerLeader o) with
  | none =>
    obtain ⟨s₁, heq, hsame⟩ := addPlayers_none hopened w member members
    rw [heq] at hrealm
    refine ⟨fun _ => .inr fun id g h => ?_, fun _ => allOrNothing_realm w (hrealm.trans hsame)⟩
    rw [hopened] at h
    cases h
  | some opened =>
    obtain ⟨group, g⟩ := opened
    by_cases hmember : s.isInWorld member = true
    case neg =>
      rw [Bool.not_eq_true] at hmember
      rw [addPlayers_absent hmember] at hrealm
      refine ⟨fun _ => .inr fun _ _ _ => .inl ⟨member, ?_, hmember⟩, fun _ => allOrNothing_realm w hrealm⟩
      rw [hlisted]
      rfl
    obtain ⟨s₁, heq, hgroup⟩ := addPlayers_opened hopened hmember w members
    rw [refused_iff hlisted hmember hopened]
    rcases hgroup.kept with ⟨hlink, hsame⟩ | ⟨hlink, -⟩
    · rw [hlink]
      cases hfind : (listed o).find? (fun member => !s.present g member) with
      | none =>
        have hfits : Completable w s o := ⟨group, g, hopened, fits_present hfind⟩
        exact ⟨fun _ => .inl hfits, fun _ => hcomplete hfits⟩
      | some x =>
        obtain ⟨hrefused, hadmitted⟩ := own_group_changes hlisted ho hgroup hsame heq hfind
        constructor
        · intro h
          by_cases hfits : Completable w s o
          · exact .inl hfits
          refine .inr ⟨some_ne_none group, fun y hy => ?_⟩
          cases hy
          by_contra hnot
          exact hadmitted hnot (h (hfails hfits) x)
        · rintro (h | ⟨-, h⟩)
          · exact hcomplete h
          · exact allOrNothing_realm w (hrefused (h x rfl))
    · constructor
      · intro h
        by_contra hnot
        exact new_group_changes hlisted ho hgroup hlink heq (h (hfails fun hfits => hnot (.inl hfits)) _)
      · rintro (h | ⟨h, -⟩)
        · exact hcomplete h
        · exact absurd hlink h

theorem completion_all_or_nothing_alone :
    ∃ o, (Runs.run LFTManager.step start (fiveAlone ++ [.rolecheckResponse 5 "d" mages])).offers.lookup 1 = some o ∧
      AllOrNothing mages (Runs.run LFTManager.step start (fiveAlone ++ [.rolecheckResponse 5 "d" mages])) 1 := by
  refine ⟨_, rfl, (completion_all_or_nothing rfl mages).2 (.inl ⟨1, _, rfl, ?_⟩)⟩
  unfold Fits
  decide

/-- One of the five leaves the world after the offer was made: the four before are in a new group. -/
theorem not_completion_all_or_nothing : ¬ AllOrNothing mages (Runs.run LFTManager.step start
      (fiveAlone ++ [.rolecheckResponse 5 "d" mages, .realm (.leaveWorld 5)])) 1 := by
  intro h
  have hlink := (h (by decide) 2).link
  revert hlink
  decide

end LFTManager

end ComfyCraft
