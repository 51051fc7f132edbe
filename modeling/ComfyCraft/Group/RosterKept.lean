import ComfyCraft.Lib.Runs
import ComfyCraft.Group.Roster
import Mathlib.Data.List.Nodup

/-! What every group keeps: nobody is listed twice, the leader is listed, the group and its subgroups have room for
those that are in them, and each counter is the number of members in its subgroup. -/

namespace ComfyCraft

open List Function UInt8 Nat MemberSlot Group

namespace Group

/-- The counters stand for these numbers. -/
def CountsAre (counts : Nat → UInt8) (numbers : Nat → Nat) : Prop := ∀ subGroup, (counts subGroup).toNat = numbers subGroup

/-- All but the leader. -/
structure Sound (g : Group) : Prop where
  listed : (g.slots.map MemberSlot.guid).Nodup
  size : g.slots.length ≤ if g.raid then 40 else 5
  subGroups : ∀ s ∈ g.slots, s.group < 8
  room : ∀ subGroup, inSubGroup g.slots subGroup ≤ 5
  counted : ∀ counts, g.subGroupsCounts = some counts → CountsAre counts (inSubGroup g.slots)
  raided : g.raid = g.subGroupsCounts.isSome
  tanks : g.mainTank = g.mainAssistant → g.mainTank = 0

structure Kept (g : Group) : Prop extends Sound g where
  leader : ∃ s ∈ g.slots, s.guid = g.leader

variable {g : Group}

/-! The slots. -/

variable {guid subGroup : Nat} {s : MemberSlot} {slots : List MemberSlot}

theorem slot_some (h : g.slot guid = some s) : s ∈ g.slots ∧ s.guid = guid := by
  have hguid := find?_some h
  exact ⟨mem_of_find?_eq_some h, of_decide_eq_true hguid⟩

theorem isMember_iff : g.isMember guid = true ↔ ∃ s ∈ g.slots, s.guid = guid := by
  unfold isMember slot
  rw [find?_isSome]
  simp

theorem memberGroup_some (h : g.memberGroup guid < 8) : ∃ s ∈ g.slots, s.guid = guid ∧ g.memberGroup guid = s.group := by
  unfold memberGroup at h ⊢
  cases hs : g.slot guid with
  | none =>
    rw [hs] at h
    exact absurd h (by decide)
  | some s => exact ⟨s, (slot_some hs).1, (slot_some hs).2, rfl⟩

theorem inSubGroup_le_length (slots : List MemberSlot) (subGroup : Nat) : inSubGroup slots subGroup ≤ slots.length :=
  countP_le_length

theorem inSubGroup_cons (s : MemberSlot) (slots : List MemberSlot) (subGroup : Nat) :
    inSubGroup (s :: slots) subGroup = inSubGroup slots subGroup + if subGroup = s.group then 1 else 0 := by
  unfold inSubGroup
  rw [countP_cons]
  simp [eq_comm]

theorem inSubGroup_append (slots : List MemberSlot) (s : MemberSlot) (subGroup : Nat) :
    inSubGroup (slots ++ [s]) subGroup = inSubGroup slots subGroup + if subGroup = s.group then 1 else 0 := by
  unfold inSubGroup
  rw [countP_append, countP_singleton]
  simp [eq_comm]

theorem inSubGroup_pos (h : s ∈ slots) : 0 < inSubGroup slots s.group :=
  countP_pos_iff.2 ⟨s, h, by simp⟩

theorem setSlotGroup_guids (guid subGroup : Nat) (slots : List MemberSlot) :
    (setSlotGroup guid subGroup slots).map MemberSlot.guid = slots.map MemberSlot.guid := by
  unfold setSlotGroup
  rw [map_map]
  refine map_congr_left fun s _ => ?_
  change (if s.guid = guid then { s with group := subGroup } else s).guid = s.guid
  split_ifs <;> rfl

theorem setSlotGroup_of_not_mem (subGroup : Nat) (h : ∀ s ∈ slots, s.guid ≠ guid) :
    setSlotGroup guid subGroup slots = slots := by
  induction slots with
  | nil => rfl
  | cons s slots ih =>
    have ih := ih fun t ht => h t (mem_cons_of_mem s ht)
    unfold setSlotGroup at ih ⊢
    rw [map_cons, if_neg (h s mem_cons_self), ih]

theorem inSubGroup_setSlotGroup (hlisted : (slots.map MemberSlot.guid).Nodup) (hs : s ∈ slots) (dest subGroup : Nat) :
    inSubGroup (setSlotGroup s.guid dest slots) subGroup + (if subGroup = s.group then 1 else 0) =
      inSubGroup slots subGroup + if subGroup = dest then 1 else 0 := by
  induction slots with
  | nil => exact (not_mem_nil hs).elim
  | cons t slots ih =>
    rw [map_cons, nodup_cons] at hlisted
    obtain ⟨hnew, hlisted⟩ := hlisted
    have hcons : setSlotGroup s.guid dest (t :: slots) =
        (if t.guid = s.guid then { t with group := dest } else t) :: setSlotGroup s.guid dest slots := rfl
    rw [hcons, inSubGroup_cons, inSubGroup_cons]
    rcases mem_cons.1 hs with rfl | hs
    · rw [if_pos rfl, setSlotGroup_of_not_mem dest fun u hu heq => hnew (mem_map.2 ⟨u, hu, heq⟩)]
      dsimp only
      omega
    · have hne : t.guid ≠ s.guid := fun heq => hnew (heq ▸ mem_map_of_mem hs)
      have := ih hlisted hs
      rw [if_neg hne]
      omega

theorem mem_setSlotGroup {dest : Nat} {t : MemberSlot} (h : t ∈ setSlotGroup guid dest slots) :
    ∃ s ∈ slots, s.guid = t.guid ∧ (t.group = s.group ∨ t.group = dest) := by
  obtain ⟨s, hs, rfl⟩ := mem_map.1 h
  refine ⟨s, hs, ?_⟩
  split_ifs
  · exact ⟨rfl, .inr rfl⟩
  · exact ⟨rfl, .inl rfl⟩

theorem inSubGroup_eraseP (hlisted : (slots.map MemberSlot.guid).Nodup) (hs : s ∈ slots) (subGroup : Nat) :
    inSubGroup (slots.eraseP fun t => t.guid = s.guid) subGroup + (if subGroup = s.group then 1 else 0) = inSubGroup slots subGroup := by
  induction slots with
  | nil => exact (not_mem_nil hs).elim
  | cons t slots ih =>
    rw [map_cons, nodup_cons] at hlisted
    obtain ⟨hnew, hlisted⟩ := hlisted
    rcases mem_cons.1 hs with rfl | hs
    · rw [eraseP_cons_of_pos (by simp), inSubGroup_cons]
    have hne : t.guid ≠ s.guid := fun heq => hnew (heq ▸ mem_map_of_mem hs)
    have := ih hlisted hs
    rw [eraseP_cons_of_neg (by simpa using hne), inSubGroup_cons, inSubGroup_cons]
    omega

/-! The counters. -/

variable {counts : Nat → UInt8} {numbers : Nat → Nat}

section

variable (h : CountsAre counts numbers)
include h

theorem CountsAre.increase (hlt : numbers subGroup < 255) :
    CountsAre (Function.update counts subGroup (counts subGroup + 1)) fun other => numbers other + if other = subGroup then 1 else 0 := by
  intro other
  dsimp only
  by_cases heq : other = subGroup
  · rw [heq, update_self, UInt8.toNat_add, UInt8.toNat_one, h subGroup, if_pos rfl]
    omega
  · rw [update_of_ne heq, if_neg heq]
    exact h other

theorem CountsAre.decrease (hpos : 0 < numbers subGroup) :
    CountsAre (Function.update counts subGroup (counts subGroup - 1)) fun other => numbers other - if other = subGroup then 1 else 0 := by
  have hle : (1 : UInt8) ≤ counts subGroup := le_iff_toNat_le.2 (by rw [h subGroup]; exact hpos)
  intro other
  dsimp only
  by_cases heq : other = subGroup
  · rw [heq, update_self, UInt8.toNat_sub_of_le _ _ hle, UInt8.toNat_one, h subGroup, if_pos rfl]
  · rw [update_of_ne heq, if_neg heq]
    exact h other

theorem CountsAre.congr {numbers' : Nat → Nat} (heq : ∀ subGroup, numbers subGroup = numbers' subGroup) :
    CountsAre counts numbers' := fun subGroup => (h subGroup).trans (heq subGroup)

end

theorem CountsAre.count_all (slots : List MemberSlot) (h : CountsAre counts numbers)
    (hlt : ∀ subGroup, numbers subGroup + slots.length < 255) :
    CountsAre (slots.foldl (fun counts s => Function.update counts s.group (counts s.group + 1)) counts)
      fun subGroup => numbers subGroup + inSubGroup slots subGroup := by
  induction slots generalizing counts numbers with
  | nil => exact h.congr fun _ => rfl
  | cons s slots ih =>
    rw [foldl_cons]
    have hs := hlt s.group
    rw [length_cons] at hs
    refine (ih (h.increase (by omega)) fun subGroup => ?_).congr fun subGroup => ?_
    · have := hlt subGroup
      rw [length_cons] at this
      split_ifs <;> omega
    · rw [inSubGroup_cons]
      omega

theorem Sound.size_le (h : g.Sound) : g.slots.length ≤ 40 := by
  have := h.size
  split_ifs at this <;> omega

/-! The operations. -/

section

variable (h : g.Sound)
include h

theorem Sound.initRaidSubGroupsCounter : ({ g with raid := true } : Group).initRaidSubGroupsCounter.Sound where
  listed := h.listed
  size := h.size_le
  subGroups := h.subGroups
  room := h.room
  counted counts hcounts := by
    have hnone : CountsAre (fun _ => 0) fun _ => 0 := fun _ => rfl
    have hall := hnone.count_all g.slots fun _ => by have := h.size_le; omega
    cases hcounts
    exact hall.congr fun _ => Nat.zero_add _
  raided := rfl
  tanks := h.tanks

theorem Sound.addSlot (hopen : g.openSubGroup = some subGroup) (hnew : g.isMember guid = false)
    (hfull : g.isFull = false) : (g.addSlot guid subGroup).Sound := by
  have hroom : subGroup < 8 ∧ inSubGroup g.slots subGroup < 5 := by
    unfold openSubGroup at hopen
    cases hcounts : g.subGroupsCounts with
    | none =>
      rw [hcounts] at hopen
      cases hopen
      have hraid : g.raid = false := by rw [h.raided, hcounts]; rfl
      have hle := inSubGroup_le_length g.slots 0
      unfold isFull at hfull
      simp only [hraid] at hfull
      have := of_decide_eq_false hfull
      omega
    | some counts =>
      rw [hcounts] at hopen
      have hopened := find?_some hopen
      have hlt := of_decide_eq_true hopened
      have hnumber := h.counted counts hcounts subGroup
      rw [lt_iff_toNat_lt, hnumber] at hlt
      exact ⟨mem_range.1 (mem_of_find?_eq_some hopen), hlt⟩
  refine ⟨?_, ?_, ?_, ?_, ?_, ?_, h.tanks⟩
  · change ((g.slots ++ [(⟨guid, subGroup, false⟩ : MemberSlot)]).map MemberSlot.guid).Nodup
    rw [map_append, nodup_append]
    refine ⟨h.listed, nodup_singleton guid, fun a ha b hb => ?_⟩
    obtain ⟨s, hs, rfl⟩ := mem_map.1 ha
    rw [mem_singleton.1 hb]
    intro heq
    rw [isMember_iff.2 ⟨s, hs, heq⟩] at hnew
    cases hnew
  · change (g.slots ++ [(⟨guid, subGroup, false⟩ : MemberSlot)]).length ≤ if g.raid then 40 else 5
    rw [length_append]
    unfold isFull at hfull
    split_ifs at hfull ⊢ <;> exact Nat.lt_of_not_le (of_decide_eq_false hfull)
  · intro s hs
    rcases mem_append.1 hs with hs | hs
    · exact h.subGroups s hs
    · rw [mem_singleton.1 hs]
      exact hroom.1
  · intro other
    change inSubGroup (g.slots ++ [⟨guid, subGroup, false⟩]) other ≤ 5
    have := h.room other
    rw [inSubGroup_append]
    dsimp only
    split_ifs with heq
    · rw [heq]
      omega
    · omega
  · intro counts' hcounts'
    obtain ⟨counts, hcounts, rfl⟩ := Option.map_eq_some_iff.1 hcounts'
    refine ((h.counted counts hcounts).increase (by omega)).congr fun other => ?_
    exact (inSubGroup_append g.slots ⟨guid, subGroup, false⟩ other).symm
  · exact h.raided.trans Option.isSome_map.symm

/-- A member who is moved takes a place in one counter for that in the other. -/
theorem Sound.setMembersGroup (hmember : g.memberGroup guid < 8) (hsub : subGroup < 8)
    (hne : g.memberGroup guid ≠ subGroup) (hroom : inSubGroup g.slots subGroup < 5) :
    ((g.setMembersGroup guid subGroup).counterDecrease (g.memberGroup guid)).Sound := by
  obtain ⟨s, hs, rfl, hgroup⟩ := memberGroup_some hmember
  rw [hgroup] at hne ⊢
  have hmove := inSubGroup_setSlotGroup h.listed hs subGroup
  have hpos := inSubGroup_pos hs
  refine ⟨?_, ?_, ?_, ?_, ?_, ?_, h.tanks⟩
  · change ((setSlotGroup s.guid subGroup g.slots).map guid).Nodup
    rw [setSlotGroup_guids]
    exact h.listed
  · change (setSlotGroup s.guid subGroup g.slots).length ≤ _
    unfold setSlotGroup
    rw [length_map]
    exact h.size
  · intro t ht
    obtain ⟨u, hu, -, heq | heq⟩ := mem_setSlotGroup ht
    · rw [heq]
      exact h.subGroups u hu
    · rw [heq]
      exact hsub
  · intro other
    change inSubGroup (setSlotGroup s.guid subGroup g.slots) other ≤ 5
    have hother := hmove other
    have := h.room other
    by_cases heq : other = subGroup
    · rw [heq, if_pos rfl] at hother
      rw [heq]
      omega
    · rw [if_neg heq] at hother
      omega
  · intro counts' hcounts'
    obtain ⟨counts₁, hcounts₁, rfl⟩ := Option.map_eq_some_iff.1 hcounts'
    obtain ⟨counts, hcounts, rfl⟩ := Option.map_eq_some_iff.1 hcounts₁
    have hmore := (h.counted counts hcounts).increase (by omega : inSubGroup g.slots subGroup < 255)
    refine (hmore.decrease (by omega : 0 < inSubGroup g.slots s.group + _)).congr fun other => ?_
    have := hmove other
    change _ = inSubGroup (setSlotGroup s.guid subGroup g.slots) other
    omega
  · exact h.raided.trans (Option.isSome_map.symm.trans Option.isSome_map.symm)

/-- Two members who change places leave the counters as they are. -/
theorem Sound.swapMembersGroup {swapGuid : Nat} (hmember : g.memberGroup guid < 8)
    (hswap : g.memberGroup swapGuid < 8) (hne : g.memberGroup guid ≠ g.memberGroup swapGuid) :
    (g.swapMembersGroup guid swapGuid).Sound := by
  have hguids : guid ≠ swapGuid := fun heq => hne (by rw [heq])
  obtain ⟨s, hs, rfl, hgroup⟩ := memberGroup_some hmember
  obtain ⟨t, ht, rfl, hgroup'⟩ := memberGroup_some hswap
  have hs' : s ∈ setSlotGroup t.guid s.group g.slots := mem_map.2 ⟨s, hs, if_neg hguids⟩
  have hlisted : ((setSlotGroup t.guid s.group g.slots).map guid).Nodup := by
    rw [setSlotGroup_guids]
    exact h.listed
  have hsame : ∀ other, inSubGroup (setSlotGroup s.guid t.group (setSlotGroup t.guid s.group g.slots)) other =
      inSubGroup g.slots other := by
    intro other
    have h1 := inSubGroup_setSlotGroup h.listed ht s.group other
    have h2 := inSubGroup_setSlotGroup hlisted hs' t.group other
    omega
  unfold swapMembersGroup
  rw [hgroup, hgroup']
  refine ⟨?_, ?_, ?_, fun other => ?_, fun counts hcounts => ?_, h.raided, h.tanks⟩
  · rw [setSlotGroup_guids]
    exact hlisted
  · unfold setSlotGroup
    rw [length_map, length_map]
    exact h.size
  · intro u hu
    obtain ⟨v, hv, -, heq | heq⟩ := mem_setSlotGroup hu
    · obtain ⟨x, hx, -, heq' | heq'⟩ := mem_setSlotGroup hv
      · rw [heq, heq']
        exact h.subGroups x hx
      · rw [heq, heq']
        exact h.subGroups s hs
    · rw [heq]
      exact h.subGroups t ht
  · rw [hsame]
    exact h.room other
  · exact (h.counted counts hcounts).congr fun other => (hsame other).symm

theorem Sound.eraseSlot (hs : s ∈ g.slots) :
    (({ g with slots := g.slots.eraseP fun t => t.guid = s.guid } : Group).counterDecrease s.group).Sound := by
  have herase := inSubGroup_eraseP h.listed hs
  have hsub : (g.slots.eraseP fun t => t.guid = s.guid).Sublist g.slots := eraseP_sublist
  refine ⟨h.listed.sublist (hsub.map _), le_trans hsub.length_le h.size, fun t ht => h.subGroups t (hsub.subset ht), fun other => ?_,
    ?_, ?_, h.tanks⟩
  · exact le_trans hsub.countP_le (h.room other)
  · intro counts' hcounts'
    obtain ⟨counts, hcounts, rfl⟩ := Option.map_eq_some_iff.1 hcounts'
    refine ((h.counted counts hcounts).decrease (inSubGroup_pos hs)).congr fun other => ?_
    have := herase other
    change _ = inSubGroup (g.slots.eraseP fun t => t.guid = s.guid) other
    omega
  · exact h.raided.trans Option.isSome_map.symm

theorem Sound.setMainTank (guid : Nat) : (g.setMainTank guid).Sound := by
  unfold Group.setMainTank
  split_ifs with hsame hmember hother
  · exact h
  · exact h
  · exact ⟨h.listed, h.size, h.subGroups, h.room, h.counted, h.raided, fun heq => heq⟩
  refine ⟨h.listed, h.size, h.subGroups, h.room, h.counted, h.raided, fun heq => ?_⟩
  by_contra hne
  exact hother ⟨hne, heq.symm⟩

theorem Sound.setMainAssistant (guid : Nat) : (g.setMainAssistant guid).Sound := by
  unfold Group.setMainAssistant
  split_ifs with hsame hmember hother
  · exact h
  · exact h
  · exact ⟨h.listed, h.size, h.subGroups, h.room, h.counted, h.raided, fun _ => rfl⟩
  refine ⟨h.listed, h.size, h.subGroups, h.room, h.counted, h.raided, fun heq => ?_⟩
  by_contra hne
  refine hother ⟨fun hzero => hne ?_, heq⟩
  exact heq.trans hzero

end

theorem setMainTank_leader (h : g.Kept) (guid : Nat) : ∃ s ∈ (g.setMainTank guid).slots, s.guid = (g.setMainTank guid).leader := by
  unfold setMainTank
  split_ifs <;> exact h.leader

theorem setMainAssistant_leader (h : g.Kept) (guid : Nat) :
    ∃ s ∈ (g.setMainAssistant guid).slots, s.guid = (g.setMainAssistant guid).leader := by
  unfold setMainAssistant
  split_ifs <;> exact h.leader

/-! The leader. -/

theorem Kept.setLeader (h : g.Kept) (guid : Nat) : (g.setLeader guid).Kept := by
  unfold Group.setLeader
  split_ifs with hmember
  · exact ⟨⟨h.listed, h.size, h.subGroups, h.room, h.counted, h.raided, h.tanks⟩, isMember_iff.1 hmember⟩
  · exact h

/-- Whoever is listed can be made the leader. -/
theorem Sound.setLeader (h : g.Sound) (hs : s ∈ g.slots) : (g.setLeader s.guid).Kept := by
  unfold Group.setLeader
  rw [if_pos (isMember_iff.2 ⟨s, hs, rfl⟩)]
  exact ⟨⟨h.listed, h.size, h.subGroups, h.room, h.counted, h.raided, h.tanks⟩, ⟨s, hs, rfl⟩⟩

theorem chosen_mem {id : Nat} {players : Nat → PlayerGroups} (h : g.chosen id players = some guid) :
    ∃ s ∈ g.slots, s.guid = guid := by
  unfold chosen at h
  dsimp only at h
  split at h
  · rename_i s hs
    cases h
    exact ⟨s, (mem_filter.1 (mem_of_find?_eq_some hs)).1, rfl⟩
  · obtain ⟨s, hs, rfl⟩ := Option.map_eq_some_iff.1 h
    exact ⟨s, (mem_filter.1 (mem_of_mem_head? hs)).1, rfl⟩

/-- When the old leader is gone, somebody of those who are left leads. -/
theorem Sound.chooseLeader (h : g.Sound) (id : Nat) (players : Nat → PlayerGroups) (hmin : g.membersMinCount ≤ g.slots.length)
    (hpos : 0 < g.slots.length) : (g.chooseLeader id players false).Kept := by
  unfold Group.chooseLeader
  rw [if_neg (not_lt.2 hmin)]
  cases hchosen : g.chosen id players with
  | some guid =>
    obtain ⟨s, hs, rfl⟩ := chosen_mem hchosen
    exact h.setLeader hs
  | none =>
    cases hhead : g.slots.head? with
    | none =>
      rw [head?_eq_none_iff] at hhead
      rw [hhead] at hpos
      exact absurd hpos (lt_irrefl 0)
    | some s =>
      have hs : s ∈ g.slots := mem_of_mem_head? hhead
      simpa using h.setLeader hs

theorem Kept.leaderInactive (h : g.Kept) (id : Nat) (players : Nat → PlayerGroups) : (g.chooseLeader id players true).Kept := by
  unfold chooseLeader
  split
  · exact h
  · cases g.chosen id players with
    | some guid => exact h.setLeader guid
    | none => exact h

theorem Kept.removeMember (h : g.Kept) (id : Nat) (players : Nat → PlayerGroups) (guid : Nat)
    (hmin : g.membersMinCount < g.slots.length) : (g.removeMember id players guid).Kept := by
  unfold Group.removeMember
  cases hslot : g.slot guid with
  | none =>
    -- the leader is listed, so somebody who is not is not the leader
    have hne : g.leader ≠ guid := by
      rintro rfl
      have := isMember_iff.2 h.leader
      unfold isMember at this
      rw [hslot] at this
      cases this
    rw [if_neg hne]
    exact h
  | some s =>
    obtain ⟨hs, rfl⟩ := slot_some hslot
    have hsound := h.toSound.eraseSlot hs
    have hlength : (g.slots.eraseP fun t => t.guid = s.guid).length + 1 = g.slots.length := by
      rw [length_eraseP_of_mem hs (by simp)]
      have := length_pos_of_mem hs
      omega
    dsimp only
    split_ifs with hleader
    · refine hsound.chooseLeader id players ?_ ?_
      · change g.membersMinCount ≤ (g.slots.eraseP fun t => t.guid = s.guid).length
        omega
      · change 0 < (g.slots.eraseP fun t => t.guid = s.guid).length
        have : 0 < g.membersMinCount := by unfold membersMinCount; split_ifs <;> decide
        omega
    · obtain ⟨t, ht, htl⟩ := h.leader
      refine ⟨hsound, t, ?_, htl⟩
      have hne : t.guid ≠ s.guid := fun heq => hleader (htl.symm.trans heq)
      exact (mem_eraseP_of_neg (by simpa using hne)).2 ht

end Group

namespace GroupRealm

/-- Every group there is. -/
def Kept (w : GroupRealm) : Prop := ∀ id g, w.groups id = some g → g.Kept

/-- The original subgroup of a player who is moved while in the world with another group is the one of the slot. -/
def Synced (w : GroupRealm) : GroupEvent → Prop
  | .changeMembersGroup id guid subGroup =>
    ∀ g ∈ w.groups id, (w.players guid).inWorld → (w.players guid).group.group ≠ some id →
      g.raid → subGroup < 8 → g.memberGroup guid < 8 → g.memberGroup guid ≠ subGroup →
      (w.players guid).originalGroup.subGroup = g.memberGroup guid
  | _ => True

instance (w : GroupRealm) (e : GroupEvent) : Decidable (w.Synced e) := by
  cases e <;> unfold Synced <;> infer_instance

variable {w : GroupRealm}

@[simp] theorem groups_tell (w : GroupRealm) (guid : Nat) (f : PlayerGroups → PlayerGroups) :
    (w.tell guid f).groups = w.groups := by
  unfold tell
  split_ifs <;> rfl

theorem Kept.of_groups (h : w.Kept) {w' : GroupRealm} (hgroups : w'.groups = w.groups) : w'.Kept := by
  intro id g hg
  rw [hgroups] at hg
  exact h id g hg

variable {g : Group} {id : Nat}

theorem Kept.setGroup (h : w.Kept) (id : Nat) (hg : g.Kept) : (w.setGroup id g).Kept := by
  intro other g' hg'
  change update w.groups id (some g) other = some g' at hg'
  by_cases heq : other = id
  · rw [heq, update_self] at hg'
    cases hg'
    exact hg
  · rw [update_of_ne heq] at hg'
    exact h other g' hg'

theorem Kept.tell (h : w.Kept) (guid : Nat) (f : PlayerGroups → PlayerGroups) : (w.tell guid f).Kept :=
  h.of_groups (groups_tell w guid f)

theorem Kept.onGroup (h : w.Kept) (id : Nat) {f : Group → Group} (hf : ∀ g, g.Kept → (f g).Kept) : (w.onGroup id f).Kept := by
  unfold GroupRealm.onGroup
  cases hg : w.groups id with
  | none => exact h
  | some g => exact h.setGroup id (hf g (h id g hg))

theorem addMember_sound (guid : Nat) (hg : w.groups id = some g) (h : g.Sound) :
    ∃ g', (w.addMember id guid).2.groups = Function.update w.groups id (some g') ∧ g'.Sound ∧ g'.leader = g.leader ∧
      (∀ s ∈ g.slots, s ∈ g'.slots) ∧ ((w.addMember id guid).1 = true → ∃ s ∈ g'.slots, s.guid = guid) := by
  have hsame : w.groups = update w.groups id (some g) := by rw [← hg, update_eq_self]
  have hkept : ∀ w' : GroupRealm, w'.groups = w.groups →
      w'.groups = update w.groups id (some g) := fun w' hw' => hw'.trans hsame
  unfold addMember
  rw [hg]
  dsimp only
  cases hopen : g.openSubGroup with
  | none => exact ⟨g, hsame, h, rfl, fun s hs => hs, fun hf => by cases hf⟩
  | some subGroup =>
    split_ifs with hzero hmember hfull
    · exact ⟨g, hsame, h, rfl, fun s hs => hs, fun hf => by cases hf⟩
    · exact ⟨g, hkept _ (groups_tell _ _ _), h, rfl, fun s hs => hs, fun _ => isMember_iff.1 hmember⟩
    · exact ⟨g, hsame, h, rfl, fun s hs => hs, fun hf => by cases hf⟩
    refine ⟨g.addSlot guid subGroup, groups_tell _ _ _, ?_, rfl, fun s hs => mem_append_left _ hs, fun _ => ?_⟩
    · exact h.addSlot hopen (Bool.eq_false_iff.2 hmember) (Bool.eq_false_iff.2 hfull)
    · exact ⟨⟨guid, subGroup, false⟩, mem_append_right _ mem_cons_self, rfl⟩

theorem Kept.addMember (h : w.Kept) (id guid : Nat) : (w.addMember id guid).2.Kept := by
  cases hg : w.groups id with
  | none =>
    unfold GroupRealm.addMember
    rw [hg]
    exact h
  | some g =>
    have hkept := h id g hg
    obtain ⟨g', hgroups, hsound, hleader, hslots, -⟩ := addMember_sound guid hg hkept.toSound
    obtain ⟨s, hs, hsl⟩ := hkept.leader
    exact (h.setGroup id (⟨hsound, s, hslots s hs, hsl.trans hleader.symm⟩ : g'.Kept)).of_groups hgroups

/-- The group that `Create` starts from. -/
theorem empty_sound (guid : Nat) (battleground : Bool) :
    (if battleground then (⟨battleground, battleground, [], none, guid, 0, 0⟩ : Group).initRaidSubGroupsCounter
      else ⟨battleground, battleground, [], none, guid, 0, 0⟩).Sound := by
  cases battleground with
  | true =>
    refine ⟨nodup_nil, zero_le _, fun s hs => (not_mem_nil hs).elim, fun _ => zero_le _, fun counts hcounts => ?_,
      rfl, fun _ => rfl⟩
    cases hcounts
    exact fun _ => rfl
  | false =>
    refine ⟨nodup_nil, zero_le _, fun s hs => (not_mem_nil hs).elim, fun _ => zero_le _, fun counts hcounts => ?_,
      rfl, fun _ => rfl⟩
    cases hcounts

theorem Kept.create (h : w.Kept) (id guid : Nat) (battleground : Bool) : (w.create id guid battleground).2.Kept := by
  unfold GroupRealm.create
  have hempty := empty_sound guid battleground
  have hleader : (if battleground then (⟨battleground, battleground, [], none, guid, 0, 0⟩ : Group).initRaidSubGroupsCounter
      else ⟨battleground, battleground, [], none, guid, 0, 0⟩).leader = guid := by split_ifs <;> rfl
  dsimp only
  generalize (if battleground then (⟨battleground, battleground, [], none, guid, 0, 0⟩ : Group).initRaidSubGroupsCounter
      else ⟨battleground, battleground, [], none, guid, 0, 0⟩) = g at hempty hleader
  have hg : (w.setGroup id g).groups id = some g := update_self ..
  obtain ⟨g', hgroups, hsound, hleader', -, hlisted⟩ := addMember_sound guid hg hempty
  split_ifs with hdone
  · obtain ⟨s, hs, hsg⟩ := hlisted hdone
    have hkept : g'.Kept := ⟨hsound, s, hs, by rw [hleader', hleader]; exact hsg⟩
    refine (h.setGroup id hkept).of_groups ?_
    rw [hgroups]
    exact update_idem ..
  · exact h

theorem groups_leaveAll (slots : List MemberSlot) (f : PlayerGroups → PlayerGroups) (w : GroupRealm) :
    (slots.foldl (fun w s => w.tell s.guid f) w).groups = w.groups := by
  induction slots generalizing w with
  | nil => rfl
  | cons s slots ih => exact (ih (w.tell s.guid f)).trans (groups_tell w s.guid f)

section

variable (h : w.Kept)
include h

theorem Kept.disband (id : Nat) : (w.disband id).Kept := by
  unfold GroupRealm.disband
  cases hg : w.groups id with
  | none => exact h
  | some g =>
    intro other g' hg'
    dsimp only at hg'
    rw [groups_leaveAll] at hg'
    by_cases heq : other = id
    · rw [heq, update_self] at hg'
      cases hg'
    · rw [update_of_ne heq] at hg'
      exact h other g' hg'

theorem Kept.removeMember (id guid : Nat) : (w.removeMember id guid).Kept := by
  unfold GroupRealm.removeMember
  cases hg : w.groups id with
  | none => exact h
  | some g =>
    dsimp only
    split_ifs with hmin
    · exact (h.tell guid _).setGroup id ((h id g hg).removeMember id _ guid hmin)
    · exact h.disband id

theorem Kept.changeMembersGroup {guid subGroup : Nat} (hsync : w.Synced (.changeMembersGroup id guid subGroup)) :
    (w.changeMembersGroup id guid subGroup).Kept := by
  unfold GroupRealm.changeMembersGroup
  cases hg : w.groups id with
  | none => exact h
  | some g =>
    dsimp only
    split_ifs with hguard hsame hother
    · exact h
    · exact h
    all_goals
      obtain ⟨hraid, hsub, hroom⟩ := by simpa only [not_or] using hguard
      obtain ⟨hne, hmember⟩ := not_or.1 hsame
      have hkept := h id g hg
      have hfree : inSubGroup g.slots subGroup < 5 := by
        cases hcounts : g.subGroupsCounts with
        | none =>
          rw [hkept.raided, hcounts] at hraid
          exact absurd rfl hraid
        | some counts =>
          rw [hcounts] at hroom
          have hlt : ¬ 5 ≤ counts subGroup := fun hle => hroom (by simpa using hle)
          rw [le_iff_toNat_le, hkept.counted counts hcounts subGroup] at hlt
          exact Nat.lt_of_not_le hlt
      have hmoved := hkept.toSound.setMembersGroup (Nat.lt_of_not_le hmember) (Nat.lt_of_not_le hsub) hne hfree
      have hleader : ∃ s ∈ (g.setMembersGroup guid subGroup).slots, s.guid = g.leader := by
        obtain ⟨s, hs, hsl⟩ := hkept.leader
        have hmem : s.guid ∈ (setSlotGroup guid subGroup g.slots).map MemberSlot.guid := by
          rw [setSlotGroup_guids]
          exact mem_map_of_mem hs
        obtain ⟨t, ht, htg⟩ := mem_map.1 hmem
        exact ⟨t, ht, htg.trans hsl⟩
    · rw [hsync g hg hother.1 hother.2 (by simpa using hraid) (Nat.lt_of_not_le hsub) (Nat.lt_of_not_le hmember) hne]
      exact (h.setGroup id ⟨hmoved, hleader⟩).tell guid _
    · exact (h.setGroup id ⟨hmoved, hleader⟩).tell guid _

theorem Kept.swapMembersGroup (id guid swapGuid : Nat) : (w.swapMembersGroup id guid swapGuid).Kept := by
  unfold GroupRealm.swapMembersGroup
  cases hg : w.groups id with
  | none => exact h
  | some g =>
    dsimp only
    split_ifs with hguard
    · exact h
    obtain ⟨-, hne, hmember, hswap⟩ := by simpa only [not_or] using hguard
    have hkept := h id g hg
    have hmoved := hkept.toSound.swapMembersGroup (Nat.lt_of_not_le hmember) (Nat.lt_of_not_le hswap) hne
    refine (((h.setGroup id ⟨hmoved, ?_⟩).tell guid _).tell swapGuid _)
    obtain ⟨s, hs, hsl⟩ := hkept.leader
    have hmem : s.guid ∈ (g.swapMembersGroup guid swapGuid).slots.map MemberSlot.guid := by
      unfold Group.swapMembersGroup
      rw [setSlotGroup_guids, setSlotGroup_guids]
      exact mem_map_of_mem hs
    obtain ⟨t, ht, htg⟩ := mem_map.1 hmem
    exact ⟨t, ht, htg.trans hsl⟩

theorem Kept.setAssistant (id guid : Nat) (state : Bool) : (w.step (.setAssistant id guid state)).Kept := by
  refine h.onGroup id fun g hg => ?_
  split_ifs with hraid
  · have hmap : ∀ (f : MemberSlot → Nat), (∀ s : MemberSlot, f { s with assistant := state } = f s) →
        (g.slots.map fun s => if s.guid = guid then { s with assistant := state } else s).map f = g.slots.map f := by
      intro f hf
      rw [map_map]
      refine map_congr_left fun s _ => ?_
      change f (if s.guid = guid then { s with assistant := state } else s) = f s
      split_ifs
      · exact hf s
      · rfl
    have hguids := hmap MemberSlot.guid fun _ => rfl
    have hgroups := hmap group fun _ => rfl
    have hcount : ∀ slots : List MemberSlot, inSubGroup slots = fun subGroup => (slots.map group).count subGroup := by
      intro slots
      funext subGroup
      unfold inSubGroup List.count
      rw [countP_map]
      exact countP_congr fun s _ => by simp
    refine ⟨⟨?_, ?_, fun s hs => ?_, fun other => ?_, fun counts hcounts => ?_, hg.raided, hg.tanks⟩, ?_⟩
    · rw [hguids]
      exact hg.listed
    · rw [length_map]
      exact hg.size
    · have hmem : s.group ∈ g.slots.map group := hgroups ▸ mem_map_of_mem hs
      obtain ⟨t, ht, htg⟩ := mem_map.1 hmem
      rw [← htg]
      exact hg.subGroups t ht
    · have := hg.room other
      rw [hcount] at this ⊢
      rw [hgroups]
      exact this
    · have := hg.counted counts hcounts
      rw [hcount] at this ⊢
      rw [hgroups]
      exact this
    · obtain ⟨s, hs, hsl⟩ := hg.leader
      have hmem : s.guid ∈ (g.slots.map fun s => if s.guid = guid then { s with assistant := state } else s).map MemberSlot.guid :=
        hguids ▸ mem_map_of_mem hs
      obtain ⟨t, ht, htg⟩ := mem_map.1 hmem
      exact ⟨t, ht, htg.trans hsl⟩
  · exact hg

theorem Kept.step {e : GroupEvent} (hsync : w.Synced e) : (w.step e).Kept := by
  cases e with
  | create id guid battleground =>
    change (if (w.groups id).isSome then w else (w.create id guid battleground).2).Kept
    split_ifs
    · exact h
    · exact h.create id guid battleground
  | addMember id guid => exact h.addMember id guid
  | removeMember id guid => exact h.removeMember id guid
  | disband id => exact h.disband id
  | convertToRaid id =>
    exact h.onGroup id fun g hg => ⟨hg.toSound.initRaidSubGroupsCounter, hg.leader⟩
  | changeMembersGroup id guid subGroup => exact h.changeMembersGroup hsync
  | swapMembersGroup id guid swapGuid => exact h.swapMembersGroup id guid swapGuid
  | changeLeader id guid => exact h.onGroup id fun g hg => hg.setLeader guid
  | leaderInactive id => exact h.onGroup id fun g hg => hg.leaderInactive id w.players
  | setAssistant id guid state => exact h.setAssistant id guid state
  | setMainTank id guid =>
    refine h.onGroup id fun g hg => ?_
    split_ifs
    · exact ⟨hg.toSound.setMainTank guid, setMainTank_leader hg guid⟩
    · exact hg
  | setMainAssistant id guid =>
    refine h.onGroup id fun g hg => ?_
    split_ifs
    · exact ⟨hg.toSound.setMainAssistant guid, setMainAssistant_leader hg guid⟩
    · exact hg
  | rejoinBattleground id guid =>
    simp only [GroupRealm.step]
    cases w.groups id with
    | none => exact h
    | some g =>
      dsimp only
      split_ifs
      · exact h.tell guid _
      · exact h
  | login guid id => exact h.of_groups rfl
  | enterWorld guid => exact h.of_groups rfl
  | leaveWorld guid => exact h.of_groups rfl
  | logout guid => exact h.of_groups rfl

end

theorem start_kept : start.Kept := by
  intro id g hg
  cases hg

theorem group_roster_kept {es : List GroupEvent} (h : Runs.Admitted GroupRealm.step Synced start es) :
    (Runs.run GroupRealm.step start es).Kept :=
  Runs.invariant (fun _ _ hw hsync => hw.step hsync) start_kept h

/-- Players 1 and 2 in the world, in a raid; 2 is in a battleground's raid too. -/
theorem group_roster_kept_battleground :
    (Runs.run GroupRealm.step start [.enterWorld 1, .enterWorld 2, .create 1 1 false, .addMember 1 2, .convertToRaid 1,
      .changeMembersGroup 1 2 1, .create 2 2 true, .changeMembersGroup 1 2 2, .setMainTank 1 2, .setMainAssistant 1 2]).Kept :=
  group_roster_kept (by decide)

/-- A player is moved while between two maps, enters a battleground and is moved again: the counter of a subgroup that
the player has long left goes down. -/
theorem group_roster_not_kept :
    ¬ (Runs.run GroupRealm.step start [.enterWorld 1, .enterWorld 2, .create 1 1 false, .addMember 1 2, .convertToRaid 1,
      .leaveWorld 2, .changeMembersGroup 1 2 1, .enterWorld 2, .create 2 2 true, .changeMembersGroup 1 2 2]).Kept := by
  intro h
  have hcount : ∀ g ∈ (Runs.run step start [.enterWorld 1, .enterWorld 2, .create 1 1 false, .addMember 1 2,
      .convertToRaid 1, .leaveWorld 2, .changeMembersGroup 1 2 1, .enterWorld 2, .create 2 2 true,
      .changeMembersGroup 1 2 2]).groups 1, ∀ counts ∈ g.subGroupsCounts, (counts 0).toNat = inSubGroup g.slots 0 :=
    fun g hg counts hcounts => (h 1 g hg).counted counts hcounts 0
  exact absurd hcount (by decide)

end GroupRealm

end ComfyCraft
