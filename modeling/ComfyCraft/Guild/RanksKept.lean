import ComfyCraft.Guild.Commands

/-! What holds of a guild in every state: one leader, who is a member and alone at the top rank, five
to ten ranks, and no member and no bank tab at a rank that does not exist. It is kept by the kinds of
change there are (a rank set, a member erased or added, a leader handed on) and so by every command but
four: deleting a rank somebody holds, a game master's rank for the leader or the top rank for another,
a tab's rank one past the last, and the leader added once more. -/

namespace ComfyCraft.GuildMgr

open Option List

namespace Guild

variable {om : ObjectMgr}

structure Led (g : Guild om) : Prop where
  leader : g.getRank g.leaderGuid = some GR_GUILDMASTER
  single : ∀ guid, g.getRank guid = some GR_GUILDMASTER → guid = g.leaderGuid
  fewest : GUILD_RANKS_MIN_COUNT ≤ g.ranks.length
  most : g.ranks.length ≤ GUILD_RANKS_MAX_COUNT
  members : ∀ guid r, g.getRank guid = some r → r < g.ranks.length

/-- The minimum rank of every tab of both banks names an existing rank. -/
def TabsRanked (g : Guild om) : Prop :=
  ∀ k tab, 1 ≤ tab.toUInt32 → tab.toUInt32 ≤ MAX_TABS → ((g.bank k).bTabInfo tab).minrank.toNat < g.ranks.length

structure Sound (g : Guild om) : Prop extends Led g where
  tabs : g.TabsRanked

/-! What each operation does to a member's rank. -/

@[simp] theorem getRank_insert (g : Guild om) (a b : Nat) (slot : MemberSlot) :
    ({ g with members := g.members.insert a slot } : Guild om).getRank b = if b = a then some slot.rankId else g.getRank b := by
  unfold getRank getMemberSlot
  split_ifs with h
  · subst h
    simp
  · simp [AList.lookup_insert_ne h]

@[simp] theorem getRank_erase (g : Guild om) (a b : Nat) :
    ({ g with members := g.members.erase a } : Guild om).getRank b = if b = a then none else g.getRank b := by
  unfold getRank getMemberSlot
  split_ifs with h
  · subst h
    simp
  · simp [AList.lookup_erase_ne h]

variable {g g' : Guild om} {guid lowGuid r new : Nat} {log : List GuildEventLogEntry} {w : Walk Nat MemberSlot}
  {name : String} {slot : MemberSlot}

theorem getRank_isSome : (g.getRank guid).isSome = (g.members.lookup guid).isSome := by
  simp [getRank, getMemberSlot]

@[simp] theorem getRank_changeRank (g : Guild om) (a r b : Nat) :
    (g.changeRank a r).getRank b = if b = a then (g.getRank a).map fun _ => r else g.getRank b := by
  unfold changeRank
  split
  · rename_i hn
    split_ifs with h
    · subst h
      simp [getRank, getMemberSlot, hn]
    · rfl
  · rename_i slot hs
    rw [getRank_insert]
    split_ifs with h
    · simp [getRank, getMemberSlot, hs]
    · rfl

@[simp] theorem leaderGuid_changeRank (g : Guild om) (a r : Nat) : (g.changeRank a r).leaderGuid = g.leaderGuid := by
  unfold changeRank
  split <;> rfl

@[simp] theorem ranks_changeRank (g : Guild om) (a r : Nat) : (g.changeRank a r).ranks = g.ranks := by
  unfold changeRank
  split <;> rfl

@[simp] theorem bank_changeRank (g : Guild om) (a r : Nat) : (g.changeRank a r).bank = g.bank := by
  unfold changeRank
  split <;> rfl

/-- What `SetLeader` does for a member. -/
theorem setLeader_member {a : Nat} (h : (g.getRank a).isSome) :
    g.setLeader a = { g with leaderGuid := a }.changeRank a GR_GUILDMASTER := by
  rw [getRank_isSome] at h
  obtain ⟨slot, hs⟩ := isSome_iff_exists.1 h
  simp [setLeader, getMemberSlot, hs]

@[simp] theorem ranks_setLeader (g : Guild om) (a : Nat) : (g.setLeader a).ranks = g.ranks := by
  unfold setLeader
  split
  · rfl
  · rw [ranks_changeRank]

@[simp] theorem bank_setLeader (g : Guild om) (a : Nat) : (g.setLeader a).bank = g.bank := by
  unfold setLeader
  split
  · rfl
  · rw [bank_changeRank]

@[simp] theorem ranks_passLeader (g : Guild om) (a : Nat) (o : Option Nat) : (g.passLeader a o).ranks = g.ranks := by
  unfold passLeader
  split <;> simp

@[simp] theorem bank_passLeader (g : Guild om) (a : Nat) (o : Option Nat) : (g.passLeader a o).bank = g.bank := by
  unfold passLeader
  split <;> simp

/-! The choice of a new leader: a member other than the old one. -/

theorem bestRank_mem {l : List (Sigma fun _ : Nat => MemberSlot)} {best : Option (Nat × MemberSlot)}
    {x : Nat × MemberSlot} (h : bestRank lowGuid l best = some x) :
    ((⟨x.1, x.2⟩ : Sigma fun _ : Nat => MemberSlot) ∈ l ∧ x.1 ≠ lowGuid) ∨ best = some x := by
  induction l generalizing best with
  | nil => exact .inr h
  | cons e l ih =>
    have later : ∀ {b}, bestRank lowGuid l b = some x →
        ((⟨x.1, x.2⟩ : Sigma fun _ : Nat => MemberSlot) ∈ e :: l ∧ x.1 ≠ lowGuid) ∨ b = some x := by
      intro b hb
      exact (ih hb).imp_left fun hm => ⟨mem_cons_of_mem _ hm.1, hm.2⟩
    unfold bestRank at h
    split_ifs at h with he
    · exact later h
    have here : ((⟨(e.1, e.2).1, (e.1, e.2).2⟩ : Sigma fun _ : Nat => MemberSlot) ∈ e :: l ∧ (e.1, e.2).1 ≠ lowGuid) :=
      ⟨mem_cons_self, he⟩
    split at h
    · rcases later h with hm | hb
      · exact .inl hm
      · cases hb
        exact .inl here
    · rcases later h with hm | hb
      · exact .inl hm
      split_ifs at hb with hlt
      · cases hb
        exact .inl here
      · exact .inr hb

theorem oldestOfficer_some (h : g.oldestOfficer lowGuid log = some guid) : (g.getRank guid).isSome ∧ guid ≠ lowGuid := by
  induction log with
  | nil => cases h
  | cons event log ih =>
    unfold oldestOfficer at h
    split_ifs at h with hskip
    · exact ih h
    split at h
    · rename_i slot hslot
      split_ifs at h with hr
      · cases h
        simp only [Bool.or_eq_true, decide_eq_true_eq, not_or] at hskip
        exact ⟨by simp [getRank, hslot], hskip.2⟩
      · exact ih h
    · exact ih h

theorem getSuitableNewLeader_some
    (h : g.getSuitableNewLeader w log = some guid) : (g.getRank guid).isSome ∧ guid ≠ g.leaderGuid := by
  unfold getSuitableNewLeader at h
  split at h
  · rename_i new hnew
    cases h
    exact oldestOfficer_some hnew
  · obtain ⟨x, hx, rfl⟩ := map_eq_some_iff.1 h
    rcases bestRank_mem hx with ⟨hm, hne⟩ | hb
    · refine ⟨?_, hne⟩
      rw [getRank_isSome, w.mem_rows.1 hm]
      rfl
    · cases hb

theorem getMemberSlotByName_some
    (h : g.getMemberSlotByName w name = some (guid, slot)) : g.getRank guid = some slot.rankId := by
  obtain ⟨e, he, heq⟩ := map_eq_some_iff.1 h
  cases heq
  have hl := w.mem_rows.1 (mem_of_find?_eq_some he)
  simp [getRank, getMemberSlot, hl]

/-! The kinds of change. -/

/-- The members changed, and the guild is led as it should be; ranks and banks are as they were. -/
structure Edit (g g' : Guild om) : Prop where
  led : g'.Led
  ranks : g'.ranks = g.ranks
  bank : g'.bank = g.bank

theorem Edit.same (h : g.Led) : Edit g g := ⟨h, rfl, rfl⟩

theorem Edit.sound (h : Edit g g') (hg : g.Sound) : g'.Sound where
  toLed := h.led
  tabs := by
    have ht := hg.tabs
    unfold TabsRanked at ht ⊢
    rw [h.ranks, h.bank]
    exact ht

theorem Led.rank_pos (h : g.Led) (hr : g.getRank guid = some r) (hne : guid ≠ g.leaderGuid) : r ≠ GR_GUILDMASTER := by
  rintro rfl
  exact hne (h.single guid hr)

/-- A guild whose ranks are those of a guild well led is well led itself if its leader holds the top
rank and every other member an existing rank below it. -/
theorem Edit.of_members (hmin : GUILD_RANKS_MIN_COUNT ≤ g.ranks.length) (hmax : g.ranks.length ≤ GUILD_RANKS_MAX_COUNT)
    (hranks : g'.ranks = g.ranks) (hbank : g'.bank = g.bank) (hlead : g'.getRank g'.leaderGuid = some GR_GUILDMASTER)
    (hrest : ∀ guid r, g'.getRank guid = some r → guid ≠ g'.leaderGuid → r ≠ GR_GUILDMASTER ∧ r < g.ranks.length) :
    Edit g g' := by
  have h5 : 0 < g.ranks.length := lt_of_lt_of_le (by decide) hmin
  refine ⟨⟨hlead, ?_, hranks ▸ hmin, hranks ▸ hmax, ?_⟩, hranks, hbank⟩
  · intro guid hr
    by_contra hne
    exact (hrest guid _ hr hne).1 rfl
  intro guid r hr
  rw [hranks]
  by_cases hne : guid = g'.leaderGuid
  · subst hne
    rw [hlead] at hr
    cases hr
    exact h5
  · exact (hrest guid r hr hne).2

section

variable (h : g.Led) (hne : guid ≠ g.leaderGuid)
include h hne

theorem Led.changeRank (h0 : r ≠ GR_GUILDMASTER) (hr : r < g.ranks.length) : Edit g (g.changeRank guid r) := by
  apply Edit.of_members h.fewest h.most (by simp) (by simp)
  · simp [Ne.symm hne, h.leader]
  intro a ra ha hna
  rw [leaderGuid_changeRank] at hna
  rw [getRank_changeRank] at ha
  split_ifs at ha with hag
  · obtain ⟨old, hold, rfl⟩ := map_eq_some_iff.1 ha
    exact ⟨h0, hr⟩
  · exact ⟨h.rank_pos ha hna, h.members a ra ha⟩

theorem Led.insert (h0 : slot.rankId ≠ GR_GUILDMASTER) (hr : slot.rankId < g.ranks.length) :
    Edit g { g with members := g.members.insert guid slot } := by
  refine Edit.of_members h.fewest h.most rfl rfl ?_ ?_
  · rw [getRank_insert, if_neg (Ne.symm hne)]
    exact h.leader
  intro a ra ha hna
  rw [getRank_insert] at ha
  split_ifs at ha with hag
  · cases ha
    exact ⟨h0, hr⟩
  · exact ⟨h.rank_pos ha hna, h.members a ra ha⟩

theorem Led.erase : Edit g { g with members := g.members.erase guid } := by
  refine Edit.of_members h.fewest h.most rfl rfl ?_ ?_
  · rw [getRank_erase, if_neg (Ne.symm hne)]
    exact h.leader
  · intro a ra ha hna
    rw [getRank_erase] at ha
    split_ifs at ha
    exact ⟨h.rank_pos ha hna, h.members a ra ha⟩

end

theorem getRank_passLeader (hnew : (g.getRank new).isSome) {old : Option Nat} (hne : old ≠ some new) (a : Nat) :
    (g.passLeader new old).getRank a =
      if a = new then some GR_GUILDMASTER else if some a = old then (g.getRank a).map fun _ => GR_OFFICER else g.getRank a := by
  obtain ⟨r, hr⟩ := isSome_iff_exists.1 hnew
  unfold passLeader
  split
  · rw [setLeader_member hnew, getRank_changeRank]
    by_cases h : a = new
    · rw [if_pos h, if_pos h]
      exact congrArg (Option.map fun _ => GR_GUILDMASTER) hr
    · rw [if_neg h, if_neg h, if_neg (some_ne_none a)]
      rfl
  · rename_i o
    have hno : new ≠ o := fun h => hne (h ▸ rfl)
    rw [setLeader_member hnew, getRank_changeRank, getRank_changeRank, getRank_changeRank]
    by_cases han : a = new
    · subst han
      rw [if_neg hno, if_pos rfl, if_pos rfl]
      exact congrArg (Option.map fun _ => GR_GUILDMASTER) hr
    by_cases hao : a = o
    · subst hao
      rw [if_pos rfl, if_neg (Ne.symm hno), if_neg han, if_pos rfl]
      rfl
    · have hsome : ¬ some a = some o := fun h => hao (some.inj h)
      rw [if_neg hao, if_neg han, if_neg han, if_neg hsome]
      rfl

theorem leaderGuid_passLeader (hnew : (g.getRank new).isSome) (old : Option Nat) : (g.passLeader new old).leaderGuid = new := by
  unfold passLeader
  split <;> simp [setLeader_member hnew]

theorem Led.passLeader (h : g.Led) (hnew : (g.getRank new).isSome) (hne : new ≠ g.leaderGuid) :
    Edit g (g.passLeader new (some g.leaderGuid)) := by
  have hold : some g.leaderGuid ≠ some new := fun heq => hne (some.inj heq).symm
  apply Edit.of_members h.fewest h.most (by simp) (by simp)
  · rw [leaderGuid_passLeader hnew, getRank_passLeader hnew hold, if_pos rfl]
  intro a ra ha hna
  rw [leaderGuid_passLeader hnew] at hna
  rw [getRank_passLeader hnew hold, if_neg hna] at ha
  split_ifs at ha with hao
  · obtain ⟨r, hr, rfl⟩ := map_eq_some_iff.1 ha
    exact ⟨by decide, lt_of_lt_of_le (by decide) h.fewest⟩
  · have hal : a ≠ g.leaderGuid := fun heq => hao (congrArg some heq)
    exact ⟨h.rank_pos ha hal, h.members a ra ha⟩

theorem Led.oldLeaderSlot (h : g.Led) : g.oldLeaderSlot = some g.leaderGuid := by
  obtain ⟨slot, hs, hr⟩ := map_eq_some_iff.1 h.leader
  simp [Guild.oldLeaderSlot, hs]

theorem Edit.trans {a b c : Guild om} (h1 : Edit a b) (h2 : Edit b c) : Edit a c :=
  ⟨h2.led, h2.ranks.trans h1.ranks, h2.bank.trans h1.bank⟩

/-! What each command does. -/

section

variable (h : g.Led)
include h

theorem Led.delMember (hd : g.delMember w guid = some g') : Edit g g' := by
  unfold Guild.delMember at hd
  split_ifs at hd with hl
  · split at hd
    · cases hd
    rename_i best hbest
    obtain ⟨hsome, hne⟩ := getSuitableNewLeader_some hbest
    cases hd
    have hpass : Edit g (g.passLeader best (some g.leaderGuid)) := h.passLeader hsome hne
    rw [h.oldLeaderSlot]
    apply hpass.trans
    apply hpass.led.erase
    rw [leaderGuid_passLeader hsome, ← hl]
    exact Ne.symm hne
  · cases hd
    exact h.erase fun heq => hl heq.symm

theorem Led.removeMember (hd : g.removeMember w guid = some g') : Edit g g' := by
  unfold Guild.removeMember at hd
  rw [filter_eq_some_iff] at hd
  exact h.delMember hd.1

/-- Adding a member who is not the leader over again. -/
theorem Led.addMember {found : Found} {rank : Nat}
    (hback : guid = g.leaderGuid → found.guildless = false) (h0 : rank ≠ GR_GUILDMASTER) (hr : rank < g.ranks.length) :
    Edit g (g.addMember guid found rank).1 := by
  have h256 : rank % 256 = rank := Nat.mod_eq_of_lt (lt_of_lt_of_le (lt_of_lt_of_le hr h.most) (by decide))
  unfold Guild.addMember
  split
  · rename_i guildId name
    split_ifs with hid
    · exact Edit.same h
    rw [not_not] at hid
    subst hid
    apply h.insert (by simpa [Found.guildless] using hback)
    · rw [h256]
      exact h0
    · rw [h256]
      exact hr
  · rename_i name level class_
    split_ifs with hmem
    · exact Edit.same h
    · exact Edit.same h
    · exact Edit.same h
    apply h.insert _ h0 hr
    rintro rfl
    apply hmem
    rw [← getRank_isSome, h.leader]
    rfl
  · split_ifs
    · exact Edit.same h
    · exact Edit.same h

theorem Led.joinRank (rank : JoinRank) : g.joinRank rank ≠ GR_GUILDMASTER ∧ g.joinRank rank < g.ranks.length := by
  have hmin := h.fewest
  unfold GUILD_RANKS_MIN_COUNT at hmin
  unfold Guild.joinRank GR_GUILDMASTER
  split
  · unfold getLowestRank
    constructor <;> omega
  · unfold GR_OFFICER GR_INITIATE
    constructor <;> omega

theorem Led.handleGuildRemove {sender : Sender} (hd : g.handleGuildRemove w sender name = some g') : Edit g g' := by
  unfold Guild.handleGuildRemove at hd
  split_ifs at hd
  · cases hd
    exact Edit.same h
  split at hd
  · cases hd
    exact Edit.same h
  split_ifs at hd
  · cases hd
    exact Edit.same h
  · cases hd
    exact Edit.same h
  · exact h.removeMember hd

theorem Led.handleGuildLeave (hd : g.handleGuildLeave w guid = some g') : Edit g g' := by
  unfold Guild.handleGuildLeave at hd
  split_ifs at hd
  · cases hd
    exact Edit.same h
  · exact h.removeMember hd

theorem Led.handleGuildLeader (w : Walk Nat MemberSlot) (sender : Sender) (name : String) :
    Edit g (g.handleGuildLeader w sender name) := by
  unfold Guild.handleGuildLeader
  split_ifs with hs
  · exact Edit.same h
  rw [not_not] at hs
  split
  · rename_i new slot hold hname
    split_ifs with hne
    · exact Edit.same h
    · rw [hs] at hne ⊢
      exact h.passLeader (by rw [getMemberSlotByName_some hname]; rfl) (Ne.symm hne)
  · exact Edit.same h

theorem Led.setNewLeader (guid : Nat) : Edit g (g.setNewLeader guid) := by
  unfold Guild.setNewLeader
  split
  · rename_i slot old hslot hold
    rw [h.oldLeaderSlot] at hold
    cases hold
    split_ifs with hne
    · exact Edit.same h
    · exact h.passLeader (by simp [getRank, hslot]) hne
  · exact Edit.same h

theorem Led.handleGuildLeaderCommand (guid : Nat) : Edit g (g.handleGuildLeaderCommand guid) := by
  unfold Guild.handleGuildLeaderCommand
  split_ifs
  · exact Edit.same h
  · exact h.setNewLeader guid

theorem Led.hardcoreDeath (w : Walk Nat MemberSlot) (log : List GuildEventLogEntry) (guid : Nat) :
    Edit g (g.hardcoreDeath w log guid) := by
  unfold Guild.hardcoreDeath
  split_ifs
  · split
    · exact Edit.same h
    rename_i new hnew
    obtain ⟨hsome, hne⟩ := getSuitableNewLeader_some hnew
    rw [h.oldLeaderSlot]
    exact h.passLeader hsome hne
  · exact Edit.same h

/-- A promotion stops two ranks below the sender's, so it never makes a second leader. -/
theorem Led.handleGuildPromote (w : Walk Nat MemberSlot) (sender : Sender) (name : String) :
    Edit g (g.handleGuildPromote w sender name) := by
  unfold Guild.handleGuildPromote
  split_ifs
  · exact Edit.same h
  split
  · exact Edit.same h
  rename_i guid slot hname
  have hrank := getMemberSlotByName_some hname
  have hlt := h.members guid _ hrank
  split_ifs with hself hlow
  · exact Edit.same h
  · exact Edit.same h
  apply h.changeRank
  · rintro rfl
    rw [h.leader] at hrank
    have h0 : 0 = slot.rankId := some.inj hrank
    omega
  · unfold GR_GUILDMASTER
    omega
  · omega

theorem Led.handleGuildDemote (w : Walk Nat MemberSlot) (sender : Sender) (name : String) :
    Edit g (g.handleGuildDemote w sender name) := by
  unfold Guild.handleGuildDemote
  split_ifs
  · exact Edit.same h
  split
  · exact Edit.same h
  rename_i guid slot hname
  have hrank := getMemberSlotByName_some hname
  split_ifs with hself hlow hlowest
  · exact Edit.same h
  · exact Edit.same h
  · exact Edit.same h
  unfold getLowestRank at hlowest
  apply h.changeRank
  · rintro rfl
    rw [h.leader] at hrank
    have h0 : 0 = slot.rankId := some.inj hrank
    omega
  · unfold GR_GUILDMASTER
    omega
  · omega

theorem Led.handleGuildRankCommand {newrank : Nat}
    (hfit : (g.getRank guid).isSome → newrank ≤ g.getLowestRank → (newrank = GR_GUILDMASTER ↔ guid = g.leaderGuid)) :
    Edit g (g.handleGuildRankCommand guid newrank) := by
  unfold Guild.handleGuildRankCommand
  split_ifs with hlow
  · exact Edit.same h
  split
  · exact Edit.same h
  rename_i slot hslot
  have hmem : (g.getRank guid).isSome := by simp [getRank, hslot]
  have hiff := hfit hmem (not_lt.1 hlow)
  by_cases hl : guid = g.leaderGuid
  · -- the leader is given the rank they have
    have h0 := hiff.2 hl
    subst hl
    apply Edit.of_members h.fewest h.most (by simp) (by simp)
    · simp [h.leader, h0]
    intro a ra ha hna
    rw [leaderGuid_changeRank] at hna
    rw [getRank_changeRank, if_neg hna] at ha
    exact ⟨h.rank_pos ha hna, h.members a ra ha⟩
  · have hmin := h.fewest
    unfold GUILD_RANKS_MIN_COUNT at hmin
    unfold getLowestRank at hlow
    exact h.changeRank hl (fun h0 => hl (hiff.1 h0)) (by omega)

end

end Guild

end ComfyCraft.GuildMgr
