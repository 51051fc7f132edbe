import ComfyCraft.Guild.RanksKept

/-! Guilds as they come out of the tables or out of a petition. The load repairs a leader who is gone,
members at ranks that do not exist and a second leader; it does not repair too many ranks, nor the
ranks the bank tabs ask for. -/

namespace ComfyCraft.GuildMgr

open List Option Guild

/-- The rows of a guild in `guild_rank`. -/
def rankRows (id : UInt32) (rows : List RankRow) : Nat := rows.countP fun r => r.guildId = id

/-- The number of ranks a guild is loaded with: too few are replaced by the default ones. -/
def rankCount (rows : Nat) : Nat := max rows GUILD_RANKS_MIN_COUNT

/-- No tab row of a guild asks for a rank from `ranks` on. -/
def TabsFit (db : CharacterDatabase) (id : UInt32) (ranks : Nat) : Prop :=
  ∀ r ∈ db.guildBankTabs, r.guildid = id →
    ∀ tab : UInt8, 1 ≤ tab.toUInt32 → tab.toUInt32 ≤ MAX_TABS → (r.tabInfo tab).minrank.toNat < ranks

section
variable {rows : List RankRow} (hs : rows.Pairwise fun a b => a.guildId ≤ b.guildId)
include hs

theorem loadRanks_length (id : UInt32) (ranks : List RankInfo) :
    (Guild.loadRanks id rows ranks).1.length = ranks.length + rankRows id rows := by
  unfold rankRows
  induction rows generalizing ranks with
  | nil => rfl
  | cons r rows ih =>
    obtain ⟨hle, hs'⟩ := pairwise_cons.1 hs
    unfold loadRanks
    by_cases hlt : r.guildId < id
    · rw [if_pos hlt, ih hs', countP_cons_of_neg (by simpa using UInt32.ne_of_lt hlt)]
    rw [if_neg hlt]
    by_cases hgt : id < r.guildId
    · -- every row from here on belongs to a later guild
      have hnone : (r :: rows).countP (fun r => r.guildId = id) = 0 := by
        rw [countP_eq_zero]
        intro x hx
        have hx' : r.guildId ≤ x.guildId := by
          rcases mem_cons.1 hx with rfl | hx
          · exact UInt32.le_refl _
          · exact hle x hx
        simpa using (UInt32.ne_of_lt (UInt32.lt_of_lt_of_le hgt hx')).symm
      rw [if_pos hgt, hnone]
      rfl
    · have heq : r.guildId = id := UInt32.le_antisymm (UInt32.not_lt.1 hgt) (UInt32.not_lt.1 hlt)
      rw [if_neg hgt, ih hs', countP_cons_of_pos (by simpa using heq), length_append]
      simp only [length_cons, length_nil]
      omega

theorem loadRanks_rest (id : UInt32) (ranks : List RankInfo) :
    ((Guild.loadRanks id rows ranks).2.Pairwise fun a b => a.guildId ≤ b.guildId) ∧
      ∀ later, id < later → rankRows later (Guild.loadRanks id rows ranks).2 = rankRows later rows := by
  unfold rankRows
  induction rows generalizing ranks with
  | nil => exact ⟨hs, fun _ _ => rfl⟩
  | cons r rows ih =>
    obtain ⟨hle, hs'⟩ := pairwise_cons.1 hs
    unfold loadRanks
    by_cases hlt : r.guildId < id
    · rw [if_pos hlt]
      obtain ⟨h1, h2⟩ := ih hs' ranks
      refine ⟨h1, fun later hl => ?_⟩
      rw [h2 later hl, countP_cons_of_neg (by simpa using UInt32.ne_of_lt (UInt32.lt_trans hlt hl))]
    rw [if_neg hlt]
    by_cases hgt : id < r.guildId
    · rw [if_pos hgt]
      exact ⟨hs, fun _ _ => rfl⟩
    rw [if_neg hgt]
    have heq : r.guildId = id := UInt32.le_antisymm (UInt32.not_lt.1 hgt) (UInt32.not_lt.1 hlt)
    obtain ⟨h1, h2⟩ := ih hs' (ranks ++ [⟨r.rname, if ranks = [] then r.rights ||| GR_RIGHT_ALL else r.rights⟩])
    refine ⟨h1, fun later hl => ?_⟩
    rw [h2 later hl, countP_cons_of_neg (by simpa using UInt32.ne_of_lt (heq ▸ hl))]

end

namespace Guild

variable {om : ObjectMgr} {getMangosString : GuildText → String} {w : Walk Nat MemberSlot}

/-- A guild with an existing rank for everybody: what the load has before it looks for the leader. -/
structure Ranked (g : Guild om) (n : Nat) : Prop where
  ranks : g.ranks.length = n
  members : ∀ guid r, g.getRank guid = some r → r < n

variable {g g' : Guild om} {ranks : Option (List RankRow)} {n : Nat}

theorem createDefaultGuildRanks_length (h : g.ranks = []) :
    (g.createDefaultGuildRanks getMangosString).ranks.length = GUILD_RANKS_MIN_COUNT := by
  simp [createDefaultGuildRanks, createRank, addRank, h, GUILD_RANKS_MAX_COUNT, GUILD_RANKS_MIN_COUNT]

@[simp] theorem members_createRank (g : Guild om) (name : String) (rights : UInt32) :
    (g.createRank name rights).members = g.members ∧ (g.createRank name rights).leaderGuid = g.leaderGuid ∧
      (g.createRank name rights).id = g.id := by
  unfold createRank
  split_ifs
  · exact ⟨rfl, rfl, rfl⟩
  · exact ⟨rfl, rfl, rfl⟩

theorem createDefaultGuildRanks_rest (getMangosString : GuildText → String) (g : Guild om) :
    (g.createDefaultGuildRanks getMangosString).members = g.members ∧
      (g.createDefaultGuildRanks getMangosString).leaderGuid = g.leaderGuid ∧
        (g.createDefaultGuildRanks getMangosString).id = g.id := by
  simp [createDefaultGuildRanks]

theorem loadRanksFromDB_some (hr : g.ranks = []) (hm : g.members = ∅) {rows : List RankRow}
    (hs : rows.Pairwise fun a b => a.guildId ≤ b.guildId) :
    Ranked (g.loadRanksFromDB getMangosString (some rows)).1 (rankCount (rankRows g.id rows)) ∧
      (g.loadRanksFromDB getMangosString (some rows)).1.id = g.id := by
  have hlen := loadRanks_length hs g.id g.ranks
  rw [hr, length_nil, Nat.zero_add] at hlen
  have hno : ∀ guid r, g.getRank guid ≠ some r := by
    intro guid r
    simp [getRank, getMemberSlot, hm]
  unfold loadRanksFromDB rankCount
  simp only [hr]
  split_ifs with hfew
  · rw [hlen] at hfew
    have hrest := createDefaultGuildRanks_rest getMangosString { g with ranks := [] }
    refine ⟨⟨?_, ?_⟩, hrest.2.2⟩
    · rw [createDefaultGuildRanks_length rfl]
      omega
    · intro guid r h
      unfold getRank getMemberSlot at h
      rw [hrest.1, hm] at h
      cases h
  · rw [hlen] at hfew
    refine ⟨⟨?_, ?_⟩, rfl⟩
    · rw [hlen]
      omega
    · intro guid r h
      exact absurd h (hno guid r)

/-- A result that is missing reads like one without rows. -/
theorem loadRanksFromDB_ranked (hr : g.ranks = []) (hm : g.members = ∅)
    (hs : (ranks.getD []).Pairwise fun a b => a.guildId ≤ b.guildId) :
    Ranked (g.loadRanksFromDB getMangosString ranks).1 (rankCount (rankRows g.id (ranks.getD []))) ∧
      (g.loadRanksFromDB getMangosString ranks).1.id = g.id := by
  cases ranks with
  | some rows => exact loadRanksFromDB_some hr hm hs
  | none =>
    have hsame : (g.loadRanksFromDB getMangosString none).1 = (g.loadRanksFromDB getMangosString (some [])).1 := by
      unfold loadRanksFromDB loadRanks
      simp only [hr, length_nil]
      rw [if_pos (by decide), ← hr]
    rw [hsame]
    exact loadRanksFromDB_some hr hm List.Pairwise.nil

theorem loadRanksFromDB_rest (hs : (ranks.getD []).Pairwise fun a b => a.guildId ≤ b.guildId) :
    (((g.loadRanksFromDB getMangosString ranks).2.getD []).Pairwise fun a b => a.guildId ≤ b.guildId) ∧ ∀ later, g.id < later →
        rankRows later ((g.loadRanksFromDB getMangosString ranks).2.getD []) = rankRows later (ranks.getD []) := by
  cases ranks with
  | none => exact ⟨hs, fun _ _ => rfl⟩
  | some rows =>
    have hrest := loadRanks_rest hs g.id g.ranks
    unfold loadRanksFromDB
    dsimp only
    split_ifs <;> exact hrest

theorem loadMembers_ranked (h : Ranked g n) (h0 : 0 < n) (rows : List MemberRow) :
    Ranked (g.loadMembers rows).1 n ∧ (g.loadMembers rows).1.id = g.id := by
  induction rows generalizing g with
  | nil => exact ⟨h, rfl⟩
  | cons r rows ih =>
    unfold loadMembers
    split_ifs
    · exact ih h
    · exact ⟨h, rfl⟩
    split
    · exact ih h
    rename_i slot hslot
    have hnew : Ranked { g with members := g.members.insert r.guid slot } n := by
      refine ⟨h.ranks, ?_⟩
      intro guid rank hrank
      rw [getRank_insert] at hrank
      split_ifs at hrank with hg
      · cases hrank
        unfold loadSlot at hslot
        split_ifs at hslot
        · cases hslot
          dsimp only
          unfold getLowestRank
          rw [h.ranks]
          omega
        · cases hslot
          dsimp only
          have := h.ranks
          omega
      · exact h.members guid rank hrank
    exact ih hnew

@[simp] theorem id_changeRank (g : Guild om) (a r : Nat) : (g.changeRank a r).id = g.id := by
  unfold changeRank
  split <;> rfl

/-- A guild with existing ranks whose leader holds the top one. -/
structure Headed (g g' : Guild om) (n : Nat) : Prop where
  ranked : Ranked g' n
  head : g'.getRank g'.leaderGuid = some GR_GUILDMASTER
  same : g'.id = g.id

theorem Ranked.setLeader (h : Ranked g n) (h0 : 0 < n) {a : Nat} (ha : (g.getRank a).isSome) : Headed g (g.setLeader a) n := by
  obtain ⟨r, hr⟩ := isSome_iff_exists.1 ha
  rw [setLeader_member ha]
  refine ⟨⟨by simp [h.ranks], ?_⟩, ?_, by simp⟩
  · intro guid rank hrank
    rw [getRank_changeRank] at hrank
    split_ifs at hrank with hg
    · obtain ⟨old, hold, rfl⟩ := map_eq_some_iff.1 hrank
      exact h0
    · exact h.members guid rank hrank
  · rw [leaderGuid_changeRank, getRank_changeRank, if_pos rfl]
    exact congrArg (Option.map fun _ => GR_GUILDMASTER) hr

theorem Ranked.removeLeader (h : Ranked g n) (h0 : 0 < n) (hgone : g.getRank g.leaderGuid = none)
    (hd : g.removeMember w g.leaderGuid = some g') : Headed g g' n := by
  unfold removeMember at hd
  rw [filter_eq_some_iff] at hd
  have hd := hd.1
  unfold delMember at hd
  rw [if_pos rfl] at hd
  split at hd
  · cases hd
  rename_i best hbest
  obtain ⟨hsome, hne⟩ := getSuitableNewLeader_some hbest
  cases hd
  have hold : g.oldLeaderSlot = none := by
    unfold getRank at hgone
    simpa [oldLeaderSlot] using hgone
  have hset := h.setLeader h0 hsome
  have hlead : (g.setLeader best).leaderGuid = best := by simp [setLeader_member hsome]
  rw [hold]
  refine ⟨⟨hset.ranked.ranks, ?_⟩, ?_, hset.same⟩
  · intro guid r hr
    rw [getRank_erase] at hr
    split_ifs at hr
    exact hset.ranked.members guid r hr
  · have hhead := hset.head
    rw [hlead] at hhead
    rw [getRank_erase]
    have hne' : ¬ (g.setLeader best).leaderGuid = g.leaderGuid := by
      rw [hlead]
      exact hne
    exact (if_neg hne').trans hset.head

theorem getRank_oneGuildmaster (g : Guild om) (guid : Nat) : g.oneGuildmaster.getRank guid =
      (g.getRank guid).map fun r => if r = GR_GUILDMASTER ∧ g.leaderGuid ≠ guid then GR_OFFICER else r := by
  simp only [oneGuildmaster, getRank, getMemberSlot, Table.lookup_mapRows, Option.map_map]
  congr 1
  funext slot
  simp only [Function.comp_apply]
  split_ifs <;> rfl

theorem checkGuildStructure_headed (h : Ranked g n) (h0 : 0 < n)
    (hc : g.checkGuildStructure w = some g') : ∃ led, Headed g led n ∧ g' = led.oneGuildmaster := by
  unfold checkGuildStructure at hc
  split at hc
  · rename_i hgone
    obtain ⟨led, hled, rfl⟩ := map_eq_some_iff.1 hc
    exact ⟨led, h.removeLeader h0 hgone hled, rfl⟩
  rename_i rank hrank
  have hc := some.inj hc
  by_cases hr : rank = GR_GUILDMASTER
  · rw [if_neg (not_not.2 hr)] at hc
    exact ⟨g, ⟨h, hr ▸ hrank, rfl⟩, hc.symm⟩
  · rw [if_pos hr] at hc
    exact ⟨g.setLeader g.leaderGuid, h.setLeader h0 (by rw [hrank]; rfl), hc.symm⟩

/-- Whatever the tables said of the leader, the repaired guild is led as it should be. -/
theorem Headed.led {led : Guild om} (h : Headed g led n) (hmin : GUILD_RANKS_MIN_COUNT ≤ n)
    (hmax : n ≤ GUILD_RANKS_MAX_COUNT) : led.oneGuildmaster.Led := by
  have hedit : Edit led led.oneGuildmaster := by
    refine Edit.of_members (h.ranked.ranks ▸ hmin) (h.ranked.ranks ▸ hmax) rfl rfl ?_ ?_
    · rw [getRank_oneGuildmaster]
      have hl : led.getRank led.oneGuildmaster.leaderGuid = some GR_GUILDMASTER := h.head
      rw [hl, map_some, if_neg fun hc => hc.2 rfl]
    intro guid r hr hne
    rw [getRank_oneGuildmaster] at hr
    obtain ⟨old, hold, rfl⟩ := map_eq_some_iff.1 hr
    rw [h.ranked.ranks]
    split_ifs with hofficer
    · exact ⟨by decide, lt_of_lt_of_le (by decide) hmin⟩
    · exact ⟨fun h0 => hofficer ⟨h0, Ne.symm hne⟩, h.ranked.members guid old hold⟩
  exact hedit.led

theorem loadMembersFromDB_ranked (h : Ranked g n) (h0 : 0 < n) {members : Option (List MemberRow)}
    (hm : (g.loadMembersFromDB members).1 = some g') : Ranked g' n ∧ g'.id = g.id := by
  unfold loadMembersFromDB at hm
  split at hm
  · cases hm
  rename_i rows
  dsimp only at hm
  split_ifs at hm
  cases hm
  exact loadMembers_ranked h h0 rows

end Guild

section
variable {om : ObjectMgr} {getMangosString : GuildText → String} {w : Walk Nat MemberSlot}

variable {ranks : Option (List RankRow)} {members : Option (List MemberRow)} {g : Guild om}

/-- A guild is loaded with the ranks its rows say, or the default ones, and with one leader. -/
theorem loadGuild_headed {row : GuildRow} (hs : (ranks.getD []).Pairwise fun a b => a.guildId ≤ b.guildId)
    (h : (loadGuild getMangosString w row ranks members).1 = some g) :
    ∃ start led : Guild om, start.id = row.guildId ∧
      Guild.Headed start led (rankCount (rankRows row.guildId (ranks.getD []))) ∧ g = led.oneGuildmaster := by
  let start : Guild om := empty row.guildId row.leaderGuid
  have hrank : Ranked (start.loadRanksFromDB getMangosString ranks).1 (rankCount (rankRows row.guildId (ranks.getD []))) ∧
      (start.loadRanksFromDB getMangosString ranks).1.id = row.guildId :=
    loadRanksFromDB_ranked rfl rfl hs
  have h0 : 0 < rankCount (rankRows row.guildId (ranks.getD [])) := lt_of_lt_of_le (by decide) (le_max_right _ _)
  unfold loadGuild at h
  obtain ⟨g1, hg1, hcheck⟩ := bind_eq_some_iff.1 h
  obtain ⟨hr, hid⟩ := loadMembersFromDB_ranked hrank.1 h0 hg1
  obtain ⟨led, hled, rfl⟩ := checkGuildStructure_headed hr h0 hcheck
  exact ⟨g1, led, hid.trans hrank.2, hled, rfl⟩

/-- Each guild of a load has its own rows' ranks, whatever was left of the results when its turn came. -/
theorem loadGuildRows_headed {all : List RankRow} {guilds : List GuildRow} (hg : guilds.Pairwise fun a b => a.guildId < b.guildId)
    (hs : (ranks.getD []).Pairwise fun a b => a.guildId ≤ b.guildId)
    (hleft : ∀ row ∈ guilds, rankRows row.guildId (ranks.getD []) = rankRows row.guildId all)
    (hmem : g ∈ loadGuildRows getMangosString w guilds ranks members) :
    ∃ start led : Guild om, Guild.Headed start led (rankCount (rankRows g.id all)) ∧ g = led.oneGuildmaster := by
  induction guilds generalizing ranks members with
  | nil => cases hmem
  | cons row guilds ih =>
    obtain ⟨hlt, hg'⟩ := pairwise_cons.1 hg
    unfold loadGuildRows at hmem
    rcases mem_append.1 hmem with hhere | hlater
    · obtain ⟨start, led, hid, hled, rfl⟩ := loadGuild_headed hs (mem_toList.1 hhere)
      have hgid : led.oneGuildmaster.id = row.guildId := hled.same.trans hid
      refine ⟨start, led, ?_, rfl⟩
      rw [hgid, ← hleft row mem_cons_self]
      exact hled
    · let start : Guild om := empty row.guildId row.leaderGuid
      obtain ⟨hs', hrest⟩ := loadRanksFromDB_rest (g := start) hs
      apply ih hg' hs' _ hlater
      intro later hmem'
      rw [hrest later.guildId (hlt later hmem')]
      exact hleft later (mem_cons_of_mem _ hmem')

theorem queried_getD {α : Type} (rows : List α) : (queried rows).getD [] = rows := by
  unfold queried
  cases rows <;> rfl

/-- Loading any tables: with at most ten rank rows of its own a guild is led as it should be. -/
theorem loadGuilds_led {t : GuildTables} (hmem : g ∈ loadGuilds getMangosString w t)
    (hmax : rankRows g.id t.ranks ≤ GUILD_RANKS_MAX_COUNT) :
    g.Led ∧ g.ranks.length = rankCount (rankRows g.id t.ranks) := by
  have hq := queried_getD t.ranks
  have hleft : ∀ row ∈ t.guilds, rankRows row.guildId ((queried t.ranks).getD []) = rankRows row.guildId t.ranks := by
    intro row _
    rw [hq]
  obtain ⟨start, led, hled, heq⟩ := loadGuildRows_headed t.guilds_sorted (by rw [hq]; exact t.ranks_sorted) hleft hmem
  have hmost : rankCount (rankRows g.id t.ranks) ≤ GUILD_RANKS_MAX_COUNT := max_le hmax (by decide)
  have hlead := hled.led (le_max_right _ _) hmost
  have hlen := hled.ranked.ranks
  rw [← heq] at hlead
  refine ⟨hlead, ?_⟩
  rw [← hlen, heq]
  rfl

end

end ComfyCraft.GuildMgr
