import ComfyCraft.Guild.LoadKept

/-! Runs of a guild's commands. A guild that starts with ranks for everybody keeps one leader, who is a
member and alone at the top rank, five to ten ranks, and a rank that exists for every member and every
bank tab, as long as no step is one of the four that break it. -/

namespace ComfyCraft

open List Function Option Runs Prod Nat GuildBank

namespace GuildBank

variable {om : ObjectMgr}

/-- Every tab of a bank asks for one of the first `n` ranks. -/
def TabsBelow (b : GuildBank om) (n : Nat) : Prop :=
  ∀ tab : UInt8, 1 ≤ tab.toUInt32 → tab.toUInt32 ≤ MAX_TABS → (b.bTabInfo tab).minrank.toNat < n

variable {b : GuildBank om} {db : CharacterDatabase} {n : Nat} {w : World om}

theorem mem_bankRows {tabs : TabsRow} {money : MoneyRow}
    (h : (tabs, money) ∈ b.bankRows db) : tabs ∈ db.guildBankTabs ∧ tabs.guildid = b.guildid := by
  unfold bankRows at h
  obtain ⟨r, hr, hm⟩ := mem_flatMap.1 h
  obtain ⟨m, hm, heq⟩ := mem_map.1 hm
  cases heq
  obtain ⟨hin, hown⟩ := mem_filter.1 hr
  simp only [Bool.and_eq_true, decide_eq_true_eq] at hown
  exact ⟨hin, hown.1⟩

theorem tabsBelow_loadBank (hb : b.TabsBelow n) (hdb : ∀ tabs money, (b.bankRows db).getLast? = some (tabs, money) →
      ∀ tab : UInt8, 1 ≤ tab.toUInt32 → tab.toUInt32 ≤ MAX_TABS → (tabs.tabInfo tab).minrank.toNat < n) :
    (b.loadBank db).TabsBelow n := by
  unfold loadBank
  split
  · exact hb
  rename_i tabs money hlast
  intro tab h1 h5
  have hne : tab ≠ 0 := by
    rintro rfl
    exact absurd h1 (by decide)
  simp only [if_neg hne, if_pos h5]
  exact hdb tabs money hlast tab h1 h5

/-- The row an unlocked bank starts from asks for the top rank, and it is the last one read. -/
theorem bankRows_unlocked (b : GuildBank om) (db : CharacterDatabase) : ∃ money, (b.bankRows { db with
      guildBankTabs := db.guildBankTabs ++ [⟨b.guildid, b.bInfernoBank, 1, fun _ => ⟨0, 0⟩⟩]
      guildBankMoney := (db.guildBankMoney.insert ⟨b.guildid, b.bInfernoBank, 0⟩).getD db.guildBankMoney }).getLast? =
        some (⟨b.guildid, b.bInfernoBank, 1, fun _ => ⟨0, 0⟩⟩, money) := by
  set money := (db.guildBankMoney.insert ⟨b.guildid, b.bInfernoBank, 0⟩).getD db.guildBankMoney with hmoney
  have hrow : ∃ m ∈ money.rows, m.guildid = b.guildid ∧ m.isInferno = b.bInfernoBank := by
    cases hins : db.guildBankMoney.insert ⟨b.guildid, b.bInfernoBank, 0⟩ with
    | none =>
      obtain ⟨x, hx, hkey⟩ := Rows.insert_none hins
      rw [hmoney, hins]
      have hkey : (x.guildid, x.isInferno) = (b.guildid, b.bInfernoBank) := hkey
      exact ⟨x, hx, congrArg fst hkey, congrArg snd hkey⟩
    | some t =>
      rw [hmoney, hins, getD_some, Rows.insert_some hins]
      exact ⟨_, mem_append_right _ mem_cons_self, rfl, rfl⟩
  obtain ⟨m, hm, hid, hinf⟩ := hrow
  let own := (money.rows.filter fun m => m.guildid = b.guildid && m.isInferno = b.bInfernoBank).map
    fun m => ((⟨b.guildid, b.bInfernoBank, 1, fun _ => ⟨0, 0⟩⟩ : TabsRow), m)
  have hown : own ≠ [] := by
    apply ne_nil_of_mem
    exact mem_map_of_mem (mem_filter.2 ⟨hm, by simp [hid, hinf]⟩)
  obtain ⟨x, hx⟩ := getLast?_isSome.2 hown |> isSome_iff_exists.1
  obtain ⟨m', -, hxm⟩ := mem_map.1 (mem_of_getLast? hx)
  refine ⟨m', ?_⟩
  unfold bankRows
  rw [filter_append, flatMap_append, filter_cons_of_pos (by simp), filter_nil, flatMap_cons, flatMap_nil, append_nil, hxm]
  exact getLast?_append_of_ne_nil _ hown |>.trans hx

theorem tabsBelow_unlockGuildBank (h0 : 0 < n) (hb : w.bank.TabsBelow n) (ctx : Ctx)
    (query : UnlockQuery) : (World.unlockGuildBank ctx w query).bank.TabsBelow n := by
  unfold World.unlockGuildBank
  split
  · exact hb
  cases query with
  | cost => exact hb
  | unknown => exact hb
  | wrongSyntax text => exact hb
  | ok =>
    split_ifs
    · exact hb
    let c : GuildBank om := { w.bank with bTabs := 1 }
    obtain ⟨money, hlast⟩ := bankRows_unlocked c w.db
    have hload := tabsBelow_loadBank (b := c) hb (n := n) fun tabs money' heq tab _ _ => by
      rw [hlast] at heq
      cases heq
      exact h0
    exact hload

theorem tabsBelow_unlock (h0 : 0 < n) (hb : w.bank.TabsBelow n) (ctx : Ctx) (query : UnlockQuery) :
    (World.handleAddonMessages ctx w (.unlockGuildBank query)).bank.TabsBelow n := by
  unfold World.handleAddonMessages
  dsimp only
  split_ifs
  · exact hb
  · exact hb
  · exact tabsBelow_unlockGuildBank h0 hb ctx query

theorem tabsBelow_updateMinranks (hn : 1 < n) (hb : b.TabsBelow n) : (b.updateMinranks (n - 1)).TabsBelow (n - 1) := by
  intro tab h1 h5
  have hold := hb tab h1 h5
  unfold updateMinranks
  dsimp only
  rw [if_pos ⟨h1, h5⟩]
  unfold GuildMgr.lowerMinrank
  split_ifs with hlast
  · have hle : 1 ≤ (b.bTabInfo tab).minrank := by
      rw [UInt8.le_iff_toNat_le, hlast]
      exact le_sub_one_of_lt hn
    rw [UInt8.toNat_sub_of_le _ _ hle, hlast]
    exact Nat.sub_lt (Nat.sub_pos_of_lt hn) Nat.one_pos
  · omega

theorem tabsBelow_updateTab (hb : b.TabsBelow n) {ctx : Ctx} {msg : TabMessage}
    (hfit : b.refusesTab ctx n msg = false → 1 ≤ msg.tab.toUInt32 → msg.tab.toUInt32 ≤ MAX_TABS → msg.minrank.toNat ≠ n) :
    (b.updateTab ctx n msg).TabsBelow n := by
  unfold updateTab
  split_ifs with href
  · exact hb
  rw [Bool.not_eq_true] at href
  intro tab h1 h5
  dsimp only
  by_cases heq : tab = msg.tab
  · subst heq
    rw [update_self]
    have hne := hfit href h1 h5
    have hle : ¬ n < msg.minrank.toNat := by
      intro hlt
      simp [refusesTab, hlt] at href
    dsimp only
    omega
  · rw [update_of_ne heq]
    exact hb tab h1 h5

end GuildBank

namespace GuildMgr

namespace Guild

variable {om : ObjectMgr}

variable {g : Guild om} {signatures : List (Nat × Found)}

section

variable (h : g.Sound)
include h

theorem Sound.setBank {inferno : Bool} {b : GuildBank om} (hb : b.TabsBelow g.ranks.length) : (g.setBank inferno b).Sound where
  toLed := ⟨h.leader, h.single, h.fewest, h.most, h.members⟩
  tabs := by
    intro k
    by_cases hk : k = inferno
    · subst hk
      have hself : (g.setBank k b).bank k = b := update_self _ _ _
      rw [hself]
      exact hb
    · have hother : (g.setBank inferno b).bank k = g.bank k := update_of_ne hk _ _
      rw [hother]
      exact h.tabs k

/-- More ranks, or the same number: everybody's rank still exists. -/
theorem Sound.setRanks {ranks : List RankInfo} (hle : g.ranks.length ≤ ranks.length)
    (hmost : ranks.length ≤ GUILD_RANKS_MAX_COUNT) : ({ g with ranks := ranks } : Guild om).Sound where
  leader := h.leader
  single := h.single
  fewest := h.fewest.trans hle
  most := hmost
  members guid r hr := lt_of_lt_of_le (h.members guid r hr) hle
  tabs k tab h1 h5 := lt_of_lt_of_le (h.tabs k tab h1 h5) hle

theorem Sound.handleGuildRank (sender : Sender) (rankId : Nat) (rights : UInt32) (name : String) :
    (g.handleGuildRank sender rankId rights name).Sound := by
  unfold Guild.handleGuildRank
  split_ifs
  · exact h
  · exact h.setRanks (by simp [setRankName]) (by simpa [setRankName] using h.most)
  · exact h.setRanks (by simp [setRankName]) (by simpa [setRankName] using h.most)

theorem Sound.handleGuildAddRank (sender : Sender) (name : String) : (g.handleGuildAddRank sender name).Sound := by
  unfold Guild.handleGuildAddRank createRank addRank
  split_ifs with hs hmany
  · exact h
  · exact h
  · have hlt := Nat.lt_of_not_le hmany
    exact h.setRanks (by simp) (by rw [length_append]; exact hlt)

/-- Deleting the lowest rank when nobody holds it: the banks' tabs are lowered, the rest is in order. -/
theorem Sound.delRank
    (hfree : GUILD_RANKS_MIN_COUNT < g.ranks.length → ∀ guid, g.getRank guid ≠ some g.getLowestRank) : g.delRank.Sound := by
  unfold Guild.delRank
  split_ifs with hfew
  · exact h
  have hmore := not_le.1 hfew
  have hn : 1 < g.ranks.length := lt_trans (by decide) hmore
  have hlen : g.ranks.dropLast.length = g.ranks.length - 1 := length_dropLast
  refine ⟨⟨h.leader, h.single, ?_, ?_, ?_⟩, ?_⟩
  · rw [hlen]
    exact le_sub_one_of_lt hmore
  · rw [hlen]
    exact (sub_le _ _).trans h.most
  · intro guid r hr
    have hlt := h.members guid r hr
    have hne : r ≠ g.getLowestRank := fun heq => hfree hmore guid (heq ▸ hr)
    unfold getLowestRank at hne
    rw [hlen]
    omega
  · intro k
    rw [hlen]
    exact tabsBelow_updateMinranks hn (h.tabs k)

theorem Sound.handleGuildDelRank (sender : Sender)
    (hfree : sender.guid = g.leaderGuid → GUILD_RANKS_MIN_COUNT < g.ranks.length → ∀ guid, g.getRank guid ≠ some g.getLowestRank) :
    (g.handleGuildDelRank sender).Sound := by
  unfold Guild.handleGuildDelRank
  split_ifs with hs
  · exact h
  · exact h.delRank (hfree (not_not.1 hs))

end

/-- The steps that break nothing. The leader is not added once more as an online player without a
guild; a game master gives the top rank to the leader and to no one else; the lowest rank is deleted
only when no member holds it; no tab is given a rank one past the last. -/
def Fits (g : Guild om) : GuildEvent → Prop
  | .join guid found _ => guid = g.leaderGuid → found.guildless = false
  | .gmRank guid newrank =>
    (g.getRank guid).isSome → newrank ≤ g.getLowestRank → (newrank = GR_GUILDMASTER ↔ guid = g.leaderGuid)
  | .delRank sender =>
    sender.guid = g.leaderGuid → GUILD_RANKS_MIN_COUNT < g.ranks.length → ∀ guid, g.getRank guid ≠ some g.getLowestRank
  | .updateTab inferno ctx msg =>
    (g.bank inferno).refusesTab ctx g.ranks.length msg = false → 1 ≤ msg.tab.toUInt32 → msg.tab.toUInt32 ≤ MAX_TABS →
      msg.minrank.toNat ≠ g.ranks.length
  | _ => True

/-- No member at a rank: it is enough to look at the rows. -/
theorem free_iff (g : Guild om) (r : Nat) : (∀ e ∈ g.members.entries, e.2.rankId ≠ r) ↔ ∀ guid, g.getRank guid ≠ some r := by
  constructor
  · intro h guid hr
    obtain ⟨slot, hs, heq⟩ := map_eq_some_iff.1 hr
    exact h ⟨guid, slot⟩ (Table.lookup_eq_some_iff.1 hs) heq
  · intro h e he heq
    have hl : g.members.lookup e.1 = some e.2 := Table.lookup_eq_some_iff.2 he
    exact h e.1 (by simp [getRank, getMemberSlot, hl, heq])

instance (g : Guild om) (r : Nat) : Decidable (∀ guid, g.getRank guid ≠ some r) := decidable_of_iff _ (g.free_iff r)

instance Fits.decide (g : Guild om) : ∀ a, Decidable (g.Fits a)
  | .join guid found _ => inferInstanceAs (Decidable (guid = g.leaderGuid → found.guildless = false))
  | .gmRank guid newrank =>
    inferInstanceAs (Decidable ((g.getRank guid).isSome → newrank ≤ g.getLowestRank → (newrank = GR_GUILDMASTER ↔ guid = g.leaderGuid)))
  | .delRank sender =>
    inferInstanceAs (Decidable (sender.guid = g.leaderGuid → GUILD_RANKS_MIN_COUNT < g.ranks.length →
      ∀ guid, g.getRank guid ≠ some g.getLowestRank))
  | .updateTab inferno ctx msg =>
    inferInstanceAs (Decidable ((g.bank inferno).refusesTab ctx g.ranks.length msg = false → 1 ≤ msg.tab.toUInt32 →
      msg.tab.toUInt32 ≤ MAX_TABS → msg.minrank.toNat ≠ g.ranks.length))
  | .removeMember _ _ | .remove _ _ _ | .leave _ _ | .disband _ | .leader _ _ _ | .gmLeader _ | .hardcoreDeath _ _ _ |
    .promote _ _ _ | .demote _ _ _ | .rank _ _ _ _ | .addRank _ _ | .unlockGuildBank _ _ _ _ _ => isTrue trivial

theorem Sound.handle {g' : Guild om} (h : g.Sound) {a : GuildEvent} (hfit : g.Fits a) (hstep : g.handle a = some g') :
    g'.Sound := by
  have hled := h.toLed
  cases a with
  | join guid found rank =>
    cases hstep
    obtain ⟨h0, hr⟩ := hled.joinRank rank
    exact (hled.addMember hfit h0 hr).sound h
  | removeMember w guid => exact (hled.removeMember hstep).sound h
  | remove w sender name => exact (hled.handleGuildRemove hstep).sound h
  | leave w guid => exact (hled.handleGuildLeave hstep).sound h
  | disband guid =>
    have hd : g.handleGuildDisband guid = some g' := hstep
    unfold handleGuildDisband at hd
    split_ifs at hd
    cases hd
    exact h
  | leader w sender name =>
    cases hstep
    exact (hled.handleGuildLeader w sender name).sound h
  | gmLeader guid =>
    cases hstep
    exact (hled.handleGuildLeaderCommand guid).sound h
  | hardcoreDeath w log guid =>
    cases hstep
    exact (hled.hardcoreDeath w log guid).sound h
  | promote w sender name =>
    cases hstep
    exact (hled.handleGuildPromote w sender name).sound h
  | demote w sender name =>
    cases hstep
    exact (hled.handleGuildDemote w sender name).sound h
  | gmRank guid newrank =>
    cases hstep
    exact (hled.handleGuildRankCommand hfit).sound h
  | rank sender rankId rights name =>
    cases hstep
    exact h.handleGuildRank sender rankId rights name
  | addRank sender name =>
    cases hstep
    exact h.handleGuildAddRank sender name
  | delRank sender =>
    cases hstep
    exact h.handleGuildDelRank sender hfit
  | unlockGuildBank inferno ctx money db query =>
    cases hstep
    have h0 : 0 < g.ranks.length := lt_of_lt_of_le (by decide) h.fewest
    have hbank : (g.bank inferno).TabsBelow g.ranks.length := h.tabs inferno
    exact h.setBank (tabsBelow_unlock h0 hbank ctx query)
  | updateTab inferno ctx msg =>
    cases hstep
    exact h.setBank (tabsBelow_updateTab (h.tabs inferno) hfit)

/-- A guild led as it should be, with its banks made: the tabs read from the table ask for ranks it has. -/
theorem Led.addGuild (h : g.Led) {db : CharacterDatabase} (hdb : TabsFit db g.id g.ranks.length)
    (log : Bool → List BankLog) : (g.addGuild db log).Sound where
  toLed := ⟨h.leader, h.single, h.fewest, h.most, h.members⟩
  tabs := by
    intro k
    have h0 : 0 < g.ranks.length := lt_of_lt_of_le (by decide) h.fewest
    have hload : (({ GuildBank.create k with guildid := g.id, bTabs := 0 } : GuildBank om).loadBank db).TabsBelow g.ranks.length := by
      apply GuildBank.tabsBelow_loadBank
      · exact fun _ _ _ => h0
      intro tabs money hlast tab h1 h5
      obtain ⟨hin, hid⟩ := GuildBank.mem_bankRows (mem_of_getLast? hlast)
      exact hdb tabs hin hid tab h1 h5
    exact hload

theorem id_addMember (g : Guild om) (guid : Nat) (found : Found) (rank : Nat) :
    (g.addMember guid found rank).1.id = g.id ∧ (g.addMember guid found rank).1.leaderGuid = g.leaderGuid := by
  unfold addMember
  split
  · split_ifs <;> exact ⟨rfl, rfl⟩
  · split_ifs <;> exact ⟨rfl, rfl⟩
  · split_ifs <;> exact ⟨rfl, rfl⟩

/-- The signers of a petition join one after the other. -/
theorem signatures_led (h : g.Led) (hback : ∀ s ∈ signatures, s.1 = g.leaderGuid → s.2.guildless = false) :
    let g' := signatures.foldl (fun g s => if s.1 = 0 then g else (g.addMember s.1 s.2 g.getLowestRank).1) g
    g'.Led ∧ g'.ranks.length = g.ranks.length ∧ g'.id = g.id := by
  induction signatures generalizing g with
  | nil => exact ⟨h, rfl, rfl⟩
  | cons s signatures ih =>
    rw [foldl_cons]
    split_ifs
    · exact ih h fun x hx => hback x (mem_cons_of_mem _ hx)
    obtain ⟨h0, hr⟩ := h.joinRank .lowest
    have hadd := h.addMember (hback s mem_cons_self) h0 hr
    obtain ⟨hid, hlead⟩ := id_addMember g s.1 s.2 g.getLowestRank
    obtain ⟨h1, h2, h3⟩ := ih hadd.led fun x hx hxl => hback x (mem_cons_of_mem _ hx) (hxl.trans hlead)
    exact ⟨h1, h2.trans (congrArg length hadd.ranks), h3.trans hid⟩

theorem create_led {getMangosString : GuildText → String} {id : UInt32} {leader : Nat} {found : Found}
    (hback : ∀ s ∈ signatures, s.1 = leader → s.2.guildless = false)
    (h : Guild.create getMangosString id leader found signatures = some g) :
    g.Led ∧ g.ranks.length = GUILD_RANKS_MIN_COUNT ∧ g.id = id := by
  let start : Guild om := (empty id leader).createDefaultGuildRanks getMangosString
  obtain ⟨hmem, hlead, hid⟩ := createDefaultGuildRanks_rest getMangosString (empty id leader : Guild om)
  have hlen : start.ranks.length = GUILD_RANKS_MIN_COUNT := createDefaultGuildRanks_length rfl
  have hfirst : ∀ slot : MemberSlot, slot.rankId = GR_GUILDMASTER →
      Edit start { start with members := start.members.insert leader slot } := by
    intro slot hslot
    refine Edit.of_members hlen.ge (hlen.le.trans (by decide)) rfl rfl ?_ ?_
    · have hsame : start.leaderGuid = leader := hlead
      rw [getRank_insert, if_pos hsame, hslot]
    intro guid r hr hne
    have hne : guid ≠ leader := fun heq => hne (heq.trans hlead.symm)
    rw [getRank_insert, if_neg hne] at hr
    have hno : start.getRank guid = none := by
      unfold getRank getMemberSlot
      rw [hmem]
      rfl
    rw [hno] at hr
    cases hr
  have hadd : ∀ {g1}, start.addMember leader found GR_GUILDMASTER = (g1, .ok) → Edit start g1 := by
    intro g1 hg1
    unfold addMember at hg1
    split at hg1
    · split_ifs at hg1
      · cases hg1
      · cases hg1
        exact hfirst _ rfl
    · split_ifs at hg1
      · cases hg1
      · cases hg1
      · cases hg1
      · cases hg1
        exact hfirst _ rfl
    · split_ifs at hg1 <;> cases hg1
  unfold Guild.create at h
  split at h
  · rename_i g1 hg1
    cases h
    have hedit := hadd hg1
    obtain ⟨hid1, hlead1⟩ := id_addMember start leader found GR_GUILDMASTER
    rw [hg1] at hid1 hlead1
    have hsigners : ∀ s ∈ signatures, s.1 = g1.leaderGuid → s.2.guildless = false := fun s hs hsl =>
      hback s hs (hsl.trans (hlead1.trans hlead))
    obtain ⟨h1, h2, h3⟩ := signatures_led hedit.led hsigners
    exact ⟨h1, h2.trans ((congrArg length hedit.ranks).trans hlen), h3.trans (hid1.trans hid)⟩
  · cases h

end Guild

variable {om : ObjectMgr}

/-- The guilds a run starts with: one just founded, or one loaded with at most ten rank rows of its
own, and the tabs of its banks asking for ranks it has. -/
inductive Started : Guild om → Prop
  | created {getMangosString : GuildText → String} {id : UInt32} {leader : Nat} {found : Found}
      {signatures : List (Nat × Found)} {g : Guild om} {db : CharacterDatabase} {log : Bool → List BankLog}
      (h : Guild.create getMangosString id leader found signatures = some g)
      (hback : ∀ s ∈ signatures, s.1 = leader → s.2.guildless = false)
      (hdb : TabsFit db id GUILD_RANKS_MIN_COUNT) : Started (g.addGuild db log)
  | loaded {getMangosString : GuildText → String} {w : Walk Nat MemberSlot} {t : GuildTables} {g : Guild om}
      {db : CharacterDatabase} {log : Bool → List BankLog} (h : g ∈ loadGuilds getMangosString w t)
      (hmax : rankRows g.id t.ranks ≤ GUILD_RANKS_MAX_COUNT) (hdb : TabsFit db g.id (rankCount (rankRows g.id t.ranks))) :
      Started (g.addGuild db log)

theorem Started.sound {g : Guild om} (h : Started g) : g.Sound := by
  cases h with
  | created h hback hdb =>
    obtain ⟨hled, hlen, hid⟩ := Guild.create_led hback h
    exact hled.addGuild (by rw [hlen, hid]; exact hdb) _
  | loaded h hmax hdb =>
    obtain ⟨hled, hlen⟩ := loadGuilds_led h hmax
    exact hled.addGuild (by rw [hlen]; exact hdb) _

def Fits (s : Option (Guild om)) (a : GuildEvent) : Prop := ∀ g ∈ s, g.Fits a

instance (s : Option (Guild om)) (a : GuildEvent) : Decidable (Fits s a) := inferInstanceAs (Decidable (∀ g ∈ s, g.Fits a))

theorem sound_step {s : Option (Guild om)} {a : GuildEvent} (h : ∀ g ∈ s, g.Sound) (hfit : Fits s a) : ∀ g ∈ step s a, g.Sound := by
  intro g' hg'
  obtain ⟨g, hg, hstep⟩ := bind_eq_some_iff.1 hg'
  exact (h g hg).handle (hfit g hg) hstep

/-- In every run whose steps all fit, the leader is a member and the only one at the top rank, there
are five to ten ranks, and every member's and every bank tab's rank exists, after each step. -/
theorem ranks_and_leader {g : Guild om} (hg : Started g) {as : List GuildEvent} (has : Runs.Admitted step Fits (some g) as)
    (n : Nat) :
    ∀ g' ∈ Runs.run step (some g) (as.take n), g'.Sound :=
  invariant (I := fun s => ∀ g ∈ s, g.Sound) (fun _ _ h hfit => sound_step h hfit)
    (by intro g' hg'; cases hg'; exact hg.sound) (has.take n)

/-! A guild founded by player 1. The guild master adds a sixth rank, a new member joins at it, and the
guild master deletes it. -/

namespace Sample

def master : Sender := ⟨1, GR_GUILDMASTER⟩

def founded : Option (Guild Sample.objectMgr) := Guild.create (fun _ => "") 1 1 (.online 0 "Founder") []

def guild : Option (Guild Sample.objectMgr) := founded.map fun g => g.addGuild Sample.db fun _ => []

def deletion : List GuildEvent := [.addRank master "Recruit", .join 2 (.online 0 "Novice") .lowest, .delRank master]

/-- The same, but the new member is promoted first, and leads the guild in the end. -/
def promotion : List GuildEvent :=
  [.addRank master "Recruit", .join 2 (.online 0 "Novice") .lowest, .promote Walk.plain master "Novice", .delRank master, .gmLeader 2]

theorem started_guild {g : Guild Sample.objectMgr} (h : g ∈ guild) : Started g := by
  obtain ⟨g0, hg0, rfl⟩ := map_eq_some_iff.1 h
  apply Started.created hg0
  · intro s hs
    cases hs
  · intro r hr hid tab h1 h5
    cases mem_singleton.1 hr
    exact (by decide : (0 : Nat) < 5)

end Sample

/-- The deletion leaves a member at a rank that is gone. -/
theorem rank_deleted_under_member :
    ∃ g g' : Guild Sample.objectMgr, Started g ∧ Runs.run step (some g) Sample.deletion = some g' ∧ g'.getRank 2 = some 5 ∧ g'.ranks.length = 5 ∧ ¬ g'.Sound := by
  have hsome : Sample.guild.isSome = true := by decide +kernel
  obtain ⟨g, hg⟩ := isSome_iff_exists.1 hsome
  have hrun : (run step Sample.guild Sample.deletion).map (fun g => (g.getRank 2, g.ranks.length)) = some (some 5, 5) := by
    decide +kernel
  obtain ⟨g', hg', heq⟩ := map_eq_some_iff.1 hrun
  have hrank : g'.getRank 2 = some 5 := congrArg fst heq
  have hlen : g'.ranks.length = 5 := congrArg snd heq
  refine ⟨g, g', Sample.started_guild hg, ?_, hrank, hlen, ?_⟩
  · rw [← hg, hg']
  intro hs
  have hlt := hs.members 2 5 hrank
  rw [hlen] at hlt
  exact absurd hlt (by decide)

theorem ranks_and_leader_sample : ∃ g : Guild Sample.objectMgr, Started g ∧
    ∃ g' ∈ Runs.run step (some g) (Sample.promotion.take 5), g'.leaderGuid = 2 ∧ g'.Sound := by
  have hsome : Sample.guild.isSome = true := by decide +kernel
  obtain ⟨g, hg⟩ := isSome_iff_exists.1 hsome
  have hrun : (run step Sample.guild (Sample.promotion.take 5)).map Guild.leaderGuid = some 2 := by decide +kernel
  have hadm : Admitted step Fits Sample.guild Sample.promotion := by decide +kernel
  rw [hg] at hrun hadm
  obtain ⟨g', hg', hlead⟩ := map_eq_some_iff.1 hrun
  exact ⟨g, Sample.started_guild hg, g', hg', hlead, ranks_and_leader (Sample.started_guild hg) hadm 5 g' hg'⟩

end GuildMgr

end ComfyCraft
