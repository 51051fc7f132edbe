import ComfyCraft.Guild.Ranks

/-! Loading all guilds from their tables, and the commands a loaded or created guild is changed by. A
query's result is the list of its rows from the current one on, or `none` where the query had no rows. -/

namespace ComfyCraft.GuildMgr

/-- A row of `guild`. -/
structure GuildRow where
  guildId : UInt32
  leaderGuid : Nat

/-- A row of `guild_rank`. -/
structure RankRow where
  guildId : UInt32
  rname : String
  rights : UInt32

/-- A row of `guild_member`, joined with the character's. -/
structure MemberRow where
  guildId : UInt32
  guid : Nat
  rank : Nat
  name : String
  level : UInt8
  class_ : UInt8

namespace Guild

variable {om : ObjectMgr}

/-- The loop of `LoadRanksFromDB`: rows of a guild that is gone are skipped, and the rows of the next
guild stay for it. -/
def loadRanks (id : UInt32) : List RankRow → List RankInfo → List RankInfo × List RankRow
  | [], ranks => (ranks, [])
  | r :: rows, ranks =>
    if r.guildId < id then loadRanks id rows ranks
    else if id < r.guildId then (ranks, r :: rows)
    else loadRanks id rows (ranks ++ [⟨r.rname, if ranks = [] then r.rights ||| GR_RIGHT_ALL else r.rights⟩])

def loadRanksFromDB (getMangosString : GuildText → String) (g : Guild om) :
    Option (List RankRow) → Guild om × Option (List RankRow)
  | none => (g.createDefaultGuildRanks getMangosString, none)
  | some rows =>
    let (ranks, rest) := loadRanks g.id rows g.ranks
    if ranks.length < GUILD_RANKS_MIN_COUNT then
      ({ g with ranks := [] }.createDefaultGuildRanks getMangosString, some rest)
    else ({ g with ranks := ranks }, some rest)

variable (g : Guild om)

/-- The slot a member's row becomes, or `none` for a character that is broken or deleted. -/
def loadSlot (r : MemberRow) : Option MemberSlot :=
  if playable r.level r.class_ && r.name ≠ "" then
    -- don't allow member to have not existing rank!
    some ⟨r.name, if g.ranks.length ≤ r.rank then g.getLowestRank else r.rank⟩
  else none

def loadMembers (g : Guild om) : List MemberRow → Guild om × List MemberRow
  | [] => (g, [])
  | r :: rows =>
    if r.guildId < g.id then loadMembers g rows
    else if g.id < r.guildId then (g, r :: rows)
    else
      match g.loadSlot r with
      | none => loadMembers g rows
      | some slot => loadMembers { g with members := g.members.insert r.guid slot } rows

/-- `LoadMembersFromDB`: `none` for a guild without members. -/
def loadMembersFromDB : Option (List MemberRow) → Option (Guild om) × Option (List MemberRow)
  | none => (none, none)
  | some rows =>
    let (g', rest) := loadMembers g rows
    (if g'.members.entries = [] then none else some g', some rest)

/-- The loop of `CheckGuildStructure`: allow only 1 guildmaster, set other to officer. -/
def oneGuildmaster : Guild om :=
  { g with
    members := g.members.mapRows fun guid slot =>
      if slot.rankId = GR_GUILDMASTER ∧ g.leaderGuid ≠ guid then { slot with rankId := GR_OFFICER } else slot }

/-- `CheckGuildStructure`: `none` for a guild that is to be disbanded. -/
def checkGuildStructure (w : Walk Nat MemberSlot) : Option (Guild om) :=
  match g.getRank g.leaderGuid with
  | none => (g.removeMember w g.leaderGuid).map oneGuildmaster
  | some rank => some (if rank ≠ GR_GUILDMASTER then (g.setLeader g.leaderGuid).oneGuildmaster else g.oneGuildmaster)

end Guild

/-- The tables of all guilds, in the order the queries ask for: each guild has one row, and the ranks
and the members come guild by guild. -/
structure GuildTables where
  guilds : List GuildRow
  guilds_sorted : guilds.Pairwise fun a b => a.guildId < b.guildId
  ranks : List RankRow
  ranks_sorted : ranks.Pairwise fun a b => a.guildId ≤ b.guildId
  members : List MemberRow
  members_sorted : members.Pairwise fun a b => a.guildId ≤ b.guildId

def queried {α : Type} (rows : List α) : Option (List α) := if rows.isEmpty then none else some rows

section
variable {om : ObjectMgr} (getMangosString : GuildText → String) (w : Walk Nat MemberSlot)

/-- One turn of the loop of `LoadGuilds`: the guild, where it stands the checks, and what is left of
the two results. -/
def loadGuild (row : GuildRow) (ranks : Option (List RankRow)) (members : Option (List MemberRow)) :
    Option (Guild om) × Option (List RankRow) × Option (List MemberRow) :=
  let (g, ranks) := (Guild.empty row.guildId row.leaderGuid : Guild om).loadRanksFromDB getMangosString ranks
  let (g, members) := g.loadMembersFromDB members
  (g.bind fun g => g.checkGuildStructure w, ranks, members)

def loadGuildRows : List GuildRow → Option (List RankRow) → Option (List MemberRow) → List (Guild om)
  | [], _, _ => []
  | row :: rows, ranks, members =>
    let (g, ranks, members) := loadGuild getMangosString w row ranks members
    g.toList ++ loadGuildRows rows ranks members

def loadGuilds (t : GuildTables) : List (Guild om) :=
  loadGuildRows getMangosString w t.guilds (queried t.ranks) (queried t.members)

end

/-- The rank a new member is given: the lowest one, or one of a bot's own choice. -/
inductive JoinRank
  | lowest
  | bot (roll : Nat)

structure Sender where
  guid : Nat
  rank : Nat

/-- What happens to a guild. The requests are those of the client with the names already normalized,
the `gm` ones are game master's commands; `removeMember` is a removal that asks nobody (a game
master's, a deleted character's, a bot's). -/
inductive GuildEvent
  | join (guid : Nat) (found : Found) (rank : JoinRank)
  | removeMember (w : Walk Nat MemberSlot) (guid : Nat)
  | remove (w : Walk Nat MemberSlot) (sender : Sender) (name : String)
  | leave (w : Walk Nat MemberSlot) (guid : Nat)
  | disband (guid : Nat)
  | leader (w : Walk Nat MemberSlot) (sender : Sender) (name : String)
  | gmLeader (guid : Nat)
  | hardcoreDeath (w : Walk Nat MemberSlot) (log : List GuildEventLogEntry) (guid : Nat)
  | promote (w : Walk Nat MemberSlot) (sender : Sender) (name : String)
  | demote (w : Walk Nat MemberSlot) (sender : Sender) (name : String)
  | gmRank (guid newrank : Nat)
  | rank (sender : Sender) (rankId : Nat) (rights : UInt32) (name : String)
  | addRank (sender : Sender) (name : String)
  | delRank (sender : Sender)
  | unlockGuildBank (inferno : Bool) (ctx : Ctx) (money : UInt32) (db : CharacterDatabase) (query : UnlockQuery)
  | updateTab (inferno : Bool) (ctx : Ctx) (msg : GuildBank.TabMessage)

namespace Guild

variable {om : ObjectMgr}

variable (g : Guild om)

def joinRank : JoinRank → Nat
  | .lowest => g.getLowestRank
  | .bot roll => GR_OFFICER + roll % (GR_INITIATE - GR_OFFICER + 1)

def handleGuildRemove (w : Walk Nat MemberSlot) (sender : Sender) (name : String) : Option (Guild om) :=
  if !g.hasRankRight sender.rank GR_RIGHT_REMOVE then some g
  else
    match g.getMemberSlotByName w name with
    | none => some g
    | some (guid, slot) =>
      if slot.rankId = GR_GUILDMASTER then some g
      else if slot.rankId ≤ sender.rank then some g
      else g.removeMember w guid

def handleGuildLeave (w : Walk Nat MemberSlot) (guid : Nat) : Option (Guild om) :=
  if guid = g.leaderGuid ∧ 1 < g.members.entries.length then some g
  else if guid = g.leaderGuid then none
  else g.removeMember w guid

def handleGuildDisband (guid : Nat) : Option (Guild om) := if guid ≠ g.leaderGuid then some g else none

def handleGuildLeader (w : Walk Nat MemberSlot) (sender : Sender) (name : String) : Guild om :=
  if sender.guid ≠ g.leaderGuid then g
  else
    match g.getMemberSlot sender.guid, g.getMemberSlotByName w name with
    | some _, some (guid, _) => if sender.guid = guid then g else g.passLeader guid (some sender.guid)
    | _, _ => g

/-- `HandleGuildLeaderCommand`, for a player of this guild. -/
def handleGuildLeaderCommand (guid : Nat) : Guild om := if g.leaderGuid = guid then g else g.setNewLeader guid

def hardcoreDeath (w : Walk Nat MemberSlot) (log : List GuildEventLogEntry) (guid : Nat) : Guild om :=
  if g.leaderGuid = guid then
    match g.getSuitableNewLeader w log with
    | none => g
    | some new => g.passLeader new g.oldLeaderSlot
  else g

def handleGuildPromote (w : Walk Nat MemberSlot) (sender : Sender) (name : String) : Guild om :=
  if !g.hasRankRight sender.rank GR_RIGHT_PROMOTE then g
  else
    match g.getMemberSlotByName w name with
    | none => g
    | some (guid, slot) =>
      if guid = sender.guid then g
      else if slot.rankId ≤ sender.rank + 1 then g
      else g.changeRank guid (slot.rankId - 1)

def handleGuildDemote (w : Walk Nat MemberSlot) (sender : Sender) (name : String) : Guild om :=
  if !g.hasRankRight sender.rank GR_RIGHT_DEMOTE then g
  else
    match g.getMemberSlotByName w name with
    | none => g
    | some (guid, slot) =>
      if guid = sender.guid then g
      else if slot.rankId ≤ sender.rank then g
      else if g.getLowestRank ≤ slot.rankId then g
      else g.changeRank guid (slot.rankId + 1)

/-- `HandleGuildRankCommand`. -/
def handleGuildRankCommand (guid newrank : Nat) : Guild om :=
  if g.getLowestRank < newrank then g
  else
    match g.getMemberSlot guid with
    | none => g
    | some _ => g.changeRank guid newrank

def handleGuildRank (sender : Sender) (rankId : Nat) (rights : UInt32) (name : String) : Guild om :=
  if sender.guid ≠ g.leaderGuid then g
  else (g.setRankName rankId name).setRankRights rankId (if rankId = GR_GUILDMASTER then GR_RIGHT_ALL else rights)

def handleGuildAddRank (sender : Sender) (name : String) : Guild om :=
  if sender.guid ≠ g.leaderGuid then g
  else if GUILD_RANKS_MAX_COUNT ≤ g.ranks.length then g
  else g.createRank name (GR_RIGHT_GCHATLISTEN ||| GR_RIGHT_GCHATSPEAK)

def handleGuildDelRank (sender : Sender) : Guild om := if sender.guid ≠ g.leaderGuid then g else g.delRank

def setBank (inferno : Bool) (b : GuildBank om) : Guild om := { g with bank := Function.update g.bank inferno b }

def unlocked (inferno : Bool) (ctx : Ctx) (money : UInt32) (db : CharacterDatabase) (query : UnlockQuery) :
    GuildBank om :=
  (World.handleAddonMessages ctx ⟨⟨0, ∅, 0, money⟩, g.bank inferno, db, []⟩ (.unlockGuildBank query)).bank

def handle : GuildEvent → Option (Guild om)
  | .join guid found rank => some (g.addMember guid found (g.joinRank rank)).1
  | .removeMember w guid => g.removeMember w guid
  | .remove w sender name => g.handleGuildRemove w sender name
  | .leave w guid => g.handleGuildLeave w guid
  | .disband guid => g.handleGuildDisband guid
  | .leader w sender name => some (g.handleGuildLeader w sender name)
  | .gmLeader guid => some (g.handleGuildLeaderCommand guid)
  | .hardcoreDeath w log guid => some (g.hardcoreDeath w log guid)
  | .promote w sender name => some (g.handleGuildPromote w sender name)
  | .demote w sender name => some (g.handleGuildDemote w sender name)
  | .gmRank guid newrank => some (g.handleGuildRankCommand guid newrank)
  | .rank sender rankId rights name => some (g.handleGuildRank sender rankId rights name)
  | .addRank sender name => some (g.handleGuildAddRank sender name)
  | .delRank sender => some (g.handleGuildDelRank sender)
  | .unlockGuildBank inferno ctx money db query => some (g.setBank inferno (g.unlocked inferno ctx money db query))
  | .updateTab inferno ctx msg => some (g.setBank inferno ((g.bank inferno).updateTab ctx g.ranks.length msg))

end Guild

def step {om : ObjectMgr} (s : Option (Guild om)) (a : GuildEvent) : Option (Guild om) := s.bind fun g => g.handle a

end ComfyCraft.GuildMgr
