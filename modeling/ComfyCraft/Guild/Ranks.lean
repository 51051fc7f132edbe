import ComfyCraft.GuildBank.Handlers

/-! A guild: its ranks, its members with their ranks, its leader and its two banks, as they are made
by `Guild::Create` or read from the tables, and every command that changes them. Ranks and players'
numbers are natural numbers; notes, emblems, the event log and what is sent to clients are left out. -/

namespace ComfyCraft.GuildMgr

def GUILD_RANKS_MIN_COUNT : Nat := 5
def GUILD_RANKS_MAX_COUNT : Nat := 10

def GR_GUILDMASTER : Nat := 0
def GR_OFFICER : Nat := 1
def GR_INITIATE : Nat := 4

def GR_RIGHT_EMPTY : UInt32 := 0x00000040
def GR_RIGHT_GCHATLISTEN : UInt32 := 0x00000041
def GR_RIGHT_GCHATSPEAK : UInt32 := 0x00000042
def GR_RIGHT_PROMOTE : UInt32 := 0x000000C0
def GR_RIGHT_DEMOTE : UInt32 := 0x00000140
def GR_RIGHT_REMOVE : UInt32 := 0x00000060
def GR_RIGHT_ALL : UInt32 := 0x000FF1FF

def PLAYER_STRONG_MAX_LEVEL : UInt8 := 255

def MAX_WEEKLY_WITHDRAWALS : UInt8 := 5

/-- `CLASSMASK_ALL_PLAYABLE`: the bit of each class a player can have. -/
def CLASSMASK_ALL_PLAYABLE : Nat := ([1, 2, 3, 4, 5, 7, 8, 9, 11].map fun c => 1 <<< (c - 1)).sum

structure MemberSlot where
  name : String
  rankId : Nat
deriving DecidableEq

structure RankInfo where
  name : String
  rights : UInt32
deriving DecidableEq

abbrev MemberList := Table Nat MemberSlot

structure Guild (om : ObjectMgr) where
  id : UInt32
  leaderGuid : Nat
  members : MemberList
  ranks : List RankInfo
  /-- `_Bank` and `_InfernoBank`. -/
  bank : Bool → GuildBank om

/-- An entry of `m_GuildEventLog`: only invitations are looked for in it. -/
structure GuildEventLogEntry where
  invite : Bool
  playerGuid2 : Nat

/-- What is known of a player at the time they are added: online with a guild number, or offline with
what the cache of characters has. -/
inductive Found
  | online (guildId : UInt32) (name : String)
  | cached (name : String) (level class_ : UInt8)
  | unknown

/-- Online and in no guild: `AddMember` then does not look whether the player is a member. -/
def Found.guildless : Found → Bool
  | .online guildId _ => guildId = 0
  | .cached _ _ _ => false
  | .unknown => false

inductive GuildAddStatus
  | ok
  | alreadyInGuild
  | unknownPlayer
  | playerDataError
deriving DecidableEq

inductive GuildText
  | guildMaster
  | guildOfficer
  | guildVeteran
  | guildMember
  | guildInitiate

/-- A character's level and class are such as a player can have. -/
def playable (level class_ : UInt8) : Bool :=
  1 ≤ level && level ≤ PLAYER_STRONG_MAX_LEVEL && CLASSMASK_ALL_PLAYABLE.testBit ((class_ - 1).toNat % 32)

/-- The tab of a bank with its minimum rank lowered by one when it names the rank. -/
def lowerMinrank (rank : Nat) (tab : BankTab) : BankTab :=
  if tab.minrank.toNat = rank then { tab with minrank := tab.minrank - 1 } else tab

end GuildMgr

namespace GuildBank

variable {om : ObjectMgr}

def updateMinranks (b : GuildBank om) (rank : Nat) : GuildBank om :=
  { b with
    bTabInfo := fun tab =>
      if 1 ≤ tab.toUInt32 ∧ tab.toUInt32 ≤ MAX_TABS then GuildMgr.lowerMinrank rank (b.bTabInfo tab) else b.bTabInfo tab
    bTabsChanged := b.bTabsChanged ||
      [(1 : UInt8), 2, 3, 4, 5].any fun tab => (b.bTabInfo tab).minrank.toNat = rank }

/-- The fields of an `UpdateTab` message. -/
structure TabMessage where
  tab : UInt8
  name : String
  icon : String
  withdrawals : UInt8
  minrank : UInt8

/-- The checks of `UpdateTab`, with those made of every message before it. -/
def refusesTab (b : GuildBank om) (ctx : Ctx) (ranksSize : Nat) (msg : TabMessage) : Bool :=
  !ctx.canUseGuildBank || b.bSaveLock || b.bTabs = 0 || ctx.playerRankIndex ≠ 0 ||
    msg.name = "" || 30 < msg.name.length || msg.icon = "" || 63 < msg.icon.length ||
    GuildMgr.MAX_WEEKLY_WITHDRAWALS < msg.withdrawals || ranksSize < msg.minrank.toNat

/-- `UpdateTab`; the save that follows changes no tab. -/
def updateTab (b : GuildBank om) (ctx : Ctx) (ranksSize : Nat) (msg : TabMessage) : GuildBank om :=
  if b.refusesTab ctx ranksSize msg then b
  else { b with bTabInfo := Function.update b.bTabInfo msg.tab ⟨msg.withdrawals, msg.minrank⟩ }

end GuildBank

namespace GuildMgr

namespace Guild

variable {om : ObjectMgr}

variable (g : Guild om) (w : Walk Nat MemberSlot) (name : String) (guid : Nat)

def getMemberSlot : Option MemberSlot := g.members.lookup guid

/-- `GetRank`. -/
def getRank : Option Nat := (g.getMemberSlot guid).map MemberSlot.rankId

/-- `GetMemberSlot(std::string)`: the first slot of that name on a walk of the members. -/
def getMemberSlotByName : Option (Nat × MemberSlot) :=
  ((w.rows g.members).find? fun e => e.2.name = name).map fun e => (e.1, e.2)

/-- `GetLowestRank`, for a guild with ranks. -/
def getLowestRank : Nat := g.ranks.length - 1

def getRankRights (rankId : Nat) : UInt32 :=
  match g.ranks[rankId]? with
  | none => 0
  | some rank => rank.rights

def hasRankRight (rankId : Nat) (right : UInt32) : Bool := g.getRankRights rankId &&& right ≠ GR_RIGHT_EMPTY

def addRank (rights : UInt32) : Guild om := { g with ranks := g.ranks ++ [⟨name, rights⟩] }

def createRank (rights : UInt32) : Guild om :=
  if GUILD_RANKS_MAX_COUNT ≤ g.ranks.length then g else g.addRank name rights

/-- `CreateDefaultGuildRanks`, with the texts of the server's language. -/
def createDefaultGuildRanks (getMangosString : GuildText → String) : Guild om :=
  let member := GR_RIGHT_GCHATLISTEN ||| GR_RIGHT_GCHATSPEAK
  let g1 := g.createRank (getMangosString .guildMaster) GR_RIGHT_ALL
  let g2 := g1.createRank (getMangosString .guildOfficer) GR_RIGHT_ALL
  let g3 := g2.createRank (getMangosString .guildVeteran) member
  let g4 := g3.createRank (getMangosString .guildMember) member
  g4.createRank (getMangosString .guildInitiate) member

/-- `MemberSlot::ChangeRank`. -/
def changeRank (newRank : Nat) : Guild om :=
  match g.members.lookup guid with
  | none => g
  | some slot => { g with members := g.members.insert guid { slot with rankId := newRank } }

def setLeader : Guild om :=
  match g.getMemberSlot guid with
  | none => g
  | some _ => { g with leaderGuid := guid }.changeRank guid GR_GUILDMASTER

/-- The best rank of a member other than `lowGuid`, the first of equals. -/
def bestRank (lowGuid : Nat) : List (Sigma fun _ : Nat => MemberSlot) → Option (Nat × MemberSlot) → Option (Nat × MemberSlot)
  | [], best => best
  | e :: es, best =>
    if e.1 = lowGuid then bestRank lowGuid es best
    else
      match best with
      | none => bestRank lowGuid es (some (e.1, e.2))
      | some (guid, slot) => bestRank lowGuid es (if e.2.rankId < slot.rankId then some (e.1, e.2) else some (guid, slot))

/-- The member invited longest ago, of those the log knows, who is an officer now. -/
def oldestOfficer (g : Guild om) (lowGuid : Nat) : List GuildEventLogEntry → Option Nat
  | [] => none
  | event :: log =>
    if !event.invite || event.playerGuid2 = lowGuid then oldestOfficer g lowGuid log
    else
      match g.getMemberSlot event.playerGuid2 with
      | some slot => if slot.rankId = GR_OFFICER then some event.playerGuid2 else oldestOfficer g lowGuid log
      | none => oldestOfficer g lowGuid log

/-- `GetSuitableNewLeader`; `log` is the event log when the oldest officer is preferred, else empty. -/
def getSuitableNewLeader (log : List GuildEventLogEntry) : Option Nat :=
  match g.oldestOfficer g.leaderGuid log with
  | some guid => some guid
  | none => (bestRank g.leaderGuid (w.rows g.members) none).map Prod.fst

/-- `SetNewLeader` of two slots: the old leader, where there is one, is an officer from now on. -/
def passLeader (newLeader : Nat) (oldLeader : Option Nat) : Guild om :=
  match oldLeader with
  | none => g.setLeader newLeader
  | some guid => (g.setLeader newLeader).changeRank guid GR_OFFICER

def oldLeaderSlot : Option Nat := (g.getMemberSlot g.leaderGuid).map fun _ => g.leaderGuid

/-- `SetNewLeader` of a guid. -/
def setNewLeader (newLeader : Nat) : Guild om :=
  match g.getMemberSlot newLeader, g.oldLeaderSlot with
  | some _, some old => if newLeader = old then g else g.passLeader newLeader (some old)
  | _, _ => g

/-- `DelMember`: `none` when nobody is left to lead. The flag says that no member is left. -/
def delMember : Option (Guild om) :=
  if g.leaderGuid = guid then
    match g.getSuitableNewLeader w [] with
    | none => none
    | some best =>
      let g' := g.passLeader best g.oldLeaderSlot
      some { g' with members := g'.members.erase guid }
  else some { g with members := g.members.erase guid }

/-- A call of `DelMember` with what every caller does after it: an empty guild, or one with nobody to
lead it, is disbanded. -/
def removeMember : Option (Guild om) :=
  (g.delMember w guid).filter fun g' => g'.members.entries ≠ []

def addMember (found : Found) (rank : Nat) : Guild om × GuildAddStatus :=
  match found with
  | .online guildId name =>
    if guildId ≠ 0 then (g, .alreadyInGuild)
    else ({ g with members := g.members.insert guid ⟨name, rank % 256⟩ }, .ok)
  | .cached name level class_ =>
    if (g.members.lookup guid).isSome then (g, .alreadyInGuild)
    else if name = "" then (g, .unknownPlayer)
    else if !playable level class_ then (g, .playerDataError)
    else ({ g with members := g.members.insert guid ⟨name, rank⟩ }, .ok)
  | .unknown => if (g.members.lookup guid).isSome then (g, .alreadyInGuild) else (g, .unknownPlayer)

def delRank : Guild om :=
  if g.ranks.length ≤ GUILD_RANKS_MIN_COUNT then g
  else
    { g with
      bank := fun k => (g.bank k).updateMinranks g.getLowestRank
      ranks := g.ranks.dropLast }

def setRankName (rankId : Nat) (name : String) : Guild om :=
  { g with ranks := g.ranks.modify rankId fun rank => { rank with name := name } }

def setRankRights (rankId : Nat) (rights : UInt32) : Guild om :=
  { g with ranks := g.ranks.modify rankId fun rank => { rank with rights := rights } }

/-- `AddGuild`: the banks are made and loaded. -/
def addGuild (db : CharacterDatabase) (log : Bool → List BankLog) : Guild om :=
  { g with bank := fun k => (GuildBank.create k).setGuild db g.id (log k) }

def empty (id : UInt32) (leader : Nat) : Guild om := ⟨id, leader, ∅, [], GuildBank.create⟩

/-- `Guild::Create` for a leader, then the signers of the petition, if there is one. -/
def create (getMangosString : GuildText → String) (id : UInt32) (leader : Nat) (found : Found) (signatures : List (Nat × Found)) :
    Option (Guild om) :=
  match ((empty id leader).createDefaultGuildRanks getMangosString).addMember leader found GR_GUILDMASTER with
  | (g, .ok) => some (signatures.foldl (fun g s => if s.1 = 0 then g else (g.addMember s.1 s.2 g.getLowestRank).1) g)
  | _ => none

end Guild

end GuildMgr

end ComfyCraft
