import ComfyCraft.Lib.Table
import Mathlib.Data.List.Dedup

/-! One battleground queue: the queued players, the groups they are queued in and the lists of the groups,
and the battlegrounds of the queue's type with their invited counts.

Groups are objects with an identity: a player's entry and the lists point at them. A group's players are a list
for the map, nothing depends on their order. -/

namespace ComfyCraft.BattleGroundMgr

abbrev Guid := UInt64

abbrev MAX_BATTLEGROUND_BRACKETS : Nat := 8

instance : NeZero MAX_BATTLEGROUND_BRACKETS := ⟨by decide⟩

abbrev BattleGroundBracketId := Fin MAX_BATTLEGROUND_BRACKETS

inductive Team
  | ALLIANCE
  | HORDE
deriving DecidableEq

def Team.index : Team → Nat
  | .ALLIANCE => 0
  | .HORDE => 1

def Team.other : Team → Team
  | .ALLIANCE => .HORDE
  | .HORDE => .ALLIANCE

inductive BattleGroundStatus
  | WAIT_QUEUE
  | WAIT_JOIN
  | IN_PROGRESS
  | WAIT_LEAVE
deriving DecidableEq

structure PlayerQueueInfo where
  online : Bool
  LastOnlineTime : UInt32
  GroupInfo : Nat

structure GroupQueueInfo where
  Players : List Guid
  GroupTeam : Team
  JoinTime : UInt32
  RemoveInviteTime : UInt32
  IsInvitedToBGInstanceGUID : Nat
  DesiredInstanceId : Nat
  BracketId : BattleGroundBracketId

/-- The queue, with the groups that are allocated (`nextGroup` is the next address). The lists are by bracket
and by `BattleGroundQueueGroupTypes`: premade alliance, premade horde, normal alliance, normal horde. -/
structure Queue where
  m_QueuedPlayers : Table Guid PlayerQueueInfo
  groups : Nat → Option GroupQueueInfo
  nextGroup : Nat
  m_QueuedGroups : BattleGroundBracketId → Nat → List Nat

structure BattleGround where
  bracketId : BattleGroundBracketId
  clientInstanceID : Nat
  status : BattleGroundStatus
  m_MaxPlayersPerTeam : UInt32
  m_MaxPlayers : UInt32
  m_InvitedAlliance : UInt32
  m_InvitedHorde : UInt32
  m_Players : Table Guid Team

namespace BattleGround

variable (bg : BattleGround)

def getInvitedCount : Team → UInt32
  | .ALLIANCE => bg.m_InvitedAlliance
  | .HORDE => bg.m_InvitedHorde

def decreaseInvitedCount : Team → BattleGround
  | .ALLIANCE => { bg with m_InvitedAlliance := bg.m_InvitedAlliance - 1 }
  | .HORDE => { bg with m_InvitedHorde := bg.m_InvitedHorde - 1 }

def increaseInvitedCount : Team → BattleGround
  | .ALLIANCE => { bg with m_InvitedAlliance := bg.m_InvitedAlliance + 1 }
  | .HORDE => { bg with m_InvitedHorde := bg.m_InvitedHorde + 1 }

def getFreeSlotsForTeam (team : Team) : Nat :=
  if bg.status = .WAIT_JOIN ∨ bg.status = .IN_PROGRESS then
    if bg.getInvitedCount team < bg.m_MaxPlayersPerTeam then (bg.m_MaxPlayersPerTeam - bg.getInvitedCount team).toNat else 0
  else 0

def hasFreeSlots : Bool := bg.m_Players.entries.length < bg.m_MaxPlayers.toNat

end BattleGround

/-- What a player has of this queue and its battlegrounds: the `invitedToInstance` of the slot with this queue's
id, if there is one, and the battleground the player is in or under way to. -/
structure PlayerData where
  bgQueueSlot : Option Nat
  bgInstanceID : Nat
  bgTeam : Team

/-- The queue, its battlegrounds and the players. `arriving` are the players in the far teleport of a port.
`counted` is no data of the program: the invitations that were counted and are still open. -/
structure State where
  queue : Queue
  m_BattleGrounds : Table Nat BattleGround
  BGFreeSlotQueue : List Nat
  nextInstance : Nat
  players : Guid → PlayerData
  arriving : Table Guid (Nat × Team)
  counted : Table Guid (Nat × Team)

/-! ### Joining -/

/-- What `AddGroup` is told of a group besides its members. -/
structure Joining where
  GroupTeam : Team
  JoinTime : UInt32
  BracketId : BattleGroundBracketId
  isPremade : Bool
  DesiredInstanceId : Nat

namespace Queue

def joinIndex (isPremade : Bool) (team : Team) : Nat := (if isPremade then 0 else 2) + team.index

variable (q : Queue) (guid : Guid)

def setList (b : BattleGroundBracketId) (j : Nat) (l : List Nat) : Queue :=
  { q with m_QueuedGroups := fun b' j' => if b' = b ∧ j' = j then l else q.m_QueuedGroups b' j' }

def setGroup (id : Nat) (g : Option GroupQueueInfo) : Queue := { q with groups := Function.update q.groups id g }

/-- A new group of these players: their entries are written, and the group is listed unless it is empty. -/
def newGroup (joining : Joining) (players : List Guid) : Queue :=
  let id := q.nextGroup
  let q := { q with
    m_QueuedPlayers := players.foldl (fun t g => t.insert g ⟨true, 0, id⟩) q.m_QueuedPlayers
    groups := Function.update q.groups id
      (some ⟨players.dedup, joining.GroupTeam, joining.JoinTime, 0, 0, joining.DesiredInstanceId, joining.BracketId⟩)
    nextGroup := id + 1 }
  let j := joinIndex joining.isPremade joining.GroupTeam
  if players.isEmpty then q else q.setList joining.BracketId j (q.m_QueuedGroups joining.BracketId j ++ [id])

/-- `AddGroup` without a group. -/
def addPlayer (joining : Joining) (leader : Guid) : Queue := q.newGroup joining [leader]

/-- `AddGroup` with a group. Above the limit its members queue one by one, and the group of them all stays empty. -/
def addGroup (groupLimit : Nat) (joining : Joining) (membersCount : Nat) (members : List (Guid × Team))
    (excludedMembers : List Guid) : Queue :=
  let members := members.filter fun m => m.1 ∉ excludedMembers
  if groupLimit < membersCount then
    members.foldl (fun q m => q.addPlayer { joining with GroupTeam := m.2, isPremade := false } m.1) (q.newGroup joining [])
  else q.newGroup joining (members.map Prod.fst)

/-! ### Leaving -/

/-- The search of `RemovePlayer`: from the highest bracket down, in the lists of the group's team; the list found
last in a bracket counts. -/
def findGroup (team : Team) (id : Nat) : Option (BattleGroundBracketId × Nat) :=
  (List.finRange MAX_BATTLEGROUND_BRACKETS).reverse.findSome? fun b =>
    ([team.index, team.index + 2].filter fun j => id ∈ q.m_QueuedGroups b j).getLast?.map fun j => (b, j)

/-- `RemovePlayer`, as far as the queue goes: out of the group, out of the map, and the group itself when it is empty. -/
def removePlayer (id : Nat) (group : GroupQueueInfo) : Queue :=
  let rest := group.Players.erase guid
  let place := q.findGroup group.GroupTeam id
  let q := { q with m_QueuedPlayers := q.m_QueuedPlayers.erase guid }.setGroup id (some { group with Players := rest })
  match place with
  | none => q
  | some (b, j) => if rest.isEmpty then (q.setList b j ((q.m_QueuedGroups b j).erase id)).setGroup id none else q

def groupOf : Option (Nat × GroupQueueInfo) :=
  (q.m_QueuedPlayers.lookup guid).bind fun info => (q.groups info.GroupInfo).map fun group => (info.GroupInfo, group)

def setOnline (f : PlayerQueueInfo → PlayerQueueInfo) : Queue :=
  match q.m_QueuedPlayers.lookup guid with
  | some info => { q with m_QueuedPlayers := q.m_QueuedPlayers.insert guid (f info) }
  | none => q

def playerLoggedOut (now : UInt32) : Queue :=
  q.setOnline guid fun info => { info with LastOnlineTime := now, online := false }

def playerLoggedIn : Queue := q.setOnline guid fun info => { info with online := true }

end Queue

namespace State

variable (s : State)

def updateBG (b : Nat) (f : BattleGround → BattleGround) : State :=
  match s.m_BattleGrounds.lookup b with
  | some bg => { s with m_BattleGrounds := s.m_BattleGrounds.insert b (f bg) }
  | none => s

def setPlayer (guid : Guid) (f : PlayerData → PlayerData) : State :=
  { s with players := Function.update s.players guid (f (s.players guid)) }

def removeBattleGroundQueueId (guid : Guid) : State := s.setPlayer guid fun p => { p with bgQueueSlot := none }

def removePlayer (guid : Guid) (decreaseInvitedCount : Bool) : State :=
  match s.queue.groupOf guid with
  | none => s
  | some (id, group) =>
    let s := { s with queue := s.queue.removePlayer guid id group, counted := s.counted.erase guid }
    if decreaseInvitedCount && group.IsInvitedToBGInstanceGUID ≠ 0 then
      s.updateBG group.IsInvitedToBGInstanceGUID fun bg => bg.decreaseInvitedCount group.GroupTeam
    else s

/-! ### Inviting -/

end State

/-- A player whom `FindPlayer` finds in the world. -/
structure PlayerStatus where
  isConnected : Bool
  isLogingOut : Bool
  inBattleGround : Bool
  isTaxiFlying : Bool

/-- The world during an update: who is found in it, the time, how the lists are shuffled and which number the client
is shown for a new battleground. `beyondEmpty` is what `IsAllQueuesEmpty` reads past the lists of the bracket. -/
structure World where
  findPlayer : Guid → Option PlayerStatus
  now : UInt32
  shuffle : List Nat → List Nat
  shuffle_perm : ∀ l, (shuffle l).Perm l
  clientInstanceID : Nat → Nat
  beyondEmpty : Bool

/-- `InviteGroupToBG` invites the players it finds, connected, not logging out and in no battleground. -/
def World.invites (w : World) (guid : Guid) : Bool :=
  (w.findPlayer guid).any fun p => p.isConnected && !p.isLogingOut && !p.inBattleGround

def INVITE_ACCEPT_WAIT_TIME : UInt32 := 80000

namespace State

def invitePlayer (s : State) (b : Nat) (team : Team) (guid : Guid) : State :=
  let s := s.updateBG b fun bg => bg.increaseInvitedCount team
  let s := s.setPlayer guid fun p => { p with bgQueueSlot := p.bgQueueSlot.map fun _ => b }
  { s with counted := s.counted.insert guid (b, team) }

/-- `InviteGroupToBG`. Each side is given as the group's own team. -/
def inviteGroupToBG (s : State) (w : World) (b : Nat) (id : Nat) : State :=
  match s.queue.groups id with
  | none => s
  | some ginfo =>
    if ginfo.IsInvitedToBGInstanceGUID = 0 then
      let invited := { ginfo with IsInvitedToBGInstanceGUID := b, RemoveInviteTime := w.now + INVITE_ACCEPT_WAIT_TIME }
      (ginfo.Players.filter w.invites).foldl (fun s guid => s.invitePlayer b ginfo.GroupTeam guid)
        { s with queue := s.queue.setGroup id (some invited) }
    else s

end State

end ComfyCraft.BattleGroundMgr
