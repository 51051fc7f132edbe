import ComfyCraft.Battlegrounds.Update

/-! What players do to the queue and its battlegrounds, and what the battlegrounds do to them. -/

namespace ComfyCraft.BattleGroundMgr

structure Member where
  guid : Guid
  team : Team
  isInWorld : Bool
  bracket : BattleGroundBracketId
  canJoinToBattleground : Bool
  hasFreeBattleGroundQueueId : Bool
  inBattleGround : Bool

inductive BattleGroundJoinError
  | GROUP_NOT_ENOUGH
  | GROUP_TOO_MANY
  | OFFLINE_MEMBER
  | MIXED_FACTION
  | GROUP_MEMBER_ALREADY_IN_QUEUE
  | GROUP_DESERTER
  | ALL_QUEUES_USED

/-- A group lists each of its members once; `membersCount` counts the ones who are offline too. -/
structure Group where
  membersCount : Nat
  members : List Member
  members_nodup : (members.map Member.guid).Nodup

def Group.joins (grp : Group) : List (Guid × Team) := grp.members.map fun m => (m.guid, m.team)

namespace State

/-- The checks of one member; `bracket` is the leader's, where a member of another is excluded and not refused. -/
def memberError (tagInBattlegrounds : Bool) (s : State) (team : Team) (m : Member) : Option BattleGroundJoinError :=
  if !m.isInWorld then some .OFFLINE_MEMBER
  else if m.team ≠ team then some .MIXED_FACTION
  else if (s.players m.guid).bgQueueSlot.isSome then some .GROUP_MEMBER_ALREADY_IN_QUEUE
  else if !m.canJoinToBattleground then some .GROUP_DESERTER
  else if !m.hasFreeBattleGroundQueueId then some .ALL_QUEUES_USED
  else if !tagInBattlegrounds && m.inBattleGround then some .OFFLINE_MEMBER
  else none

variable (conf : Conf) (s : State) (b : Nat) (guid : Guid)

/-- `Group::CanJoinBattleGroundQueue` and, with the same counts for both bounds, `Group::CanJoinArenaQueue`. -/
def canJoinBattleGroundQueue (grp : Group) (minPlayerCount maxPlayerCount : Nat) (team : Team) :
    Option BattleGroundJoinError :=
  if grp.membersCount < minPlayerCount then some .GROUP_NOT_ENOUGH
  else if maxPlayerCount < grp.membersCount then some .GROUP_TOO_MANY
  else grp.members.findSome? (s.memberError conf.tagInBattlegrounds team)

def excludedMembers (grp : Group) (bracket : BattleGroundBracketId) : List Guid :=
  (grp.members.filter fun m => m.bracket ≠ bracket).map Member.guid

/-- `AddBattleGroundQueueId`: the slot there is, or a free one. -/
def addBattleGroundQueueId (hasFree : Bool) : State :=
  s.setPlayer guid fun p => { p with bgQueueSlot := if p.bgQueueSlot.isSome || hasFree then some 0 else none }

def addQueue (q : Queue) : State := { s with queue := q }

/-- `HandleBattlemasterJoinOpcode` of one player; `refused` are its checks of the place, the map and the player. -/
def handleBattlemasterJoin (joining : Joining) (refused : Bool) : State :=
  if refused || (s.players guid).bgInstanceID ≠ 0 || (s.players guid).bgQueueSlot.isSome then s
  else (s.addQueue (s.queue.addPlayer { joining with isPremade := false } guid)).addBattleGroundQueueId guid true

/-- `HandleBattlemasterJoinOpcode` of a group. -/
def handleBattlemasterJoinAsGroup (grp : Group) (joining : Joining) (refused : Bool) : State :=
  if refused || (s.players guid).bgInstanceID ≠ 0 || conf.isAV then s
  else if (s.canJoinBattleGroundQueue conf grp 0 conf.m_MaxPlayersPerTeam.toNat joining.GroupTeam).isSome then s
  else
    let isPremade := conf.premadeWaitForMatch ≠ 0 && conf.premadeQueueGroupMinSize ≤ grp.membersCount
    let excluded := excludedMembers grp joining.BracketId
    let s := s.addQueue (s.queue.addGroup conf.groupLimit { joining with isPremade := isPremade } grp.membersCount grp.joins excluded)
    (grp.members.filter fun m => m.guid ∉ excluded).foldl (fun s m => s.addBattleGroundQueueId m.guid true) s

/-- `Player::AddToArenaQueue`, which the arena master's gossip calls; it does not ask whether a player alone is
queued already. -/
def addToArenaQueue (grp : Option Group) (joining : Joining) (queuedAsGroup refused : Bool) (hasFree : Guid → Bool) : State :=
  let joining := { joining with isPremade := false, DesiredInstanceId := 0 }
  if refused then s
  else match grp with
    | none => (s.addQueue (s.queue.addPlayer joining guid)).addBattleGroundQueueId guid (hasFree guid)
    | some grp =>
      if (s.canJoinBattleGroundQueue conf grp 3 3 joining.GroupTeam).isSome then s
      else
        let s := s.addQueue (s.queue.addGroup conf.groupLimit joining grp.membersCount grp.joins [])
        if queuedAsGroup then grp.members.foldl (fun s m => s.addBattleGroundQueueId m.guid (hasFree m.guid)) s
        else s.addBattleGroundQueueId guid (hasFree guid)

/-- `BattleGround::RemovePlayerAtLeave`. -/
def removePlayerAtLeave : State :=
  match s.m_BattleGrounds.lookup b with
  | none => s
  | some bg =>
    let s := match bg.m_Players.lookup guid with
      | none => s
      | some team =>
        let left : BattleGround := { bg with m_Players := bg.m_Players.erase guid }
        let s : State := { s with m_BattleGrounds := s.m_BattleGrounds.insert b (left.decreaseInvitedCount team) }
        let s := s.removeBattleGroundQueueId guid
        if bg.status = BattleGroundStatus.WAIT_LEAVE ∨ b ∈ s.BGFreeSlotQueue then s else { s with BGFreeSlotQueue := b :: s.BGFreeSlotQueue }
    s.setPlayer guid fun p => { p with bgInstanceID := 0 }

/-- `Player::LeaveBattleground`. -/
def leaveBattleground : State :=
  if (s.players guid).bgInstanceID = 0 then s else s.removePlayerAtLeave (s.players guid).bgInstanceID guid

/-- What `HandleBattleFieldPortOpcode` asks about the player. -/
structure PortChecks where
  inOtherQueue : Bool
  canJoinToBattleground : Bool
  inCombatAndPvP : Bool
  levelTooHigh : Bool

def leaveQueue : State := (s.removeBattleGroundQueueId guid).removePlayer guid true

/-- The port itself: out of the queue, out of the battleground the player is in, and on the way to the new one. -/
def portToBattleGround (ginfo : GroupQueueInfo) : State :=
  let s := (s.removePlayer guid false).leaveBattleground guid
  let s := s.setPlayer guid fun p => { p with bgInstanceID := ginfo.IsInvitedToBGInstanceGUID, bgTeam := ginfo.GroupTeam }
  { s with arriving := s.arriving.insert guid (ginfo.IsInvitedToBGInstanceGUID, ginfo.GroupTeam) }

/-- What `HandleBattleFieldPortOpcode` comes to: nothing, entering (`true`) or leaving the queue (`false`). A player
who may not enter leaves. -/
def portAction (action : Bool) (checks : PortChecks) (ginfo : GroupQueueInfo) : Option Bool :=
  if (s.players guid).bgQueueSlot.isNone && !checks.inOtherQueue then none
  else if !action then some false
  else if ginfo.IsInvitedToBGInstanceGUID = 0 then none
  else match s.m_BattleGrounds.lookup ginfo.IsInvitedToBGInstanceGUID with
    | none => none
    | some bg =>
      if checks.inCombatAndPvP then none
      else if !checks.canJoinToBattleground || checks.levelTooHigh || bg.status = .WAIT_LEAVE then some false
      else if (s.players guid).bgQueueSlot = none ∨ (s.players guid).bgQueueSlot = some 0 then none
      else some true

def handleBattleFieldPort (action : Bool) (checks : PortChecks) : State :=
  match s.queue.groupOf guid with
  | none => s
  | some (_, ginfo) =>
    match s.portAction guid action checks ginfo with
    | none => s
    | some true => s.portToBattleGround guid ginfo
    | some false => s.leaveQueue guid

/-- The battleground part of `HandleMoveWorldportAckOpcode`. -/
def worldportAck : State :=
  match s.arriving.lookup guid with
  | none => s
  | some _ =>
    let p := s.players guid
    let s := { s with arriving := s.arriving.erase guid }
    if p.bgInstanceID ≠ 0 ∧ p.bgQueueSlot = some p.bgInstanceID then
      s.updateBG p.bgInstanceID fun bg => { bg with m_Players := bg.m_Players.insert guid p.bgTeam }
    else s

/-- `BGQueueRemoveEvent::Execute`, for a player who is there. -/
def removeEvent (bgInstanceGUID : Nat) (removeTime : UInt32) : State :=
  match s.queue.groupOf guid with
  | none => s
  | some (_, ginfo) =>
    if (s.players guid).bgQueueSlot.isSome ∧ ginfo.IsInvitedToBGInstanceGUID = bgInstanceGUID ∧ ginfo.RemoveInviteTime = removeTime then
      s.leaveQueue guid
    else s

/-- The queue's part of `Player::GiveLevel`, at a level of another bracket. -/
def giveLevel : State :=
  if (s.players guid).bgQueueSlot.isSome ∧ (s.queue.groupOf guid).isSome then s.leaveQueue guid else s

/-- `WorldSession::LogoutPlayer`: the transfer is finished, the battleground left, the queue told. -/
def logoutPlayer (now : UInt32) : State :=
  let s := (s.worldportAck guid).leaveBattleground guid
  if (s.players guid).bgQueueSlot.isSome then
    (s.removeBattleGroundQueueId guid).addQueue (s.queue.playerLoggedOut guid now)
  else s

/-- `BattleGroundMgr::PlayerLoggedIn`, where it asks this queue. -/
def playerLoggedIn : State :=
  if !conf.askedAtLogin then s
  else match s.queue.groupOf guid with
    | none => s
    | some (_, ginfo) =>
      (s.addQueue (s.queue.playerLoggedIn guid)).setPlayer guid fun p =>
        { p with bgQueueSlot := some ginfo.IsInvitedToBGInstanceGUID }

/-! ### The battlegrounds -/

def setStatus (status : BattleGroundStatus) : State := s.updateBG b fun bg => { bg with status := status }

/-- `EndBattleGround`. -/
def endBattleGround : State :=
  { s.setStatus b .WAIT_LEAVE with BGFreeSlotQueue := s.BGFreeSlotQueue.erase b }

def deleteBattleGround : State :=
  { s with m_BattleGrounds := s.m_BattleGrounds.erase b, BGFreeSlotQueue := s.BGFreeSlotQueue.erase b }

/-- The part of `BattleGround::Update` that deletes: an ended battleground after its time, with everybody in it
leaving, and one with nobody in it and nobody invited. -/
def battleGroundUpdate (timeOver : Bool) : State :=
  match s.m_BattleGrounds.lookup b with
  | none => s
  | some bg =>
    if bg.status = .WAIT_LEAVE ∧ timeOver then
      ((bg.m_Players.ordered.map Sigma.fst).foldl (fun s guid => s.removePlayerAtLeave b guid) s).deleteBattleGround b
    else if bg.m_Players.entries.isEmpty && bg.m_InvitedAlliance = 0 && bg.m_InvitedHorde = 0 then s.deleteBattleGround b
    else s

end State

inductive Event
  | handleBattlemasterJoin (guid : Guid) (joining : Joining) (refused : Bool)
  | handleBattlemasterJoinAsGroup (guid : Guid) (grp : Group) (joining : Joining) (refused : Bool)
  | addToArenaQueue (guid : Guid) (grp : Option Group) (joining : Joining) (queuedAsGroup refused : Bool) (hasFree : Guid → Bool)
  | handleBattleFieldPort (guid : Guid) (action : Bool) (checks : State.PortChecks)
  | worldportAck (guid : Guid)
  | leaveBattleground (guid : Guid)
  | removeEvent (guid : Guid) (bgInstanceGUID : Nat) (removeTime : UInt32)
  | giveLevel (guid : Guid)
  | logoutPlayer (guid : Guid) (now : UInt32)
  | playerLoggedIn (guid : Guid)
  | update (w : World) (connected : Guid → Bool) (bracket : BattleGroundBracketId)
  | startingEvent (b : Nat)
  | endBattleGround (b : Nat)
  | battleGroundUpdate (b : Nat) (timeOver : Bool)

def step (conf : Conf) (s : State) : Event → State
  | .handleBattlemasterJoin guid joining refused => s.handleBattlemasterJoin guid joining refused
  | .handleBattlemasterJoinAsGroup guid grp joining refused => s.handleBattlemasterJoinAsGroup conf guid grp joining refused
  | .addToArenaQueue guid grp joining queuedAsGroup refused hasFree => s.addToArenaQueue conf guid grp joining queuedAsGroup refused hasFree
  | .handleBattleFieldPort guid action checks => s.handleBattleFieldPort guid action checks
  | .worldportAck guid => s.worldportAck guid
  | .leaveBattleground guid => s.leaveBattleground guid
  | .removeEvent guid b removeTime => s.removeEvent guid b removeTime
  | .giveLevel guid => s.giveLevel guid
  | .logoutPlayer guid now => s.logoutPlayer guid now
  | .playerLoggedIn guid => s.playerLoggedIn conf guid
  | .update w connected bracket => s.update conf w connected bracket
  | .startingEvent b => s.setStatus b .IN_PROGRESS
  | .endBattleGround b => s.endBattleGround b
  | .battleGroundUpdate b timeOver => s.battleGroundUpdate b timeOver

def init : State :=
  ⟨⟨∅, fun _ => none, 0, fun _ _ => []⟩, ∅, [], 1, fun _ => ⟨none, 0, .ALLIANCE⟩, ∅, ∅⟩

end ComfyCraft.BattleGroundMgr
