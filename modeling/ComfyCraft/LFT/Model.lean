import ComfyCraft.Lib.Table
import ComfyCraft.Group.Roster

/-! The dungeon finder: the queue, the role checks that are pending, and the offers with the players they are made to.
Players are found in the realm of the groups, where a player who is not in the world is nobody. -/

namespace ComfyCraft

/-! The roles, as a mask. -/

def lftRoleTank : UInt8 := 1

def lftRoleHealer : UInt8 := 2

def lftRoleDamage : UInt8 := 4

structure RoleCount where
  tanks : Nat
  healers : Nat
  damage : Nat
deriving DecidableEq

namespace RoleCount

def zero : RoleCount := ⟨0, 0, 0⟩

def add (c : RoleCount) (role : UInt8) : RoleCount :=
  if role = lftRoleTank then { c with tanks := c.tanks + 1 }
  else if role = lftRoleHealer then { c with healers := c.healers + 1 }
  else if role = lftRoleDamage then { c with damage := c.damage + 1 }
  else c

end RoleCount

/-- `PickRole`: 0 when no role of the mask is open. -/
def pickRole (roleMask : UInt8) (c : RoleCount) : UInt8 :=
  if roleMask &&& lftRoleTank ≠ 0 ∧ c.tanks < 1 then lftRoleTank
  else if roleMask &&& lftRoleHealer ≠ 0 ∧ c.healers < 1 then lftRoleHealer
  else if roleMask &&& lftRoleDamage ≠ 0 ∧ c.damage < 3 then lftRoleDamage
  else 0

def parseRoleMask (roles : String) : UInt8 :=
  roles.toList.foldl (fun mask role =>
    if role = 't' ∨ role = 'T' then mask ||| lftRoleTank
    else if role = 'h' ∨ role = 'H' then mask ||| lftRoleHealer
    else if role = 'd' ∨ role = 'D' then mask ||| lftRoleDamage
    else mask) 0

inductive PlayerClass
  | warrior | paladin | hunter | rogue | priest | shaman | mage | warlock | druid | unknown
deriving DecidableEq

def allowedRoleMask : PlayerClass → UInt8
  | .druid | .paladin => lftRoleTank ||| lftRoleHealer ||| lftRoleDamage
  | .hunter | .mage | .rogue | .warlock => lftRoleDamage
  | .priest | .shaman => lftRoleHealer ||| lftRoleDamage
  | .warrior => lftRoleTank ||| lftRoleDamage
  | .unknown => 0

/-! What the finder reads of the world. -/

/-- `allowedRoles` is what `Script_GetAllowedRoles` says of a bot that is forced into a role, or into 0; `away` is a
battleground or its queue, and `dungeon` the instance that the player is in. -/
structure LFTPlayer where
  playerClass : PlayerClass
  level : Nat
  team : Nat
  hardcore : Bool
  alive : Bool
  aiControlled : Bool
  randomBot : Bool
  away : Bool
  dungeon : Option Nat
  allowedRoles : UInt8 → UInt8

structure SeedDungeon where
  name : String
  minLevel : Nat
  maxLevel : Nat

structure StoneInstance where
  areaId : Nat
  code : String
  minLevel : Nat

/-- `players` lists who the object accessor has, in its order. -/
structure LFTWorld where
  player : Nat → LFTPlayer
  players : List Nat
  twoSide : Bool
  gameTime : Nat
  now : Nat
  botFill : Bool
  seedRuns : Nat
  seedDungeons : List SeedDungeon
  delay : Nat
  levelBelow : Nat
  levelAbove : Nat
  levelBelowHealer : Nat
  stones : List StoneInstance

/-- `HandleHardcoreInteraction` with the levels checked allows it. -/
def LFTWorld.hardcoreAllowed (w : LFTWorld) (player target : Nat) : Bool :=
  if (w.player player).hardcore then
    (w.player target).hardcore &&
      ((w.player player).level ≤ (w.player target).level + 5 && (w.player target).level ≤ (w.player player).level + 5)
  else !(w.player target).hardcore

/-- `CanPlayersGroup`, of two that are in the world. -/
def LFTWorld.canPlayersGroup (w : LFTWorld) (leader member : Nat) : Bool :=
  (w.twoSide || (w.player leader).team = (w.player member).team) && w.hardcoreAllowed leader member

/-! The finder. -/

/-- A queue leader of 0 is none. -/
structure QueuedPlayer where
  guid : Nat
  queueLeaderGuid : Nat
  level : Nat
  team : Nat
  isHardcore : Bool
  joinTime : Nat
  queueOrder : Nat
  instances : List String
  roleMask : UInt8
  assignedRole : UInt8
deriving Inhabited

structure PendingRolecheck where
  leaderGuid : Nat
  members : List Nat
  instances : List String
  responses : Table Nat UInt8
  timer : Nat

namespace PendingRolecheck

def respond (rolecheck : PendingRolecheck) (guid : Nat) (roleMask : UInt8) : PendingRolecheck :=
  { rolecheck with responses := rolecheck.responses.insert guid roleMask }

def isAnswered (rolecheck : PendingRolecheck) : Bool := rolecheck.responses.entries.length = rolecheck.members.length

end PendingRolecheck

/-- `built` is the queue as it was when the offer was built; no function reads it. -/
structure Offer where
  id : Nat
  dungeon : String
  roles : Table Nat UInt8
  accepted : List Nat
  timer : Nat
  built : Table Nat QueuedPlayer

namespace Offer

/-- One more accepts; counting the accepted ones makes a role 0 for one that is not listed. -/
def accept (o : Offer) (guid : Nat) : Offer :=
  { o with
    accepted := o.accepted.insert guid
    roles := (o.accepted.insert guid).foldl
      (fun (roles : Table Nat UInt8) guid => if (roles.lookup guid).isNone then roles.insert guid 0 else roles) o.roles }

def isAccepted (o : Offer) : Bool := o.accepted.length = o.roles.entries.length

end Offer

/-- `realm` is where the groups and the players are, `nextGroupId` the group id that is next, `forcedRole` the role that
each bot is forced into. `enqueued` are the role checks that were enqueued, with those of their players that have been in
the world ever since; no function reads it. -/
structure LFTManager where
  queue : Table Nat QueuedPlayer
  rolechecks : Table Nat PendingRolecheck
  offers : Table Nat Offer
  playerOffers : Table Nat Nat
  nextOfferId : Nat
  nextQueueOrder : Nat
  fillBots : List Nat
  botFillTimer : Nat
  lftGroupIds : List Nat
  realm : GroupRealm
  nextGroupId : Nat
  forcedRole : Nat → UInt8
  enqueued : List PendingRolecheck

def QueuedPlayer.blockLeader (guid : Nat) (q : QueuedPlayer) : Nat := if q.queueLeaderGuid = 0 then guid else q.queueLeaderGuid

def lftRolecheckTimeout : Nat := 90000

def lftOfferTimeout : Nat := 90000

namespace LFTManager

def start : LFTManager := ⟨∅, ∅, ∅, ∅, 1, 1, [], 0, [], GroupRealm.start, 1, fun _ => 0, []⟩

variable (w : LFTWorld) (s : LFTManager) (leader guid : Nat)

/-- `GetPlayer` -/
def isInWorld : Bool := (s.realm.players guid).inWorld

/-- `GetGroup` of a player. -/
def groupOf : Option Group := (s.realm.players guid).group.group.bind s.realm.groups

def getPartyMembers : List Nat :=
  match s.groupOf leader with
  | none => [leader]
  | some g => (g.slots.map MemberSlot.guid).filter s.isInWorld

def getQueueOrder : List Nat :=
  (s.queue.entries.insertionSort fun a b =>
    a.2.queueOrder < b.2.queueOrder ∨ a.2.queueOrder = b.2.queueOrder ∧ a.1 ≤ b.1).map Sigma.fst

/-- `GetSharedInstances` -/
def getSharedInstances (requested : List String) : List String :=
  requested.foldl (fun instances name => if name = "" ∨ name ∈ instances then instances else instances ++ [name]) []

/-- `CanQueuedPlayersGroup` -/
def canQueuedPlayersGroup (seed candidate : QueuedPlayer) : Bool :=
  if s.isInWorld seed.guid ∧ s.isInWorld candidate.guid then w.canPlayersGroup seed.guid candidate.guid
  else (w.twoSide || seed.team = candidate.team) && seed.isHardcore = candidate.isHardcore

/-! The matcher. -/

/-- The players that are selected with their roles, and how many roles are taken. -/
structure Selection where
  roles : Table Nat UInt8
  count : RoleCount

def suits (dungeon : String) (seed : QueuedPlayer) (selected : Table Nat UInt8) (guid : Nat) (q : QueuedPlayer) : Bool :=
  (selected.lookup guid).isNone && (s.playerOffers.lookup guid).isNone && dungeon ∈ q.instances &&
    canQueuedPlayersGroup w s seed q

def fitOne (dungeon : String) (seed : QueuedPlayer) (selected : Table Nat UInt8) (b : Selection)
    (guid : Nat) : Option Selection :=
  match s.queue.lookup guid with
  | none => none
  | some q =>
    if !suits w s dungeon seed selected guid q then none
    else if pickRole q.roleMask b.count = 0 then none
    else some ⟨b.roles.insert guid (pickRole q.roleMask b.count), b.count.add (pickRole q.roleMask b.count)⟩

def block : List Nat :=
  s.getQueueOrder.filter fun guid => (s.queue.lookup guid).any fun q => q.blockLeader guid = leader

def select (dungeon : String) (seed : QueuedPlayer) (m : Selection) (candidate : Nat) : Selection :=
  if 5 ≤ m.roles.entries.length then m
  else
    match s.queue.lookup candidate with
    | none => m
    | some q =>
      if !suits w s dungeon seed m.roles candidate q then m
      else
        match (s.block (q.blockLeader candidate)).foldlM (fitOne w s dungeon seed m.roles) ⟨∅, m.count⟩ with
        | none => m
        | some b =>
          if b.roles.entries.length = 0 ∨ 5 < m.roles.entries.length + b.roles.entries.length then m
          else ⟨b.roles.ordered.foldl (fun roles e => roles.insert e.1 e.2) m.roles, b.count⟩

def formed (dungeon : String) (seed : Nat) : Option (Table Nat UInt8) :=
  match s.queue.lookup seed with
  | none => none
  | some q =>
    if (s.playerOffers.lookup seed).isSome ∨ dungeon ∉ q.instances then none
    else
      let m := s.getQueueOrder.foldl (select w s dungeon q) ⟨∅, RoleCount.zero⟩
      if m.count = ⟨1, 1, 3⟩ ∧ m.roles.entries.length = 5 then some m.roles else none

/-- What an offer sets for one of its players; `m_queue[guid]` makes an entry if there is none. -/
def assign (id : Nat) (s : LFTManager) (e : Sigma fun _ : Nat => UInt8) : LFTManager :=
  { s with
    queue := s.queue.insert e.1 { (s.queue.lookup e.1).getD default with assignedRole := e.2 }
    playerOffers := s.playerOffers.insert e.1 id }

def tryBuildOfferForInstance (dungeon : String) : LFTManager :=
  match s.getQueueOrder.findSome? (formed w s dungeon) with
  | none => s
  | some roles =>
    roles.ordered.foldl (assign s.nextOfferId)
      { s with
        offers := s.offers.insert s.nextOfferId ⟨s.nextOfferId, dungeon, roles, [], lftOfferTimeout, s.queue⟩
        nextOfferId := s.nextOfferId + 1 }

def wanted : List String :=
  ((s.queue.entries.filter fun e => (s.playerOffers.lookup e.1).isNone).flatMap fun e => e.2.instances).dedup.insertionSort (· ≤ ·)

def tryMakeOffers : LFTManager := s.wanted.foldl (tryBuildOfferForInstance w) s

/-! Coming into the queue. -/

def enqueuePlayer (guid leaderGuid : Nat) (instances : List String) (roleMask : UInt8) : LFTManager :=
  if s.isInWorld guid then
    { s with
      queue := s.queue.insert guid
        { guid, queueLeaderGuid := leaderGuid, level := (w.player guid).level, team := (w.player guid).team,
          isHardcore := (w.player guid).hardcore, joinTime := w.gameTime, queueOrder := s.nextQueueOrder, instances, roleMask,
          assignedRole := pickRole roleMask RoleCount.zero }
      nextQueueOrder := s.nextQueueOrder + 1 }
  else s

/-- The players of a role check that have answered, one after the other. -/
def enqueueMembers (rolecheck : PendingRolecheck) (s : LFTManager) : LFTManager :=
  rolecheck.members.foldl (fun s guid =>
    match rolecheck.responses.lookup guid with
    | none => s
    | some roleMask => s.enqueuePlayer w guid rolecheck.leaderGuid rolecheck.instances roleMask) s

def takeIn (rolecheck : PendingRolecheck) (s : LFTManager) : LFTManager :=
  let s := enqueueMembers w rolecheck s
  { s with enqueued := s.enqueued ++ [{ rolecheck with members := rolecheck.members.filter s.isInWorld }] }

def enqueueRolecheck (rolecheck : PendingRolecheck) (s : LFTManager) : LFTManager :=
  tryMakeOffers w (takeIn w rolecheck s)

def companionResponses (members : List Nat) : Table Nat UInt8 :=
  members.foldl (fun responses guid =>
    let p := w.player guid
    let roleMask := allowedRoleMask p.playerClass &&& p.allowedRoles (s.forcedRole guid)
    if s.isInWorld guid ∧ p.aiControlled then
      responses.insert guid (if roleMask ≠ 0 then roleMask else allowedRoleMask p.playerClass)
    else responses) ∅

def newRolecheck (instances : List String) : PendingRolecheck :=
  let members := s.getPartyMembers leader
  ⟨leader, members, instances, companionResponses w s members, lftRolecheckTimeout⟩

def startRolecheck (instances : List String) : LFTManager :=
  let rolecheck := newRolecheck w s leader instances
  if rolecheck.isAnswered then enqueueRolecheck w rolecheck s else { s with rolechecks := s.rolechecks.insert leader rolecheck }

/-! Going out of it. -/

def cancelOne (o : Offer) (requeueAccepted : Bool) (removeGuid : Nat) (requeueOthers : Bool) (s : LFTManager) (guid : Nat) :
    LFTManager :=
  let s := { s with playerOffers := s.playerOffers.erase guid }
  match requeueAccepted && guid ≠ removeGuid && (requeueOthers || guid ∈ o.accepted), s.queue.lookup guid with
  | true, some q =>
    { s with queue := s.queue.insert guid { q with assignedRole := pickRole q.roleMask RoleCount.zero } }
  | _, _ => { s with queue := s.queue.erase guid }

def cancelOffer (id : Nat) (requeueAccepted : Bool) (removeGuid : Nat) (requeueOthers : Bool) : LFTManager :=
  match s.offers.lookup id with
  | none => s
  | some o =>
    let s := (o.roles.ordered.map Sigma.fst).foldl (cancelOne o requeueAccepted removeGuid requeueOthers) s
    { s with offers := s.offers.erase id }

/-- `CancelRolecheck` of every role check that has the player as a member. -/
def cancelRolechecks : LFTManager :=
  { s with rolechecks := s.rolechecks.keep fun _ rolecheck => guid ∉ rolecheck.members }

def cleanupPlayer : LFTManager :=
  let s := { s with queue := s.queue.erase guid }
  let s := match s.playerOffers.lookup guid with
    | none => s
    | some id => s.cancelOffer id true guid true
  s.cancelRolechecks guid

def rolecheckOf : Option (Sigma fun _ : Nat => PendingRolecheck) :=
  s.rolechecks.ordered.find? fun e => guid ∈ e.2.members

def handleQueueLeave : LFTManager :=
  match s.rolecheckOf guid with
  | some e => { s with rolechecks := s.rolechecks.erase e.1 }
  | none =>
    match s.playerOffers.lookup guid with
    | some id => tryMakeOffers w (s.cancelOffer id true guid true)
    | none =>
      match s.queue.lookup guid with
      | none => s
      | some q => { s with queue := s.queue.keep fun other r => r.blockLeader other ≠ q.blockLeader guid }

/-! Answers. -/

def handleRolecheckResponse (roles : String) : LFTManager :=
  let roleMask := parseRoleMask roles &&& allowedRoleMask (w.player guid).playerClass
  if roleMask = 0 then s
  else
    match s.rolecheckOf guid with
    | none => s
    | some e =>
      let rolecheck := e.2.respond guid roleMask
      if rolecheck.isAnswered then enqueueRolecheck w rolecheck { s with rolechecks := s.rolechecks.erase e.1 }
      else { s with rolechecks := s.rolechecks.insert e.1 rolecheck }

/-- A join that is not refused: no raid, no member who does not lead, and something to queue for in some role. -/
def mayJoin (requested : List String) (roles : String) : Bool :=
  !(s.groupOf guid).any Group.raid && !((s.groupOf guid).any fun g => g.leader ≠ guid) &&
    !(getSharedInstances requested).isEmpty && parseRoleMask roles &&& allowedRoleMask (w.player guid).playerClass ≠ 0

def handleQueueJoin (requested : List String) (roles : String) : LFTManager :=
  if mayJoin w s guid requested roles then startRolecheck w (s.cleanupPlayer guid) guid (getSharedInstances requested) else s

def stoneInstances (guid areaId : Nat) : List String :=
  let level := ((s.getPartyMembers guid).filter s.isInWorld).foldl (fun level member => min level (w.player member).level)
    (w.player guid).level
  (w.stones.filter fun stone => stone.areaId = areaId ∧ stone.minLevel ≤ level).map StoneInstance.code

/-- `JoinFromMeetingStone`; the opcode handler has refused raids, full parties and those who do not lead. -/
def joinFromMeetingStone (guid areaId : Nat) : LFTManager :=
  if (stoneInstances w s guid areaId).isEmpty then s
  else startRolecheck w (s.cleanupPlayer guid) guid (stoneInstances w s guid areaId)

/-! Completing an offer. -/

def offerLeader (o : Offer) : Nat :=
  let named := (o.roles.ordered.map Sigma.fst).findSome? fun guid =>
    (s.queue.lookup guid).bind fun q => if q.queueLeaderGuid = 0 then none else some q.queueLeaderGuid
  match named with
  | some leader => leader
  | none =>
    match o.roles.ordered.find? fun e => e.2 = lftRoleTank with
    | some e => e.1
    | none => (o.roles.ordered.head?.map Sigma.fst).getD 0

def openGroup : Option Nat × LFTManager :=
  if !s.isInWorld leader then (none, s)
  else
    match (s.realm.players leader).group.group with
    | some id => (some id, s)
    | none =>
      let (done, realm) := s.realm.create s.nextGroupId leader false
      (if done then some s.nextGroupId else none, { s with realm := realm, nextGroupId := s.nextGroupId + 1 })

/-- The part of `AddPlayerToGroup` once there is a group. -/
def joinGroup (id leader member : Nat) : Bool × LFTManager :=
  let s := { s with lftGroupIds := s.lftGroupIds.insert id }
  match s.realm.groups id with
  | none => (false, s)
  | some g =>
    if g.isMember member then (true, s)
    else if (s.realm.players member).group.group ≠ none ∧ (s.realm.players member).group.group ≠ some id then (false, s)
    else if s.isInWorld leader ∧ !w.canPlayersGroup leader member then (false, s)
    else if g.isFull then (false, s)
    else
      let (done, realm) := s.realm.addMember id member
      (done, { s with realm := realm })

/-- `AddPlayerToGroup`: whether the player is in, the group, and the finder. -/
def addPlayerToGroup (group : Option Nat) (leader member : Nat) : Bool × Option Nat × LFTManager :=
  if !s.isInWorld member then (false, group, s)
  else
    let (group, s) := match group with
      | some id => (some id, s)
      | none => s.openGroup leader
    match group with
    | none => (false, none, s)
    | some id =>
      let (done, s) := joinGroup w s id leader member
      (done, some id, s)

/-- The loop of `CompleteOffer`, which stops at the first player who cannot be added. -/
def addPlayers (w : LFTWorld) (leader : Nat) : List Nat → Option Nat → LFTManager → Bool × LFTManager
  | [], _, s => (true, s)
  | member :: members, group, s =>
    match addPlayerToGroup w s group leader member with
    | (false, _, s) => (false, s)
    | (true, group, s) => addPlayers w leader members group s

def release : LFTManager :=
  { s with queue := s.queue.erase guid, playerOffers := s.playerOffers.erase guid }

def completeOffer (id : Nat) : Bool × LFTManager :=
  match s.offers.lookup id with
  | none => (false, s)
  | some o =>
    match addPlayers w (s.offerLeader o) (o.roles.ordered.map Sigma.fst) none s with
    | (false, s) => (false, s.cancelOffer id false 0 false)
    | (true, s) =>
      let s := (o.roles.ordered.map Sigma.fst).foldl release s
      (true, { s with offers := s.offers.erase id })

def handleOfferAccept : LFTManager :=
  match s.playerOffers.lookup guid with
  | none => s
  | some id =>
    match s.offers.lookup id with
    | none => s
    | some o =>
      let s := { s with offers := s.offers.insert id (o.accept guid) }
      if (o.accept guid).isAccepted then (completeOffer w s id).2 else s

end LFTManager

end ComfyCraft
