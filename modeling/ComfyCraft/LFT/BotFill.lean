import ComfyCraft.LFT.Model

/-! The bots that fill the queue of a waiting player, the update of the finder, and its events. -/

namespace ComfyCraft

namespace LFTManager

/-! Accepting for bots. -/

variable (w : LFTWorld) (diff : Nat) (s : LFTManager)

/-- One player of an offer that is looked at; the offer may be gone by then. -/
def acceptForBot (id : Nat) (s : LFTManager) (e : Sigma fun _ : Nat => UInt8) : LFTManager :=
  match s.offers.lookup id with
  | none => s
  | some o =>
    if e.1 ∈ o.accepted ∨ !s.isInWorld e.1 ∨ !(w.player e.1).aiControlled then s
    else handleOfferAccept w { s with forcedRole := Function.update s.forcedRole e.1 e.2 } e.1

def acceptForBots (id : Nat) : LFTManager :=
  match s.offers.lookup id with
  | none => s
  | some o => o.roles.ordered.foldl (acceptForBot w id) s

def acceptOffersForFillBots : LFTManager :=
  (s.offers.ordered.map Sigma.fst).foldl (acceptForBots w) s

/-! Dropping them. -/

def realPlayerWaitsFor (dungeon : String) : Bool :=
  s.queue.entries.any fun e => e.1 ∉ s.fillBots ∧ dungeon ∈ e.2.instances

def dropFillBot (guid : Nat) : LFTManager :=
  if (s.playerOffers.lookup guid).isSome then s
  else if (s.queue.lookup guid).any fun q => q.instances.any s.realPlayerWaitsFor then s
  else
    { s with
      forcedRole := if s.isInWorld guid then Function.update s.forcedRole guid 0 else s.forcedRole
      queue := s.queue.erase guid
      fillBots := s.fillBots.erase guid }

def dropUnneededFillBots : LFTManager := (s.fillBots.insertionSort (· ≤ ·)).foldl dropFillBot s

/-! Finding them. -/

def isBot (bot : Nat) : Bool :=
  s.isInWorld bot && (w.player bot).alive && (w.player bot).aiControlled && (w.player bot).randomBot && !(w.player bot).away

def isIdleBot (bot : Nat) : Bool :=
  isBot w s bot && (s.realm.players bot).group.group.isNone

def seedBot : Option (Nat × SeedDungeon) :=
  let occupied := ((w.players.filter s.isInWorld).filterMap fun guid => (w.player guid).dungeon).dedup
  if w.seedRuns = 0 ∨ s.queue.entries ≠ [] ∨ w.seedRuns ≤ occupied.length then none
  else
    w.players.findSome? fun bot =>
      let p := w.player bot
      if isIdleBot w s bot && p.dungeon.isNone && allowedRoleMask p.playerClass ≠ 0 then
        (w.seedDungeons.find? fun dungeon => dungeon.minLevel ≤ p.level ∧ p.level ≤ dungeon.maxLevel).map fun dungeon => (bot, dungeon)
      else none

def seedBotOnlyQueue : LFTManager :=
  match seedBot w s with
  | none => s
  | some (bot, dungeon) => s.enqueuePlayer w bot bot [dungeon.name] (allowedRoleMask (w.player bot).playerClass)

/-- A bot that is not queued, of the waiter's team and about the waiter's level, of a class for the wanted role. -/
def isCandidate (role : UInt8) (waiter : QueuedPlayer) (below : Nat) (bot : Nat) : Bool :=
  let p := w.player bot
  (s.queue.lookup bot).isNone && p.team = waiter.team && waiter.level ≤ p.level + below && p.level ≤ waiter.level + w.levelAbove &&
    allowedRoleMask p.playerClass &&& role ≠ 0

/-- What `Script_GetAllowedRoles` says of a bot as it is. -/
def plays (role : UInt8) (bot : Nat) : Bool := (w.player bot).allowedRoles (s.forcedRole bot) &&& role ≠ 0

def isBotOnly (g : Group) : Bool :=
  g.slots.all fun slot =>
    (s.playerOffers.lookup slot.guid).isNone && s.isInWorld slot.guid && (w.player slot.guid).aiControlled &&
      (w.player slot.guid).randomBot

def takeFromBotOnlyGroup (role : UInt8) (waiter : QueuedPlayer) (below : Nat) :
    Option Nat × LFTManager :=
  let found := w.players.find? fun bot =>
    isBot w s bot && isCandidate w s role waiter below bot && plays w s role bot &&
      (s.realm.players bot).group.group.any fun id =>
        id ∈ s.lftGroupIds && (s.realm.groups id).any (isBotOnly w s)
  match found with
  | none => (none, s)
  | some bot =>
    match (s.realm.players bot).group.group with
    | none => (some bot, s)
    | some id => (some bot, { s with realm := s.realm.removeMember id bot })

/-- The loop of `TakeBotAndRespecFor`; a bot that refuses stays forced. -/
def takeBotAndRespecFor (w : LFTWorld) (role : UInt8) (waiter : QueuedPlayer) (below : Nat) : List Nat → LFTManager → Option Nat × LFTManager
  | [], s => (none, s)
  | bot :: bots, s =>
    if isIdleBot w s bot && isCandidate w s role waiter below bot && 10 ≤ (w.player bot).level && !plays w s role bot then
      let s := { s with forcedRole := Function.update s.forcedRole bot role }
      if plays w s role bot then (some bot, s) else takeBotAndRespecFor w role waiter below bots s
    else takeBotAndRespecFor w role waiter below bots s

def findBot (role : UInt8) (waiter : QueuedPlayer) : Option Nat × LFTManager :=
  let below := if role = lftRoleHealer then w.levelBelowHealer else w.levelBelow
  match w.players.find? fun bot => isIdleBot w s bot && isCandidate w s role waiter below bot && plays w s role bot with
  | some bot => (some bot, s)
  | none =>
    match takeFromBotOnlyGroup w s role waiter below with
    | (some bot, s) => (some bot, s)
    | (none, s) => if role = lftRoleDamage then (none, s) else takeBotAndRespecFor w role waiter below w.players s

def wantedRole (c : RoleCount) : Option UInt8 :=
  if c.tanks < 1 then some lftRoleTank
  else if c.healers < 1 then some lftRoleHealer
  else if c.damage < 3 then some lftRoleDamage
  else none

/-- The loop of `FillInstanceWithBots`: every round covers a role, of which there are `n` that are open. -/
def fillRoles (w : LFTWorld) (dungeon : String) (waiter : QueuedPlayer) : Nat → Nat → RoleCount → LFTManager → LFTManager
  | 0, _, _, s => s
  | n + 1, inQueue, count, s =>
    if 5 ≤ inQueue then s
    else
      match wantedRole count with
      | none => s
      | some role =>
        match findBot w s role waiter with
        | (none, s) => if role = lftRoleDamage then s else fillRoles w dungeon waiter n inQueue (count.add role) s
        | (some bot, s) =>
          let s := s.enqueuePlayer w bot 0 [dungeon] role
          fillRoles w dungeon waiter n (inQueue + 1) (count.add role) { s with fillBots := s.fillBots.insert bot }

def openRoles (c : RoleCount) : Nat := 1 - c.tanks + (1 - c.healers) + (3 - c.damage)

/-- Who is queued for a dungeon and may group with the waiter: how many, and the roles they cover. -/
def covered (dungeon : String) (waiter : QueuedPlayer) : Nat × RoleCount :=
  let listed := s.getQueueOrder.filterMap fun guid =>
    (s.queue.lookup guid).filter fun q => dungeon ∈ q.instances && canQueuedPlayersGroup w s waiter q
  (listed.length, listed.foldl (fun count q => count.add (pickRole q.roleMask count)) RoleCount.zero)

def fillInstanceWithBots (dungeon : String) (waiter : QueuedPlayer) : LFTManager :=
  let (inQueue, count) := covered w s dungeon waiter
  fillRoles w dungeon waiter (openRoles count) inQueue count s

/-- The dungeons to fill, and for whom: those that players have waited for long enough. -/
def pendingFills : List (String × QueuedPlayer) :=
  (s.queue.ordered.filter fun e =>
    e.1 ∉ s.fillBots && (s.playerOffers.lookup e.1).isNone && w.delay ≤ ((w.now : Int) - e.2.joinTime) % 2 ^ 32).flatMap
    fun e => e.2.instances.map fun dungeon => (dungeon, e.2)

def startFill : LFTManager := ({ s with botFillTimer := 5000 } : LFTManager).dropUnneededFillBots

def updateBotFill : LFTManager :=
  let s := acceptOffersForFillBots w s
  if !w.botFill then s.dropUnneededFillBots
  else if diff < s.botFillTimer then { s with botFillTimer := s.botFillTimer - diff }
  else
    let s := seedBotOnlyQueue w s.startFill
    (pendingFills w s).foldl (fun s entry => fillInstanceWithBots w s entry.1 entry.2) s

/-! The update. -/

/-- The players of the queue who are not in the world go. -/
def sweepAbsent : LFTManager := { s with queue := s.queue.keep fun guid _ => s.isInWorld guid }

def updateRolechecks : LFTManager :=
  { s with
    rolechecks := (s.rolechecks.keep fun _ rolecheck => diff < rolecheck.timer).mapValues fun rolecheck =>
      { rolecheck with timer := rolecheck.timer - diff } }

def updateOffer (id : Nat) : LFTManager :=
  match s.offers.lookup id with
  | none => s
  | some o =>
    if o.timer ≤ diff then s.cancelOffer id true 0 false
    else { s with offers := s.offers.insert id { o with timer := o.timer - diff } }

def updateOffers : LFTManager := (s.offers.ordered.map Sigma.fst).foldl (updateOffer diff) s

def update : LFTManager :=
  tryMakeOffers w (updateOffers diff (updateRolechecks diff (updateBotFill w diff s).sweepAbsent))

end LFTManager

inductive LFTEvent
  | queueJoin (guid : Nat) (requested : List String) (roles : String) (w : LFTWorld)
  | meetingStone (guid areaId : Nat) (w : LFTWorld)
  | queueLeave (guid : Nat) (w : LFTWorld)
  | rolecheckResponse (guid : Nat) (roles : String) (w : LFTWorld)
  | offerAccept (guid : Nat) (w : LFTWorld)
  | update (diff : Nat) (w : LFTWorld)
  | logout (guid : Nat)
  | realm (e : GroupEvent)

namespace LFTManager

/-- What happens in the realm; a new group has the next group id. -/
def realmStep (s : LFTManager) : GroupEvent → LFTManager
  | .create _ guid battleground =>
    { s with realm := s.realm.step (.create s.nextGroupId guid battleground), nextGroupId := s.nextGroupId + 1 }
  | e => { s with realm := s.realm.step e }

/-- Who leaves the world is no longer counted among the players of a role check. -/
def trackPresence (s : LFTManager) : LFTManager :=
  { s with enqueued := s.enqueued.map fun rolecheck => { rolecheck with members := rolecheck.members.filter s.isInWorld } }

def step (s : LFTManager) : LFTEvent → LFTManager
  | .queueJoin guid requested roles w => handleQueueJoin w s guid requested roles
  | .meetingStone guid areaId w => joinFromMeetingStone w s guid areaId
  | .queueLeave guid w => handleQueueLeave w s guid
  | .rolecheckResponse guid roles w => handleRolecheckResponse w s guid roles
  | .offerAccept guid w => handleOfferAccept w s guid
  | .update diff w => update w diff s
  | .logout guid => s.cleanupPlayer guid
  | .realm e => (s.realmStep e).trackPresence

end LFTManager

end ComfyCraft
