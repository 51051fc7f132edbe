import ComfyCraft.Battlegrounds.Queue

/-! The update of the queue: players who should not be in it go, the running battlegrounds are filled, and new
ones are made of the groups that the selection pools take. -/

namespace ComfyCraft.BattleGroundMgr

structure Conf where
  groupLimit : Nat
  premadeWaitForMatch : UInt32
  premadeQueueGroupMinSize : Nat
  invitationType : Nat
  randomize : Bool
  avMinPlayersInQueue : Nat
  avInitialMaxPlayers : Nat
  tagInBattlegrounds : Bool
  isTesting : Bool
  isAV : Bool
  isArena : Bool
  minPlayersPerTeam : Nat
  m_MaxPlayersPerTeam : UInt32
  m_MaxPlayers : UInt32
  /-- `BattleGroundMgr::PlayerLoggedIn` asks this queue: it is one of the first three. -/
  askedAtLogin : Bool

structure SelectionPool where
  SelectedGroups : List Nat
  PlayerCount : Nat

namespace SelectionPool

def init : SelectionPool := ⟨[], 0⟩

variable (q : Queue)

def sizeOf (id : Nat) : Nat := ((q.groups id).map fun g => g.Players.length).getD 0

/-- A member who is found and cannot be invited now. -/
def skips (w : World) (guid : Guid) : Bool :=
  (w.findPlayer guid).any fun p => p.inBattleGround || p.isTaxiFlying || !p.isConnected || p.isLogingOut

def addGroup (w : World) (pool : SelectionPool) (id : Nat) (desiredCount : Nat) (bgInstanceId : Nat) :
    SelectionPool × Bool :=
  match q.groups id with
  | none => (pool, true)
  | some ginfo =>
    if ginfo.IsInvitedToBGInstanceGUID = 0 ∧ (ginfo.DesiredInstanceId = 0 ∨ ginfo.DesiredInstanceId = bgInstanceId) ∧
        pool.PlayerCount + ginfo.Players.length ≤ desiredCount ∧ ¬ ginfo.Players.any (skips w) then
      (⟨pool.SelectedGroups ++ [id], pool.PlayerCount + ginfo.Players.length⟩, true)
    else (pool, pool.PlayerCount < desiredCount)

def groupToKick (size : Int) (first : Nat) (l : List Nat) : Nat × Bool :=
  l.foldl (fun kick id =>
    if ((sizeOf q id : Int) - size).natAbs ≤ 1 then (id, true)
    else if !kick.2 && sizeOf q kick.1 ≤ sizeOf q id then (id, kick.2) else kick) (first, false)

def kickGroup (pool : SelectionPool) (size : Int) : SelectionPool × Bool :=
  match pool.SelectedGroups with
  | [] => (pool, true)
  | first :: _ =>
    if pool.PlayerCount = 0 then (pool, true)
    else
      let id := (groupToKick q size first pool.SelectedGroups).1
      (⟨pool.SelectedGroups.erase id, pool.PlayerCount - sizeOf q id⟩, ¬ (sizeOf q id : Int) ≤ size + 1)

/-- Groups go into the pool from the list until one does not; with what is left of the list. -/
def fill (q : Queue) (w : World) (desiredCount bgInstanceId : Nat) : SelectionPool → List Nat → SelectionPool × List Nat
  | pool, [] => (pool, [])
  | pool, id :: rest =>
    let (pool', more) := pool.addGroup q w id desiredCount bgInstanceId
    if more then fill q w desiredCount bgInstanceId pool' rest else (pool', id :: rest)

end SelectionPool

structure Filling where
  ali : SelectionPool
  horde : SelectionPool
  aliRest : List Nat
  hordeRest : List Nat

open SelectionPool in
/-- The body of the loop of `FillPlayersToBG`, the same for either team: a group of the team with less room is kicked
for others from its list; when its pool is empty the other team's is kicked, or the loop breaks. -/
def balanceSide (q : Queue) (w : World) (bgInstanceId : Nat) (free diff otherDiff : Int) (pool other : SelectionPool)
    (rest : List Nat) : (SelectionPool × SelectionPool × List Nat) × Bool :=
  let (kicked, more) := pool.kickGroup q (otherDiff - diff)
  let (pool, rest) := if more then fill q w (free - otherDiff).toNat bgInstanceId kicked rest else (kicked, rest)
  if pool.PlayerCount = 0 then
    if free ≤ otherDiff + 1 then ((pool, other, rest), true)
    else ((pool, (other.kickGroup q (otherDiff - diff)).1, rest), false)
  else ((pool, other, rest), false)

def balanceStep (q : Queue) (w : World) (bg : BattleGround) (f : Filling) : Filling × Bool :=
  let aliFree : Int := bg.getFreeSlotsForTeam .ALLIANCE
  let hordeFree : Int := bg.getFreeSlotsForTeam .HORDE
  let diffAli := aliFree - f.ali.PlayerCount
  let diffHorde := hordeFree - f.horde.PlayerCount
  if diffAli < diffHorde then
    let ((ali, horde, rest), breaks) := balanceSide q w bg.clientInstanceID aliFree diffAli diffHorde f.ali f.horde f.aliRest
    (⟨ali, horde, rest, f.hordeRest⟩, breaks)
  else
    let ((horde, ali, rest), breaks) := balanceSide q w bg.clientInstanceID hordeFree diffHorde diffAli f.horde f.ali f.hordeRest
    (⟨ali, horde, f.aliRest, rest⟩, breaks)

/-- The loop of `FillPlayersToBG`. -/
def balance (q : Queue) (w : World) (bg : BattleGround) (differential : Nat) : Nat → Filling → Filling
  | 0, f => f
  | fuel + 1, f =>
    let diffAli : Int := bg.getFreeSlotsForTeam .ALLIANCE - f.ali.PlayerCount
    let diffHorde : Int := bg.getFreeSlotsForTeam .HORDE - f.horde.PlayerCount
    if differential < (diffAli - diffHorde).natAbs ∧ (0 < f.horde.PlayerCount ∨ 0 < f.ali.PlayerCount) then
      match balanceStep q w bg f with
      | (f', true) => f'
      | (f', false) => balance q w bg differential fuel f'
    else f

/-- Each turn of the loop takes a group from a pool or from what is left of a list. -/
def Filling.measure (f : Filling) : Nat :=
  2 * (f.aliRest.length + f.hordeRest.length) + f.ali.SelectedGroups.length + f.horde.SelectedGroups.length

open SelectionPool in
def fillPlayersToBG (conf : Conf) (q : Queue) (w : World) (bg : BattleGround) : SelectionPool × SelectionPool :=
  if conf.isArena then (init, init)
  else
    let (ali, aliRest) := fill q w (bg.getFreeSlotsForTeam .ALLIANCE) bg.clientInstanceID init (q.m_QueuedGroups bg.bracketId 2)
    let (horde, hordeRest) := fill q w (bg.getFreeSlotsForTeam .HORDE) bg.clientInstanceID init (q.m_QueuedGroups bg.bracketId 3)
    if conf.invitationType = 0 then (ali, horde)
    else
      let f : Filling := ⟨ali, horde, aliRest, hordeRest⟩
      let f := balance q w bg (if conf.isAV then 3 else 0) f.measure f
      (f.ali, f.horde)

abbrev Pools := Team → SelectionPool

def Pools.init : Pools := fun _ => SelectionPool.init

structure Match where
  minPlayers : Nat
  maxPlayers : Nat

def isUninvited (q : Queue) (id : Nat) : Bool := (q.groups id).any fun g => g.IsInvitedToBGInstanceGUID = 0

/-- Groups of some size go into the pool until it has enough players; with what is left of the list. -/
def select (q : Queue) (w : World) (mt : Match) (minSize : Nat) : SelectionPool → List Nat → SelectionPool × List Nat
  | pool, [] => (pool, [])
  | pool, id :: rest =>
    if isUninvited q id && minSize ≤ SelectionPool.sizeOf q id then
      let pool' := (pool.addGroup q w id mt.maxPlayers 0).1
      if mt.minPlayers ≤ pool'.PlayerCount then (pool', rest) else select q w mt minSize pool' rest
    else select q w mt minSize pool rest

/-- The pools have enough players for a match; one player is enough for a test. -/
def enough (conf : Conf) (mt : Match) (pools : Pools) : Bool :=
  conf.isTesting && (0 < (pools .ALLIANCE).PlayerCount || 0 < (pools .HORDE).PlayerCount) ||
    mt.minPlayers ≤ (pools .ALLIANCE).PlayerCount && mt.minPlayers ≤ (pools .HORDE).PlayerCount

/-- The first premade group of a team becomes a normal one: it waited too long, or is too small. -/
def demote (conf : Conf) (now : UInt32) (mt : Match) (b : BattleGroundBracketId) (q : Queue) (team : Team) : Queue :=
  match q.m_QueuedGroups b team.index with
  | [] => q
  | id :: rest =>
    match q.groups id with
    | none => q
    | some g =>
      if g.IsInvitedToBGInstanceGUID = 0 ∧ (g.JoinTime < now - conf.premadeWaitForMatch ∨ g.Players.length < mt.minPlayers) then
        (q.setList b (team.index + 2) (q.m_QueuedGroups b (team.index + 2) ++ [id])).setList b team.index rest
      else q

def shuffleList (w : World) (n : Nat) (b : BattleGroundBracketId) (q : Queue) (j : Nat) : Queue :=
  q.setList b j (w.shuffle ((q.m_QueuedGroups b j).take n) ++ (q.m_QueuedGroups b j).drop n)

def checkPremadeMatch (conf : Conf) (w : World) (mt : Match) (b : BattleGroundBracketId) (q : Queue) (pools : Pools) :
    Queue × Pools × Bool :=
  let pools : Pools := fun team =>
    let premade := (select q w mt conf.premadeQueueGroupMinSize (pools team) (q.m_QueuedGroups b team.index)).1
    (select q w mt conf.premadeQueueGroupMinSize premade (q.m_QueuedGroups b (team.index + 2))).1
  if enough conf mt pools then (q, pools, true)
  else (demote conf w.now mt b (demote conf w.now mt b q .ALLIANCE) .HORDE, pools, false)

/-- More groups for the team with fewer players, as long as they fit. -/
def selectMore (q : Queue) (w : World) (desiredCount : Nat) : SelectionPool → List Nat → SelectionPool
  | pool, [] => pool
  | pool, id :: rest =>
    if isUninvited q id then
      let (pool', more) := pool.addGroup q w id desiredCount 0
      if more then selectMore q w desiredCount pool' rest else pool'
    else selectMore q w desiredCount pool rest

def fewer (pools : Pools) : Team := if (pools .HORDE).PlayerCount < (pools .ALLIANCE).PlayerCount then .HORDE else .ALLIANCE

def checkNormalMatch (conf : Conf) (w : World) (mt : Match) (b : BattleGroundBracketId) (q : Queue) (pools : Pools) : Pools × Bool :=
  let selected := fun team : Team => select q w mt 0 (pools team) (q.m_QueuedGroups b (team.index + 2))
  let pools : Pools := fun team => (selected team).1
  if conf.invitationType ≠ 0 ∧ mt.minPlayers ≤ (pools .HORDE).PlayerCount ∧ mt.minPlayers ≤ (pools .ALLIANCE).PlayerCount then
    -- the team with fewer players is offered as many as the other has
    let j := fewer pools
    let pools := Function.update pools j (selectMore q w (pools j.other).PlayerCount (pools j) (selected j).2)
    if 1 < (((pools .HORDE).PlayerCount : Int) - (pools .ALLIANCE).PlayerCount).natAbs then (pools, false)
    else (pools, enough conf mt pools)
  else (pools, enough conf mt pools)

namespace State

/-- `WorldTimer::getMSTimeDiff`. -/
def getMSTimeDiff (oldMSTime newMSTime : UInt32) : UInt32 :=
  if newMSTime < oldMSTime then min (0xFFFFFFFF - oldMSTime + newMSTime) (oldMSTime - newMSTime) else newMSTime - oldMSTime

def OFFLINE_BG_QUEUE_TIME : UInt32 := 60000

variable (conf : Conf) (w : World) (b : BattleGroundBracketId) (s : State)

def isStale (w : World) (guid : Guid) : Bool :=
  (s.queue.m_QueuedPlayers.lookup guid).any fun info =>
    !info.online && OFFLINE_BG_QUEUE_TIME < getMSTimeDiff info.LastOnlineTime w.now ||
      (s.queue.groups info.GroupInfo).any fun g =>
        g.IsInvitedToBGInstanceGUID ≠ 0 &&
          (s.m_BattleGrounds.lookup g.IsInvitedToBGInstanceGUID).any fun bg => bg.status = .WAIT_LEAVE

/-- The first loop of `Update`, from the beginning again after each player it removes. An online player of an ended
battleground loses the slot as well. -/
def removeStale (w : World) (connected : Guid → Bool) : Nat → State → State
  | 0, s => s
  | fuel + 1, s =>
    match (s.queue.m_QueuedPlayers.ordered.map Sigma.fst).find? (s.isStale w) with
    | none => s
    | some guid =>
      let online := (s.queue.m_QueuedPlayers.lookup guid).any PlayerQueueInfo.online
      let s := if online && connected guid then s.removeBattleGroundQueueId guid else s
      removeStale w connected fuel (s.removePlayer guid true)

def isAllQueuesEmpty (w : World) (b : BattleGroundBracketId) : Bool :=
  ([0, 1, 2, 3].all fun j => (s.queue.m_QueuedGroups b j).isEmpty) && w.beyondEmpty

def inviteAllGroupsToBg (w : World) (b : Nat) (pools : Pools) : State :=
  ((pools .ALLIANCE).SelectedGroups ++ (pools .HORDE).SelectedGroups).foldl (fun s id => s.inviteGroupToBG w b id) s

def fillOne (bracket : BattleGroundBracketId) (s : State) (b : Nat) : State :=
  match s.m_BattleGrounds.lookup b with
  | none => s
  | some bg =>
    if bg.bracketId = bracket ∧ (bg.status = .WAIT_JOIN ∨ bg.status = .IN_PROGRESS) then
      let (ali, horde) := fillPlayersToBG conf s.queue w bg
      let s := s.inviteAllGroupsToBg w b fun team => match team with | .ALLIANCE => ali | .HORDE => horde
      if bg.hasFreeSlots then s else { s with BGFreeSlotQueue := s.BGFreeSlotQueue.erase b }
    else s

/-- `CreateNewBattleGround` and `StartBattleGround`: nothing reads the battleground between the two. -/
def createNewBattleGround (bracket : BattleGroundBracketId) (s : State) : State :=
  let bg : BattleGround :=
    ⟨bracket, w.clientInstanceID s.nextInstance, .WAIT_JOIN, conf.m_MaxPlayersPerTeam, conf.m_MaxPlayers, 0, 0, ∅⟩
  { s with
    m_BattleGrounds := s.m_BattleGrounds.insert s.nextInstance bg
    BGFreeSlotQueue := s.nextInstance :: s.BGFreeSlotQueue
    nextInstance := s.nextInstance + 1 }

def startMatch (bracket : BattleGroundBracketId) (s : State) (pools : Pools) : State :=
  (s.createNewBattleGround conf w bracket).inviteAllGroupsToBg w s.nextInstance pools

/-- The attempts at a normal match; the pools of an attempt that fails stay as they are. -/
def normalMatches (conf : Conf) (w : World) (mt : Match) (bracket : BattleGroundBracketId) :
    Nat → State → Pools → State
  | 0, s, _ => s
  | n + 1, s, pools =>
    match checkNormalMatch conf w mt bracket s.queue pools with
    | (pools, true) => normalMatches conf w mt bracket n (s.startMatch conf w bracket pools) Pools.init
    | (pools, false) => normalMatches conf w mt bracket n s pools

def shuffleNormal (n : Team → Nat) (b : BattleGroundBracketId) (s : State) : State :=
  { s with queue := shuffleList w (n .HORDE) b (shuffleList w (n .ALLIANCE) b s.queue 2) 3 }

/-- The attempts at a normal match and the players a team of a new match may have. -/
def matchSettings (b : BattleGroundBracketId) : Nat × Match :=
  let queued := fun j => ((s.queue.m_QueuedGroups b j).filter (isUninvited s.queue)).length
  let waits := conf.isAV && conf.avMinPlayersInQueue ≠ 0 && !conf.isTesting &&
    (queued 2 < conf.avMinPlayersInQueue || queued 3 < conf.avMinPlayersInQueue)
  let attempts := if waits then 0 else 1
  let initial := conf.isAV && conf.avInitialMaxPlayers ≠ 0 && !conf.isTesting && !waits
  let maxPlayers := if initial then max conf.avInitialMaxPlayers conf.minPlayersPerTeam else conf.m_MaxPlayersPerTeam.toNat
  (if initial then 2 else attempts, ⟨if conf.isTesting then 1 else conf.minPlayersPerTeam, maxPlayers⟩)

def fillRunning : State :=
  let s := if conf.randomize then s.shuffleNormal w (fun team => (s.queue.m_QueuedGroups b (team.index + 2)).length) b else s
  s.BGFreeSlotQueue.foldl (fun s bg => s.fillOne conf w b bg) s

/-- Then new ones are made, of premade groups or of normal ones. -/
def newMatches : State :=
  let settings := matchSettings conf s b
  let s := if conf.isAV && conf.avMinPlayersInQueue ≠ 0 && !conf.isTesting && settings.1 ≠ 0 then
      s.shuffleNormal w (fun _ => conf.avMinPlayersInQueue) b
    else s
  match checkPremadeMatch conf w settings.2 b s.queue Pools.init with
  | (q, pools, true) =>
    normalMatches conf w settings.2 b settings.1 (startMatch conf w b { s with queue := q } pools) Pools.init
  | (q, pools, false) => normalMatches conf w settings.2 b settings.1 { s with queue := q } pools

/-- `Update`, after the players who should not be queued are gone. -/
def matchmake : State :=
  if s.isAllQueuesEmpty w b then s else (s.fillRunning conf w b).newMatches conf w b

def update (connected : Guid → Bool) (b : BattleGroundBracketId) (s : State) : State :=
  (removeStale w connected s.queue.m_QueuedPlayers.entries.length s).matchmake conf w b

end State

end ComfyCraft.BattleGroundMgr
