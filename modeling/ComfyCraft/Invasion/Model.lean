import ComfyCraft.Lib.Edited
import ComfyCraft.Lib.Table
import Mathlib.Algebra.Order.Ring.Rat

/-! The invasion manager's data and the functions its hooks are made of. A player is a guid and, at the
time of a call, what the manager asks the world about it. What only goes to clients (messages, effects,
the radar) and the PvP flags set for a hunt are left out.

Three things are added to a row that the source does not have, to speak about it: a number of its own,
whether it has reached the fight, and whether the invader was dead when drawn home. -/

namespace ComfyCraft.InvasionManager

structure WorldLocation where
  mapId : Nat
  x : ℚ
  y : ℚ
  z : ℚ
  o : ℚ
deriving DecidableEq

structure Player where
  inWorld : Bool
  alive : Bool
  beingTeleported : Bool
  taxiFlying : Bool
  onTransport : Bool
  gameMaster : Bool
  bot : Bool
  hardcore : Bool
  inBattleGround : Bool
  hasMap : Bool
  instanceable : Bool
  inCombat : Bool
  pvp : Bool
  level : UInt32
  group : Option Nat
  account : Option Nat
  location : WorldLocation
  /-- `GetClosePoint`, that many yards behind them. -/
  closePoint : UInt32 → WorldLocation
  /-- `GetDistance` from a spot on their map. -/
  distance : WorldLocation → ℚ

structure Config where
  enable : Bool
  minLevel : UInt32
  levelRange : UInt32
  warnSeconds : UInt32
  durationSeconds : UInt32
  returnSeconds : UInt32
  deathLingerSeconds : UInt32
  reviveSeconds : UInt32
  respiteSeconds : UInt32
  arriveDistance : UInt32

/-- The world at the time of a call: the clock, the configuration, and the players by guid, of which
`online` is the order a walk finds them in. -/
structure Env where
  now : Nat
  cfg : Config
  online : List Nat
  findPlayerNotInWorld : Nat → Option Player

def Env.findPlayer (env : Env) (guid : Nat) : Option Player := (env.findPlayerNotInWorld guid).filter Player.inWorld

def IN_MILLISECONDS : UInt32 := 1000

def secondsConfig (seconds : UInt32) : UInt32 := seconds * IN_MILLISECONDS

def WITHDRAW_PULL_MS : UInt32 := 1000
def ARENA_OUT_YARDS : ℚ := 100
def ARENA_BACK_YARDS : ℚ := 95
def ARENA_FORFEIT_MS : UInt32 := 10 * IN_MILLISECONDS

inductive InvasionPhase
  | stalking
  | fighting
  | leaving
  | reviving
deriving DecidableEq

def InvasionPhase.rank : InvasionPhase → Nat
  | stalking => 0
  | fighting => 1
  | leaving => 2
  | reviving => 3

structure Invasion where
  serial : Nat
  invader : Nat
  defender : Nat
  origin : WorldLocation
  phase : InvasionPhase
  timer : UInt32
  arena : WorldLocation
  outInvader : UInt32
  outDefender : UInt32
  fought : Bool
  died : Bool

inductive Effect
  | teleport (serial guid : Nat) (dest : WorldLocation)
  | arrived (serial invader defender : Nat)
  | resurrect (serial guid : Nat)
  /-- A row of `character_invasion_match`; a draw has no winner. -/
  | record (serial invader defender : Nat) (winner : Option Nat)
  /-- `m_respite[defender] = until`. -/
  | respite (defender until_ : Nat)
  /-- `m_revives.push_back`. -/
  | fell (guid : Nat)
deriving DecidableEq

def isAvailableForInvasion (p : Player) : Bool :=
  p.inWorld && p.alive && !p.beingTeleported && !p.taxiFlying && !p.onTransport && !p.gameMaster && !p.bot && !p.hardcore &&
    !p.inBattleGround && p.hasMap && !p.instanceable

/-- `IsValidDefender`. -/
def isValidDefender (cfg : Config) (invader : Nat) (inv : Player) (target : Nat) (tgt : Player) : Bool :=
  if target = invader then false
  else if !tgt.pvp then false
  else if tgt.level + cfg.levelRange < inv.level ∨ inv.level + cfg.levelRange < tgt.level then false
  else if inv.group.isSome ∧ inv.group = tgt.group then false
  else if inv.account.isSome ∧ inv.account = tgt.account then false
  else isAvailableForInvasion tgt

/-- `GrantRespite`. -/
def grantRespite (env : Env) (defender : Nat) : List Effect :=
  if env.cfg.respiteSeconds = 0 then [] else [.respite defender (env.now + env.cfg.respiteSeconds.toNat)]

namespace Invasion

variable (env : Env) (inv : Invasion)

/-- `RecordMatch`: only a match that came to blows counts. -/
def recordMatch (winner : Option Nat) : List Effect :=
  if inv.phase ≠ .fighting then [] else [.record inv.serial inv.invader inv.defender winner]

/-- `Conclude`. -/
def conclude (delayMs : UInt32) (winner : Option Nat) : Invasion × List Effect :=
  ({ inv with phase := .leaving, timer := if delayMs ≠ 0 then delayMs else secondsConfig env.cfg.returnSeconds },
    inv.recordMatch winner ++ if inv.phase = .fighting then grantRespite env inv.defender else [])

/-- One side's clock in `ArenaForfeit`, and whether it has run out. -/
def arenaClock (p : Option Player) (arena : WorldLocation) (left diff : UInt32) : UInt32 × Bool :=
  match p with
  | none => (left, false)
  | some p =>
    if p.beingTeleported then (left, false)
    else
      let dist := if p.location.mapId = arena.mapId then p.distance arena else ARENA_OUT_YARDS * 100
      if left = 0 then (if ARENA_OUT_YARDS < dist then ARENA_FORFEIT_MS else 0, false)
      else if dist < ARENA_BACK_YARDS then (0, false)
      else if diff < left then (left - diff, false)
      else (left, true)

/-- `ArenaForfeit`: the one who left loses, as in a duel. -/
def arenaForfeit (invader defender : Option Player) (diff : UInt32) : Invasion × Option (List Effect) :=
  let a := arenaClock invader inv.arena inv.outInvader diff
  let inv := { inv with outInvader := a.1 }
  if a.2 then ((inv.conclude env 0 (some inv.defender)).1, some (inv.conclude env 0 (some inv.defender)).2)
  else
    let b := arenaClock defender inv.arena inv.outDefender diff
    let inv := { inv with outDefender := b.1 }
    if b.2 then ((inv.conclude env 0 (some inv.invader)).1, some (inv.conclude env 0 (some inv.invader)).2)
    else (inv, none)

/-- `Arrive`: the invader lands behind the defender. -/
def arrive (defender : Player) : Invasion × List Effect :=
  let spot := defender.closePoint env.cfg.arriveDistance
  ({ inv with
      arena := spot
      outInvader := 0
      outDefender := 0
      phase := .fighting
      timer := secondsConfig env.cfg.durationSeconds
      fought := true },
    [.teleport inv.serial inv.invader spot, .arrived inv.serial inv.invader inv.defender] ++ grantRespite env inv.defender)

/-- `SendHome`, for an invader in the world. -/
def sendHome : List Effect := [.teleport inv.serial inv.invader inv.origin]

def withdraw : Option Invasion × List Effect :=
  match inv.phase with
  | .stalking => (none, [])
  | .fighting => let c := inv.conclude env WITHDRAW_PULL_MS (some inv.defender); (some c.1, c.2)
  | .leaving | .reviving => (some inv, [])

/-- `OnPlayerDeath` for a side of this row. The other side wins if the blow was theirs and they stand. -/
def onPlayerDeath (victim : Nat) (killer : Option Nat) : Option Invasion × List Effect :=
  match inv.phase with
  | .stalking => let c := inv.conclude env 0 none; (some c.1, c.2)
  | .leaving | .reviving => (some inv, [])
  | .fighting =>
    let opponent := if inv.invader = victim then inv.defender else inv.invader
    let stands := (env.findPlayer opponent).any Player.alive
    let winner := if killer = some opponent ∧ stands then some opponent else none
    if inv.invader = victim then
      let c := inv.conclude env (secondsConfig env.cfg.deathLingerSeconds) winner
      (some c.1, c.2)
    else
      let c := inv.conclude env 0 winner
      (some c.1, c.2 ++ [.fell victim])

/-- `OnPlayerLogout` for a side of this row. -/
def onPlayerLogout (player : Nat) : Option Invasion × List Effect :=
  if inv.invader = player then (none, .teleport inv.serial inv.invader inv.origin :: inv.recordMatch none)
  -- Unless it is already leaving, in which case the ride is booked.
  else if inv.phase ≠ .leaving then let c := inv.conclude env 0 none; (some c.1, c.2)
  else (some inv, [])

/-- The phases of `Update`, for an invader in the world and a clock already run down. -/
def updatePhase (invader : Player) (diff : UInt32) : Option Invasion × List Effect :=
  let defender := env.findPlayer inv.defender
  match inv.phase with
  | .stalking =>
    if inv.timer ≠ 0 then (some inv, [])
    else
      match defender with
      | none => (none, [])
      | some d =>
        if !isValidDefender env.cfg inv.invader invader inv.defender d || !isAvailableForInvasion invader then (none, [])
        else let a := inv.arrive env d; (some a.1, a.2)
  | .fighting =>
    if !defender.any fun d => !(d.hasMap && d.instanceable) then let c := inv.conclude env 0 none; (some c.1, c.2)
    else
      match inv.arenaForfeit env (some invader) defender diff with
      | (inv, some effects) => (some inv, effects)
      | (inv, none) => if inv.timer = 0 then let c := inv.conclude env 0 none; (some c.1, c.2) else (some inv, [])
  | .leaving =>
    if inv.timer ≠ 0 then (some inv, [])
    else if invader.alive then (none, inv.sendHome)
    -- Carried home dead; waking happens a beat later.
    else (some { inv with phase := .reviving, timer := secondsConfig env.cfg.reviveSeconds, died := true }, inv.sendHome)
  | .reviving =>
    if inv.timer ≠ 0 ∨ invader.beingTeleported then (some inv, [])
    else (none, [.resurrect inv.serial inv.invader])

/-- One turn of the loop of `Update`. -/
def update (diff : UInt32) (inv : Invasion) : Option Invasion × List Effect :=
  match env.findPlayerNotInWorld inv.invader with
  | none => (none, [])
  | some invader =>
    if !invader.inWorld && !invader.beingTeleported then (none, [])
    else if !invader.inWorld then (some inv, [])
    else { inv with timer := if diff < inv.timer then inv.timer - diff else 0 }.updatePhase env invader diff

def involves (guid : Nat) (inv : Invasion) : Bool := inv.invader = guid || inv.defender = guid

end Invasion

end ComfyCraft.InvasionManager
