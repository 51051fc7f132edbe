import Mathlib.Logic.Function.Basic
import Mathlib.Data.Nat.Basic

/-! The members of a group: the slots, the counters of its subgroups and its leader, and what each player knows of
the group they are in. A player is looked at only while in the world; in a battleground the player's own group is kept
as the original one. -/

namespace ComfyCraft

structure MemberSlot where
  guid : Nat
  group : Nat
  assistant : Bool
deriving DecidableEq

/-- `subGroupsCounts` is there once the group is a raid; guid 0 is nobody. -/
structure Group where
  battleground : Bool
  raid : Bool
  slots : List MemberSlot
  subGroupsCounts : Option (Nat → UInt8)
  leader : Nat
  mainTank : Nat
  mainAssistant : Nat

/-- A reference of a player to a group; the subgroup stays when it is unlinked. -/
structure GroupRef where
  group : Option Nat
  subGroup : Nat

namespace GroupRef

def unlink (r : GroupRef) : GroupRef := { r with group := none }

end GroupRef

structure PlayerGroups where
  inWorld : Bool
  group : GroupRef
  originalGroup : GroupRef

namespace PlayerGroups

variable (p : PlayerGroups) (id subGroup : Nat)

def setGroup : PlayerGroups := { p with group := ⟨some id, subGroup⟩ }

/-- `SetOriginalGroup`, of no group too. -/
def setOriginalGroup : Option Nat → Nat → PlayerGroups
  | none, _ => { p with originalGroup := p.originalGroup.unlink }
  | some id, subGroup => { p with originalGroup := ⟨some id, subGroup⟩ }

def setBattleGroundRaid : PlayerGroups :=
  { p.setOriginalGroup p.group.group p.group.subGroup with group := ⟨some id, subGroup⟩ }

def removeFromBattleGroundRaid : PlayerGroups :=
  let group := match p.originalGroup.group with
    | none => p.group.unlink
    | some id => ⟨some id, p.originalGroup.subGroup⟩
  { p with group := group, originalGroup := p.originalGroup.unlink }

def join (battleground : Bool) (id subGroup : Nat) : PlayerGroups :=
  if p.group.group.isNone then p.setGroup id subGroup
  else if battleground then p.setBattleGroundRaid id subGroup
  else p.setOriginalGroup (some id) subGroup

def leave (battleground : Bool) (id : Nat) : PlayerGroups :=
  if battleground then p.removeFromBattleGroundRaid
  else if p.originalGroup.group = some id then p.setOriginalGroup none 0
  else { p with group := p.group.unlink }

/-- When a group is deleted, nobody is linked to it any longer. -/
def forget : PlayerGroups :=
  { p with
    group := if p.group.group = some id then p.group.unlink else p.group
    originalGroup := if p.originalGroup.group = some id then p.originalGroup.unlink else p.originalGroup }

def setSubGroup : PlayerGroups :=
  if p.group.group = some id then { p with group := { p.group with subGroup := subGroup } }
  else { p with originalGroup := { p.originalGroup with subGroup := subGroup } }

end PlayerGroups

namespace Group

variable (g : Group) (guid subGroup : Nat)

def slot : Option MemberSlot := g.slots.find? fun s => s.guid = guid

def isMember : Bool := (g.slot guid).isSome

/-- Nobody's subgroup is one more than there can be. -/
def memberGroup : Nat := ((g.slot guid).map MemberSlot.group).getD 9

def isFull : Bool := if g.raid then 40 ≤ g.slots.length else 5 ≤ g.slots.length

def membersMinCount : Nat := if g.battleground then 1 else 2

def inSubGroup (slots : List MemberSlot) (subGroup : Nat) : Nat := slots.countP fun s => s.group = subGroup

/-- `_initRaidSubGroupsCounter` -/
def initRaidSubGroupsCounter : Group :=
  { g with subGroupsCounts := some (g.slots.foldl (fun counts s => Function.update counts s.group (counts s.group + 1)) fun _ => 0) }

def counterIncrease : Group :=
  { g with subGroupsCounts := g.subGroupsCounts.map fun counts => Function.update counts subGroup (counts subGroup + 1) }

def counterDecrease : Group :=
  { g with subGroupsCounts := g.subGroupsCounts.map fun counts => Function.update counts subGroup (counts subGroup - 1) }

/-- The first subgroup with room; without counters it is subgroup 0. -/
def openSubGroup : Option Nat :=
  match g.subGroupsCounts with
  | none => some 0
  | some counts => (List.range 8).find? fun subGroup => counts subGroup < 5

def addSlot : Group :=
  ({ g with slots := g.slots ++ [⟨guid, subGroup, false⟩] } : Group).counterIncrease subGroup

def setSlotGroup (slots : List MemberSlot) : List MemberSlot :=
  slots.map fun s => if s.guid = guid then { s with group := subGroup } else s

/-- `_setMembersGroup` of a member. -/
def setMembersGroup : Group :=
  ({ g with slots := setSlotGroup guid subGroup g.slots } : Group).counterIncrease subGroup

def swapMembersGroup (guid swapGuid : Nat) : Group :=
  { g with slots := setSlotGroup guid (g.memberGroup swapGuid) (setSlotGroup swapGuid (g.memberGroup guid) g.slots) }

def setMainAssistant : Group :=
  if g.mainAssistant = guid then g
  else if guid ≠ 0 ∧ !g.isMember guid then g
  else { g with mainTank := if guid ≠ 0 ∧ g.mainTank = guid then 0 else g.mainTank, mainAssistant := guid }

def setMainTank : Group :=
  if g.mainTank = guid then g
  else if guid ≠ 0 ∧ !g.isMember guid then g
  else { g with mainAssistant := if guid ≠ 0 ∧ g.mainAssistant = guid then 0 else g.mainAssistant, mainTank := guid }

def setLeader : Group := if g.isMember guid then { g with leader := guid } else g

/-- The loop of `_chooseLeader`: of those in the world the first, in a raid the first assistant before others. -/
def chosen (id : Nat) (players : Nat → PlayerGroups) : Option Nat :=
  let online := g.slots.filter fun s => s.guid ≠ g.leader ∧ (players s.guid).inWorld ∧ (players s.guid).group.group = some id
  match online.find? fun s => !g.raid || s.assistant with
  | some s => some s.guid
  | none => online.head?.map MemberSlot.guid

/-- `_chooseLeader`; for a leader who is only offline, nobody is chosen while all are. -/
def chooseLeader (id : Nat) (players : Nat → PlayerGroups) (offline : Bool) : Group :=
  if g.slots.length < g.membersMinCount then g
  else
    match g.chosen id players with
    | some guid => g.setLeader guid
    | none =>
      if offline then g
      else
        match g.slots.head? with
        | some s => g.setLeader s.guid
        | none => g

/-- `_removeMember` -/
def removeMember (id : Nat) (players : Nat → PlayerGroups) (guid : Nat) : Group :=
  let g' := match g.slot guid with
    | some s => ({ g with slots := g.slots.eraseP fun t => t.guid = guid } : Group).counterDecrease s.group
    | none => g
  if g'.leader = guid then g'.chooseLeader id players false else g'

end Group

structure GroupRealm where
  groups : Nat → Option Group
  players : Nat → PlayerGroups

inductive GroupEvent
  | create (id guid : Nat) (battleground : Bool)
  | addMember (id guid : Nat)
  | removeMember (id guid : Nat)
  | disband (id : Nat)
  | convertToRaid (id : Nat)
  | changeMembersGroup (id guid subGroup : Nat)
  | swapMembersGroup (id guid swapGuid : Nat)
  | changeLeader (id guid : Nat)
  | leaderInactive (id : Nat)
  | setAssistant (id guid : Nat) (state : Bool)
  | setMainTank (id guid : Nat)
  | setMainAssistant (id guid : Nat)
  | rejoinBattleground (id guid : Nat)
  | login (guid : Nat) (id : Option Nat)
  | enterWorld (guid : Nat)
  | leaveWorld (guid : Nat)
  | logout (guid : Nat)

namespace GroupRealm

def start : GroupRealm := ⟨fun _ => none, fun _ => ⟨false, ⟨none, 0⟩, ⟨none, 0⟩⟩⟩

variable (w : GroupRealm) (id guid : Nat)

def setGroup (g : Group) : GroupRealm := { w with groups := Function.update w.groups id (some g) }

def tell (f : PlayerGroups → PlayerGroups) : GroupRealm :=
  if (w.players guid).inWorld then { w with players := Function.update w.players guid (f (w.players guid)) } else w

/-- `AddMember`: whether the player is in the group then, and the realm. One who is a member already is not listed twice. -/
def addMember : Bool × GroupRealm :=
  match w.groups id with
  | none => (false, w)
  | some g =>
    match g.openSubGroup with
    | none => (false, w)
    | some subGroup =>
      if guid = 0 then (false, w)
      else if g.isMember guid then
        (true, w.tell guid fun p =>
          if p.group.group.isNone ∧ !g.battleground then p.setGroup id (g.memberGroup guid) else p)
      else if g.isFull then (false, w)
      else (true, (w.setGroup id (g.addSlot guid subGroup)).tell guid fun p => p.join g.battleground id subGroup)

/-- `Create`, with the leader as its first member. A battleground's group is a raid from the start. -/
def create (battleground : Bool) : Bool × GroupRealm :=
  let g : Group := ⟨battleground, battleground, [], none, guid, 0, 0⟩
  let g := if battleground then g.initRaidSubGroupsCounter else g
  let (done, w') := (w.setGroup id g).addMember id guid
  if done then (true, w') else (false, w)

/-- `Disband`; the group is deleted. -/
def disband : GroupRealm :=
  match w.groups id with
  | none => w
  | some g =>
    let w' := g.slots.foldl (fun w s => w.tell s.guid fun p => p.leave g.battleground id) w
    { groups := Function.update w'.groups id none, players := fun guid => (w'.players guid).forget id }

def removeMember : GroupRealm :=
  match w.groups id with
  | none => w
  | some g =>
    if g.membersMinCount < g.slots.length then
      let w' := w.tell guid fun p => p.leave g.battleground id
      w'.setGroup id (g.removeMember id w'.players guid)
    else w.disband id

/-- `ChangeMembersGroup`: the subgroup whose counter goes down is taken from the slot, but from the player's original
group for a player who is in the world with another group. -/
def changeMembersGroup (id guid subGroup : Nat) : GroupRealm :=
  match w.groups id with
  | none => w
  | some g =>
    if !g.raid ∨ 8 ≤ subGroup ∨ (g.subGroupsCounts.any fun counts => 5 ≤ counts subGroup) then w
    else if g.memberGroup guid = subGroup ∨ 8 ≤ g.memberGroup guid then w
    else
      let p := w.players guid
      let prevSubGroup := if p.inWorld ∧ p.group.group ≠ some id then p.originalGroup.subGroup else g.memberGroup guid
      (w.setGroup id ((g.setMembersGroup guid subGroup).counterDecrease prevSubGroup)).tell guid fun p => p.setSubGroup id subGroup

def swapMembersGroup (id guid swapGuid : Nat) : GroupRealm :=
  match w.groups id with
  | none => w
  | some g =>
    if !g.raid ∨ g.memberGroup guid = g.memberGroup swapGuid ∨ 8 ≤ g.memberGroup guid ∨ 8 ≤ g.memberGroup swapGuid then w
    else
      ((w.setGroup id (g.swapMembersGroup guid swapGuid)).tell guid fun p => p.setSubGroup id (g.memberGroup swapGuid)).tell
        swapGuid fun p => p.setSubGroup id (g.memberGroup guid)

def onGroup (f : Group → Group) : GroupRealm :=
  match w.groups id with
  | none => w
  | some g => w.setGroup id (f g)

/-- A new player object for who logs in, linked to the group that lists the player. -/
def login (id : Option Nat) : GroupRealm :=
  let group : GroupRef := match id with
    | none => ⟨none, 0⟩
    | some id =>
      match w.groups id with
      | none => ⟨none, 0⟩
      | some g => if g.isMember guid ∧ !g.battleground then ⟨some id, g.memberGroup guid⟩ else ⟨none, 0⟩
  { w with players := Function.update w.players guid ⟨false, group, ⟨none, 0⟩⟩ }

def setInWorld (inWorld : Bool) : GroupRealm :=
  { w with players := Function.update w.players guid { w.players guid with inWorld := inWorld } }

def step : GroupEvent → GroupRealm
  | .create id guid battleground => if (w.groups id).isSome then w else (w.create id guid battleground).2
  | .addMember id guid => (w.addMember id guid).2
  | .removeMember id guid => w.removeMember id guid
  | .disband id => w.disband id
  | .convertToRaid id => w.onGroup id fun g => ({ g with raid := true } : Group).initRaidSubGroupsCounter
  | .changeMembersGroup id guid subGroup => w.changeMembersGroup id guid subGroup
  | .swapMembersGroup id guid swapGuid => w.swapMembersGroup id guid swapGuid
  | .changeLeader id guid => w.onGroup id fun g => g.setLeader guid
  | .leaderInactive id => w.onGroup id fun g => g.chooseLeader id w.players true
  | .setAssistant id guid state =>
    w.onGroup id fun g =>
      if g.raid then { g with slots := g.slots.map fun s => if s.guid = guid then { s with assistant := state } else s } else g
  | .setMainTank id guid => w.onGroup id fun g => if g.raid then g.setMainTank guid else g
  | .setMainAssistant id guid => w.onGroup id fun g => if g.raid then g.setMainAssistant guid else g
  | .rejoinBattleground id guid =>
    match w.groups id with
    | none => w
    | some g => if g.battleground ∧ g.isMember guid then w.tell guid fun p => p.setBattleGroundRaid id (g.memberGroup guid) else w
  | .login guid id => w.login guid id
  | .enterWorld guid => w.setInWorld guid true
  | .leaveWorld guid => w.setInWorld guid false
  | .logout guid => { w with players := Function.update w.players guid ⟨false, (w.players guid).group.unlink, (w.players guid).originalGroup.unlink⟩ }

end GroupRealm

end ComfyCraft
