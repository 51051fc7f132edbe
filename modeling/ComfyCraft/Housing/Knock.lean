import ComfyCraft.Housing.Storage

/-! Knocking at a locked house. One knock is kept for each visitor, with the house, the time it runs out
and whether it was answered. A request comes with all it reads of the world around: the clock, the houses,
who leads the party, who is online. -/

namespace ComfyCraft

open Option AList Runs Bool Table List HouseSample

variable {F : Type} {sv : Server F}

structure HouseKnock where
  houseId : UInt32
  portalId : UInt32
  expires : Int
  answered : Bool

abbrev Knocks := Table UInt32 HouseKnock

def HOUSE_KNOCK_SECONDS : Int := 30

structure Guest where
  guid : UInt32
  name : String
  accountId : UInt32
  staff : Bool
  inCombat : Bool
  taxiFlying : Bool
  beingTeleported : Bool
  group : Option (UInt32 × String)

structure HousePartyHost where
  leaderGuid : UInt32
  leaderAccount : UInt32
  houseId : UInt32
  leaderName : String

structure Scene {F : Type} (sv : Server F) where
  now : Int
  mgr : HouseMgr sv
  accountByGuid : UInt32 → UInt32
  accountByName : String → UInt32
  findPlayer : UInt32 → Option Guest
  findPlayerByName : String → Option Guest
  locked : UInt32 → Bool
  prepareInstance : UInt32 → Bool
  teleportTo : UInt32 → Bool

inductive KnockRequest
  | visitHouse (ownerName : String)
  | visitPartyLeaderHouse (expectedLeader portalId : UInt32)
  | answerKnock (visitorName : String) (yes : Bool)

structure KnockStep {F : Type} (sv : Server F) where
  scene : Scene sv
  player : Guest
  request : KnockRequest

inductive Outcome
  | refused (error : String)
  | knocked (houseId : UInt32)
  /-- In by a door that is not locked, or past the lock. -/
  | visited (houseId : UInt32)
  | wentHome
  | denied (visitor houseId : UInt32)
  | opened (visitor houseId : UInt32) (entered : Except String Unit)

namespace Knocks

def getPartyLeader (scene : Scene sv) (player : Guest) : Option HousePartyHost :=
  if !sv.enabled then none
  else match player.group with
    | none => none
    | some (leaderGuid, leaderName) =>
      if leaderGuid = 0 ∨ leaderGuid = player.guid then none
      else
        let leaderAccount := scene.accountByGuid leaderGuid
        if leaderAccount = 0 ∨ leaderAccount = player.accountId then none
        else (scene.mgr.getHouseByAccount leaderAccount).map fun house => ⟨leaderGuid, leaderAccount, house.id, leaderName⟩

def getPartyLeaderHouse (scene : Scene sv) (player : Guest) (portalId : UInt32) : Option HousePartyHost :=
  if portalId = 0 then none
  else (getPartyLeader scene player).filter fun host =>
    match scene.mgr.getHouseById host.houseId, scene.mgr.getPortal portalId with
    | some house, some portal => HouseMgr.isHomePortal house portal
    | _, _ => false

def enterHouseAsVisitor (scene : Scene sv) (player : Guest) (house : House F) : Except String Unit :=
  if !scene.prepareInstance house.id then .error "Could not open their house."
  else if !scene.teleportTo player.guid then .error "Could not travel there."
  else .ok ()

def enter (scene : Scene sv) (player : Guest) (house : House F) : Outcome :=
  match enterHouseAsVisitor scene player house with
  | .error e => .refused e
  | .ok () => .visited house.id

/-- `Knock`: knocks that have run out are swept first, and one that has not stands in the way of another. -/
def knock (s : Knocks) (scene : Scene sv) (visitor : Guest) (house : House F) (host : HousePartyHost) (portalId : UInt32) :
    Knocks × Outcome :=
  let s : Knocks := Table.keep (fun _ k => !(k.expires ≤ scene.now)) s
  match (s.lookup visitor.guid).filter fun k => k.houseId = house.id with
  | some k =>
    (s, .refused (if k.answered then "Wait a moment before you knock again." else "You have knocked. Wait for " ++ host.leaderName ++ "."))
  | none =>
    match scene.findPlayer host.leaderGuid with
    | none => (s, .refused "Nobody is home.")
    | some _ => (s.insert visitor.guid ⟨house.id, portalId, scene.now + HOUSE_KNOCK_SECONDS, false⟩, .knocked house.id)

/-- What comes of a yes, once the knock is gone: the party is asked about again. -/
def admitted (scene : Scene sv) (visitor : Guest) (house : House F) : Except String Unit :=
  match (getPartyLeader scene visitor).filter fun host => host.leaderAccount = house.accountId with
  | none => .error (visitor.name ++ " is not in your party any more.")
  | some _ =>
    if visitor.inCombat || visitor.taxiFlying || visitor.beingTeleported then .error (visitor.name ++ " cannot travel right now.")
    else match enterHouseAsVisitor scene visitor house with
      | .error _ => .error (visitor.name ++ " could not come in.")
      | .ok () => .ok ()

def answerKnock (s : Knocks) (scene : Scene sv) (owner : Guest) (visitorName : String) (yes : Bool) : Knocks × Outcome :=
  if !sv.enabled then (s, .refused "")
  else match scene.mgr.getHouseByAccount owner.accountId with
    | none => (s, .refused "You do not have a house.")
    | some house =>
      match scene.findPlayerByName visitorName with
      | none => (s, .refused "Nobody by that name is at your door.")
      | some visitor =>
        match (s.lookup visitor.guid).filter fun k => k.houseId = house.id && !k.answered && scene.now < k.expires with
        | none => (s, .refused "Nobody by that name is at your door.")
        | some k =>
          if yes then (s.erase visitor.guid, .opened visitor.guid house.id (admitted scene visitor house))
          else (s.insert visitor.guid { k with answered := true }, .denied visitor.guid house.id)

def visitPartyLeaderHouse (s : Knocks) (scene : Scene sv) (player : Guest) (expectedLeader portalId : UInt32) : Knocks × Outcome :=
  if !sv.enabled then (s, .refused "Housing is not available on this server.")
  else if player.inCombat then (s, .refused "You cannot travel while in combat.")
  else match getPartyLeaderHouse scene player portalId with
    | none => (s, .refused "Your party leader's home is not here any more.")
    | some host =>
      if expectedLeader ≠ 0 ∧ expectedLeader ≠ host.leaderGuid then
        (s, .refused "Your party has a different leader now. Right-click the door again.")
      else match scene.mgr.getHouseById host.houseId with
        | none => (s, .refused "Your party leader's home is not here any more.")
        | some house =>
          if scene.locked house.accountId then knock s scene player house host portalId else (s, enter scene player house)

def visitHouse (s : Knocks) (scene : Scene sv) (player : Guest) (ownerName : String) : Knocks × Outcome :=
  if !sv.enabled then (s, .refused "Housing is not available on this server.")
  else if player.inCombat then (s, .refused "You cannot travel while in combat.")
  else
    let ownerAccount := scene.accountByName ownerName
    if ownerAccount = 0 then (s, .refused "No character by that name.")
    else if ownerAccount = player.accountId then (s, .wentHome)
    else match scene.mgr.getHouseByAccount ownerAccount with
      | none => (s, .refused "They do not have a house.")
      | some house =>
        match (getPartyLeader scene player).filter fun host => host.leaderAccount = ownerAccount with
        | some host => if scene.locked house.accountId then knock s scene player house host 0 else (s, enter scene player house)
        | none =>
          if player.staff then (s, enter scene player house)
          else (s, .refused "Join their party and they can take you home with them.")

def handle (s : Knocks) (a : KnockStep sv) : Knocks × Outcome :=
  match a.request with
  | .visitHouse ownerName => visitHouse s a.scene a.player ownerName
  | .visitPartyLeaderHouse expectedLeader portalId => visitPartyLeaderHouse s a.scene a.player expectedLeader portalId
  | .answerKnock visitorName yes => answerKnock s a.scene a.player visitorName yes

def step (s : Knocks) (a : KnockStep sv) : Knocks := (handle s a).1

def outcome (s : Knocks) (a : KnockStep sv) : Outcome := (handle s a).2

/-- The outcome of a caller's request is a knock of the visitor, or an answer to one. -/
def Touches (v caller : UInt32) : Outcome → Prop
  | .knocked _ => caller = v
  | .denied visitor _ => visitor = v
  | .opened visitor _ _ => visitor = v
  | _ => False

/-- All that a request can do to the knock of a visitor: put one there, answer it, sweep it, or nothing. -/
inductive Moves (s : Knocks) (scene : Scene sv) (caller : Guest) (v : UInt32) (r : Knocks × Outcome) : Prop
  | knocked (h portalId : UInt32) (out : r.2 = .knocked h) (by_ : caller.guid = v)
      (row : r.1.lookup v = some ⟨h, portalId, scene.now + HOUSE_KNOCK_SECONDS, false⟩)
      (fresh : ∀ k, s.lookup v = some k → scene.now < k.expires → k.houseId ≠ h)
  | denied (k : HouseKnock) (house : House F) (before : s.lookup v = some k) (unanswered : k.answered = false)
      (unexpired : scene.now < k.expires) (owner : scene.mgr.getHouseByAccount caller.accountId = some house)
      (home : house.id = k.houseId) (out : r.2 = .denied v k.houseId) (row : r.1.lookup v = some { k with answered := true })
  | opened (k : HouseKnock) (house : House F) (before : s.lookup v = some k) (unanswered : k.answered = false)
      (unexpired : scene.now < k.expires) (owner : scene.mgr.getHouseByAccount caller.accountId = some house)
      (home : house.id = k.houseId) (entered : Except String Unit) (out : r.2 = .opened v k.houseId entered)
      (row : r.1.lookup v = none)
  | swept (k : HouseKnock) (out : ¬ Touches v caller.guid r.2) (before : s.lookup v = some k) (expired : k.expires ≤ scene.now)
      (row : r.1.lookup v = none)
  | same (out : ¬ Touches v caller.guid r.2) (row : r.1.lookup v = s.lookup v)

section

variable (s : Knocks) (scene : Scene sv)
include s scene

theorem moves_knock (visitor : Guest) (house : House F) (host : HousePartyHost) (portalId v : UInt32) :
    Moves s scene visitor v (knock s scene visitor house host portalId) := by
  set swept : Knocks := keep (fun _ k => !(k.expires ≤ scene.now)) s with hswept
  have hlookup : ∀ v, swept.lookup v = (s.lookup v).filter fun k => !(k.expires ≤ scene.now) := fun v => lookup_keep
  -- a request that only sweeps
  have honly : ∀ o : Outcome, ¬ Touches v visitor.guid o → Moves s scene visitor v (swept, o) := by
    intro o ho
    cases hk : s.lookup v with
    | none => exact .same ho (by simp [hlookup, hk])
    | some k =>
      by_cases he : k.expires ≤ scene.now
      · exact .swept k ho hk he (by simp [hlookup, hk, he])
      · exact .same ho (by simp [hlookup, hk, he])
  unfold knock
  simp only [← hswept]
  cases hpending : (swept.lookup visitor.guid).filter fun k => k.houseId = house.id with
  | some k => exact honly _ (by simp [Touches])
  | none =>
    cases scene.findPlayer host.leaderGuid with
    | none => exact honly _ (by simp [Touches])
    | some owner =>
      by_cases hv : visitor.guid = v
      · refine .knocked house.id portalId rfl hv (by rw [← hv]; exact lookup_insert _) ?_
        intro k hk hnow hh
        rw [filter_eq_none_iff] at hpending
        have hin : swept.lookup visitor.guid = some k := by rw [hlookup, hv, hk]; simp [hnow]
        exact hpending k hin (by simpa using hh)
      · have hrow : (swept.insert visitor.guid ⟨house.id, portalId, scene.now + HOUSE_KNOCK_SECONDS, false⟩).lookup v = swept.lookup v :=
          lookup_insert_ne (Ne.symm hv)
        cases hk : s.lookup v with
        | none => exact .same (by simpa [Touches] using hv) (by simp only; rw [hrow, hlookup, hk]; rfl)
        | some k =>
          by_cases he : k.expires ≤ scene.now
          · exact .swept k (by simpa [Touches] using hv) hk he (by simp only; rw [hrow, hlookup, hk]; simp [he])
          · exact .same (by simpa [Touches] using hv) (by simp only; rw [hrow, hlookup, hk]; simp [he])

theorem moves_answerKnock (owner : Guest) (visitorName : String) (yes : Bool) (v : UInt32) :
    Moves s scene owner v (answerKnock s scene owner visitorName yes) := by
  unfold answerKnock
  split
  · exact .same (by simp [Touches]) rfl
  cases hhouse : scene.mgr.getHouseByAccount owner.accountId with
  | none => exact .same (by simp [Touches]) rfl
  | some house =>
    simp only
    cases scene.findPlayerByName visitorName with
    | none => exact .same (by simp [Touches]) rfl
    | some visitor =>
      simp only
      cases hk : (s.lookup visitor.guid).filter fun k => k.houseId = house.id && !k.answered && scene.now < k.expires with
      | none => exact .same (by simp [Touches]) rfl
      | some k =>
        rw [filter_eq_some_iff] at hk
        obtain ⟨hrow, hcond⟩ := hk
        simp only [and_eq_true, decide_eq_true_eq, not_eq_true'] at hcond
        obtain ⟨⟨hhome, hunanswered⟩, hnow⟩ := hcond
        by_cases hv : visitor.guid = v
        · subst hv
          cases yes with
          | true => exact .opened k house hrow hunanswered hnow hhouse hhome.symm _ (by rw [hhome]; rfl) (lookup_erase _ _)
          | false => exact .denied k house hrow hunanswered hnow hhouse hhome.symm (by rw [hhome]; rfl) (lookup_insert _)
        · cases yes with
          | true => exact .same (by simpa [Touches] using hv) (lookup_erase_ne (Ne.symm hv))
          | false => exact .same (by simpa [Touches] using hv) (lookup_insert_ne (Ne.symm hv))

theorem moves_enter (player : Guest) (house : House F) (v : UInt32) : Moves s scene player v (s, enter scene player house) := by
  refine .same ?_ rfl
  unfold enter
  cases enterHouseAsVisitor scene player house with
  | error e => exact id
  | ok u => exact id

theorem moves_refused (player : Guest) (error : String) (v : UInt32) :
    Moves s scene player v (s, .refused error) := .same id rfl

theorem moves_visitPartyLeaderHouse (player : Guest) (expectedLeader portalId v : UInt32) :
    Moves s scene player v (visitPartyLeaderHouse s scene player expectedLeader portalId) := by
  unfold visitPartyLeaderHouse
  split
  · exact moves_refused ..
  split
  · exact moves_refused ..
  cases getPartyLeaderHouse scene player portalId with
  | none => exact moves_refused ..
  | some host =>
    simp only
    split_ifs
    · exact moves_refused ..
    cases scene.mgr.getHouseById host.houseId with
    | none => exact moves_refused ..
    | some house =>
      simp only
      split_ifs
      · exact moves_knock ..
      · exact moves_enter ..

theorem moves_visitHouse (player : Guest) (ownerName : String) (v : UInt32) :
    Moves s scene player v (visitHouse s scene player ownerName) := by
  unfold visitHouse
  simp only
  split
  · exact moves_refused ..
  split
  · exact moves_refused ..
  split
  · exact moves_refused ..
  split
  · exact .same id rfl
  cases scene.mgr.getHouseByAccount (scene.accountByName ownerName) with
  | none => exact moves_refused ..
  | some house =>
    simp only
    cases (getPartyLeader scene player).filter fun host => host.leaderAccount = scene.accountByName ownerName with
    | none =>
      simp only
      split_ifs
      · exact moves_enter ..
      · exact moves_refused ..
    | some host =>
      simp only
      split_ifs
      · exact moves_knock ..
      · exact moves_enter ..

end

theorem moves_handle (s : Knocks) (a : KnockStep sv) (v : UInt32) : Moves s a.scene a.player v (handle s a) := by
  unfold handle
  cases a.request with
  | visitHouse ownerName => exact moves_visitHouse ..
  | visitPartyLeaderHouse expectedLeader portalId => exact moves_visitPartyLeaderHouse ..
  | answerKnock visitorName yes => exact moves_answerKnock ..

/-- A step within the cooldown of a knock, at which the visitor is not let in and does not knock elsewhere. -/
def Waits (v h : UInt32) (expires : Int) (s : Knocks) (a : KnockStep sv) : Prop :=
  a.scene.now < expires ∧ (∀ h' entered, outcome s a ≠ .opened v h' entered) ∧
    ∀ h', outcome s a = .knocked h' → a.player.guid = v → h' = h

variable {v h : UInt32} {k : HouseKnock} {s : Knocks} {as : List (KnockStep sv)} {a : KnockStep sv} {scene : Scene sv}
  {player : Guest} {house : House F}

end Knocks

end ComfyCraft
