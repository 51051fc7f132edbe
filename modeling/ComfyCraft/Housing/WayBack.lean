import ComfyCraft.Housing.Storage

/-! The way out of a house. The manager keeps the entrance each player walked in by, and for those who came by
a portal home the spot they left; the second is a row of `character_house_return` too. A step comes with what
it reads of the world and of the player: the houses and entrances, the maps, where a trip succeeds. -/

namespace ComfyCraft

open Option AList Table

variable {F : Type} {sv : Server F}

structure WorldLocation (F : Type) where
  mapId : UInt32
  x : F
  y : F
  z : F
  o : F

structure HouseReturn (F : Type) where
  viaAccount : UInt32
  hostGuid : UInt32
  mapId : UInt32
  instanceId : UInt32
  x : F
  y : F
  z : F
  o : F

structure HouseHomePortal where
  goGuid : UInt64
  ownerGuid : UInt32
  mapId : UInt32
  instanceId : UInt32

structure Trip {F : Type} (sv : Server F) where
  mgr : HouseMgr sv
  mapEntry : UInt32 → Option Bool
  goBackTrigger : UInt32 → Option (WorldLocation F)
  persistentState : UInt32 → UInt32 → Bool
  findPlayer : UInt32 → Option String
  summonGameObject : Option UInt64

structure Traveller (F : Type) where
  guid : UInt32
  accountId : UInt32
  inCombat : Bool
  playerLogout : Bool
  battleGround : Bool
  travelling : Bool
  invasion : Bool
  mapId : UInt32
  instanceId : UInt32
  x : F
  y : F
  z : F
  o : F
  teleportDest : UInt32
  group : Option (List UInt32)
  boundInstance : UInt32 → Option UInt32
  teleportTo : WorldLocation F → Bool
  sendPlayerHome : Except String Unit
  enterHouseAsVisitor : UInt32 → Except String Unit

inductive BackTrip (F : Type)
  | gone
  | closed (error : String)
  | went (loc : WorldLocation F) (why : Option String)

inductive WayOut (F : Type)
  | back (loc : WorldLocation F) (why : Option String)
  | door (portal : HousePortal F) (loc : WorldLocation F)
  | homebind

structure WayBack (F : Type) where
  enteredBy : Table UInt32 UInt32
  returns : Table UInt32 (HouseReturn F)
  homePortals : Table UInt32 HouseHomePortal
  /-- The table `character_house_return`. -/
  returnRows : Table UInt32 (HouseReturn F)

inductive WayBackStep {F : Type} (sv : Server F)
  /-- A trip in by an entrance: walked, by its gear, with the party, after a knock, at a claim or a move. -/
  | rememberEntrance (guid portalId : UInt32)
  | openHomePortal (t : Trip sv) (p : Traveller F)
  | useHomePortal (t : Trip sv) (p : Traveller F) (go : UInt64)
  | closeHomePortal (p : Traveller F)
  | sendPlayerToPortal (t : Trip sv) (p : Traveller F)
  | getLoginExit (t : Trip sv) (p : Traveller F) (instanceId : UInt32)
  | forgetReturn (p : Traveller F)
  | restart

namespace HouseMgr

/-- The recorded door first, then the first one of the same template. -/
def getHomePortal (s : HouseMgr sv) (house : House F) : Option (HousePortal F) :=
  match (s.getPortal house.portalId).filter fun portal => isHomePortal house portal with
  | some portal => some portal
  | none =>
    if house.templateId = 0 then none
    else ((s.portals.entries.filter fun e => e.2.templateId = house.templateId).map (·.1)).min?.bind s.getPortal

end HouseMgr

namespace WayBack

def empty : WayBack F := ⟨∅, ∅, ∅, ∅⟩

def saveReturn (s : WayBack F) (sv : Server F) (guid : UInt32) (back : HouseReturn F) : WayBack F :=
  { s with
    returns := s.returns.insert guid back
    returnRows := s.returnRows.insert guid
      { back with x := sv.column back.x, y := sv.column back.y, z := sv.column back.z, o := sv.column back.o } }

def dropReturn (s : WayBack F) (guid : UInt32) : WayBack F :=
  { s with returns := s.returns.erase guid, returnRows := s.returnRows.erase guid }

def forgetEntrance (s : WayBack F) (guid : UInt32) : WayBack F := { s with enteredBy := s.enteredBy.erase guid }

def rememberEntrance (s : WayBack F) (guid portalId : UInt32) : WayBack F :=
  if portalId = 0 then s
  else
    let s := { s with enteredBy := s.enteredBy.insert guid portalId }
    if (s.returns.lookup guid).isSome then s.dropReturn guid else s

/-- Why a portal home cannot be opened here. -/
def canOpenHomePortal (t : Trip sv) (p : Traveller F) : Option String :=
  if !sv.enabled then some "Housing is not available on this server."
  else if (t.mgr.getHouseByAccount p.accountId).isNone then
    some "You do not have a home yet. Find an entrance portal and claim one."
  else if p.mapId = HOUSE_MAP_ID then some "You are already in a house."
  else if p.battleGround then some "You cannot open a portal home here."
  else if p.travelling then some "You cannot open a portal home while travelling."
  else if p.invasion then some "You cannot open a portal home during an invasion."
  else none

def openHomePortal (s : WayBack F) (t : Trip sv) (p : Traveller F) : WayBack F × Option String :=
  match canOpenHomePortal t p with
  | some why => (s, some why)
  | none =>
    match t.summonGameObject with
    | none => (s, some "The portal would not open.")
    | some go => ({ s with homePortals := s.homePortals.insert p.accountId ⟨go, p.guid, p.mapId, p.instanceId⟩ }, none)

def portalAccount (s : WayBack F) (go : UInt64) : Option UInt32 :=
  ((s.homePortals.entries.filter fun e => e.2.goGuid = go).map (·.1)).min?

/-- A guest goes in with the party of the character who opened the portal, who must be in the world. -/
def guestRefused (t : Trip sv) (p : Traveller F) (portal : HouseHomePortal) : Option String :=
  let host := t.findPlayer portal.ownerGuid
  if host.isNone || !(p.group.any fun members => members.contains portal.ownerGuid) then
    some ("This portal is for " ++ host.getD "its owner" ++ "'s party.")
  else none

def useHomePortal (s : WayBack F) (t : Trip sv) (p : Traveller F) (go : UInt64) : WayBack F × Option String :=
  if !sv.enabled then (s, none)
  else match s.portalAccount go with
    | none => (s, some "This portal leads nowhere now.")
    | some accountId =>
      match s.homePortals.lookup accountId with
      | none => (s, some "This portal leads nowhere now.")
      | some portal =>
        if p.inCombat then (s, some "You cannot go through while in combat.")
        else match t.mgr.getHouseByAccount accountId with
          | none => (s, some "This portal leads nowhere now.")
          | some house =>
            let owner := p.accountId = accountId
            match if owner then none else guestRefused t p portal with
            | some why => (s, some why)
            | none =>
              match if owner then p.sendPlayerHome else p.enterHouseAsVisitor house.id with
              | .error error => (s, if error = "" then none else some error)
              | .ok () =>
                ((s.saveReturn sv p.guid ⟨accountId, portal.ownerGuid, p.mapId, p.instanceId, p.x, p.y, p.z, p.o⟩).forgetEntrance
                  p.guid, none)

def closeHomePortal (s : WayBack F) (p : Traveller F) : WayBack F :=
  match s.homePortals.lookup p.accountId with
  | some portal => if portal.ownerGuid = p.guid then { s with homePortals := s.homePortals.erase p.accountId } else s
  | none => s

/-- Back to the spot, or to the entrance of a dungeon whose copy the bind no longer names. -/
def sendPlayerBack (t : Trip sv) (p : Traveller F) (back : HouseReturn F) : BackTrip F :=
  let travel (loc : WorldLocation F) (why : Option String) : BackTrip F :=
    if p.teleportTo loc then .went loc why else .closed "The way back is closed. Try again soon."
  match t.mapEntry back.mapId with
  | none => .gone
  | some isDungeon =>
    if isDungeon ∧ p.boundInstance back.mapId ≠ some back.instanceId then
      match t.goBackTrigger back.mapId with
      | none => .gone
      | some entrance =>
        travel entrance (some (if t.persistentState back.mapId back.instanceId
          then "You are no longer in that party. You are at the dungeon entrance."
          else "That dungeon has reset. You are at its entrance."))
    else travel ⟨back.mapId, back.x, back.y, back.z, back.o⟩ none

def outside (sv : Server F) (portal : HousePortal F) : WorldLocation F :=
  ⟨portal.map, sv.add portal.x (sv.mul (sv.cos portal.o) (sv.lit HOUSE_PORTAL_PLACE_DISTANCE)),
    sv.add portal.y (sv.mul (sv.sin portal.o) (sv.lit HOUSE_PORTAL_PLACE_DISTANCE)), portal.z, portal.o⟩

def usedPortal (s : WayBack F) (t : Trip sv) (guid : UInt32) : Option (HousePortal F) :=
  (s.enteredBy.lookup guid).bind t.mgr.getPortal

def ownPortal (t : Trip sv) (accountId : UInt32) : Option (HousePortal F) :=
  (t.mgr.getHouseByAccount accountId).bind t.mgr.getHomePortal

def leaveByDoor (s : WayBack F) (t : Trip sv) (p : Traveller F) : WayBack F × Except String (WayOut F) :=
  match (s.usedPortal t p.guid).or (ownPortal t p.accountId) with
  | none => (s.forgetEntrance p.guid, .ok .homebind)
  | some portal =>
    if p.teleportTo (outside sv portal) then (s.forgetEntrance p.guid, .ok (.door portal (outside sv portal)))
    else (s, .error "Could not send you back.")

def sendPlayerToPortal (s : WayBack F) (t : Trip sv) (p : Traveller F) : WayBack F × Except String (WayOut F) :=
  if p.inCombat then (s, .error "You cannot leave while in combat.")
  else match s.returns.lookup p.guid with
    | none => s.leaveByDoor t p
    | some back =>
      match sendPlayerBack t p back with
      | .went loc why => (s.dropReturn p.guid, .ok (.back loc why))
      | .closed error => (s, .error error)
      | .gone => (s.dropReturn p.guid).leaveByDoor t p

def loginBack (t : Trip sv) (p : Traveller F) (back : HouseReturn F) : Option (WorldLocation F) :=
  match t.mapEntry back.mapId with
  | none => none
  | some isDungeon =>
    if !isDungeon ∨ p.boundInstance back.mapId = some back.instanceId then some ⟨back.mapId, back.x, back.y, back.z, back.o⟩
    else t.goBackTrigger back.mapId

/-- The door of the house logged out in stands between the two others. -/
def loginDoor (s : WayBack F) (t : Trip sv) (p : Traveller F) (instanceId : UInt32) : WayBack F × Option (WayOut F) :=
  let host := if instanceId = 0 then none else (t.mgr.getHouseByInstance instanceId).bind t.mgr.getHomePortal
  (s.forgetEntrance p.guid,
    (((s.usedPortal t p.guid).or host).or (ownPortal t p.accountId)).map fun portal => .door portal (outside sv portal))

def getLoginExit (s : WayBack F) (t : Trip sv) (p : Traveller F) (instanceId : UInt32) : WayBack F × Option (WayOut F) :=
  match s.returns.lookup p.guid with
  | none => s.loginDoor t p instanceId
  | some back =>
    match loginBack t p back with
    | some loc => ((s.dropReturn p.guid).forgetEntrance p.guid, some (.back loc none))
    | none => (s.dropReturn p.guid).loginDoor t p instanceId

def forgetReturn (s : WayBack F) (p : Traveller F) : WayBack F :=
  if p.mapId ≠ HOUSE_MAP_ID then s
  else if p.playerLogout then s
  else if p.teleportDest = HOUSE_MAP_ID then s
  else if (s.returns.lookup p.guid).isNone then s
  else s.dropReturn p.guid

def restart (s : WayBack F) : WayBack F := ⟨∅, s.returnRows, ∅, s.returnRows⟩

def step (s : WayBack F) : WayBackStep sv → WayBack F
  | .rememberEntrance guid portalId => s.rememberEntrance guid portalId
  | .openHomePortal t p => (s.openHomePortal t p).1
  | .useHomePortal t p go => (s.useHomePortal t p go).1
  | .closeHomePortal p => s.closeHomePortal p
  | .sendPlayerToPortal t p => (s.sendPlayerToPortal t p).1
  | .getLoginExit t p instanceId => (s.getLoginExit t p instanceId).1
  | .forgetReturn p => s.forgetReturn p
  | .restart => s.restart

/-! Every player has one record at most, and the way out that it names uses up that one. -/

def whence (back : HouseReturn F) : UInt32 × UInt32 × UInt32 × UInt32 :=
  (back.viaAccount, back.hostGuid, back.mapId, back.instanceId)

structure OneRecord (s : WayBack F) : Prop where
  exclusive : ∀ guid, s.enteredBy.lookup guid = none ∨ s.returns.lookup guid = none
  rows : ∀ guid, (s.returnRows.lookup guid).map whence = (s.returns.lookup guid).map whence

variable {s s' : WayBack F} {guid : UInt32} {back : HouseReturn F} {t : Trip sv} {p : Traveller F} {way : WayOut F}

theorem OneRecord.dropReturn (h : s.OneRecord) (guid : UInt32) : (s.dropReturn guid).OneRecord where
  exclusive other := by
    rcases h.exclusive other with hnone | hnone
    · exact .inl hnone
    by_cases heq : other = guid
    · subst heq
      exact .inr (lookup_erase _ _)
    · exact .inr ((lookup_erase_ne heq).trans hnone)
  rows other := by
    by_cases heq : other = guid
    · subst heq
      simp only [WayBack.dropReturn, lookup_erase]
    · simp only [WayBack.dropReturn, lookup_erase_ne heq, h.rows other]

theorem OneRecord.forgetEntrance (h : s.OneRecord) (guid : UInt32) : (s.forgetEntrance guid).OneRecord where
  exclusive other := by
    by_cases heq : other = guid
    · subst heq
      exact .inl (lookup_erase _ _)
    · rcases h.exclusive other with hnone | hnone
      · exact .inl ((lookup_erase_ne heq).trans hnone)
      · exact .inr hnone
  rows := h.rows

theorem OneRecord.rememberEntrance (h : s.OneRecord) (guid portalId : UInt32) :
    (s.rememberEntrance guid portalId).OneRecord := by
  unfold WayBack.rememberEntrance
  split
  · exact h
  have hothers (other : UInt32) (hne : other ≠ guid) :
      (s.enteredBy.insert guid portalId).lookup other = s.enteredBy.lookup other := lookup_insert_ne hne
  dsimp only
  split
  · constructor
    · intro other
      by_cases heq : other = guid
      · subst heq
        exact .inr (lookup_erase _ _)
      · rcases (h.dropReturn guid).exclusive other with hnone | hnone
        · exact .inl ((hothers other heq).trans hnone)
        · exact .inr hnone
    · exact (h.dropReturn guid).rows
  · rename_i hreturn
    constructor
    · intro other
      by_cases heq : other = guid
      · subst heq
        exact .inr (not_isSome_iff_eq_none.1 hreturn)
      · rcases h.exclusive other with hnone | hnone
        · exact .inl ((hothers other heq).trans hnone)
        · exact .inr hnone
    · exact h.rows

theorem OneRecord.saveReturn (h : s.OneRecord) (guid : UInt32) (back : HouseReturn F) :
    ((s.saveReturn sv guid back).forgetEntrance guid).OneRecord where
  exclusive other := by
    by_cases heq : other = guid
    · subst heq
      exact .inl (lookup_erase _ _)
    · rcases h.exclusive other with hnone | hnone
      · exact .inl ((lookup_erase_ne heq).trans hnone)
      · exact .inr ((lookup_insert_ne heq).trans hnone)
  rows other := by
    by_cases heq : other = guid
    · subst heq
      simp only [WayBack.saveReturn, WayBack.forgetEntrance, lookup_insert, map_some, whence]
    · simp only [WayBack.saveReturn, WayBack.forgetEntrance, lookup_insert_ne heq, h.rows other]

theorem OneRecord.restart : s.restart.OneRecord where
  exclusive guid := .inl (lookup_empty guid)
  rows _ := rfl

section

variable (h : s.OneRecord)
include h

theorem OneRecord.portals (portals : Table UInt32 HouseHomePortal) :
    OneRecord { s with homePortals := portals } := ⟨h.exclusive, h.rows⟩

theorem OneRecord.useHomePortal (t : Trip sv) (p : Traveller F) (go : UInt64) : (s.useHomePortal t p go).1.OneRecord := by
  unfold WayBack.useHomePortal
  split
  · exact h
  split
  · exact h
  split
  · exact h
  split
  · exact h
  split
  · exact h
  dsimp only
  split
  · exact h
  split
  · exact h
  · exact h.saveReturn p.guid _

theorem OneRecord.leaveByDoor (t : Trip sv) (p : Traveller F) : (s.leaveByDoor t p).1.OneRecord := by
  unfold WayBack.leaveByDoor
  split
  · exact h.forgetEntrance p.guid
  split
  · exact h.forgetEntrance p.guid
  · exact h

theorem OneRecord.sendPlayerToPortal (t : Trip sv) (p : Traveller F) : (s.sendPlayerToPortal t p).1.OneRecord := by
  unfold WayBack.sendPlayerToPortal
  split
  · exact h
  split
  · exact h.leaveByDoor t p
  split
  · exact h.dropReturn p.guid
  · exact h
  · exact (h.dropReturn p.guid).leaveByDoor t p

theorem OneRecord.getLoginExit (t : Trip sv) (p : Traveller F) (instanceId : UInt32) :
    (s.getLoginExit t p instanceId).1.OneRecord := by
  unfold WayBack.getLoginExit
  split
  · exact h.forgetEntrance p.guid
  split
  · exact (h.dropReturn p.guid).forgetEntrance p.guid
  · exact (h.dropReturn p.guid).forgetEntrance p.guid

theorem OneRecord.step (a : WayBackStep sv) : (s.step a).OneRecord := by
  cases a with
  | rememberEntrance guid portalId => exact h.rememberEntrance guid portalId
  | openHomePortal t p =>
    unfold WayBack.step WayBack.openHomePortal
    dsimp only
    split
    · exact h
    split
    · exact h
    · exact h.portals _
  | useHomePortal t p go => exact h.useHomePortal t p go
  | closeHomePortal p =>
    unfold WayBack.step WayBack.closeHomePortal
    dsimp only
    split
    · split
      · exact h.portals _
      · exact h
    · exact h
  | sendPlayerToPortal t p => exact h.sendPlayerToPortal t p
  | getLoginExit t p instanceId => exact h.getLoginExit t p instanceId
  | forgetReturn p =>
    unfold WayBack.step WayBack.forgetReturn
    dsimp only
    split
    · exact h
    split
    · exact h
    split
    · exact h
    split
    · exact h
    · exact h.dropReturn p.guid
  | restart => exact OneRecord.restart

end

theorem oneRecord_run (steps : List (WayBackStep sv)) : (Runs.run step empty steps : WayBack F).OneRecord := by
  apply Runs.always (I := OneRecord) (fun _ a h => h.step a)
  exact ⟨fun guid => .inl (lookup_empty guid), fun _ => rfl⟩

/-- The way out that the player's record names; none where it is of no use. -/
def recordWay (s : WayBack F) (t : Trip sv) (guid : UInt32) (backOf : HouseReturn F → Option (WayOut F)) : Option (WayOut F) :=
  ((s.returns.lookup guid).bind backOf).or ((s.usedPortal t guid).map fun portal => .door portal (outside sv portal))

def tripWay : BackTrip F → Option (WayOut F)
  | .went loc why => some (.back loc why)
  | _ => none

/-- The player's own records are gone, in memory and in the table; everybody else's are as they were. -/
structure Consumed (s s' : WayBack F) (guid : UInt32) : Prop where
  enteredBy : s'.enteredBy = s.enteredBy.erase guid
  returns : s'.returns = s.returns.erase guid
  returnRows : s'.returnRows = s.returnRows.erase guid

theorem OneRecord.no_row (h : s.OneRecord) (hnone : s.returns.lookup guid = none) : s.returnRows.lookup guid = none := by
  have hrow := h.rows guid
  rw [hnone, map_none, map_eq_none_iff] at hrow
  exact hrow

theorem OneRecord.consumed_entrance (h : s.OneRecord) (hnone : s.returns.lookup guid = none) :
    Consumed s (s.forgetEntrance guid) guid where
  enteredBy := rfl
  returns := (erase_of_lookup_none hnone).symm
  returnRows := (erase_of_lookup_none (h.no_row hnone)).symm

theorem OneRecord.entrance_none (h : s.OneRecord)
    (hback : s.returns.lookup guid = some back) : s.enteredBy.lookup guid = none := by
  rcases h.exclusive guid with hnone | hnone
  · exact hnone
  · rw [hback] at hnone
    cases hnone

theorem OneRecord.consumed_return (h : s.OneRecord)
    (hback : s.returns.lookup guid = some back) : Consumed s (s.dropReturn guid) guid where
  enteredBy := (erase_of_lookup_none (h.entrance_none hback)).symm
  returns := rfl
  returnRows := rfl

/-- A return of no use goes, and the door that is taken then is nobody's record. -/
theorem consumed_both (s : WayBack F) (guid : UInt32) : Consumed s ((s.dropReturn guid).forgetEntrance guid) guid := ⟨rfl, rfl, rfl⟩

def homeWay (t : Trip sv) (accountId : UInt32) : WayOut F :=
  match ownPortal t accountId with
  | some portal => .door portal (outside sv portal)
  | none => .homebind

theorem leaveByDoor_ok (h : s.leaveByDoor t p = (s', .ok way)) : s' = s.forgetEntrance p.guid ∧
      way = ((s.usedPortal t p.guid).map fun portal => .door portal (outside sv portal)).getD (homeWay t p.accountId) := by
  unfold leaveByDoor at h
  unfold homeWay
  cases hused : s.usedPortal t p.guid with
  | some portal =>
    rw [hused, some_or] at h
    dsimp only at h
    split at h
    · cases h
      exact ⟨rfl, rfl⟩
    · cases h
  | none =>
    rw [hused, none_or] at h
    cases hown : ownPortal t p.accountId with
    | none =>
      rw [hown] at h
      cases h
      exact ⟨rfl, rfl⟩
    | some portal =>
      rw [hown] at h
      dsimp only at h
      split at h
      · cases h
        exact ⟨rfl, rfl⟩
      · cases h

theorem OneRecord.sent (h : s.OneRecord) (hsent : s.sendPlayerToPortal t p = (s', .ok way)) : Consumed s s' p.guid ∧
      way = (s.recordWay t p.guid fun back => tripWay (sendPlayerBack t p back)).getD (homeWay t p.accountId) := by
  unfold WayBack.sendPlayerToPortal at hsent
  unfold recordWay
  split at hsent
  · cases hsent
  cases hback : s.returns.lookup p.guid with
  | none =>
    rw [hback] at hsent
    obtain ⟨rfl, hway⟩ := leaveByDoor_ok hsent
    exact ⟨h.consumed_entrance hback, hway⟩
  | some back =>
    have hused : s.usedPortal t p.guid = none := by
      unfold usedPortal
      rw [h.entrance_none hback]
      rfl
    rw [hback] at hsent
    rw [hused, bind_some]
    cases htrip : sendPlayerBack t p back with
    | went loc why =>
      simp only [htrip] at hsent
      cases hsent
      exact ⟨h.consumed_return hback, rfl⟩
    | closed error =>
      simp only [htrip] at hsent
      cases hsent
    | gone =>
      simp only [htrip] at hsent
      obtain ⟨rfl, hway⟩ := leaveByDoor_ok hsent
      rw [show (s.dropReturn p.guid).usedPortal t p.guid = none from hused] at hway
      exact ⟨consumed_both s p.guid, hway⟩

def loginHome (t : Trip sv) (accountId instanceId : UInt32) : Option (WayOut F) :=
  let host := if instanceId = 0 then none else (t.mgr.getHouseByInstance instanceId).bind t.mgr.getHomePortal
  (host.or (ownPortal t accountId)).map fun portal => .door portal (outside sv portal)

theorem loginDoor_way (s : WayBack F) (t : Trip sv) (p : Traveller F) (instanceId : UInt32) : (s.loginDoor t p instanceId).2 =
      ((s.usedPortal t p.guid).map fun portal => .door portal (outside sv portal)).or (loginHome t p.accountId instanceId) := by
  unfold loginDoor loginHome
  cases s.usedPortal t p.guid with
  | some portal => rfl
  | none => rfl

theorem OneRecord.loggedIn (h : s.OneRecord) (t : Trip sv) (p : Traveller F) (instanceId : UInt32) :
    Consumed s (s.getLoginExit t p instanceId).1 p.guid ∧ (s.getLoginExit t p instanceId).2 =
        (s.recordWay t p.guid fun back => (loginBack t p back).map fun loc => .back loc none).or
          (loginHome t p.accountId instanceId) := by
  unfold WayBack.getLoginExit recordWay
  cases hback : s.returns.lookup p.guid with
  | none => exact ⟨h.consumed_entrance hback, s.loginDoor_way t p instanceId⟩
  | some back =>
    have hused : s.usedPortal t p.guid = none := by
      unfold usedPortal
      rw [h.entrance_none hback]
      rfl
    dsimp only
    rw [hused, bind_some]
    cases hlogin : loginBack t p back with
    | some loc => exact ⟨consumed_both s p.guid, rfl⟩
    | none =>
      refine ⟨consumed_both s p.guid, ?_⟩
      have hway := (s.dropReturn p.guid).loginDoor_way t p instanceId
      rw [show (s.dropReturn p.guid).usedPortal t p.guid = none from hused] at hway
      exact hway

/-- In every state of every run a player has one record at most, in memory and in the table; one who is sent out,
or who logs in inside, comes out by it, or without one by a door of their own, and exactly that record is gone. -/
theorem way_back (steps : List (WayBackStep sv)) : let s : WayBack F := Runs.run step empty steps
    (∀ guid, s.enteredBy.lookup guid = none ∨ s.returns.lookup guid = none) ∧
    (∀ guid, (s.returnRows.lookup guid).map whence = (s.returns.lookup guid).map whence) ∧
    (∀ (t : Trip sv) (p : Traveller F) s' way, s.sendPlayerToPortal t p = (s', .ok way) → Consumed s s' p.guid ∧
      way = (s.recordWay t p.guid fun back => tripWay (sendPlayerBack t p back)).getD (homeWay t p.accountId)) ∧
    ∀ (t : Trip sv) (p : Traveller F) instanceId, Consumed s (s.getLoginExit t p instanceId).1 p.guid ∧
      (s.getLoginExit t p instanceId).2 =
        (s.recordWay t p.guid fun back => (loginBack t p back).map fun loc => .back loc none).or
          (loginHome t p.accountId instanceId) := by
  intro s
  have h : s.OneRecord := oneRecord_run steps
  exact ⟨h.exclusive, h.rows, fun t p s' way => h.sent, h.loggedIn⟩

end WayBack

end ComfyCraft
