import Mathlib.Data.List.Basic

/-! A creature's threat manager: the references to the units it hates, its online and offline lists and its
current victim. References are objects with an identity: the lists and the victim are pointers to them.

Threat values go through float operations of which nothing is assumed. What the manager asks the world about
a unit is given with each call. A unit's list of the references to it (`HostileRefManager`) is read off the
references: a reference is in it exactly as long as it has a target. -/

namespace ComfyCraft.ThreatManager

abbrev Guid := UInt64

structure FloatOps (F : Type) where
  zero : F
  hundred : F
  onePointOne : F
  onePointThree : F
  ofInt : Int → F
  add : F → F → F
  sub : F → F → F
  neg : F → F
  mul : F → F → F
  div : F → F → F
  lt : F → F → Bool
  le : F → F → Bool
  ne : F → F → Bool

/-- The world at the time of a call, as the manager asks about it. Ownership has an end: no unit owns itself
through others. -/
structure World (F : Type) where
  isAlive : Guid → Bool
  isPlayer : Guid → Bool
  isGameMaster : Guid → Bool
  isTaxiFlying : Guid → Bool
  isInMap : Guid → Bool
  getUnit : Guid → Bool
  getOwner : Guid → Option Guid
  ownerDepth : Guid → Nat
  owner_lt : ∀ {u v}, getOwner u = some v → ownerDepth v < ownerDepth u
  isTotem : Guid → Bool
  transferPercent : Guid → Int
  /-- The attacker is under hard crowd control, so assist threat counts nothing. -/
  hardControlled : Bool
  isOutOfThreatArea : Guid → Bool
  isValidAttackTarget : Guid → Bool
  /-- Immune, secondary, or out of reach of an attacker that cannot move. -/
  isLowPriority : Guid → Bool
  canReachWithMeleeAutoAttack : Guid → Bool
  calcThreat : Guid → F → F

structure HostileReference (F : Type) where
  iThreat : F
  iTempThreatModifyer : F
  iUnitGuid : Guid
  iOnline : Bool
  iAccessible : Bool
  iRefTo : Option Guid
  iRefFrom : Bool

/-- The manager, with the references that are allocated (`nextRef` is the next address). -/
structure Manager (F : Type) where
  iOwner : Guid
  refs : Nat → Option (HostileReference F)
  nextRef : Nat
  iThreatContainer : List Nat
  iThreatOfflineContainer : List Nat
  iDirty : Bool
  iCurrentVictim : Option Nat

inductive ThreatRefStatusChangeEvent (F : Type)
  | threatChange (fValue : F)
  | onlineStatus
  | accessibleStatus
  | removeFromList

variable {F : Type}

namespace Manager

variable (o : FloatOps F) (w : World F) (m : Manager F) (id : Nat)

def modify (f : HostileReference F → HostileReference F) : Manager F :=
  { m with refs := Function.update m.refs id ((m.refs id).map f) }

/-- `std::list::remove` of a pointer. -/
def remove (l : List Nat) (id : Nat) : List Nat := l.filter fun i => i ≠ id

def threatOf : F := ((m.refs id).map HostileReference.iThreat).getD o.zero

def clearVictim : Manager F :=
  if m.iCurrentVictim = some id then { m with iCurrentVictim := none, iDirty := true } else m

def processThreatEvent (ref : HostileReference F) :
    ThreatRefStatusChangeEvent F → Manager F
  | .threatChange fValue =>
    if m.iCurrentVictim = some id ∧ o.lt fValue o.zero ∨ m.iCurrentVictim ≠ some id ∧ o.lt o.zero fValue then
      { m with iDirty := true }
    else m
  | .onlineStatus =>
    if !ref.iOnline then
      let m := m.clearVictim id
      { m with
        iThreatContainer := remove m.iThreatContainer id
        iThreatOfflineContainer := m.iThreatOfflineContainer ++ [id] }
    else
      let dirty := match m.iCurrentVictim with
        | some victim => o.lt (o.mul o.onePointOne (m.threatOf o victim)) ref.iThreat
        | none => false
      { m with
        iDirty := m.iDirty || dirty
        iThreatContainer := m.iThreatContainer ++ [id]
        iThreatOfflineContainer := remove m.iThreatOfflineContainer id }
  | .accessibleStatus => m
  | .removeFromList =>
    let m := m.clearVictim id
    if ref.iOnline then { m with iThreatContainer := remove m.iThreatContainer id }
    else { m with iThreatOfflineContainer := remove m.iThreatOfflineContainer id }

def fireStatusChanged (event : ThreatRefStatusChangeEvent F) : Manager F :=
  match m.refs id with
  | some ref => if ref.iRefFrom then m.processThreatEvent o id ref event else m
  | none => m

def setAccessibleState (pIsAccessible : Bool) : Manager F :=
  match m.refs id with
  | some ref =>
    if ref.iAccessible ≠ pIsAccessible then
      (m.modify id fun ref => { ref with iAccessible := pIsAccessible }).fireStatusChanged o id .accessibleStatus
    else m
  | none => m

def setOnlineOfflineState (pIsOnline : Bool) : Manager F :=
  match m.refs id with
  | some ref =>
    if ref.iOnline ≠ pIsOnline then
      let m := m.modify id fun ref => { ref with iOnline := pIsOnline }
      let m := if !pIsOnline then m.setAccessibleState o id false else m
      m.fireStatusChanged o id .onlineStatus
    else m
  | none => m

def link (target : Guid) : Manager F :=
  m.modify id fun ref => { ref with iRefTo := some target, iRefFrom := true }

/-- `Reference::invalidate`: the source is told first, and remains. -/
def invalidate : Manager F :=
  (m.setOnlineOfflineState o id false).modify id fun ref => { ref with iRefTo := none }

def free : Manager F := { m with refs := Function.update m.refs id none }

/-- `removeReference` and the `delete` that follows each of its calls. -/
def removeReference : Manager F :=
  ((m.invalidate o id).fireStatusChanged o id .removeFromList).free id

def updateOnlineStatus : Manager F :=
  match m.refs id with
  | none => m
  | some ref =>
    let m := if ref.iRefTo.isNone && w.getUnit ref.iUnitGuid then m.link id ref.iUnitGuid else m
    let target := (m.refs id).bind HostileReference.iRefTo
    let online := match target with
      | some u => (!w.isPlayer u || !w.isGameMaster u) || !w.isTaxiFlying u
      | none => false
    (m.setAccessibleState o id false).setOnlineOfflineState o id online

/-- What `HostileReference::addThreat` does to the reference itself. -/
def changeThreat (pMod : F) : Manager F :=
  let m := m.modify id fun ref => { ref with iThreat := o.add ref.iThreat pMod }
  let m := if ((m.refs id).any fun ref => !ref.iOnline) then m.updateOnlineStatus o w id else m
  if o.ne pMod o.zero then m.fireStatusChanged o id (.threatChange pMod) else m

/-- `HostileReference::addThreat`; `rec` is the manager's own `addThreat` of no threat, for the owner of a pet. -/
def refAddThreat (rec : Manager F → Guid → Manager F) (m : Manager F) (id : Nat) (pMod : F) :
    Manager F :=
  let m := m.changeThreat o w id pMod
  match (m.refs id).bind HostileReference.iRefTo with
  | some target =>
    if o.le o.zero pMod then
      match w.getOwner target with
      | some owner => if w.isAlive owner then rec m owner else m
      | none => m
    else m
  | none => m

def getReferenceByTarget (l : List Nat) (pVictim : Guid) : Option Nat :=
  l.find? fun id => (m.refs id).any fun ref => ref.iUnitGuid = pVictim

def newReference (pVictim : Guid) : Manager F :=
  { m with
    refs := Function.update m.refs m.nextRef (some ⟨o.zero, o.zero, pVictim, true, true, some pVictim, true⟩)
    nextRef := m.nextRef + 1
    iThreatContainer := m.iThreatContainer ++ [m.nextRef] }

def addThreatDirectly (rec : Manager F → Guid → Manager F) (m : Manager F) (pVictim : Guid) (threat : F) : Manager F :=
  if pVictim = m.iOwner || !w.isAlive pVictim || !w.isInMap pVictim then m
  else match m.getReferenceByTarget m.iThreatContainer pVictim with
    | some id => m.refAddThreat o w rec id threat
    | none =>
      match m.getReferenceByTarget m.iThreatOfflineContainer pVictim with
      | some id => m.refAddThreat o w rec id threat
      | none =>
        let m' := (m.newReference o pVictim).refAddThreat o w rec m.nextRef threat
        if w.isPlayer pVictim && w.isGameMaster pVictim then m'.setOnlineOfflineState o m.nextRef false else m'

structure How where
  noThreatSpell : Bool
  isAssistThreat : Bool

/-- The body of the manager's `addThreat`; `rec` is `addThreat` again, of no threat, for the owner of a pet. -/
def addThreatBy (rec : Manager F → Guid → Manager F) (m : Manager F) (pVictim : Guid) (threat : F) (how : How) : Manager F :=
  if pVictim = m.iOwner then m
  else if w.isPlayer pVictim && w.isGameMaster pVictim then m
  else if !w.isAlive pVictim || !w.isAlive m.iOwner then m
  else if how.noThreatSpell && (o.le o.zero threat || (m.getReferenceByTarget m.iThreatContainer pVictim).isNone) then m
  else
    let threat := if how.isAssistThreat && w.hardControlled then o.zero else threat
    let totalThreat := w.calcThreat pVictim threat
    match if w.isTotem pVictim then w.getOwner pVictim else none with
    | some owner =>
      if 0 < w.transferPercent pVictim then
        let transferred := o.div (o.mul totalThreat (o.ofInt (w.transferPercent pVictim))) o.hundred
        addThreatDirectly o w rec (addThreatDirectly o w rec m owner transferred) pVictim (o.sub totalThreat transferred)
      else addThreatDirectly o w rec m pVictim totalThreat
    | none => addThreatDirectly o w rec m pVictim totalThreat

/-- The manager's `addThreat`. It calls itself for the owner of a pet, so the fuel is the depth of ownership. -/
def addThreat (o : FloatOps F) (w : World F) : Nat → Manager F → Guid → F → How → Manager F
  | 0, m, _, _, _ => m
  | fuel + 1, m, pVictim, threat, how => addThreatBy o w (fun m v => addThreat o w fuel m v o.zero ⟨false, false⟩) m pVictim threat how

def ownerThreat (fuel : Nat) (m : Manager F) (owner : Guid) : Manager F :=
  addThreat o w fuel m owner o.zero ⟨false, false⟩

/-- `addThreat` on a reference, with the fuel its target's owners need. -/
def addThreatTo (pMod : F) : Manager F :=
  let target := ((m.refs id).map HostileReference.iUnitGuid).getD 0
  m.refAddThreat o w (ownerThreat o w (w.ownerDepth target)) id pMod

def addThreatPercent (pPercent : Int) : Manager F :=
  let threat := m.threatOf o id
  m.addThreatTo o w id (if pPercent = -100 then o.neg threat else o.div (o.mul threat (o.ofInt pPercent)) o.hundred)

def modifyThreatPercent (pVictim : Guid) (pPercent : Int) : Manager F :=
  match m.getReferenceByTarget m.iThreatContainer pVictim with
  | some id => if pPercent < -100 then m.removeReference o id else m.addThreatPercent o w id pPercent
  | none => m

def setTempModifier (threat : F) : Manager F :=
  m.modify id fun ref => { ref with iTempThreatModifyer := threat }

def tempThreatOf : F :=
  ((m.refs id).map HostileReference.iTempThreatModifyer).getD o.zero

def setTempThreat (pThreat : F) : Manager F :=
  let modifier := o.sub pThreat (m.threatOf o id)
  let m := m.setTempModifier id modifier
  if o.ne modifier o.zero then m.addThreatTo o w id modifier else m

def resetTempThreat : Manager F :=
  let modifier := m.tempThreatOf o id
  if o.ne modifier o.zero then (m.addThreatTo o w id (o.neg modifier)).setTempModifier id o.zero else m

def tauntApply (pTaunter : Guid) : Manager F :=
  match m.getReferenceByTarget m.iThreatContainer pTaunter, m.iCurrentVictim with
  | some id, some victim =>
    if o.lt (m.threatOf o id) (m.threatOf o victim) && !o.ne (m.tempThreatOf o id) o.zero then
      m.setTempThreat o w id (m.threatOf o victim)
    else m
  | _, _ => m

def tauntFadeOut (pTaunter : Guid) : Manager F :=
  match m.getReferenceByTarget m.iThreatContainer pTaunter with
  | some id => m.resetTempThreat o w id
  | none => m

def setCurrentVictimIfCan (pVictim : Guid) : Manager F :=
  match m.getReferenceByTarget m.iThreatContainer pVictim with
  | some id => { m with iCurrentVictim := some id }
  | none => m

/-- `ThreatContainer::update`: the list sorted by threat, the highest first. -/
def update : Manager F :=
  { m with
    iThreatContainer := if m.iDirty && 1 < m.iThreatContainer.length then
        m.iThreatContainer.mergeSort fun a b => !o.lt (m.threatOf o a) (m.threatOf o b)
      else m.iThreatContainer
    iDirty := false }

/-- How one attempt of `selectNextVictim` over the list ends. -/
inductive Selected
  | assertFailed
  | noTarget
  | found (id : Nat)
  | nobody (pCurrentVictim : Option Nat)

def selectAttempt (o : FloatOps F) (w : World F) (m : Manager F) (allowLowPriorityTargets : Bool) :
    List Nat → Option Nat → Selected
  | [], cur => .nobody cur
  | id :: rest, cur =>
    match (m.refs id).bind HostileReference.iRefTo with
    | none => .assertFailed
    | some target =>
      let next := selectAttempt o w m allowLowPriorityTargets rest
      let cur' := if cur = some id then none else cur
      if w.isOutOfThreatArea target then .noTarget
      else if !w.isValidAttackTarget target then next cur'
      else if !allowLowPriorityTargets && w.isLowPriority target then next cur'
      else match cur with
        | none => .found id
        | some victim =>
          let threat := m.threatOf o id
          let current := m.threatOf o victim
          if victim = id || o.le threat (o.mul o.onePointOne current) then .found victim
          else if o.lt (o.mul o.onePointThree current) threat ||
              o.lt (o.mul o.onePointOne current) threat && w.canReachWithMeleeAutoAttack target then .found id
          else next cur

/-- `selectNextVictim`, or nothing when its assertion fails. -/
def selectNextVictim : Option (Option Nat) :=
  match selectAttempt o w m false m.iThreatContainer m.iCurrentVictim with
  | .assertFailed => none
  | .noTarget => some none
  | .found id => some (some id)
  | .nobody cur =>
    match selectAttempt o w m true m.iThreatContainer cur with
    | .assertFailed => none
    | .found id => some (some id)
    | _ => some none

def getHostileTarget : Option (Manager F) :=
  let m := m.update o
  (m.selectNextVictim o w).map fun victim => { m with iCurrentVictim := victim }

def clearReferences : Manager F :=
  { m with
    refs := fun id => if id ∈ m.iThreatContainer ++ m.iThreatOfflineContainer then none else m.refs id
    iThreatContainer := []
    iThreatOfflineContainer := []
    iCurrentVictim := none }

/-- The references of this manager in the list of a unit's `HostileRefManager`. -/
def hatedBy (u : Guid) : List Nat :=
  (m.iThreatContainer ++ m.iThreatOfflineContainer).filter fun id => (m.refs id).any fun ref => ref.iRefTo = some u

end Manager

structure State (F : Type) where
  manager : Manager F
  units : Guid → Bool

/-- What happens to the manager: its own operations, and those of the `HostileRefManager` of a unit. -/
inductive Event (F : Type)
  | addThreat (w : World F) (pVictim : Guid) (threat : F) (how : Manager.How)
  | addThreatDirectly (w : World F) (pVictim : Guid) (threat : F)
  | modifyThreatPercent (w : World F) (pVictim : Guid) (pPercent : Int)
  | tauntApply (w : World F) (pTaunter : Guid)
  | tauntFadeOut (w : World F) (pTaunter : Guid)
  | getHostileTarget (w : World F)
  | setCurrentVictimIfCan (pVictim : Guid)
  | clearReferences
  | setOnlineOfflineState (u : Guid) (pIsOnline : Bool)
  | updateThreatTables (w : World F) (u : Guid)
  | addThreatPercent (w : World F) (u : Guid) (pValue : Int)
  | addTempThreat (w : World F) (u : Guid) (threat : F) (apply : Bool)
  | deleteReferences (u : Guid)
  | invalidateReferences (u : Guid)
  | destroyed (u : Guid)
  | created (u : Guid)

def World.among (w : World F) (units : Guid → Bool) : World F :=
  { w with
    getUnit := fun u => w.getUnit u && units u
    getOwner := fun u => (w.getOwner u).filter units
    owner_lt := fun h => w.owner_lt (Option.filter_eq_some_iff.1 h).1 }

open Manager in
/-- A step, or nothing when the assertion on the target of an online reference fails. Units named to the manager
are ones that exist. -/
def step (o : FloatOps F) (s : State F) (e : Event F) : Option (State F) :=
  let m := s.manager
  let each := fun (u : Guid) (f : Manager F → Nat → Manager F) => some { s with manager := (m.hatedBy u).foldl f m }
  match e with
  | .addThreat w u threat how =>
    if s.units u then some { s with manager := m.addThreat o (w.among s.units) (w.ownerDepth u + 1) u threat how } else some s
  | .addThreatDirectly w u threat =>
    let w := w.among s.units
    if s.units u then
      some { s with manager := m.addThreatDirectly o w (fun m v => ownerThreat o w (w.ownerDepth u) m v) u threat }
    else some s
  | .modifyThreatPercent w u pct => some { s with manager := m.modifyThreatPercent o (w.among s.units) u pct }
  | .tauntApply w u => some { s with manager := m.tauntApply o (w.among s.units) u }
  | .tauntFadeOut w u => some { s with manager := m.tauntFadeOut o (w.among s.units) u }
  | .getHostileTarget w => (m.getHostileTarget o (w.among s.units)).map fun m => { s with manager := m }
  | .setCurrentVictimIfCan u => some { s with manager := m.setCurrentVictimIfCan u }
  | .clearReferences => some { s with manager := m.clearReferences }
  | .setOnlineOfflineState u online => each u fun m id => m.setOnlineOfflineState o id online
  | .updateThreatTables w u => each u fun m id => m.updateOnlineStatus o (w.among s.units) id
  | .addThreatPercent w u pct => each u fun m id => m.addThreatPercent o (w.among s.units) id pct
  | .addTempThreat w u threat apply =>
    each u fun m id =>
      if apply then
        if o.ne (m.tempThreatOf o id) o.zero then m else (m.setTempModifier id threat).addThreatTo o (w.among s.units) id threat
      else m.resetTempThreat o (w.among s.units) id
  | .deleteReferences u => each u fun m id => m.removeReference o id
  | .invalidateReferences u => each u fun m id => m.invalidate o id
  | .destroyed u =>
    some { manager := (m.hatedBy u).foldl (fun m id => m.removeReference o id) m, units := Function.update s.units u false }
  | .created u => some { s with units := Function.update s.units u true }

def init (owner : Guid) (units : Guid → Bool) : State F :=
  ⟨⟨owner, fun _ => none, 0, [], [], false, none⟩, units⟩

end ComfyCraft.ThreatManager
