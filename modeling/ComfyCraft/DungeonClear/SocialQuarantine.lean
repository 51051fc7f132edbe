import Mathlib.Logic.Basic
import Mathlib.Tactic.SplitIfs

/-! The social quarantine holds packs that must not join a fight, and keeps no record of whom it holds: who
is released follows from where a creature stands and what its react state is. What a creature is left with
is settled by the last call that found it in a volume. -/

namespace ComfyCraft

open Bool List

inductive ReactState
  | passive
  | defensive
  | aggressive
deriving DecidableEq

structure Coordinates (F : Type) where
  sub : F → F → F
  add : F → F → F
  mul : F → F → F
  fabs : F → F
  gt : F → F → Bool

structure HeldVolume (F : Type) where
  x : F
  y : F
  z : F
  radius : F
  zBand : F
  entries : List UInt32

structure ScriptedPullStage (F : Type) where
  mapId : UInt32
  bossEntry : UInt32
  order : UInt32
  pack : HeldVolume F

structure DcQuarantineZone (F : Type) where
  mapId : UInt32
  bossEntry : UInt32
  volume : HeldVolume F

structure CreatureInfo where
  entry : UInt32
  isSummon : Bool
  isPet : Bool

structure CreatureBody (F : Type) where
  isAlive : Bool
  isEngaged : Bool
  x : F
  y : F
  z : F

/-- A map with its creatures `K` that the database spawned, and the two tables of volumes. -/
structure QuarantineMap (F K : Type) where
  coordinates : Coordinates F
  mapId : UInt32
  stages : List (ScriptedPullStage F)
  zones : List (DcQuarantineZone F)
  info : K → CreatureInfo

/-- A call of `Update` by a bot on the map, and the creatures as it finds them. -/
structure QuarantineUpdate (F K : Type) where
  found : Bool
  nextBoss : Option UInt32
  scriptedStage : Option (ScriptedPullStage F)
  body : K → CreatureBody F

namespace QuarantineMap

variable {F K : Type} (m : QuarantineMap F K)

def inVolume (v : HeldVolume F) (entry : UInt32) (c : CreatureBody F) : Bool :=
  if m.coordinates.gt (m.coordinates.fabs (m.coordinates.sub c.z v.z)) v.zBand then false
  else
    let dx := m.coordinates.sub c.x v.x
    let dy := m.coordinates.sub c.y v.y
    if m.coordinates.gt (m.coordinates.add (m.coordinates.mul dx dx) (m.coordinates.mul dy dy))
        (m.coordinates.mul v.radius v.radius) then false
    else if v.entries.isEmpty then false
    else v.entries.contains entry

variable (u : QuarantineUpdate F K) (react : K → ReactState) (k : K)

def holdable (c : CreatureBody F) : Bool :=
  c.isAlive && !(m.info k).isSummon && !(m.info k).isPet

def hasZones : Bool := m.zones.any fun z => z.mapId = m.mapId

def hasStages : Bool := m.stages.any fun s => s.mapId = m.mapId

/-- The volumes in force: the boss's stages but the active one, and the boss's zones. -/
def held : List (HeldVolume F) :=
  let bossEntry := u.nextBoss.getD 0
  let active := if bossEntry ≠ 0 then u.scriptedStage else none
  if bossEntry ≠ 0 then
    ((m.stages.filter fun s => s.mapId = m.mapId ∧ s.bossEntry = bossEntry ∧ active.map ScriptedPullStage.order ≠ some s.order).map
      ScriptedPullStage.pack) ++
    (m.zones.filter fun z => z.mapId = m.mapId ∧ z.bossEntry = bossEntry).map DcQuarantineZone.volume
  else []

def known : List (HeldVolume F) :=
  ((m.stages.filter fun s => s.mapId = m.mapId).map ScriptedPullStage.pack) ++
    (m.zones.filter fun z => z.mapId = m.mapId).map DcQuarantineZone.volume

def within (vs : List (HeldVolume F)) (k : K) (c : CreatureBody F) : Bool :=
  vs.any fun v => m.inVolume v (m.info k).entry c

def setHeld (react : ReactState) (held : Bool) : ReactState :=
  let want := if held then .defensive else .aggressive
  if react = want then react
  else if react ≠ .aggressive ∧ react ≠ .defensive then react
  else want

def update : K → ReactState :=
  if !u.found || (!m.hasZones && !m.hasStages) then react
  else fun k =>
    if !m.holdable k (u.body k) then react k
    else if (u.body k).isEngaged then react k
    else if m.within (m.held u) k (u.body k) then setHeld (react k) true
    else if m.within m.known k (u.body k) then setHeld (react k) false
    else react k

def releaseAll (body : K → CreatureBody F) (react : K → ReactState) : K → ReactState :=
  if !m.hasZones && !m.hasStages then react
  else fun k =>
    if !m.holdable k (body k) then react k
    else if m.within m.known k (body k) then setHeld (react k) false
    else react k

def updates (us : List (QuarantineUpdate F K)) (react : K → ReactState) : K → ReactState :=
  us.foldl (fun react u => m.update u react) react

/-- What a call of `Update` makes of a creature: hold it, release it, or leave it alone. -/
def verdict : Option Bool :=
  if !u.found || (!m.hasZones && !m.hasStages) then none
  else if !m.holdable k (u.body k) || (u.body k).isEngaged then none
  else if m.within (m.held u) k (u.body k) then some true
  else if m.within m.known k (u.body k) then some false
  else none

/-- The last verdict on a creature that did not leave it alone. -/
def lastVerdict (k : K) : List (QuarantineUpdate F K) → Option Bool
  | [] => none
  | u :: us => (lastVerdict k us).or (m.verdict u k)

/-- What `ReleaseAll` makes of a creature. -/
def release (body : K → CreatureBody F) (k : K) : Option Bool :=
  if m.holdable k (body k) && m.within m.known k (body k) then some false else none

def afterVerdict (react : ReactState) : Option Bool → ReactState
  | some held => setHeld react held
  | none => react

theorem setHeld_setHeld (react : ReactState) (first second : Bool) :
    setHeld (setHeld react first) second = setHeld react second := by
  cases react <;> cases first <;> cases second <;> rfl

theorem afterVerdict_or (react : ReactState) (first second : Option Bool) :
    afterVerdict (afterVerdict react first) second = afterVerdict react (second.or first) := by
  cases first with
  | none => cases second <;> rfl
  | some first =>
    cases second with
    | none => rfl
    | some second => exact setHeld_setHeld react first second

theorem update_apply :
    m.update u react k = afterVerdict (react k) (m.verdict u k) := by
  unfold update verdict
  by_cases hnone : (!u.found || (!m.hasZones && !m.hasStages)) = true
  · rw [if_pos hnone, if_pos hnone]
    rfl
  · rw [if_neg hnone, if_neg hnone]
    cases m.holdable k (u.body k) <;> cases (u.body k).isEngaged <;>
      cases m.within (m.held u) k (u.body k) <;> cases m.within m.known k (u.body k) <;> rfl

theorem updates_apply (us : List (QuarantineUpdate F K)) (react : K → ReactState) (k : K) :
    m.updates us react k = afterVerdict (react k) (m.lastVerdict k us) := by
  induction us generalizing react with
  | nil => rfl
  | cons u us ih =>
    calc m.updates us (m.update u react) k = afterVerdict (m.update u react k) (m.lastVerdict k us) := ih _
      _ = afterVerdict (afterVerdict (react k) (m.verdict u k)) (m.lastVerdict k us) := by rw [update_apply]
      _ = afterVerdict (react k) ((m.lastVerdict k us).or (m.verdict u k)) := afterVerdict_or _ _ _

theorem known_eq_nil (h : (!m.hasZones && !m.hasStages) = true) : m.known = [] := by
  simp only [hasZones, hasStages, and_eq_true, not_eq_true', any_eq_false, decide_eq_true_eq] at h
  unfold known
  rw [filter_eq_nil_iff.2 (by simpa using h.2), filter_eq_nil_iff.2 (by simpa using h.1)]
  rfl

theorem releaseAll_apply (body : K → CreatureBody F) (react : K → ReactState) (k : K) :
    m.releaseAll body react k = afterVerdict (react k) (m.release body k) := by
  unfold releaseAll release
  by_cases hrows : (!m.hasZones && !m.hasStages) = true
  · rw [if_pos hrows, m.known_eq_nil hrows]
    simp [within, afterVerdict]
  · rw [if_neg hrows]
    cases m.holdable k (body k) <;> cases m.within m.known k (body k) <;> rfl

/-- A live creature gets back what it had before the first call, unless it was left held outside every
volume, or was defensive of its own and released. -/
theorem leaves_no_trace (us : List (QuarantineUpdate F K)) (body : K → CreatureBody F) (react : K → ReactState) (k : K)
    (hlive : m.holdable k (body k) = true) :
    m.releaseAll body (m.updates us react) k = react k ↔ react k = .passive ∨
      (react k = .aggressive ∧ (m.within m.known k (body k) = true ∨ m.lastVerdict k us ≠ some true)) ∨
      (react k = .defensive ∧ m.within m.known k (body k) = false ∧ m.lastVerdict k us ≠ some false) := by
  rw [releaseAll_apply, updates_apply, afterVerdict_or]
  have hrelease : m.release body k = if m.within m.known k (body k) then some false else none := by
    unfold release
    rw [hlive, Bool.true_and]
  rw [hrelease]
  cases react k <;> cases m.within m.known k (body k) <;> rcases m.lastVerdict k us with _ | _ | _ <;> decide

end QuarantineMap

namespace QuarantineSample

def yards : Coordinates Int := ⟨(· - ·), (· + ·), (· * ·), fun x => x.natAbs, fun x y => x > y⟩

def map : QuarantineMap Int Unit where
  coordinates := yards
  mapId := 585
  stages := []
  zones := [⟨585, 24560, 0, 0, 0, 10, 5, [24777]⟩]
  info _ := ⟨24777, false, false⟩

def at_ (x : Int) : Unit → CreatureBody Int := fun _ => ⟨true, false, x, 0, 0⟩

def holding : QuarantineUpdate Int Unit := ⟨true, some 24560, none, at_ 0⟩

theorem sentinel_live (x : Int) : map.holdable () (at_ x ()) = true := rfl

end QuarantineSample

open QuarantineSample in
/-- Held, and released where it stands. -/
theorem QuarantineMap.leaves_no_trace_sample :
    map.releaseAll (at_ 3) (map.updates [holding] fun _ => .aggressive) () = .aggressive :=
  (map.leaves_no_trace [holding] (at_ 3) (fun _ => .aggressive) () (sentinel_live 3)).2 (.inr (.inl ⟨rfl, .inl rfl⟩))

open QuarantineSample in
/-- The sentinel was defensive before the first call, and is released as if it had been held. -/
theorem stomped_defensive : ¬ ∀ (m : QuarantineMap Int Unit) (us : List (QuarantineUpdate Int Unit))
    (body : Unit → CreatureBody Int) (react : Unit → ReactState) (k : Unit),
    m.holdable k (body k) = true → (body k).isEngaged = false → m.releaseAll body (m.updates us react) k = react k := by
  intro hclaim
  have hkept := hclaim map [holding] (at_ 0) (fun _ => .defensive) () (sentinel_live 0) rfl
  have hstomped : map.releaseAll (at_ 0) (map.updates [holding] fun _ => .defensive) () = .aggressive := rfl
  rw [hstomped] at hkept
  exact absurd hkept (by decide)

end ComfyCraft
