import ComfyCraft.Lib.Jagged
import ComfyCraft.Lib.Runs
import Mathlib.Algebra.Order.Field.Basic

/-! A bot follows a route of segments. The cursor names the point to walk to next; calls move it along, and the number of its point among
the points of all segments says how far. -/

namespace ComfyCraft.DungeonPathFollower

open List Option Jagged Nat Loop

structure Vector3 (F : Type) where
  x : F
  y : F
  z : F
deriving DecidableEq

structure PathSegment (F : Type) where
  polyline : List (Vector3 F)
  jumpDown : Bool := false
  jumpGap : Bool := false

abbrev Route (F : Type) := List (PathSegment F)

structure Cursor where
  segmentIdx : UInt32
  pointIdx : UInt32
deriving DecidableEq

structure DungeonFollowerState extends Cursor where
  offPathTicks : UInt32
deriving DecidableEq

def POINT_REACHED : Nat := 3

def POINT_REACHED_Z : Nat := 5

def OFF_PATH_THRESHOLD : Nat := 6

section Cursor

variable {F : Type}

variable (path : Route F) (c : Cursor)

def polylines : List (List (Vector3 F)) := path.map (·.polyline)

def points : List (Vector3 F) := (polylines path).flatten

def IsJumpSegment (seg : PathSegment F) : Bool := seg.jumpDown || seg.jumpGap

def IsLastPointOfSegment (seg : PathSegment F) (pointIdx : UInt32) : Bool :=
  !seg.polyline.isEmpty && (pointIdx + 1).toNat = seg.polyline.length

def PointAt : Option (Vector3 F) :=
  path[c.segmentIdx.toNat]?.bind fun seg => seg.polyline[c.pointIdx.toNat]?

def lastBefore (path : Route F) : Nat → Option (Vector3 F)
  | 0 => none
  | i + 1 =>
    match path[i]?.bind fun seg => seg.polyline.getLast? with
    | some p => some p
    | none => lastBefore path i

def PrevPoint : Option (Vector3 F) :=
  if 0 < c.pointIdx then PointAt path ⟨c.segmentIdx, c.pointIdx - 1⟩ else lastBefore path c.segmentIdx.toNat

def NextPoint : Option (Vector3 F) :=
  match PointAt path ⟨c.segmentIdx, c.pointIdx + 1⟩ with
  | some p => some p
  | none => (path.drop (c.segmentIdx + 1).toNat).findSome? fun seg => seg.polyline.head?

def isSpent : Bool := path[c.segmentIdx.toNat]?.any fun seg => seg.polyline.length ≤ c.pointIdx.toNat

def nextSegment : Cursor := ⟨c.segmentIdx + 1, 0⟩

def skipSpent : Cursor := Loop.run (isSpent path) nextSegment path.length c

def stepForward : Cursor × Bool :=
  if path.length ≤ c.segmentIdx.toNat then (c, false)
  else
    let c' := skipSpent path ⟨c.segmentIdx, c.pointIdx + 1⟩
    (c', c'.segmentIdx.toNat < path.length)

def AdvanceCursor : Cursor × Bool := stepForward path c

def StepFlatForward : Cursor × Bool := stepForward path c

end Cursor

section Calls

variable {F : Type} [Field F] [LinearOrder F]

def PointIsReached (bot p : Vector3 F) : Bool :=
  let dx := bot.x - p.x
  let dy := bot.y - p.y
  dx * dx + dy * dy ≤ POINT_REACHED * POINT_REACHED && |bot.z - p.z| ≤ POINT_REACHED_Z

def PointIsVerticallyStranded (bot p : Vector3 F) : Bool :=
  let dx := bot.x - p.x
  let dy := bot.y - p.y
  dx * dx + dy * dy ≤ POINT_REACHED * POINT_REACHED && POINT_REACHED_Z < |bot.z - p.z|

structure Hop (F : Type) where
  point : Option (Vector3 F)
  isJump : Bool
  isDone : Bool

variable (path : Route F) (bot : Vector3 F)

def isPassed (c : Cursor) : Bool := (PointAt path c).any (PointIsReached bot)

def walkOn (c : Cursor) : Cursor :=
  Loop.run (isPassed path bot) (fun c => (AdvanceCursor path c).1) (points path).length c

/-- `NextHop`; where the loops leave the cursor says why they ended. -/
def NextHop (s : DungeonFollowerState) : Hop F × DungeonFollowerState :=
  let c := walkOn path bot (skipSpent path s.toCursor)
  let hop :=
    match path[c.segmentIdx.toNat]? with
    | none => ⟨none, false, true⟩
    | some seg =>
      match seg.polyline[c.pointIdx.toNat]? with
      | none => ⟨none, false, true⟩
      | some p => ⟨some p, IsJumpSegment seg && IsLastPointOfSegment seg c.pointIdx, false⟩
  (hop, ⟨c, s.offPathTicks⟩)

def SkipStrandedPoint (s : DungeonFollowerState) : Option (Vector3 F) × Bool × DungeonFollowerState :=
  match path[s.segmentIdx.toNat]? with
  | none => (none, false, s)
  | some seg =>
    match seg.polyline[s.pointIdx.toNat]? with
    | none => (none, false, s)
    | some p =>
      if !PointIsVerticallyStranded bot p then (none, false, s)
      else if IsJumpSegment seg && IsLastPointOfSegment seg s.pointIdx then (none, false, s)
      else
        let (c, more) := AdvanceCursor path s.toCursor
        if more then (some p, true, ⟨c, 0⟩) else (some p, false, ⟨c, s.offPathTicks⟩)

def Dist2ToSegment2DSq (bot a b : Vector3 F) : F :=
  let ex := b.x - a.x
  let ey := b.y - a.y
  let len2 := ex * ex + ey * ey
  if len2 ≤ 1 / 1000000 then
    let dx := bot.x - a.x
    let dy := bot.y - a.y
    dx * dx + dy * dy
  else
    let t := max 0 (min 1 (((bot.x - a.x) * ex + (bot.y - a.y) * ey) / len2))
    let cx := a.x + t * ex
    let cy := a.y + t * ey
    let dx := bot.x - cx
    let dy := bot.y - cy
    dx * dx + dy * dy

/-- The distances to the ways to the point and from it; to the point itself where there is neither. -/
def RouteDeviation (sqrt : F → F) (path : Route F) (bot : Vector3 F) (c : Cursor) : F :=
  match PointAt path c with
  | none => 0
  | some cur =>
    let ways := ((PrevPoint path c).map fun prev => Dist2ToSegment2DSq bot prev cur).toList ++
      ((NextPoint path c).map fun next => Dist2ToSegment2DSq bot cur next).toList
    match ways.min? with
    | some dist2 => sqrt dist2
    | none =>
      let dx := bot.x - cur.x
      let dy := bot.y - cur.y
      sqrt (dx * dx + dy * dy)

def IsOffPath (sqrt : F → F) (path : Route F) (bot : Vector3 F) (s : DungeonFollowerState) : Bool × DungeonFollowerState :=
  if (PointAt path s.toCursor).isNone then (false, { s with offPathTicks := 0 })
  else if OFF_PATH_THRESHOLD < RouteDeviation sqrt path bot s.toCursor then (true, { s with offPathTicks := s.offPathTicks + 1 })
  else (false, { s with offPathTicks := 0 })

end Calls

/-! ### Where the cursor stands -/

section Standing

variable {F : Type} {path : Route F} {c : Cursor} {p : Vector3 F} {seg : PathSegment F}

/-- How many points of the route lie before the cursor. -/
def index (path : Route F) (c : Cursor) : Nat := Jagged.index (polylines path) c.segmentIdx.toNat c.pointIdx.toNat

/-- The segments, and the points of each, are numbered with 32 bits. -/
def Sized (path : Route F) : Prop := path.length < 2 ^ 32 ∧ ∀ seg ∈ path, seg.polyline.length < 2 ^ 32

/-- The cursor is at a point of the route or at its end. -/
def Settled (path : Route F) (c : Cursor) : Prop :=
  (PointAt path c).isSome = true ∨ c.segmentIdx.toNat = path.length ∧ c.pointIdx = 0

/-- The cursor is at a point of the route, at its end, or has not left its start. -/
def Named (path : Route F) (c : Cursor) : Prop := Settled path c ∨ c = ⟨0, 0⟩

/-- No farther than the end of a segment of the route. -/
def Placed (path : Route F) (c : Cursor) : Prop :=
  c.segmentIdx.toNat ≤ path.length ∧ c.pointIdx.toNat ≤ ((polylines path)[c.segmentIdx.toNat]?.getD []).length

theorem polylines_getElem? (i : Nat) : (polylines path)[i]? = path[i]?.map (·.polyline) := getElem?_map

theorem PointAt_eq (path : Route F) (c : Cursor) :
    PointAt path c = ((polylines path)[c.segmentIdx.toNat]?.getD [])[c.pointIdx.toNat]? := by
  unfold PointAt
  rw [polylines_getElem?]
  cases path[c.segmentIdx.toNat]? <;> rfl

theorem isSome_PointAt : (PointAt path c).isSome = true ↔ c.pointIdx.toNat < ((polylines path)[c.segmentIdx.toNat]?.getD []).length := by
  rw [PointAt_eq]
  simp

theorem PointAt_eq_some (h : PointAt path c = some p) :
    ∃ seg, path[c.segmentIdx.toNat]? = some seg ∧ seg.polyline[c.pointIdx.toNat]? = some p := bind_eq_some_iff.1 h

/-- A point is at its place among all of them. -/
theorem PointAt_points (h : PointAt path c = some p) : (points path)[index path c]? = some p := by
  obtain ⟨seg, hseg, hp⟩ := PointAt_eq_some h
  refine getElem?_index ?_ hp
  rw [polylines_getElem?, hseg]
  rfl

theorem index_lt (h : (PointAt path c).isSome = true) : index path c < (points path).length := by
  obtain ⟨p, hp⟩ := isSome_iff_exists.1 h
  exact (List.getElem?_eq_some_iff.1 (PointAt_points hp)).1

theorem Placed.index_le (h : Placed path c) : index path c ≤ (points path).length := by
  have hnext := start_add_one (polylines path) c.segmentIdx.toNat
  have hle := start_le (polylines path) (c.segmentIdx.toNat + 1)
  have hpt := h.2
  unfold index Jagged.index points
  omega

theorem Settled.placed (h : Settled path c) : Placed path c := by
  rcases h with h | ⟨hend, hzero⟩
  · have hpt := isSome_PointAt.1 h
    refine ⟨Nat.le_of_not_lt fun hout => ?_, hpt.le⟩
    rw [polylines_getElem?, getElem?_eq_none hout.le] at hpt
    exact absurd hpt (Nat.not_lt_zero _)
  · exact ⟨hend.le, hzero ▸ Nat.zero_le _⟩

theorem Named.placed (h : Named path c) : Placed path c := by
  rcases h with h | rfl
  · exact h.placed
  · exact ⟨zero_le _, zero_le _⟩

theorem isSpent_eq_true : isSpent path c = true ↔
    c.segmentIdx.toNat < path.length ∧ ((polylines path)[c.segmentIdx.toNat]?.getD []).length ≤ c.pointIdx.toNat := by
  unfold isSpent
  rw [polylines_getElem?]
  cases h : path[c.segmentIdx.toNat]? with
  | none => simpa using getElem?_eq_none_iff.1 h
  | some seg =>
    have hlt := (List.getElem?_eq_some_iff.1 h).1
    simp [hlt]

theorem Placed.settled (h : Placed path c) (hspent : isSpent path c = false) : Settled path c := by
  rw [← Bool.not_eq_true, isSpent_eq_true, not_and, not_le] at hspent
  rcases lt_or_ge c.segmentIdx.toNat path.length with hlt | hge
  · exact .inl (isSome_PointAt.2 (hspent hlt))
  have hpt := h.2
  rw [polylines_getElem?, getElem?_eq_none hge] at hpt
  exact .inr ⟨le_antisymm h.1 hge, UInt32.toNat_inj.1 (le_zero.1 hpt)⟩

theorem nextSegment_toNat (h : path.length < 2 ^ 32) (hlt : c.segmentIdx.toNat < path.length) :
    (nextSegment c).segmentIdx.toNat = c.segmentIdx.toNat + 1 := by
  change (c.segmentIdx.toNat + 1) % 2 ^ 32 = _
  exact mod_eq_of_lt (by omega)

/-- The loop over what is spent comes to its end, wherever it begins. -/
theorem skipSpent_ends (h : path.length < 2 ^ 32) (c : Cursor) : isSpent path (skipSpent path c) = false := by
  refine ends (I := fun _ => True) (m := fun c => path.length - c.segmentIdx.toNat) (fun _ _ _ => trivial) (fun c _ hc => ?_) trivial
    (sub_le _ _)
  have hlt := (isSpent_eq_true.1 hc).1
  rw [nextSegment_toNat h hlt]
  omega

/-- The start of the next segment, from the end of one or from anywhere in an empty one. -/
theorem nextSegment_spec (hlen : path.length < 2 ^ 32) (hspent : isSpent path c = true) : Placed path (nextSegment c) ∧
      index path (nextSegment c) = index path ⟨c.segmentIdx, 0⟩ + ((polylines path)[c.segmentIdx.toNat]?.getD []).length := by
  obtain ⟨hlt, -⟩ := isSpent_eq_true.1 hspent
  have hseg := nextSegment_toNat hlen hlt
  refine ⟨⟨hseg.trans_le hlt, zero_le _⟩, ?_⟩
  unfold index Jagged.index
  rw [hseg, start_add_one]
  rfl

/-- Passing over what is spent passes over no point. -/
theorem Placed.skipSpent (h : Placed path c) (hlen : path.length < 2 ^ 32) :
    Settled path (skipSpent path c) ∧ index path (skipSpent path c) = index path c := by
  have hkept : Placed path (DungeonPathFollower.skipSpent path c) ∧ index path (DungeonPathFollower.skipSpent path c) = index path c := by
    refine keeps (I := fun c' => Placed path c' ∧ index path c' = index path c) (fun c' hc' hspent => ?_) ⟨h, rfl⟩ _
    obtain ⟨hplaced, hindex⟩ := nextSegment_spec hlen hspent
    refine ⟨hplaced, hindex.trans ?_⟩
    rw [← hc'.2, le_antisymm (isSpent_eq_true.1 hspent).2 hc'.1.2]
    rfl
  exact ⟨hkept.1.settled (skipSpent_ends hlen c), hkept.2⟩

theorem lt_of_isSome_PointAt (h : (PointAt path c).isSome = true) : c.segmentIdx.toNat < path.length := by
  by_contra hge
  have hpt := isSome_PointAt.1 h
  rw [polylines_getElem?, getElem?_eq_none (Nat.le_of_not_lt hge)] at hpt
  exact absurd hpt (Nat.not_lt_zero _)

theorem Settled.isSome_PointAt (h : Settled path c) : (PointAt path c).isSome = decide (c.segmentIdx.toNat < path.length) := by
  rcases h with h | ⟨hend, hzero⟩
  · rw [h, decide_eq_true (lt_of_isSome_PointAt h)]
  · rw [decide_eq_false (by omega), ← Bool.not_eq_true]
    exact fun hsome => absurd (lt_of_isSome_PointAt hsome) (by omega)

theorem Sized.length_lt (h : Sized path) (i : Nat) : ((polylines path)[i]?.getD []).length < 2 ^ 32 := by
  rw [polylines_getElem?]
  cases hi : path[i]? with
  | none => exact Nat.two_pow_pos 32
  | some seg => exact h.2 seg (mem_of_getElem? hi)

/-- Where a step leads, from the place behind the cursor's. -/
theorem stepForward_spec (hsized : Sized path) (hlt : c.segmentIdx.toNat < path.length)
    (hplaced : Placed path ⟨c.segmentIdx, c.pointIdx + 1⟩) :
    Settled path (stepForward path c).1 ∧ index path (stepForward path c).1 = index path ⟨c.segmentIdx, c.pointIdx + 1⟩ ∧
      (stepForward path c).2 = (PointAt path (stepForward path c).1).isSome := by
  obtain ⟨hsettled, hindex⟩ := hplaced.skipSpent hsized.1
  unfold stepForward
  rw [if_neg (not_le.2 hlt)]
  exact ⟨hsettled, hindex, hsettled.isSome_PointAt.symm⟩

theorem stepForward_point (hsized : Sized path) (h : (PointAt path c).isSome = true) :
    Settled path (stepForward path c).1 ∧ index path (stepForward path c).1 = index path c + 1 ∧
      (stepForward path c).2 = (PointAt path (stepForward path c).1).isSome := by
  have hlt := lt_of_isSome_PointAt h
  have hpt := isSome_PointAt.1 h
  have hlen := hsized.length_lt c.segmentIdx.toNat
  have hnext : (c.pointIdx + 1).toNat = c.pointIdx.toNat + 1 := by
    change (c.pointIdx.toNat + 1) % 2 ^ 32 = _
    exact mod_eq_of_lt (by omega)
  obtain ⟨hsettled, hindex, hmore⟩ := stepForward_spec hsized hlt ⟨hlt.le, hnext.trans_le hpt⟩
  refine ⟨hsettled, hindex.trans ?_, hmore⟩
  unfold index Jagged.index
  rw [hnext, add_assoc]

/-- From the start of an empty segment a step leads to the first point behind it. -/
theorem stepForward_empty (hsized : Sized path) (hlt : c.segmentIdx.toNat < path.length) (hzero : c.pointIdx = 0)
    (h : (PointAt path c).isSome = false) :
    Settled path (stepForward path c).1 ∧ index path (stepForward path c).1 = index path c ∧
      (stepForward path c).2 = (PointAt path (stepForward path c).1).isSome := by
  have hempty : ((polylines path)[c.segmentIdx.toNat]?.getD []).length = 0 := by
    rw [← Bool.not_eq_true, DungeonPathFollower.isSome_PointAt, hzero] at h
    exact Nat.eq_zero_of_not_pos h
  -- the cursor is first set behind a point that is not there
  have hkept : skipSpent path ⟨c.segmentIdx, c.pointIdx + 1⟩ = ⟨c.segmentIdx, c.pointIdx + 1⟩ ∨
      Placed path (skipSpent path ⟨c.segmentIdx, c.pointIdx + 1⟩) ∧
        index path (skipSpent path ⟨c.segmentIdx, c.pointIdx + 1⟩) = index path c := by
    refine keeps (I := fun c' => c' = ⟨c.segmentIdx, c.pointIdx + 1⟩ ∨ Placed path c' ∧ index path c' = index path c)
      (fun c' hc' hspent => .inr ?_) (.inl rfl) _
    obtain ⟨hplaced, hindex⟩ := nextSegment_spec hsized.1 hspent
    refine ⟨hplaced, hindex.trans ?_⟩
    rcases hc' with rfl | ⟨hc', hsame⟩
    · rw [hempty, ← hzero]
      rfl
    · rw [← hsame, le_antisymm (isSpent_eq_true.1 hspent).2 hc'.2]
      rfl
  have hends := skipSpent_ends hsized.1 ⟨c.segmentIdx, c.pointIdx + 1⟩
  rcases hkept with hstuck | ⟨hplaced, hindex⟩
  · rw [hstuck, ← Bool.not_eq_true, isSpent_eq_true] at hends
    exact absurd ⟨hlt, hempty.trans_le (zero_le _)⟩ hends
  · have hsettled := hplaced.settled hends
    unfold stepForward
    rw [if_neg (not_le.2 hlt)]
    exact ⟨hsettled, hindex, hsettled.isSome_PointAt.symm⟩

end Standing

/-! ### What a call does to the cursor -/

section Moving

variable {F : Type} {path : Route F} {c : Cursor} {p : Vector3 F} {seg : PathSegment F} {k : Nat}

/-- The last point of a jump segment, and its number among the points of the route. -/
def IsJumpEnd (path : Route F) (k : Nat) (p : Vector3 F) : Prop :=
  ∃ i seg, path[i]? = some seg ∧ IsJumpSegment seg = true ∧ seg.polyline.getLast? = some p ∧ Jagged.start (polylines path) (i + 1) = k + 1

theorem IsJumpEnd.point (h : IsJumpEnd path k p) : (points path)[k]? = some p := by
  obtain ⟨i, seg, hseg, -, hlast, hk⟩ := h
  have hpoly : (polylines path)[i]? = some seg.polyline := by
    rw [polylines_getElem?, hseg]
    rfl
  rw [List.getLast?_eq_getElem?] at hlast
  have hlt := (List.getElem?_eq_some_iff.1 hlast).1
  have hnext := start_succ hpoly
  have hindex : Jagged.index (polylines path) i (seg.polyline.length - 1) = k := by
    unfold Jagged.index
    omega
  rw [← hindex]
  exact getElem?_index hpoly hlast

/-- A cursor at the last point of a jump segment is what `SkipStrandedPoint` looks for. -/
theorem IsJumpEnd.at_cursor (h : IsJumpEnd path (index path c) p) (hsized : Sized path) (hseg : path[c.segmentIdx.toNat]? = some seg)
    (hpt : c.pointIdx.toNat < seg.polyline.length) : (IsJumpSegment seg && IsLastPointOfSegment seg c.pointIdx) = true := by
  obtain ⟨i, seg', hseg', hjump, hlast, hk⟩ := h
  have hpoly : (polylines path)[c.segmentIdx.toNat]? = some seg.polyline := by
    rw [polylines_getElem?, hseg]
    rfl
  have hpoly' : (polylines path)[i]? = some seg'.polyline := by
    rw [polylines_getElem?, hseg']
    rfl
  have hpos : 0 < seg'.polyline.length := length_pos_of_mem (mem_of_getLast? hlast)
  have hnext := start_succ hpoly'
  unfold index at hk
  have hi := part_unique i hpoly hpt (by omega) (by omega)
  rw [hi] at hseg
  cases hseg.symm.trans hseg'
  have hlen := hsized.2 seg (mem_of_getElem? hseg)
  have hsucc : (c.pointIdx + 1).toNat = c.pointIdx.toNat + 1 := by
    change (c.pointIdx.toNat + 1) % 2 ^ 32 = _
    exact mod_eq_of_lt (by omega)
  have hend : (c.pointIdx + 1).toNat = seg.polyline.length := by
    unfold Jagged.index at hk
    rw [hi] at hk
    omega
  have hsome : seg.polyline.isEmpty = false := by
    cases hseg' : seg.polyline with
    | nil =>
      rw [hseg'] at hpos
      exact absurd hpos (lt_irrefl 0)
    | cons _ _ => rfl
  unfold IsLastPointOfSegment
  rw [hjump, hsome, hend]
  simp

variable [Field F] [LinearOrder F] {bot : Vector3 F} {s : DungeonFollowerState}

/-- From one place on to another, and every point that is left behind has been reached. -/
def Passes (path : Route F) (bot : Vector3 F) (c c' : Cursor) : Prop :=
  index path c ≤ index path c' ∧
    ∀ k p, index path c ≤ k → k < index path c' → (points path)[k]? = some p → PointIsReached bot p = true

theorem isPassed_point (h : isPassed path bot c = true) : ∃ p, PointAt path c = some p ∧ PointIsReached bot p = true :=
  any_eq_true _ _ |>.1 h

/-- The loop over what is reached comes to its end, wherever it begins. -/
theorem walkOn_ends (hsized : Sized path) (bot : Vector3 F) (c : Cursor) : isPassed path bot (walkOn path bot c) = false := by
  refine ends (I := fun _ => True) (m := fun c => (points path).length - index path c) (fun _ _ _ => trivial) (fun c _ hc => ?_) trivial
    (sub_le _ _)
  obtain ⟨p, hp, -⟩ := isPassed_point hc
  have hsome : (PointAt path c).isSome = true := by rw [hp]; rfl
  have hlt := index_lt hsome
  have hnext := (stepForward_point hsized hsome).2.1
  unfold AdvanceCursor
  omega

theorem walkOn_passes (hsized : Sized path) (bot : Vector3 F) (h : Settled path c) :
    Settled path (walkOn path bot c) ∧ Passes path bot c (walkOn path bot c) := by
  refine keeps (I := fun c' => Settled path c' ∧ Passes path bot c c') (fun c' hc' hpassed => ?_)
    ⟨h, le_refl _, fun k p hle hlt => absurd hlt (not_lt.2 hle)⟩ _
  obtain ⟨p, hp, hreached⟩ := isPassed_point hpassed
  obtain ⟨hsettled, hindex, -⟩ := stepForward_point hsized (c := c') (by rw [hp]; rfl)
  refine ⟨hsettled, hc'.2.1.trans (by unfold AdvanceCursor; omega), fun k q hle hlt hq => ?_⟩
  unfold AdvanceCursor at hlt
  rw [hindex] at hlt
  rcases lt_or_ge k (index path c') with hbefore | hhere
  · exact hc'.2.2 k q hle hbefore hq
  obtain rfl : k = index path c' := by omega
  rw [PointAt_points hp] at hq
  cases hq
  exact hreached

/-- What `NextHop` passes over, the bot has reached. -/
theorem NextHop_passes (hsized : Sized path) (bot : Vector3 F) (h : Named path s.toCursor) :
    Settled path (NextHop path bot s).2.toCursor ∧ Passes path bot s.toCursor (NextHop path bot s).2.toCursor := by
  obtain ⟨hsettled, hindex⟩ := h.placed.skipSpent hsized.1
  obtain ⟨hend, hle, hreached⟩ := walkOn_passes hsized bot hsettled
  rw [hindex] at hle hreached
  exact ⟨hend, hle, hreached⟩

/-- `SkipStrandedPoint` leaves the cursor, or steps on from a point that ends no jump. -/
theorem SkipStrandedPoint_steps (hsized : Sized path) (bot : Vector3 F) (s : DungeonFollowerState) :
    (SkipStrandedPoint path bot s).2.2.toCursor = s.toCursor ∨ Settled path (SkipStrandedPoint path bot s).2.2.toCursor ∧
        index path (SkipStrandedPoint path bot s).2.2.toCursor = index path s.toCursor + 1 ∧
        ∀ p, ¬ IsJumpEnd path (index path s.toCursor) p := by
  unfold SkipStrandedPoint
  cases hseg : path[s.segmentIdx.toNat]? with
  | none => exact .inl rfl
  | some seg =>
    cases hp : seg.polyline[s.pointIdx.toNat]? with
    | none =>
      dsimp only
      rw [hp]
      exact .inl rfl
    | some p =>
      dsimp only
      rw [hp]
      dsimp only
      split_ifs with hstranded hguard hmore
      · exact .inl rfl
      · exact .inl rfl
      all_goals
        have hsome : (PointAt path s.toCursor).isSome = true := by
          unfold PointAt
          rw [hseg, bind_some, hp]
          rfl
        obtain ⟨hsettled, hindex, -⟩ := stepForward_point hsized hsome
        exact .inr ⟨hsettled, hindex, fun q hend =>
          hguard (hend.at_cursor hsized hseg (List.getElem?_eq_some_iff.1 hp).1)⟩

theorem IsOffPath_toCursor (sqrt : F → F) (bot : Vector3 F) (s : DungeonFollowerState) :
    (IsOffPath sqrt path bot s).2.toCursor = s.toCursor := by
  unfold IsOffPath
  split_ifs <;> rfl

end Moving

end ComfyCraft.DungeonPathFollower
