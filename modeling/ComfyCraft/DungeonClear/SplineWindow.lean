import ComfyCraft.DungeonClear.PathFollower
import ComfyCraft.Lib.Polyline
import Mathlib.Algebra.Order.Ring.Rat
import Mathlib.Algebra.Field.Rat

/-! Two walks from the cursor of a route: ahead, for the points of the next spline, and back, for a place some way behind. -/

namespace ComfyCraft.DungeonPathFollower

open List UInt32 Option Jagged Loop Nat Polyline

def MAX_SPLINE_WINDOW_POINTS : Nat := 100

section Walks

variable {F : Type} [Field F] [LinearOrder F] (sqrt : F → F)

/-- `(q - p).length()`. -/
def Dist3D (p q : Vector3 F) : F :=
  let dx := q.x - p.x
  let dy := q.y - p.y
  let dz := q.z - p.z
  sqrt (dx * dx + dy * dy + dz * dz)

structure Windowing (F : Type) where
  cursor : Cursor
  window : List (Vector3 F)
  accumulated : F
  prev : Vector3 F
  broke : Bool

variable (path : Route F) (c : Cursor) (maxYards : F)

def Windowing.goesOn (w : Windowing F) : Bool :=
  !w.broke && w.cursor.segmentIdx.toNat < path.length && w.window.length < MAX_SPLINE_WINDOW_POINTS

/-- A spline that is long enough; a cap of zero or less is none. -/
def isLongEnough (maxYards accumulated : F) : Bool := 0 < maxYards && maxYards ≤ accumulated

/-- One turn: a jump ends the spline, and so does the point that makes it long enough. -/
def Windowing.turn (w : Windowing F) : Windowing F :=
  match path[w.cursor.segmentIdx.toNat]? with
  | none => w
  | some s =>
    if IsJumpSegment s then { w with broke := true }
    else
      match s.polyline[w.cursor.pointIdx.toNat]? with
      | some next =>
        let accumulated := w.accumulated + Dist3D sqrt w.prev next
        { cursor := ⟨w.cursor.segmentIdx, w.cursor.pointIdx + 1⟩
          window := w.window ++ [next]
          accumulated := accumulated
          prev := next
          broke := isLongEnough maxYards accumulated }
      | none => { w with cursor := ⟨w.cursor.segmentIdx + 1, 0⟩ }

def appendLoop (window : List (Vector3 F)) (back : Vector3 F) : Windowing F :=
  Loop.run (Windowing.goesOn path) (Windowing.turn sqrt path maxYards) (path.length + MAX_SPLINE_WINDOW_POINTS + 1)
    ⟨c, window, 0, back, false⟩

def AppendWindowPoints (window : List (Vector3 F)) : List (Vector3 F) :=
  match window.getLast? with
  | none => window
  | some back => (appendLoop sqrt path c maxYards window back).window

def lastOfEarlier (path : Route F) : Nat → Option Cursor
  | 0 => none
  | i + 1 =>
    match path[i]? with
    | none => lastOfEarlier path i
    | some seg =>
      if seg.polyline.isEmpty then lastOfEarlier path i else some ⟨UInt32.ofNat i, UInt32.ofNat seg.polyline.length - 1⟩

structure Backing (F : Type) where
  cursor : Cursor
  prev : Vector3 F
  accumulated : F
  best : Option (Vector3 F)
  broke : Bool

def Backing.goesOn (b : Backing F) : Bool := !b.broke && (PrevPoint path b.cursor).isSome

def Backing.turn (distance : F) (b : Backing F) : Backing F :=
  match PrevPoint path b.cursor with
  | none => b
  | some p =>
    let accumulated := b.accumulated + Dist3D sqrt b.prev p
    if distance ≤ accumulated then ⟨b.cursor, p, accumulated, some p, true⟩
    else if 0 < b.cursor.pointIdx then ⟨⟨b.cursor.segmentIdx, b.cursor.pointIdx - 1⟩, p, accumulated, some p, false⟩
    else
      match lastOfEarlier path b.cursor.segmentIdx.toNat with
      | some c => ⟨c, p, accumulated, some p, false⟩
      | none => ⟨b.cursor, p, accumulated, some p, true⟩

def backLoop (bot : Vector3 F) (c : Cursor) (distance : F) : Backing F :=
  Loop.run (Backing.goesOn path) (Backing.turn sqrt path distance) ((points path).length + 1) ⟨c, bot, 0, none, false⟩

def PointBehind (bot : Vector3 F) (c : Cursor) (distance : F) : Option (Vector3 F) :=
  if path.isEmpty || distance ≤ 0 then none else (backLoop sqrt path bot c distance).best

end Walks

/-! ### Ahead -/

section Ahead

variable {F : Type} {path : Route F} {i j : Nat} {seg : PathSegment F} {p : Vector3 F}

def ahead (path : Route F) (i j : Nat) : List (Vector3 F) :=
  match path.drop i with
  | [] => []
  | seg :: rest => seg.polyline.drop j ++ points rest

/-- The points from a place on that come before the first jump segment. -/
def ground (path : Route F) (i j : Nat) : List (Vector3 F) := ahead ((path.drop i).takeWhile fun seg => !IsJumpSegment seg) 0 j

theorem points_append (path path' : Route F) : points (path ++ path') = points path ++ points path' := by
  unfold points polylines
  rw [map_append, flatten_append]

theorem ground_end (h : path[i]? = none) : ground path i j = [] := by
  unfold ground
  rw [drop_eq_nil_of_le (getElem?_eq_none_iff.1 h)]
  rfl

section

variable (h : path[i]? = some seg)
include h

theorem drop_of_getElem? : path.drop i = seg :: path.drop (i + 1) := by
  obtain ⟨hlt, rfl⟩ := List.getElem?_eq_some_iff.1 h
  exact drop_eq_getElem_cons hlt

theorem ground_jump (hjump : IsJumpSegment seg = true) : ground path i j = [] := by
  unfold ground
  rw [drop_of_getElem? h, takeWhile_cons_of_neg (by simp [hjump])]
  rfl

theorem ground_segment (hjump : IsJumpSegment seg = false) :
    ground path i j = seg.polyline.drop j ++ points ((path.drop (i + 1)).takeWhile fun seg => !IsJumpSegment seg) := by
  unfold ground
  rw [drop_of_getElem? h, takeWhile_cons_of_pos (by simp [hjump])]
  rfl

theorem ground_point (hjump : IsJumpSegment seg = false) (hp : seg.polyline[j]? = some p) :
    ground path i j = p :: ground path i (j + 1) := by
  obtain ⟨hlt, rfl⟩ := List.getElem?_eq_some_iff.1 hp
  rw [ground_segment h hjump, ground_segment h hjump, drop_eq_getElem_cons hlt]
  rfl

theorem ground_next (hjump : IsJumpSegment seg = false) (hp : seg.polyline[j]? = none) :
    ground path i j = ground path (i + 1) 0 := by
  rw [ground_segment h hjump, drop_eq_nil_of_le (getElem?_eq_none_iff.1 hp), nil_append]
  unfold ground ahead
  cases (path.drop (i + 1)).takeWhile fun seg => !IsJumpSegment seg with
  | nil => rfl
  | cons seg rest => rfl

end

/-- They are a run of the route's points. -/
theorem ground_prefix (path : Route F) (i j : Nat) : ground path i j <+: ahead path i j := by
  cases h : path[i]? with
  | none =>
    rw [ground_end h]
    exact nil_prefix
  | some seg =>
    cases hjump : IsJumpSegment seg with
    | true =>
      rw [ground_jump h hjump]
      exact nil_prefix
    | false =>
      obtain ⟨rest, hrest⟩ := takeWhile_prefix (fun seg : PathSegment F => !IsJumpSegment seg) (l := path.drop (i + 1))
      rw [ground_segment h hjump]
      unfold ahead
      rw [drop_of_getElem? h]
      refine (prefix_append_right_inj _).2 ⟨points rest, ?_⟩
      rw [← points_append, hrest]

theorem points_drop (path : Route F) (i : Nat) : points (path.drop i) = (points path).drop (Jagged.start (polylines path) i) := by
  induction path generalizing i with
  | nil => simp [points, polylines, start]
  | cons seg path ih =>
    cases i with
    | zero => rfl
    | succ i =>
      have hstart : start (polylines (seg :: path)) (i + 1) = seg.polyline.length + start (polylines path) i := by
        simp [start, polylines]
      rw [drop_succ_cons, ih, hstart, ← drop_drop]
      simp [points, polylines]

/-- From a cursor of the route on they are what lies behind its number. -/
theorem Placed.ahead_eq {c : Cursor} (h : Placed path c) :
    ahead path c.segmentIdx.toNat c.pointIdx.toNat = (points path).drop (index path c) := by
  unfold index Jagged.index
  rw [← drop_drop, ← points_drop]
  have hpt := h.2
  rw [polylines_getElem?] at hpt
  unfold ahead
  cases hseg : path[c.segmentIdx.toNat]? with
  | none =>
    rw [drop_eq_nil_of_le (getElem?_eq_none_iff.1 hseg)]
    simp [points, polylines]
  | some seg =>
    rw [hseg] at hpt
    change c.pointIdx.toNat ≤ seg.polyline.length at hpt
    rw [drop_of_getElem? hseg]
    simp only [points, polylines, map_cons, flatten_cons]
    rw [drop_append_of_le_length hpt]

end Ahead

section Append

variable {F : Type} {path : Route F} {w : Windowing F} {seg : PathSegment F} {p : Vector3 F}

theorem goesOn_iff : w.goesOn path = true ↔
    w.broke = false ∧ w.cursor.segmentIdx.toNat < path.length ∧ w.window.length < MAX_SPLINE_WINDOW_POINTS := by
  unfold Windowing.goesOn
  simp [and_assoc]

def Windowing.left (path : Route F) (w : Windowing F) : Nat :=
  if w.broke then 0 else path.length - w.cursor.segmentIdx.toNat + (MAX_SPLINE_WINDOW_POINTS - w.window.length) + 1

variable [Field F] [LinearOrder F] {sqrt : F → F} {maxYards : F}

section

variable (h : path[w.cursor.segmentIdx.toNat]? = some seg)
include h

theorem turn_jump (hjump : IsJumpSegment seg = true) : w.turn sqrt path maxYards = { w with broke := true } := by
  unfold Windowing.turn
  rw [h]
  exact if_pos hjump

theorem turn_point (hjump : IsJumpSegment seg = false) (hp : seg.polyline[w.cursor.pointIdx.toNat]? = some p) :
    w.turn sqrt path maxYards = ⟨⟨w.cursor.segmentIdx, w.cursor.pointIdx + 1⟩, w.window ++ [p], w.accumulated + Dist3D sqrt w.prev p, p,
      isLongEnough maxYards (w.accumulated + Dist3D sqrt w.prev p)⟩ := by
  unfold Windowing.turn
  rw [h]
  dsimp only
  rw [hjump, if_neg Bool.false_ne_true, hp]

theorem turn_next (hjump : IsJumpSegment seg = false) (hp : seg.polyline[w.cursor.pointIdx.toNat]? = none) :
    w.turn sqrt path maxYards = { w with cursor := ⟨w.cursor.segmentIdx + 1, 0⟩ } := by
  unfold Windowing.turn
  rw [h]
  dsimp only
  rw [hjump, if_neg Bool.false_ne_true, hp]

end

theorem appendLoop_ends (sqrt : F → F) (hlen : path.length < 2 ^ 32) (c : Cursor) (maxYards : F) (window : List (Vector3 F))
    (back : Vector3 F) : (appendLoop sqrt path c maxYards window back).goesOn path = false := by
  refine ends (I := fun _ => True) (m := Windowing.left path) (fun _ _ _ => trivial) (fun w _ hw => ?_) trivial ?_
  · obtain ⟨hbroke, hseg, hroom⟩ := goesOn_iff.1 hw
    have hleft : w.left path = path.length - w.cursor.segmentIdx.toNat + (MAX_SPLINE_WINDOW_POINTS - w.window.length) + 1 := by
      unfold Windowing.left
      rw [hbroke, if_neg Bool.false_ne_true]
    have hsome : path[w.cursor.segmentIdx.toNat]? = some path[w.cursor.segmentIdx.toNat] := getElem?_eq_getElem hseg
    cases hjump : IsJumpSegment path[w.cursor.segmentIdx.toNat] with
    | true =>
      rw [turn_jump hsome hjump, hleft]
      exact succ_pos _
    | false =>
      cases hp : path[w.cursor.segmentIdx.toNat].polyline[w.cursor.pointIdx.toNat]? with
      | some p =>
        rw [turn_point hsome hjump hp, hleft]
        unfold Windowing.left
        dsimp only
        rw [length_append, length_singleton]
        split_ifs <;> omega
      | none =>
        have hnext : (w.cursor.segmentIdx + 1).toNat = w.cursor.segmentIdx.toNat + 1 := nextSegment_toNat hlen hseg
        rw [turn_next hsome hjump hp, hleft]
        unfold Windowing.left
        rw [hbroke, if_neg Bool.false_ne_true]
        dsimp only
        omega
  · unfold Windowing.left
    rw [if_neg Bool.false_ne_true]
    omega

theorem append_run (sqrt : F → F) (hsized : Sized path) (maxYards : F) (fuel : Nat) (w : Windowing F) (hbroke : w.broke = false)
    (hend : (Loop.run (Windowing.goesOn path) (Windowing.turn sqrt path maxYards) fuel w).goesOn path = false) :
    (Loop.run (Windowing.goesOn path) (Windowing.turn sqrt path maxYards) fuel w).window = w.window ++
      Polyline.cut (Dist3D sqrt) (isLongEnough maxYards) (MAX_SPLINE_WINDOW_POINTS - w.window.length) w.accumulated w.prev
        (ground path w.cursor.segmentIdx.toNat w.cursor.pointIdx.toNat) := by
  have hstop : ∀ w : Windowing F, w.broke = false → w.goesOn path = false →
      cut (Dist3D sqrt) (isLongEnough maxYards) (MAX_SPLINE_WINDOW_POINTS - w.window.length) w.accumulated w.prev
        (ground path w.cursor.segmentIdx.toNat w.cursor.pointIdx.toNat) = [] := by
    intro w hbroke hend
    rw [← Bool.not_eq_true, goesOn_iff, not_and, not_and, not_lt] at hend
    rcases lt_or_ge w.cursor.segmentIdx.toNat path.length with hseg | hseg
    · rw [Nat.sub_eq_zero_of_le (hend hbroke hseg), cut_zero]
    · rw [ground_end (getElem?_eq_none hseg), cut_nil]
  induction fuel generalizing w with
  | zero =>
    rw [hstop w hbroke hend, append_nil]
    rfl
  | succ fuel ih =>
    unfold run at hend ⊢
    cases hgoes : w.goesOn path with
    | false => rw [if_neg Bool.false_ne_true, hstop w hbroke hgoes, append_nil]
    | true =>
      rw [if_pos rfl]
      rw [hgoes, if_pos rfl] at hend
      obtain ⟨-, hseg, hroom⟩ := goesOn_iff.1 hgoes
      have hsome : path[w.cursor.segmentIdx.toNat]? = some path[w.cursor.segmentIdx.toNat] := getElem?_eq_getElem hseg
      have hended : ∀ w' : Windowing F, w'.broke = true → w'.goesOn path = false := by
        intro w' hw'
        unfold Windowing.goesOn
        rw [hw']
        rfl
      cases hjump : IsJumpSegment path[w.cursor.segmentIdx.toNat] with
      | true =>
        rw [turn_jump hsome hjump, run_of_ended (hended _ rfl), ground_jump hsome hjump, cut_nil, append_nil]
      | false =>
        cases hp : path[w.cursor.segmentIdx.toNat].polyline[w.cursor.pointIdx.toNat]? with
        | some p =>
          have hnext : (w.cursor.pointIdx + 1).toNat = w.cursor.pointIdx.toNat + 1 := by
            have hlt := (List.getElem?_eq_some_iff.1 hp).1
            have hlen := hsized.2 _ (getElem_mem hseg)
            change (w.cursor.pointIdx.toNat + 1) % 2 ^ 32 = _
            exact mod_eq_of_lt (by omega)
          have hcount : MAX_SPLINE_WINDOW_POINTS - w.window.length = MAX_SPLINE_WINDOW_POINTS - (w.window ++ [p]).length + 1 := by
            rw [length_append, length_singleton]
            omega
          rw [turn_point hsome hjump hp] at hend ⊢
          rw [ground_point hsome hjump hp, hcount, cut]
          cases hfull : isLongEnough maxYards (w.accumulated + Dist3D sqrt w.prev p) with
          | true => rw [run_of_ended (hended _ rfl), if_pos rfl]
          | false =>
            rw [hfull] at hend
            rw [ih _ rfl hend, if_neg Bool.false_ne_true, append_assoc]
            rw [hnext]
            rfl
        | none =>
          have hnext : (w.cursor.segmentIdx + 1).toNat = w.cursor.segmentIdx.toNat + 1 := nextSegment_toNat hsized.1 hseg
          rw [turn_next hsome hjump hp] at hend ⊢
          rw [ih { w with cursor := ⟨w.cursor.segmentIdx + 1, 0⟩ } hbroke hend, ground_next hsome hjump hp]
          rw [hnext]
          rfl

end Append

/-! ### Behind -/

section Behind

variable {F : Type} {path : Route F} {c : Cursor} {i : Nat} {seg : PathSegment F}

/-- The points strictly behind the cursor, the nearest along the route first. -/
def behind (path : Route F) (c : Cursor) : List (Vector3 F) := ((points path).take (index path c)).reverse

theorem points_take (path : Route F) (i : Nat) : points (path.take i) = (points path).take (Jagged.start (polylines path) i) := by
  have hsplit : points path = points (path.take i) ++ points (path.drop i) := by rw [← points_append, take_append_drop]
  have hlength : start (polylines path) i = (points (path.take i)).length := by
    unfold start points polylines
    rw [map_take]
  rw [hsplit, hlength, take_left]

theorem lastBefore_eq (path : Route F) (i : Nat) : lastBefore path i = (points (path.take i)).getLast? := by
  induction i with
  | zero => rfl
  | succ i ih =>
    rw [take_add_one, points_append, getLast?_append]
    unfold lastBefore
    cases path[i]? with
    | none =>
      rw [ih]
      rfl
    | some seg =>
      have hpoints : points (some seg).toList = seg.polyline := by simp [points, polylines]
      rw [bind_some, hpoints, ih]
      cases seg.polyline.getLast? <;> rfl

theorem toNat_pred {n : UInt32} (h : 0 < n.toNat) : (n - 1).toNat = n.toNat - 1 :=
  UInt32.toNat_sub_of_le n 1 (UInt32.le_iff_toNat_le.2 h)

theorem Placed.pred (h : Placed path c) (hpos : 0 < c.pointIdx.toNat) :
    Placed path ⟨c.segmentIdx, c.pointIdx - 1⟩ ∧ index path ⟨c.segmentIdx, c.pointIdx - 1⟩ + 1 = index path c ∧
      (PointAt path ⟨c.segmentIdx, c.pointIdx - 1⟩).isSome = true := by
  have hpt := h.2
  have hpred := toNat_pred hpos
  refine ⟨⟨h.1, ?_⟩, ?_, isSome_PointAt.2 ?_⟩
  · dsimp only
    omega
  · unfold index Jagged.index
    dsimp only
    omega
  · dsimp only
    omega

theorem Placed.PrevPoint_eq (h : Placed path c) : PrevPoint path c = (behind path c).head? := by
  unfold behind PrevPoint
  rw [head?_reverse]
  split_ifs with hpos
  · obtain ⟨hplaced, hindex, hsome⟩ := h.pred (lt_iff_toNat_lt.1 hpos)
    obtain ⟨p, hp⟩ := isSome_iff_exists.1 hsome
    rw [← hindex, getLast?_take, if_neg (Nat.succ_ne_zero _), Nat.add_sub_cancel, PointAt_points hp, hp]
    rfl
  · have hzero : c.pointIdx.toNat = 0 := Nat.eq_zero_of_not_pos fun h => hpos (lt_iff_toNat_lt.2 h)
    rw [lastBefore_eq, points_take]
    unfold index Jagged.index
    rw [hzero, add_zero]

theorem lastOfEarlier_spec (hsized : Sized path) (hi : i ≤ path.length) (hpos : 0 < Jagged.start (polylines path) i) :
    ∃ c', lastOfEarlier path i = some c' ∧ Placed path c' ∧ index path c' + 1 = Jagged.start (polylines path) i := by
  induction i with
  | zero => exact absurd hpos (lt_irrefl 0)
  | succ i ih =>
    have hseg : path[i]? = some path[i] := getElem?_eq_getElem hi
    have hpoly : (polylines path)[i]? = some path[i].polyline := by
      rw [polylines_getElem?, hseg]
      rfl
    have hnext := start_succ hpoly
    unfold lastOfEarlier
    rw [hseg]
    dsimp only
    split_ifs with hempty
    · rw [isEmpty_iff.1 hempty, length_nil, add_zero] at hnext
      rw [hnext] at hpos ⊢
      exact ih (le_of_succ_le hi) hpos
    have hlen : 0 < path[i].polyline.length := length_pos_of_ne_nil (mt isEmpty_iff.2 hempty)
    have hsmall := hsized.2 path[i] (getElem_mem hi)
    have hidx : (ofNat i).toNat = i := toNat_ofNat_of_lt' (lt_of_lt_of_le hi hsized.1.le)
    have hofNat : (ofNat path[i].polyline.length).toNat = path[i].polyline.length := toNat_ofNat_of_lt' hsmall
    have hpt : (ofNat path[i].polyline.length - 1).toNat = path[i].polyline.length - 1 := by
      rw [toNat_pred (hlen.trans_eq hofNat.symm), hofNat]
    refine ⟨_, rfl, ⟨?_, ?_⟩, ?_⟩
    · rw [hidx]
      exact le_of_succ_le hi
    · rw [hidx, hpt, hpoly]
      exact sub_le _ _
    · unfold index Jagged.index
      rw [hidx, hpt]
      omega

/-- Behind a place one back there is one point less. -/
theorem Placed.behind_cons {c' : Cursor} {p : Vector3 F} (h : Placed path c) (hindex : index path c' + 1 = index path c)
    (hp : (behind path c).head? = some p) : behind path c = p :: behind path c' := by
  have hlt : index path c' < (points path).length := by
    have hle := h.index_le
    omega
  unfold behind at hp ⊢
  rw [head?_reverse, ← hindex, getLast?_take, if_neg (Nat.succ_ne_zero _), Nat.add_sub_cancel, getElem?_eq_getElem hlt] at hp
  cases hp
  rw [← hindex, take_add_one, getElem?_eq_getElem hlt, reverse_append]
  rfl

theorem length_behind (h : Placed path c) : (behind path c).length = index path c := by
  unfold behind
  rw [length_reverse, length_take, min_eq_left h.index_le]

end Behind

section Setback

variable {F : Type} {path : Route F} {b : Backing F} {p : Vector3 F}

theorem back_goesOn (hgoes : b.goesOn path = true) : b.broke = false ∧ ∃ p, PrevPoint path b.cursor = some p := by
  unfold Backing.goesOn at hgoes
  rw [Bool.and_eq_true, Bool.not_eq_true', isSome_iff_exists] at hgoes
  exact hgoes

variable [Field F] [LinearOrder F] {sqrt : F → F} {distance : F}

theorem isLongEnough_iff {maxYards accumulated : F} : isLongEnough maxYards accumulated = true ↔ 0 < maxYards ∧ maxYards ≤ accumulated := by
  unfold isLongEnough
  rw [Bool.and_eq_true, decide_eq_true_eq, decide_eq_true_eq]

theorem back_turn (sqrt : F → F) (hsized : Sized path) (h : Placed path b.cursor) (hp : PrevPoint path b.cursor = some p)
    (hshort : ¬ distance ≤ b.accumulated + Dist3D sqrt b.prev p) :
    ∃ c', b.turn sqrt path distance = ⟨c', p, b.accumulated + Dist3D sqrt b.prev p, some p, false⟩ ∧ Placed path c' ∧
      index path c' + 1 = index path b.cursor := by
  unfold Backing.turn
  rw [hp]
  dsimp only
  rw [if_neg hshort]
  split_ifs with hpos
  · obtain ⟨hplaced, hindex, -⟩ := h.pred (lt_iff_toNat_lt.1 hpos)
    exact ⟨_, rfl, hplaced, hindex⟩
  have hzero : b.cursor.pointIdx.toNat = 0 := Nat.eq_zero_of_not_pos fun h => hpos (lt_iff_toNat_lt.2 h)
  have hstart : index path b.cursor = start (polylines path) b.cursor.segmentIdx.toNat := by
    unfold index Jagged.index
    rw [hzero, add_zero]
  have hne : 0 < index path b.cursor := by
    rw [← length_behind h]
    rw [h.PrevPoint_eq] at hp
    exact length_pos_of_mem (mem_of_head? hp)
  obtain ⟨c', hc', hplaced, hindex⟩ := lastOfEarlier_spec hsized h.1 (hstart ▸ hne)
  rw [hc']
  exact ⟨c', rfl, hplaced, hindex.trans hstart.symm⟩

theorem back_turn_far (hp : PrevPoint path b.cursor = some p) (hfar : distance ≤ b.accumulated + Dist3D sqrt b.prev p) :
    b.turn sqrt path distance = ⟨b.cursor, p, b.accumulated + Dist3D sqrt b.prev p, some p, true⟩ := by
  unfold Backing.turn
  rw [hp]
  exact if_pos hfar

def Backing.left (path : Route F) (b : Backing F) : Nat := if b.broke then 0 else index path b.cursor + 1

theorem backLoop_ends (sqrt : F → F) (hsized : Sized path) (bot : Vector3 F) {c : Cursor} (hc : Placed path c) (distance : F) :
    (backLoop sqrt path bot c distance).goesOn path = false := by
  refine ends (I := fun b => Placed path b.cursor) (m := Backing.left path) (fun b hb hgoes => ?_) (fun b hb hgoes => ?_) hc ?_
  · obtain ⟨-, p, hp⟩ := back_goesOn hgoes
    by_cases hfar : distance ≤ b.accumulated + Dist3D sqrt b.prev p
    · rw [back_turn_far hp hfar]
      exact hb
    · obtain ⟨c', hturn, hplaced, -⟩ := back_turn sqrt hsized hb hp hfar
      rw [hturn]
      exact hplaced
  · obtain ⟨hbroke, p, hp⟩ := back_goesOn hgoes
    have hleft : b.left path = index path b.cursor + 1 := by
      unfold Backing.left
      rw [hbroke, if_neg Bool.false_ne_true]
    rw [hleft]
    by_cases hfar : distance ≤ b.accumulated + Dist3D sqrt b.prev p
    · rw [back_turn_far hp hfar]
      exact succ_pos _
    · obtain ⟨c', hturn, -, hindex⟩ := back_turn sqrt hsized hb hp hfar
      rw [hturn, ← hindex]
      exact lt_succ_self _
  · exact succ_le_succ hc.index_le

def isFarEnough (distance accumulated : F) : Bool := distance ≤ accumulated

/-- The loop goes back over the beginning of what is behind that is long enough, and keeps its last point. -/
theorem back_run (sqrt : F → F) (hsized : Sized path) (distance : F) (fuel : Nat) (b : Backing F) (hbroke : b.broke = false)
    (hb : Placed path b.cursor)
    (hend : (Loop.run (Backing.goesOn path) (Backing.turn sqrt path distance) fuel b).goesOn path = false) :
    (Loop.run (Backing.goesOn path) (Backing.turn sqrt path distance) fuel b).best =
      (Polyline.cut (Dist3D sqrt) (isFarEnough distance) (behind path b.cursor).length b.accumulated b.prev
        (behind path b.cursor)).getLast?.or b.best := by
  have hstop : ∀ b : Backing F, b.broke = false → Placed path b.cursor → b.goesOn path = false → behind path b.cursor = [] := by
    intro b hbroke hb hend
    unfold Backing.goesOn at hend
    rw [hbroke, hb.PrevPoint_eq] at hend
    cases hbehind : behind path b.cursor with
    | nil => rfl
    | cons p l =>
      rw [hbehind] at hend
      cases hend
  induction fuel generalizing b with
  | zero =>
    rw [hstop b hbroke hb hend]
    rfl
  | succ fuel ih =>
    unfold run at hend ⊢
    cases hgoes : b.goesOn path with
    | false =>
      rw [if_neg Bool.false_ne_true, hstop b hbroke hb hgoes]
      rfl
    | true =>
      rw [if_pos rfl]
      rw [hgoes, if_pos rfl] at hend
      obtain ⟨-, p, hp⟩ := back_goesOn hgoes
      have hhead := hb.PrevPoint_eq.symm.trans hp
      by_cases hfar : distance ≤ b.accumulated + Dist3D sqrt b.prev p
      · have hended : (⟨b.cursor, p, b.accumulated + Dist3D sqrt b.prev p, some p, true⟩ : Backing F).goesOn path = false := rfl
        obtain ⟨l, hl⟩ := head?_eq_some_iff.1 hhead
        have henough : isFarEnough distance (b.accumulated + Dist3D sqrt b.prev p) = true := decide_eq_true hfar
        rw [back_turn_far hp hfar, run_of_ended hended, hl, length_cons, cut, if_pos henough]
        rfl
      · obtain ⟨c', hturn, hplaced, hindex⟩ := back_turn sqrt hsized hb hp hfar
        have hshort : ¬ isFarEnough distance (b.accumulated + Dist3D sqrt b.prev p) = true := mt of_decide_eq_true hfar
        rw [hturn] at hend ⊢
        rw [ih ⟨c', p, b.accumulated + Dist3D sqrt b.prev p, some p, false⟩ rfl hplaced hend, hb.behind_cons hindex hhead, length_cons,
          cut, if_neg hshort, getLast?_cons]
        cases (cut (Dist3D sqrt) (isFarEnough distance) (behind path c').length (b.accumulated + Dist3D sqrt b.prev p) p
          (behind path c')).getLast? <;> rfl

/-- The first point of those behind that is far enough on the way back to it; the last of them where none is; none where there is none. -/
def IsSetback (sqrt : F → F) (bot : Vector3 F) (distance : F) (points : List (Vector3 F)) (r : Option (Vector3 F)) : Prop :=
  points = [] ∧ r = none ∨ ∃ j p, points[j]? = some p ∧ r = some p ∧
    (∀ i, i < j → Polyline.length (Dist3D sqrt) (bot :: points.take (i + 1)) < distance) ∧
    (distance ≤ Polyline.length (Dist3D sqrt) (bot :: points.take (j + 1)) ∨ j + 1 = points.length)

theorem isSetback_cut (sqrt : F → F) (bot : Vector3 F) (distance : F) (points : List (Vector3 F)) :
    IsSetback sqrt bot distance points
      (Polyline.cut (Dist3D sqrt) (isFarEnough distance) points.length 0 bot points).getLast? := by
  cases hcut : cut (Dist3D sqrt) (isFarEnough distance) points.length 0 bot points with
  | nil =>
    refine .inl ⟨?_, rfl⟩
    by_contra hne
    exact cut_ne_nil (length_pos_of_ne_nil hne) hne hcut
  | cons first more =>
    have hbegins := cut_prefix (Dist3D sqrt) (isFarEnough distance) points.length 0 bot points
    have hends := cut_ends (Dist3D sqrt) (isFarEnough distance) points.length 0 bot points
    have hshort : ∀ i, 0 < i → i < (first :: more).length → ¬ distance ≤ 0 + length (Dist3D sqrt) (bot :: (first :: more).take i) := by
      intro i hpos hi
      rw [← hcut] at hi ⊢
      have hnot := cut_short hpos hi
      exact of_decide_eq_false hnot
    rw [hcut] at hbegins hends
    have hbegun := prefix_iff_eq_take.1 hbegins
    have htake : ∀ i, i ≤ more.length + 1 → (first :: more).take i = points.take i := by
      intro i hi
      rw [hbegun, take_take, length_cons, min_eq_left hi]
    refine .inr ⟨more.length, (first :: more).getLast (cons_ne_nil _ _), ?_, getLast?_eq_some_getLast _, fun i hi => ?_, ?_⟩
    · obtain ⟨rest, rfl⟩ := hbegins
      rw [getElem?_append_left (lt_succ_self _), ← getLast?_eq_some_getLast, getLast?_eq_getElem?]
      rfl
    · have hless := not_le.1 (hshort (i + 1) (succ_pos i) (succ_lt_succ hi))
      rwa [zero_add, htake (i + 1) (by omega)] at hless
    · rcases hends with hall | hcount | ⟨-, hfar⟩
      · exact .inr (congrArg length hall)
      · exact .inr hcount
      have hlong := of_decide_eq_true hfar
      rw [zero_add, hbegun] at hlong
      exact .inl hlong

/-- Whatever the route and the cursor, the loops end. Ahead, the points of the ground up to the next jump are appended, as many as have room
and up to the first that makes the spline long enough; behind, the first point that is far enough is found, or the earliest. -/
theorem window_and_setback (sqrt : F → F) (path : Route F) (hsized : Sized path) (c : Cursor) :
    (∀ maxYards window back, window.getLast? = some back → (appendLoop sqrt path c maxYards window back).goesOn path = false ∧
          ∃ run, AppendWindowPoints sqrt path c maxYards window = window ++ run ∧
            run <+: ground path c.segmentIdx.toNat c.pointIdx.toNat ∧
            (∀ j, 0 < j → j < run.length → ¬ (0 < maxYards ∧ maxYards ≤ Polyline.length (Dist3D sqrt) (back :: run.take j))) ∧
            run.length ≤ MAX_SPLINE_WINDOW_POINTS - window.length ∧
            (run = ground path c.segmentIdx.toNat c.pointIdx.toNat ∨ run.length = MAX_SPLINE_WINDOW_POINTS - window.length ∨
              run ≠ [] ∧ 0 < maxYards ∧ maxYards ≤ Polyline.length (Dist3D sqrt) (back :: run)) ∧
            (window.length < MAX_SPLINE_WINDOW_POINTS → ground path c.segmentIdx.toNat c.pointIdx.toNat ≠ [] → run ≠ [])) ∧
      ground path c.segmentIdx.toNat c.pointIdx.toNat <+: ahead path c.segmentIdx.toNat c.pointIdx.toNat ∧
      (Placed path c → ahead path c.segmentIdx.toNat c.pointIdx.toNat = (points path).drop (index path c) ∧
          ∀ bot distance, 0 < distance → (backLoop sqrt path bot c distance).goesOn path = false ∧
            IsSetback sqrt bot distance ((points path).take (index path c)).reverse (PointBehind sqrt path bot c distance)) := by
  refine ⟨fun maxYards window back hback => ?_, ground_prefix path _ _, fun hplaced => ⟨hplaced.ahead_eq, fun bot distance hpos => ?_⟩⟩
  · have hends := appendLoop_ends sqrt hsized.1 c maxYards window back
    have hrun := append_run sqrt hsized maxYards _ ⟨c, window, 0, back, false⟩ rfl hends
    have hreason := cut_ends (Dist3D sqrt) (isLongEnough maxYards) (MAX_SPLINE_WINDOW_POINTS - window.length) 0 back
      (ground path c.segmentIdx.toNat c.pointIdx.toNat)
    refine ⟨hends, cut (Dist3D sqrt) (isLongEnough maxYards) (MAX_SPLINE_WINDOW_POINTS - window.length) 0 back
      (ground path c.segmentIdx.toNat c.pointIdx.toNat), ?_, cut_prefix .., fun j hpos hj => ?_, length_cut_le .., ?_,
      fun hroom hground => cut_ne_nil (Nat.sub_pos_of_lt hroom) hground⟩
    · unfold AppendWindowPoints
      rw [hback]
      exact hrun
    · have hshort := cut_short hpos hj
      rwa [zero_add, ← Bool.not_eq_true, isLongEnough_iff] at hshort
    · rwa [zero_add, isLongEnough_iff] at hreason
  · have hends := backLoop_ends sqrt hsized bot hplaced distance
    have hrun := back_run sqrt hsized distance _ ⟨c, bot, 0, none, false⟩ rfl hplaced hends
    have hsetback := isSetback_cut sqrt bot distance (behind path c)
    rw [or_none] at hrun
    rw [← hrun] at hsetback
    refine ⟨hends, ?_⟩
    unfold PointBehind
    cases hempty : path.isEmpty with
    | true =>
      rw [isEmpty_iff.1 hempty]
      exact .inl ⟨by simp [points, polylines], rfl⟩
    | false =>
      rw [Bool.false_or, decide_eq_false (not_le.2 hpos), if_neg Bool.false_ne_true]
      exact hsetback

end Setback

namespace WindowSample

/-- The root of a square of a whole number up to 40. -/
def root (q : ℚ) : ℚ := (((List.range 41).find? fun n : Nat => ((n * n : Nat) : ℚ) = q).getD 0 : Nat)

def onAxis (x : ℚ) : Vector3 ℚ := ⟨x, 0, 0⟩

/-- Three points, an empty segment between them, and a jump at the end. -/
def way : Route ℚ := [{ polyline := [onAxis 4, onAxis 8] }, { polyline := [] }, { polyline := [onAxis 12] }, { polyline := [onAxis 20], jumpGap := true }]

theorem way_sized : Sized way := by
  refine ⟨by decide, fun seg hseg => ?_⟩
  have hall : way.all (fun seg => seg.polyline.length < 2 ^ 32) = true := by decide
  simpa using all_eq_true.1 hall seg hseg

theorem window_and_setback_way :
    (∃ run, AppendWindowPoints root way ⟨0, 0⟩ 10 [onAxis 0] = [onAxis 0] ++ run ∧ run <+: ground way 0 0) ∧
      IsSetback root (onAxis 13) 5 [onAxis 8, onAxis 4] (PointBehind root way (onAxis 13) ⟨2, 0⟩ 5) := by
  obtain ⟨run, happend, hrun, -⟩ := ((window_and_setback root way way_sized ⟨0, 0⟩).1 10 [onAxis 0] (onAxis 0) rfl).2
  have hbehind := ((window_and_setback root way way_sized ⟨2, 0⟩).2.2 ⟨by decide, zero_le _⟩).2 (onAxis 13) 5 (by decide +kernel)
  exact ⟨⟨run, happend, hrun⟩, hbehind.2⟩

/-- So many empty segments that their numbers begin again. -/
def endless : Route ℚ := List.replicate (2 ^ 32) { polyline := [] }

theorem endless_goesOn (fuel : Nat) :
    (Loop.run (Windowing.goesOn endless) (Windowing.turn root endless 10) fuel ⟨⟨0, 0⟩, [onAxis 0], 0, onAxis 0, false⟩).goesOn endless = true := by
  have hlen : endless.length = 2 ^ 32 := length_replicate
  have hinside : ∀ c : Cursor, c.segmentIdx.toNat < endless.length := fun c => hlen ▸ c.segmentIdx.toNat_lt
  have hkept : ∀ w : Windowing ℚ, (w.broke = false ∧ w.window = [onAxis 0]) → w.goesOn endless = true →
      ((w.turn root endless 10).broke = false ∧ (w.turn root endless 10).window = [onAxis 0]) := by
    intro w hw _
    have hseg : endless[w.cursor.segmentIdx.toNat]? = some { polyline := [] } := by
      unfold endless
      exact getElem?_replicate_of_lt (hlen ▸ hinside w.cursor)
    rw [turn_next hseg rfl rfl]
    exact hw
  obtain ⟨hbroke, hwindow⟩ := keeps (I := fun w : Windowing ℚ => w.broke = false ∧ w.window = [onAxis 0])
    (s := ⟨⟨0, 0⟩, [onAxis 0], 0, onAxis 0, false⟩) hkept ⟨rfl, rfl⟩ fuel
  refine goesOn_iff.2 ⟨hbroke, hinside _, ?_⟩
  rw [hwindow]
  decide

/-- A cap of zero cuts nothing off, a setback of zero or from a cursor behind its segment finds nothing, and over so many empty segments the
walk never ends. -/
theorem window_and_setback_fail : AppendWindowPoints root way ⟨0, 0⟩ 0 [onAxis 0] = [onAxis 0, onAxis 4, onAxis 8, onAxis 12] ∧
      (points way).take (index way ⟨2, 0⟩) = [onAxis 4, onAxis 8] ∧ PointBehind root way (onAxis 13) ⟨2, 0⟩ 0 = none ∧
      PointBehind root way (onAxis 13) ⟨2, 5⟩ 5 = none ∧
      ∀ fuel, (Loop.run (Windowing.goesOn endless) (Windowing.turn root endless 10) fuel
        ⟨⟨0, 0⟩, [onAxis 0], 0, onAxis 0, false⟩).goesOn endless = true :=
  ⟨by decide +kernel, by decide +kernel, by decide +kernel, by decide +kernel, endless_goesOn⟩

end WindowSample

end ComfyCraft.DungeonPathFollower
