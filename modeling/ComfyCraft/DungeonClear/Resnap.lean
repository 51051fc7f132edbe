import ComfyCraft.DungeonClear.PathFollower
import ComfyCraft.Lib.Sorting

/-! A bot that has left its route takes it up again at a point ahead that is near and in sight. The points of a window are sorted by a
comparison with a tolerance, and the first of them in sight is taken. -/

namespace ComfyCraft.DungeonPathFollower

open Sorting List Option Jagged Nat UInt64

def RESNAP_WINDOW : Nat := 24

def RESNAP_RADIUS : Nat := 45

section Resnap

variable {F : Type} [Field F] [LinearOrder F]

structure Candidate (F : Type) extends Cursor where
  pos : Vector3 F
  dist2 : F
  flatIdx : UInt64
deriving DecidableEq

def Dist3DSq (bot q : Vector3 F) : F :=
  let dx := bot.x - q.x
  let dy := bot.y - q.y
  let dz := bot.z - q.z
  dx * dx + dy * dy + dz * dz

/-- What ties are broken by; it follows the route as long as no segment has 100000 points. -/
def flatIdx (c : Cursor) : UInt64 := c.segmentIdx.toUInt64 * 100000 + c.pointIdx.toUInt64

def candidateAt (bot : Vector3 F) (c : Cursor) (p : Vector3 F) : Candidate F := ⟨c, p, Dist3DSq bot p, flatIdx c⟩

def consider (path : Route F) (bot : Vector3 F) (c : Cursor) : Option (Candidate F) :=
  (PointAt path c).bind fun p => if RESNAP_RADIUS * RESNAP_RADIUS < Dist3DSq bot p then none else some (candidateAt bot c p)

/-- Where the walk forward comes by, in so many steps. -/
def window (path : Route F) : Nat → Cursor → List Cursor
  | 0, _ => []
  | n + 1, c => c :: if (StepFlatForward path c).2 then window path n (StepFlatForward path c).1 else []

def candidates (path : Route F) (bot : Vector3 F) (c : Cursor) : List (Candidate F) :=
  (window path (RESNAP_WINDOW + 1) c).filterMap (consider path bot)

def tie : F := 1 / 100000

def nearer (a b : Candidate F) : Bool := if tie < |a.dist2 - b.dist2| then a.dist2 < b.dist2 else b.flatIdx < a.flatIdx

def Resnap (sorting : StdSort (Candidate F)) (path : Route F) (bot : Vector3 F) (sees : Vector3 F → Bool) (s : DungeonFollowerState) :
    Bool × DungeonFollowerState :=
  if path.length ≤ s.segmentIdx.toNat then (false, s)
  else if (candidates path bot s.toCursor).isEmpty then (false, s)
  else
    match (sorting.sort nearer (candidates path bot s.toCursor)).find? fun cand => sees cand.pos with
    | some cand => (true, ⟨cand.toCursor, 0⟩)
    | none => (false, s)

end Resnap

/-! ### The window -/

section Window

variable {F : Type} {path : Route F} {c c' : Cursor} {p : Vector3 F} {n k : Nat}

/-- How many points the walk from a cursor comes by; one step is lost where it begins in an empty segment. -/
def windowSize (path : Route F) (c : Cursor) : Nat := if (PointAt path c).isSome then RESNAP_WINDOW + 1 else RESNAP_WINDOW

theorem length_le_index (path : Route F) (hend : c.segmentIdx.toNat = path.length) : (points path).length ≤ index path c := by
  unfold index Jagged.index
  have hlen : (polylines path).length ≤ c.segmentIdx.toNat := by
    unfold polylines
    rw [length_map, hend]
  rw [start_of_length_le hlen]
  exact le_add_right _ _

theorem Settled.isSome_of_lt (h : Settled path c) (hlt : index path c < (points path).length) : (PointAt path c).isSome = true :=
  h.resolve_right fun hend => absurd hlt (not_lt.2 (length_le_index path hend.1))

theorem index_inj (h : (PointAt path c).isSome = true) (h' : (PointAt path c').isSome = true) (heq : index path c = index path c') :
    c = c' := by
  obtain ⟨p, hp⟩ := isSome_iff_exists.1 h
  obtain ⟨p', hp'⟩ := isSome_iff_exists.1 h'
  obtain ⟨seg, hseg, hpt⟩ := PointAt_eq_some hp
  obtain ⟨seg', hseg', hpt'⟩ := PointAt_eq_some hp'
  have hpoly : (polylines path)[c.segmentIdx.toNat]? = some seg.polyline := by rw [polylines_getElem?, hseg]; rfl
  have hpoly' : (polylines path)[c'.segmentIdx.toNat]? = some seg'.polyline := by rw [polylines_getElem?, hseg']; rfl
  have hlt' := (List.getElem?_eq_some_iff.1 hpt').1
  have hnext := start_succ hpoly'
  unfold index Jagged.index at heq
  have hidx : c.segmentIdx.toNat = c'.segmentIdx.toNat := by
    refine Jagged.part_unique _ hpoly (List.getElem?_eq_some_iff.1 hpt).1 ?_ ?_ <;> unfold Jagged.index <;> omega
  rw [hidx] at heq
  have hseg := UInt32.toNat_inj.1 hidx
  have hpt := UInt32.toNat_inj.1 (add_left_cancel heq)
  cases c
  cases c'
  simp_all

theorem index_of_mem_window (hsized : Sized path) (h : Settled path c) (hc : c' ∈ window path n c) :
    index path c ≤ index path c' ∧ index path c' < index path c + n := by
  induction n generalizing c with
  | zero => exact absurd hc not_mem_nil
  | succ n ih =>
    rcases mem_cons.1 hc with rfl | hc
    · exact ⟨le_refl _, by omega⟩
    split_ifs at hc with hmore
    · have hsome : (PointAt path c).isSome = true := by
        rcases h with h | ⟨hend, -⟩
        · exact h
        unfold StepFlatForward stepForward at hmore
        rw [if_pos hend.ge] at hmore
        cases hmore
      obtain ⟨hsettled, hindex, -⟩ := stepForward_point hsized hsome
      have hrest := ih hsettled hc
      omega
    · exact absurd hc not_mem_nil

theorem window_reaches (hsized : Sized path) (h : Settled path c) (hle : index path c ≤ k) (hlt : k < index path c + n)
    (hk : k < (points path).length) : ∃ c' ∈ window path n c, (PointAt path c').isSome = true ∧ index path c' = k := by
  induction n generalizing c with
  | zero => exact absurd hlt (not_lt.2 hle)
  | succ n ih =>
    have hsome := h.isSome_of_lt (by omega)
    rcases eq_or_lt_of_le hle with rfl | hbeyond
    · exact ⟨c, mem_cons_self, hsome, rfl⟩
    obtain ⟨hsettled, hindex, hmore⟩ := stepForward_point hsized hsome
    rw [hsettled.isSome_of_lt (by omega)] at hmore
    obtain ⟨c', hc', hpoint⟩ := ih hsettled (by omega) (by omega)
    refine ⟨c', mem_cons_of_mem _ ?_, hpoint⟩
    unfold StepFlatForward
    rw [hmore, if_pos rfl]
    exact hc'

theorem mem_window_iff (hsized : Sized path) (h : Named path c) (hsome : (PointAt path c').isSome = true) :
    c' ∈ window path (RESNAP_WINDOW + 1) c ↔ index path c ≤ index path c' ∧ index path c' < index path c + windowSize path c := by
  have hmem : ∀ {n : Nat} {c : Cursor}, Settled path c →
      (c' ∈ window path n c ↔ index path c ≤ index path c' ∧ index path c' < index path c + n) := by
    intro n c hc
    constructor
    · exact index_of_mem_window hsized hc
    · rintro ⟨hle, hlt⟩
      obtain ⟨c'', hc'', hsome'', heq⟩ := window_reaches hsized hc hle hlt (index_lt hsome)
      rwa [index_inj hsome hsome'' heq.symm]
  unfold windowSize
  cases hc : (PointAt path c).isSome with
  | true => exact hmem (.inl hc)
  | false =>
    rw [if_neg Bool.false_ne_true]
    -- the first step finds no point: the walk is at the end of the route, or begins in an empty segment
    have hne : c' ≠ c := by
      rintro rfl
      rw [hc] at hsome
      cases hsome
    have hlt := index_lt hsome
    have hwindow : c' ∈ window path (RESNAP_WINDOW + 1) c ↔
        (StepFlatForward path c).2 = true ∧ c' ∈ window path RESNAP_WINDOW (StepFlatForward path c).1 := by
      rw [window, mem_cons, or_iff_right hne]
      split_ifs with hmore <;> simp [hmore]
    rw [hwindow]
    rcases lt_or_ge c.segmentIdx.toNat path.length with hinside | hend
    · have hzero : c.pointIdx = 0 := by
        rcases h with (hpoint | hend) | rfl
        · rw [hc] at hpoint
          cases hpoint
        · exact hend.2
        · rfl
      obtain ⟨hsettled, hindex, hmore⟩ := stepForward_empty hsized hinside hzero hc
      have hiff := hmem (n := RESNAP_WINDOW) hsettled
      rw [hindex] at hiff
      refine ⟨fun hin => hiff.1 hin.2, fun hin => ⟨hmore.trans (hsettled.isSome_of_lt ?_), hiff.2 hin⟩⟩
      omega
    · have hstop : (StepFlatForward path c).2 = false := by
        unfold StepFlatForward stepForward
        rw [if_pos hend]
      have hlast := length_le_index path (le_antisymm h.placed.1 hend)
      rw [hstop]
      exact ⟨fun hin => absurd hin.1 Bool.false_ne_true, fun hin => absurd hin.1 (by omega)⟩

end Window

/-! ### What is picked -/

section Picking

variable {F : Type} [Field F] [LinearOrder F] {path : Route F} {bot : Vector3 F} {c c' : Cursor} {p : Vector3 F} {cand : Candidate F}
  {s : DungeonFollowerState}

/-- A point of the window, at the cursor or behind it, in the snap range of the bot. -/
structure InSnap (path : Route F) (bot : Vector3 F) (c c' : Cursor) (p : Vector3 F) : Prop where
  point : PointAt path c' = some p
  near : Dist3DSq bot p ≤ RESNAP_RADIUS * RESNAP_RADIUS
  ahead : index path c ≤ index path c'
  windowed : index path c' < index path c + windowSize path c

theorem mem_candidates (hsized : Sized path) (h : Named path c) :
    cand ∈ candidates path bot c ↔ InSnap path bot c cand.toCursor cand.pos ∧ cand = candidateAt bot cand.toCursor cand.pos := by
  have hconsider : ∀ c', consider path bot c' = some cand ↔
      ∃ p, PointAt path c' = some p ∧ Dist3DSq bot p ≤ RESNAP_RADIUS * RESNAP_RADIUS ∧ candidateAt bot c' p = cand := by
    intro c'
    unfold consider
    simp only [bind_eq_some_iff, ite_none_left_eq_some, not_lt, some.injEq]
  unfold candidates
  rw [mem_filterMap]
  constructor
  · rintro ⟨c', hc', hcand⟩
    obtain ⟨p, hp, hnear, rfl⟩ := (hconsider c').1 hcand
    have hwindow := (mem_window_iff hsized h (by rw [hp]; rfl)).1 hc'
    exact ⟨⟨hp, hnear, hwindow.1, hwindow.2⟩, rfl⟩
  · rintro ⟨hin, heq⟩
    refine ⟨cand.toCursor, (mem_window_iff hsized h ?_).2 ⟨hin.ahead, hin.windowed⟩, ?_⟩
    · rw [hin.point]
      rfl
    · exact (hconsider _).2 ⟨cand.pos, hin.point, hin.near, heq.symm⟩

theorem InSnap.mem (hsized : Sized path) (h : Named path c) (hin : InSnap path bot c c' p) :
    candidateAt bot c' p ∈ candidates path bot c := (mem_candidates hsized h).2 ⟨hin, rfl⟩

theorem nearer_eq_closer : nearer (F := F) = closer tie Candidate.dist2 fun cand => cand.flatIdx.toNat := by
  funext a b
  unfold nearer closer
  rfl

/-- Three points in snap range, in the order of their flat indices and each about as near as the one before, the last farther than the
first all the same. -/
def Drifting (path : Route F) (bot : Vector3 F) (c : Cursor) : Prop :=
  ∃ c₁ p₁ c₂ p₂ c₃ p₃, InSnap path bot c c₁ p₁ ∧ InSnap path bot c c₂ p₂ ∧ InSnap path bot c c₃ p₃ ∧
    flatIdx c₁ ≤ flatIdx c₂ ∧ flatIdx c₂ ≤ flatIdx c₃ ∧
    |Dist3DSq bot p₁ - Dist3DSq bot p₂| ≤ tie ∧ |Dist3DSq bot p₂ - Dist3DSq bot p₃| ≤ tie ∧ Dist3DSq bot p₁ + tie < Dist3DSq bot p₃

theorem drifts_candidates (hsized : Sized path) (h : Named path c) :
    Drifts tie Candidate.dist2 (fun cand => cand.flatIdx.toNat) (candidates path bot c) ↔ Drifting path bot c := by
  constructor
  · rintro ⟨a, ha, b, hb, d, hd, hab, hbd, hnear, hnear', hfar⟩
    obtain ⟨hina, hadef⟩ := (mem_candidates hsized h).1 ha
    obtain ⟨hinb, hbdef⟩ := (mem_candidates hsized h).1 hb
    obtain ⟨hind, hddef⟩ := (mem_candidates hsized h).1 hd
    rw [hadef, hbdef] at hab hnear
    rw [hbdef, hddef] at hbd hnear'
    rw [hadef, hddef] at hfar
    exact ⟨_, _, _, _, _, _, hina, hinb, hind, le_iff_toNat_le.2 hab, le_iff_toNat_le.2 hbd, hnear, hnear', hfar⟩
  · rintro ⟨c₁, p₁, c₂, p₂, c₃, p₃, h₁, h₂, h₃, h₁₂, h₂₃, hnear, hnear', hfar⟩
    exact ⟨_, h₁.mem hsized h, _, h₂.mem hsized h, _, h₃.mem hsized h, le_iff_toNat_le.1 h₁₂, le_iff_toNat_le.1 h₂₃, hnear,
      hnear', hfar⟩

/-- A right answer of `Resnap`: a point in snap range and in sight that no other such point beats by more than the tie; or that there is
none, and then the state is left. -/
def Picks (path : Route F) (bot : Vector3 F) (sees : Vector3 F → Bool) (s : DungeonFollowerState) : Bool × DungeonFollowerState → Prop
  | (true, s') => s'.offPathTicks = 0 ∧ ∃ p, InSnap path bot s.toCursor s'.toCursor p ∧ sees p = true ∧
      ∀ c' q, InSnap path bot s.toCursor c' q → sees q = true → ¬ Dist3DSq bot q + tie < Dist3DSq bot p
  | (false, s') => s' = s ∧ ∀ c' q, InSnap path bot s.toCursor c' q → sees q = false

/-- What `Resnap` answers where its comparison is a strict weak order. -/
theorem Resnap_eq (sorting : StdSort (Candidate F)) (sees : Vector3 F → Bool) (hsized : Sized path) (h : Named path s.toCursor)
    (horder : StrictWeakOn nearer (candidates path bot s.toCursor)) :
    (∃ c' p, InSnap path bot s.toCursor c' p ∧ sees p = true ∧ Resnap sorting path bot sees s = (true, ⟨c', 0⟩) ∧
        ∀ c'' q, InSnap path bot s.toCursor c'' q → sees q = true → nearer (candidateAt bot c'' q) (candidateAt bot c' p) = false) ∨
      Resnap sorting path bot sees s = (false, s) ∧ ∀ c' q, InSnap path bot s.toCursor c' q → sees q = false := by
  unfold Resnap
  split_ifs with hend hempty
  · refine .inr ⟨rfl, fun c' q hin => ?_⟩
    have hlast := length_le_index path (le_antisymm h.placed.1 hend)
    have hsome : (PointAt path c').isSome = true := by
      rw [hin.point]
      rfl
    have hlt := index_lt hsome
    exact absurd hin.ahead (by omega)
  · refine .inr ⟨rfl, fun c' q hin => ?_⟩
    have hmem := hin.mem hsized h
    rw [isEmpty_iff.1 hempty] at hmem
    exact absurd hmem not_mem_nil
  · cases hfind : (sorting.sort nearer (candidates path bot s.toCursor)).find? fun cand => sees cand.pos with
    | some cand =>
      obtain ⟨hmem, hsees, hleast⟩ := sorting.find?_least horder hfind
      obtain ⟨hin, hcand⟩ := (mem_candidates hsized h).1 hmem
      refine .inl ⟨cand.toCursor, cand.pos, hin, hsees, rfl, fun c'' q hin' hsees' => ?_⟩
      rw [← hcand]
      exact hleast _ (hin'.mem hsized h) hsees'
    | none =>
      refine .inr ⟨rfl, fun c' q hin => ?_⟩
      exact sorting.find?_none horder hfind _ (hin.mem hsized h)

variable [IsStrictOrderedRing F]

theorem tie_nonneg : (0 : F) ≤ tie := by
  unfold tie
  positivity

theorem Resnap_picks (sorting : StdSort (Candidate F)) (sees : Vector3 F → Bool) (hsized : Sized path) (h : Named path s.toCursor)
    (horder : StrictWeakOn nearer (candidates path bot s.toCursor)) : Picks path bot sees s (Resnap sorting path bot sees s) := by
  rcases Resnap_eq sorting sees hsized h horder with ⟨c', p, hin, hsees, heq, hleast⟩ | ⟨heq, hnone⟩
  · rw [heq]
    refine ⟨rfl, p, hin, hsees, fun c'' q hin' hsees' hfar => ?_⟩
    have hbefore : closer tie Candidate.dist2 (fun cand => cand.flatIdx.toNat) (candidateAt bot c'' q) (candidateAt bot c' p) = true :=
      closer_far tie_nonneg hfar
    have hnot := hleast c'' q hin' hsees'
    rw [nearer_eq_closer, hbefore] at hnot
    cases hnot
  · rw [heq]
    exact ⟨rfl, hnone⟩

/-- `Resnap` sorts with a strict weak order, and picks rightly whatever is in sight, exactly where no three points drift. -/
theorem Resnap_nearest_iff (path : Route F) (hsized : Sized path) (bot : Vector3 F) (s : DungeonFollowerState)
    (h : Named path s.toCursor) :
    (StrictWeakOn nearer (candidates path bot s.toCursor) ∧
        ∀ (sorting : StdSort (Candidate F)) (sees : Vector3 F → Bool), Picks path bot sees s (Resnap sorting path bot sees s)) ↔
      ¬ Drifting path bot s.toCursor := by
  rw [← drifts_candidates hsized h, ← closer_strictWeakOn_iff tie_nonneg, ← nearer_eq_closer]
  exact ⟨fun hgood => hgood.1, fun horder => ⟨horder, fun sorting sees => Resnap_picks sorting sees hsized h horder⟩⟩

end Picking

namespace ResnapSample

def origin : Vector3 ℚ := ⟨0, 0, 0⟩

def fresh : DungeonFollowerState := ⟨⟨0, 0⟩, 0⟩

def along (xs : List ℚ) : PathSegment ℚ := { polyline := xs.map fun x => ⟨x, 0, 0⟩ }

def straight : Route ℚ := [along [4, 8], along [12]]

instance (path : Route ℚ) : Decidable (Sized path) := inferInstanceAs (Decidable (_ ∧ _))

instance (l : List (Candidate ℚ)) : Decidable (Drifts tie Candidate.dist2 (fun cand => cand.flatIdx.toNat) l) :=
  inferInstanceAs (Decidable (∃ a ∈ l, ∃ b ∈ l, ∃ c ∈ l, _))

theorem straight_sized : Sized straight := by decide

theorem fresh_named (path : Route ℚ) : Named path fresh.toCursor := .inr rfl

theorem Resnap_nearest_straight : StrictWeakOn nearer (candidates straight origin fresh.toCursor) ∧
      Picks straight origin (fun _ => true) fresh (Resnap (StdSort.insertion _) straight origin (fun _ => true) fresh) := by
  have hdrift : ¬ Drifting straight origin fresh.toCursor := by
    rw [← drifts_candidates straight_sized (fresh_named straight)]
    decide +kernel
  obtain ⟨horder, hpicks⟩ := (Resnap_nearest_iff straight straight_sized origin fresh (fresh_named straight)).2 hdrift
  exact ⟨horder, hpicks _ _⟩

/-- Three points hardly apart, the last of them at more than the tie from the first. -/
def crowded : Route ℚ := [along [0, 11 / 4096, 15 / 4096]]

/-- Each of the three comes before another. -/
theorem Resnap_crowded_cycle : ¬ StrictWeakOn nearer (candidates crowded origin fresh.toCursor) := by
  intro h
  have hcycle := h.trans (candidateAt origin ⟨0, 2⟩ ⟨15 / 4096, 0, 0⟩) (by decide +kernel) (candidateAt origin ⟨0, 1⟩ ⟨11 / 4096, 0, 0⟩)
    (by decide +kernel) (candidateAt origin ⟨0, 0⟩ ⟨0, 0, 0⟩) (by decide +kernel) (by decide +kernel) (by decide +kernel)
  have hfirst : nearer (candidateAt origin ⟨0, 2⟩ ⟨15 / 4096, 0, 0⟩) (candidateAt origin ⟨0, 0⟩ (⟨0, 0, 0⟩ : Vector3 ℚ)) = false := by
    decide +kernel
  rw [hfirst] at hcycle
  cases hcycle

end ResnapSample

end ComfyCraft.DungeonPathFollower
