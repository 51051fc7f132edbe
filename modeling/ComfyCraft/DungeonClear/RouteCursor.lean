import ComfyCraft.DungeonClear.Resnap

/-! Whatever calls follow on each other, the cursor of a route goes forward only, and leaves a jump behind only where the bot has been at
the place it jumps to. -/

namespace ComfyCraft.DungeonPathFollower

open Sorting List Runs Nat

inductive Call where
  | NextHop
  | SkipStrandedPoint
  | IsOffPath
  | Resnap
deriving DecidableEq

structure Tick (F : Type) where
  call : Call
  bot : Vector3 F
  sees : Vector3 F → Bool

/-- The follower, and where the bot has been at the calls so far. -/
structure Ride (F : Type) where
  state : DungeonFollowerState
  been : List (Vector3 F)

section Ride

variable {F : Type} [Field F] [LinearOrder F]

def Tick.move (sqrt : F → F) (sorting : StdSort (Candidate F)) (path : Route F) (s : DungeonFollowerState) (t : Tick F) :
    DungeonFollowerState :=
  match t.call with
  | .NextHop => (NextHop path t.bot s).2
  | .SkipStrandedPoint => (SkipStrandedPoint path t.bot s).2.2
  | .IsOffPath => (IsOffPath sqrt path t.bot s).2
  | .Resnap => (Resnap sorting path t.bot t.sees s).2

def Ride.step (sqrt : F → F) (sorting : StdSort (Candidate F)) (path : Route F) (r : Ride F) (t : Tick F) : Ride F :=
  ⟨t.move sqrt sorting path r.state, r.been ++ [t.bot]⟩

def Ride.fresh : Ride F := ⟨⟨⟨0, 0⟩, 0⟩, []⟩

/-- Some call was made with the bot at the point. -/
def Reached (been : List (Vector3 F)) (p : Vector3 F) : Prop := ∃ bot ∈ been, PointIsReached bot p = true

/-- What lies behind the cursor. -/
structure Ride.Safe (path : Route F) (r : Ride F) : Prop where
  named : Named path r.state.toCursor
  jumps : ∀ k p, IsJumpEnd path k p → k < index path r.state.toCursor → Reached r.been p

/-- Where `Resnap` is called, no three points drift, and each point in sight beyond a jump that is still to be made is beaten by one before
the jump's end. -/
def Ride.Fair (path : Route F) (r : Ride F) (t : Tick F) : Prop :=
  t.call = .Resnap → ¬ Drifting path t.bot r.state.toCursor ∧
    ∀ k p, IsJumpEnd path k p → index path r.state.toCursor ≤ k → ¬ Reached (r.been ++ [t.bot]) p →
      ∀ c q, InSnap path t.bot r.state.toCursor c q → t.sees q = true → k < index path c →
        ∃ c' q', InSnap path t.bot r.state.toCursor c' q' ∧ t.sees q' = true ∧ index path c' ≤ k ∧
          nearer (candidateAt t.bot c' q') (candidateAt t.bot c q) = true

end Ride

section Runs

variable {F : Type} [Field F] [LinearOrder F] {sqrt : F → F} {sorting : StdSort (Candidate F)} {path : Route F} {r : Ride F} {t : Tick F}

variable {been : List (Vector3 F)} {p : Vector3 F}

theorem Reached.append (h : Reached been p) (bot : Vector3 F) : Reached (been ++ [bot]) p := by
  obtain ⟨b, hb, hreached⟩ := h
  exact ⟨b, mem_append_left _ hb, hreached⟩

theorem Reached.here {bot : Vector3 F} (h : PointIsReached bot p = true) : Reached (been ++ [bot]) p :=
  ⟨bot, mem_append_right _ (mem_singleton_self _), h⟩

/-- A step that leads on, and past no jump that is still to be made. -/
def Leads (path : Route F) (r r' : Ride F) : Prop :=
  Named path r'.state.toCursor ∧ index path r.state.toCursor ≤ index path r'.state.toCursor ∧
    ∀ k p, IsJumpEnd path k p → index path r.state.toCursor ≤ k → k < index path r'.state.toCursor → Reached r'.been p

theorem Leads.same {r' : Ride F} (h : Named path r.state.toCursor)
    (hsame : r'.state.toCursor = r.state.toCursor) : Leads path r r' := by
  unfold Leads
  rw [hsame]
  exact ⟨h, le_refl _, fun k p _ hle hlt => absurd hlt (not_lt.2 hle)⟩

theorem Ride.fresh_safe (path : Route F) : (Ride.fresh : Ride F).Safe path where
  named := .inr rfl
  jumps k p _ hk := by
    have hzero : index path (Ride.fresh : Ride F).state.toCursor = 0 := by
      change Jagged.start (polylines path) 0 + 0 = 0
      simp
    rw [hzero] at hk
    exact absurd hk (not_lt_zero k)

variable [IsStrictOrderedRing F]

theorem step_leads (sqrt : F → F) (sorting : StdSort (Candidate F)) (hsized : Sized path) (h : Named path r.state.toCursor)
    (hfair : r.Fair path t) :
    Leads path r (r.step sqrt sorting path t) := by
  obtain ⟨call, bot, sees⟩ := t
  cases call with
  | NextHop =>
    obtain ⟨hsettled, hle, hreached⟩ := NextHop_passes hsized bot h
    exact ⟨.inl hsettled, hle, fun k p hjump hfrom hto => Reached.here (hreached k p hfrom hto hjump.point)⟩
  | SkipStrandedPoint =>
    rcases SkipStrandedPoint_steps hsized bot r.state with hsame | ⟨hsettled, hindex, hnone⟩
    · exact Leads.same h hsame
    refine ⟨.inl hsettled, le_of_lt (lt_of_lt_of_eq (lt_succ_self _) hindex.symm), fun k p hjump hfrom hto => ?_⟩
    have hk : k = index path r.state.toCursor := le_antisymm (le_of_lt_succ (hto.trans_eq hindex)) hfrom
    exact absurd (hk ▸ hjump) (hnone p)
  | IsOffPath => exact Leads.same h (IsOffPath_toCursor sqrt bot r.state)
  | Resnap =>
    obtain ⟨hdrift, hfair⟩ := hfair rfl
    have horder : StrictWeakOn nearer (candidates path bot r.state.toCursor) := by
      rw [nearer_eq_closer, closer_strictWeakOn_iff tie_nonneg, drifts_candidates hsized h]
      exact hdrift
    rcases Resnap_eq sorting sees hsized h horder with ⟨c, q, hin, hsees, heq, hleast⟩ | ⟨heq, -⟩
    · have hmoved : (r.step sqrt sorting path ⟨.Resnap, bot, sees⟩).state.toCursor = c := by
        change (Resnap sorting path bot sees r.state).2.toCursor = c
        rw [heq]
      unfold Leads
      rw [hmoved]
      refine ⟨.inl (.inl (by rw [hin.point]; rfl)), hin.ahead, fun k p hjump hfrom hto => ?_⟩
      by_contra hnot
      obtain ⟨c', q', hin', hsees', -, hbefore⟩ := hfair k p hjump hfrom hnot c q hin hsees hto
      rw [hleast c' q' hin' hsees'] at hbefore
      cases hbefore
    · refine Leads.same h ?_
      change (Resnap sorting path bot sees r.state).2.toCursor = _
      rw [heq]

theorem Ride.Safe.step (sqrt : F → F) (sorting : StdSort (Candidate F)) (hsized : Sized path) (h : r.Safe path)
    (hfair : r.Fair path t) :
    (r.step sqrt sorting path t).Safe path := by
  obtain ⟨hnamed, hle, hjumps⟩ := step_leads sqrt sorting hsized h.named hfair
  refine ⟨hnamed, fun k p hjump hk => ?_⟩
  rcases lt_or_ge k (index path r.state.toCursor) with hbehind | hahead
  · exact (h.jumps k p hjump hbehind).append t.bot
  · exact hjumps k p hjump hahead hk

theorem run_safe (sqrt : F → F) (sorting : StdSort (Candidate F)) (hsized : Sized path) {ticks : List (Tick F)}
    (h : Runs.Admitted (Ride.step sqrt sorting path) (Ride.Fair path) Ride.fresh ticks) :
    (Runs.run (Ride.step sqrt sorting path) Ride.fresh ticks).Safe path :=
  invariant (I := Ride.Safe path) (fun _ _ hsafe hfair => hsafe.step sqrt sorting hsized hfair) (Ride.fresh_safe path) h

/-- Every loop of the calls comes to its end, from wherever it begins; and along the calls the cursor never goes back, is at a point of the
route, at its end or still at its start, and has left no jump's last point behind that the bot has not reached. -/
theorem route_cursor_safe (sqrt : F → F) (sorting : StdSort (Candidate F)) (path : Route F) (hsized : Sized path)
    (ticks : List (Tick F))
    (h : Runs.Admitted (Ride.step sqrt sorting path) (Ride.Fair path) Ride.fresh ticks) :
    (∀ c : Cursor, isSpent path (skipSpent path c) = false ∧ ∀ bot, isPassed path bot (walkOn path bot c) = false) ∧
      ∀ n, let r := run (Ride.step sqrt sorting path) Ride.fresh (ticks.take n)
        let r' := run (Ride.step sqrt sorting path) Ride.fresh (ticks.take (n + 1))
        index path r.state.toCursor ≤ index path r'.state.toCursor ∧ Named path r'.state.toCursor ∧
          ∀ k p, IsJumpEnd path k p → k < index path r'.state.toCursor → Reached r'.been p := by
  refine ⟨fun c => ⟨skipSpent_ends hsized.1 c, fun bot => walkOn_ends hsized bot c⟩, fun n => ?_⟩
  have hsafe := run_safe sqrt sorting hsized (h.take (n + 1))
  refine ⟨?_, hsafe.named, hsafe.jumps⟩
  rcases lt_or_ge n ticks.length with hn | hn
  · obtain ⟨hfair, hstep⟩ := h.getElem? (getElem?_eq_getElem hn)
    rw [hstep]
    exact (step_leads sqrt sorting hsized (run_safe sqrt sorting hsized (h.take n)).named hfair).2.1
  · rw [take_of_length_le hn, take_of_length_le (le_succ_of_le hn)]

end Runs

namespace LipSample

def lip : Route ℚ := [{ polyline := [⟨0, 0, 0⟩, ⟨10, 0, 0⟩], jumpDown := true }, { polyline := [⟨10, 0, -20⟩, ⟨20, 0, -20⟩] }]

def root (q : ℚ) : ℚ := q

def go (call : Call) (x z : ℚ) : Tick ℚ := ⟨call, ⟨x, 0, z⟩, fun _ => true⟩

def jumped : List (Tick ℚ) := [go .NextHop 0 0, go .NextHop 10 0, go .Resnap 18 (-20)]

theorem lip_jumpEnd {k : Nat} {p : Vector3 ℚ} (h : IsJumpEnd lip k p) : k = 1 ∧ p = ⟨10, 0, 0⟩ := by
  obtain ⟨i, seg, hseg, hjump, hlast, hk⟩ := h
  match i with
  | 0 =>
    cases hseg
    cases hlast
    change 2 = k + 1 at hk
    exact ⟨by omega, rfl⟩
  | 1 =>
    cases hseg
    cases hjump
  | i + 2 => cases hseg

theorem lip_sized : Sized lip := by decide

theorem resnap_fair {r : Ride ℚ} {t : Tick ℚ} (hcursor : r.state.toCursor = ⟨1, 0⟩)
    (hdrift : ¬ Drifts tie Candidate.dist2 (fun cand => cand.flatIdx.toNat) (candidates lip t.bot ⟨1, 0⟩)) : r.Fair lip t := by
  intro _
  rw [hcursor]
  have hnamed : Named lip ⟨1, 0⟩ := .inl (.inl rfl)
  refine ⟨fun h => hdrift ((drifts_candidates lip_sized hnamed).2 h), fun k p hjump hle => ?_⟩
  rw [(lip_jumpEnd hjump).1] at hle
  exact absurd hle (by decide)

theorem jumped_fair : Runs.Admitted (Ride.step root (StdSort.insertion _) lip) (Ride.Fair lip) Ride.fresh jumped := by
  have hother : ∀ (r : Ride ℚ) (x z : ℚ), r.Fair lip (go .NextHop x z) := by
    intro r x z h
    cases h
  exact ⟨hother _ _ _, hother _ _ _, resnap_fair (by decide +kernel) (by decide +kernel), trivial⟩

theorem route_cursor_safe_jumped : Reached (jumped.map Tick.bot) (⟨10, 0, 0⟩ : Vector3 ℚ) := by
  have hrun := (route_cursor_safe root (StdSort.insertion _) lip lip_sized jumped jumped_fair).2 2
  exact hrun.2.2 1 ⟨10, 0, 0⟩ ⟨0, _, rfl, rfl, rfl, rfl⟩ (by decide +kernel)

/-- A bot beneath the lip takes up its route beyond the jump, and has never been at the lip. -/
theorem Resnap_passes_the_lip :
    let r := run (Ride.step root (StdSort.insertion _) lip) Ride.fresh [go .Resnap 18 (-20)]
    IsJumpEnd lip 1 ⟨10, 0, 0⟩ ∧ 1 < index lip r.state.toCursor ∧ ¬ Reached r.been (⟨10, 0, 0⟩ : Vector3 ℚ) := by
  refine ⟨⟨0, _, rfl, rfl, rfl, rfl⟩, by decide +kernel, ?_⟩
  rintro ⟨bot, hbot, hreached⟩
  cases mem_singleton.1 hbot
  revert hreached
  decide +kernel

end LipSample

end ComfyCraft.DungeonPathFollower
