import ComfyCraft.Lib.Runs
import ComfyCraft.Lib.Polyline
import ComfyCraft.Lib.Text
import Mathlib.Analysis.Complex.Norm

/-! What the route recorder makes of a leg: the loops are cut out of the samples, and the rest is thinned to anchors. Numbers are
those of an ordered field, and `sqrt` is a parameter. -/

namespace ComfyCraft.DcRouteRecorder

open List Bool Loop Real

structure Sample3 (F : Type) where
  x : F
  y : F
  z : F
deriving DecidableEq

section Recorder

variable {F : Type} [Field F] [LinearOrder F] (sqrt : F → F)

/-- `kLoopRadius`, and so on. -/
def kLoopRadius : F := 8

def kLoopRise : F := 4

def kAnchorStep : F := 15

def kAnchorRise : F := 3

def Dist2D (a b : Sample3 F) : F := sqrt ((a.x - b.x) * (a.x - b.x) + (a.y - b.y) * (a.y - b.y))

/-- The test of the inner loop: standing where one has been, on the same floor. -/
def isReturn (a b : Sample3 F) : Bool := Dist2D sqrt a b ≤ kLoopRadius && |a.z - b.z| ≤ kLoopRise

/-- The inner loop, from `j` down to `i + 2`: the place before the first `j` that passes, or `i`. -/
def jumpFrom (near : Nat → Bool) (i : Nat) : Nat → Nat
  | 0 => i
  | j + 1 => if i + 1 < j + 1 then (if near j then j else jumpFrom near i j) else i

structure Cutting (F : Type) where
  i : Nat
  out : List (Sample3 F)

def goesOn (pts : List (Sample3 F)) (s : Cutting F) : Bool := s.i < pts.length

def cutTurn (pts : List (Sample3 F)) (s : Cutting F) : Cutting F :=
  match pts[s.i]? with
  | none => s
  | some p =>
    let jump := jumpFrom (fun j => pts[j]?.any (isReturn sqrt p)) s.i pts.length
    { i := if s.i < jump then jump + 1 else s.i + 1
      out := s.out ++ [p] }

def CutLoops (pts : List (Sample3 F)) : List (Sample3 F) := (Loop.run (goesOn pts) (cutTurn sqrt pts) pts.length ⟨0, []⟩).out

/-- The loop of `Thin` at a point with a next one; `kept` is the last anchor, `run` the way since. -/
def thinLoop (kept prev : Sample3 F) (run : F) : List (Sample3 F) → List (Sample3 F)
  | cur :: next :: rest =>
    let run := run + Dist2D sqrt prev cur
    let ax := cur.x - prev.x
    let ay := cur.y - prev.y
    let bx := next.x - cur.x
    let b_y := next.y - cur.y
    let la := sqrt (ax * ax + ay * ay)
    let lb := sqrt (bx * bx + b_y * b_y)
    let corner : Bool := 1 / 10 < la && 1 / 10 < lb && (ax * bx + ay * b_y) / (la * lb) < 82 / 100
    let climbed : Bool := kAnchorRise < |cur.z - kept.z|
    if kAnchorStep ≤ run || corner || climbed then cur :: thinLoop cur cur 0 (next :: rest)
    else thinLoop kept cur run (next :: rest)
  | last => last

def Thin : List (Sample3 F) → List (Sample3 F)
  | first :: second :: rest => first :: thinLoop sqrt first first 0 (second :: rest)
  | _ => []

end Recorder

/-! ### Cutting -/

/-- What cutting leaves of a line of points: behind each that is kept all up to the last return to it is left out. -/
inductive Cut {α : Type} (near : α → α → Bool) : List α → List α → Prop
  | nil : Cut near [] []
  | keep {p : α} {skipped rest out : List α} (hback : ∀ q ∈ skipped.getLast?, near p q = true) (hfar : ∀ q ∈ rest, near p q = false)
      (h : Cut near rest out) : Cut near (p :: (skipped ++ rest)) (p :: out)

section Cut

variable {α : Type} {near : α → α → Bool} {pts out : List α}

section

variable (h : Cut near pts out)
include h

theorem Cut.sublist : out.Sublist pts := by
  induction h with
  | nil => exact .slnil
  | keep _ _ _ ih => exact (ih.trans (sublist_append_right _ _)).cons_cons _

theorem Cut.head? : out.head? = pts.head? := by
  cases h with
  | nil => rfl
  | keep => rfl

theorem Cut.pairwise : out.Pairwise fun a b => near a b = false := by
  induction h with
  | nil => exact .nil
  | keep _ hfar h ih => exact .cons (fun q hq => hfar q (h.sublist.subset hq)) ih

/-- Where nobody comes back nothing is cut. -/
theorem Cut.eq_of_pairwise (hpts : pts.Pairwise fun a b => near a b = false) : out = pts := by
  induction h with
  | nil => rfl
  | @keep p skipped rest out hback hfar h ih =>
    obtain ⟨hp, hrest⟩ := pairwise_cons.1 hpts
    have hnone : skipped = [] := by
      by_contra hne
      have hlast := getLast_mem hne
      have hnear := hback _ (getLast?_eq_some_getLast hne)
      rw [hp _ (mem_append_left _ hlast)] at hnear
      cases hnear
    subst hnone
    rw [nil_append, ih hrest]

/-- Neighbours in what is left were neighbours, or the second came right behind a return to the first. -/
theorem Cut.isChain {next : α → α → Prop} (hpts : pts.IsChain next) :
    out.IsChain fun a b => next a b ∨ ∃ q, near a q = true ∧ next q b := by
  induction h with
  | nil => exact .nil
  | @keep p skipped rest out hback _ h ih =>
    have hrest : rest.IsChain next := (isChain_append.1 (isChain_cons.1 hpts).2).2.1
    refine isChain_cons.2 ⟨fun b hb => ?_, ih hrest⟩
    rw [h.head?] at hb
    obtain ⟨hfirst, happend⟩ := isChain_cons.1 hpts
    rcases eq_nil_or_concat' skipped with rfl | ⟨front, q, rfl⟩
    · exact .inl (hfirst b hb)
    · have hq : q ∈ (front ++ [q]).getLast? := by simp
      exact .inr ⟨q, hback q hq, (isChain_append.1 happend).2.2 q hq b hb⟩

end

end Cut

theorem jumpFrom_spec (near : Nat → Bool) (i j : Nat) :
    (jumpFrom near i j = i ∨ i < jumpFrom near i j ∧ jumpFrom near i j < j ∧ near (jumpFrom near i j) = true) ∧
      ∀ k, jumpFrom near i j < k → k < j → near k = false := by
  induction j with
  | zero => exact ⟨.inl rfl, fun k _ hk => absurd hk (Nat.not_lt_zero k)⟩
  | succ j ih =>
    unfold jumpFrom
    split
    · split_ifs with hj
      · exact ⟨.inr ⟨by omega, by omega, hj⟩, fun k h1 h2 => by omega⟩
      obtain ⟨hjump, hrest⟩ := ih
      refine ⟨hjump.imp_right fun h => ⟨h.1, by omega, h.2.2⟩, fun k h1 h2 => ?_⟩
      rcases Nat.lt_succ_iff_lt_or_eq.1 h2 with h2 | rfl
      · exact hrest k h1 h2
      · exact eq_false_iff.2 hj
    · exact ⟨.inl rfl, fun k h1 h2 => by omega⟩

section Loop

variable {F : Type} [Field F] [LinearOrder F] {sqrt : F → F} {pts : List (Sample3 F)}

/-- A turn keeps the next point and goes on behind the last return to it. -/
theorem cutTurn_spec (sqrt : F → F) {s : Cutting F} (h : goesOn pts s = true) :
    ∃ p skipped, pts.drop s.i = p :: (skipped ++ pts.drop (cutTurn sqrt pts s).i) ∧ (cutTurn sqrt pts s).out = s.out ++ [p] ∧
      s.i < (cutTurn sqrt pts s).i ∧ (∀ q ∈ skipped.getLast?, isReturn sqrt p q = true) ∧
      ∀ q ∈ pts.drop (cutTurn sqrt pts s).i, isReturn sqrt p q = false := by
  have hi : s.i < pts.length := of_decide_eq_true h
  have hp : pts[s.i]? = some pts[s.i] := getElem?_eq_getElem hi
  have hdrop : pts.drop s.i = pts[s.i] :: pts.drop (s.i + 1) := drop_eq_getElem_cons hi
  unfold cutTurn
  rw [hp]
  dsimp only
  obtain ⟨hjump, hafter⟩ := jumpFrom_spec (fun j => pts[j]?.any (isReturn sqrt pts[s.i])) s.i pts.length
  set jump := jumpFrom (fun j => pts[j]?.any (isReturn sqrt pts[s.i])) s.i pts.length
  have hfar : ∀ n, jump < n → ∀ q ∈ pts.drop n, isReturn sqrt pts[s.i] q = false := by
    intro n hn q hq
    obtain ⟨k, hk, rfl⟩ := mem_iff_getElem.1 hq
    rw [length_drop] at hk
    have hnot := hafter (n + k) (by omega) (by omega)
    rw [getElem?_eq_getElem (by omega)] at hnot
    rw [getElem_drop]
    exact hnot
  rcases hjump with hnone | ⟨hlt, hlength, hnear⟩
  · rw [if_neg (by omega)]
    exact ⟨pts[s.i], [], hdrop, rfl, by omega, fun _ hq => absurd hq (by simp), hfar _ (by omega)⟩
  rw [if_pos hlt]
  refine ⟨pts[s.i], (pts.drop (s.i + 1)).take (jump - s.i), ?_, rfl, by omega, fun q hq => ?_, hfar _ (by omega)⟩
  · rw [hdrop]
    have hsplit := take_append_drop (jump - s.i) (pts.drop (s.i + 1))
    rw [drop_drop, show s.i + 1 + (jump - s.i) = jump + 1 by omega] at hsplit
    rw [hsplit]
  · have hlast : ((pts.drop (s.i + 1)).take (jump - s.i)).getLast? = some pts[jump] := by
      rw [getLast?_eq_getElem?, length_take, length_drop,
        show min (jump - s.i) (pts.length - (s.i + 1)) - 1 = jump - s.i - 1 by omega,
        getElem?_take_of_lt (by omega), getElem?_drop, show s.i + 1 + (jump - s.i - 1) = jump by omega,
        getElem?_eq_getElem hlength]
    rw [hlast] at hq
    cases hq
    rw [getElem?_eq_getElem hlength] at hnear
    exact hnear

/-- As many turns as there are points are enough. -/
theorem CutLoops_ends (sqrt : F → F) (pts : List (Sample3 F)) :
    goesOn pts (Loop.run (goesOn pts) (cutTurn sqrt pts) pts.length ⟨0, []⟩) = false := by
  refine ends (I := fun _ => True) (m := fun s => pts.length - s.i) (fun _ _ _ => trivial) (fun s _ hs => ?_) trivial (Nat.sub_le _ _)
  obtain ⟨p, skipped, -, -, hlt, -⟩ := cutTurn_spec sqrt hs
  have hi : s.i < pts.length := of_decide_eq_true hs
  omega

theorem CutLoops_cut (sqrt : F → F) (pts : List (Sample3 F)) : Cut (isReturn sqrt) pts (CutLoops sqrt pts) := by
  have hrun : ∀ fuel (s : Cutting F), goesOn pts (run (goesOn pts) (cutTurn sqrt pts) fuel s) = false →
      ∃ out, (run (goesOn pts) (cutTurn sqrt pts) fuel s).out = s.out ++ out ∧ Cut (isReturn sqrt) (pts.drop s.i) out := by
    have hstop : ∀ s : Cutting F, goesOn pts s = false → ∃ out, s.out = s.out ++ out ∧ Cut (isReturn sqrt) (pts.drop s.i) out := by
      intro s hs
      have hi : ¬ s.i < pts.length := of_decide_eq_false hs
      rw [drop_eq_nil_of_le (by omega)]
      exact ⟨[], (append_nil _).symm, .nil⟩
    intro fuel
    induction fuel with
    | zero => exact hstop
    | succ fuel ih =>
      intro s hend
      by_cases hs : goesOn pts s = true
      · unfold run at hend ⊢
        rw [if_pos hs] at hend ⊢
        obtain ⟨out, hout, hcut⟩ := ih _ hend
        obtain ⟨p, skipped, hdrop, hkept, -, hback, hfar⟩ := cutTurn_spec sqrt hs
        refine ⟨p :: out, ?_, ?_⟩
        · rw [hout, hkept, append_assoc]
          rfl
        · rw [hdrop]
          exact .keep hback hfar hcut
      · rw [not_eq_true] at hs
        rw [run_of_ended hs]
        exact hstop s hs
  obtain ⟨out, hout, hcut⟩ := hrun pts.length ⟨0, []⟩ (CutLoops_ends sqrt pts)
  unfold CutLoops
  rw [hout]
  exact hcut

end Loop

/-! ### Distances -/

theorem Dist2D_eq (a b : Sample3 ℝ) : Dist2D Real.sqrt a b = ‖(⟨a.x, a.y⟩ : ℂ) - ⟨b.x, b.y⟩‖ := by
  rw [Complex.norm_def, Complex.normSq_apply]
  rfl

theorem isDistance_Dist2D : Polyline.IsDistance (Dist2D Real.sqrt) where
  nonneg a b := sqrt_nonneg _
  triangle a b c := by
    rw [Dist2D_eq, Dist2D_eq, Dist2D_eq]
    exact norm_sub_le_norm_sub_add_norm_sub _ _ _

/-- Cutting the loops out of a leg ends, keeps some of the samples and the first, leaves no return, makes the way no longer and no
step longer than a return and a step, and done again changes nothing. -/
theorem CutLoops_cuts (pts : List (Sample3 ℝ)) :
    goesOn pts (Loop.run (goesOn pts) (cutTurn Real.sqrt pts) pts.length ⟨0, []⟩) = false ∧
      (CutLoops Real.sqrt pts).Sublist pts ∧ (CutLoops Real.sqrt pts).head? = pts.head? ∧
      (CutLoops Real.sqrt pts).Pairwise (fun a b => ¬ (Dist2D Real.sqrt a b ≤ kLoopRadius ∧ |a.z - b.z| ≤ kLoopRise)) ∧
      Polyline.length (Dist2D Real.sqrt) (CutLoops Real.sqrt pts) ≤ Polyline.length (Dist2D Real.sqrt) pts ∧
      (∀ step, pts.IsChain (fun a b => Dist2D Real.sqrt a b ≤ step) →
        (CutLoops Real.sqrt pts).IsChain fun a b => Dist2D Real.sqrt a b ≤ kLoopRadius + step) ∧
      CutLoops Real.sqrt (CutLoops Real.sqrt pts) = CutLoops Real.sqrt pts := by
  have hcut := CutLoops_cut sqrt pts
  refine ⟨CutLoops_ends _ pts, hcut.sublist, hcut.head?, ?_, Polyline.length_mono isDistance_Dist2D hcut.sublist, fun step hstep => ?_,
    (CutLoops_cut sqrt _).eq_of_pairwise hcut.pairwise⟩
  · refine hcut.pairwise.imp fun hnot hnear => ?_
    unfold isReturn at hnot
    simp [hnear] at hnot
  refine (hcut.isChain hstep).imp fun a b hab => ?_
  have hradius : (0 : ℝ) ≤ kLoopRadius := by norm_num [kLoopRadius]
  rcases hab with hnext | ⟨q, hnear, hnext⟩
  · linarith
  unfold isReturn at hnear
  rw [and_eq_true, decide_eq_true_eq] at hnear
  exact (isDistance_Dist2D.triangle a q b).trans (add_le_add hnear.1 hnext)

theorem CutLoops_cuts_there_and_back :
    (CutLoops Real.sqrt [⟨0, 0, 0⟩, ⟨10, 0, 0⟩, ⟨4, 0, 0⟩]).IsChain fun a b => Dist2D Real.sqrt a b ≤ kLoopRadius + 10 := by
  refine (CutLoops_cuts [⟨0, 0, 0⟩, ⟨10, 0, 0⟩, ⟨4, 0, 0⟩]).2.2.2.2.2.1 10 ?_
  rw [isChain_cons_cons, isChain_cons_cons]
  refine ⟨sqrt_le_iff.2 ?_, sqrt_le_iff.2 ?_, .singleton _⟩
  · norm_num
  · norm_num

end ComfyCraft.DcRouteRecorder
