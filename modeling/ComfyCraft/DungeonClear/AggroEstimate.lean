import ComfyCraft.Lib.UnionFind
import Mathlib.Algebra.BigOperators.Fin
import Mathlib.Analysis.Real.Sqrt
import Mathlib.Data.UInt

/-! How many mobs a pull on one of them would bring: those that would notice the fight, one call for help from these, and
the packs of both. Places and reaches are exact. -/

namespace ComfyCraft.DungeonClearMath

open List UInt32 UnionFind

structure DynPullMob where
  x : ℚ
  y : ℚ
  z : ℚ
  chainEligible : Bool
  packId : UInt32
  aggroReach : ℚ
  patroller : Bool
  elite : Bool

structure AggroTuning where
  combatSpread : ℚ
  assistRadius : ℚ
  zTolerance : ℚ
  excludeLonePatrollers : Bool

structure AggroCount (n : Nat) where
  count : UInt32
  weightThirds : UInt32
  counted : List (Fin n)

section Estimate

variable {n : Nat} (mobs : Fin n → DynPullMob) (tuning : AggroTuning)

def eligible (i : Fin n) : Bool :=
  (mobs i).chainEligible && !(tuning.excludeLonePatrollers && (mobs i).patroller && (mobs i).packId = 0)

/-- `dist2d(a, b) <= r`; the distance itself need not be rational, its square is. -/
def dist2dWithin (a b : Fin n) (r : ℚ) : Bool :=
  let dx := (mobs a).x - (mobs b).x
  let dy := (mobs a).y - (mobs b).y
  0 ≤ r && dx * dx + dy * dy ≤ r * r

def sameLevel (a b : Fin n) : Bool := |(mobs a).z - (mobs b).z| ≤ tuning.zTolerance

def packPairs : List (Fin n × Fin n) :=
  ((List.finRange n).flatMap fun i => ((List.finRange n).filter (i < ·)).map fun j => (i, j)).filter fun ij =>
    (mobs ij.1).packId ≠ 0 && (mobs ij.1).packId = (mobs ij.2).packId

/-- The state of the loops; a search changes the parents, too. -/
structure Marks (n : Nat) where
  parent : Fin n → Fin n
  inSet : Fin n → Bool

variable (target : Fin n) (s : Marks n)

def Marks.add (i : Fin n) : Marks n := { s with inSet := Function.update s.inSet i true }

/-- `find`, with the state it leaves. -/
def Marks.find (i : Fin n) : Marks n × Fin n :=
  ({ s with parent := (UnionFind.find s.parent i).1 }, (UnionFind.find s.parent i).2)

def seedTurn (target targetRoot : Fin n) (s : Marks n) (i : Fin n) : Marks n :=
  let found := s.find i
  if found.2 = targetRoot then found.1.add i
  else if eligible mobs tuning i && sameLevel mobs tuning i target &&
      dist2dWithin mobs i target ((mobs i).aggroReach + tuning.combatSpread) then found.1.add i
  else found.1

def seedLoop : Marks n :=
  let found := (⟨UnionFind.uniteAll id (packPairs mobs), fun _ => false⟩ : Marks n).find target
  (List.finRange n).foldl (seedTurn mobs tuning target found.2) found.1

def assistTurn (seed : Fin n → Bool) (s : Marks n) (j : Fin n) : Marks n :=
  if seed j || !eligible mobs tuning j then s
  else if (List.finRange n).any fun i => seed i && (sameLevel mobs tuning i j && dist2dWithin mobs i j tuning.assistRadius) then s.add j
  else s

/-- The calls for help go by a copy of the marks, so that they do not spread. -/
def assistLoop : Marks n := (List.finRange n).foldl (assistTurn mobs tuning s.inSet) s

def packTurn (r : Fin n) (s : Marks n) (k : Fin n) : Marks n :=
  let found := s.find k
  if found.2 = r then found.1.add k else found.1

def closureTurn (i : Fin n) : Marks n :=
  if !s.inSet i || (mobs i).packId = 0 then s
  else
    let found := s.find i
    (List.finRange n).foldl (packTurn found.2) found.1

def closureLoop : Marks n := (List.finRange n).foldl (closureTurn mobs) s

def weight (i : Fin n) : Nat := if (mobs i).elite then 3 else 1

def countTurn (c : AggroCount n) (i : Fin n) : AggroCount n :=
  if s.inSet i then ⟨c.count + 1, c.weightThirds + UInt32.ofNat (weight mobs i), c.counted ++ [i]⟩ else c

def EstimateAggroCount (targetIdx : Nat) : AggroCount n :=
  if h : targetIdx < n then
    let s := closureLoop mobs (assistLoop mobs tuning (seedLoop mobs tuning ⟨targetIdx, h⟩))
    (List.finRange n).foldl (countTurn mobs s) ⟨0, 0, []⟩
  else ⟨0, 0, []⟩

/-! ### The sets -/

def SamePack (i k : Fin n) : Prop := i = k ∨ (mobs i).packId ≠ 0 ∧ (mobs i).packId = (mobs k).packId

noncomputable def dist2d (a b : Fin n) : ℝ :=
  Real.sqrt (((mobs a).x - (mobs b).x : ℚ) ^ 2 + ((mobs a).y - (mobs b).y : ℚ) ^ 2)

def SameLevel (a b : Fin n) : Prop := |(mobs a).z - (mobs b).z| ≤ tuning.zTolerance

/-- Who joins a fight on their own account or is called: not the lone patrollers that are waited out. -/
def Eligible (i : Fin n) : Prop :=
  (mobs i).chainEligible = true ∧ ¬ (tuning.excludeLonePatrollers = true ∧ (mobs i).patroller = true ∧ (mobs i).packId = 0)

def Seeds : Set (Fin n) :=
  {i | SamePack mobs target i} ∪
    {i | Eligible mobs tuning i ∧ SameLevel mobs tuning i target ∧
      dist2d mobs i target ≤ ((mobs i).aggroReach + tuning.combatSpread : ℚ)}

def Assisting : Set (Fin n) :=
  {j | Eligible mobs tuning j ∧ ∃ i ∈ Seeds mobs tuning target, SameLevel mobs tuning i j ∧ dist2d mobs i j ≤ tuning.assistRadius}

def Counted : Set (Fin n) :=
  {k | ∃ i ∈ Seeds mobs tuning target ∪ Assisting mobs tuning target, SamePack mobs i k}

open Classical in
/-- The mobs that a pull at an index brings, none when there is no mob at it. -/
noncomputable def pulled (targetIdx : Nat) : Finset (Fin n) :=
  Finset.univ.filter fun k => ∃ target : Fin n, target.val = targetIdx ∧ k ∈ Counted mobs tuning target

end Estimate

/-- Another tuning that reaches at least as far and waits out no more. -/
structure AggroTuning.Wider (tuning tuning' : AggroTuning) : Prop where
  combatSpread : tuning.combatSpread ≤ tuning'.combatSpread
  assistRadius : tuning.assistRadius ≤ tuning'.assistRadius
  zTolerance : tuning.zTolerance ≤ tuning'.zTolerance
  excludeLonePatrollers : tuning'.excludeLonePatrollers = true → tuning.excludeLonePatrollers = true

section Sets

variable {n : Nat} {mobs : Fin n → DynPullMob} {tuning : AggroTuning}

theorem samePack_equivalence (mobs : Fin n → DynPullMob) : Equivalence (SamePack mobs) where
  refl i := .inl rfl
  symm := by
    rintro i k (rfl | ⟨hne, heq⟩)
    · exact .inl rfl
    · exact .inr ⟨heq ▸ hne, heq.symm⟩
  trans := by
    rintro i k l (rfl | ⟨hne, heq⟩) (rfl | ⟨hne', heq'⟩)
    · exact .inl rfl
    · exact .inr ⟨hne', heq'⟩
    · exact .inr ⟨hne, heq⟩
    · exact .inr ⟨hne, heq.trans heq'⟩

variable {i a b j k target : Fin n} {s : Marks n}

theorem eligible_iff : eligible mobs tuning i = true ↔ Eligible mobs tuning i := by
  unfold eligible Eligible
  rw [Bool.and_eq_true, Bool.not_eq_true', Bool.eq_false_iff, Ne, Bool.and_eq_true, Bool.and_eq_true, decide_eq_true_iff, and_assoc]

theorem sameLevel_iff : sameLevel mobs tuning a b = true ↔ SameLevel mobs tuning a b := decide_eq_true_iff

theorem dist2dWithin_iff {r : ℚ} : dist2dWithin mobs a b r = true ↔ dist2d mobs a b ≤ r := by
  unfold dist2dWithin dist2d
  simp only [Bool.and_eq_true, decide_eq_true_eq]
  constructor
  · rintro ⟨hr, hle⟩
    refine Real.sqrt_le_iff.2 ⟨by exact_mod_cast hr, ?_⟩
    have hcast : ((((mobs a).x - (mobs b).x) * ((mobs a).x - (mobs b).x) +
        ((mobs a).y - (mobs b).y) * ((mobs a).y - (mobs b).y) : ℚ) : ℝ) ≤ ((r * r : ℚ) : ℝ) := by exact_mod_cast hle
    push_cast at hcast ⊢
    nlinarith
  · intro h
    obtain ⟨hr, hle⟩ := Real.sqrt_le_iff.1 h
    refine ⟨by exact_mod_cast hr, ?_⟩
    have hcast : ((((mobs a).x - (mobs b).x) * ((mobs a).x - (mobs b).x) +
        ((mobs a).y - (mobs b).y) * ((mobs a).y - (mobs b).y) : ℚ) : ℝ) ≤ ((r * r : ℚ) : ℝ) := by
      push_cast at hle ⊢
      nlinarith
    exact_mod_cast hcast

/-! ### The packs -/

theorem mem_packPairs : (i, j) ∈ packPairs mobs ↔ i < j ∧ (mobs i).packId ≠ 0 ∧ (mobs i).packId = (mobs j).packId := by
  simp [packPairs]

def packRoot (mobs : Fin n → DynPullMob) (i : Fin n) : Fin n := UnionFind.root (UnionFind.uniteAll id (packPairs mobs)) i

theorem packRoot_eq_iff : packRoot mobs i = packRoot mobs k ↔ SamePack mobs i k := by
  refine root_uniteAll (samePack_equivalence mobs) (fun ij hij => ?_) (fun a b hab => ?_) i k
  · exact .inr (mem_packPairs.1 hij).2
  rcases hab with rfl | ⟨hne, heq⟩
  · exact .inl rfl
  rcases lt_trichotomy a b with hlt | rfl | hgt
  · exact .inr (.inl (mem_packPairs.2 ⟨hlt, hne, heq⟩))
  · exact .inl rfl
  · exact .inr (.inr (mem_packPairs.2 ⟨hgt, heq ▸ hne, heq.symm⟩))

/-- However the searches have changed the parents, the roots are those of the packs. -/
structure Packed (mobs : Fin n → DynPullMob) (s : Marks n) : Prop where
  forest : UnionFind.IsForest s.parent
  root : ∀ i, UnionFind.root s.parent i = packRoot mobs i

theorem Packed.add (h : Packed mobs s) (i : Fin n) : Packed mobs (s.add i) := ⟨h.forest, h.root⟩

theorem Packed.find (h : Packed mobs s) (i : Fin n) :
    Packed mobs (s.find i).1 ∧ (s.find i).1.inSet = s.inSet ∧ (s.find i).2 = packRoot mobs i := by
  obtain ⟨hforest, hroots, hroot⟩ := find_spec h.forest i
  exact ⟨⟨hforest, fun b => (hroots b).trans (h.root b)⟩, rfl, hroot.trans (h.root i)⟩

theorem add_inSet : (s.add i).inSet k = true ↔ s.inSet k = true ∨ k = i := by
  unfold Marks.add
  dsimp only
  by_cases hki : k = i
  · rw [hki, Function.update_self]
    simp
  · rw [Function.update_of_ne hki]
    simp [hki]

/-! ### The loops -/

/-- A loop over mobs, each turn of which marks its own mob or none, marks those for which it does. -/
theorem foldl_marks {turn : Marks n → Fin n → Marks n} {c : Fin n → Prop}
    (hturn : ∀ s i, Packed mobs s → Packed mobs (turn s i) ∧ ∀ k, (turn s i).inSet k = true ↔ s.inSet k = true ∨ k = i ∧ c i) (hs : Packed mobs s) (l : List (Fin n)) :
    Packed mobs (l.foldl turn s) ∧ ∀ k, (l.foldl turn s).inSet k = true ↔ s.inSet k = true ∨ k ∈ l ∧ c k := by
  induction l generalizing s with
  | nil => exact ⟨hs, fun k => by simp⟩
  | cons i l ih =>
    obtain ⟨hpacked, hmarks⟩ := hturn s i hs
    obtain ⟨hend, hall⟩ := ih hpacked
    refine ⟨hend, fun k => ?_⟩
    rw [foldl_cons, hall, hmarks, mem_cons]
    constructor
    · rintro ((hk | ⟨rfl, hc⟩) | ⟨hk, hc⟩)
      · exact .inl hk
      · exact .inr ⟨.inl rfl, hc⟩
      · exact .inr ⟨.inr hk, hc⟩
    · rintro (hk | ⟨rfl | hk, hc⟩)
      · exact .inl (.inl hk)
      · exact .inl (.inr ⟨rfl, hc⟩)
      · exact .inr ⟨hk, hc⟩

theorem seedLoop_spec (mobs : Fin n → DynPullMob) (tuning : AggroTuning) (target : Fin n) :
    Packed mobs (seedLoop mobs tuning target) ∧
      ∀ i, (seedLoop mobs tuning target).inSet i = true ↔ i ∈ Seeds mobs tuning target := by
  have hstart : Packed mobs ⟨uniteAll id (packPairs mobs), fun _ => false⟩ :=
    ⟨uniteAll_forest isForest_id _, fun _ => rfl⟩
  obtain ⟨hpacked, hnone, hroot⟩ := hstart.find target
  have hturn : ∀ (s : Marks n) (i : Fin n), Packed mobs s → Packed mobs (seedTurn mobs tuning target (packRoot mobs target) s i) ∧
      ∀ k, (seedTurn mobs tuning target (packRoot mobs target) s i).inSet k = true ↔
        s.inSet k = true ∨ k = i ∧ i ∈ Seeds mobs tuning target := by
    intro s i hs
    obtain ⟨hfound, hsame, hi⟩ := hs.find i
    have hseed : i ∈ Seeds mobs tuning target ↔ packRoot mobs i = packRoot mobs target ∨
        (eligible mobs tuning i && sameLevel mobs tuning i target &&
          dist2dWithin mobs i target ((mobs i).aggroReach + tuning.combatSpread)) = true := by
      rw [Bool.and_eq_true, Bool.and_eq_true, eligible_iff, sameLevel_iff, dist2dWithin_iff, and_assoc, eq_comm, packRoot_eq_iff]
      rfl
    unfold seedTurn
    dsimp only
    rw [hi, hseed]
    split_ifs with hpack hnear
    · refine ⟨hfound.add i, fun k => ?_⟩
      rw [add_inSet, hsame]
      simp [hpack]
    · refine ⟨hfound.add i, fun k => ?_⟩
      rw [add_inSet, hsame]
      simp only [hnear, or_true, and_true]
    · refine ⟨hfound, fun k => ?_⟩
      rw [hsame, or_iff_left]
      rintro ⟨-, hroot | hreach⟩
      · exact hpack hroot
      · exact hnear hreach
  unfold seedLoop
  dsimp only
  rw [hroot]
  obtain ⟨hend, hall⟩ := foldl_marks hturn hpacked (finRange n)
  refine ⟨hend, fun i => ?_⟩
  rw [hall, hnone]
  simp

section

variable (hs : Packed mobs s)
include hs

theorem assistLoop_spec (hseeds : ∀ i, s.inSet i = true ↔ i ∈ Seeds mobs tuning target) :
    Packed mobs (assistLoop mobs tuning s) ∧
      ∀ i, (assistLoop mobs tuning s).inSet i = true ↔ i ∈ Seeds mobs tuning target ∪ Assisting mobs tuning target := by
  have hcalled : ∀ j, ((finRange n).any fun i =>
      s.inSet i && (sameLevel mobs tuning i j && dist2dWithin mobs i j tuning.assistRadius)) = true ↔
        ∃ i ∈ Seeds mobs tuning target, SameLevel mobs tuning i j ∧ dist2d mobs i j ≤ tuning.assistRadius := by
    intro j
    simp only [any_eq_true, mem_finRange, true_and, Bool.and_eq_true, hseeds, sameLevel_iff, dist2dWithin_iff]
  have hturn : ∀ (v : Marks n) (j : Fin n), Packed mobs v → Packed mobs (assistTurn mobs tuning s.inSet v j) ∧
      ∀ k, (assistTurn mobs tuning s.inSet v j).inSet k = true ↔
        v.inSet k = true ∨ k = j ∧ (j ∉ Seeds mobs tuning target ∧ j ∈ Assisting mobs tuning target) := by
    intro v j hv
    unfold assistTurn
    by_cases hskip : s.inSet j = true ∨ eligible mobs tuning j = false
    · rw [if_pos (by simpa using hskip)]
      refine ⟨hv, fun k => ?_⟩
      have hnot : ¬ (j ∉ Seeds mobs tuning target ∧ j ∈ Assisting mobs tuning target) := by
        rintro ⟨hseed, helig, -⟩
        rcases hskip with hin | hout
        · exact hseed ((hseeds j).1 hin)
        · rw [eligible_iff.2 helig] at hout
          cases hout
      simp [hnot]
    · rw [if_neg (by simpa using hskip)]
      rw [not_or, Bool.not_eq_false, hseeds, eligible_iff] at hskip
      split_ifs with hany
      · refine ⟨hv.add j, fun k => ?_⟩
        rw [add_inSet]
        have hassist : j ∈ Assisting mobs tuning target := ⟨hskip.2, (hcalled j).1 hany⟩
        simp [hskip.1, hassist]
      · refine ⟨hv, fun k => ?_⟩
        have hnot : j ∉ Assisting mobs tuning target := fun h => hany ((hcalled j).2 h.2)
        simp [hnot]
  obtain ⟨hend, hall⟩ := foldl_marks hturn hs (finRange n)
  refine ⟨hend, fun i => ?_⟩
  unfold assistLoop
  rw [hall, hseeds, Set.mem_union]
  simp only [mem_finRange, true_and]
  tauto

theorem packLoop_spec (i : Fin n) : Packed mobs ((List.finRange n).foldl (packTurn (packRoot mobs i)) s) ∧
      ∀ k, ((List.finRange n).foldl (packTurn (packRoot mobs i)) s).inSet k = true ↔ s.inSet k = true ∨ SamePack mobs i k := by
  have hturn : ∀ (v : Marks n) (k : Fin n), Packed mobs v → Packed mobs (packTurn (packRoot mobs i) v k) ∧
      ∀ l, (packTurn (packRoot mobs i) v k).inSet l = true ↔ v.inSet l = true ∨ l = k ∧ SamePack mobs i k := by
    intro v k hv
    obtain ⟨hfound, hsame, hk⟩ := hv.find k
    unfold packTurn
    dsimp only
    rw [hk, ← packRoot_eq_iff]
    split_ifs with hpack
    · refine ⟨hfound.add k, fun l => ?_⟩
      rw [add_inSet, hsame]
      simp [hpack]
    · refine ⟨hfound, fun l => ?_⟩
      rw [hsame]
      simp [Ne.symm hpack]
  obtain ⟨hend, hall⟩ := foldl_marks hturn hs (finRange n)
  refine ⟨hend, fun k => ?_⟩
  rw [hall]
  simp

theorem closureTurn_spec (i : Fin n) : Packed mobs (closureTurn mobs s i) ∧
      ∀ k, (closureTurn mobs s i).inSet k = true ↔ s.inSet k = true ∨ s.inSet i = true ∧ SamePack mobs i k := by
  unfold closureTurn
  by_cases hskip : s.inSet i = false ∨ (mobs i).packId = 0
  · rw [if_pos (by simpa using hskip)]
    refine ⟨hs, fun k => (or_iff_left_of_imp ?_).symm⟩
    rintro ⟨hi, rfl | ⟨hne, -⟩⟩
    · exact hi
    rcases hskip with hout | halone
    · rw [hi] at hout
      cases hout
    · exact absurd halone hne
  · rw [if_neg (by simpa using hskip)]
    rw [not_or, Bool.not_eq_false] at hskip
    obtain ⟨hfound, hsame, hroot⟩ := hs.find i
    dsimp only
    rw [hroot]
    obtain ⟨hpacked, hall⟩ := packLoop_spec hfound i
    refine ⟨hpacked, fun k => ?_⟩
    rw [hall, hsame]
    simp [hskip.1]

/-- One pass over the mobs closes the marks, as whoever a turn adds has no pack but the one that is just added. -/
theorem closureLoop_spec :
    Packed mobs (closureLoop mobs s) ∧ ∀ k, (closureLoop mobs s).inSet k = true ↔ ∃ i, s.inSet i = true ∧ SamePack mobs i k := by
  have hpass : ∀ (l : List (Fin n)) (v : Marks n), Packed mobs v → Packed mobs (l.foldl (closureTurn mobs) v) ∧
      ∀ k, (l.foldl (closureTurn mobs) v).inSet k = true ↔
        v.inSet k = true ∨ ∃ i ∈ l, v.inSet i = true ∧ SamePack mobs i k := by
    intro l
    induction l with
    | nil => exact fun v hv => ⟨hv, fun k => by simp⟩
    | cons i l ih =>
      intro v hv
      obtain ⟨hturn, hmarks⟩ := closureTurn_spec hv i
      obtain ⟨hend, hall⟩ := ih _ hturn
      refine ⟨hend, fun k => ?_⟩
      rw [foldl_cons, hall, hmarks]
      constructor
      · rintro ((hk | hi) | ⟨j, hj, hmark, hjk⟩)
        · exact .inl hk
        · exact .inr ⟨i, mem_cons_self, hi⟩
        rcases (hmarks j).1 hmark with hvj | ⟨hvi, hij⟩
        · exact .inr ⟨j, mem_cons_of_mem _ hj, hvj, hjk⟩
        · exact .inr ⟨i, mem_cons_self, hvi, (samePack_equivalence mobs).trans hij hjk⟩
      · rintro (hk | ⟨j, hj, hvj, hjk⟩)
        · exact .inl (.inl hk)
        rcases mem_cons.1 hj with rfl | hj
        · exact .inl (.inr ⟨hvj, hjk⟩)
        · exact .inr ⟨j, hj, (hmarks j).2 (.inl hvj), hjk⟩
  obtain ⟨hend, hall⟩ := hpass (finRange n) s hs
  refine ⟨hend, fun k => ?_⟩
  unfold closureLoop
  rw [hall]
  constructor
  · rintro (hk | ⟨i, -, hi⟩)
    · exact ⟨k, hk, (samePack_equivalence mobs).refl k⟩
    · exact ⟨i, hi⟩
  · rintro ⟨i, hi⟩
    exact .inr ⟨i, mem_finRange i, hi⟩

end

theorem marks_spec (target : Fin n) (k : Fin n) :
    (closureLoop mobs (assistLoop mobs tuning (seedLoop mobs tuning target))).inSet k = true ↔ k ∈ Counted mobs tuning target := by
  obtain ⟨hseeds, hseed⟩ := seedLoop_spec mobs tuning target
  obtain ⟨hassists, hassist⟩ := assistLoop_spec hseeds hseed
  obtain ⟨-, hall⟩ := closureLoop_spec hassists
  rw [hall]
  simp only [hassist]
  rfl

/-! ### Counting -/

theorem foldl_countTurn (s : Marks n) (l : List (Fin n)) (c : AggroCount n) : l.foldl (countTurn mobs s) c =
      ⟨c.count + UInt32.ofNat (l.filter s.inSet).length,
        c.weightThirds + UInt32.ofNat ((l.filter s.inSet).map (weight mobs)).sum, c.counted ++ l.filter s.inSet⟩ := by
  induction l generalizing c with
  | nil => simp
  | cons i l ih =>
    rw [foldl_cons, ih]
    unfold countTurn
    split_ifs with hi
    · rw [filter_cons_of_pos hi]
      simp only [length_cons, map_cons, sum_cons, ofNat_add, append_assoc, singleton_append]
      rw [add_assoc, add_assoc, add_comm (ofNat _) (ofNat 1)]
      rfl
    · rw [filter_cons_of_neg hi]

theorem mem_pulled (target : Fin n) : k ∈ pulled mobs tuning target ↔ k ∈ Counted mobs tuning target := by
  classical
  unfold pulled
  rw [Finset.mem_filter]
  constructor
  · rintro ⟨-, t, ht, hk⟩
    rw [← Fin.ext ht]
    exact hk
  · exact fun hk => ⟨Finset.mem_univ k, target, rfl, hk⟩

theorem pulled_of_le {targetIdx : Nat} (h : n ≤ targetIdx) : pulled mobs tuning targetIdx = ∅ := by
  classical
  unfold pulled
  refine Finset.filter_eq_empty_iff.2 fun k _ => ?_
  rintro ⟨t, ht, -⟩
  exact absurd t.isLt (by omega)

/-- What is listed is what a pull brings, each mob once, and the two tallies go over it. -/
theorem estimate_spec (mobs : Fin n → DynPullMob) (tuning : AggroTuning) (targetIdx : Nat) :
    (∀ k, k ∈ (EstimateAggroCount mobs tuning targetIdx).counted ↔ k ∈ pulled mobs tuning targetIdx) ∧
      (EstimateAggroCount mobs tuning targetIdx).counted.Nodup ∧
      (EstimateAggroCount mobs tuning targetIdx).count = UInt32.ofNat (pulled mobs tuning targetIdx).card ∧
      (EstimateAggroCount mobs tuning targetIdx).weightThirds =
        UInt32.ofNat (∑ k ∈ pulled mobs tuning targetIdx, weight mobs k) := by
  unfold EstimateAggroCount
  by_cases h : targetIdx < n
  · rw [dif_pos h]
    set s := closureLoop mobs (assistLoop mobs tuning (seedLoop mobs tuning ⟨targetIdx, h⟩)) with hs
    have hmem : ∀ k, k ∈ (finRange n).filter s.inSet ↔ k ∈ pulled mobs tuning targetIdx := by
      intro k
      rw [mem_filter, hs, marks_spec, ← mem_pulled ⟨targetIdx, h⟩]
      simp
    have hnodup : ((finRange n).filter s.inSet).Nodup := (nodup_finRange n).filter _
    have hset : pulled mobs tuning targetIdx = ((finRange n).filter s.inSet).toFinset := by
      ext k
      rw [mem_toFinset, hmem]
    rw [foldl_countTurn]
    refine ⟨fun k => ?_, ?_, ?_, ?_⟩
    · rw [nil_append]
      exact hmem k
    · rw [nil_append]
      exact hnodup
    · rw [hset, toFinset_card_of_nodup hnodup]
      exact zero_add _
    · rw [hset, sum_toFinset (weight mobs) hnodup]
      exact zero_add _
  · rw [dif_neg h, pulled_of_le (not_lt.1 h)]
    simp

/-! ### Other lists and other tunings -/

variable {tuning' : AggroTuning}

section

variable (h : tuning.Wider tuning')
include h

theorem Eligible.mono (hi : Eligible mobs tuning i) : Eligible mobs tuning' i :=
  ⟨hi.1, fun hlone => hi.2 ⟨h.excludeLonePatrollers hlone.1, hlone.2⟩⟩

theorem SameLevel.mono (hij : SameLevel mobs tuning i j) : SameLevel mobs tuning' i j :=
  le_trans hij h.zTolerance

theorem seeds_mono : Seeds mobs tuning target ⊆ Seeds mobs tuning' target := by
  rintro i (hpack | ⟨helig, hlevel, hdist⟩)
  · exact .inl hpack
  have hspread : (mobs i).aggroReach + tuning.combatSpread ≤ (mobs i).aggroReach + tuning'.combatSpread := by
    linarith [h.combatSpread]
  exact .inr ⟨helig.mono h, hlevel.mono h, le_trans hdist (by exact_mod_cast hspread)⟩

theorem assisting_mono : Assisting mobs tuning target ⊆ Assisting mobs tuning' target := by
  rintro j ⟨helig, i, hi, hlevel, hdist⟩
  have hradius : (tuning.assistRadius : ℝ) ≤ tuning'.assistRadius := by exact_mod_cast h.assistRadius
  exact ⟨helig.mono h, i, seeds_mono h hi, hlevel.mono h, le_trans hdist hradius⟩

theorem pulled_mono (targetIdx : Nat) : pulled mobs tuning targetIdx ⊆ pulled mobs tuning' targetIdx := by
  classical
  refine Finset.monotone_filter_right _ ?_
  rintro k - ⟨target, htarget, i, hi, hk⟩
  exact ⟨target, htarget, i, Set.union_subset_union (seeds_mono h) (assisting_mono h) hi, hk⟩

end

/-- A list in another order: every notion is about the mobs and not about where they stand. -/
theorem mem_pulled_comp (σ : Equiv.Perm (Fin n)) :
    k ∈ pulled (mobs ∘ σ) tuning target ↔ σ k ∈ pulled mobs tuning (σ target) := by
  have hpack : ∀ i j, SamePack (mobs ∘ σ) i j ↔ SamePack mobs (σ i) (σ j) := by
    intro i j
    unfold SamePack
    rw [σ.injective.eq_iff]
    rfl
  have hseed : ∀ i, i ∈ Seeds (mobs ∘ σ) tuning target ↔ σ i ∈ Seeds mobs tuning (σ target) :=
    fun i => or_congr (hpack target i) Iff.rfl
  have hassist : ∀ j, j ∈ Assisting (mobs ∘ σ) tuning target ↔ σ j ∈ Assisting mobs tuning (σ target) := by
    intro j
    refine and_congr Iff.rfl (σ.exists_congr fun i => ?_)
    exact and_congr (hseed i) Iff.rfl
  rw [mem_pulled, mem_pulled]
  refine σ.exists_congr fun i => ?_
  exact and_congr (or_congr (hseed i) (hassist i)) (hpack i k)

theorem pulled_comp (σ : Equiv.Perm (Fin n)) (target : Fin n) :
    (pulled (mobs ∘ σ) tuning target).map σ.toEmbedding = pulled mobs tuning (σ target) := by
  ext k
  rw [Finset.mem_map_equiv, mem_pulled_comp, Equiv.apply_symm_apply]

theorem ofNat_le_ofNat {a b : Nat} (hab : a ≤ b) (hb : b < 2 ^ 32) : UInt32.ofNat a ≤ UInt32.ofNat b := by
  rw [le_iff_toNat_le, toNat_ofNat_of_lt' (lt_of_le_of_lt hab hb), toNat_ofNat_of_lt' hb]
  exact hab

/-- The estimate is the set, whatever the order of the list, and grows with the tuning as far as a `uint32` counts. -/
theorem EstimateAggroCount_reference (mobs : Fin n → DynPullMob) (tuning : AggroTuning) (targetIdx : Nat) :
    (∀ k, k ∈ (EstimateAggroCount mobs tuning targetIdx).counted ↔ k ∈ pulled mobs tuning targetIdx) ∧
      (EstimateAggroCount mobs tuning targetIdx).count = UInt32.ofNat (pulled mobs tuning targetIdx).card ∧
      (EstimateAggroCount mobs tuning targetIdx).weightThirds =
        UInt32.ofNat (∑ k ∈ pulled mobs tuning targetIdx, weight mobs k) ∧
      (∀ (σ : Equiv.Perm (Fin n)) (target : Fin n), (σ target).val = targetIdx →
        (EstimateAggroCount (mobs ∘ σ) tuning target).count = (EstimateAggroCount mobs tuning targetIdx).count ∧
          (EstimateAggroCount (mobs ∘ σ) tuning target).weightThirds =
            (EstimateAggroCount mobs tuning targetIdx).weightThirds) ∧
      ∀ tuning', tuning.Wider tuning' → pulled mobs tuning targetIdx ⊆ pulled mobs tuning' targetIdx ∧
          ((pulled mobs tuning' targetIdx).card < 2 ^ 32 →
            (EstimateAggroCount mobs tuning targetIdx).count ≤ (EstimateAggroCount mobs tuning' targetIdx).count) ∧
          (∑ k ∈ pulled mobs tuning' targetIdx, weight mobs k < 2 ^ 32 →
            (EstimateAggroCount mobs tuning targetIdx).weightThirds ≤
              (EstimateAggroCount mobs tuning' targetIdx).weightThirds) := by
  obtain ⟨hset, -, hcount, hweight⟩ := estimate_spec mobs tuning targetIdx
  refine ⟨hset, hcount, hweight, ?_, ?_⟩
  · rintro σ target rfl
    obtain ⟨-, -, hcount', hweight'⟩ := estimate_spec (mobs ∘ σ) tuning target
    rw [hcount, hweight, hcount', hweight', ← pulled_comp σ target, Finset.card_map, Finset.sum_map]
    exact ⟨rfl, rfl⟩
  · intro tuning' hwider
    have hsub : pulled mobs tuning targetIdx ⊆ pulled mobs tuning' targetIdx := pulled_mono hwider targetIdx
    obtain ⟨-, -, hcount', hweight'⟩ := estimate_spec mobs tuning' targetIdx
    refine ⟨hsub, fun hfits => ?_, fun hfits => ?_⟩
    · rw [hcount, hcount']
      exact ofNat_le_ofNat (Finset.card_le_card hsub) hfits
    · rw [hweight, hweight']
      exact ofNat_le_ofNat (Finset.sum_le_sum_of_subset hsub) hfits

/-- A mob at the origin and the rest two yards off, with a reach of one yard. -/
def crowd (n : Nat) : Fin n → DynPullMob := fun i =>
  { x := if i.val = 0 then 0 else 2
    y := 0
    z := 0
    chainEligible := true
    packId := 0
    aggroReach := 1
    patroller := false
    elite := false }

def spreadBy (combatSpread : ℚ) : AggroTuning := ⟨combatSpread, 0, 0, false⟩

theorem spreadBy_wider {a b : ℚ} (h : a ≤ b) : (spreadBy a).Wider (spreadBy b) := ⟨h, le_rfl, le_rfl, id⟩

theorem EstimateAggroCount_reference_crowd :
    (EstimateAggroCount (crowd 3) (spreadBy 0) 0).count ≤ (EstimateAggroCount (crowd 3) (spreadBy 1) 0).count ∧
      (EstimateAggroCount (crowd 3 ∘ Equiv.swap 0 2) (spreadBy 1) (2 : Fin 3)).count =
        (EstimateAggroCount (crowd 3) (spreadBy 1) 0).count := by
  obtain ⟨-, -, -, hperm, -⟩ := EstimateAggroCount_reference (crowd 3) (spreadBy 1) 0
  obtain ⟨-, -, -, -, hmono⟩ := EstimateAggroCount_reference (crowd 3) (spreadBy 0) 0
  refine ⟨(hmono (spreadBy 1) (spreadBy_wider (by norm_num))).2.1 ?_, (hperm (Equiv.swap 0 2) 2 (by decide)).1⟩
  exact lt_of_le_of_lt (Finset.card_le_univ _) (by decide)

/-- Without spread the reach of the rest ends short of the fight, and nobody is near enough to be called. -/
theorem pulled_crowd_none (h : 0 < n) : pulled (crowd n) (spreadBy 0) 0 = {⟨0, h⟩} := by
  have halone : ∀ i j, SamePack (crowd n) i j ↔ i = j := fun i j => or_iff_left fun hpack => hpack.1 rfl
  have hfar : ∀ i : Fin n, i.val ≠ 0 → ∀ r : ℚ, r < 2 → ¬ dist2d (crowd n) i ⟨0, h⟩ ≤ r ∧ ¬ dist2d (crowd n) ⟨0, h⟩ i ≤ r := by
    intro i hi r hr
    rw [← dist2dWithin_iff, ← dist2dWithin_iff]
    simp only [dist2dWithin, crowd, if_neg hi, if_pos, Bool.and_eq_true, decide_eq_true_eq, not_and, not_le]
    constructor
    · intro hr0
      nlinarith
    · intro hr0
      nlinarith
  have hseeds : ∀ i, i ∈ Seeds (crowd n) (spreadBy 0) ⟨0, h⟩ ↔ i = ⟨0, h⟩ := by
    intro i
    refine ⟨?_, fun hi => .inl (.inl hi.symm)⟩
    rintro (hpack | ⟨-, -, hdist⟩)
    · exact ((halone _ _).1 hpack).symm
    · by_contra hi
      exact (hfar i (fun h0 => hi (Fin.ext h0)) (1 + 0) (by norm_num)).1 hdist
  ext k
  rw [Finset.mem_singleton]
  refine (mem_pulled ⟨0, h⟩).trans ⟨?_, ?_⟩
  · rintro ⟨i, hi | ⟨-, j, hj, -, hdist⟩, hik⟩
    · rw [← (halone i k).1 hik]
      exact (hseeds i).1 hi
    · rw [← (halone i k).1 hik]
      rw [(hseeds j).1 hj] at hdist
      by_contra hi
      exact (hfar i (fun h0 => hi (Fin.ext h0)) 0 (by norm_num)).2 hdist
  · rintro rfl
    exact ⟨_, .inl ((hseeds _).2 rfl), .inl rfl⟩

theorem pulled_crowd_all (h : 0 < n) : pulled (crowd n) (spreadBy 1) 0 = Finset.univ := by
  refine Finset.eq_univ_of_forall fun k => (mem_pulled ⟨0, h⟩).2 ⟨k, .inl (.inr ?_), .inl rfl⟩
  refine ⟨⟨rfl, fun hlone => absurd hlone.1 (by decide)⟩, ?_, ?_⟩
  · simp [SameLevel, crowd, spreadBy]
  refine dist2dWithin_iff.1 ?_
  simp only [dist2dWithin, crowd, spreadBy, if_pos, Bool.and_eq_true, decide_eq_true_eq]
  split_ifs <;> norm_num

/-- A yard more of spread, and 2^32 mobs count as none. -/
theorem crowd_wraps : (spreadBy 0).Wider (spreadBy 1) ∧
    ¬ (EstimateAggroCount (crowd (2 ^ 32)) (spreadBy 0) 0).count ≤ (EstimateAggroCount (crowd (2 ^ 32)) (spreadBy 1) 0).count := by
  refine ⟨spreadBy_wider (by norm_num), ?_⟩
  obtain ⟨-, -, hnone, -⟩ := estimate_spec (crowd (2 ^ 32)) (spreadBy 0) 0
  obtain ⟨-, -, hall, -⟩ := estimate_spec (crowd (2 ^ 32)) (spreadBy 1) 0
  rw [hnone, hall, pulled_crowd_none (by norm_num), pulled_crowd_all (by norm_num), Finset.card_singleton, Finset.card_fin]
  decide

end Sets

end ComfyCraft.DungeonClearMath
