import ComfyCraft.Threat.Reachable
import Mathlib.Algebra.Order.Field.Basic
import Mathlib.Tactic.Linarith

/-! Whom `getHostileTarget` selects, with exact numbers for the threat values. -/

namespace ComfyCraft.ThreatManager

open List Option Manager

variable {F : Type}

def Manager.targetOf (m : Manager F) (id : Nat) : Option Guid := (m.refs id).bind HostileReference.iRefTo

def Manager.eligible (w : World F) (m : Manager F) (allowLowPriorityTargets : Bool) (id : Nat) : Bool :=
  (m.targetOf id).any fun u => w.isValidAttackTarget u && (allowLowPriorityTargets || !w.isLowPriority u)

section Exact

variable [Field F] [LinearOrder F]

def exactOps : FloatOps F where
  zero := 0
  hundred := (100 : Nat)
  onePointOne := (11 : Nat) / (10 : Nat)
  onePointThree := (13 : Nat) / (10 : Nat)
  ofInt := Int.cast
  add := (· + ·)
  sub := (· - ·)
  neg := (- ·)
  mul := (· * ·)
  div := (· / ·)
  lt a b := a < b
  le a b := a ≤ b
  ne a b := a ≠ b

@[simp] theorem onePointOne_exact : (exactOps : FloatOps F).onePointOne = 11 / 10 := by simp [exactOps]

@[simp] theorem onePointThree_exact : (exactOps : FloatOps F).onePointThree = 13 / 10 := by simp [exactOps]

variable (w : World F) (m : Manager F)

/-- A target passes 110% of a victim's threat in melee, or 130%. -/
def Manager.Passes (victim id : Nat) : Prop :=
  exactOps.onePointThree * m.threatOf exactOps victim < m.threatOf exactOps id ∨
    exactOps.onePointOne * m.threatOf exactOps victim < m.threatOf exactOps id ∧ (m.targetOf id).any w.canReachWithMeleeAutoAttack = true

def Manager.Sorted : Prop :=
  m.iThreatContainer.Pairwise fun a b => m.threatOf exactOps b ≤ m.threatOf exactOps a

/-- The current victim is passed over by an attempt: nothing up to it in the list can be taken. -/
def Manager.PassedOver (low : Bool) (l : List Nat) (victim : Nat) : Prop :=
  ∃ l₁ l₂, l = l₁ ++ victim :: l₂ ∧ ∀ id ∈ l₁ ++ [victim], m.eligible w low id = false

/-- The list that is scanned is in order, and the current victim is eligible, and nobody with no more threat passes it (never with
a threat of 0 or more), or it stands before all that are eligible. -/
structure Manager.Ready (w : World F) (m : Manager F) : Prop where
  sorted : m.Sorted
  victim : ∀ v, m.iCurrentVictim = some v →
    m.eligible w false v = true ∧ (∀ j ∈ m.iThreatContainer, m.Passes w v j → m.threatOf exactOps v < m.threatOf exactOps j) ∨
      m.PassedOver w false m.iThreatContainer v

/-- A valid target, and of low priority only if every valid one is. -/
def Manager.Candidate (id : Nat) : Prop :=
  m.eligible w false id = true ∨ m.eligible w true id = true ∧ ∀ j ∈ m.iThreatContainer, m.eligible w false j = false

/-- A right selection. -/
structure Manager.Chosen (w : World F) (m : Manager F) (result : Option Nat) : Prop where
  nobody : result = none → ∀ j ∈ m.iThreatContainer, m.eligible w true j = false
  candidate : ∀ id, result = some id → id ∈ m.iThreatContainer ∧ m.Candidate w id
  keeps : ∀ v, m.iCurrentVictim = some v → m.eligible w false v = true →
    (∀ j ∈ m.iThreatContainer, m.eligible w false j = true → ¬ m.Passes w v j) → result = some v
  passes : ∀ v, m.iCurrentVictim = some v → m.eligible w false v = true → ∀ id, result = some id → id ≠ v →
    m.eligible w false id = true ∧ m.Passes w v id ∧ ∀ j ∈ m.iThreatContainer, m.eligible w false j = true → m.Passes w v j →
      m.threatOf exactOps j ≤ m.threatOf exactOps id
  highest : (∀ v, m.iCurrentVictim = some v → m.eligible w false v = false) → ∀ id, result = some id →
    ∀ j ∈ m.iThreatContainer, m.Candidate w j → m.threatOf exactOps j ≤ m.threatOf exactOps id

end Exact

variable {w : World F} {m : Manager F} {units : Guid → Bool} {low : Bool} {l : List Nat} {v id : Nat}

/-- A pointed target that is not out of the threat area. -/
def Manager.Near (w : World F) (m : Manager F) (id : Nat) : Prop := ∃ u, m.targetOf id = some u ∧ w.isOutOfThreatArea u = false

theorem Manager.Near.eligible (h : m.Near w id) (low : Bool) : ∃ u, m.targetOf id = some u ∧ w.isOutOfThreatArea u = false ∧
    m.eligible w low id = (w.isValidAttackTarget u && (low || !w.isLowPriority u)) := by
  obtain ⟨u, hu, harea⟩ := h
  exact ⟨u, hu, harea, by rw [Manager.eligible, hu, Option.any_some]⟩

theorem eligible_mono (h : m.eligible w false id = true) : m.eligible w true id = true := by
  unfold Manager.eligible at h ⊢
  cases hu : m.targetOf id with
  | none => rw [hu] at h; cases h
  | some u =>
    rw [hu, Option.any_some, Bool.and_eq_true] at h
    rw [Option.any_some, h.1]
    rfl

variable [Field F] [LinearOrder F]

/-- One that is not eligible is skipped, and forgotten where it is the current victim. -/
theorem selectAttempt_skip (hnear : m.Near w id) (hid : m.eligible w low id = false) (cur : Option Nat) :
    selectAttempt exactOps w m low (id :: l) cur = selectAttempt exactOps w m low l (if cur = some id then none else cur) := by
  obtain ⟨u, hu, harea, heligible⟩ := hnear.eligible low
  rw [heligible] at hid
  rw [selectAttempt, ← Manager.targetOf, hu]
  dsimp only
  rw [harea, if_neg Bool.false_ne_true]
  cases hvalid : w.isValidAttackTarget u with
  | false => rfl
  | true =>
    rw [hvalid, Bool.true_and, Bool.or_eq_false_iff, Bool.not_eq_false'] at hid
    rw [hid.1, hid.2]
    rfl

/-- Without a current victim the first that is eligible is taken. -/
theorem selectAttempt_none (hnear : ∀ id ∈ l, m.Near w id) : selectAttempt exactOps w m low l none =
    match l.find? (m.eligible w low) with
    | some id => .found id
    | none => .nobody none := by
  induction l with
  | nil => rfl
  | cons id l ih =>
    cases hid : m.eligible w low id with
    | false =>
      rw [selectAttempt_skip (hnear id mem_cons_self) hid, find?_cons_of_neg (by simp [hid])]
      exact ih fun j hj => hnear j (mem_cons_of_mem id hj)
    | true =>
      obtain ⟨u, hu, harea, heligible⟩ := (hnear id mem_cons_self).eligible low
      rw [hid, eq_comm, Bool.and_eq_true, Bool.or_eq_true, Bool.not_eq_true'] at heligible
      rw [find?_cons_of_pos hid, selectAttempt, ← Manager.targetOf, hu]
      rcases heligible with ⟨hvalid, hlow | hlow⟩ <;> simp [harea, hvalid, hlow]

theorem selectAttempt_passedOver (hnear : ∀ id ∈ l, m.Near w id) (h : m.PassedOver w low l v) :
    selectAttempt exactOps w m low l (some v) = selectAttempt exactOps w m low l none := by
  obtain ⟨l₁, l₂, rfl, hbefore⟩ := h
  induction l₁ with
  | nil =>
    have hv := hbefore v mem_cons_self
    rw [nil_append, selectAttempt_skip (hnear v mem_cons_self) hv, selectAttempt_skip (hnear v mem_cons_self) hv, if_pos rfl]
    rfl
  | cons id l₁ ih =>
    have hid := hbefore id mem_cons_self
    rw [cons_append, selectAttempt_skip (hnear id mem_cons_self) hid, selectAttempt_skip (hnear id mem_cons_self) hid]
    by_cases hv : v = id
    · rw [if_pos (congrArg some hv)]
      rfl
    · rw [if_neg fun h => hv (Option.some.inj h)]
      exact ih (fun j hj => hbefore j (mem_cons_of_mem id hj)) fun j hj => hnear j (mem_cons_of_mem id hj)

/-- Who is taken where the current victim is eligible. -/
def Manager.Taken (w : World F) (m : Manager F) (v : Nat) (l : List Nat) (id : Nat) : Prop :=
  id = v ∧ (∀ j ∈ l, m.eligible w false j = true → ¬ m.Passes w v j) ∨
    id ∈ l ∧ m.eligible w false id = true ∧ m.Passes w v id ∧
      ∀ j ∈ l, m.eligible w false j = true → m.Passes w v j → m.threatOf exactOps j ≤ m.threatOf exactOps id

theorem Manager.Taken.cons {r : Nat} (h : m.Taken w v l r) (hid : m.eligible w false id = true → ¬ m.Passes w v id) :
    m.Taken w v (id :: l) r := by
  refine h.imp (fun h => ⟨h.1, fun j hj => ?_⟩) fun h => ⟨mem_cons_of_mem id h.1, h.2.1, h.2.2.1, fun j hj hjel hpass => ?_⟩
  · rcases mem_cons.1 hj with rfl | hj
    · exact hid
    · exact h.2 j hj
  · rcases mem_cons.1 hj with rfl | hj
    · exact absurd hpass (hid hjel)
    · exact h.2.2.2 j hj hjel hpass

/-- With an eligible victim in a sorted list: it is kept if nobody passes it, and else the first that does is taken. -/
theorem selectAttempt_current [IsStrictOrderedRing F] (hnear : ∀ id ∈ l, m.Near w id)
    (hsorted : l.Pairwise fun a b => m.threatOf exactOps b ≤ m.threatOf exactOps a) (hv : v ∈ l)
    (heligible : m.eligible w false v = true)
    (hmore : ∀ j ∈ l, m.Passes w v j → m.threatOf exactOps v < m.threatOf exactOps j) :
    ∃ r, selectAttempt exactOps w m false l (some v) = .found r ∧ m.Taken w v l r := by
  induction l with
  | nil => cases hv
  | cons id l ih =>
    have hrest : v ≠ id → ∃ r, selectAttempt exactOps w m false l (some v) = .found r ∧ m.Taken w v l r := fun hne =>
      ih (fun j hj => hnear j (mem_cons_of_mem id hj)) (pairwise_cons.1 hsorted).2 ((mem_cons.1 hv).resolve_left hne)
        fun j hj => hmore j (mem_cons_of_mem id hj)
    have hbelow : ∀ j ∈ id :: l, m.threatOf exactOps j ≤ m.threatOf exactOps id := fun j hj =>
      (mem_cons.1 hj).elim (fun h => h ▸ le_rfl) ((pairwise_cons.1 hsorted).1 j)
    cases hid : m.eligible w false id with
    | false =>
      have hne : v ≠ id := by
        rintro rfl
        rw [hid] at heligible
        cases heligible
      obtain ⟨r, hr, htaken⟩ := hrest hne
      rw [selectAttempt_skip (hnear id mem_cons_self) hid, if_neg fun h => hne (Option.some.inj h)]
      exact ⟨r, hr, htaken.cons fun h => by rw [hid] at h; cases h⟩
    | true =>
      obtain ⟨u, hu, harea, hel⟩ := (hnear id mem_cons_self).eligible false
      rw [hid, eq_comm, Bool.and_eq_true, Bool.false_or, Bool.not_eq_true'] at hel
      have hpasses : (13 / 10 * m.threatOf exactOps v < m.threatOf exactOps id ∨
          11 / 10 * m.threatOf exactOps v < m.threatOf exactOps id ∧ w.canReachWithMeleeAutoAttack u = true) ↔ m.Passes w v id := by
        unfold Manager.Passes
        simp [hu]
      have hstep : selectAttempt exactOps w m false (id :: l) (some v) =
          if v = id ∨ m.threatOf exactOps id ≤ 11 / 10 * m.threatOf exactOps v then .found v
          else if 13 / 10 * m.threatOf exactOps v < m.threatOf exactOps id ∨
            11 / 10 * m.threatOf exactOps v < m.threatOf exactOps id ∧ w.canReachWithMeleeAutoAttack u = true then .found id
          else selectAttempt exactOps w m false l (some v) := by
        rw [selectAttempt, ← Manager.targetOf, hu]
        simp [harea, hel.1, hel.2, exactOps]
      rw [hstep]
      by_cases hstop : v = id ∨ m.threatOf exactOps id ≤ 11 / 10 * m.threatOf exactOps v
      · rw [if_pos hstop]
        refine ⟨v, rfl, .inl ⟨rfl, fun j hj _ hpass => ?_⟩⟩
        have hlt := hmore j hj hpass
        have hle := hbelow j hj
        rcases hstop with rfl | hstop
        · exact absurd hlt (not_lt.2 hle)
        · simp only [Manager.Passes, onePointOne_exact, onePointThree_exact] at hpass
          rcases hpass with hpass | ⟨hpass, -⟩ <;> linarith
      · rw [if_neg hstop]
        split
        · rename_i hpass
          exact ⟨id, rfl, .inr ⟨mem_cons_self, hid, hpasses.1 hpass, fun j hj _ _ => hbelow j hj⟩⟩
        · rename_i hpass
          obtain ⟨r, hr, htaken⟩ := hrest fun h => hstop (.inl h)
          exact ⟨r, hr, htaken.cons fun _ h => hpass (hpasses.2 h)⟩

/-- The first of a sorted list has the most threat. -/
theorem threatOf_le_of_find? {p : Nat → Bool} (hsorted : l.Pairwise fun a b => m.threatOf exactOps b ≤ m.threatOf exactOps a)
    (h : l.find? p = some id) : ∀ j ∈ l, p j = true → m.threatOf exactOps j ≤ m.threatOf exactOps id := by
  intro j hj hp
  obtain ⟨-, l₁, l₂, rfl, hbefore⟩ := find?_eq_some_iff_append.1 h
  rcases mem_append.1 hj with hj | hj
  · have := hbefore j hj
    rw [hp] at this
    cases this
  · rcases mem_cons.1 hj with rfl | hj
    · exact le_rfl
    · exact (pairwise_cons.1 (pairwise_append.1 hsorted).2.1).1 j hj

/-- Without an eligible victim the first that can be taken is taken. -/
theorem selectNextVictim_first (hnear : ∀ id ∈ m.iThreatContainer, m.Near w id)
    (hvictim : ∀ v, m.iCurrentVictim = some v → m.PassedOver w false m.iThreatContainer v) :
    m.selectNextVictim exactOps w =
      some ((m.iThreatContainer.find? (m.eligible w false)).or (m.iThreatContainer.find? (m.eligible w true))) := by
  have hfirst : selectAttempt exactOps w m false m.iThreatContainer m.iCurrentVictim =
      selectAttempt exactOps w m false m.iThreatContainer none := by
    cases hcur : m.iCurrentVictim with
    | none => rfl
    | some v => exact selectAttempt_passedOver hnear (hvictim v hcur)
  unfold selectNextVictim
  rw [hfirst, selectAttempt_none hnear]
  cases m.iThreatContainer.find? (m.eligible w false) with
  | some id => rfl
  | none =>
    dsimp only
    rw [selectAttempt_none hnear]
    cases m.iThreatContainer.find? (m.eligible w true) <;> rfl

theorem Manager.Ready.chosen [IsStrictOrderedRing F] (h : m.Ready w) (hnear : ∀ id ∈ m.iThreatContainer, m.Near w id)
    (hcoherent : Coherent units m) : ∃ result, m.selectNextVictim exactOps w = some result ∧ m.Chosen w result := by
  by_cases hcur : ∃ v, m.iCurrentVictim = some v ∧ m.eligible w false v = true
  · obtain ⟨v, hv, hel⟩ := hcur
    have hmem := hcoherent.victim v hv
    have hmore := ((h.victim v hv).resolve_right fun ⟨l₁, l₂, _, hbefore⟩ => by
      rw [hbefore v (mem_append_right l₁ mem_cons_self)] at hel
      cases hel).2
    obtain ⟨r, hr, htaken⟩ := selectAttempt_current hnear h.sorted hmem hel hmore
    have hrel : r ∈ m.iThreatContainer ∧ m.eligible w false r = true := by
      rcases htaken with ⟨rfl, -⟩ | ⟨hr, hrel, -⟩
      · exact ⟨hmem, hel⟩
      · exact ⟨hr, hrel⟩
    refine ⟨some r, by rw [selectNextVictim, hv, hr], nofun, fun id hid => ?_, fun v' hv' _ hkeeps => ?_,
      fun v' hv' _ id hid hne => ?_, fun hnone => ?_⟩
    · cases hid
      exact ⟨hrel.1, .inl hrel.2⟩
    · cases hv.symm.trans hv'
      rcases htaken with ⟨rfl, -⟩ | ⟨hr, hrel, hpass, -⟩
      · rfl
      · exact absurd hpass (hkeeps r hr hrel)
    · cases hv.symm.trans hv'
      cases hid
      rcases htaken with ⟨rfl, -⟩ | ⟨-, htaken⟩
      · exact absurd rfl hne
      · exact htaken
    · rw [hnone v hv] at hel
      cases hel
  · have hvictim : ∀ v, m.iCurrentVictim = some v → m.PassedOver w false m.iThreatContainer v := fun v hv =>
      (h.victim v hv).resolve_left fun hel => hcur ⟨v, hv, hel.1⟩
    refine ⟨_, selectNextVictim_first hnear hvictim, fun hnone j hj => ?_, fun id hid => ?_,
      fun v hv hel _ => absurd ⟨v, hv, hel⟩ hcur, fun v hv hel => absurd ⟨v, hv, hel⟩ hcur, fun _ id hid j hj hcand => ?_⟩
    · rw [Option.or_eq_none_iff] at hnone
      simpa using find?_eq_none.1 hnone.2 j hj
    · rcases Option.or_eq_some_iff.1 hid with hid | ⟨hnone, hid⟩
      · exact ⟨mem_of_find?_eq_some hid, .inl (find?_some hid)⟩
      · exact ⟨mem_of_find?_eq_some hid, .inr ⟨find?_some hid, fun j hj => by simpa using find?_eq_none.1 hnone j hj⟩⟩
    · rcases Option.or_eq_some_iff.1 hid with hid | ⟨hnone, hid⟩
      · refine threatOf_le_of_find? h.sorted hid j hj (hcand.resolve_right fun hlow => ?_)
        have hno := hlow.2 id (mem_of_find?_eq_some hid)
        rw [find?_some hid] at hno
        cases hno
      · exact threatOf_le_of_find? h.sorted hid j hj (hcand.elim eligible_mono And.left)

/-- A list that was marked is in order when it is scanned. -/
theorem sorted_update (h : m.iDirty = true ∨ m.Sorted) : (m.update exactOps).Sorted := by
  unfold Manager.Sorted Manager.update
  dsimp only
  split
  · refine (pairwise_mergeSort (fun a b c hab hbc => ?_) (fun a b => ?_) m.iThreatContainer).imp fun hab => ?_
    · simp [exactOps] at *
      exact hbc.trans hab
    · simpa [exactOps] using le_total _ _
    · simpa [exactOps, threatOf] using hab
  · rename_i hclean
    refine h.elim (fun hdirty => ?_) id
    rw [hdirty, Bool.true_and, decide_eq_true_eq, not_lt] at hclean
    cases hl : m.iThreatContainer with
    | nil => exact Pairwise.nil
    | cons id l =>
      rw [hl, length_cons] at hclean
      rw [length_eq_zero_iff.1 (show l.length = 0 by omega)]
      exact pairwise_singleton _ _

/-- Whatever was done to a manager before: where nobody is out of the threat area and the manager is ready, the selection is right. -/
theorem getHostileTarget_chosen [IsStrictOrderedRing F] (owner : Guid) (units : Guid → Bool) (es : List (Event F)) (w : World F) :
    ∃ s m', es.foldlM (step exactOps) (init owner units) = some s ∧
      s.manager.getHostileTarget exactOps (w.among s.units) = some m' ∧
      ((∀ id ∈ s.manager.iThreatContainer, ∀ u, s.manager.targetOf id = some u → w.isOutOfThreatArea u = false) →
        (s.manager.update exactOps).Ready (w.among s.units) →
          (s.manager.update exactOps).Chosen (w.among s.units) m'.iCurrentVictim) := by
  obtain ⟨s, hrun, h⟩ := run_coherent exactOps (s := init owner units) (init_coherent owner units) es
  obtain ⟨m', hm', -⟩ := h.getHostileTarget (o := exactOps) (w := w.among s.units)
  refine ⟨s, m', hrun, hm', fun harea hready => ?_⟩
  have hcoherent := h.update (o := exactOps)
  have hnear : ∀ id ∈ (s.manager.update exactOps).iThreatContainer, (s.manager.update exactOps).Near (w.among s.units) id := by
    intro id hid
    obtain ⟨r, hr, honline⟩ := (hcoherent.online id).1 hid
    obtain ⟨u, hu⟩ := isSome_iff_exists.1 ((hcoherent.sound id r hr).online honline)
    have htarget : s.manager.targetOf id = some u := by
      change s.manager.refs id = some r at hr
      rw [targetOf, hr]
      exact hu
    exact ⟨u, htarget, harea id ((h.online id).2 ⟨r, hr, honline⟩) u htarget⟩
  obtain ⟨result, hresult, hchosen⟩ := Ready.chosen hready hnear hcoherent
  unfold getHostileTarget at hm'
  dsimp only at hm'
  rw [hresult] at hm'
  cases hm'
  exact hchosen

def plainWorld (valid : Guid → Bool) : World Rat where
  isAlive _ := true
  isPlayer _ := true
  isGameMaster _ := false
  isTaxiFlying _ := false
  isInMap _ := true
  getUnit _ := true
  getOwner _ := none
  ownerDepth _ := 0
  owner_lt := nofun
  isTotem _ := false
  transferPercent _ := 0
  hardControlled := false
  isOutOfThreatArea _ := false
  isValidAttackTarget := valid
  isLowPriority _ := false
  canReachWithMeleeAutoAttack _ := true
  calcThreat _ threat := threat

/-- The first player is hated, and selected. -/
theorem chosen_oneHated : let es := [.addThreat (plainWorld fun _ => true) 1 100 ⟨false, false⟩]
    ∃ s m', es.foldlM (step exactOps) (init 9 fun _ => true) = some s ∧
      s.manager.getHostileTarget exactOps ((plainWorld fun _ => true).among s.units) = some m' ∧ m'.iCurrentVictim = some 0 ∧
        (s.manager.update exactOps).Chosen ((plainWorld fun _ => true).among s.units) m'.iCurrentVictim := by
  intro es
  obtain ⟨s, m', hs, hm', hchosen⟩ := getHostileTarget_chosen 9 (fun _ => true) es (plainWorld fun _ => true)
  have hrun : ((es.foldlM (step exactOps) (init 9 fun _ => true)).bind fun s =>
      (s.manager.getHostileTarget exactOps ((plainWorld fun _ => true).among s.units)).map fun m =>
        (m.iCurrentVictim, s.manager.iDirty, (s.manager.update exactOps).iCurrentVictim)) = some (some 0, true, none) := by
    decide +kernel
  rw [hs, Option.bind_some, hm', Option.map_some, Option.some.injEq] at hrun
  simp only [Prod.mk.injEq] at hrun
  obtain ⟨hvictim, hdirty, hcur⟩ := hrun
  refine ⟨s, m', hs, hm', hvictim, hchosen (fun _ _ _ _ => rfl) ⟨sorted_update (.inl hdirty), fun v hv => ?_⟩⟩
  rw [hcur] at hv
  cases hv

end ComfyCraft.ThreatManager
