import ComfyCraft.DungeonClear.TestPlanCount

/-! The accounts of the test plans over any run of both managers. Every plan that was started is listed, or was
finalised, and not both; a listed plan's books are in order, and those of a finalised one are closed. -/

namespace ComfyCraft

open DcTestRunManager List PlanId Plan SameFor Runs RunOutcome

variable {R : Type}

def planIds (plans : List (Plan R)) : List PlanId := plans.map fun plan => plan.spec.planId

/-- No run was launched for the plan. -/
def DcTestRunManager.Empty (m : DcTestRunManager R) (planId : PlanId) : Prop :=
  m.launches planId = [] ∧ m.running planId = []

structure TestHarness.Accounted (h : TestHarness R) : Prop where
  plans : ∀ plan ∈ h.plans, plan.Booked h.mgr
  finalized : ∀ plan ∈ h.finalized, plan.Booked h.mgr ∧ plan.counters.activeNow = 0
  /-- The plans that were started are numbered from 1. -/
  numbered : ((planIds (h.plans ++ h.finalized)).map PlanId.counter).Perm (List.range' 1 h.planCounter)
  /-- No run is launched for a plan that was not started. -/
  unknown : ∀ planId, planId ∉ planIds (h.plans ++ h.finalized) → h.mgr.Empty planId

theorem DcTestRunManager.SameFor.empty {m m' : DcTestRunManager R} {planId : PlanId} (h : SameFor planId m m')
    (hm : m.Empty planId) : m'.Empty planId := ⟨h.1.trans hm.1, h.2.trans hm.2⟩

theorem mem_planIds {plans : List (Plan R)} {plan : Plan R} (h : plan ∈ plans) : plan.spec.planId ∈ planIds plans :=
  mem_map_of_mem h

theorem planIds_append (plans more : List (Plan R)) : planIds (plans ++ more) = planIds plans ++ planIds more :=
  map_append

namespace TestHarness

variable {h : TestHarness R} {m : DcTestRunManager R} {plan : Plan R}

theorem Accounted.nodup_ids (hacc : h.Accounted) : (planIds (h.plans ++ h.finalized)).Nodup := by
  apply List.Nodup.of_map counter
  rw [hacc.numbered.nodup_iff]
  exact nodup_range'

theorem accounted_empty : (empty : TestHarness R).Accounted where
  plans plan hp := by cases hp
  finalized plan hp := by cases hp
  numbered := List.Perm.refl _
  unknown _ _ := ⟨rfl, rfl⟩

/-- Every listed plan is changed in what is not in the books, and so is the run manager. -/
theorem Accounted.map {f : Plan R → Plan R} (hacc : h.Accounted)
    (hspec : ∀ plan, (f plan).spec = plan.spec) (hbooked : ∀ plan, plan.Booked h.mgr → (f plan).Booked h.mgr)
    (hm : ∀ planId, SameFor planId h.mgr m) : Accounted { h with plans := h.plans.map f, mgr := m } := by
  have hids : planIds (h.plans.map f ++ h.finalized) = planIds (h.plans ++ h.finalized) := by
    simp [planIds, hspec]
  constructor
  · intro plan hp
    obtain ⟨plan, hmem, rfl⟩ := mem_map.1 hp
    exact (hbooked plan (hacc.plans plan hmem)).sameFor (hm _)
  · intro plan hp
    exact ⟨(hacc.finalized plan hp).1.sameFor (hm _), (hacc.finalized plan hp).2⟩
  · rw [hids]
    exact hacc.numbered
  · intro planId hne
    rw [hids] at hne
    exact (hm planId).empty (hacc.unknown planId hne)

theorem Accounted.sameFor (hacc : h.Accounted) (hm : ∀ planId, SameFor planId h.mgr m) : Accounted { h with mgr := m } := by
  have := hacc.map (f := id) (fun _ => rfl) (fun _ hb => hb) hm
  rwa [map_id] at this

/-- What a start comes to: nothing, or a new plan under the next number. -/
theorem start_eq (h : TestHarness R) (w : PlanStart) (spec : PlanSpec) :
    (h.start w spec).1 = h ∨ ∃ plan : Plan R, plan.spec.planId = ⟨w.stamp, h.planCounter + 1⟩ ∧
      plan.counters = ⟨0, 0, 0, 0⟩ ∧ plan.outcomes = [] ∧ plan.activeRunIds = [] ∧
      (h.start w spec).1 = { h with planCounter := h.planCounter + 1, plans := h.plans ++ [plan] } := by
  unfold start
  split
  · exact .inl rfl
  split
  · exact .inl rfl
  split
  · exact .inl rfl
  split
  · exact .inl rfl
  · exact .inr ⟨_, rfl, rfl, rfl, rfl, rfl⟩

theorem Accounted.start (hacc : h.Accounted) (w : PlanStart) (spec : PlanSpec) : (h.start w spec).1.Accounted := by
  rcases h.start_eq w spec with heq | ⟨plan, hid, hc, ho, ha, heq⟩
  · rw [heq]
    exact hacc
  rw [heq]
  have hfresh : plan.spec.planId ∉ planIds (h.plans ++ h.finalized) := by
    intro hmem
    have hcounter := hacc.numbered.subset (mem_map_of_mem hmem)
    rw [hid, mem_range'_1] at hcounter
    have hlt : h.planCounter + 1 < 1 + h.planCounter := hcounter.2
    omega
  obtain ⟨hlaunches, hrunning⟩ := hacc.unknown _ hfresh
  have hperm : (planIds ((h.plans ++ [plan]) ++ h.finalized)).Perm (plan.spec.planId :: planIds (h.plans ++ h.finalized)) := by
    rw [append_assoc, singleton_append]
    exact perm_middle.map _
  constructor
  · intro other hp
    rcases mem_append.1 hp with hp | hp
    · exact hacc.plans other hp
    rw [mem_singleton.1 hp]
    constructor
    · rw [hc]
      rfl
    · rw [hc, ha]
      rfl
    · rw [hc]
      exact Nat.zero_le _
    · rw [hc]
      exact Nat.zero_le _
    · rw [hc, ho]
      rfl
    · rw [hc, ho]
      rfl
    · rw [ho, ha, hlaunches]
      exact List.Perm.refl _
    · rw [ha, hrunning]
  · exact hacc.finalized
  · apply (hperm.map counter).trans
    rw [map_cons, hid, range'_1_concat, Nat.add_comm 1]
    exact (hacc.numbered.cons _).trans (perm_append_singleton _ _).symm
  · intro planId hne
    apply hacc.unknown
    intro hmem
    exact hne (hperm.symm.subset (mem_cons_of_mem _ hmem))

theorem Accounted.stopAll (hacc : h.Accounted) (reason : String) : (h.stopAll reason).Accounted := by
  apply hacc.map (m := h.mgr)
  · intro plan
    unfold drain
    split <;> rfl
  · exact fun plan hb => hb.drain reason
  · exact fun _ => rfl

theorem finished_activeNow (hf : finished plan = true) : plan.counters.activeNow = 0 := by
  unfold finished isFinished at hf
  rw [Bool.and_eq_true] at hf
  exact of_decide_eq_true hf.1

variable [DecidableEq R]

theorem Accounted.stop (hacc : h.Accounted) (selector : PlanSelector) : (h.stop selector).Accounted := by
  apply hacc.map
  · intro plan
    unfold drain
    split
    · split <;> rfl
    · rfl
  · intro plan hb
    split
    · exact hb.drain _
    · exact hb
  · intro planId
    generalize h.plans.filter _ = plans
    generalize h.mgr = m
    induction plans generalizing m with
    | nil => exact rfl
    | cons plan plans ih => exact (sameFor_stops planId _ m).trans (ih _)

/-! The tick of the plan manager. -/

variable (diff : Nat) (runs : List (TestRun R)) (w : PlanId → PlanTick R) (plans : List (Plan R))

theorem tickPlans_ids (m : DcTestRunManager R) :
    planIds (tickPlans diff w plans m).1 = planIds plans := by
  induction plans generalizing m with
  | nil => rfl
  | cons plan plans ih =>
    have hspec := (plan.tickPlan_ticked m diff (w plan.spec.planId)).spec_eq
    simp only [planIds, tickPlans, map_cons, hspec] at ih ⊢
    rw [ih]

theorem tickPlans_others (m : DcTestRunManager R)
    (planId : PlanId) (hne : planId ∉ planIds plans) : SameFor planId m (tickPlans diff w plans m).2 := by
  induction plans generalizing m with
  | nil => exact rfl
  | cons plan plans ih =>
    obtain ⟨hown, hrest⟩ := not_or.1 (mem_cons.not.1 hne)
    exact ((plan.tickPlan_ticked m diff (w plan.spec.planId)).others planId fun heq => hown heq.symm).trans (ih _ hrest)

theorem tickPlans_booked (m : DcTestRunManager R) (hnodup : (planIds plans).Nodup) (hbooked : ∀ plan ∈ plans, plan.Booked m) :
    ∀ plan ∈ (tickPlans diff w plans m).1, plan.Booked (tickPlans diff w plans m).2 := by
  induction plans generalizing m with
  | nil => intro plan hp; cases hp
  | cons plan plans ih =>
    obtain ⟨hown, hrest⟩ := nodup_cons.1 hnodup
    have hticked := plan.tickPlan_ticked m diff (w plan.spec.planId)
    have hlater : ∀ other ∈ plans, other.Booked (plan.tickPlan m diff (w plan.spec.planId)).2 := by
      intro other hp
      apply (hbooked other (mem_cons_of_mem _ hp)).sameFor
      apply hticked.others
      intro heq
      have hmem := mem_planIds hp
      rw [← heq] at hmem
      exact hown hmem
    intro other hp
    rcases mem_cons.1 hp with rfl | hp
    -- The plan's own launch is kept by the ticks of the plans after it.
    · apply (hticked.booked (hbooked plan mem_cons_self)).sameFor
      apply tickPlans_others
      rw [hticked.spec_eq]
      exact hown
    · exact ih _ hrest hlater other hp

theorem Accounted.tick (hacc : h.Accounted) (diff : Nat) (w : PlanId → PlanTick R) : (h.tick diff w).Accounted := by
  have hnodup : (planIds h.plans).Nodup := by
    have := hacc.nodup_ids
    rw [planIds_append] at this
    exact this.of_append_left
  have hids := tickPlans_ids diff w h.plans h.mgr
  have hothers := tickPlans_others diff w h.plans h.mgr
  have hbooked := tickPlans_booked diff w h.plans h.mgr hnodup hacc.plans
  unfold TestHarness.tick
  generalize tickPlans diff w h.plans h.mgr = ticked at hids hothers hbooked
  have hperm : (planIds ((ticked.1.filter fun plan => !finished plan) ++ (h.finalized ++ ticked.1.filter finished))).Perm
      (planIds (h.plans ++ h.finalized)) := by
    rw [planIds_append h.plans, ← hids, ← planIds_append]
    apply List.Perm.map
    have hsplit := filter_append_perm finished ticked.1
    have hswap : ((ticked.1.filter fun plan => !finished plan) ++ (h.finalized ++ ticked.1.filter finished)).Perm
        ((ticked.1.filter fun plan => !finished plan) ++ (ticked.1.filter finished ++ h.finalized)) :=
      perm_append_comm.append_left _
    apply hswap.trans
    rw [← append_assoc]
    exact ((perm_append_comm.trans hsplit).append_right _)
  constructor
  · intro plan hp
    exact hbooked plan (mem_of_mem_filter hp)
  · intro plan hp
    rcases mem_append.1 hp with hp | hp
    · obtain ⟨hb, hactive⟩ := hacc.finalized plan hp
      have hne : plan.spec.planId ∉ planIds h.plans := by
        have hdisjoint := hacc.nodup_ids
        rw [planIds_append] at hdisjoint
        exact fun hmem => disjoint_of_nodup_append hdisjoint hmem (mem_planIds hp)
      exact ⟨hb.sameFor (hothers _ hne), hactive⟩
    · obtain ⟨hmem, hf⟩ := mem_filter.1 hp
      exact ⟨hbooked plan hmem, finished_activeNow hf⟩
  · exact (hperm.map _).trans hacc.numbered
  · intro planId hne
    have hknown : planId ∉ planIds (h.plans ++ h.finalized) := fun hmem => hne (hperm.symm.subset hmem)
    apply (hothers planId _).empty (hacc.unknown planId hknown)
    rw [planIds_append] at hknown
    exact fun hmem => hknown (mem_append_left _ hmem)

/-! The tick of the run manager. -/

omit [DecidableEq R] in
theorem tickRun_runIds (planId : PlanId) (w : Nat → RunTick) (runs : List (TestRun R)) :
    runIds planId (runs.mapIdx fun i r => tickRun r (w i)) = runIds planId runs := by
  induction runs generalizing w with
  | nil => rfl
  | cons r runs ih =>
    have hkept : (tickRun r (w 0)).planId = r.planId ∧ (tickRun r (w 0)).runId = r.runId := by
      unfold tickRun
      split <;> exact ⟨rfl, rfl⟩
    rw [mapIdx_cons]
    by_cases hp : r.planId = some planId
    · rw [runIds_cons_own planId _ _ (hkept.1.trans hp), runIds_cons_own planId r runs hp, hkept.2]
      exact congrArg _ (ih fun i => w (i + 1))
    · rw [runIds_cons_other planId _ _ (by rwa [hkept.1]), runIds_cons_other planId r runs hp]
      exact ih fun i => w (i + 1)

theorem onRunFinished_ids (planId : PlanId) (outcome : RunOutcome R) (plans : List (Plan R)) :
    planIds (onRunFinished planId outcome plans) = planIds plans := by
  induction plans with
  | nil => rfl
  | cons plan plans ih =>
    unfold onRunFinished
    split
    · rfl
    · exact congrArg (cons plan.spec.planId) ih

theorem mem_onRunFinished {planId : PlanId} {outcome : RunOutcome R} {plans : List (Plan R)}
    (hnodup : (planIds plans).Nodup) (hp : plan ∈ onRunFinished planId outcome plans) :
    (∃ old ∈ plans, old.spec.planId = planId ∧ plan = old.runFinished outcome) ∨
      (plan ∈ plans ∧ plan.spec.planId ≠ planId) := by
  induction plans with
  | nil => cases hp
  | cons first plans ih =>
    obtain ⟨hfirst, hrest⟩ := nodup_cons.1 hnodup
    unfold onRunFinished at hp
    split at hp
    · rename_i heq
      rcases mem_cons.1 hp with rfl | hp
      · exact .inl ⟨first, mem_cons_self, heq, rfl⟩
      refine .inr ⟨mem_cons_of_mem _ hp, ?_⟩
      intro hid
      have hmem := mem_planIds hp
      rw [hid, ← heq] at hmem
      exact hfirst hmem
    · rename_i hne
      rcases mem_cons.1 hp with rfl | hp
      · exact .inr ⟨mem_cons_self, hne⟩
      rcases ih hrest hp with ⟨old, hmem, hid⟩ | ⟨hmem, hid⟩
      · exact .inl ⟨old, mem_cons_of_mem _ hmem, hid⟩
      · exact .inr ⟨mem_cons_of_mem _ hmem, hid⟩

theorem eraseRuns_ids : planIds (eraseRuns runs plans).2 = planIds plans := by
  induction runs generalizing plans with
  | nil => rfl
  | cons r runs ih =>
    unfold eraseRuns
    split
    · exact ih plans
    split
    · exact ih plans
    · exact (ih _).trans (onRunFinished_ids _ _ plans)

theorem eraseRuns_sublist : (eraseRuns runs plans).1.Sublist runs := by
  induction runs generalizing plans with
  | nil => exact List.Sublist.refl _
  | cons r runs ih =>
    unfold eraseRuns
    split
    · exact (ih plans).cons_cons r
    split
    · exact (ih plans).cons r
    · exact (ih _).cons r

/-- A finished run leaves the run manager as its outcome is entered. The runs before it, which the pass has
kept, stay in front of the induction. -/
theorem eraseRuns_booked (accepted : List (Option PlanId × R)) (runs kept : List (TestRun R)) (plans : List (Plan R))
    (hnodup : (planIds plans).Nodup) (hbooked : ∀ plan ∈ plans, plan.Booked ⟨kept ++ runs, accepted⟩) :
    ∀ plan ∈ (eraseRuns runs plans).2, plan.Booked ⟨kept ++ (eraseRuns runs plans).1, accepted⟩ := by
  induction runs generalizing kept plans with
  | nil => exact hbooked
  | cons r runs ih =>
    have hdropped (planId : PlanId) (hne : r.planId ≠ some planId) :
        SameFor planId ⟨kept ++ r :: runs, accepted⟩ ⟨kept ++ runs, accepted⟩ := by
      refine ⟨rfl, ?_⟩
      simp only [running, runIds_append, runIds_cons_other planId r runs hne]
    unfold eraseRuns
    split
    · have hnext := ih (kept ++ [r]) plans hnodup
      simp only [append_assoc, singleton_append] at hnext
      exact hnext hbooked
    split
    · rename_i hplan
      apply ih kept plans hnodup
      intro plan hp
      apply (hbooked plan hp).sameFor
      apply hdropped
      rw [hplan]
      exact (Option.some_ne_none _).symm
    · rename_i planId hplan
      apply ih kept
      · rw [onRunFinished_ids]
        exact hnodup
      intro plan hp
      rcases mem_onRunFinished hnodup hp with ⟨old, hmem, hid, rfl⟩ | ⟨hmem, hne⟩
      · have hb := hbooked old hmem
        have hmoved : (running ⟨kept ++ r :: runs, accepted⟩ old.spec.planId).Perm
            (r.runId :: running ⟨kept ++ runs, accepted⟩ old.spec.planId) := by
          rw [hid]
          simp only [running, runIds_append, runIds_cons_own planId r runs hplan]
          exact perm_middle
        have hactive := hb.active_perm.symm.subset (hmoved.symm.subset mem_cons_self)
        exact hb.runFinished _ hactive rfl hmoved
      · apply (hbooked plan hmem).sameFor
        apply hdropped
        rw [hplan]
        exact fun heq => hne (Option.some.inj heq).symm

theorem Accounted.tickRuns (hacc : h.Accounted) (w : Nat → RunTick) : (h.tickRuns w).Accounted := by
  have hticked (planId : PlanId) : SameFor planId h.mgr { h.mgr with runs := h.mgr.runs.mapIdx fun i r => tickRun r (w i) } :=
    ⟨rfl, tickRun_runIds planId w h.mgr.runs⟩
  have hnodup := hacc.nodup_ids
  rw [planIds_append] at hnodup
  unfold TestHarness.tickRuns
  generalize (h.mgr.runs.mapIdx fun i r => tickRun r (w i)) = runs at hticked
  have hids := eraseRuns_ids runs h.plans
  have hsub := eraseRuns_sublist runs h.plans
  have hbooked := eraseRuns_booked h.mgr.accepted runs [] h.plans hnodup.of_append_left
    fun plan hp => (hacc.plans plan hp).sameFor (hticked _)
  generalize eraseRuns runs h.plans = erased at hids hsub hbooked
  -- A plan none of whose runs is left to finish is not concerned.
  have hclosed (planId : PlanId) (hempty : h.mgr.running planId = []) :
      SameFor planId h.mgr { h.mgr with runs := erased.1 } := by
    refine ⟨rfl, ?_⟩
    have hrest : (runIds planId erased.1).Sublist (runIds planId runs) := hsub.filterMap _
    rw [show runIds planId runs = [] from (hticked planId).2.trans hempty] at hrest
    rw [hempty]
    exact sublist_nil.1 hrest
  have hlist : planIds (erased.2 ++ h.finalized) = planIds (h.plans ++ h.finalized) := by
    rw [planIds_append, planIds_append, hids]
  constructor
  · exact hbooked
  · intro plan hp
    obtain ⟨hb, hactive⟩ := hacc.finalized plan hp
    refine ⟨hb.sameFor (hclosed _ ?_), hactive⟩
    have hnil : plan.activeRunIds = [] := length_eq_zero_iff.1 (hb.activeNow_eq.symm.trans hactive)
    have hperm := hb.active_perm
    rw [hnil] at hperm
    exact nil_perm.1 hperm
  · rw [hlist]
    exact hacc.numbered
  · intro planId hne
    rw [hlist] at hne
    exact (hclosed planId (hacc.unknown planId hne).2).empty (hacc.unknown planId hne)

theorem Accounted.step (hacc : h.Accounted) (a : TestStep R) : (h.step a).Accounted := by
  cases a with
  | startPlan w spec => exact hacc.start w spec
  | stopPlan selector => exact hacc.stop selector
  | stopAllPlans reason => exact hacc.stopAll reason
  | startRun w dungeonToken heroic =>
    unfold TestHarness.step
    dsimp only
    split
    · rename_i m runId hstart
      exact hacc.sameFor fun planId => start_other hstart (Option.some_ne_none _).symm
    · exact hacc
  | stopRun selector => exact hacc.sameFor fun planId => sameFor_stop planId _ selector
  | tickPlans diff w => exact hacc.tick diff w
  | tickRuns w => exact hacc.tickRuns w

theorem accounted_run (steps : List (TestStep R)) : (Runs.run step empty steps).Accounted :=
  always (I := Accounted) (fun _ a hacc => hacc.step a) accounted_empty steps

/-- Nothing is launched for a finished plan, so it still is after its tick. -/
theorem tickPlan_finished (m : DcTestRunManager R) (diff : Nat) (w : PlanTick R)
    (hsum : plan.counters.launched = plan.counters.activeNow + plan.counters.succeeded + plan.counters.failed)
    (hf : finished plan = true) : finished (plan.tickPlan m diff w).1 = true := by
  unfold tickPlan
  dsimp only
  split
  · exact hf
  rename_i hstopping
  rw [if_pos]
  · exact hf
  by_contra hwanted
  have htotal := (launchesWanted_pos hwanted).1
  unfold finished isFinished at hf
  rw [Bool.not_eq_true] at hstopping
  simp only [hstopping, Bool.and_eq_true, Bool.false_or, decide_eq_true_eq] at hf
  omega

theorem tickPlans_finished (m : DcTestRunManager R) (hsum : ∀ plan ∈ plans,
      plan.counters.launched = plan.counters.activeNow + plan.counters.succeeded + plan.counters.failed) (hp : plan ∈ plans) (hf : finished plan = true) :
    ∃ ticked ∈ (tickPlans diff w plans m).1, ticked.spec = plan.spec ∧ finished ticked = true := by
  induction plans generalizing m with
  | nil => cases hp
  | cons first plans ih =>
    rcases mem_cons.1 hp with rfl | hp
    · refine ⟨_, mem_cons_self, ?_, ?_⟩
      · exact (plan.tickPlan_ticked m diff (w plan.spec.planId)).spec_eq
      · exact tickPlan_finished m diff _ (hsum plan mem_cons_self) hf
    · obtain ⟨ticked, hmem, heq⟩ := ih (first.tickPlan m diff (w first.spec.planId)).2
        (fun other ho => hsum other (mem_cons_of_mem _ ho)) hp
      exact ⟨ticked, mem_cons_of_mem _ hmem, heq⟩

theorem Accounted.tick_finalizes (hacc : h.Accounted) (diff : Nat) (w : PlanId → PlanTick R) (hp : plan ∈ h.plans)
    (hf : finished plan = true) :
    ∃ ticked ∈ (h.tick diff w).finalized, ticked.spec = plan.spec := by
  obtain ⟨ticked, hmem, hspec, hstill⟩ := tickPlans_finished diff w h.plans h.mgr
    (fun other ho => (hacc.plans other ho).launched_eq) hp hf
  exact ⟨ticked, mem_append_right _ (mem_filter.2 ⟨hmem, hstill⟩), hspec⟩

theorem step_finalized (h : TestHarness R) (a : TestStep R) : h.finalized <+: (h.step a).finalized := by
  cases a with
  | startPlan w spec =>
    have hsame : (h.start w spec).1.finalized = h.finalized := by
      rcases h.start_eq w spec with heq | ⟨plan, _, _, _, _, heq⟩ <;> rw [heq]
    exact hsame ▸ prefix_refl _
  | stopPlan selector => exact prefix_refl _
  | stopAllPlans reason => exact prefix_refl _
  | startRun w dungeonToken heroic =>
    unfold TestHarness.step
    dsimp only
    split <;> exact prefix_refl _
  | stopRun selector => exact prefix_refl _
  | tickPlans diff w => exact prefix_append _ _
  | tickRuns w => exact prefix_refl _

theorem run_finalized (h : TestHarness R) (steps : List (TestStep R)) : h.finalized <+: (Runs.run step h steps).finalized := by
  induction steps generalizing h with
  | nil => exact prefix_refl _
  | cons a steps ih => exact (h.step_finalized a).trans (ih _)

/-- The accounts of every plan, in every state of every run: what is launched is active or came out, once and
within the limits; every plan that was started is listed or finalised, and not both, and a finalised one stays
as it is with one outcome for each run; a tick finalises every plan that is finished. -/
theorem plan_accounting (steps more : List (TestStep R)) :
    let h := run step empty steps
    (∀ plan ∈ h.plans ++ h.finalized,
      plan.counters.launched = plan.counters.activeNow + plan.counters.succeeded + plan.counters.failed ∧
      plan.counters.activeNow = plan.activeRunIds.length ∧
      plan.counters.activeNow ≤ plan.spec.concurrent ∧
      plan.counters.launched ≤ plan.spec.total ∧
      (plan.outcomes.map runId ++ plan.activeRunIds).Perm (h.mgr.launches plan.spec.planId)) ∧
    ((planIds (h.plans ++ h.finalized)).map counter).Perm (range' 1 h.planCounter) ∧
    (∀ plan ∈ h.finalized, plan.counters.activeNow = 0 ∧ plan.outcomes.length = plan.counters.launched ∧
      (plan.outcomes.map runId).Perm (h.mgr.launches plan.spec.planId)) ∧
    h.finalized <+: (run step h more).finalized ∧
    ∀ diff w, (∀ plan ∈ h.plans, finished plan = true → ∃ ticked ∈ (h.tick diff w).finalized, ticked.spec = plan.spec) ∧
      ∀ plan ∈ (h.tick diff w).plans, finished plan = false := by
  intro h
  have hacc : h.Accounted := accounted_run steps
  have hbooked : ∀ plan ∈ h.plans ++ h.finalized, plan.Booked h.mgr := by
    intro plan hp
    rcases mem_append.1 hp with hp | hp
    · exact hacc.plans plan hp
    · exact (hacc.finalized plan hp).1
  refine ⟨?_, hacc.numbered, ?_, h.run_finalized more, ?_⟩
  · intro plan hp
    have hb := hbooked plan hp
    exact ⟨hb.launched_eq, hb.activeNow_eq, hb.activeNow_le, hb.launched_le, hb.launches_perm⟩
  · intro plan hp
    obtain ⟨hb, hactive⟩ := hacc.finalized plan hp
    have hnil : plan.activeRunIds = [] := length_eq_zero_iff.1 (hb.activeNow_eq.symm.trans hactive)
    have hperm := hb.launches_perm
    rw [hnil, append_nil] at hperm
    have hcount : plan.outcomes.length = plan.counters.succeeded + plan.counters.failed := by
      rw [hb.succeeded_eq, hb.failed_eq]
      have := List.length_eq_countP_add_countP (l := plan.outcomes) fun o => o.result = "success"
      simpa using this
    refine ⟨hactive, ?_, hperm⟩
    have := hb.launched_eq
    omega
  · intro diff w
    refine ⟨fun plan hp hf => hacc.tick_finalizes diff w hp hf, ?_⟩
    intro plan hp
    simpa using (mem_filter.1 hp).2

end TestHarness

end ComfyCraft
