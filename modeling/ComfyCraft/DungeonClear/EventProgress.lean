import ComfyCraft.DungeonClear.EventExecutor
import Mathlib.Data.List.Chain

/-! What a run of `Drive` calls leaves behind. The reports made since the progress was last reset or rewound
are listed beside it; the step index counts the steps that reported `Done` among them, in order. -/

namespace ComfyCraft

open List Runs List.Sublist List.IsChain DriveCall

structure Dungeons where
  mapOf : UInt32 → UInt32
  find : UInt32 → UInt32 → Option DungeonEvent
  find_id : ∀ mapId id ev, find mapId id = some ev → ev.id = id

/-- Inside an instance an event of its map is driven, outside any instance an event of some map. -/
def DriveCall.Of (d : Dungeons) (c : DriveCall) : Prop :=
  ∃ mapId, d.find mapId c.ev.id = some c.ev ∧ (c.instanceId ≠ 0 → mapId = d.mapOf c.instanceId)

structure Report where
  call : DriveCall
  stepIndex : Nat
  result : Option StepResult
  outcome : EventDriveOutcome
deriving DecidableEq

inductive EventAction (d : Dungeons)
  | drive (c : DriveCall) (of : c.Of d)
  | repeatEvent (now : UInt32)
  | reset

namespace DriveCall

def restarts (c : DriveCall) (prog : DungeonEventProgress) : Bool :=
  prog.newInstance c.instanceId || ((prog.atInstance c.instanceId).eventId ≠ c.ev.id ||
    ((prog.atInstance c.instanceId).lapsed c.config c.now && !c.ev.persistent))

def report (c : DriveCall) (prog : DungeonEventProgress) : Report where
  call := c
  stepIndex := (c.activated prog).stepIndex
  result := c.ev.steps[(c.activated prog).stepIndex]?.map fun active =>
    ((c.activated prog).runStep c.bot active c.now c.world).2
  outcome := (c.drive prog).2

end DriveCall

structure EventRun where
  prog : DungeonEventProgress
  log : List Report

namespace EventRun

variable {d : Dungeons}

def start : EventRun := ⟨{}, []⟩

def step (s : EventRun) : EventAction d → EventRun
  | .drive c _ =>
    if c.gated then s
    else ⟨(c.drive s.prog).1, if c.restarts s.prog then [c.report s.prog] else s.log ++ [c.report s.prog]⟩
  | .repeatEvent now => ⟨s.prog.repeatEvent now, []⟩
  | .reset => ⟨{}, []⟩

/-- The steps that reported `Done`, in the order of the reports. -/
def doneSteps (log : List Report) : List Nat := (log.filter fun r => r.result = some .done).map Report.stepIndex

/-- Every report is about `ev`, made in the instance `i` or outside any instance. -/
def OneVisit (s : EventRun) (ev : DungeonEvent) (i : UInt32) : Prop :=
  ∀ r ∈ s.log, r.call.ev = ev ∧ (r.call.instanceId = i ∨ r.call.instanceId = 0)

/-- Every step of `ev` reported `Done`, in order, in an instance as wanted. -/
def DoneInOrder (s : EventRun) (ev : DungeonEvent) (wanted : UInt32 → Prop) : Prop :=
  ∃ rs : List Report, rs.Sublist s.log ∧ rs.map Report.stepIndex = List.range ev.steps.length ∧
    ∀ r ∈ rs, r.result = some .done ∧ r.call.ev = ev ∧ wanted r.call.instanceId

end EventRun

namespace DungeonEventProgress

theorem runStep_frame (bot : Option EventBot) (active : EventStep) (prog : DungeonEventProgress) (now : UInt32)
    (world : StepWorld) :
    (prog.runStep bot active now world).1.stepIndex = prog.stepIndex ∧
      (prog.runStep bot active now world).1.maxStepIndex = prog.maxStepIndex ∧
      (prog.runStep bot active now world).1.eventId = prog.eventId ∧
      (prog.runStep bot active now world).1.instanceId = prog.instanceId ∧
      (prog.runStep bot active now world).1.lastDriveMs = prog.lastDriveMs := by
  unfold runStep
  cases bot with
  | none => exact ⟨rfl, rfl, rfl, rfl, rfl⟩
  | some bot =>
    dsimp only
    split_ifs <;> exact ⟨rfl, rfl, rfl, rfl, rfl⟩

theorem logStep_frame (prog : DungeonEventProgress) (result : Int) (now : UInt32) :
    (prog.logStep result now).stepIndex = prog.stepIndex ∧ (prog.logStep result now).maxStepIndex = prog.maxStepIndex ∧
      (prog.logStep result now).eventId = prog.eventId ∧
      (prog.logStep result now).instanceId = prog.instanceId ∧
      (prog.logStep result now).lastDriveMs = prog.lastDriveMs ∧
      (prog.logStep result now).stepStartMs = prog.stepStartMs ∧
      (prog.logStep result now).progressMs = prog.progressMs := by
  unfold logStep
  split_ifs <;> exact ⟨rfl, rfl, rfl, rfl, rfl, rfl, rfl⟩

theorem nextStep_frame (prog : DungeonEventProgress) (now : UInt32) : (prog.nextStep now).stepIndex = prog.stepIndex + 1 ∧
      (prog.nextStep now).maxStepIndex = max prog.maxStepIndex (prog.stepIndex + 1) ∧
      (prog.nextStep now).eventId = prog.eventId ∧ (prog.nextStep now).instanceId = prog.instanceId ∧
      (prog.nextStep now).lastDriveMs = prog.lastDriveMs := by
  unfold nextStep
  dsimp only
  split_ifs with h
  · exact ⟨rfl, (max_eq_right (le_of_lt h)).symm, rfl, rfl, rfl⟩
  · exact ⟨rfl, (max_eq_left (not_lt.1 h)).symm, rfl, rfl, rfl⟩

/-- Only a `Done` that neither timeout overrode moves the index. -/
theorem advance_cases (ev : DungeonEvent) (prog : DungeonEventProgress) (result : StepResult) (now dflt : UInt32) :
    (ev.steps[prog.stepIndex]? = none ∧ prog.advance ev result now dflt = (prog, .completed)) ∨
    (∃ active, ev.steps[prog.stepIndex]? = some active ∧ result = .done ∧ prog.escalate active result now dflt = .done ∧
      prog.advance ev result now dflt =
        (prog.nextStep now, if prog.stepIndex + 1 ≥ ev.steps.length then .completed else .running)) ∨
    (∃ active, ev.steps[prog.stepIndex]? = some active ∧ prog.escalate active result now dflt = .running ∧
      prog.advance ev result now dflt = (prog, .running)) ∨
    (∃ out, prog.advance ev result now dflt = (prog, out) ∧ (out = .stalled ∨ out = .skipped)) := by
  cases hstep : ev.steps[prog.stepIndex]? with
  | none => exact .inl ⟨rfl, by simp only [advance, hstep]⟩
  | some active =>
    cases hresult : prog.escalate active result now dflt with
    | running => exact .inr (.inr (.inl ⟨active, rfl, hresult, by simp only [advance, hstep, hresult]⟩))
    | done =>
      refine .inr (.inl ⟨active, rfl, ?_, hresult, by simp only [advance, hstep, hresult]⟩)
      unfold escalate at hresult
      dsimp only at hresult
      split_ifs at hresult
      exact hresult
    | blocked => exact .inr (.inr (.inr ⟨.stalled, by simp only [advance, hstep, hresult], .inl rfl⟩))
    | failed =>
      refine .inr (.inr (.inr ⟨if ev.required then .stalled else .skipped, by simp only [advance, hstep, hresult], ?_⟩))
      cases ev.required
      · exact .inr rfl
      · exact .inl rfl

end DungeonEventProgress

namespace DriveCall

open DungeonEventProgress

theorem activated_frame (c : DriveCall) (prog : DungeonEventProgress) :
    (c.activated prog).eventId = c.ev.id ∧ (c.activated prog).instanceId = c.instanceId ∧
      (c.activated prog).lastDriveMs = c.now := by
  unfold activated activate
  dsimp only
  split_ifs with hid
  · exact ⟨rfl, rfl, rfl⟩
  all_goals exact ⟨not_not.1 hid, rfl, rfl⟩

variable {c : DriveCall} {prog : DungeonEventProgress}

theorem activated_restarts (h : c.restarts prog = true) :
    (c.activated prog).stepIndex = 0 ∧ (c.activated prog).maxStepIndex = 0 := by
  unfold activated activate
  dsimp only
  split_ifs with hid hlapsed hpers
  · exact ⟨rfl, rfl⟩
  · have hnew : prog.newInstance c.instanceId = true := by simpa [restarts, not_not.1 hid, hpers] using h
    simp [atInstance, hnew]
  · exact ⟨rfl, rfl⟩
  · have hnew : prog.newInstance c.instanceId = true := by simpa [restarts, not_not.1 hid, hlapsed] using h
    simp [atInstance, hnew]

theorem activated_continues (h : c.restarts prog = false) :
    (c.activated prog).stepIndex = prog.stepIndex ∧ (c.activated prog).maxStepIndex = prog.maxStepIndex ∧
      prog.eventId = c.ev.id ∧ (prog.instanceId = 0 ∨ c.instanceId = 0 ∨ prog.instanceId = c.instanceId) := by
  obtain ⟨hnew, hid, hlapse⟩ : prog.newInstance c.instanceId = false ∧ (prog.atInstance c.instanceId).eventId = c.ev.id ∧
        ¬ ((prog.atInstance c.instanceId).lapsed c.config c.now = true ∧ c.ev.persistent = false) := by
    simpa [restarts, not_and] using h
  have hat : prog.atInstance c.instanceId = { prog with instanceId := c.instanceId } := by simp [atInstance, hnew]
  have hvisit : prog.instanceId = 0 ∨ c.instanceId = 0 ∨ prog.instanceId = c.instanceId := by
    by_contra hne
    push Not at hne
    have hdiffer : prog.newInstance c.instanceId = true := by simp [newInstance, hne]
    rw [hnew] at hdiffer
    exact absurd hdiffer (by decide)
  refine ⟨?_, ?_, by rw [hat] at hid; exact hid, hvisit⟩ <;>
  · unfold activated activate
    dsimp only
    split_ifs with h1 h2 h3
    · exact absurd hid h1
    · rw [hat]
    · exact absurd ⟨h2, by simpa using h3⟩ hlapse
    · rw [hat]

/-- Where a step is active, the call runs it, logs the result and advances. -/
theorem drive_advance {active : EventStep} (hgate : c.gated = false)
    (hstep : c.ev.steps[(c.activated prog).stepIndex]? = some active) :
    ∃ (logged : DungeonEventProgress) (result : StepResult), result = ((c.activated prog).runStep c.bot active c.now c.world).2 ∧
      logged.stepIndex = (c.activated prog).stepIndex ∧ logged.maxStepIndex = (c.activated prog).maxStepIndex ∧
      logged.eventId = c.ev.id ∧ logged.instanceId = c.instanceId ∧ logged.lastDriveMs = c.now ∧
      logged.stepStartMs = ((c.activated prog).runStep c.bot active c.now c.world).1.stepStartMs ∧
      c.drive prog = logged.advance c.ev result c.now c.defaultTimeoutMs := by
  obtain ⟨hid, hinst, hlast⟩ := activated_frame c prog
  obtain ⟨ran, hran⟩ : ∃ ran, ran = (c.activated prog).runStep c.bot active c.now c.world := ⟨_, rfl⟩
  obtain ⟨r1, r2, r3, r4, r5⟩ := runStep_frame c.bot active (c.activated prog) c.now c.world
  rw [← hran] at r1 r2 r3 r4 r5
  rw [← hran]
  refine ⟨if c.bot.isSome then ran.1.logStep ran.2.toInt c.now else ran.1, ran.2, rfl, ?_⟩
  rw [← hid, ← hinst, ← hlast]
  have hdrive : c.drive prog =
      (if c.bot.isSome then ran.1.logStep ran.2.toInt c.now else ran.1).advance c.ev ran.2 c.now c.defaultTimeoutMs := by
    unfold drive
    rw [if_neg (by rw [hgate]; decide), hran]
    simp only [hstep]
  rw [hdrive, hlast]
  split_ifs
  · obtain ⟨l1, l2, l3, l4, l5, l6, -⟩ := logStep_frame ran.1 ran.2.toInt c.now
    exact ⟨l1.trans r1, l2.trans r2, l3.trans r3, l4.trans r4, l5.trans (r5.trans hlast), l6, rfl⟩
  · exact ⟨r1, r2, r3, r4, r5.trans hlast, rfl, rfl⟩

theorem drive_cases (c : DriveCall) (prog : DungeonEventProgress) (hgate : c.gated = false) :
    (c.drive prog).1.eventId = c.ev.id ∧ (c.drive prog).1.instanceId = c.instanceId ∧
    (((c.activated prog).stepIndex < c.ev.steps.length ∧ (c.report prog).result = some .done ∧
        (c.drive prog).1.stepIndex = (c.activated prog).stepIndex + 1 ∧
        (c.drive prog).1.maxStepIndex = max (c.activated prog).maxStepIndex ((c.activated prog).stepIndex + 1) ∧
        ((c.drive prog).2 = .completed → c.ev.steps.length ≤ (c.activated prog).stepIndex + 1)) ∨
      ((c.drive prog).1.stepIndex = (c.activated prog).stepIndex ∧
        (c.drive prog).1.maxStepIndex = (c.activated prog).maxStepIndex ∧
        ((c.drive prog).2 = .completed → c.ev.steps.length ≤ (c.activated prog).stepIndex))) := by
  obtain ⟨hid, hinst, -⟩ := activated_frame c prog
  cases hstep : c.ev.steps[(c.activated prog).stepIndex]? with
  | none =>
    have hdrive : c.drive prog = (c.activated prog, .completed) := by
      unfold drive
      rw [if_neg (by rw [hgate]; decide)]
      simp only [hstep]
    rw [hdrive]
    exact ⟨hid, hinst, .inr ⟨rfl, rfl, fun _ => getElem?_eq_none_iff.1 hstep⟩⟩
  | some active =>
    obtain ⟨logged, result, hresult, f1, f2, f3, f4, -, -, hdrive⟩ := drive_advance hgate hstep
    have hlt : (c.activated prog).stepIndex < c.ev.steps.length := (List.getElem?_eq_some_iff.1 hstep).1
    rw [hdrive]
    obtain ⟨hnone, -⟩ | ⟨active', -, hdone, -, hadv⟩ | ⟨active', -, -, hadv⟩ | ⟨out, hadv, hout⟩ :=
      advance_cases c.ev logged result c.now c.defaultTimeoutMs
    · rw [f1, hstep] at hnone
      exact absurd hnone (by simp)
    · rw [hadv]
      obtain ⟨n1, n2, n3, n4, -⟩ := nextStep_frame logged c.now
      rw [f1] at n1 n2
      rw [f2] at n2
      refine ⟨n3.trans f3, n4.trans f4, .inl ⟨hlt, ?_, n1, n2, ?_⟩⟩
      · simp only [report, hstep, Option.map_some]
        rw [← hresult, hdone]
      rw [f1]
      split_ifs with hlen
      · exact fun _ => hlen
      · intro hcompleted
        cases hcompleted
    · rw [hadv]
      exact ⟨f3, f4, .inr ⟨f1, f2, fun hcompleted => by cases hcompleted⟩⟩
    · rw [hadv]
      refine ⟨f3, f4, .inr ⟨f1, f2, fun hcompleted => ?_⟩⟩
      obtain rfl | rfl := hout <;> cases hcompleted

end DriveCall

namespace EventRun

variable {d : Dungeons}

theorem doneSteps_append (log log' : List Report) : doneSteps (log ++ log') = doneSteps log ++ doneSteps log' := by
  unfold doneSteps
  rw [filter_append, map_append]

variable {c : DriveCall} {prog : DungeonEventProgress} {s : EventRun}

theorem doneSteps_report (h : (c.report prog).result = some .done) :
    doneSteps [c.report prog] = [(c.activated prog).stepIndex] := by
  unfold doneSteps
  rw [filter_cons_of_pos (by simpa using h)]
  rfl

/-- What holds of the progress and the reports since its last reset or rewind. -/
structure Kept (d : Dungeons) (s : EventRun) : Prop where
  high : s.prog.maxStepIndex = s.prog.stepIndex
  fresh : s.log = [] → s.prog.stepIndex = 0
  ids : ∀ r ∈ s.log, r.call.ev.id = s.prog.eventId ∧ r.call.Of d
  bound : ∀ ev, s.log ≠ [] → (∀ r ∈ s.log, r.call.ev = ev) → s.prog.stepIndex ≤ ev.steps.length
  order : (List.range s.prog.stepIndex).Sublist (doneSteps s.log)
  visits : s.log.IsChain fun r r' => r.call.instanceId = 0 ∨ r'.call.instanceId = 0 ∨ r.call.instanceId = r'.call.instanceId
  last : ∀ r ∈ s.log.getLast?, r.call.instanceId = s.prog.instanceId ∧
    (r.outcome = .completed → r.call.ev.steps.length ≤ s.prog.stepIndex)

theorem kept_start : Kept d start where
  high := rfl
  fresh _ := rfl
  ids r hr := by cases hr
  bound ev hne := absurd rfl hne
  order := slnil
  visits := nil
  last r hr := by cases hr

theorem kept_restarted (h : prog.stepIndex = 0 ∧ prog.maxStepIndex = 0) : Kept d ⟨prog, []⟩ where
  high := h.2.trans h.1.symm
  fresh _ := h.1
  ids r hr := by cases hr
  bound ev hne := absurd rfl hne
  order := by
    change (range prog.stepIndex).Sublist []
    rw [h.1]
    exact slnil
  visits := nil
  last r hr := by cases hr

theorem kept_report (of : c.Of d) (hgate : c.gated = false) (log : List Report)
    (hhigh : (c.activated prog).maxStepIndex = (c.activated prog).stepIndex)
    (hfresh : log = [] → (c.activated prog).stepIndex = 0)
    (hids : ∀ r ∈ log, r.call.ev.id = c.ev.id ∧ r.call.Of d)
    (hbound : log ≠ [] → (∀ r ∈ log, r.call.ev = c.ev) → (c.activated prog).stepIndex ≤ c.ev.steps.length)
    (horder : (List.range (c.activated prog).stepIndex).Sublist (doneSteps log))
    (hvisits : (log ++ [c.report prog]).IsChain fun r r' =>
      r.call.instanceId = 0 ∨ r'.call.instanceId = 0 ∨ r.call.instanceId = r'.call.instanceId) :
    Kept d ⟨(c.drive prog).1, log ++ [c.report prog]⟩ := by
  obtain ⟨hid, hinst, hmove⟩ := c.drive_cases prog hgate
  have hlast : ∀ r ∈ (log ++ [c.report prog]).getLast?, r = c.report prog := by
    intro r hr
    simpa using hr.symm
  have hidsNew : ∀ r ∈ log ++ [c.report prog], r.call.ev.id = (c.drive prog).1.eventId ∧ r.call.Of d := by
    intro r hr
    rw [hid]
    obtain hr | hr := mem_append.1 hr
    · exact hids r hr
    · rw [mem_singleton.1 hr]
      exact ⟨rfl, of⟩
  have hsame : ∀ ev, (∀ r ∈ log ++ [c.report prog], r.call.ev = ev) → ev = c.ev ∧ ∀ r ∈ log, r.call.ev = c.ev := by
    intro ev hev
    have hc : c.ev = ev := hev (c.report prog) (mem_append_right _ (mem_singleton_self _))
    exact ⟨hc.symm, fun r hr => (hev r (mem_append_left _ hr)).trans hc.symm⟩
  obtain ⟨hlt, hdone, hstep, hmax, hcompleted⟩ | ⟨hstep, hmax, hcompleted⟩ := hmove
  · refine ⟨?_, fun hnil => absurd hnil (by simp), hidsNew, ?_, ?_, hvisits, ?_⟩
    · change (c.drive prog).1.maxStepIndex = (c.drive prog).1.stepIndex
      rw [hmax, hstep, hhigh]
      omega
    · intro ev _ hev
      obtain ⟨rfl, -⟩ := hsame ev hev
      change (c.drive prog).1.stepIndex ≤ _
      rw [hstep]
      exact hlt
    · change (range (c.drive prog).1.stepIndex).Sublist (doneSteps (log ++ [c.report prog]))
      rw [hstep, range_succ, doneSteps_append, doneSteps_report hdone]
      exact horder.append (refl _)
    · intro r hr
      rw [hlast r hr]
      refine ⟨hinst.symm, fun hout => ?_⟩
      change c.ev.steps.length ≤ (c.drive prog).1.stepIndex
      rw [hstep]
      exact hcompleted hout
  · refine ⟨?_, fun hnil => absurd hnil (by simp), hidsNew, ?_, ?_, hvisits, ?_⟩
    · change (c.drive prog).1.maxStepIndex = (c.drive prog).1.stepIndex
      rw [hmax, hstep, hhigh]
    · intro ev _ hev
      obtain ⟨rfl, hold⟩ := hsame ev hev
      change (c.drive prog).1.stepIndex ≤ _
      rw [hstep]
      by_cases hnil : log = []
      · rw [hfresh hnil]
        exact Nat.zero_le _
      · exact hbound hnil hold
    · change (range (c.drive prog).1.stepIndex).Sublist (doneSteps (log ++ [c.report prog]))
      rw [hstep, doneSteps_append]
      exact horder.trans (sublist_append_left _ _)
    · intro r hr
      rw [hlast r hr]
      refine ⟨hinst.symm, fun hout => ?_⟩
      change c.ev.steps.length ≤ (c.drive prog).1.stepIndex
      rw [hstep]
      exact hcompleted hout

theorem kept_step (h : Kept d s) (a : EventAction d) : Kept d (s.step a) := by
  cases a with
  | repeatEvent now => exact kept_restarted ⟨rfl, rfl⟩
  | reset => exact kept_restarted ⟨rfl, rfl⟩
  | drive c of =>
    unfold step
    dsimp only
    split_ifs with hgate hrestarts
    · exact h
    · obtain ⟨hzero, hmax⟩ := activated_restarts hrestarts
      refine kept_report of (by simpa using hgate) [] (hmax.trans hzero.symm) (fun _ => hzero)
        (fun r hr => by cases hr) (fun hne => absurd rfl hne) ?_ (isChain_singleton _)
      rw [hzero]
      exact slnil
    · obtain ⟨hstep, hmax, hid, hvisit⟩ := activated_continues (by simpa using hrestarts)
      refine kept_report of (by simpa using hgate) s.log (by rw [hmax, hstep, h.high]) (fun hnil => by rw [hstep, h.fresh hnil])
        (fun r hr => by rw [← hid]; exact h.ids r hr) (fun hne hev => by rw [hstep]; exact h.bound c.ev hne hev)
        (by rw [hstep]; exact h.order) ?_
      rw [isChain_append]
      refine ⟨h.visits, isChain_singleton _, fun r hr r' hr' => ?_⟩
      have hr'' : r' = c.report s.prog := by simpa using hr'.symm
      rw [hr'', (h.last r hr).1]
      exact hvisit

theorem kept_run (as : List (EventAction d)) : Kept d (Runs.run step start as) :=
  invariant (I := Kept d) (fun _ a h (_ : True) => kept_step h a) kept_start (admitted_of_forall (fun _ _ => trivial) _ _)

/-- Calls that were all made inside instances were all made in one, and drove one event. -/
theorem Kept.oneVisit (h : Kept d s) {r : Report} (hr : r ∈ s.log.getLast?) (hinside : ∀ r' ∈ s.log, r'.call.instanceId ≠ 0) :
    ∀ r' ∈ s.log, r'.call.ev = r.call.ev ∧ r'.call.instanceId = r.call.instanceId := by
  have hmem : r ∈ s.log := mem_of_getLast? hr
  have hall : s.log.IsChain fun r₁ r₂ => r₁.call.instanceId = r₂.call.instanceId := by
    refine h.visits.imp_of_mem_imp fun r₁ r₂ h₁ h₂ hvisit => ?_
    obtain hzero | hzero | heq := hvisit
    · exact absurd hzero (hinside r₁ h₁)
    · exact absurd hzero (hinside r₂ h₂)
    · exact heq
  have : IsTrans Report fun r₁ r₂ => r₁.call.instanceId = r₂.call.instanceId := ⟨fun _ _ _ => Eq.trans⟩
  have hpair := isChain_iff_pairwise.1 hall
  obtain ⟨before, hlog⟩ := getLast?_eq_some_iff.1 hr
  intro r' hr'
  have hinst : r'.call.instanceId = r.call.instanceId := by
    rw [hlog] at hpair hr'
    obtain hr' | hr' := mem_append.1 hr'
    · exact (pairwise_append.1 hpair).2.2 r' hr' r (mem_singleton_self r)
    · rw [mem_singleton.1 hr']
  refine ⟨?_, hinst⟩
  obtain ⟨hid, m, hm, hmap⟩ := h.ids r hmem
  obtain ⟨hid', m', hm', hmap'⟩ := h.ids r' hr'
  rw [hmap (hinside r hmem), hid] at hm
  rw [hmap' (hinside r' hr'), hid', hinst, hm] at hm'
  exact (Option.some.inj hm').symm

/-- Event progress is per run of a dungeon, as far as the instance ids tell the runs apart. -/
theorem completed_in_order (d : Dungeons) (as : List (EventAction d)) :
    let s := run step start as
    s.prog.stepIndex ≤ s.prog.maxStepIndex ∧
    (∀ ev i, s.OneVisit ev i → s.prog.maxStepIndex ≤ ev.steps.length) ∧
    (∀ r ∈ s.log.getLast?, r.outcome = .completed → ∀ i, s.OneVisit r.call.ev i →
      s.DoneInOrder r.call.ev fun j => j = i ∨ j = 0) ∧
    (∀ r ∈ s.log.getLast?, (∀ r' ∈ s.log, r'.call.instanceId ≠ 0) → s.OneVisit r.call.ev r.call.instanceId) := by
  intro s
  have h : Kept d s := kept_run as
  refine ⟨h.high.ge, ?_, ?_, ?_⟩
  · intro ev i hvisit
    rw [h.high]
    by_cases hnil : s.log = []
    · rw [h.fresh hnil]
      exact Nat.zero_le _
    · exact h.bound ev hnil fun r hr => (hvisit r hr).1
  · intro r hr hcompleted i hvisit
    have hall : (range r.call.ev.steps.length).Sublist (doneSteps s.log) :=
      (range_sublist.2 ((h.last r hr).2 hcompleted)).trans h.order
    obtain ⟨rs, hsub, hrange⟩ := sublist_map_iff.1 hall
    refine ⟨rs, hsub.trans filter_sublist, hrange.symm, fun r' hr' => ?_⟩
    obtain ⟨hmem, hdone⟩ := mem_filter.1 (hsub.subset hr')
    obtain ⟨hev, hinst⟩ := hvisit r' hmem
    exact ⟨by simpa using hdone, hev, hinst⟩
  · intro r hr hinside r' hr'
    obtain ⟨hev, hinst⟩ := h.oneVisit hr hinside r' hr'
    exact ⟨hev, .inl hinst⟩

end EventRun

namespace EventSample

def config : PlayerbotAIConfig := ⟨10000, 100⟩

def event : DungeonEvent := ⟨209, 1, .any, [⟨.moveTo, 0⟩, ⟨.wait, 0⟩], true, true⟩

def dungeons : Dungeons where
  mapOf _ := 209
  find mapId id := if mapId = 209 ∧ id = 1 then some event else none
  find_id := by
    intro mapId id ev h
    split_ifs at h with hid
    cases h
    exact hid.2.symm

def call (instanceId : UInt32) (time : Nat) : DriveCall :=
  ⟨some ⟨instanceId, some .normal, 30⟩, event, time, config, ⟨.done, false, false⟩⟩

theorem call_of (instanceId : UInt32) (time : Nat) : (call instanceId time).Of dungeons :=
  ⟨209, rfl, fun _ => rfl⟩

end EventSample

open EventSample in
/-- The second step is done outside any instance, which keeps the progress made in instance 5. -/
theorem completed_elsewhere : ¬ ∀ (d : Dungeons) (as : List (EventAction d)),
    ∀ r ∈ (Runs.run EventRun.step EventRun.start as).log.getLast?, r.outcome = .completed →
      (Runs.run EventRun.step EventRun.start as).DoneInOrder r.call.ev fun j => j = r.call.instanceId := by
  intro hclaim
  obtain ⟨rs, hsub, hrange, hdone⟩ := hclaim dungeons
    [.drive (call 5 1000) (call_of 5 1000), .drive (call 0 1100) (call_of 0 1100)]
    ⟨call 0 1100, 1, some .done, .completed⟩ rfl rfl
  have hlog : (run EventRun.step EventRun.start [.drive (call 5 1000) (call_of 5 1000),
      .drive (call 0 1100) (call_of 0 1100)]).log =
      [⟨call 5 1000, 0, some .done, .running⟩, ⟨call 0 1100, 1, some .done, .completed⟩] := rfl
  rw [hlog] at hsub
  have hlength : rs.length = 2 := by
    rw [← length_map (f := Report.stepIndex), hrange]
    rfl
  have hrs := hsub.eq_of_length (by rw [hlength]; rfl)
  have hfirst := (hdone ⟨call 5 1000, 0, some .done, .running⟩ (by rw [hrs]; exact mem_cons_self)).2.2
  exact absurd hfirst (by decide)

end ComfyCraft
