import ComfyCraft.Threat.Adding
import Mathlib.Data.List.Sort

/-! What is done to the manager, in any order: the victim is selected, the units come and go. -/

namespace ComfyCraft.ThreatManager

open List Function Option

variable {F : Type} {o : FloatOps F} {w : World F} {units : Guid → Bool} {m : Manager F} {id : Nat} {u : Guid}

open Manager

/-! ### The victim -/

theorem Coherent.update (h : Coherent units m) : Coherent units (m.update o) := by
  have hperm : (m.update o).iThreatContainer.Perm m.iThreatContainer := by
    simp only [Manager.update]
    split
    · exact mergeSort_perm _ _
    · exact List.Perm.refl _
  refine ⟨hperm.nodup_iff.2 h.onlineNodup, h.offlineNodup, ?_, h.offline, h.unit, h.sound, ?_, h.fresh⟩
  · exact fun j => hperm.mem_iff.trans (h.online j)
  · exact fun v hv => hperm.mem_iff.2 (h.victim v hv)

/-- What an attempt ends with is of the online list, and the assertion holds. -/
def Manager.Selected.Within (m : Manager F) : Selected → Prop
  | .assertFailed => False
  | .noTarget => True
  | .found id => id ∈ m.iThreatContainer
  | .nobody cur => ∀ v, cur = some v → v ∈ m.iThreatContainer

section

variable (h : Coherent units m)
include h

theorem selectAttempt_within (low : Bool) (l : List Nat) (hl : ∀ id ∈ l, id ∈ m.iThreatContainer)
    (cur : Option Nat) (hcur : ∀ v, cur = some v → v ∈ m.iThreatContainer) :
    (selectAttempt o w m low l cur).Within m := by
  induction l generalizing cur with
  | nil => exact hcur
  | cons id rest ih =>
    have hid := hl id mem_cons_self
    have hrest := fun j hj => hl j (mem_cons_of_mem _ hj)
    obtain ⟨r, hr, honline⟩ := (h.online id).1 hid
    obtain ⟨target, htarget⟩ := isSome_iff_exists.1 ((h.sound id r hr).online honline)
    have hcur' : ∀ v, (if cur = some id then none else cur) = some v → v ∈ m.iThreatContainer := by
      intro v hv
      split at hv
      · cases hv
      · exact hcur v hv
    unfold selectAttempt
    rw [hr, bind_some, htarget]
    dsimp only
    split
    · trivial
    split
    · exact ih hrest _ hcur'
    split
    · exact ih hrest _ hcur'
    cases cur with
    | none => exact hid
    | some victim =>
      dsimp only
      split
      · exact hcur victim rfl
      split
      · exact hid
      · exact ih hrest _ hcur

theorem selectNextVictim_within :
    ∃ victim, m.selectNextVictim o w = some victim ∧ ∀ v, victim = some v → v ∈ m.iThreatContainer := by
  unfold selectNextVictim
  have hfirst := selectAttempt_within (o := o) (w := w) h false _ (fun _ hid => hid) _ h.victim
  cases hsel : selectAttempt o w m false m.iThreatContainer m.iCurrentVictim with
  | assertFailed => rw [hsel] at hfirst; exact hfirst.elim
  | noTarget => exact ⟨none, rfl, fun v hv => (by cases hv)⟩
  | found id =>
    rw [hsel] at hfirst
    exact ⟨some id, rfl, fun v hv => (by cases hv; exact hfirst)⟩
  | nobody cur =>
    rw [hsel] at hfirst
    have hsecond := selectAttempt_within (o := o) (w := w) h true _ (fun _ hid => hid) cur hfirst
    dsimp only
    cases hsel₂ : selectAttempt o w m true m.iThreatContainer cur with
    | assertFailed => rw [hsel₂] at hsecond; exact hsecond.elim
    | noTarget => exact ⟨none, rfl, fun v hv => (by cases hv)⟩
    | found id =>
      rw [hsel₂] at hsecond
      exact ⟨some id, rfl, fun v hv => (by cases hv; exact hsecond)⟩
    | nobody cur' => exact ⟨none, rfl, fun v hv => (by cases hv)⟩

theorem Coherent.setVictim {victim : Option Nat} (hv : ∀ v, victim = some v → v ∈ m.iThreatContainer) :
    Coherent units { m with iCurrentVictim := victim } :=
  ⟨h.1, h.2, h.3, h.4, h.5, h.6, hv, h.8⟩

theorem Coherent.getHostileTarget : ∃ m', m.getHostileTarget o w = some m' ∧ Coherent units m' := by
  have h₁ := h.update (o := o)
  obtain ⟨victim, hsel, hvictim⟩ := selectNextVictim_within (o := o) (w := w) h₁
  exact ⟨_, by simp only [Manager.getHostileTarget, hsel, map_some], h₁.setVictim hvictim⟩

theorem Coherent.setCurrentVictimIfCan (pVictim : Guid) : Coherent units (m.setCurrentVictimIfCan pVictim) := by
  unfold Manager.setCurrentVictimIfCan
  cases hfind : m.getReferenceByTarget m.iThreatContainer pVictim with
  | none => exact h
  | some id =>
    refine h.setVictim fun v hv => ?_
    cases hv
    exact mem_of_find?_eq_some hfind

end

/-! ### Units come and go -/

theorem Coherent.clearReferences (h : Coherent units m) : Coherent units m.clearReferences := by
  have hnone : ∀ id, m.clearReferences.refs id = none := by
    intro id
    simp only [Manager.clearReferences]
    split
    · rfl
    rename_i hnot
    rw [mem_append, h.online, h.offline] at hnot
    cases hr : m.refs id with
    | none => rfl
    | some r =>
      cases honline : r.iOnline with
      | true => exact absurd (.inl ⟨r, hr, honline⟩) hnot
      | false => exact absurd (.inr ⟨r, hr, honline⟩) hnot
  have hempty : ∀ id r, m.clearReferences.refs id ≠ some r := fun id r => by simp [hnone id]
  refine ⟨nodup_nil, nodup_nil, fun j => ?_, fun j => ?_, fun i j r r' hr => absurd hr (hempty i r),
    fun j r hr => absurd hr (hempty j r), fun v hv => ?_, fun j _ => hnone j⟩
  · exact iff_of_false not_mem_nil fun ⟨r, hr, _⟩ => hempty j r hr
  · exact iff_of_false not_mem_nil fun ⟨r, hr, _⟩ => hempty j r hr
  · cases hv

/-- The units a reference points at still exist. -/
theorem Coherent.among (h : Coherent units m) {units' : Guid → Bool}
    (hu : ∀ id r v, m.refs id = some r → r.iRefTo = some v → units v = true → units' v = true) : Coherent units' m := by
  refine ⟨h.1, h.2, h.3, h.4, h.5, fun j r hr => ?_, h.7, h.8⟩
  have hs := h.sound j r hr
  exact ⟨fun v hv => ⟨(hs.target v hv).1, hu j r v hr hv (hs.target v hv).2⟩, hs.online, hs.source⟩

theorem removeReference_refs (m : Manager F) (id : Nat) : (m.removeReference o id).refs = Function.update m.refs id none := by
  funext j
  unfold removeReference free
  dsimp only
  by_cases hj : j = id
  · subst hj
    rw [update_self, update_self]
  · rw [update_of_ne hj, update_of_ne hj, fireStatusChanged_refs]
    unfold invalidate
    rw [modify_refs_other _ _ hj, setOnlineOfflineState_refs]
    simp [hj]

theorem deleted_refs (l : List Nat) (m : Manager F) (j : Nat) :
    (l.foldl (fun m id => m.removeReference o id) m).refs j = if j ∈ l then none else m.refs j := by
  induction l generalizing m with
  | nil => simp
  | cons id rest ih =>
    rw [foldl_cons, ih, removeReference_refs]
    by_cases hj : j ∈ rest
    · simp [hj]
    by_cases hid : j = id
    · simp [hid]
    · simp [hj, hid]

theorem Coherent.deleted_unpointed (h : Coherent units m) (id : Nat) (r : HostileReference F)
    (hr : ((m.hatedBy u).foldl (fun m id => m.removeReference o id) m).refs id = some r) : r.iRefTo ≠ some u := by
  intro hto
  rw [deleted_refs] at hr
  split at hr
  · cases hr
  rename_i hnot
  apply hnot
  rw [hatedBy, mem_filter, mem_append, h.online, h.offline]
  refine ⟨?_, by simp [hr, hto]⟩
  cases honline : r.iOnline with
  | true => exact .inl ⟨r, hr, honline⟩
  | false => exact .inr ⟨r, hr, honline⟩

theorem Coherent.foldl {f : Manager F → Nat → Manager F} (hf : ∀ m id, Coherent units m → Coherent units (f m id)) (l : List Nat)
    (h : Coherent units m) : Coherent units (l.foldl f m) := by
  induction l generalizing m with
  | nil => exact h
  | cons id rest ih => exact ih (hf m id h)

theorem Coherent.setOnlineOfflineStates (b : Bool) (l : List Nat) (h : Coherent units m)
    (hl : ∀ id ∈ l, ∀ r, m.refs id = some r → r.iRefTo.isSome = true) :
    Coherent units (l.foldl (fun m id => m.setOnlineOfflineState o id b) m) := by
  induction l generalizing m with
  | nil => exact h
  | cons id rest ih =>
    refine ih (h.setOnlineOfflineState id b fun _ => hl id mem_cons_self) fun j hj r hr => ?_
    rw [setOnlineOfflineState_refs] at hr
    obtain ⟨r₀, hr₀, heq⟩ := map_eq_some_iff.1 hr
    have hto := hl j (mem_cons_of_mem _ hj) r₀ hr₀
    split at heq <;> (rw [← heq]; exact hto)

theorem hatedBy_linked (m : Manager F) (u : Guid) (id : Nat) (hid : id ∈ m.hatedBy u) (r : HostileReference F)
    (hr : m.refs id = some r) : r.iRefTo.isSome = true := by
  have hto := (mem_filter.1 hid).2
  simp only [hr, any_some, decide_eq_true_eq] at hto
  rw [hto]
  rfl

/-! ### Every run -/

/-- A step from a coherent state ends in one; the assertion on the target of an online reference holds. -/
theorem step_coherent (o : FloatOps F) {s : State F} (h : Coherent s.units s.manager) (e : Event F) :
    ∃ s', step o s e = some s' ∧ Coherent s'.units s'.manager := by
  have hw : ∀ w : World F, (w.among s.units).Within s.units := fun w => w.among_within s.units
  cases e with
  | addThreat w u threat how =>
    simp only [step]
    split
    · rename_i hu
      exact ⟨_, rfl, h.addThreat (hw w) _ hu threat how⟩
    · exact ⟨s, rfl, h⟩
  | addThreatDirectly w u threat =>
    simp only [step]
    split
    · rename_i hu
      exact ⟨_, rfl, h.addThreatDirectly (hw w) hu threat (Coherent.ownerThreat (hw w) _)⟩
    · exact ⟨s, rfl, h⟩
  | modifyThreatPercent w u pct => exact ⟨_, rfl, h.modifyThreatPercent (hw w) u pct⟩
  | tauntApply w u => exact ⟨_, rfl, h.tauntApply (hw w) u⟩
  | tauntFadeOut w u => exact ⟨_, rfl, h.tauntFadeOut (hw w) u⟩
  | getHostileTarget w =>
    obtain ⟨m', hm', h'⟩ := h.getHostileTarget (o := o) (w := w.among s.units)
    exact ⟨{ s with manager := m' }, by simp only [step, hm', map_some], h'⟩
  | setCurrentVictimIfCan u => exact ⟨_, rfl, h.setCurrentVictimIfCan u⟩
  | clearReferences => exact ⟨_, rfl, h.clearReferences⟩
  | setOnlineOfflineState u online => exact ⟨_, rfl, h.setOnlineOfflineStates online _ (hatedBy_linked s.manager u)⟩
  | updateThreatTables w u => exact ⟨_, rfl, h.foldl (fun m id hm => hm.updateOnlineStatus (hw w) id) _⟩
  | addThreatPercent w u pct => exact ⟨_, rfl, h.foldl (fun m id hm => hm.addThreatPercent (hw w) id pct) _⟩
  | addTempThreat w u threat apply =>
    refine ⟨_, rfl, h.foldl (fun m id hm => ?_) _⟩
    split
    · split
      · exact hm
      · exact (hm.setTempModifier id threat).addThreatTo (hw w) id threat
    · exact hm.resetTempThreat (hw w) id
  | deleteReferences u => exact ⟨_, rfl, h.foldl (fun m id hm => hm.removeReference id) _⟩
  | invalidateReferences u => exact ⟨_, rfl, h.foldl (fun m id hm => hm.invalidate id) _⟩
  | destroyed u =>
    have hgone : Coherent s.units ((s.manager.hatedBy u).foldl (fun m id => m.removeReference o id) s.manager) :=
      h.foldl (fun m id hm => hm.removeReference id) _
    refine ⟨_, rfl, hgone.among fun id r v hr hv hu => ?_⟩
    have hne : v ≠ u := by
      rintro rfl
      exact h.deleted_unpointed id r hr hv
    simpa [hne] using hu
  | created u =>
    refine ⟨_, rfl, h.among fun id r v _ _ hv => ?_⟩
    by_cases hvu : v = u <;> simp [hvu, hv]

theorem init_coherent (owner : Guid) (units : Guid → Bool) : Coherent units (init (F := F) owner units).manager := by
  refine ⟨nodup_nil, nodup_nil, fun j => ?_, fun j => ?_, fun i j r r' hr => ?_, fun j r hr => ?_, fun v hv => ?_,
    fun j _ => rfl⟩
  · exact iff_of_false not_mem_nil fun ⟨_, hr, _⟩ => by cases hr
  · exact iff_of_false not_mem_nil fun ⟨_, hr, _⟩ => by cases hr
  · cases hr
  · cases hr
  · cases hv

theorem run_coherent (o : FloatOps F) {s : State F} (h : Coherent s.units s.manager) (es : List (Event F)) :
    ∃ s', es.foldlM (step o) s = some s' ∧ Coherent s'.units s'.manager := by
  induction es generalizing s with
  | nil => exact ⟨s, rfl, h⟩
  | cons e es ih =>
    obtain ⟨s₁, hstep, h₁⟩ := step_coherent o h e
    obtain ⟨s', hrun, h'⟩ := ih h₁
    exact ⟨s', by simp only [foldlM_cons, hstep, bind_eq_bind, bind_some, hrun], h'⟩

theorem lists_in_step (o : FloatOps F) (owner : Guid) (units : Guid → Bool) (es : List (Event F)) :
    ∃ s, es.foldlM (step o) (init owner units) = some s ∧
      (s.manager.iThreatContainer ++ s.manager.iThreatOfflineContainer).Nodup ∧
      (∀ i ∈ s.manager.iThreatContainer ++ s.manager.iThreatOfflineContainer,
        ∀ j ∈ s.manager.iThreatContainer ++ s.manager.iThreatOfflineContainer,
          unitOf s.manager i = unitOf s.manager j → i = j) ∧
      (∀ id r, s.manager.refs id = some r →
        (id ∈ s.manager.iThreatContainer ↔ r.iOnline = true) ∧ (id ∈ s.manager.iThreatOfflineContainer ↔ r.iOnline = false)) ∧
      (∀ id ∈ s.manager.iThreatContainer, ∃ r, s.manager.refs id = some r ∧ r.iRefTo = some r.iUnitGuid ∧
        s.units r.iUnitGuid = true) ∧
      ∀ v, s.manager.iCurrentVictim = some v → v ∈ s.manager.iThreatContainer := by
  obtain ⟨s, hrun, h⟩ := run_coherent o (s := init owner units) (init_coherent owner units) es
  have hflag : ∀ {id : Nat} {b : Bool}, (∃ r, s.manager.refs id = some r ∧ r.iOnline = b) →
      ∀ r, s.manager.refs id = some r → r.iOnline = b := by
    rintro id b ⟨r', hr', hb⟩ r hr
    rw [hr] at hr'
    cases hr'
    exact hb
  have hread : ∀ id ∈ s.manager.iThreatContainer ++ s.manager.iThreatOfflineContainer, ∃ r, s.manager.refs id = some r := by
    intro id hid
    rcases mem_append.1 hid with hon | hoff
    · exact ((h.online id).1 hon).imp fun _ hr => hr.1
    · exact ((h.offline id).1 hoff).imp fun _ hr => hr.1
  refine ⟨s, hrun, ?_, ?_, ?_, ?_, h.victim⟩
  · refine List.Nodup.append h.onlineNodup h.offlineNodup fun id hon hoff => ?_
    obtain ⟨r, hr, hb⟩ := (h.online id).1 hon
    rw [hflag ((h.offline id).1 hoff) r hr] at hb
    cases hb
  · intro i hi j hj heq
    obtain ⟨r, hr⟩ := hread i hi
    obtain ⟨r', hr'⟩ := hread j hj
    rw [unitOf, unitOf, hr, hr', map_some, map_some, some.injEq] at heq
    exact h.unit i j r r' hr hr' heq
  · intro id r hr
    exact ⟨⟨fun hon => hflag ((h.online id).1 hon) r hr, fun hb => (h.online id).2 ⟨r, hr, hb⟩⟩,
      ⟨fun hoff => hflag ((h.offline id).1 hoff) r hr, fun hb => (h.offline id).2 ⟨r, hr, hb⟩⟩⟩
  · intro id hid
    obtain ⟨r, hr, honline⟩ := (h.online id).1 hid
    have hs := h.sound id r hr
    obtain ⟨target, htarget⟩ := isSome_iff_exists.1 (hs.online honline)
    obtain ⟨rfl, hu⟩ := hs.target target htarget
    exact ⟨r, hr, htarget, hu⟩

end ComfyCraft.ThreatManager
