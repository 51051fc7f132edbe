import ComfyCraft.Threat.Model
import Mathlib.Data.List.Nodup

/-! The two lists, the flags and targets of the references and the current victim stay in step, whatever is
done to the manager from inside its references. -/

namespace ComfyCraft.ThreatManager

open List Function Option Bool List.Nodup

variable {F : Type} {o : FloatOps F} {w : World F} {units : Guid → Bool} {m m' : Manager F}
  {id : Nat} {r : HostileReference F}

open Manager

/-- A reference on its own: it points at the unit it is for, that unit exists, and an online one points. -/
structure HostileReference.Sound (units : Guid → Bool) (r : HostileReference F) : Prop where
  target : ∀ u, r.iRefTo = some u → u = r.iUnitGuid ∧ units u = true
  online : r.iOnline = true → r.iRefTo.isSome = true
  source : r.iRefFrom = true

structure Coherent (units : Guid → Bool) (m : Manager F) : Prop where
  onlineNodup : m.iThreatContainer.Nodup
  offlineNodup : m.iThreatOfflineContainer.Nodup
  online : ∀ id, id ∈ m.iThreatContainer ↔ ∃ r, m.refs id = some r ∧ r.iOnline = true
  offline : ∀ id, id ∈ m.iThreatOfflineContainer ↔ ∃ r, m.refs id = some r ∧ r.iOnline = false
  unit : ∀ i j r r', m.refs i = some r → m.refs j = some r' → r.iUnitGuid = r'.iUnitGuid → i = j
  sound : ∀ id r, m.refs id = some r → r.Sound units
  victim : ∀ v, m.iCurrentVictim = some v → v ∈ m.iThreatContainer
  fresh : ∀ id, m.nextRef ≤ id → m.refs id = none

/-! ### One reference -/

@[simp] theorem modify_refs_self (m : Manager F) (id : Nat) (f : HostileReference F → HostileReference F) :
    (m.modify id f).refs id = (m.refs id).map f := update_self ..

variable {j : Nat} {f : HostileReference F → HostileReference F} {u : Guid}

theorem modify_refs_other (m : Manager F) {id : Nat} (f : HostileReference F → HostileReference F) (hj : j ≠ id) :
    (m.modify id f).refs j = m.refs j := update_of_ne hj ..

theorem modify_none {id : Nat} (f : HostileReference F → HostileReference F) (hr : m.refs id = none) : m.modify id f = m := by
  unfold Manager.modify
  rw [hr, map_none, ← hr, update_eq_self]

theorem modify_same {id : Nat} {r : HostileReference F} (hr : m.refs id = some r) (hf : f r = r) : m.modify id f = m := by
  unfold Manager.modify
  rw [hr, map_some, hf, ← hr, update_eq_self]

theorem mem_remove {l : List Nat} {id : Nat} : j ∈ Manager.remove l id ↔ j ∈ l ∧ j ≠ id := by
  simp [remove]

section

variable (h : Coherent units m)
include h

/-- A reference of the same unit in the place of one, with the lists as its flag says. -/
theorem Coherent.replaced {id : Nat} {r r' : HostileReference F} (hr : m.refs id = some r)
    (hguid : r'.iUnitGuid = r.iUnitGuid) (hsound : r'.Sound units)
    (hrefs : m'.refs = Function.update m.refs id (some r')) (hnext : m'.nextRef = m.nextRef)
    (hon : m'.iThreatContainer.Nodup ∧ ∀ j, j ∈ m'.iThreatContainer ↔ if j = id then r'.iOnline = true else j ∈ m.iThreatContainer)
    (hoff : m'.iThreatOfflineContainer.Nodup ∧
      ∀ j, j ∈ m'.iThreatOfflineContainer ↔ if j = id then r'.iOnline = false else j ∈ m.iThreatOfflineContainer)
    (hvictim : ∀ v, m'.iCurrentVictim = some v → v ∈ m'.iThreatContainer) : Coherent units m' := by
  have hself : m'.refs id = some r' := by rw [hrefs, update_self]
  have hother : ∀ j, j ≠ id → m'.refs j = m.refs j := fun j hj => by rw [hrefs, update_of_ne hj]
  -- what is allocated now is what was, under the same unit
  have hread : ∀ j s, m'.refs j = some s → ∃ s₀, m.refs j = some s₀ ∧ s.iUnitGuid = s₀.iUnitGuid := by
    intro j s hs
    by_cases hj : j = id
    · subst hj
      rw [hself] at hs
      cases hs
      exact ⟨r, hr, hguid⟩
    · exact ⟨s, (hother j hj).symm.trans hs, rfl⟩
  refine ⟨hon.1, hoff.1, ?_, ?_, ?_, ?_, hvictim, ?_⟩
  · intro j
    rw [hon.2 j]
    by_cases hj : j = id
    · subst hj
      simp [hself]
    · simp [hj, hother j hj, h.online j]
  · intro j
    rw [hoff.2 j]
    by_cases hj : j = id
    · subst hj
      simp [hself]
    · simp [hj, hother j hj, h.offline j]
  · intro i j s s' hs hs' heq
    obtain ⟨s₀, hs₀, hg⟩ := hread i s hs
    obtain ⟨s₀', hs₀', hg'⟩ := hread j s' hs'
    exact h.unit i j s₀ s₀' hs₀ hs₀' (by rw [← hg, ← hg', heq])
  · intro j s hs
    by_cases hj : j = id
    · subst hj
      rw [hself] at hs
      cases hs
      exact hsound
    · exact h.sound j s ((hother j hj).symm.trans hs)
  · intro j hj
    rw [hnext] at hj
    have hne : j ≠ id := by
      rintro rfl
      rw [h.fresh j hj] at hr
      cases hr
    rw [hother j hne, h.fresh j hj]

theorem Coherent.setDirty (b : Bool) : Coherent units { m with iDirty := b } :=
  ⟨h.1, h.2, h.3, h.4, h.5, h.6, h.7, h.8⟩

/-- A change to one reference that leaves its unit and its flag. -/
theorem Coherent.modified (id : Nat)
    (hf : ∀ r, m.refs id = some r → (f r).iUnitGuid = r.iUnitGuid ∧ (f r).iOnline = r.iOnline ∧ (f r).Sound units) :
    Coherent units (m.modify id f) := by
  cases hr : m.refs id with
  | none => rwa [modify_none f hr]
  | some r =>
    obtain ⟨hguid, honline, hsound⟩ := hf r hr
    refine h.replaced hr hguid hsound (by simp [Manager.modify, hr]) rfl ⟨h.onlineNodup, fun j => ?_⟩
      ⟨h.offlineNodup, fun j => ?_⟩ h.victim
    · by_cases hj : j = id
      · subst hj
        simp [Manager.modify, h.online j, hr, honline]
      · simp [Manager.modify, hj]
    · by_cases hj : j = id
      · subst hj
        simp [Manager.modify, h.offline j, hr, honline]
      · simp [Manager.modify, hj]

/-- In particular one to its threat, its temporary threat or whether it can be reached. -/
theorem Coherent.modified_same (id : Nat)
    (hf : ∀ r, (f r).iUnitGuid = r.iUnitGuid ∧ (f r).iOnline = r.iOnline ∧ (f r).iRefTo = r.iRefTo ∧ (f r).iRefFrom = r.iRefFrom) :
    Coherent units (m.modify id f) := by
  refine h.modified id fun r hr => ?_
  obtain ⟨hguid, honline, hto, hfrom⟩ := hf r
  have hs := h.sound id r hr
  refine ⟨hguid, honline, ⟨?_, ?_, ?_⟩⟩
  · rw [hto, hguid]; exact hs.target
  · rw [hto, honline]; exact hs.online
  · rw [hfrom]; exact hs.source

end

/-! ### Its states -/

theorem fireStatusChanged_of (hr : m.refs id = some r) (hsource : r.iRefFrom = true) (e : ThreatRefStatusChangeEvent F) :
    m.fireStatusChanged o id e = m.processThreatEvent o id r e := by
  simp [fireStatusChanged, hr, hsource]

/-- Nothing listens to whether a reference can be reached. -/
theorem setAccessibleState_eq (o : FloatOps F) (m : Manager F) (id : Nat) (b : Bool) :
    m.setAccessibleState o id b = m.modify id fun ref => { ref with iAccessible := b } := by
  unfold setAccessibleState
  cases hr : m.refs id with
  | none => exact (modify_none _ hr).symm
  | some r =>
    by_cases hb : r.iAccessible = b
    · simp only [hb, ne_eq, not_true_eq_false, if_false]
      exact (modify_same hr (by rw [← hb])).symm
    · simp only [ne_eq, hb, not_false_eq_true, if_true]
      unfold fireStatusChanged
      rw [modify_refs_self, hr]
      simp [processThreatEvent]

theorem Coherent.setAccessibleState (h : Coherent units m) (id : Nat) (b : Bool) :
    Coherent units (m.setAccessibleState o id b) := by
  rw [setAccessibleState_eq]
  exact h.modified_same id fun r => ⟨rfl, rfl, rfl, rfl⟩

@[simp] theorem clearVictim_lists (m : Manager F) (id : Nat) :
    (m.clearVictim id).refs = m.refs ∧ (m.clearVictim id).nextRef = m.nextRef ∧
      (m.clearVictim id).iThreatContainer = m.iThreatContainer ∧
      (m.clearVictim id).iThreatOfflineContainer = m.iThreatOfflineContainer := by
  unfold clearVictim
  split <;> exact ⟨rfl, rfl, rfl, rfl⟩

theorem clearVictim_victim {m : Manager F} {id v : Nat} (hv : (m.clearVictim id).iCurrentVictim = some v) :
    m.iCurrentVictim = some v ∧ v ≠ id := by
  unfold clearVictim at hv
  split at hv
  · cases hv
  · rename_i hne
    exact ⟨hv, fun heq => hne (heq ▸ hv)⟩

/-- The manager moves a reference between its lists, and leaves it as it is. -/
theorem processThreatEvent_refs (o : FloatOps F) (m : Manager F) (id : Nat) (r : HostileReference F)
    (e : ThreatRefStatusChangeEvent F) : (m.processThreatEvent o id r e).refs = m.refs := by
  cases e with
  | threatChange fValue =>
    simp only [processThreatEvent]
    split <;> rfl
  | accessibleStatus => rfl
  | onlineStatus =>
    simp only [processThreatEvent]
    split
    · exact (clearVictim_lists m id).1
    · rfl
  | removeFromList =>
    simp only [processThreatEvent]
    split <;> exact (clearVictim_lists m id).1

theorem fireStatusChanged_refs (o : FloatOps F) (m : Manager F) (id : Nat) (e : ThreatRefStatusChangeEvent F) :
    (m.fireStatusChanged o id e).refs = m.refs := by
  unfold fireStatusChanged
  cases m.refs id with
  | none => rfl
  | some r =>
    dsimp only
    split
    · exact processThreatEvent_refs ..
    · rfl

/-- A reference goes offline: out of the one list, into the other, no victim any more. -/
theorem Coherent.toOffline (h : Coherent units m) (hr : m.refs id = some r) (honline : r.iOnline = true)
    (hrefs : m'.refs = Function.update m.refs id (some { r with iOnline := false, iAccessible := false }))
    (hnext : m'.nextRef = m.nextRef) (hon : m'.iThreatContainer = Manager.remove m.iThreatContainer id)
    (hoff : m'.iThreatOfflineContainer = m.iThreatOfflineContainer ++ [id])
    (hvictim : ∀ v, m'.iCurrentVictim = some v → m.iCurrentVictim = some v ∧ v ≠ id) : Coherent units m' := by
  have hs := h.sound id r hr
  have hnot : id ∉ m.iThreatOfflineContainer := by
    rw [h.offline id]
    rintro ⟨r', hr', hoffline⟩
    rw [hr] at hr'
    cases hr'
    rw [honline] at hoffline
    cases hoffline
  have hsound : HostileReference.Sound units { r with iOnline := false, iAccessible := false } :=
    ⟨hs.target, fun hcon => by simp at hcon, hs.source⟩
  refine h.replaced hr (by rfl) hsound hrefs hnext ⟨?_, fun j => ?_⟩ ⟨?_, fun j => ?_⟩ ?_
  · rw [hon]; exact h.onlineNodup.filter _
  · by_cases hj : j = id <;> simp [hon, mem_remove, hj]
  · rw [hoff]; exact append h.offlineNodup (nodup_singleton _) (by simpa using hnot)
  · by_cases hj : j = id <;> simp [hoff, hj]
  intro v hv
  obtain ⟨hv, hne⟩ := hvictim v hv
  rw [hon, mem_remove]
  exact ⟨h.victim v hv, hne⟩

theorem Coherent.toOnline (h : Coherent units m) (hr : m.refs id = some r) (honline : r.iOnline = false)
    (hto : r.iRefTo.isSome = true) (hrefs : m'.refs = Function.update m.refs id (some { r with iOnline := true }))
    (hnext : m'.nextRef = m.nextRef) (hon : m'.iThreatContainer = m.iThreatContainer ++ [id])
    (hoff : m'.iThreatOfflineContainer = Manager.remove m.iThreatOfflineContainer id)
    (hvictim : m'.iCurrentVictim = m.iCurrentVictim) : Coherent units m' := by
  have hs := h.sound id r hr
  have hnot : id ∉ m.iThreatContainer := by
    rw [h.online id]
    rintro ⟨r', hr', hcon⟩
    rw [hr] at hr'
    cases hr'
    rw [honline] at hcon
    cases hcon
  have hsound : HostileReference.Sound units { r with iOnline := true } := ⟨hs.target, fun _ => hto, hs.source⟩
  refine h.replaced hr (by rfl) hsound hrefs hnext ⟨?_, fun j => ?_⟩ ⟨?_, fun j => ?_⟩ ?_
  · rw [hon]; exact append h.onlineNodup (nodup_singleton _) (by simpa using hnot)
  · by_cases hj : j = id <;> simp [hon, hj]
  · rw [hoff]; exact h.offlineNodup.filter _
  · by_cases hj : j = id <;> simp [hoff, mem_remove, hj]
  intro v hv
  rw [hon]
  exact mem_append_left _ (h.victim v (hvictim ▸ hv))

/-- A reference is only set online while it points at its unit. -/
theorem Coherent.setOnlineOfflineState (h : Coherent units m) (id : Nat) (b : Bool)
    (hto : b = true → ∀ r, m.refs id = some r → r.iRefTo.isSome = true) : Coherent units (m.setOnlineOfflineState o id b) := by
  unfold Manager.setOnlineOfflineState
  cases hr : m.refs id with
  | none => exact h
  | some r =>
    have hs := h.sound id r hr
    by_cases hb : r.iOnline = b
    · simpa [hb] using h
    simp only [ne_eq, hb, not_false_eq_true, if_true]
    cases b with
    | false =>
      rw [Bool.not_false, if_pos rfl, setAccessibleState_eq]
      have hnow : ((m.modify id fun ref => { ref with iOnline := false }).modify id fun ref => { ref with iAccessible := false }).refs id =
          some { r with iOnline := false, iAccessible := false } := by simp [hr]
      rw [fireStatusChanged_of hnow hs.source]
      simp only [processThreatEvent, Bool.not_false, if_true]
      refine h.toOffline hr (by simpa using hb) ?_ ?_ ?_ ?_ fun v hv =>
        clearVictim_victim (m := (m.modify id _).modify id _) hv
      · simp [Manager.modify, hr]
      · simp [Manager.modify]
      · simp [Manager.modify]
      · simp [Manager.modify]
    | true =>
      rw [Bool.not_true, if_neg (by simp)]
      have hnow : (m.modify id fun ref => { ref with iOnline := true }).refs id = some { r with iOnline := true } := by simp [hr]
      rw [fireStatusChanged_of hnow hs.source]
      simp only [processThreatEvent, Bool.not_true, Bool.false_eq_true, if_false]
      exact h.toOnline hr (by simpa using hb) (hto rfl r hr) (by simp [Manager.modify, hr]) rfl rfl rfl rfl

/-! ### The end of a reference, and a new one -/

theorem Coherent.unlinked (h : Coherent units m) (hoff : ∀ r, m.refs id = some r → r.iOnline = false) :
    Coherent units (m.modify id fun ref => { ref with iRefTo := none }) := by
  refine h.modified id fun r hr => ⟨rfl, rfl, ?_⟩
  refine ⟨fun u hu => ?_, fun hcon => ?_, (h.sound id r hr).source⟩
  · cases hu
  · simp [hoff r hr] at hcon

/-- The references after a change of state: one flag of one reference, or that and whether it can be reached. -/
theorem setOnlineOfflineState_refs (o : FloatOps F) (m : Manager F) (id : Nat) (b : Bool) (j : Nat) :
    (m.setOnlineOfflineState o id b).refs j = (m.refs j).map fun r =>
      if j = id ∧ r.iOnline ≠ b then { r with iOnline := b, iAccessible := r.iAccessible && b } else r := by
  unfold setOnlineOfflineState
  cases hr : m.refs id with
  | none =>
    by_cases hj : j = id
    · simp [hj, hr]
    · simp [hj]
  | some r =>
    by_cases hb : r.iOnline = b
    · by_cases hj : j = id
      · simp [hj, hr, hb]
      · simp [hj, hb]
    · simp only [ne_eq, hb, not_false_eq_true, if_true, fireStatusChanged_refs]
      by_cases hj : j = id
      · subst hj
        cases b <;> simp [setAccessibleState_eq, hr, hb]
      · cases b <;> simp [setAccessibleState_eq, modify_refs_other _ _ hj, hj]

theorem setOffline_offline (hr : (m.setOnlineOfflineState o id false).refs id = some r) : r.iOnline = false := by
  rw [setOnlineOfflineState_refs] at hr
  obtain ⟨r₀, _, heq⟩ := map_eq_some_iff.1 hr
  cases honline : r₀.iOnline with
  | false => simpa [honline, ← heq] using honline
  | true => simp [← heq, honline]

section

variable (h : Coherent units m)
include h

theorem Coherent.invalidate (id : Nat) : Coherent units (m.invalidate o id) :=
  (h.setOnlineOfflineState id false (fun hcon => by cases hcon)).unlinked fun _ hr => setOffline_offline hr

/-- Gone from the lists and freed, a reference leaves the rest as it is. -/
theorem Coherent.freed (hr : m.refs id = some r) (honline : r.iOnline = false) : Coherent units ({ m.clearVictim id with
      iThreatOfflineContainer := Manager.remove (m.clearVictim id).iThreatOfflineContainer id }.free id) := by
  obtain ⟨hrefs, hnext, hon, hoff⟩ := clearVictim_lists m id
  have hnot : id ∉ m.iThreatContainer := by
    rw [h.online id, hr]
    rintro ⟨r', hr', hcon⟩
    cases hr'
    rw [honline] at hcon
    cases hcon
  have hother : ∀ j s, update m.refs id none j = some s → j ≠ id ∧ m.refs j = some s := by
    intro j s hs
    by_cases hj : j = id
    · subst hj
      rw [update_self] at hs
      cases hs
    · exact ⟨hj, by rwa [update_of_ne hj] at hs⟩
  refine ⟨?_, ?_, ?_, ?_, ?_, ?_, ?_, ?_⟩ <;> simp only [free, hrefs, hnext, hon, hoff]
  · exact h.onlineNodup
  · exact h.offlineNodup.filter _
  · intro j
    by_cases hj : j = id
    · subst hj
      simp [hnot]
    · simp [h.online j, hj]
  · intro j
    by_cases hj : j = id
    · subst hj
      simp [mem_remove]
    · simp [mem_remove, hj, h.offline j]
  · intro i j s s' hs hs' heq
    exact h.unit i j s s' (hother i s hs).2 (hother j s' hs').2 heq
  · exact fun j s hs => h.sound j s (hother j s hs).2
  · exact fun v hv => h.victim v (clearVictim_victim hv).1
  · intro j hj
    by_cases hne : j = id
    · subst hne
      exact update_self ..
    · rw [update_of_ne hne, h.fresh j hj]

theorem Coherent.removeReference (id : Nat) : Coherent units (m.removeReference o id) := by
  unfold Manager.removeReference
  have hinv := h.invalidate (o := o) id
  cases hr : (m.invalidate o id).refs id with
  | none =>
    have hfire : (m.invalidate o id).fireStatusChanged o id .removeFromList = m.invalidate o id := by
      simp [fireStatusChanged, hr]
    rw [hfire, free, ← hr, update_eq_self]
    exact hinv
  | some r =>
    have honline : r.iOnline = false := by
      obtain ⟨r₀, hr₀, heq⟩ := map_eq_some_iff.1 ((modify_refs_self ..).symm.trans hr)
      have hoff : r₀.iOnline = false := setOffline_offline hr₀
      rw [← heq]
      exact hoff
    rw [fireStatusChanged_of hr (hinv.sound id r hr).source]
    simp only [processThreatEvent, honline, false_eq_true, if_false]
    exact hinv.freed hr honline

theorem Coherent.link (id : Nat) (hu : ∀ r, m.refs id = some r → units r.iUnitGuid = true)
    (hguid : ∀ r, m.refs id = some r → r.iUnitGuid = u) : Coherent units (m.link id u) := by
  refine h.modified id fun r hr => ⟨rfl, rfl, ?_⟩
  refine ⟨fun v hv => ?_, fun _ => rfl, rfl⟩
  cases hv
  exact ⟨(hguid r hr).symm, hguid r hr ▸ hu r hr⟩

theorem Coherent.newReference (hu : units u = true)
    (hnone : ∀ id r, m.refs id = some r → r.iUnitGuid ≠ u) : Coherent units (m.newReference o u) := by
  have hself : m.refs m.nextRef = none := h.fresh _ (Nat.le_refl _)
  have hnotOn : m.nextRef ∉ m.iThreatContainer := by
    rw [h.online, hself]
    rintro ⟨_, hcon, _⟩
    cases hcon
  have hnotOff : m.nextRef ∉ m.iThreatOfflineContainer := by
    rw [h.offline, hself]
    rintro ⟨_, hcon, _⟩
    cases hcon
  have hread : ∀ j s, (m.newReference o u).refs j = some s →
      j = m.nextRef ∧ s = ⟨o.zero, o.zero, u, true, true, some u, true⟩ ∨ j ≠ m.nextRef ∧ m.refs j = some s := by
    intro j s hs
    by_cases hj : j = m.nextRef
    · subst hj
      simp only [Manager.newReference, update_self, some.injEq] at hs
      exact .inl ⟨rfl, hs.symm⟩
    · simp only [Manager.newReference, update_of_ne hj] at hs
      exact .inr ⟨hj, hs⟩
  refine ⟨?_, h.offlineNodup, ?_, ?_, ?_, ?_, ?_, ?_⟩
  · exact append h.onlineNodup (nodup_singleton _) (by simpa using hnotOn)
  · intro j
    by_cases hj : j = m.nextRef
    · subst hj
      simp [Manager.newReference]
    · simp [Manager.newReference, hj, h.online j]
  · intro j
    by_cases hj : j = m.nextRef
    · subst hj
      simp [Manager.newReference, hnotOff]
    · simp [Manager.newReference, hj, h.offline j]
  · intro i j s s' hs hs' heq
    rcases hread i s hs with ⟨rfl, rfl⟩ | ⟨_, hs⟩ <;> rcases hread j s' hs' with ⟨rfl, rfl⟩ | ⟨_, hs'⟩
    · rfl
    · exact absurd heq.symm (hnone j s' hs')
    · exact absurd heq (hnone i s hs)
    · exact h.unit i j s s' hs hs' heq
  · intro j s hs
    rcases hread j s hs with ⟨rfl, rfl⟩ | ⟨_, hs⟩
    · exact ⟨fun v hv => by cases hv; exact ⟨rfl, hu⟩, fun _ => rfl, rfl⟩
    · exact h.sound j s hs
  · exact fun v hv => mem_append_left _ (h.victim v hv)
  · intro j hj
    have hlt : m.nextRef < j := hj
    simp only [Manager.newReference, update_of_ne (Nat.ne_of_gt hlt)]
    exact h.fresh j (Nat.le_of_lt hlt)

end

end ComfyCraft.ThreatManager
