import ComfyCraft.Threat.Coherent

/-! Threat is added to a unit, and through a pet's reference to its owner and to the owner's owner. -/

namespace ComfyCraft.ThreatManager

open Option

variable {F : Type} {o : FloatOps F} {w : World F} {units : Guid → Bool} {m : Manager F}
  {rec rec' : Manager F → Guid → Manager F} {id : Nat} {u : Guid}

open Manager

/-- What the world finds exists. -/
structure World.Within (w : World F) (units : Guid → Bool) : Prop where
  getUnit : ∀ u, w.getUnit u = true → units u = true
  getOwner : ∀ u v, w.getOwner u = some v → units v = true

theorem World.among_within (w : World F) (units : Guid → Bool) : (w.among units).Within units where
  getUnit _ h := ((Bool.and_eq_true _ _).mp h).2
  getOwner _ _ h := (filter_eq_some_iff.1 h).2

theorem Coherent.threatChange (h : Coherent units m) (id : Nat) (pMod : F) :
    Coherent units (m.fireStatusChanged o id (.threatChange pMod)) := by
  unfold fireStatusChanged
  cases m.refs id with
  | none => exact h
  | some r =>
    simp only [processThreatEvent]
    split
    · split
      · exact h.setDirty true
      · exact h
    · exact h

theorem Coherent.setTempModifier (h : Coherent units m) (id : Nat) (threat : F) : Coherent units (m.setTempModifier id threat) :=
  h.modified_same id fun _ => ⟨rfl, rfl, rfl, rfl⟩

/-- A unit that neither list is about has no reference. -/
theorem Coherent.not_hated (h : Coherent units m) (hon : m.getReferenceByTarget m.iThreatContainer u = none)
    (hoff : m.getReferenceByTarget m.iThreatOfflineContainer u = none) (id : Nat) (r : HostileReference F)
    (hr : m.refs id = some r) : r.iUnitGuid ≠ u := by
  intro hguid
  have hfits : (m.refs id).any (fun ref => ref.iUnitGuid = u) = true := by simp [hr, hguid]
  cases honline : r.iOnline with
  | true => exact List.find?_eq_none.1 hon id ((h.online id).2 ⟨r, hr, honline⟩) hfits
  | false => exact List.find?_eq_none.1 hoff id ((h.offline id).2 ⟨r, hr, honline⟩) hfits

section Kept

variable (hw : w.Within units)
include hw

section

variable (h : Coherent units m)
include h

theorem Coherent.updateOnlineStatus (id : Nat) : Coherent units (m.updateOnlineStatus o w id) := by
  unfold Manager.updateOnlineStatus
  cases hr : m.refs id with
  | none => exact h
  | some r =>
    dsimp only
    have hlinked : Coherent units (if r.iRefTo.isNone && w.getUnit r.iUnitGuid then m.link id r.iUnitGuid else m) := by
      split
      · rename_i hlink
        have hread : ∀ r', m.refs id = some r' → r'.iUnitGuid = r.iUnitGuid := fun r' hr' => by
          rw [hr] at hr'
          cases hr'
          rfl
        have hu : units r.iUnitGuid = true := hw.getUnit _ ((Bool.and_eq_true _ _).mp hlink).2
        exact h.link id (fun r' hr' => (hread r' hr').symm ▸ hu) hread
      · exact h
    revert hlinked
    generalize (if r.iRefTo.isNone && w.getUnit r.iUnitGuid then m.link id r.iUnitGuid else m) = m₁
    intro h₁
    -- it comes online only when the target was found
    refine (h₁.setAccessibleState id false).setOnlineOfflineState id _ fun honline r' hr' => ?_
    rw [setAccessibleState_eq, modify_refs_self] at hr'
    obtain ⟨r₁, hr₁, rfl⟩ := map_eq_some_iff.1 hr'
    rw [hr₁] at honline
    cases hto : r₁.iRefTo with
    | none => simp [hto] at honline
    | some target => rfl

theorem Coherent.changeThreat (id : Nat) (pMod : F) : Coherent units (m.changeThreat o w id pMod) := by
  unfold Manager.changeThreat
  have h₁ : Coherent units (m.modify id fun ref => { ref with iThreat := o.add ref.iThreat pMod }) :=
    h.modified_same id fun r => ⟨rfl, rfl, rfl, rfl⟩
  revert h₁
  generalize (m.modify id fun ref => { ref with iThreat := o.add ref.iThreat pMod }) = m₁
  intro h₁
  have h₂ : Coherent units (if ((m₁.refs id).any fun ref => !ref.iOnline) then m₁.updateOnlineStatus o w id else m₁) := by
    split
    · exact h₁.updateOnlineStatus hw id
    · exact h₁
  dsimp only
  split
  · exact h₂.threatChange id pMod
  · exact h₂

theorem Coherent.refAddThreat (id : Nat) (pMod : F)
    (hrec : ∀ m v, Coherent units m → units v = true → Coherent units (rec m v)) :
    Coherent units (m.refAddThreat o w rec id pMod) := by
  unfold Manager.refAddThreat
  have h₁ := h.changeThreat (o := o) hw id pMod
  dsimp only
  split
  · rename_i target _
    split
    · cases howner : w.getOwner target with
      | none => exact h₁
      | some owner =>
        dsimp only
        split
        · exact hrec _ owner h₁ (hw.getOwner _ _ howner)
        · exact h₁
    · exact h₁
  · exact h₁

theorem Coherent.addThreatDirectly (hu : units u = true) (threat : F)
    (hrec : ∀ m v, Coherent units m → units v = true → Coherent units (rec m v)) :
    Coherent units (m.addThreatDirectly o w rec u threat) := by
  unfold Manager.addThreatDirectly
  by_cases hskip : (u = m.iOwner || !w.isAlive u || !w.isInMap u) = true
  · rwa [if_pos hskip]
  rw [if_neg hskip]
  cases hon : m.getReferenceByTarget m.iThreatContainer u with
  | some id => exact h.refAddThreat hw id threat hrec
  | none =>
    cases hoff : m.getReferenceByTarget m.iThreatOfflineContainer u with
    | some id => exact h.refAddThreat hw id threat hrec
    | none =>
      have h₁ : Coherent units ((m.newReference o u).refAddThreat o w rec m.nextRef threat) :=
        (h.newReference hu (h.not_hated hon hoff)).refAddThreat hw _ threat hrec
      dsimp only
      split
      · exact h₁.setOnlineOfflineState _ false fun hcon => by cases hcon
      · exact h₁

theorem Coherent.addThreatBy (hu : units u = true) (threat : F) (how : How)
    (hrec : ∀ m v, Coherent units m → units v = true → Coherent units (rec m v)) :
    Coherent units (m.addThreatBy o w rec u threat how) := by
  unfold Manager.addThreatBy
  dsimp only
  split
  · exact h
  split
  · exact h
  split
  · exact h
  split
  · exact h
  generalize w.calcThreat u _ = totalThreat
  split
  · rename_i owner howner
    have hv : units owner = true := by
      split at howner
      · exact hw.getOwner _ _ howner
      · cases howner
    split
    · exact (h.addThreatDirectly hw hv _ hrec).addThreatDirectly hw hu _ hrec
    · exact h.addThreatDirectly hw hu _ hrec
  · exact h.addThreatDirectly hw hu _ hrec

end

theorem Coherent.addThreat (fuel : Nat) (h : Coherent units m) (hu : units u = true) (threat : F) (how : How) :
    Coherent units (m.addThreat o w fuel u threat how) := by
  induction fuel generalizing m u threat how with
  | zero => exact h
  | succ fuel ih => exact h.addThreatBy hw hu threat how fun m v hm hv => ih hm hv _ _

theorem Coherent.ownerThreat (fuel : Nat) (m : Manager F) (v : Guid) (h : Coherent units m) (hv : units v = true) :
    Coherent units (Manager.ownerThreat o w fuel m v) := h.addThreat hw fuel hv _ _

section

variable (h : Coherent units m)
include h

theorem Coherent.addThreatTo (id : Nat) (pMod : F) : Coherent units (m.addThreatTo o w id pMod) :=
  h.refAddThreat hw id pMod fun m v => Coherent.ownerThreat hw _ m v

theorem Coherent.setTempThreat (id : Nat) (pThreat : F) : Coherent units (m.setTempThreat o w id pThreat) := by
  unfold Manager.setTempThreat
  dsimp only
  split
  · exact (h.setTempModifier id _).addThreatTo hw id _
  · exact h.setTempModifier id _

theorem Coherent.resetTempThreat (id : Nat) : Coherent units (m.resetTempThreat o w id) := by
  unfold Manager.resetTempThreat
  dsimp only
  split
  · exact (h.addThreatTo hw id _).setTempModifier id _
  · exact h

theorem Coherent.addThreatPercent (id : Nat) (pPercent : Int) :
    Coherent units (m.addThreatPercent o w id pPercent) := h.addThreatTo hw id _

theorem Coherent.modifyThreatPercent (pVictim : Guid) (pPercent : Int) :
    Coherent units (m.modifyThreatPercent o w pVictim pPercent) := by
  unfold Manager.modifyThreatPercent
  split
  · split
    · exact h.removeReference _
    · exact h.addThreatPercent hw _ _
  · exact h

theorem Coherent.tauntApply (pTaunter : Guid) : Coherent units (m.tauntApply o w pTaunter) := by
  unfold Manager.tauntApply
  split
  · split
    · exact h.setTempThreat hw _ _
    · exact h
  · exact h

theorem Coherent.tauntFadeOut (pTaunter : Guid) : Coherent units (m.tauntFadeOut o w pTaunter) := by
  unfold Manager.tauntFadeOut
  split
  · exact h.resetTempThreat hw _
  · exact h

end

end Kept

def unitOf (m : Manager F) (id : Nat) : Option Guid := (m.refs id).map HostileReference.iUnitGuid

end ComfyCraft.ThreatManager
