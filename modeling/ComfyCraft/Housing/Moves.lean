import ComfyCraft.Housing.Holdings

/-! What every request of housing comes to on the furniture and the animals. -/

namespace ComfyCraft

open List Function Option AList Table Register.Act Register HouseObject HouseTables

variable {om : ObjectMgr} {F : Type} {sv : Server F}

namespace HouseMgr

variable {m : Manner} {s s' : HouseMgr sv}

/-! Furniture. -/

theorem allocateObjectGuid_cases (s : HouseMgr sv) : s.allocateObjectGuid = (0, s) ∨ s.nextObjectGuid < HOUSE_GO_GUID_MAX ∧
        s.allocateObjectGuid = (s.nextObjectGuid, { s with nextObjectGuid := s.nextObjectGuid + 1 }) := by
  unfold allocateObjectGuid
  split_ifs with hmax
  · exact .inl rfl
  · exact .inr ⟨UInt32.not_le.1 hmax, rfl⟩

theorem moves_spend (hlt : s.nextObjectGuid < HOUSE_GO_GUID_MAX) : Moves m s { s with nextObjectGuid := s.nextObjectGuid + 1 } where
  pieces := by
    have hle : s.pieces.next ≤ (s.nextObjectGuid + 1).toNat := (toNat_succ hlt).ge.trans' (Nat.le_succ _)
    exact acts (spend hle)
  animals := Acts.same rfl
  houses hs := hs

variable {house : House F} {w : HouseWorld om sv} {houseId : UInt32} {guids : List UInt32}

theorem present_pieces {id : UInt32} (h : s.getHouseById id = some house) : s.pieces.present id = s.piecesOf house := by
  unfold getHouseById at h
  unfold present pieces piecesOf
  dsimp only
  rw [h]
  rfl

theorem moves_placeObject (hs : s.Keyed) (p : Visitor F) (goEntry : UInt32) (distance : F) (itemEntry : UInt32) (scale : F)
    (at_ : Option (F × F × F)) : Moves m s (s.placeObject p goEntry distance itemEntry scale at_).2 := by
  unfold placeObject
  cases howner : s.checkOwner p with
  | error e => exact Moves.refl s
  | ok house =>
    have hhouse := getHouseById_of_at hs (checkOwner_ok howner)
    dsimp only
    by_cases hfull : HOUSE_MAX_OBJECTS ≤ s.countPlayerObjects house
    · rw [if_pos hfull]
      exact Moves.refl s
    rw [if_neg hfull]
    cases sv.getGameObjectInfo goEntry with
    | none => exact Moves.refl s
    | some info =>
      dsimp only
      split
      · exact Moves.refl s
      split
      · exact Moves.refl s
      next spot _ =>
      rcases s.allocateObjectGuid_cases with hnone | ⟨hlt, hguid⟩
      · rw [hnone]
        exact Moves.refl s
      rw [hguid]
      split_ifs with hzero
      · exact moves_spend hlt
      refine moves_addObject ⟨rfl, rfl, rfl, hlt, ?_, fun _ => ⟨rfl, ?_⟩⟩ ?_
      · exact congrArg (fun l => highest (l.map slot) + 1) (present_pieces hhouse).symm
      · exact (congrArg (countP fun o => decide (o.source = .player)) (present_pieces hhouse)).trans_lt (Nat.lt_of_not_le hfull)
      · exact hhouse ▸ rfl

theorem apply_kept {pl : Placement F} {o o' : HouseObject F} (h : pl.apply sv o = some o') : PieceKept m.regroup o o' := by
  unfold Placement.apply at h
  by_cases hsame : (!(!sv.beq pl.x o.x || !sv.beq pl.y o.y || !sv.beq pl.z o.z) && !!sv.beq (sv.normalizeOrientation pl.o) o.o &&
      !(sv.lt (sv.lit 0) pl.scale && !sv.beq pl.scale o.scale)) = true
  · rw [if_pos hsame] at h
    cases h
  · rw [if_neg hsame] at h
    cases h
    exact ⟨rfl, rfl, rfl, rfl, fun _ => rfl⟩

theorem moves_applyPlacement (hs : s.Keyed) (pl : Placement F) : Moves m s (s.applyPlacement pl) := by
  unfold applyPlacement
  cases h : (s.objects.lookup pl.obj).bind (pl.apply sv) with
  | none => exact Moves.refl s
  | some o' =>
    obtain ⟨o, ho, happly⟩ := bind_eq_some_iff.1 h
    exact moves_setObject hs ho (apply_kept happly) fun _ => ⟨rfl, rfl⟩

theorem moves_rearrange (hs : s.Keyed) (p : Visitor F) (guid : UInt32)
    (placements : HouseObject F → List (HouseObject F) → Except String (List (Placement F))) :
    Moves m s (s.rearrange p guid placements).2 := by
  unfold rearrange
  cases s.resolve p guid with
  | error e => exact Moves.refl s
  | ok r =>
    dsimp only
    cases placements r.2 (s.groupMembers r.2) with
    | error e => exact Moves.refl s
    | ok all =>
      dsimp only
      unfold placeAll
      split
      · exact moves_run (fun _ pl _ hs => moves_applyPlacement hs pl) hs
      · exact Moves.refl s

theorem moves_rearrangeObject (hs : s.Keyed) (p : Visitor F) (guid : UInt32) (r : Rearrangement F) :
    Moves m s (s.rearrangeObject p guid r).2 := by
  cases r with
  | drag => exact moves_rearrange hs p guid _
  | offset dx dy dz => exact moves_rearrange hs p guid _
  | turn degrees faceMe => exact moves_rearrange hs p guid _
  | scale factor relative => exact moves_rearrange hs p guid _

section

variable (hregroup : m.regroup) (hs : s.Keyed)
include hregroup hs

theorem moves_setGroupNo (no guid : UInt32) : Moves m s (setGroupNo no s guid) := by
  unfold setGroupNo
  cases ho : s.objects.lookup guid with
  | none => exact Moves.refl s
  | some o =>
    have hkept : PieceKept m.regroup o { o with groupNo := no } := ⟨rfl, rfl, rfl, rfl, fun h => absurd hregroup h⟩
    exact moves_setObject hs ho hkept fun _ => ⟨rfl, rfl⟩

theorem moves_joinGroup (p : Visitor F) (guid withGuid : UInt32) : Moves m s (s.joinGroup p guid withGuid).2 := by
  unfold joinGroup
  split
  · exact Moves.refl s
  split
  · exact Moves.refl s
  split
  · exact Moves.refl s
  dsimp only
  split
  · exact Moves.refl s
  split
  · exact Moves.refl s
  · exact moves_run (fun _ guid _ hs => moves_setGroupNo hregroup hs _ guid) hs

theorem moves_leaveGroup (p : Visitor F) (guid : UInt32) (objectLabel : UInt32 → String) :
    Moves m s (s.leaveGroup p guid objectLabel).2 := by
  unfold leaveGroup
  split
  · exact Moves.refl s
  dsimp only
  split
  · exact Moves.refl s
  · exact moves_run (fun _ guid _ hs => moves_setGroupNo hregroup hs _ guid) hs

end

variable (p : Visitor F)

theorem moves_removeObject (guid : UInt32) : Moves m w.mgr (removeObject w p guid).2.mgr := by
  unfold removeObject
  cases w.mgr.checkOwner p with
  | error e => exact Moves.refl w.mgr
  | ok house =>
    dsimp only
    cases ho : (w.mgr.objects.lookup guid).filter fun o => o.houseId = house.id with
    | none => exact Moves.refl w.mgr
    | some o =>
      dsimp only
      split
      · exact Moves.refl w.mgr
      split
      · exact Moves.refl w.mgr
      apply moves_purgeObject
      intro _ o' ho'
      rw [ho', filter_some] at ho
      split at ho
      · next hhome => exact of_decide_eq_true hhome
      · cases ho

theorem moves_clearObjects (guids : List UInt32) (r : HouseWorld om sv × ClearCount) :
    Moves m r.1.mgr (clearObjects p guids r).1.mgr := by
  induction guids generalizing r with
  | nil => exact Moves.refl _
  | cons guid guids ih =>
    obtain ⟨w, n⟩ := r
    have hhead := moves_removeObject (m := m) (w := w) p guid
    unfold clearObjects
    refine hhead.trans ?_
    rcases hremove : removeObject w p guid with ⟨_ | _, w'⟩
    · exact ih (w', _)
    · exact ih (w', _)

theorem moves_clearHouse (w : HouseWorld om sv) (p : Visitor F) : Moves m w.mgr (clearHouse w p).2.1.mgr := by
  unfold clearHouse
  cases w.mgr.checkOwner p with
  | error e => exact Moves.refl w.mgr
  | ok house => exact moves_clearObjects p house.objects (w, ⟨0, 0, 0⟩)

/-! Animals. -/

theorem allocateCritterGuid_cases (s : HouseMgr sv) : s.allocateCritterGuid = (0, s) ∨
      s.nextCritterGuid < HOUSE_CRITTER_GUID_MAX ∧ s.nextCritterGuid ≠ 0 ∧
        s.allocateCritterGuid = (s.nextCritterGuid, { s with nextCritterGuid := s.nextCritterGuid + 1 }) := by
  unfold allocateCritterGuid
  split_ifs with hmax
  · exact .inl rfl
  · obtain ⟨hzero, hlt⟩ := not_or.1 hmax
    exact .inr ⟨UInt32.not_le.1 hlt, hzero, rfl⟩

theorem moves_placeCritter (hs : s.Keyed) (p : Visitor F) (entry : UInt32) (wander : F) (itemEntry : UInt32) :
    Moves m s (s.placeCritter p entry wander itemEntry).2 := by
  unfold placeCritter
  cases howner : s.checkOwner p with
  | error e => exact Moves.refl s
  | ok house =>
    have hhouse := getHouseById_of_at hs (checkOwner_ok howner)
    dsimp only
    split
    · exact Moves.refl s
    by_cases hfull : HOUSE_MAX_CRITTERS ≤ countCritters house
    · rw [if_pos hfull]
      exact Moves.refl s
    rw [if_neg hfull]
    split
    · exact Moves.refl s
    split
    · exact Moves.refl s
    split
    · exact Moves.refl s
    rcases s.allocateCritterGuid_cases with hnone | ⟨hlt, hzero, hguid⟩
    · rw [hnone]
      exact Moves.refl s
    rw [hguid]
    rw [if_neg hzero]
    refine moves_addCritter ⟨rfl, rfl, rfl, hlt, ?_⟩ (hhouse ▸ rfl)
    have hlist : s.animals.lists house.id = some house.critters := congrArg (Option.map House.critters) hhouse
    change ((s.animals.lists house.id).getD []).length < HOUSE_MAX_CRITTERS
    rw [hlist]
    exact Nat.lt_of_not_le hfull

theorem resolveCritter_ok {p : Visitor F} {guid : UInt32} {r : House F × HouseCritter F} (h : s.resolveCritter p guid = .ok r) :
    s.critters.lookup guid = some r.2 ∧ r.2.houseId = r.1.id := by
  unfold resolveCritter at h
  cases howner : s.checkOwner p with
  | error e =>
    rw [howner] at h
    cases h
  | ok house =>
    rw [howner] at h
    cases hc : s.critters.lookup guid with
    | none =>
      rw [hc] at h
      cases h
    | some c =>
      rw [hc] at h
      dsimp only at h
      split_ifs at h with hhome
      cases h
      exact ⟨rfl, not_not.1 hhome⟩

theorem moves_nameCritter (hs : s.Keyed) (p : Visitor F) (guid : UInt32) (name : List UInt8) :
    Moves m s (s.nameCritter p guid name).2 := by
  unfold nameCritter
  cases hr : s.resolveCritter p guid with
  | error e => exact Moves.refl s
  | ok r =>
    dsimp only
    split
    · exact Moves.refl s
    · exact moves_setCritter (c := r.2) hs (resolveCritter_ok hr).1 ⟨rfl, rfl⟩ fun _ => ⟨rfl, rfl⟩

theorem moves_moveCritter (hs : s.Keyed) (p : Visitor F) (guid : UInt32) (drag : Bool) (setWander : Option F) :
    Moves m s (s.moveCritter p guid drag setWander).2 := by
  unfold moveCritter
  cases hr : s.resolveCritter p guid with
  | error e => exact Moves.refl s
  | ok r =>
    refine moves_setCritter (c := r.2) hs (resolveCritter_ok hr).1 ?_ fun _ => ⟨rfl, rfl⟩
    cases drag <;> cases setWander <;> exact ⟨rfl, rfl⟩

theorem moves_removeCritter (guid : UInt32) : Moves m w.mgr (removeCritter w p guid).2.mgr := by
  unfold removeCritter
  cases hr : w.mgr.resolveCritter p guid with
  | error e => exact Moves.refl w.mgr
  | ok r =>
    dsimp only
    split
    · exact Moves.refl w.mgr
    apply moves_purgeCritter
    intro _ c hc
    obtain ⟨hlookup, hhome⟩ := resolveCritter_ok hr
    rw [hc] at hlookup
    rw [some.inj hlookup]
    exact hhome

/-! Shelves. -/

/-- Nothing but the shelves is different. -/
def OnlyShelves (s s' : HouseMgr sv) : Prop := s' = { s with storage := s'.storage, db := { s.db with storageOps := s'.db.storageOps } }

theorem OnlyShelves.refl (s : HouseMgr sv) : OnlyShelves s s := rfl

theorem OnlyShelves.trans {s'' : HouseMgr sv} (h : OnlyShelves s s') (h' : OnlyShelves s' s'') : OnlyShelves s s'' := by
  unfold OnlyShelves at h h' ⊢
  rw [h] at h'
  exact h'

theorem OnlyShelves.moves (h : OnlyShelves s s') : Moves m s s' := by
  unfold OnlyShelves at h
  rw [h]
  exact Moves.still rfl rfl rfl

theorem onlyShelves_storageDeposit (w : HouseWorld om sv) (p : Visitor F) (itemEntry slot : UInt32) :
    OnlyShelves w.mgr (storageDeposit w p itemEntry slot).2.mgr := by
  unfold storageDeposit
  cases w.mgr.storageAllowed p with
  | error e => exact OnlyShelves.refl _
  | ok u =>
    dsimp only
    split
    · exact OnlyShelves.refl _
    split
    · exact OnlyShelves.refl _
    split
    · exact OnlyShelves.refl _
    split
    · exact OnlyShelves.refl _
    · exact rfl

theorem onlyShelves_depositKind (itemEntry : UInt32) (have_ : Nat) (w : HouseWorld om sv) :
    OnlyShelves w.mgr (depositKind p itemEntry have_ w).2.2.mgr := by
  induction have_ generalizing w with
  | zero => exact OnlyShelves.refl _
  | succ have_ ih =>
    have hdeposit := onlyShelves_storageDeposit w p itemEntry 0
    unfold depositKind
    rcases hd : storageDeposit w p itemEntry 0 with ⟨reply, w'⟩
    rw [hd] at hdeposit
    cases reply with
    | error e => exact hdeposit
    | ok u => exact hdeposit.trans (ih w')

theorem onlyShelves_depositKinds (entries : List UInt32) (w : HouseWorld om sv) :
    OnlyShelves w.mgr (depositKinds p entries w).2.2.mgr := by
  induction entries generalizing w with
  | nil => exact OnlyShelves.refl _
  | cons entry entries ih =>
    have hkind := onlyShelves_depositKind p entry (w.player.getItemCount entry false).toNat w
    unfold depositKinds
    rcases hd : depositKind p entry (w.player.getItemCount entry false).toNat w with ⟨moved, full, w'⟩
    rw [hd] at hkind
    cases full with
    | true => exact hkind
    | false => exact hkind.trans (ih w')

theorem onlyShelves_handle (w : HouseWorld om sv) (p : Visitor F) (r : ShelfRequest) : OnlyShelves w.mgr (r.handle w p).mgr := by
  cases r with
  | deposit itemEntry slot => exact onlyShelves_storageDeposit w p itemEntry slot
  | depositAll =>
    have hkinds := onlyShelves_depositKinds p (sv.furnitureItems.map Prod.fst ++ sv.critterItems.map Prod.fst) w
    unfold ShelfRequest.handle storageDepositAll
    cases w.mgr.storageAllowed p with
    | error e => exact OnlyShelves.refl _
    | ok u =>
      dsimp only
      split
      · exact hkinds
      · exact hkinds
  | withdraw slot =>
    unfold ShelfRequest.handle storageWithdraw
    cases w.mgr.storageAllowed p with
    | error e => exact OnlyShelves.refl _
    | ok u =>
      dsimp only
      split
      · exact OnlyShelves.refl _
      split
      · exact OnlyShelves.refl _
      split
      · exact OnlyShelves.refl _
      · exact rfl
  | move from_ to_ =>
    unfold ShelfRequest.handle storageMove
    cases w.mgr.storageAllowed p with
    | error e => exact OnlyShelves.refl _
    | ok u =>
      dsimp only
      split
      · exact OnlyShelves.refl _
      split
      · exact OnlyShelves.refl _
      split
      · exact OnlyShelves.refl _
      split
      · exact OnlyShelves.refl _
      · exact rfl

theorem onlyShelves_stow (accountId : UInt32) (entries : List UInt32) (t : Stowing sv) :
    OnlyShelves t.mgr (Runs.run (Stowing.stow accountId) t entries).mgr := by
  induction entries generalizing t with
  | nil => exact OnlyShelves.refl _
  | cons entry entries ih =>
    have hhead : OnlyShelves t.mgr (t.stow accountId entry).mgr := by
      unfold Stowing.stow
      split
      · exact OnlyShelves.refl _
      split
      · exact OnlyShelves.refl _
      · exact rfl
    exact hhead.trans (ih _)

theorem onlyShelves_stowHouseFurniture (s : HouseMgr sv) (house : House F) : OnlyShelves s (s.stowHouseFurniture house).mgr :=
  onlyShelves_stow house.accountId (s.stowable house) ⟨s, 1, 0, 0⟩

/-! Houses and templates. -/

theorem moves_prepareInstance (s : HouseMgr sv) (house : House F) (newInstanceId : UInt32) :
    Moves m s (s.prepareInstance house newInstanceId) := by
  unfold prepareInstance
  split
  · exact Moves.refl s
  refine (moves_modifyHouse s house.id ?_).trans (Moves.still rfl rfl rfl)
  exact fun _ => ⟨rfl, rfl, rfl⟩

theorem moves_sendPlayerHome (s : HouseMgr sv) (p : Visitor F) : Moves m s (s.sendPlayerHome p).2 := by
  unfold sendPlayerHome
  split
  · exact Moves.refl s
  split
  · exact Moves.refl s
  split
  · exact Moves.refl s
  · exact moves_prepareInstance s _ p.newInstanceId

theorem moves_gotoTemplate (s : HouseMgr sv) (p : Visitor F) (id : UInt32) : Moves m s (s.gotoTemplate p id).2 := by
  unfold gotoTemplate
  split
  · exact Moves.refl s
  split
  · exact Moves.refl s
  split
  · exact Moves.refl s
  split
  · exact Moves.refl s
  · exact moves_prepareInstance s _ p.newInstanceId

/-- A house that is opened: it is a new one, where that is asked for. -/
theorem moves_createHouse (s : HouseMgr sv) (accountId : UInt32)
    (hnew : m.pieces ∨ m.animals → ∀ id, (s.createHouse accountId).1 = some id → s.getHouseById id = none) :
    Moves m s (s.createHouse accountId).2 := by
  have hinsert : Moves m s { s with db := s.db.insertHouse accountId } := by
    unfold insertHouse
    split
    · exact Moves.refl s
    · exact Moves.still rfl rfl rfl
  refine hinsert.trans ?_
  unfold createHouse at hnew ⊢
  dsimp only at hnew ⊢
  cases hrow : (s.db.insertHouse accountId).house.rows.find? fun r => r.account = accountId with
  | none => exact Moves.refl _
  | some row =>
    rw [hrow] at hnew
    have hlists : ∀ (g : House F → List UInt32) (h : House F), g h = [] →
        (fun x => ((s.houses.insert row.id h).lookup x).map g) =
          update (fun x => (s.houses.lookup x).map g) row.id (some []) := by
      intro g h hg
      funext x
      by_cases hx : x = row.id
      · rw [hx, lookup_insert, update_self, map_some, hg]
      · rw [lookup_insert_ne hx, update_of_ne hx]
    refine ⟨?_, ?_, fun hs id h hh => ?_⟩
    · have hopen : Acts (pieceKind F m.regroup) m.tidy m.pieces (pieces { s with db := s.db.insertHouse accountId })
          ((pieces { s with db := s.db.insertHouse accountId }).openAt row.id) :=
        acts (openAt fun hstrict => map_eq_none_iff.2 (hnew (.inl hstrict) row.id rfl))
      unfold Register.openAt pieces at hopen
      unfold pieces
      rwa [hlists House.objects _ rfl]
    · have hopen : Acts (animalKind F) m.tidy m.animals (animals { s with db := s.db.insertHouse accountId })
          ((animals { s with db := s.db.insertHouse accountId }).openAt row.id) :=
        acts (openAt fun hstrict => map_eq_none_iff.2 (hnew (.inr hstrict) row.id rfl))
      unfold Register.openAt animals at hopen
      unfold animals
      rwa [hlists House.critters _ rfl]
    · unfold getHouseById at hs hh
      by_cases hid : id = row.id
      · rw [hid, lookup_insert] at hh
        cases hh
        exact hid.symm
      · rw [lookup_insert_ne hid] at hh
        exact hs id h hh

/-- A house that is closed: nothing is at home in it, where that is asked for. -/
theorem moves_dropHouse (s : HouseMgr sv) (house : House F)
    (hpieces : m.pieces → ∀ guid o, s.objects.lookup guid = some o → o.houseId ≠ house.id)
    (hanimals : m.animals → ∀ guid c, s.critters.lookup guid = some c → c.houseId ≠ house.id) : Moves m s (s.dropHouse house) := by
  have hlists : ∀ g : House F → List UInt32, (fun x => ((s.houses.erase house.id).lookup x).map g) =
      update (fun x => (s.houses.lookup x).map g) house.id none := by
    intro g
    funext x
    by_cases hx : x = house.id
    · rw [hx, lookup_erase, update_self]
      rfl
    · rw [lookup_erase_ne hx, update_of_ne hx]
  refine ⟨?_, ?_, fun hs id h hh => ?_⟩
  · have hclose : Acts (pieceKind F m.regroup) m.tidy m.pieces s.pieces (s.pieces.closeAt house.id) :=
      acts (closeAt hpieces)
    unfold Register.closeAt pieces at hclose
    unfold pieces dropHouse
    rwa [hlists House.objects]
  · have hclose : Acts (animalKind F) m.tidy m.animals s.animals (s.animals.closeAt house.id) :=
      acts (closeAt hanimals)
    unfold Register.closeAt animals at hclose
    unfold animals dropHouse
    rwa [hlists House.critters]
  · unfold getHouseById at hs hh
    unfold dropHouse at hh
    by_cases hid : id = house.id
    · rw [hid, lookup_erase] at hh
      cases hh
    · rw [lookup_erase_ne hid] at hh
      exact hs id h hh

/-- What a house lists is at home in it, where the lists are in order. -/
structure Listing (m : Manner) (s : HouseMgr sv) (house : House F) : Prop where
  pieces : m.tidy → ∀ guid ∈ house.objects, ∀ o, s.objects.lookup guid = some o → o.houseId = house.id
  animals : m.tidy → ∀ guid ∈ house.critters, ∀ c, s.critters.lookup guid = some c → c.houseId = house.id

theorem objects_purgeObject (s : HouseMgr sv) (houseId guid : UInt32) :
    (purgeObject houseId s guid).objects = s.objects.erase guid ∧ (purgeObject houseId s guid).critters = s.critters := by
  unfold purgeObject
  cases h : s.objects.lookup guid with
  | none => exact ⟨(erase_of_lookup_none h).symm, rfl⟩
  | some o =>
    dsimp only
    rw [modifyHouse_rest]
    exact ⟨rfl, rfl⟩

theorem moves_purgeRun {s : HouseMgr sv}
    (hhome : m.tidy → ∀ guid ∈ guids, ∀ o, s.objects.lookup guid = some o → o.houseId = houseId) :
    Moves m s (Runs.run (purgeObject houseId) s guids) := by
  induction guids generalizing s with
  | nil => exact Moves.refl s
  | cons guid guids ih =>
    refine (moves_purgeObject fun ht => hhome ht guid mem_cons_self).trans (ih fun ht g hg o ho => ?_)
    rw [(objects_purgeObject s houseId guid).1] at ho
    by_cases hgg : g = guid
    · rw [hgg, lookup_erase] at ho
      cases ho
    · rw [lookup_erase_ne hgg] at ho
      exact hhome ht g (mem_cons_of_mem guid hg) o ho

theorem critters_purgeObjects (s : HouseMgr sv) (house : House F) : (s.purgeObjects house).critters = s.critters := by
  unfold purgeObjects
  induction house.objects generalizing s with
  | nil => rfl
  | cons guid guids ih => exact (ih _).trans (objects_purgeObject s house.id guid).2

theorem moves_purgeObjects (h : Listing m s house) : Moves m s (s.purgeObjects house) := moves_purgeRun h.pieces

theorem critters_purgeCritter (s : HouseMgr sv) (houseId guid : UInt32) :
    (purgeCritter houseId s guid).critters = s.critters.erase guid := by
  unfold purgeCritter
  cases h : s.critters.lookup guid with
  | none => exact (erase_of_lookup_none h).symm
  | some c =>
    dsimp only
    rw [modifyHouse_rest]

theorem moves_purgeCritterRun {s : HouseMgr sv}
    (hhome : m.tidy → ∀ guid ∈ guids, ∀ c, s.critters.lookup guid = some c → c.houseId = houseId) :
    Moves m s (Runs.run (purgeCritter houseId) s guids) := by
  induction guids generalizing s with
  | nil => exact Moves.refl s
  | cons guid guids ih =>
    refine (moves_purgeCritter fun ht => hhome ht guid mem_cons_self).trans (ih fun ht g hg c hc => ?_)
    rw [critters_purgeCritter] at hc
    by_cases hgg : g = guid
    · rw [hgg, lookup_erase] at hc
      cases hc
    · rw [lookup_erase_ne hgg] at hc
      exact hhome ht g (mem_cons_of_mem guid hg) c hc

theorem moves_stampObjects (houseId : UInt32) (l : List (HouseObject F)) (s : HouseMgr sv) :
    Moves m s (stampObjects houseId l s) := by
  induction l generalizing s with
  | nil => exact Moves.refl s
  | cons o l ih =>
    unfold stampObjects
    rcases s.allocateObjectGuid_cases with hnone | ⟨hlt, hguid⟩
    · rw [hnone]
      exact Moves.refl s
    rw [hguid]
    dsimp only
    split_ifs with hzero
    · exact moves_spend hlt
    cases hhouse : getHouseById { s with nextObjectGuid := s.nextObjectGuid + 1 } houseId with
    | none => exact moves_spend hlt
    | some house =>
      have hpresent : s.pieces.present houseId = s.piecesOf house := present_pieces hhouse
      refine Moves.trans ?_ (ih _)
      refine moves_addObject ⟨rfl, rfl, rfl, hlt, ?_, fun hplayer => ?_⟩ ?_
      · exact congrArg (fun l => highest (l.map slot) + 1) hpresent.symm
      · cases hplayer
      · exact (congrArg isSome hhouse).trans rfl

theorem moves_setHouseTemplate (s : HouseMgr sv) (houseId templateId : UInt32) (exit : HouseExit F) :
    Moves m s (s.setHouseTemplate houseId templateId exit) := by
  unfold setHouseTemplate
  refine (moves_modifyHouse s houseId ?_).trans (moves_updateHouseRow _ houseId _)
  exact fun _ => ⟨rfl, rfl, rfl⟩

theorem moves_stampTemplate (s : HouseMgr sv) (houseId : UInt32) (tpl : HouseTemplate F) : Moves m s
    (s.stampTemplate houseId tpl) :=
  (moves_stampObjects houseId tpl.objects s).trans (moves_setHouseTemplate _ houseId tpl.id tpl.exit)

theorem moves_setHousePortal (s : HouseMgr sv) (houseId portalId : UInt32) : Moves m s (s.setHousePortal houseId portalId) := by
  unfold setHousePortal
  refine (moves_modifyHouse s houseId ?_).trans (moves_updateHouseRow _ houseId _)
  exact fun _ => ⟨rfl, rfl, rfl⟩

theorem moves_setExit (s : HouseMgr sv) (houseId : UInt32) (exit : HouseExit F) : Moves m s (s.setExit houseId exit) := by
  unfold setExit
  refine (moves_modifyHouse s houseId ?_).trans (moves_updateHouseRow _ houseId _)
  exact fun _ => ⟨rfl, rfl, rfl⟩

theorem moves_addTemplate (s : HouseMgr sv) (id houseId : UInt32) (name : String) : Moves m s (s.addTemplate id houseId name) := by
  unfold addTemplate
  refine Moves.trans ?_ (moves_modifyHouse _ houseId ?_)
  · exact Moves.still rfl rfl rfl
  · exact fun _ => ⟨rfl, rfl, rfl⟩

theorem moves_claimHouseAt (s : HouseMgr sv) (p : Visitor F) (portalId : UInt32)
    (hnew : m.pieces ∨ m.animals → s.getHouseByAccount p.accountId = none → ∀ id, (s.createHouse p.accountId).1 = some id →
      s.getHouseById id = none) : Moves m s (s.claimHouseAt p portalId).2 := by
  unfold claimHouseAt
  split
  · exact Moves.refl s
  split
  · exact Moves.refl s
  next door _ =>
  split
  · exact Moves.refl s
  split
  · exact Moves.refl s
  next hnone =>
  have hcreate := moves_createHouse (m := m) s p.accountId fun ht =>
    hnew ht (not_isSome_iff_eq_none.1 hnone)
  rcases hc : s.createHouse p.accountId with ⟨_ | houseId, s'⟩
  · rw [hc] at hcreate
    exact hcreate
  rw [hc] at hcreate
  refine hcreate.trans (Moves.trans ?_ ((moves_setHousePortal _ houseId portalId).trans (moves_sendPlayerHome _ p)))
  split
  · exact moves_stampTemplate s' houseId _
  · exact Moves.refl s'

theorem moves_createTemplate (s : HouseMgr sv) (p : Visitor F) (rawName : String)
    (hnew : m.pieces ∨ m.animals → s.templateByName.lookup (normalizeTemplateName rawName) = none →
      ∀ row, (s.db.insertTemplate (normalizeTemplateName rawName)).houseTemplate.rows.find?
        (fun r => sv.collate r.name = sv.collate (normalizeTemplateName rawName)) = some row →
      HOUSE_TEMPLATE_ACCOUNT_MIN ≤ HOUSE_TEMPLATE_ACCOUNT_MAX - row.id →
      ∀ id, (createHouse { s with db := s.db.insertTemplate (normalizeTemplateName rawName) }
        (HOUSE_TEMPLATE_ACCOUNT_MAX - row.id)).1 = some id → s.getHouseById id = none) :
    Moves m s (s.createTemplate p rawName).2 := by
  have hinsert : ∀ name, Moves m s { s with db := s.db.insertTemplate name } := by
    intro name
    unfold insertTemplate
    split
    · exact Moves.refl s
    · exact Moves.still rfl rfl rfl
  have hdelete : ∀ (s : HouseMgr sv) id, Moves m s (s.deleteTemplateRow id) := fun s id => Moves.still rfl rfl rfl
  unfold createTemplate
  split
  · exact Moves.refl s
  dsimp only
  split
  · exact Moves.refl s
  split
  · exact Moves.refl s
  next hnone =>
  refine (hinsert (normalizeTemplateName rawName)).trans ?_
  split
  · exact Moves.refl _
  next row hrow =>
  split
  · exact hdelete _ row.id
  next haccount =>
  have hcreate := moves_createHouse (m := m) { s with db := s.db.insertTemplate (normalizeTemplateName rawName) }
    (HOUSE_TEMPLATE_ACCOUNT_MAX - row.id) fun ht =>
      hnew ht (not_isSome_iff_eq_none.1 hnone) row hrow (UInt32.not_lt.1 haccount)
  rcases hc : createHouse { s with db := s.db.insertTemplate (normalizeTemplateName rawName) }
    (HOUSE_TEMPLATE_ACCOUNT_MAX - row.id) with ⟨_ | houseId, s'⟩
  · rw [hc] at hcreate
    exact hcreate.trans (hdelete s' row.id)
  · rw [hc] at hcreate
    exact hcreate.trans ((moves_addTemplate s' row.id houseId _).trans (moves_gotoTemplate _ p row.id))

theorem moves_saveTemplate (s : HouseMgr sv) (p : Visitor F) : Moves m s (s.saveTemplate p).2 := by
  unfold saveTemplate
  split
  · exact Moves.refl s
  split
  · exact Moves.refl s
  · exact Moves.still rfl rfl rfl

theorem moves_dropTemplate (s : HouseMgr sv) (tpl : HouseTemplate F) : Moves m s (s.dropTemplate tpl) := Moves.still rfl rfl rfl

theorem moves_deleteTemplate (s : HouseMgr sv) (dev : Option (Visitor F)) (id : UInt32)
    (hlisting : ∀ id house, s.getHouseById id = some house → Listing m s house)
    (hpieces : m.pieces → ∀ id house, s.getHouseById id = some house →
      ∀ guid o, (s.purgeObjects house).objects.lookup guid = some o → o.houseId ≠ house.id)
    (hanimals : m.animals → ∀ tpl house, s.getTemplate id = some tpl → s.getHouseById tpl.houseId = some house →
      ∀ guid c, s.critters.lookup guid = some c → c.houseId ≠ house.id) : Moves m s (s.deleteTemplate dev id).2 := by
  unfold deleteTemplate
  split
  · exact Moves.refl s
  next tpl htpl =>
  dsimp only
  split
  · exact Moves.refl s
  split
  · exact moves_dropTemplate s tpl
  next house hhouse =>
  split
  · exact Moves.refl s
  refine (moves_purgeObjects (hlisting _ house hhouse)).trans (Moves.trans ?_ (moves_dropTemplate _ tpl))
  refine moves_dropHouse _ house (fun ht => hpieces ht _ house hhouse) fun ht guid c hc => ?_
  rw [critters_purgeObjects] at hc
  exact hanimals ht tpl house htpl hhouse guid c hc

theorem moves_rebuildHouse (h : Listing m s house) (templateId : UInt32) : Moves m s (s.rebuildHouse house templateId) := by
  have hpurge : Moves m s ((s.purgeObjects house).purgeCritters house) := by
    refine (moves_purgeObjects h).trans (moves_purgeCritterRun fun ht guid hguid c hc => ?_)
    rw [critters_purgeObjects] at hc
    exact h.animals ht guid hguid c hc
  have hmodify : Moves m s (((s.purgeObjects house).purgeCritters house).modifyHouse house.id fun h =>
      { h with exit := noExit sv, templateId := 0 }) := by
    refine hpurge.trans (moves_modifyHouse _ house.id ?_)
    exact fun _ => ⟨rfl, rfl, rfl⟩
  unfold rebuildHouse
  dsimp only
  split
  · exact hmodify.trans (moves_stampTemplate _ house.id _)
  · exact hmodify.trans (moves_updateHouseRow _ house.id _)

theorem Listing.onlyShelves (h : Listing m s house) (hs : OnlyShelves s s') : Listing m s' house := by
  unfold OnlyShelves at hs
  rw [hs]
  exact ⟨h.pieces, h.animals⟩

theorem moves_resetHouse (hlisting : ∀ house, s.getHouseById house.id = some house → Listing m s house)
    (hs : s.Keyed) : Moves m s (s.resetHouse p).2 := by
  unfold resetHouse
  split
  · exact Moves.refl s
  split
  · exact Moves.refl s
  next house hhouse =>
  have hlist := hlisting house (getHouseById_of_at hs hhouse)
  split
  · exact Moves.refl s
  split
  · exact moves_purgeObjects hlist
  · have hstow := onlyShelves_stowHouseFurniture s house
    exact hstow.moves.trans (moves_rebuildHouse (hlist.onlyShelves hstow) _)

theorem moves_moveHouseTo (portalId : UInt32)
    (hlisting : ∀ house, s.getHouseById house.id = some house → Listing m s house) (hs : s.Keyed) :
    Moves m s (s.moveHouseTo p portalId).2 := by
  unfold moveHouseTo
  split
  · exact Moves.refl s
  split
  · exact Moves.refl s
  split
  · exact Moves.refl s
  split
  · exact Moves.refl s
  next house hhouse =>
  have hlist := hlisting house (getHouseById_of_account hs hhouse)
  split
  · exact Moves.refl s
  have hstow := onlyShelves_stowHouseFurniture s house
  exact hstow.moves.trans ((moves_rebuildHouse (hlist.onlyShelves hstow) _).trans
    ((moves_setHousePortal _ house.id portalId).trans (moves_sendPlayerHome _ p)))

/-! Entrances. -/

theorem moves_removePortal (s : HouseMgr sv) (id : UInt32) : Moves m s (s.removePortal id).2 := by
  unfold removePortal
  split
  · exact Moves.refl s
  have hlists : ∀ g : House F → List UInt32, (∀ h, g (if h.portalId = id then { h with portalId := 0 } else h) = g h) →
      (fun x => ((s.houses.mapValues fun h => if h.portalId = id then { h with portalId := 0 } else h).lookup x).map g) =
        fun x => (s.houses.lookup x).map g := by
    intro g hg
    funext x
    rw [Table.lookup_mapValues, Option.map_map]
    exact congrArg (fun g' => (s.houses.lookup x).map g') (funext hg)
  refine Moves.same ?_ ?_ fun x h hx => ?_
  · unfold pieces done
    rw [hlists House.objects fun h => by split_ifs <;> rfl]
  · unfold animals done
    rw [hlists House.critters fun h => by split_ifs <;> rfl]
  have hlookup : (s.houses.mapValues fun h => if h.portalId = id then { h with portalId := 0 } else h).lookup x = some h := hx
  rw [lookup_mapValues] at hlookup
  obtain ⟨old, hold, rfl⟩ := map_eq_some_iff.1 hlookup
  refine ⟨old, hold, ?_⟩
  split_ifs <;> rfl

theorem moves_addPortal (s : HouseMgr sv) (p : Visitor F) (name : String) (templateId : UInt32) :
    Moves m s (s.addPortal p name templateId).2 := by
  have hinsert : ∀ portal, Moves m s (s.insertPortal portal) := by
    intro portal
    unfold insertPortal
    split
    · exact Moves.refl s
    split
    · exact Moves.refl s
    · exact Moves.still rfl rfl rfl
  unfold addPortal
  split
  · exact Moves.refl s
  split
  · exact Moves.refl s
  split
  · exact Moves.refl s
  split
  · exact Moves.refl s
  dsimp only
  split
  · exact hinsert _
  · exact (hinsert _).trans (Moves.still rfl rfl rfl)

theorem moves_movePortal (s : HouseMgr sv) (p : Visitor F) (id : UInt32) : Moves m s (s.movePortal p id).2 := by
  unfold movePortal
  split
  · exact Moves.refl s
  split
  · exact Moves.refl s
  split
  · exact Moves.refl s
  · exact Moves.still rfl rfl rfl

theorem moves_setPortalTemplate (s : HouseMgr sv) (portalId templateId : UInt32) :
    Moves m s (s.setPortalTemplate portalId templateId).2 := by
  unfold setPortalTemplate
  split
  · exact Moves.refl s
  split
  · exact Moves.refl s
  · exact Moves.still rfl rfl rfl

theorem moves_setHomePortal (s : HouseMgr sv) (p : Visitor F) (portalId : UInt32) : Moves m s (s.setHomePortal p portalId).2 := by
  unfold setHomePortal
  split
  · exact Moves.refl s
  split
  · exact Moves.refl s
  · exact moves_setHousePortal s _ portalId

/-! Requests. -/

theorem moves_setExitPortal (s : HouseMgr sv) (p : Visitor F) : Moves m s (s.setExitPortal p).2 := by
  unfold setExitPortal
  split
  · exact Moves.refl s
  split
  · exact Moves.refl s
  · exact moves_setExit s _ _

theorem moves_clearExitPortal (s : HouseMgr sv) (p : Visitor F) : Moves m s (s.clearExitPortal p).2 := by
  unfold clearExitPortal
  split
  · exact Moves.refl s
  split
  · exact Moves.refl s
  · exact moves_setExit s _ _

theorem moves_placeFromItem (hs : w.mgr.Keyed) (p : Visitor F) (pos : Pos) : Moves m w.mgr (placeFromItem w p pos).2.mgr := by
  have huse : ∀ itemEntry, Moves m w.mgr (w.mgr.useItem p itemEntry).2 := by
    intro itemEntry
    unfold useItem useCritterItem useFurnitureItem
    split
    · split
      · exact Moves.refl w.mgr
      · exact moves_placeCritter hs p _ _ _
    · split
      · exact Moves.refl w.mgr
      · exact moves_placeObject hs p _ _ _ _ _
  unfold placeFromItem
  split
  · exact Moves.refl w.mgr
  next item _ =>
  have hitem := huse item.getEntry
  rcases hreply : w.mgr.useItem p item.getEntry with ⟨_ | _, mgr⟩
  · rw [hreply] at hitem
    exact hitem
  · rw [hreply] at hitem
    exact hitem

/-- What a request has to find: lists in order, an account without a house that has no row either, a template's name that is
new to the table, and a template whose house is left empty. -/
structure Finds (m : Manner) (s : HouseMgr sv) (r : HouseRequest F) : Prop where
  listing : ∀ id house, s.getHouseById id = some house → Listing m s house
  claim : m.pieces ∨ m.animals → ∀ account < HOUSE_TEMPLATE_ACCOUNT_MIN, s.getHouseByAccount account = none →
    ∀ id, (s.createHouse account).1 = some id → s.getHouseById id = none
  create : m.pieces ∨ m.animals → ∀ name, r = .createTemplate name → s.templateByName.lookup (normalizeTemplateName name) = none →
    ∀ row, (s.db.insertTemplate (normalizeTemplateName name)).houseTemplate.rows.find?
      (fun r => sv.collate r.name = sv.collate (normalizeTemplateName name)) = some row →
    HOUSE_TEMPLATE_ACCOUNT_MIN ≤ HOUSE_TEMPLATE_ACCOUNT_MAX - row.id →
    ∀ id, (createHouse { s with db := s.db.insertTemplate (normalizeTemplateName name) }
      (HOUSE_TEMPLATE_ACCOUNT_MAX - row.id)).1 = some id → s.getHouseById id = none
  deletePieces : m.pieces → ∀ id house, s.getHouseById id = some house →
    ∀ guid o, (s.purgeObjects house).objects.lookup guid = some o → o.houseId ≠ house.id
  deleteAnimals : m.animals → ∀ id tpl house, r = .deleteTemplate id → s.getTemplate id = some tpl →
    s.getHouseById tpl.houseId = some house → ∀ guid c, s.critters.lookup guid = some c → c.houseId ≠ house.id

theorem moves_handle (hs : w.mgr.Keyed) (p : Visitor F) {r : HouseRequest F} (hfinds : Finds m w.mgr r)
    (hregroup : ¬m.regroup → ∀ guid withGuid label, r ≠ .join guid withGuid ∧ r ≠ .leave guid label) :
    Moves m w.mgr (handle w p r).mgr := by
  have hlisting : ∀ house, w.mgr.getHouseById house.id = some house → Listing m w.mgr house := fun house h => hfinds.listing _ house h
  cases r with
  | place goEntry distance => exact moves_placeObject hs p goEntry distance 0 _ none
  | useItem pos => exact moves_placeFromItem hs p pos
  | rearrange guid r => exact moves_rearrangeObject hs p guid r
  | join guid withGuid => exact moves_joinGroup (by_contra fun h => (hregroup h guid withGuid fun _ => "").1 rfl) hs p guid withGuid
  | leave guid label => exact moves_leaveGroup (by_contra fun h => (hregroup h guid guid label).2 rfl) hs p guid label
  | remove guid => exact moves_removeObject p guid
  | clear => exact moves_clearHouse w p
  | placeCritter entry wander => exact moves_placeCritter hs p entry wander 0
  | nameCritter guid name => exact moves_nameCritter hs p guid name
  | moveCritter guid drag setWander => exact moves_moveCritter hs p guid drag setWander
  | removeCritter guid => exact moves_removeCritter p guid
  | goHome => exact moves_sendPlayerHome w.mgr p
  | claim portalId => exact moves_claimHouseAt w.mgr p portalId fun ht hnone => hfinds.claim ht p.accountId p.account_lt hnone
  | move portalId => exact moves_moveHouseTo p portalId hlisting hs
  | reset => exact moves_resetHouse p hlisting hs
  | createTemplate name => exact moves_createTemplate w.mgr p name fun ht => hfinds.create ht name rfl
  | saveTemplate => exact moves_saveTemplate w.mgr p
  | deleteTemplate id =>
    exact moves_deleteTemplate w.mgr (some p) id hfinds.listing hfinds.deletePieces fun ht tpl house =>
      hfinds.deleteAnimals ht id tpl house rfl
  | gotoTemplate id => exact moves_gotoTemplate w.mgr p id
  | setExit => exact moves_setExitPortal w.mgr p
  | clearExit => exact moves_clearExitPortal w.mgr p
  | addPortal name templateId => exact moves_addPortal w.mgr p name templateId
  | movePortal id => exact moves_movePortal w.mgr p id
  | removePortal id => exact moves_removePortal w.mgr id
  | setHomePortal portalId => exact moves_setHomePortal w.mgr p portalId
  | setPortalTemplate portalId templateId => exact moves_setPortalTemplate w.mgr portalId templateId
  | shelf r => exact (onlyShelves_handle w p r).moves

end HouseMgr
end ComfyCraft
