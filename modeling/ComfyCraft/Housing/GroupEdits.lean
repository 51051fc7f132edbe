import ComfyCraft.Housing.Orderly

/-! Dragging, moving, turning and resizing a piece together with its group: every member gets its new placement and its
row the new columns, or the request is refused and nothing is different. -/

namespace ComfyCraft

open List Option

variable {om : ObjectMgr} {F : Type} {sv : Server F}

namespace HouseMgr

variable {s s₀ : HouseMgr sv}

def Placement.placed (sv : Server F) (pl : Placement F) (o : HouseObject F) : HouseObject F :=
  { o with
    x := pl.x, y := pl.y, z := pl.z, o := sv.normalizeOrientation pl.o
    scale := if sv.lt (sv.lit 0) pl.scale && !sv.beq pl.scale o.scale then pl.scale else o.scale }

/-- The piece has values that compare equal to all those of the placement. -/
def Placement.Held (sv : Server F) (pl : Placement F) (o : HouseObject F) : Prop :=
  sv.beq pl.x o.x = true ∧ sv.beq pl.y o.y = true ∧ sv.beq pl.z o.z = true ∧ sv.beq (sv.normalizeOrientation pl.o) o.o = true ∧
    (sv.lt (sv.lit 0) pl.scale = true → sv.beq pl.scale o.scale = true)

/-- What a placement makes of a piece and its row: both get the new values, unless the piece had them already. -/
def Placement.Met (sv : Server F) (pl : Placement F) (o row o' row' : HouseObject F) : Prop :=
  o' = pl.placed sv o ∧ row' = placementColumns sv o' row ∨ pl.Held sv o ∧ o' = o ∧ row' = row

theorem apply_cases (sv : Server F) (pl : Placement F) (o : HouseObject F) :
    pl.apply sv o = none ∧ pl.Held sv o ∨ pl.apply sv o = some (pl.placed sv o) := by
  unfold Placement.apply Placement.Held Placement.placed
  dsimp only
  cases hx : sv.beq pl.x o.x with
  | false => exact .inr (by simp)
  | true =>
    cases hy : sv.beq pl.y o.y with
    | false => exact .inr (by simp)
    | true =>
      cases hz : sv.beq pl.z o.z with
      | false => exact .inr (by simp)
      | true =>
        cases ho : sv.beq (sv.normalizeOrientation pl.o) o.o with
        | false => exact .inr (by simp)
        | true =>
          cases hlt : sv.lt (sv.lit 0) pl.scale with
          | false => exact .inl (by simp)
          | true =>
            cases hs : sv.beq pl.scale o.scale with
            | false => exact .inr (by simp)
            | true => exact .inl (by simp)

theorem placed_placed (pl : Placement F) (o : HouseObject F) : pl.placed sv (pl.placed sv o) = pl.placed sv o := by
  unfold Placement.placed
  by_cases h : (sv.lt (sv.lit 0) pl.scale && !sv.beq pl.scale o.scale) = true
  · simp only [h, if_true, ite_self]
  · simp only [h, Bool.false_eq_true, if_false]

variable {pl : Placement F} {o row m : HouseObject F} {members : List (HouseObject F)} {all : List (Placement F)}
  {f : HouseObject F → Placement F} {p : Visitor F} {guids : List UInt32}

/-- Placing a piece once more where it is makes no difference. -/
theorem Placement.Met.again {o' row' o'' row'' : HouseObject F} (h : pl.Met sv o row o' row')
    (h' : pl.Met sv o' row' o'' row'') : pl.Met sv o row o'' row'' := by
  rcases h with ⟨rfl, rfl⟩ | ⟨hheld, rfl, rfl⟩
  · rcases h' with ⟨rfl, rfl⟩ | ⟨-, rfl, rfl⟩
    · exact .inl ⟨placed_placed pl o, rfl⟩
    · exact .inl ⟨rfl, rfl⟩
  · exact h'

def placementsOf (sv : Server F) (p : Visitor F) (r : Rearrangement F) (o : HouseObject F)
    (members : List (HouseObject F)) : Except String (List (Placement F)) :=
  match r with
  | .drag =>
    .ok (members.map
      (shifted sv (sv.sub p.x o.x) (sv.sub p.y o.y) (sv.sub (sv.add p.z (sv.lit HOUSE_PLACE_LIFT)) o.z)))
  | .offset dx dy dz =>
    let far := fun d => sv.lt (sv.lit HOUSE_MAX_NUDGE) (sv.fabs d)
    if far dx || far dy || far dz then .error "Too far." else .ok (members.map (shifted sv dx dy dz))
  | .turn degrees faceMe =>
    let from_ := if faceMe then p.o else o.o
    let theta := sv.sub (sv.add from_ (sv.mul degrees (sv.div sv.pi (sv.lit 180)))) o.o
    let c := sv.cos theta
    let n := sv.sin theta
    .ok (members.map fun m =>
      let rx := sv.sub m.x o.x
      let ry := sv.sub m.y o.y
      ⟨m.guid, sv.sub (sv.add o.x (sv.mul rx c)) (sv.mul ry n), sv.add (sv.add o.y (sv.mul rx n)) (sv.mul ry c), m.z,
        sv.add m.o theta, sv.lit 0⟩)
  | .scale factor relative =>
    let current := currentScale sv o
    let wanted := sv.mul (if relative then current else baseScale sv o.goEntry) factor
    let wanted := if sv.lt wanted (sv.lit (1 / 10)) then sv.lit (1 / 10) else wanted
    let wanted := if sv.lt (sv.lit 50) wanted then sv.lit 50 else wanted
    members.mapM (scaledMember sv o wanted (sv.div wanted current))

/-- One placement for each member, which says what it is of. -/
def OneEach (members : List (HouseObject F)) (all : List (Placement F)) : Prop :=
  ∃ f : HouseObject F → Placement F, (∀ m, (f m).obj = m.guid) ∧ all = members.map f

theorem oneEach_mapM {g : HouseObject F → Except String (Placement F)} (hg : ∀ m pl, g m = .ok pl → pl.obj = m.guid)
    (h : members.mapM g = .ok all) : OneEach members all := by
  let f := fun m : HouseObject F => match g m with
    | .ok pl => pl
    | .error _ => ⟨m.guid, m.x, m.y, m.z, m.o, m.scale⟩
  have hobj : ∀ m, (f m).obj = m.guid := by
    intro m
    dsimp only [f]
    cases hm : g m with
    | error e => rfl
    | ok pl => exact hg m pl hm
  refine ⟨f, hobj, ?_⟩
  induction members generalizing all with
  | nil =>
    cases h
    rfl
  | cons m members ih =>
    rw [mapM_cons] at h
    cases hm : g m with
    | error e =>
      rw [hm] at h
      cases h
    | ok pl =>
      rw [hm] at h
      cases hrest : members.mapM g with
      | error e =>
        rw [hrest] at h
        cases h
      | ok rest =>
        rw [hrest] at h
        cases h
        have hhead : f m = pl := by
          dsimp only [f]
          rw [hm]
        rw [map_cons, hhead, ← ih hrest]

theorem scaledMember_obj {wanted f : F} (h : scaledMember sv o wanted f m = .ok pl) : pl.obj = m.guid := by
  unfold scaledMember at h
  dsimp only at h
  split_ifs at h
  · cases h
    rfl
  · cases h
    rfl

theorem oneEach_placements {r : Rearrangement F} (h : placementsOf sv p r o members = .ok all) : OneEach members all := by
  cases r with
  | drag =>
    cases h
    exact ⟨_, fun _ => rfl, rfl⟩
  | offset dx dy dz =>
    unfold placementsOf at h
    dsimp only at h
    split at h
    · cases h
    · cases h
      exact ⟨_, fun _ => rfl, rfl⟩
  | turn degrees faceMe =>
    cases h
    exact ⟨_, fun _ => rfl, rfl⟩
  | scale factor relative =>
    exact oneEach_mapM (fun _ _ => scaledMember_obj) h

theorem rearrangeObject_eq (s : HouseMgr sv) (p : Visitor F) (guid : UInt32) (r : Rearrangement F) :
    s.rearrangeObject p guid r = s.rearrange p guid (placementsOf sv p r) := by
  cases r <;> rfl

theorem resolve_ok {guid : UInt32} {house : House F} (h : s.resolve p guid = .ok (house, o)) :
    s.checkOwner p = .ok house ∧ s.objects.lookup guid = some o ∧ o.houseId = house.id ∧ isHouseFabric o = false := by
  unfold resolve at h
  cases howner : s.checkOwner p with
  | error e =>
    rw [howner] at h
    cases h
  | ok house' =>
    rw [howner] at h
    cases ho : s.objects.lookup guid with
    | none =>
      rw [ho] at h
      cases h
    | some o' =>
      rw [ho] at h
      dsimp only at h
      split_ifs at h with hhome hfabric
      cases h
      exact ⟨rfl, rfl, not_not.1 hhome, Bool.not_eq_true _ ▸ hfabric⟩

theorem mem_groupMembers (hs : s.Keyed) (hm : m ∈ s.groupMembers o) : s.objects.lookup m.guid = some m := by
  unfold groupMembers at hm
  cases hself : s.objects.lookup o.guid with
  | none =>
    rw [hself] at hm
    cases hm
  | some self =>
    rw [hself] at hm
    rcases mem_cons.1 hm with rfl | hrest
    · rw [hs.objects o.guid m hself]
      exact hself
    cases hhouse : s.getHouseById o.houseId with
    | none =>
      rw [hhouse] at hrest
      cases hrest
    | some house =>
      rw [hhouse] at hrest
      split_ifs at hrest
      · cases hrest
      obtain ⟨guid, -, hguid⟩ := mem_filterMap.1 hrest
      obtain ⟨hlookup, -⟩ := filter_eq_some_iff.1 hguid
      rw [hs.objects guid m hlookup]
      exact hlookup

/-- The pieces that are placed so far have met their placements, and nothing else is different. -/
structure Placed (f : HouseObject F → Placement F) (s₀ s : HouseMgr sv) (guids : List UInt32) : Prop where
  met : ∀ guid ∈ guids, ∃ o row o' row', s₀.objects.lookup guid = some o ∧ s₀.db.houseObject.lookup guid = some row ∧
    s.objects.lookup guid = some o' ∧ s.db.houseObject.lookup guid = some row' ∧ (f o).Met sv o row o' row'
  others : ∀ guid, guid ∉ guids → s.objects.lookup guid = s₀.objects.lookup guid ∧
    s.db.houseObject.lookup guid = s₀.db.houseObject.lookup guid
  rest : s = { s₀ with
    objects := s.objects
    db := { s₀.db with houseObject := s.db.houseObject } }

theorem applyPlacement_met (hs : s.Keyed) (pl : Placement F) (ho : s.objects.lookup pl.obj = some o)
    (hrow : s.db.houseObject.lookup pl.obj = some row) :
    (∃ o' row', (s.applyPlacement pl).objects.lookup pl.obj = some o' ∧
      (s.applyPlacement pl).db.houseObject.lookup pl.obj = some row' ∧ pl.Met sv o row o' row') ∧
    (∀ guid, guid ≠ pl.obj → (s.applyPlacement pl).objects.lookup guid = s.objects.lookup guid ∧
      (s.applyPlacement pl).db.houseObject.lookup guid = s.db.houseObject.lookup guid) ∧
    s.applyPlacement pl = { s with
      objects := (s.applyPlacement pl).objects
      db := { s.db with houseObject := (s.applyPlacement pl).db.houseObject } } := by
  unfold applyPlacement
  rw [ho, bind_some]
  rcases apply_cases sv pl o with ⟨hnone, hheld⟩ | hsome
  · rw [hnone]
    exact ⟨⟨o, row, ho, hrow, .inr ⟨hheld, rfl, rfl⟩⟩, fun _ _ => ⟨rfl, rfl⟩, rfl⟩
  rw [hsome]
  have hguid : (pl.placed sv o).guid = pl.obj := hs.objects pl.obj o ho
  have hrows := lookup_updateRows s.db.houseObject (pl.placed sv o).guid (f := placementColumns sv (pl.placed sv o)) fun _ => rfl
  refine ⟨⟨pl.placed sv o, placementColumns sv (pl.placed sv o) row, AList.lookup_insert _, ?_, .inl ⟨rfl, rfl⟩⟩,
    fun guid hne => ⟨AList.lookup_insert_ne hne, ?_⟩, rfl⟩
  · rw [hrows, hguid, Function.update_self, hrow]
    rfl
  · rw [hrows, hguid, Function.update_of_ne hne]

theorem Placed.step (h : Placed f s₀ s guids) (hs : s.Keyed)
    (hrowed : s₀.pieces.Rowed) (hobj : ∀ m, (f m).obj = m.guid) (hm : s₀.objects.lookup m.guid = some m) :
    Placed f s₀ (s.applyPlacement (f m)) (guids ++ [m.guid]) := by
  -- a member that is there twice has met its placement, and meets it again
  have hnow : ∃ o row row₀, s₀.db.houseObject.lookup m.guid = some row₀ ∧ s.objects.lookup m.guid = some o ∧
      s.db.houseObject.lookup m.guid = some row ∧ ∀ o' row', (f m).Met sv o row o' row' → (f m).Met sv m row₀ o' row' := by
    by_cases hin : m.guid ∈ guids
    · obtain ⟨o, row, o', row', ho, hrow, ho', hrow', hmet⟩ := h.met m.guid hin
      have heq : m = o := some.inj (hm.symm.trans ho)
      subst heq
      exact ⟨o', row', row, hrow, ho', hrow', fun _ _ hagain => hmet.again hagain⟩
    · obtain ⟨hobject, hrows⟩ := h.others m.guid hin
      obtain ⟨row, hrow⟩ := isSome_iff_exists.1 (hrowed m.guid ((congrArg isSome hm).trans rfl))
      exact ⟨m, row, row, hrow, hobject.trans hm, hrows.trans hrow, fun _ _ hmet => hmet⟩
  obtain ⟨o, row, row₀, hrow₀, ho, hrow, hmeets⟩ := hnow
  obtain ⟨⟨o', row', ho', hrow', hmet⟩, hothers, hrest⟩ :=
    applyPlacement_met hs (f m) (by rw [hobj]; exact ho) (by rw [hobj]; exact hrow)
  rw [hobj] at ho' hrow' hothers
  refine ⟨fun guid hguid => ?_, fun guid hguid => ?_, ?_⟩
  · by_cases heq : guid = m.guid
    · rw [heq]
      exact ⟨m, row₀, o', row', hm, hrow₀, ho', hrow', hmeets o' row' hmet⟩
    rcases mem_append.1 hguid with hin | hlast
    · obtain ⟨hobject, hrows⟩ := hothers guid heq
      rw [hobject, hrows]
      exact h.met guid hin
    · exact absurd (mem_singleton.1 hlast) heq
  · rw [mem_append, mem_singleton, not_or] at hguid
    obtain ⟨hobject, hrows⟩ := hothers guid hguid.2
    rw [hobject, hrows]
    exact h.others guid hguid.1
  · rw [hrest, h.rest]

/-- A request that is carried out: every member of the group meets its placement, in memory and in its row, and nothing
else is different. -/
structure Rearranged (s s' : HouseMgr sv) (members : List (HouseObject F)) (all : List (Placement F)) : Prop where
  each : List.Forall₂ (fun m pl => pl.obj = m.guid ∧ s.objects.lookup m.guid = some m ∧ ∃ row o' row',
    s.db.houseObject.lookup m.guid = some row ∧ s'.objects.lookup m.guid = some o' ∧
    s'.db.houseObject.lookup m.guid = some row' ∧ pl.Met sv m row o' row') members all
  others : ∀ guid, guid ∉ members.map HouseObject.guid → s'.objects.lookup guid = s.objects.lookup guid ∧
    s'.db.houseObject.lookup guid = s.db.houseObject.lookup guid
  rest : s' = { s with
    objects := s'.objects
    db := { s.db with houseObject := s'.db.houseObject } }

theorem placed_run (hobj : ∀ m, (f m).obj = m.guid) (hrowed : s₀.pieces.Rowed)
    (members : List (HouseObject F)) {s : HouseMgr sv} (h : Placed f s₀ s guids) (hs : s.Keyed)
    (hm : ∀ m ∈ members, s₀.objects.lookup m.guid = some m) :
    Placed f s₀ (Runs.run applyPlacement s (members.map f)) (guids ++ members.map HouseObject.guid) := by
  induction members generalizing s guids with
  | nil =>
    rw [map_nil, map_nil, append_nil]
    exact h
  | cons m members ih =>
    have hstep := h.step hs hrowed hobj (hm m mem_cons_self)
    have hkeyed := (moves_applyPlacement (m := ⟨True, False, False, False⟩) hs (f m)).keyed hs
    have hrest := ih hstep hkeyed fun x hx => hm x (mem_cons_of_mem m hx)
    rw [append_assoc] at hrest
    exact hrest

/-- A request on a group is carried out for every member or refused with nothing done. -/
theorem rearrange_whole {tidy : Prop} (h : Orderly tidy s) (p : Visitor F) (guid : UInt32) (r : Rearrangement F) :
    (∃ e, s.rearrangeObject p guid r = (.error e, s)) ∨
      ∃ house o all s', s.resolve p guid = .ok (house, o) ∧ placementsOf sv p r o (s.groupMembers o) = .ok all ∧
        s.rearrangeObject p guid r = (.ok (), s') ∧ Rearranged s s' (s.groupMembers o) all := by
  rw [rearrangeObject_eq]
  unfold rearrange
  cases hr : s.resolve p guid with
  | error e => exact .inl ⟨e, rfl⟩
  | ok ho =>
    obtain ⟨house, o⟩ := ho
    dsimp only
    cases hall : placementsOf sv p r o (s.groupMembers o) with
    | error e => exact .inl ⟨e, rfl⟩
    | ok all =>
      dsimp only
      unfold placeAll
      split
      · obtain ⟨f, hobj, rfl⟩ := oneEach_placements hall
        have hlookup : ∀ m ∈ s.groupMembers o, s.objects.lookup m.guid = some m := fun m hm => mem_groupMembers h.toKeyed hm
        have hnone : Placed f s s [] := ⟨fun _ hnil => absurd hnil not_mem_nil, fun _ _ => ⟨rfl, rfl⟩, rfl⟩
        have hplaced := placed_run hobj h.rowed (s.groupMembers o) hnone h.toKeyed hlookup
        rw [nil_append] at hplaced
        refine .inr ⟨house, o, _, _, rfl, hall, rfl, ?_, hplaced.others, hplaced.rest⟩
        rw [forall₂_map_right_iff, forall₂_same]
        intro m hm
        obtain ⟨x, row, o', row', hx, hrow, ho', hrow', hmet⟩ := hplaced.met m.guid (mem_map_of_mem hm)
        have heq : m = x := some.inj ((hlookup m hm).symm.trans hx)
        subst heq
        exact ⟨hobj m, hx, row, o', row', hrow, ho', hrow', hmet⟩
      · exact .inl ⟨_, rfl⟩

/-- After any start and whatever happened then, a drag, a move, a turn or a resize of a piece gives every member of its group
the new placement and its row the new columns, or it is refused and nothing is different. -/
theorem group_edits_whole (db : HouseTables sv) (named : UInt32 → Bool) (shelves : List StorageRow) (es : List (HouseEvent om F))
    (p : Visitor F) (guid : UInt32) (r : Rearrangement F) :
    let s := Runs.run step (start db named shelves) es
    (∃ e, s.rearrangeObject p guid r = (.error e, s)) ∨
      ∃ house o all s', s.resolve p guid = .ok (house, o) ∧ placementsOf sv p r o (s.groupMembers o) = .ok all ∧
        s.rearrangeObject p guid r = (.ok (), s') ∧ Rearranged s s' (s.groupMembers o) all :=
  rearrange_whole (run_orderly (False.elim : False → Countable db) named shelves es) p guid r

end HouseMgr
end ComfyCraft
