import ComfyCraft.Housing.Instances

/-! The houses in memory and their rows: the two agree on the account and the instance of every house, and
loading them, checking their instances and going home keep it so. -/

namespace ComfyCraft.HouseMgr

open List AList

variable {F : Type} {sv : Server F} {s : HouseMgr sv}

/-- The row of a house; ids are the primary key. -/
def houseRow (s : HouseMgr sv) (id : UInt32) : Option (HouseRow F) := s.db.house.rows.find? fun r => r.id = id

variable {id : UInt32} {r : HouseRow F} {l : List (HouseRow F)}

theorem houseRow_some (h : s.houseRow id = some r) : r ∈ s.db.house.rows ∧ r.id = id :=
  ⟨mem_of_find?_eq_some h, by simpa using find?_some h⟩

theorem houseRow_of_mem (hids : (s.db.house.rows.map HouseRow.id).Nodup) (hr : r ∈ s.db.house.rows) :
    s.houseRow r.id = some r := by
  cases h : s.houseRow r.id with
  | none => exact absurd (decide_eq_true rfl) (find?_eq_none.1 h r hr)
  | some r' =>
    obtain ⟨hmem, hid⟩ := houseRow_some h
    rw [inj_on_of_nodup_map hids hmem hr hid]

/-- Every house is filed under its own id and its own account, and its row has the same account and instance. -/
structure Filed (s : HouseMgr sv) : Prop where
  primary : (s.db.house.rows.map HouseRow.id).Nodup
  keyed : ∀ id h, s.getHouseById id = some h → h.id = id
  rows : ∀ id, (s.getHouseById id).map (fun h => (h.accountId, h.instanceId)) =
    (s.houseRow id).map fun r => (r.account, r.instanceId)
  accounts : ∀ a id h, s.houseByAccount.lookup a = some id → s.getHouseById id = some h → h.accountId = a

def setInstance (s : HouseMgr sv) (id instanceId : UInt32) : HouseMgr sv :=
  (s.modifyHouse id fun h => { h with instanceId := instanceId }).updateHouseRow id fun r => { r with instanceId := instanceId }

theorem getHouseById_setInstance (s : HouseMgr sv) (id v x : UInt32) : (s.setInstance id v).getHouseById x =
      if x = id then (s.getHouseById x).map fun h => { h with instanceId := v } else s.getHouseById x := by
  unfold setInstance updateHouseRow modifyHouse getHouseById
  cases h : s.houses.lookup id with
  | none =>
    split_ifs with hx
    · rw [hx, h]
      rfl
    · rfl
  | some house =>
    split_ifs with hx
    · rw [hx, h, lookup_insert]
      rfl
    · rw [lookup_insert_ne hx]

theorem rows_setInstance (s : HouseMgr sv) (id v : UInt32) :
    (s.setInstance id v).db.house.rows = s.db.house.rows.map fun r => if r.id = id then { r with instanceId := v } else r := by
  have hdb : (s.modifyHouse id fun h => { h with instanceId := v }).db = s.db := by
    unfold modifyHouse
    split <;> rfl
  obtain ⟨rows, hupd, hrows⟩ := Rows.updateWhere_isSome (t := s.db.house) (p := fun r => r.id = id)
    (f := fun r => { r with instanceId := v }) fun r _ _ => rfl
  unfold setInstance updateHouseRow updateRows
  rw [hdb, hupd, Option.getD_some, hrows]
  simp only [decide_eq_true_eq]

theorem houseRow_setInstance (s : HouseMgr sv) (id v x : UInt32) : (s.setInstance id v).houseRow x =
      if x = id then (s.houseRow x).map fun r => { r with instanceId := v } else s.houseRow x := by
  have hid : ∀ r : HouseRow F, (if r.id = id then { r with instanceId := v } else r).id = r.id := by
    intro r
    split_ifs <;> rfl
  have hfun : ((fun r : HouseRow F => decide (r.id = x)) ∘ fun r => if r.id = id then { r with instanceId := v } else r) =
      fun r => decide (r.id = x) := by
    funext r
    rw [Function.comp_apply, hid]
  have hmap : (s.setInstance id v).houseRow x = (s.houseRow x).map fun r => if r.id = id then { r with instanceId := v } else r := by
    unfold houseRow
    rw [rows_setInstance, find?_map, hfun]
  rw [hmap]
  cases h : s.houseRow x with
  | none => split_ifs <;> rfl
  | some r =>
    have hr : r.id = x := (houseRow_some h).2
    simp only [Option.map_some, hr]
    split_ifs <;> rfl

theorem houseByAccount_setInstance (s : HouseMgr sv) (id v : UInt32) : (s.setInstance id v).houseByAccount = s.houseByAccount := by
  unfold setInstance updateHouseRow modifyHouse
  split <;> rfl

theorem Filed.setInstance (h : s.Filed) (id v : UInt32) : (s.setInstance id v).Filed where
  primary := by
    rw [rows_setInstance, map_map]
    refine (map_congr_left fun r _ => ?_) ▸ h.primary
    rw [Function.comp_apply]
    split_ifs <;> rfl
  keyed := by
    intro x house hx
    rw [getHouseById_setInstance] at hx
    split_ifs at hx with hxid
    · obtain ⟨old, hold, rfl⟩ := Option.map_eq_some_iff.1 hx
      exact h.keyed x old hold
    · exact h.keyed x house hx
  rows := by
    intro x
    rw [getHouseById_setInstance, houseRow_setInstance]
    split_ifs with hx
    · have hrow := h.rows x
      cases hget : s.getHouseById x with
      | none =>
        rw [hget] at hrow
        rw [Option.map_eq_none_iff.1 hrow.symm]
        rfl
      | some house =>
        rw [hget] at hrow
        obtain ⟨r, hr, heq⟩ := Option.map_eq_some_iff.1 hrow.symm
        rw [hr]
        exact congrArg (fun a => some (a, v)) (congrArg Prod.fst heq).symm
    · exact h.rows x
  accounts := by
    intro a x house ha hx
    rw [houseByAccount_setInstance] at ha
    rw [getHouseById_setInstance] at hx
    split_ifs at hx with hxid
    · obtain ⟨old, hold, rfl⟩ := Option.map_eq_some_iff.1 hx
      exact h.accounts a x old ha hold
    · exact h.accounts a x house ha hx

/-! Loading. -/

def ofRow (r : HouseRow F) : House F := ⟨r.id, r.account, r.portalId, r.instanceId, [], [], r.templateId, 0, r.exit⟩

theorem getHouseById_loadRows (hl : (l.map HouseRow.id).Nodup) (id : UInt32) :
    (l.foldl loadHouse s).getHouseById id = ((l.find? fun r => r.id = id).map ofRow).or (s.getHouseById id) := by
  induction l generalizing s with
  | nil => rfl
  | cons r l ih =>
    rw [map_cons, nodup_cons] at hl
    rw [foldl_cons, ih hl.2, find?_cons]
    by_cases hr : r.id = id
    · have hnone : (l.find? fun r => decide (r.id = id)) = none := by
        apply find?_eq_none.2
        intro x hx hxid
        exact hl.1 (hr ▸ of_decide_eq_true hxid ▸ mem_map_of_mem hx)
      have hhere : (loadHouse s r).getHouseById id = some (ofRow r) := by
        unfold loadHouse getHouseById
        rw [hr, lookup_insert, ofRow, hr]
      rw [hnone, decide_eq_true hr, hhere]
      rfl
    · have hother : (loadHouse s r).getHouseById id = s.getHouseById id := lookup_insert_ne (Ne.symm hr)
      rw [decide_eq_false hr, hother]

theorem houseByAccount_loadRows {a : UInt32} (h : (l.foldl loadHouse s).houseByAccount.lookup a = some id) :
    (∃ r ∈ l, r.id = id ∧ r.account = a) ∨ s.houseByAccount.lookup a = some id := by
  induction l generalizing s with
  | nil => exact .inr h
  | cons r l ih =>
    rcases ih h with ⟨x, hx, heq⟩ | hold
    · exact .inl ⟨x, mem_cons_of_mem r hx, heq⟩
    by_cases ha : a = r.account
    · rw [ha] at hold
      have hid : some r.id = some id := (lookup_insert _).symm.trans hold
      exact .inl ⟨r, mem_cons_self, Option.some.inj hid, ha.symm⟩
    · exact .inr ((lookup_insert_ne ha).symm.trans hold)

theorem db_loadRows (l : List (HouseRow F)) (s : HouseMgr sv) : (l.foldl loadHouse s).db = s.db := by
  induction l generalizing s with
  | nil => rfl
  | cons r l ih => exact ih _

theorem getHouseById_loadHouses (hids : (s.db.house.rows.map HouseRow.id).Nodup) (id : UInt32) :
    s.loadHouses.getHouseById id = (s.houseRow id).map ofRow := by
  unfold loadHouses
  rw [getHouseById_loadRows hids]
  exact Option.or_none

theorem filed_loadHouses (hids : (s.db.house.rows.map HouseRow.id).Nodup) : s.loadHouses.Filed := by
  have hdb : s.loadHouses.db = s.db := db_loadRows _ _
  refine ⟨hdb ▸ hids, fun id h hget => ?_, fun id => ?_, fun a id h ha hget => ?_⟩
  · rw [getHouseById_loadHouses hids] at hget
    obtain ⟨r, hr, rfl⟩ := Option.map_eq_some_iff.1 hget
    exact (houseRow_some hr).2
  · have hrow : s.loadHouses.houseRow id = s.houseRow id := by
      unfold houseRow
      rw [hdb]
    rw [getHouseById_loadHouses hids, hrow, Option.map_map]
    rfl
  · rw [getHouseById_loadHouses hids] at hget
    obtain ⟨r, hr, rfl⟩ := Option.map_eq_some_iff.1 hget
    rcases houseByAccount_loadRows ha with ⟨r', hr', hid, hacc⟩ | hnone
    · obtain ⟨hmem, hrid⟩ := houseRow_some hr
      have heq : r = r' := inj_on_of_nodup_map hids hmem hr' (hrid.trans hid.symm)
      rw [heq]
      exact hacc
    · cases hnone

/-- A house whose instance is dropped unless a row of the house map has it. -/
def checked (named : UInt32 → Bool) (h : House F) : House F := if named h.instanceId then h else { h with instanceId := 0 }

theorem checked_checked (named : UInt32 → Bool) (h : House F) : checked named (checked named h) = checked named h := by
  unfold checked
  split_ifs <;> rfl

theorem checkInstance_spec (h : s.Filed) (named : UInt32 → Bool) (x : UInt32) : (checkInstance named s x).Filed ∧
      ∀ id, (checkInstance named s x).getHouseById id =
        if id = x then (s.getHouseById id).map (checked named) else s.getHouseById id := by
  unfold checkInstance
  cases hx : s.getHouseById x with
  | none =>
    refine ⟨h, fun id => ?_⟩
    split_ifs with hid
    · rw [hid, hx]
      rfl
    · rfl
  | some house =>
    have hid := h.keyed x house hx
    have hsame : ∀ s' : HouseMgr sv, s'.houses = s.houses → checked named house = house → ∀ id,
        s'.getHouseById id = if id = x then (s.getHouseById id).map (checked named) else s.getHouseById id := by
      intro s' hhouses hchecked id
      have hget : s'.getHouseById id = s.getHouseById id := by
        unfold getHouseById
        rw [hhouses]
      rw [hget]
      split_ifs with hix
      · rw [hix, hx, Option.map_some, hchecked]
      · rfl
    dsimp only
    split_ifs with hzero hnamed
    · refine ⟨h, hsame s rfl ?_⟩
      unfold checked
      split_ifs
      · rfl
      · rw [← hzero]
    · exact ⟨⟨h.primary, h.keyed, h.rows, h.accounts⟩, hsame _ rfl (if_pos hnamed)⟩
    · refine ⟨h.setInstance house.id 0, fun id => ?_⟩
      have hset := s.getHouseById_setInstance house.id 0 id
      unfold setInstance at hset
      rw [hset, hid]
      split_ifs with hix
      · rw [hix, hx, Option.map_some, Option.map_some, checked, if_neg hnamed]
      · rfl

theorem checkInstances_spec (h : s.Filed) (named : UInt32 → Bool) (l : List UInt32) : (l.foldl (checkInstance named) s).Filed ∧
      ∀ id, (l.foldl (checkInstance named) s).getHouseById id =
        if id ∈ l then (s.getHouseById id).map (checked named) else s.getHouseById id := by
  induction l generalizing s with
  | nil => exact ⟨h, fun id => (if_neg not_mem_nil).symm⟩
  | cons x l ih =>
    obtain ⟨hfiled, hget⟩ := checkInstance_spec h named x
    obtain ⟨hfiled', hget'⟩ := ih hfiled
    refine ⟨hfiled', fun id => ?_⟩
    rw [foldl_cons, hget', hget]
    simp only [mem_cons]
    by_cases hx : id = x <;> by_cases hl : id ∈ l
    · rw [if_pos hl, if_pos hx, if_pos (.inl hx), Option.map_map]
      congr 1
      exact funext (checked_checked named)
    · rw [if_neg hl, if_pos hx, if_pos (.inl hx)]
    · rw [if_pos hl, if_neg hx, if_pos (.inr hl)]
    · rw [if_neg hl, if_neg hx, if_neg (not_or.2 ⟨hx, hl⟩)]

theorem loadFromDB_spec (hids : (s.db.house.rows.map HouseRow.id).Nodup) (named : UInt32 → Bool) (hen : sv.enabled = true) :
    (s.loadFromDB named).Filed ∧
      ∀ id, (s.loadFromDB named).getHouseById id = (s.houseRow id).map fun r => checked named (ofRow r) := by
  unfold loadFromDB
  rw [hen]
  obtain ⟨hfiled, hget⟩ := checkInstances_spec (filed_loadHouses hids) named (s.loadHouses.houses.ordered.map Sigma.fst)
  refine ⟨hfiled, fun id => (hget id).trans ?_⟩
  have hrow := getHouseById_loadHouses hids id
  split_ifs with hid
  · rw [hrow, Option.map_map]
    rfl
  have hnone : s.loadHouses.getHouseById id = none := by
    rw [Table.mem_ordered_keys] at hid
    exact Option.not_isSome_iff_eq_none.1 hid
  rw [hnone] at hrow ⊢
  rw [Option.map_eq_none_iff.1 hrow.symm]
  rfl

/-! Going home. -/

theorem prepareInstance_spec (h : s.Filed) {house : House F} (hhouse : s.getHouseById house.id = some house) (new : UInt32) :
    (s.prepareInstance house new).Filed ∧ ∀ id, (s.prepareInstance house new).getHouseById id =
        if id = house.id ∧ house.instanceId = 0 then some { house with instanceId := new } else s.getHouseById id := by
  unfold prepareInstance
  split_ifs with hzero
  · exact ⟨h, fun id => (if_neg fun hc => hzero hc.2).symm⟩
  have hset := h.setInstance house.id new
  unfold setInstance at hset
  refine ⟨⟨hset.primary, hset.keyed, hset.rows, hset.accounts⟩, fun id => ?_⟩
  have hget := s.getHouseById_setInstance house.id new id
  unfold setInstance at hget
  refine Eq.trans ?_ hget |>.trans ?_
  · rfl
  by_cases hid : id = house.id
  · rw [if_pos hid, if_pos ⟨hid, not_not.1 hzero⟩, hid, hhouse]
    rfl
  · rw [if_neg hid, if_neg fun hc => hid hc.1]

theorem sendPlayerHome_cases (s : HouseMgr sv) (p : Visitor F) : (∃ error, s.sendPlayerHome p = (.error error, s)) ∨
      ∃ house, s.getHouseByAccount p.accountId = some house ∧ s.sendPlayerHome p = (.ok (), s.prepareInstance house p.newInstanceId) := by
  unfold sendPlayerHome refuse done
  split_ifs with hen hcombat
  · exact .inl ⟨_, rfl⟩
  · exact .inl ⟨_, rfl⟩
  cases hhouse : s.getHouseByAccount p.accountId with
  | none => exact .inl ⟨_, rfl⟩
  | some house => exact .inr ⟨house, rfl, rfl⟩

end ComfyCraft.HouseMgr
