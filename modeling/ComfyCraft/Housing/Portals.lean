import ComfyCraft.Housing.Houses

/-! The entrances out in the world. The object an entrance shows has a guid that is made from its id, so an id
outside the block of entrances is refused. -/

namespace ComfyCraft

open List UInt32

variable {F : Type} {sv : Server F}

def portalGuid (id : UInt32) : UInt32 := HOUSE_PORTAL_GUID_MIN + id

def portalIdFromGuid (lowGuid : UInt32) : UInt32 :=
  if HOUSE_PORTAL_GUID_MIN < lowGuid ∧ lowGuid ≤ HOUSE_PORTAL_GUID_MAX then lowGuid - HOUSE_PORTAL_GUID_MIN else 0

theorem portalIdFromGuid_portalGuid {id : UInt32} (h0 : id ≠ 0) (hmax : id ≤ HOUSE_PORTAL_MAX_ID) :
    portalIdFromGuid (portalGuid id) = id := by
  have hpos : id.toNat ≠ 0 := fun h => h0 (UInt32.toNat_inj.1 h)
  have hle : id.toNat ≤ 999 := le_iff_toNat_le.1 hmax
  have hguid : (portalGuid id).toNat = 11999000 + id.toNat := by
    unfold portalGuid
    rw [UInt32.toNat_add]
    exact Nat.mod_eq_of_lt (by change 11999000 + id.toNat < 2 ^ 32; omega)
  have hmin : HOUSE_PORTAL_GUID_MIN < portalGuid id := by
    rw [lt_iff_toNat_lt, hguid]
    change 11999000 < 11999000 + id.toNat
    omega
  have hlast : portalGuid id ≤ HOUSE_PORTAL_GUID_MAX := by
    rw [le_iff_toNat_le, hguid]
    change 11999000 + id.toNat ≤ 11999999
    omega
  unfold portalIdFromGuid
  rw [if_pos ⟨hmin, hlast⟩]
  apply UInt32.toNat_inj.1
  rw [UInt32.toNat_sub_of_le _ _ (UInt32.le_of_lt hmin), hguid]
  change 11999000 + id.toNat - 11999000 = id.toNat
  omega

namespace HouseMgr

def portalAhead (sv : Server F) (p : Visitor F) (id : UInt32) (name : String) (templateId : UInt32) : HousePortal F where
  id := id
  map := p.mapId
  x := sv.add p.x (sv.mul (sv.cos p.o) (sv.lit HOUSE_PORTAL_PLACE_DISTANCE))
  y := sv.add p.y (sv.mul (sv.sin p.o) (sv.lit HOUSE_PORTAL_PLACE_DISTANCE))
  z := p.z
  o := sv.add p.o sv.pi
  name := name
  templateId := templateId

def savedPortal (sv : Server F) (p : HousePortal F) : HousePortal F :=
  { p with x := sv.column p.x, y := sv.column p.y, z := sv.column p.z, o := sv.column p.o }

/-- `SELECT MAX(id)`, 0 for no row. -/
def maxPortalId (db : HouseTables sv) : UInt32 := highest (db.housePortal.map HousePortal.id)

/-- `INSERT INTO house_portal`; it fails when the ids are used up or the name is refused. -/
def insertPortal (s : HouseMgr sv) (p : HousePortal F) : HouseMgr sv :=
  match sv.portalName p.name with
  | none => s
  | some name =>
    if s.db.portalNext = 0 then s
    else { s with db := { s.db with
      portalNext := s.db.portalNext + 1
      housePortal := s.db.housePortal ++ [{ savedPortal sv p with id := s.db.portalNext, name := name }] } }

/-- `AddPortal`; the row stays in the table also when its id is refused, and an `INSERT` that failed is not
noticed. -/
def addPortal (s : HouseMgr sv) (p : Visitor F) (name : String) (templateId : UInt32) : Reply (HouseMgr sv) :=
  if !sv.enabled then refuse s "Housing is not available on this server."
  else if p.mapId = HOUSE_MAP_ID then refuse s "An entrance has to be out in the world, not inside a house."
  else if HOUSE_PORTAL_MAX_ID.toNat ≤ s.portals.entries.length then refuse s "There is no room for another entrance."
  else if templateId ≠ 0 ∧ (s.getTemplate templateId).isNone then refuse s "There is no template with that id."
  else
    let s := s.insertPortal (portalAhead sv p 0 name templateId)
    let id := maxPortalId s.db
    if id = 0 ∨ HOUSE_PORTAL_MAX_ID < id then refuse s "There is no room for another entrance."
    else done { s with portals := s.portals.insert id (portalAhead sv p id name templateId) }

def updatePortalRow (s : HouseMgr sv) (id : UInt32) (f : HousePortal F → HousePortal F) : HouseMgr sv :=
  { s with db := { s.db with housePortal := s.db.housePortal.map fun r => if r.id = id then f r else r } }

def movePortal (s : HouseMgr sv) (p : Visitor F) (id : UInt32) : Reply (HouseMgr sv) :=
  if !sv.enabled then refuse s "Housing is not available on this server."
  else if p.mapId = HOUSE_MAP_ID then refuse s "An entrance has to be out in the world, not inside a house."
  else match s.portals.lookup id with
    | none => refuse s "There is no entrance with that id."
    | some portal =>
      let moved := portalAhead sv p id portal.name portal.templateId
      done ({ s with portals := s.portals.insert id moved }.updatePortalRow id fun r =>
        { savedPortal sv moved with id := r.id, name := r.name, templateId := r.templateId })

/-- `RemovePortal`; whoever lived behind the entrance has none. -/
def removePortal (s : HouseMgr sv) (id : UInt32) : Reply (HouseMgr sv) :=
  match s.portals.lookup id with
  | none => refuse s "There is no entrance with that id."
  | some _ => done { s with
      portals := s.portals.erase id
      houses := s.houses.mapValues fun h => if h.portalId = id then { h with portalId := 0 } else h
      db := { s.db with
        housePortal := s.db.housePortal.filter fun r => r.id ≠ id
        house := updateRows s.db.house (fun r => r.portalId = id) fun r => { r with portalId := 0 } } }

def setHomePortal (s : HouseMgr sv) (p : Visitor F) (portalId : UInt32) : Reply (HouseMgr sv) :=
  if portalId ≠ 0 ∧ (s.getPortal portalId).isNone then refuse s "There is no entrance with that id."
  else match s.getHouseByAccount p.accountId with
    | none => refuse s "You have no home yet. Claim one at an entrance first."
    | some house => done (s.setHousePortal house.id portalId)

def setPortalTemplate (s : HouseMgr sv) (portalId templateId : UInt32) : Reply (HouseMgr sv) :=
  match s.portals.lookup portalId with
  | none => refuse s "There is no entrance with that id."
  | some portal =>
    if templateId ≠ 0 ∧ (s.getTemplate templateId).isNone then refuse s "There is no template with that id."
    else done ({ s with portals := s.portals.insert portalId { portal with templateId := templateId } }.updatePortalRow portalId
      fun r => { r with templateId := templateId })

/-! Adding an entrance as a whole, or not at all. -/

/-- The entrance is in memory under an id of the block that its guid leads back to, and has a row of its own. -/
structure PortalAdded (s s' : HouseMgr sv) (id : UInt32) (portal : HousePortal F) : Prop where
  pos : id ≠ 0
  le : id ≤ HOUSE_PORTAL_MAX_ID
  guid : portalIdFromGuid (portalGuid id) = id
  registered : s'.portals.lookup id = some portal
  row : ∃ name, s'.db.housePortal = s.db.housePortal ++ [{ savedPortal sv portal with id := id, name := name }]

def AddedWhole (s : HouseMgr sv) (p : Visitor F) (name : String) (templateId : UInt32) : Prop :=
  (∃ id, (s.addPortal p name templateId).1 = .ok () ∧
    PortalAdded s (s.addPortal p name templateId).2 id (portalAhead sv p id name templateId)) ∨
  (∃ e, (s.addPortal p name templateId).1 = .error e) ∧ (s.addPortal p name templateId).2.portals = s.portals ∧
    (s.addPortal p name templateId).2.db.housePortal = s.db.housePortal

/-- The checks before anything is written refuse. -/
def RefusedBefore (s : HouseMgr sv) (p : Visitor F) (templateId : UInt32) : Prop :=
  sv.enabled = false ∨ p.mapId = HOUSE_MAP_ID ∨ HOUSE_PORTAL_MAX_ID.toNat ≤ s.portals.entries.length ∨
    templateId ≠ 0 ∧ (s.getTemplate templateId).isNone = true

/-- The table takes the row, and under which id. -/
def Takes (s : HouseMgr sv) (name : String) : Prop := (sv.portalName name).isSome = true ∧ s.db.portalNext ≠ 0

instance (s : HouseMgr sv) (name : String) : Decidable (s.Takes name) := inferInstanceAs (Decidable (_ ∧ _))

variable {s : HouseMgr sv} {p : HousePortal F}

theorem insertPortal_takes (h : s.Takes p.name) : ∃ name, s.insertPortal p = { s with db := { s.db with
      portalNext := s.db.portalNext + 1
      housePortal := s.db.housePortal ++ [{ savedPortal sv p with id := s.db.portalNext, name := name }] } } := by
  obtain ⟨name, hname⟩ := Option.isSome_iff_exists.1 h.1
  refine ⟨name, ?_⟩
  unfold insertPortal
  rw [hname]
  exact if_neg h.2

theorem insertPortal_fails (h : ¬s.Takes p.name) : s.insertPortal p = s := by
  unfold insertPortal
  cases hname : sv.portalName p.name with
  | none => rfl
  | some name =>
    have hused : s.db.portalNext = 0 := by
      by_contra hne
      exact h ⟨by rw [hname]; rfl, hne⟩
    exact if_pos hused

theorem maxPortalId_new (hnext : ∀ r ∈ s.db.housePortal, s.db.portalNext ≠ 0 → r.id < s.db.portalNext)
    (hne : s.db.portalNext ≠ 0) {row : HousePortal F} (hrow : row.id = s.db.portalNext) :
    highest ((s.db.housePortal ++ [row]).map HousePortal.id) = s.db.portalNext := by
  rw [map_append, map_cons, map_nil, highest_concat, hrow, if_pos]
  by_cases hzero : highest (s.db.housePortal.map HousePortal.id) = 0
  · rw [hzero]
    exact UInt32.pos_iff_ne_zero.2 hne
  · obtain ⟨r, hr, heq⟩ := mem_map.1 (highest_mem hzero)
    exact heq ▸ hnext r hr hne

/-- Adding an entrance does all or nothing when it is refused before the row is written, when the row is taken and its
id is in the block, and when the row is not taken and no other row has an id in the block. -/
theorem addedWhole_iff (s : HouseMgr sv) (hnext : ∀ r ∈ s.db.housePortal, s.db.portalNext ≠ 0 → r.id < s.db.portalNext)
    (p : Visitor F) (name : String) (templateId : UInt32) :
    s.AddedWhole p name templateId ↔ s.RefusedBefore p templateId ∨ s.Takes name ∧ s.db.portalNext ≤ HOUSE_PORTAL_MAX_ID ∨
        ¬s.Takes name ∧ (maxPortalId s.db = 0 ∨ HOUSE_PORTAL_MAX_ID < maxPortalId s.db) := by
  by_cases hbefore : s.RefusedBefore p templateId
  · have hreply : ∃ e, s.addPortal p name templateId = refuse s e := by
      unfold RefusedBefore at hbefore
      unfold addPortal
      split_ifs with h1 h2 h3 h4
      · exact ⟨_, rfl⟩
      · exact ⟨_, rfl⟩
      · exact ⟨_, rfl⟩
      · exact ⟨_, rfl⟩
      · simp_all
    obtain ⟨e, he⟩ := hreply
    refine ⟨fun _ => .inl hbefore, fun _ => .inr ?_⟩
    rw [he]
    exact ⟨⟨e, rfl⟩, rfl, rfl⟩
  · have hreply : s.addPortal p name templateId =
        let s := s.insertPortal (portalAhead sv p 0 name templateId)
        let id := maxPortalId s.db
        if id = 0 ∨ HOUSE_PORTAL_MAX_ID < id then refuse s "There is no room for another entrance."
        else done { s with portals := s.portals.insert id (portalAhead sv p id name templateId) } := by
      unfold RefusedBefore at hbefore
      rw [not_or, not_or, not_or] at hbefore
      unfold addPortal
      rw [if_neg (by simpa using hbefore.1), if_neg hbefore.2.1, if_neg hbefore.2.2.1, if_neg hbefore.2.2.2]
    unfold AddedWhole
    rw [hreply]
    by_cases htakes : s.Takes name
    · obtain ⟨kept, hkept⟩ := insertPortal_takes (s := s) (p := portalAhead sv p 0 name templateId) htakes
      have hid : maxPortalId (s.insertPortal (portalAhead sv p 0 name templateId)).db = s.db.portalNext := by
        rw [hkept]
        exact maxPortalId_new hnext htakes.2 rfl
      have hlonger : (s.insertPortal (portalAhead sv p 0 name templateId)).db.housePortal ≠ s.db.housePortal := by
        rw [hkept]
        intro heq
        have hlen := congrArg length heq
        rw [length_append] at hlen
        simp at hlen
      dsimp only
      rw [hid]
      split_ifs with hout
      · -- refused, with the row in the table
        have hnot : ¬s.db.portalNext ≤ HOUSE_PORTAL_MAX_ID := UInt32.not_le.2 (hout.resolve_left htakes.2)
        simp [refuse, hbefore, htakes, hnot, hlonger]
      · rw [not_or, UInt32.not_lt] at hout
        refine ⟨fun _ => .inr (.inl ⟨htakes, hout.2⟩), fun _ => .inl ⟨s.db.portalNext, rfl, hout.1, hout.2,
          portalIdFromGuid_portalGuid hout.1 hout.2, AList.lookup_insert _, kept, ?_⟩⟩
        rw [hkept]
        rfl
    · have hsame : s.insertPortal (portalAhead sv p 0 name templateId) = s := insertPortal_fails htakes
      rw [hsame]
      dsimp only
      split_ifs with hout
      · simp [refuse, htakes, hout]
      -- the entrance is put in the place of the last one
      have hnone : ∀ row, s.db.housePortal ≠ s.db.housePortal ++ [row] := by
        intro row heq
        have hlen := congrArg length heq
        rw [length_append] at hlen
        simp at hlen
      have hleft : ∀ portals id, ¬PortalAdded s { s with portals := portals } id (portalAhead sv p id name templateId) := by
        intro portals id h
        obtain ⟨kept, hrow⟩ := h.row
        exact hnone _ hrow
      simp only [done, hleft, reduceCtorEq, exists_const, false_and, or_self, hbefore, htakes, hout, not_false_eq_true,
        and_false]

end HouseMgr

namespace HouseSample

open HouseMgr

def outside : Visitor Int := { owner with mapId := 0 }

theorem first_portal_whole : mgr.AddedWhole outside "Inn" 0 :=
  (addedWhole_iff mgr (by decide) outside "Inn" 0).2 (Or.inr (Or.inl ⟨by decide, by decide⟩))

/-- 999 entrances have been added, and all of them removed. -/
def worn : HouseMgr server := { mgr with db := { mgr.db with portalNext := 1000 } }

/-- The next one is refused, and has its row. -/
theorem worn_portal_not_whole : ¬worn.AddedWhole outside "Inn" 0 := by
  rintro (⟨id, hok, -⟩ | ⟨-, -, hrows⟩)
  · cases hok
  · exact absurd (congrArg length hrows) (by decide)

end HouseSample

end ComfyCraft
