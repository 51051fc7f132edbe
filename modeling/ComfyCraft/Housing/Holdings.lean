import ComfyCraft.Lib.Register
import ComfyCraft.Housing.Requests

/-! The furniture and the animals of the houses, each seen as a register: what is in memory by its guid, the list of each
house, and the rows. Every step of housing comes to acts on the two. -/

namespace ComfyCraft

open List Function Option Table Bool Register.Acts Rows Register Nat

variable {om : ObjectMgr} {F : Type} {sv : Server F}

abbrev Pieces (F : Type) := Register UInt32 UInt32 (HouseObject F) (HouseObject F)

abbrev Animals (F : Type) := Register UInt32 UInt32 (HouseCritter F) (HouseCritter F)

/-- What is true of a new piece when it is added: its guid is inside the block, its slot is the next one, and a player's
piece is in no group and finds the house not full. -/
structure PieceMade (r : Pieces F) (g : UInt32) (o row : HouseObject F) : Prop where
  guid : o.guid = g
  rowGuid : row.guid = g
  home : row.houseId = o.houseId
  block : g < HOUSE_GO_GUID_MAX
  slot : o.slot = HouseMgr.highest ((r.present o.houseId).map HouseObject.slot) + 1
  room : o.source = .player →
    o.groupNo = 0 ∧ (r.present o.houseId).countP (fun o => decide (o.source = .player)) < HOUSE_MAX_OBJECTS

/-- What a change to a piece leaves alone; the group only where nothing is regrouped. -/
structure PieceKept (regroup : Prop) (o o' : HouseObject F) : Prop where
  guid : o'.guid = o.guid
  home : o'.houseId = o.houseId
  slot : o'.slot = o.slot
  source : o'.source = o.source
  group : ¬regroup → o'.groupNo = o.groupNo

def pieceKind (F : Type) (regroup : Prop) : Register.Kind UInt32 UInt32 (HouseObject F) (HouseObject F) where
  number := UInt32.toNat
  home := HouseObject.houseId
  rowHome := HouseObject.houseId
  made := PieceMade
  kept := PieceKept regroup
  made_home _ _ _ _ h := h.home
  kept_refl _ := ⟨rfl, rfl, rfl, rfl, fun _ => rfl⟩
  kept_trans _ _ _ h h' :=
    ⟨h'.guid.trans h.guid, h'.home.trans h.home, h'.slot.trans h.slot, h'.source.trans h.source,
      fun hr => (h'.group hr).trans (h.group hr)⟩
  kept_home _ _ h := h.home

structure AnimalMade (r : Animals F) (g : UInt32) (c row : HouseCritter F) : Prop where
  guid : c.guid = g
  rowGuid : row.guid = g
  home : row.houseId = c.houseId
  block : g < HOUSE_CRITTER_GUID_MAX
  room : ((r.lists c.houseId).getD []).length < HOUSE_MAX_CRITTERS

def animalKind (F : Type) : Register.Kind UInt32 UInt32 (HouseCritter F) (HouseCritter F) where
  number := UInt32.toNat
  home := HouseCritter.houseId
  rowHome := HouseCritter.houseId
  made := AnimalMade
  kept c c' := c'.guid = c.guid ∧ c'.houseId = c.houseId
  made_home _ _ _ _ h := h.home
  kept_refl _ := ⟨rfl, rfl⟩
  kept_trans _ _ _ h h' := ⟨h'.1.trans h.1, h'.2.trans h.2⟩
  kept_home _ _ h := h.2

namespace HouseMgr

def pieces (s : HouseMgr sv) : Pieces F where
  next := s.nextObjectGuid.toNat
  things := s.objects.lookup
  lists id := (s.houses.lookup id).map House.objects
  rows := s.db.houseObject.lookup

def animals (s : HouseMgr sv) : Animals F where
  next := s.nextCritterGuid.toNat
  things := s.critters.lookup
  lists id := (s.houses.lookup id).map House.critters
  rows := s.db.houseCritter.lookup

/-- Houses, pieces and animals are filed under their own numbers. -/
structure Keyed (s : HouseMgr sv) : Prop where
  houses : ∀ id h, s.getHouseById id = some h → h.id = id
  objects : ∀ guid o, s.objects.lookup guid = some o → o.guid = guid
  critters : ∀ guid c, s.critters.lookup guid = some c → c.guid = guid

/-- Whether a step may regroup pieces, whether the lists it finds are in order, and whether it opens and closes houses
only as it should, for the pieces and for the animals. -/
structure Manner where
  regroup : Prop
  tidy : Prop
  pieces : Prop
  animals : Prop

/-- A step comes to acts on the furniture and the animals. -/
structure Moves (m : Manner) (s s' : HouseMgr sv) : Prop where
  pieces : Register.Acts (pieceKind F m.regroup) m.tidy m.pieces s.pieces s'.pieces
  animals : Register.Acts (animalKind F) m.tidy m.animals s.animals s'.animals
  houses : (∀ id h, s.getHouseById id = some h → h.id = id) → ∀ id h, s'.getHouseById id = some h → h.id = id

variable {m : Manner} {s s' s'' : HouseMgr sv}

theorem Moves.refl (s : HouseMgr sv) : Moves m s s := ⟨Acts.refl _, Acts.refl _, fun h => h⟩

theorem Moves.trans (h : Moves m s s') (h' : Moves m s' s'') : Moves m s s'' :=
  ⟨h.pieces.trans h'.pieces, h.animals.trans h'.animals, fun hs => h'.houses (h.houses hs)⟩

theorem Moves.same (hpieces : s'.pieces = s.pieces) (hanimals : s'.animals = s.animals)
    (hhouses : ∀ id h, s'.getHouseById id = some h → ∃ h', s.getHouseById id = some h' ∧ h'.id = h.id) : Moves m s s' := by
  refine ⟨Acts.same hpieces, Acts.same hanimals, fun hs id h hh => ?_⟩
  obtain ⟨h', hh', hid⟩ := hhouses id h hh
  exact hid ▸ hs id h' hh'

/-- A step that does not even touch the houses. -/
theorem Moves.still (hpieces : s'.pieces = s.pieces) (hanimals : s'.animals = s.animals) (hhouses : s'.houses = s.houses) :
    Moves m s s' := by
  refine Moves.same hpieces hanimals fun id h hh => ⟨h, ?_, rfl⟩
  unfold getHouseById at hh ⊢
  rwa [hhouses] at hh

theorem Moves.keyed (h : Moves m s s') (hs : s.Keyed) : s'.Keyed where
  houses := h.houses hs.houses
  objects := h.pieces.each (P := fun guid (o : HouseObject F) => o.guid = guid) (fun _ _ _ _ _ hmade => PieceMade.guid hmade)
    (fun _ _ _ hkept hg => (PieceKept.guid hkept).trans hg) hs.objects
  critters := h.animals.each (P := fun guid (c : HouseCritter F) => c.guid = guid) (fun _ _ _ _ _ hmade => AnimalMade.guid hmade)
    (fun _ _ _ hkept hg => (And.left hkept).trans hg) hs.critters

/-- A request in a run of requests moves on from what the ones before it left. -/
theorem moves_run {α : Type} {f : HouseMgr sv → α → HouseMgr sv} {l : List α}
    (hf : ∀ s, ∀ a ∈ l, s.Keyed → Moves m s (f s a)) {s : HouseMgr sv} (hs : s.Keyed) : Moves m s (Runs.run f s l) := by
  induction l generalizing s with
  | nil => exact Moves.refl s
  | cons a l ih =>
    have hhead := hf s a mem_cons_self hs
    exact hhead.trans (ih (fun s b hb => hf s b (mem_cons_of_mem a hb)) (hhead.keyed hs))

/-! What the writes of the manager are to the lookups. -/

section

variable {R K : Type} {key : R → K} [DecidableEq K]

theorem lookup_insertRow (t : Rows R K key) (r : R) :
    (insertRow t r).lookup = Function.update t.lookup (key r) ((t.lookup (key r)).or (some r)) := by
  funext k
  unfold insertRow
  rw [lookup_insert]
  split_ifs with hk
  · rw [hk, update_self]
    cases t.lookup (key r) <;> rfl
  · rw [update_of_ne hk]

theorem lookup_updateRows (t : Rows R K key) (k : K) {f : R → R} (hf : ∀ r, key (f r) = key r) :
    (updateRows t (fun r => key r = k) f).lookup = Function.update t.lookup k ((t.lookup k).map f) := by
  funext x
  unfold updateRows
  rw [lookup_updateWhere fun r _ => hf r]
  by_cases hx : x = k
  · rw [hx, update_self]
    cases hk : t.lookup k with
    | none => rfl
    | some r => simp only [map_some, (lookup_eq_some.1 hk).2, decide_true, if_true]
  · rw [update_of_ne hx]
    cases hk : t.lookup x with
    | none => rfl
    | some r => simp only [map_some, (lookup_eq_some.1 hk).2, hx, decide_false, false_eq_true, if_false]

theorem lookup_deleteRow (t : Rows R K key) (k : K) :
    (t.deleteWhere fun r => key r = k).lookup = Function.update t.lookup k none := by
  funext x
  rw [lookup_deleteWhere]
  by_cases hx : x = k
  · rw [hx, update_self]
    cases hk : t.lookup k with
    | none => rfl
    | some r => simp only [filter_some, (lookup_eq_some.1 hk).2, decide_true, Bool.not_true, Bool.false_eq_true, if_false]
  · rw [update_of_ne hx]
    cases hk : t.lookup x with
    | none => rfl
    | some r => simp only [filter_some, (lookup_eq_some.1 hk).2, hx, decide_false, Bool.not_false, if_true]

end

/-! Houses. -/

theorem lookup_modifyHouse (s : HouseMgr sv) (id : UInt32) (f : House F → House F) (x : UInt32) :
    (s.modifyHouse id f).houses.lookup x = if x = id then (s.houses.lookup x).map f else s.houses.lookup x := by
  unfold modifyHouse
  cases h : s.houses.lookup id with
  | none =>
    split_ifs with hx
    · rw [hx, h]
      rfl
    · rfl
  | some house =>
    split_ifs with hx
    · rw [hx, h, AList.lookup_insert]
      rfl
    · rw [AList.lookup_insert_ne hx]

theorem modifyHouse_rest (s : HouseMgr sv) (id : UInt32) (f : House F → House F) :
    s.modifyHouse id f = { s with houses := (s.modifyHouse id f).houses } := by
  unfold modifyHouse
  cases s.houses.lookup id <;> rfl

variable {β : Type} {f : House F → House F} {p : Visitor F} {house : House F} {o row : HouseObject F} {s : HouseMgr sv}
  {guid houseId : UInt32} {c : HouseCritter F} {g : House F → β}

theorem lists_modifyHouse (s : HouseMgr sv) (id : UInt32) {k : β → β} (hf : ∀ h, g (f h) = k (g h)) :
    (fun x => ((s.modifyHouse id f).houses.lookup x).map g) =
      fun x => if x = id then ((s.houses.lookup x).map g).map k else (s.houses.lookup x).map g := by
  funext x
  rw [lookup_modifyHouse]
  split_ifs
  · rw [Option.map_map, Option.map_map]
    exact congrArg (fun g' => (s.houses.lookup x).map g') (funext hf)
  · rfl

theorem lists_modifyHouse_same (s : HouseMgr sv) (id : UInt32) (hf : ∀ h, g (f h) = g h) :
    (fun x => ((s.modifyHouse id f).houses.lookup x).map g) = fun x => (s.houses.lookup x).map g := by
  rw [lists_modifyHouse (k := fun b => b) s id hf]
  funext x
  rw [Option.map_id', ite_self]

theorem pieces_modifyHouse (s : HouseMgr sv) (id : UInt32) (hf : ∀ h, (f h).objects = h.objects) :
    (s.modifyHouse id f).pieces = s.pieces := by
  unfold pieces
  rw [lists_modifyHouse_same s id hf, modifyHouse_rest]

theorem animals_modifyHouse (s : HouseMgr sv) (id : UInt32) (hf : ∀ h, (f h).critters = h.critters) :
    (s.modifyHouse id f).animals = s.animals := by
  unfold animals
  rw [lists_modifyHouse_same s id hf, modifyHouse_rest]

theorem ids_modifyHouse (s : HouseMgr sv) (id : UInt32) (hf : ∀ h, (f h).id = h.id)
    (hs : ∀ id h, s.getHouseById id = some h → h.id = id) : ∀ x h, (s.modifyHouse id f).getHouseById x = some h → h.id = x := by
  intro x h hx
  unfold getHouseById at hs hx
  rw [lookup_modifyHouse] at hx
  split_ifs at hx
  · obtain ⟨old, hold, rfl⟩ := map_eq_some_iff.1 hx
    exact (hf old).trans (hs x old hold)
  · exact hs x h hx

/-- A write to a house that leaves its lists alone. -/
theorem moves_modifyHouse (s : HouseMgr sv) (id : UInt32)
    (hf : ∀ h, (f h).id = h.id ∧ (f h).objects = h.objects ∧ (f h).critters = h.critters) : Moves m s (s.modifyHouse id f) where
  pieces := same (pieces_modifyHouse s id fun h => (hf h).2.1)
  animals := same (animals_modifyHouse s id fun h => (hf h).2.2)
  houses := ids_modifyHouse s id fun h => (hf h).1

theorem moves_updateHouseRow (s : HouseMgr sv) (id : UInt32) (f : HouseRow F → HouseRow F) : Moves m s (s.updateHouseRow id f) :=
  Moves.still rfl rfl rfl

theorem getHouseById_of_at (hs : s.Keyed) (h : s.getHouseAt p = some house) : s.getHouseById house.id = some house := by
  unfold getHouseAt getHouseByInstance at h
  split_ifs at h with hout
  obtain ⟨id, -, hid⟩ := bind_eq_some_iff.1 h
  rw [hs.houses id house hid]
  exact hid

theorem checkOwner_ok (h : s.checkOwner p = .ok house) : s.getHouseAt p = some house := by
  unfold checkOwner at h
  cases hat : s.getHouseAt p with
  | none =>
    rw [hat] at h
    cases h
  | some h' =>
    rw [hat] at h
    dsimp only at h
    split_ifs at h
    cases h
    rfl

theorem getHouseById_of_account (hs : s.Keyed) {account : UInt32} (h : s.getHouseByAccount account = some house) :
    s.getHouseById house.id = some house := by
  unfold getHouseByAccount at h
  obtain ⟨id, -, hid⟩ := bind_eq_some_iff.1 h
  rw [hs.houses id house hid]
  exact hid

/-! Furniture. -/

theorem pieces_addObject (s : HouseMgr sv) (hrow : row.guid = o.guid) (next : UInt32) :
    (addObject { s with nextObjectGuid := next } o row).pieces = s.pieces.add o.houseId o.guid o row next.toNat := by
  unfold addObject pieces add
  rw [lists_modifyHouse (g := House.objects) (k := (· ++ [o.guid])) _ _ fun _ => rfl, modifyHouse_rest]
  rw [lookup_insert_fun, lookup_insertRow, hrow]

theorem toNat_succ {a b : UInt32} (h : a < b) : (a + 1).toNat = a.toNat + 1 := by
  have hlt := UInt32.lt_iff_toNat_lt.1 h
  have hb := UInt32.toNat_lt_size b
  rw [UInt32.toNat_add]
  exact mod_eq_of_lt (by change a.toNat + 1 < UInt32.size; omega)

theorem moves_addObject (hmade : PieceMade s.pieces s.nextObjectGuid o row)
    (hhouse : (s.getHouseById o.houseId).isSome = true) :
    Moves m s (addObject { s with nextObjectGuid := s.nextObjectGuid + 1 } o row) where
  pieces := by
    rw [pieces_addObject s (hmade.rowGuid.trans hmade.guid.symm), toNat_succ hmade.block]
    refine Act.acts (Act.add (κ := pieceKind F m.regroup) ?_ ?_ (hmade.guid ▸ hmade) ?_)
    · exact le_of_eq (congrArg UInt32.toNat hmade.guid).symm
    · exact lt_succ_of_le (le_of_eq (congrArg UInt32.toNat hmade.guid))
    change ((s.houses.lookup o.houseId).map House.objects).isSome = true
    rw [isSome_map]
    exact hhouse
  animals := by
    apply same
    unfold addObject
    exact animals_modifyHouse _ _ fun _ => rfl
  houses := by
    intro hs
    unfold addObject
    refine ids_modifyHouse _ _ ?_ hs
    exact fun _ => rfl

theorem moves_setObject {o' : HouseObject F} {f : HouseObject F → HouseObject F}
    (hs : s.Keyed) (ho : s.objects.lookup guid = some o) (hkept : PieceKept m.regroup o o')
    (hf : ∀ r, (f r).guid = r.guid ∧ (f r).houseId = r.houseId) :
    Moves m s { s with
      objects := s.objects.insert guid o'
      db := { s.db with houseObject := updateRows s.db.houseObject (fun r => r.guid = o'.guid) f } } where
  pieces := by
    have hguid : o'.guid = guid := hkept.guid.trans (hs.objects guid o ho)
    have hpieces : pieces { s with
        objects := s.objects.insert guid o'
        db := { s.db with houseObject := updateRows s.db.houseObject (fun r => r.guid = o'.guid) f } } = s.pieces.edit guid o' f := by
      unfold pieces edit
      rw [lookup_insert_fun, hguid, lookup_updateRows _ _ fun r => (hf r).1]
    rw [hpieces]
    exact Act.acts (Act.edit (κ := pieceKind F m.regroup) (v := o) ho hkept fun r => (hf r).2)
  animals := same rfl
  houses hs := hs

theorem moves_purgeObject
    (hhome : m.tidy → ∀ o, s.objects.lookup guid = some o → o.houseId = houseId) : Moves m s (purgeObject houseId s guid) := by
  unfold purgeObject
  cases ho : s.objects.lookup guid with
  | none => exact Moves.refl s
  | some o =>
    refine ⟨?_, same ?_, fun hs => ?_⟩
    · have hpieces : pieces { (modifyHouse { s with db := { s.db with
            houseObject := s.db.houseObject.deleteWhere fun r => r.guid = guid } } houseId fun h =>
            { h with objects := h.objects.filter (· ≠ guid) }) with
          objects := (modifyHouse { s with db := { s.db with
            houseObject := s.db.houseObject.deleteWhere fun r => r.guid = guid } } houseId fun h =>
            { h with objects := h.objects.filter (· ≠ guid) }).objects.erase guid } = s.pieces.remove houseId guid := by
        unfold pieces remove
        rw [lists_modifyHouse (g := House.objects) (k := filter (· ≠ guid)) _ _ fun _ => rfl, modifyHouse_rest]
        rw [lookup_erase_fun, lookup_deleteRow]
      rw [hpieces]
      exact Act.acts (Act.remove (κ := pieceKind F m.regroup) ho fun ht => hhome ht o ho)
    · exact animals_modifyHouse _ _ fun _ => rfl
    · refine ids_modifyHouse _ _ ?_ hs
      exact fun _ => rfl

/-! Animals. -/

theorem moves_addCritter
    (hmade : AnimalMade s.animals s.nextCritterGuid c (sv.savedCritter c)) (hhouse : (s.getHouseById c.houseId).isSome = true) :
    Moves m s (addCritter { s with nextCritterGuid := s.nextCritterGuid + 1 } c) where
  pieces := by
    apply same
    unfold addCritter
    exact pieces_modifyHouse _ _ fun _ => rfl
  animals := by
    have hanimals : (addCritter { s with nextCritterGuid := s.nextCritterGuid + 1 } c).animals =
        s.animals.add c.houseId c.guid c (sv.savedCritter c) (s.nextCritterGuid.toNat + 1) := by
      unfold addCritter animals add
      rw [lists_modifyHouse (g := House.critters) (k := (· ++ [c.guid])) _ _ fun _ => rfl, modifyHouse_rest]
      rw [lookup_insert_fun, lookup_insertRow, toNat_succ hmade.block]
      rfl
    rw [hanimals]
    refine Act.acts (Act.add (κ := animalKind F) ?_ ?_ (hmade.guid ▸ hmade) ?_)
    · exact le_of_eq (congrArg UInt32.toNat hmade.guid).symm
    · exact lt_succ_of_le (le_of_eq (congrArg UInt32.toNat hmade.guid))
    change ((s.houses.lookup c.houseId).map House.critters).isSome = true
    rw [isSome_map]
    exact hhouse
  houses := by
    intro hs
    unfold addCritter
    refine ids_modifyHouse _ _ ?_ hs
    exact fun _ => rfl

theorem moves_setCritter {c' : HouseCritter F} {f : HouseCritter F → HouseCritter F} (hs : s.Keyed)
    (hc : s.critters.lookup guid = some c) (hkept : c'.guid = c.guid ∧ c'.houseId = c.houseId)
    (hf : ∀ r, (f r).guid = r.guid ∧ (f r).houseId = r.houseId) : Moves m s (s.setCritter guid c' f) where
  pieces := same rfl
  animals := by
    have hguid : c'.guid = guid := hkept.1.trans (hs.critters guid c hc)
    have hanimals : (s.setCritter guid c' f).animals = s.animals.edit guid c' f := by
      unfold setCritter animals edit
      rw [lookup_insert_fun, hguid, lookup_updateRows _ _ fun r => (hf r).1]
    rw [hanimals]
    exact Act.acts (Act.edit (κ := animalKind F) (v := c) hc hkept fun r => (hf r).2)
  houses hs := hs

theorem moves_purgeCritter
    (hhome : m.tidy → ∀ c, s.critters.lookup guid = some c → c.houseId = houseId) : Moves m s (purgeCritter houseId s guid) := by
  unfold purgeCritter
  cases hc : s.critters.lookup guid with
  | none => exact Moves.refl s
  | some c =>
    refine ⟨same ?_, ?_, fun hs => ?_⟩
    · exact pieces_modifyHouse _ _ fun _ => rfl
    · have hanimals : animals { (modifyHouse { s with db := { s.db with
            houseCritter := s.db.houseCritter.deleteWhere fun r => r.guid = guid } } houseId fun h =>
            { h with critters := h.critters.filter (· ≠ guid) }) with
          critters := (modifyHouse { s with db := { s.db with
            houseCritter := s.db.houseCritter.deleteWhere fun r => r.guid = guid } } houseId fun h =>
            { h with critters := h.critters.filter (· ≠ guid) }).critters.erase guid } = s.animals.remove houseId guid := by
        unfold animals remove
        rw [lists_modifyHouse (g := House.critters) (k := filter (· ≠ guid)) _ _ fun _ => rfl, modifyHouse_rest]
        rw [lookup_erase_fun, lookup_deleteRow]
      rw [hanimals]
      exact Act.acts (Act.remove (κ := animalKind F) hc fun ht => hhome ht c hc)
    · refine ids_modifyHouse _ _ ?_ hs
      exact fun _ => rfl

end HouseMgr
end ComfyCraft
