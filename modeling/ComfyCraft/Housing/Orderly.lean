import ComfyCraft.Housing.Moves

/-! What holds of the furniture and the animals in every state a server can be in: they are filed under their guids, have
rows, and are listed once each by the house they stand in. The last needs guids that the counter can get past; no table that
this server has written has another. -/

namespace ComfyCraft

open List Function UInt32 Option AList HouseMgr Register Table Moves

variable {om : ObjectMgr} {F : Type} {sv : Server F}

namespace HouseMgr

/-- The last guid there is; the counter would start again behind it. -/
def LAST_GUID : UInt32 := 0xFFFFFFFF

/-- No row has the last guid. -/
structure Countable (db : HouseTables sv) : Prop where
  pieces : ∀ r ∈ db.houseObject.rows, r.guid ≠ LAST_GUID
  animals : ∀ r ∈ db.houseCritter.rows, r.guid ≠ LAST_GUID

structure Orderly (tidy : Prop) (s : HouseMgr sv) : Prop extends Keyed s where
  rowed : s.pieces.Rowed
  pieces : tidy → Register.Sound (pieceKind F True) s.pieces
  animals : tidy → Register.Sound (animalKind F) s.animals
  countable : tidy → Countable s.db

variable {tidy : Prop} {m : Manner} {s s' : HouseMgr sv}

theorem sound_regroup {a b : Prop} {r : Pieces F} (h : Register.Sound (pieceKind F a) r) : Register.Sound (pieceKind F b) r :=
  ⟨h.listed, h.once, h.below⟩

variable {db : HouseTables sv}

theorem countable_iff : Countable db ↔ (∀ guid, (db.houseObject.lookup guid).isSome = true → guid ≠ LAST_GUID) ∧
      ∀ guid, (db.houseCritter.lookup guid).isSome = true → guid ≠ LAST_GUID := by
  constructor
  · rintro ⟨hpieces, hanimals⟩
    refine ⟨fun guid h => ?_, fun guid h => ?_⟩
    · obtain ⟨r, hr⟩ := isSome_iff_exists.1 h
      obtain ⟨hmem, hkey⟩ := Rows.lookup_eq_some.1 hr
      exact hkey ▸ hpieces r hmem
    · obtain ⟨r, hr⟩ := isSome_iff_exists.1 h
      obtain ⟨hmem, hkey⟩ := Rows.lookup_eq_some.1 hr
      exact hkey ▸ hanimals r hmem
  · rintro ⟨hpieces, hanimals⟩
    exact ⟨fun r hr => hpieces r.guid (by rw [Rows.lookup_eq_some.2 ⟨hr, rfl⟩]; rfl),
      fun r hr => hanimals r.guid (by rw [Rows.lookup_eq_some.2 ⟨hr, rfl⟩]; rfl)⟩

theorem ne_last {a b : UInt32} (h : a < b) : a ≠ LAST_GUID := by
  rintro rfl
  have hlt := UInt32.lt_iff_toNat_lt.1 h
  have hb := UInt32.toNat_lt_size b
  change 4294967295 < b.toNat at hlt
  change b.toNat < 4294967296 at hb
  omega

theorem Orderly.moves (h : Orderly tidy s) (htidy : tidy → m.tidy) (hmoves : Moves m s s') : Orderly tidy s' where
  toKeyed := hmoves.keyed h.toKeyed
  rowed := hmoves.pieces.rowed h.rowed
  pieces ht := sound_regroup (hmoves.pieces.sound (htidy ht) (sound_regroup (h.pieces ht)))
  animals ht := hmoves.animals.sound (htidy ht) (h.animals ht)
  countable ht := by
    obtain ⟨hpieces, hanimals⟩ := countable_iff.1 (h.countable ht)
    exact countable_iff.2 ⟨hmoves.pieces.rowKeys (fun _ _ _ _ hmade => ne_last (PieceMade.block hmade)) hpieces,
      hmoves.animals.rowKeys (fun _ _ _ _ hmade => ne_last (AnimalMade.block hmade)) hanimals⟩

theorem Orderly.listing (h : Orderly tidy s) (htidy : m.tidy → tidy) (id : UInt32) (house : House F)
    (hhouse : s.getHouseById id = some house) : Listing m s house := by
  have hid := h.houses id house hhouse
  refine ⟨fun ht guid hguid o ho => ?_, fun ht guid hguid c hc => ?_⟩
  · obtain ⟨o', ho', hhome⟩ := (h.pieces (htidy ht)).listed id house.objects guid (congrArg (Option.map House.objects) hhouse) hguid
    have heq : some o = some o' := ho.symm.trans ho'
    rw [some.inj heq, hid]
    exact hhome
  · obtain ⟨c', hc', hhome⟩ := (h.animals (htidy ht)).listed id house.critters guid (congrArg (Option.map House.critters) hhouse) hguid
    have heq : some c = some c' := hc.symm.trans hc'
    rw [some.inj heq, hid]
    exact hhome

/-! A start. -/

theorem Orderly.empty (hobjects : s.objects = ∅) (hcritters : s.critters = ∅)
    (hhouses : ∀ id h, s.getHouseById id = some h → h.id = id ∧ h.objects = [] ∧ h.critters = [])
    (hcountable : tidy → Countable s.db) : Orderly tidy s := by
  have hpieces : ∀ guid, s.objects.lookup guid = none := fun guid => by rw [hobjects, lookup_empty]
  have hanimals : ∀ guid, s.critters.lookup guid = none := fun guid => by rw [hcritters, lookup_empty]
  have hlist : ∀ {g : House F → List UInt32}, (∀ id h, s.getHouseById id = some h → g h = []) →
      ∀ id l, (s.houses.lookup id).map g = some l → l = [] := by
    intro g hg id l hl
    obtain ⟨h, hh, rfl⟩ := map_eq_some_iff.1 hl
    exact hg id h hh
  refine ⟨⟨fun id h hh => (hhouses id h hh).1, fun guid o ho => ?_, fun guid c hc => ?_⟩, fun guid hguid => ?_, fun _ => ?_,
    fun _ => ?_, hcountable⟩
  · rw [hpieces guid] at ho
    cases ho
  · rw [hanimals guid] at hc
    cases hc
  · unfold HouseMgr.pieces at hguid
    dsimp only at hguid
    rw [hpieces guid] at hguid
    cases hguid
  · have hnil := hlist (g := House.objects) fun id h hh => (hhouses id h hh).2.1
    refine ⟨fun id l k hl hk => ?_, fun id l hl => hnil id l hl ▸ nodup_nil, fun guid o ho => ?_⟩
    · rw [hnil id l hl] at hk
      cases hk
    · exact absurd ((hpieces guid).symm.trans ho) (by simp)
  · have hnil := hlist (g := House.critters) fun id h hh => (hhouses id h hh).2.2
    refine ⟨fun id l k hl hk => ?_, fun id l hl => hnil id l hl ▸ nodup_nil, fun guid c hc => ?_⟩
    · rw [hnil id l hl] at hk
      cases hk
    · exact absurd ((hanimals guid).symm.trans hc) (by simp)

theorem loadHouses_houses (s : HouseMgr sv) (id : UInt32) (h : House F) (hh : s.loadHouses.getHouseById id = some h) :
    h.id = id ∧ h.objects = [] ∧ h.critters = [] := by
  have hfold : ∀ (l : List (HouseRow F)) (s : HouseMgr sv),
      (∀ id h, s.getHouseById id = some h → h.id = id ∧ h.objects = [] ∧ h.critters = []) →
      ∀ id h, (l.foldl loadHouse s).getHouseById id = some h → h.id = id ∧ h.objects = [] ∧ h.critters = [] := by
    intro l
    induction l with
    | nil => exact fun s hs => hs
    | cons r l ih =>
      refine fun s hs => ih _ fun id h hh => ?_
      unfold loadHouse getHouseById at hh
      by_cases hid : id = r.id
      · rw [hid, lookup_insert] at hh
        cases hh
        exact ⟨hid.symm, rfl, rfl⟩
      · rw [lookup_insert_ne hid] at hh
        exact hs id h hh
  exact hfold _ _ (fun id h hh => by cases hh) id h hh

theorem loadHouses_rest (s : HouseMgr sv) : s.loadHouses = { s with
      houses := s.loadHouses.houses
      houseByAccount := s.loadHouses.houseByAccount
      houseByInstance := ∅ } := by
  have hfold : ∀ (l : List (HouseRow F)) (s : HouseMgr sv), l.foldl loadHouse s = { s with
      houses := (l.foldl loadHouse s).houses
      houseByAccount := (l.foldl loadHouse s).houseByAccount } := by
    intro l
    induction l with
    | nil => exact fun s => rfl
    | cons r l ih => exact fun s => ih _
  exact hfold _ _

theorem orderly_loadHouses (hobjects : s.objects = ∅) (hcritters : s.critters = ∅) (hcountable : tidy → Countable s.db) :
    Orderly tidy s.loadHouses := by
  have hrest := loadHouses_rest s
  refine Orderly.empty ?_ ?_ (loadHouses_houses s) fun ht => ?_
  · rw [hrest]
    exact hobjects
  · rw [hrest]
    exact hcritters
  · rw [hrest]
    exact hcountable ht

theorem past_guid (next guid : UInt32) (h : guid ≠ LAST_GUID) :
    next.toNat ≤ (if next ≤ guid then guid + 1 else next).toNat ∧ guid.toNat < (if next ≤ guid then guid + 1 else next).toNat := by
  have hsize : guid.toNat < 4294967295 := by
    have hlt := UInt32.toNat_lt_size guid
    have hne : guid.toNat ≠ 4294967295 := fun he => h (UInt32.toNat_inj.1 he)
    change guid.toNat < 4294967296 at hlt
    omega
  have hsucc : (guid + 1).toNat = guid.toNat + 1 := by
    rw [UInt32.toNat_add]
    exact Nat.mod_eq_of_lt (by change guid.toNat + 1 < 2 ^ 32; omega)
  split_ifs with hle
  · rw [hsucc]
    have := le_iff_toNat_le.1 hle
    omega
  · have := UInt32.lt_iff_toNat_lt.1 (UInt32.not_le.1 hle)
    omega

theorem loadObject_orderly (h : Orderly tidy s) {o : HouseObject F} (ho : o ∈ s.db.houseObject.rows)
    (hnone : s.objects.lookup o.guid = none) :
    Orderly tidy (loadObject s o) ∧ (loadObject s o).db = s.db ∧
      ∀ guid, guid ≠ o.guid → (loadObject s o).objects.lookup guid = s.objects.lookup guid := by
  unfold loadObject
  cases hhouse : s.getHouseById o.houseId with
  | none => exact ⟨h, rfl, fun _ _ => rfl⟩
  | some house =>
    dsimp only
    split
    · exact ⟨h, rfl, fun _ _ => rfl⟩
    split
    · exact ⟨h, rfl, fun _ _ => rfl⟩
    have hid : house.id = o.houseId := h.houses o.houseId house hhouse
    generalize hn : (if s.nextObjectGuid ≤ o.guid then o.guid + 1 else s.nextObjectGuid) = n
    generalize hs' : modifyHouse { s with objects := s.objects.insert o.guid o, nextObjectGuid := n } house.id
      (fun h => { h with objects := h.objects ++ [o.guid] }) = s'
    have hrest : s' = { s with objects := s.objects.insert o.guid o, nextObjectGuid := n, houses := s'.houses } := by
      rw [← hs']
      exact modifyHouse_rest _ _ _
    have hpieces : s'.pieces = { s.pieces.add o.houseId o.guid o o n.toNat with rows := s.pieces.rows } := by
      rw [← hs']
      unfold pieces add
      rw [lists_modifyHouse (g := House.objects) (k := (· ++ [o.guid])) _ _ fun _ => rfl, modifyHouse_rest]
      rw [lookup_insert_fun, hid]
    have hanimals : s'.animals = s.animals := by
      rw [← hs']
      exact animals_modifyHouse _ _ fun _ => rfl
    refine ⟨⟨⟨?_, fun guid x hx => ?_, ?_⟩, fun guid hguid => ?_, fun ht => ?_, fun ht => ?_, fun ht => ?_⟩, ?_, fun guid hne => ?_⟩
    · rw [← hs']
      refine ids_modifyHouse _ _ ?_ h.houses
      exact fun _ => rfl
    · rw [hrest] at hx
      by_cases hg : guid = o.guid
      · rw [hg, lookup_insert] at hx
        rw [hg, ← some.inj hx]
      · rw [lookup_insert_ne hg] at hx
        exact h.objects guid x hx
    · rw [hrest]
      exact h.critters
    · rw [hpieces] at hguid ⊢
      dsimp only [add] at hguid ⊢
      by_cases hg : guid = o.guid
      · change (s.db.houseObject.lookup guid).isSome = true
        rw [hg, Rows.lookup_eq_some.2 ⟨ho, rfl⟩]
        rfl
      · rw [update_of_ne hg] at hguid
        exact h.rowed guid hguid
    · have hpast := past_guid s.nextObjectGuid o.guid ((h.countable ht).pieces o ho)
      rw [hn] at hpast
      have hadd : Register.Sound (pieceKind F True) (s.pieces.add o.houseId o.guid o o n.toNat) :=
        (h.pieces ht).add hnone hpast.1 hpast.2
      rw [hpieces]
      exact ⟨hadd.listed, hadd.once, hadd.below⟩
    · rw [hanimals]
      exact h.animals ht
    · rw [hrest]
      exact h.countable ht
    · rw [hrest]
    · rw [hrest]
      exact lookup_insert_ne hne

theorem loadObjectRows_orderly {l : List (HouseObject F)} (hnodup : (l.map HouseObject.guid).Nodup) {s : HouseMgr sv}
    (h : Orderly tidy s) (hl : ∀ o ∈ l, o ∈ s.db.houseObject.rows) (hnone : ∀ o ∈ l, s.objects.lookup o.guid = none) :
    Orderly tidy (l.foldl loadObject s) := by
  induction l generalizing s with
  | nil => exact h
  | cons o l ih =>
    rw [map_cons, nodup_cons] at hnodup
    obtain ⟨horderly, hdb, hrest⟩ := loadObject_orderly h (hl o mem_cons_self) (hnone o mem_cons_self)
    refine ih hnodup.2 horderly (fun x hx => hdb ▸ hl x (mem_cons_of_mem o hx)) fun x hx => ?_
    have hne : x.guid ≠ o.guid := fun he => hnodup.1 (he ▸ mem_map_of_mem hx)
    rw [hrest x.guid hne]
    exact hnone x (mem_cons_of_mem o hx)

/-- A write that only changes the slot of a piece. -/
theorem numberObject_orderly (h : Orderly tidy s) (guid : UInt32) : Orderly tidy (numberObject s guid) := by
  unfold numberObject
  cases ho : s.objects.lookup guid with
  | none => exact h
  | some o =>
    dsimp only
    split
    · exact h
    cases hhouse : s.getHouseById o.houseId with
    | none => exact h
    | some house =>
      dsimp only
      have hguid : o.guid = guid := h.objects guid o ho
      generalize s.allocateSlot house = slot
      have hrows := lookup_updateRows s.db.houseObject o.guid (f := fun r => { r with slot := slot }) fun _ => rfl
      have hpieces : pieces { s with
          objects := s.objects.insert guid { o with slot := slot }
          db := { s.db with
            houseObject := updateRows s.db.houseObject (fun r => r.guid = o.guid) fun r => { r with slot := slot } } } =
          s.pieces.edit guid { o with slot := slot } fun r => { r with slot := slot } := by
        unfold pieces edit
        rw [lookup_insert_fun, hrows, hguid]
      refine ⟨⟨h.houses, fun g x hx => ?_, h.critters⟩, fun g hg => ?_, fun ht => ?_, h.animals, fun ht => ?_⟩
      · by_cases hgg : g = guid
        · rw [hgg, lookup_insert] at hx
          rw [hgg, ← some.inj hx]
          exact hguid
        · rw [lookup_insert_ne hgg] at hx
          exact h.objects g x hx
      · rw [hpieces] at hg ⊢
        dsimp only [edit] at hg ⊢
        by_cases hgg : g = guid
        · rw [hgg, update_self, isSome_map]
          exact h.rowed guid ((congrArg isSome ho).trans rfl)
        · rw [update_of_ne hgg] at hg ⊢
          exact h.rowed g hg
      · rw [hpieces]
        exact (h.pieces ht).edit (v := o) ho rfl
      · obtain ⟨hobject, hcritter⟩ := countable_iff.1 (h.countable ht)
        refine countable_iff.2 ⟨fun g hg => ?_, hcritter⟩
        rw [hrows, hguid] at hg
        by_cases hgg : g = guid
        · rw [hgg, update_self, isSome_map] at hg
          exact hgg ▸ hobject guid hg
        · rw [update_of_ne hgg] at hg
          exact hobject g hg

theorem foldl_orderly {α : Type} {f : HouseMgr sv → α → HouseMgr sv} (hf : ∀ s a, Orderly tidy s → Orderly tidy (f s a))
    (l : List α)
    {s : HouseMgr sv} (h : Orderly tidy s) : Orderly tidy (l.foldl f s) := by
  induction l generalizing s with
  | nil => exact h
  | cons a l ih => exact ih (hf s a h)

theorem highest_ne_last {l : List UInt32} (h : ∀ n ∈ l, n ≠ LAST_GUID) : highest l ≠ LAST_GUID := by
  intro hlast
  have hne : highest l ≠ 0 := by
    rw [hlast]
    decide
  exact h _ (highest_mem hne) hlast

theorem clearObjectGuids_orderly (h : Orderly tidy s) : Orderly tidy s.clearObjectGuids := by
  refine ⟨⟨h.houses, h.objects, h.critters⟩, h.rowed,
    fun ht => ⟨(h.pieces ht).listed, (h.pieces ht).once, fun guid o ho => ?_⟩, h.animals, h.countable⟩
  have hlast : highest (s.db.houseObject.rows.map HouseObject.guid) ≠ LAST_GUID := by
    apply highest_ne_last
    intro n hn
    obtain ⟨r, hr, rfl⟩ := mem_map.1 hn
    exact (h.countable ht).pieces r hr
  exact Nat.lt_of_lt_of_le ((h.pieces ht).below guid o ho) (past_guid s.nextObjectGuid _ hlast).1

theorem loadObjects_orderly (h : Orderly tidy s) (hnone : ∀ guid, s.objects.lookup guid = none) : Orderly tidy s.loadObjects := by
  have hperm := perm_insertionSort (fun a b : HouseObject F => a.guid ≤ b.guid) s.db.houseObject.rows
  have hrows := loadObjectRows_orderly ((hperm.map HouseObject.guid).nodup_iff.2 s.db.houseObject.unique) h
    (fun o ho => hperm.mem_iff.1 ho) fun o _ => hnone o.guid
  exact clearObjectGuids_orderly (foldl_orderly (fun _ guid h => numberObject_orderly h guid) _ hrows)

theorem Orderly.moved (h : Orderly tidy s) (hmoves : Moves ⟨True, tidy, False, False⟩ s s') : Orderly tidy s' :=
  h.moves (fun ht => ht) hmoves

theorem checkInstance_orderly (named : UInt32 → Bool) (h : Orderly tidy s) (id : UInt32) : Orderly tidy
    (checkInstance named s id) := by
  unfold checkInstance
  split
  · exact h
  split
  · exact h
  split
  · exact h.moved (still rfl rfl rfl)
  next house _ _ _ =>
  refine h.moved ((moves_modifyHouse s house.id ?_).trans (moves_updateHouseRow _ house.id _))
  exact fun _ => ⟨rfl, rfl, rfl⟩

section

variable (h : Orderly tidy s)
include h

theorem loadTemplates_orderly : Orderly tidy s.loadTemplates := by
  unfold loadTemplates
  refine foldl_orderly (fun s r h => ?_) _ (foldl_orderly (fun s r h => ?_) _ h)
  · unfold loadTemplateObject
    split
    · exact h
    · exact h.moved (still rfl rfl rfl)
  · unfold loadTemplate
    refine h.moved (trans ?_ (moves_modifyHouse _ r.houseId ?_))
    · exact still rfl rfl rfl
    · exact fun _ => ⟨rfl, rfl, rfl⟩

theorem loadPortals_orderly : Orderly tidy s.loadPortals := by
  refine foldl_orderly (fun s p h => ?_) _ h
  unfold loadPortal
  dsimp only
  split
  · split
    · exact h
    · exact h.moved (still rfl rfl rfl)
  · split
    · exact h
    · exact h.moved (still rfl rfl rfl)

theorem loadStorage_orderly (shelves : List StorageRow) : Orderly tidy (s.loadStorage shelves) := by
  refine foldl_orderly (fun s r h => ?_) _ (h.moved (still rfl rfl rfl))
  unfold loadStorageRow
  split
  · exact h
  · exact h.moved (still rfl rfl rfl)

theorem loadCritter_orderly {c : HouseCritter F} (hc : c ∈ s.db.houseCritter.rows) (hnone : s.critters.lookup c.guid = none) :
    Orderly tidy (loadCritter s c) ∧ (loadCritter s c).db = s.db ∧
      ∀ guid, guid ≠ c.guid → (loadCritter s c).critters.lookup guid = s.critters.lookup guid := by
  unfold loadCritter
  cases hhouse : s.getHouseById c.houseId with
  | none => exact ⟨h, rfl, fun _ _ => rfl⟩
  | some house =>
    dsimp only
    split
    · exact ⟨h, rfl, fun _ _ => rfl⟩
    have hid : house.id = c.houseId := h.houses c.houseId house hhouse
    generalize hn : (if s.nextCritterGuid ≤ c.guid then c.guid + 1 else s.nextCritterGuid) = n
    generalize hs' : modifyHouse { s with critters := s.critters.insert c.guid c, nextCritterGuid := n } house.id
      (fun h => { h with critters := h.critters ++ [c.guid] }) = s'
    have hrest : s' = { s with critters := s.critters.insert c.guid c, nextCritterGuid := n, houses := s'.houses } := by
      rw [← hs']
      exact modifyHouse_rest _ _ _
    have hanimals : s'.animals = { s.animals.add c.houseId c.guid c c n.toNat with rows := s.animals.rows } := by
      rw [← hs']
      unfold animals add
      rw [lists_modifyHouse (g := House.critters) (k := (· ++ [c.guid])) _ _ fun _ => rfl, modifyHouse_rest]
      rw [lookup_insert_fun, hid]
    have hpieces : s'.pieces = s.pieces := by
      rw [← hs']
      exact pieces_modifyHouse _ _ fun _ => rfl
    refine ⟨⟨⟨?_, ?_, fun guid x hx => ?_⟩, ?_, fun ht => ?_, fun ht => ?_, fun ht => ?_⟩, ?_, fun guid hne => ?_⟩
    · rw [← hs']
      refine ids_modifyHouse _ _ ?_ h.houses
      exact fun _ => rfl
    · rw [hrest]
      exact h.objects
    · rw [hrest] at hx
      by_cases hg : guid = c.guid
      · rw [hg, lookup_insert] at hx
        rw [hg, ← some.inj hx]
      · rw [lookup_insert_ne hg] at hx
        exact h.critters guid x hx
    · rw [hpieces]
      exact h.rowed
    · rw [hpieces]
      exact h.pieces ht
    · have hpast := past_guid s.nextCritterGuid c.guid ((h.countable ht).animals c hc)
      rw [hn] at hpast
      have hadd : Register.Sound (animalKind F) (s.animals.add c.houseId c.guid c c n.toNat) :=
        (h.animals ht).add hnone hpast.1 hpast.2
      rw [hanimals]
      exact ⟨hadd.listed, hadd.once, hadd.below⟩
    · rw [hrest]
      exact h.countable ht
    · rw [hrest]
    · rw [hrest]
      exact lookup_insert_ne hne

end

theorem loadCritterRows_orderly {l : List (HouseCritter F)} (hnodup : (l.map HouseCritter.guid).Nodup) {s : HouseMgr sv}
    (h : Orderly tidy s) (hl : ∀ c ∈ l, c ∈ s.db.houseCritter.rows) (hnone : ∀ c ∈ l, s.critters.lookup c.guid = none) :
    Orderly tidy (l.foldl loadCritter s) := by
  induction l generalizing s with
  | nil => exact h
  | cons c l ih =>
    rw [map_cons, nodup_cons] at hnodup
    obtain ⟨horderly, hdb, hrest⟩ := loadCritter_orderly h (hl c mem_cons_self) (hnone c mem_cons_self)
    refine ih hnodup.2 horderly (fun x hx => hdb ▸ hl x (mem_cons_of_mem c hx)) fun x hx => ?_
    have hne : x.guid ≠ c.guid := fun he => hnodup.1 (he ▸ mem_map_of_mem hx)
    rw [hrest x.guid hne]
    exact hnone x (mem_cons_of_mem c hx)

theorem numberCritter_orderly (h : Orderly tidy s) (guid : UInt32) : Orderly tidy (numberCritter s guid) := by
  unfold numberCritter
  split
  · exact h
  next c hc =>
  split
  · exact h
  split
  · exact h
  · exact h.moved (moves_setCritter h.toKeyed hc ⟨rfl, rfl⟩ fun _ => ⟨rfl, rfl⟩)

theorem clearCritterGuids_orderly (h : Orderly tidy s) : Orderly tidy s.clearCritterGuids := by
  refine ⟨⟨h.houses, h.objects, h.critters⟩, h.rowed, h.pieces,
    fun ht => ⟨(h.animals ht).listed, (h.animals ht).once, fun guid c hc => ?_⟩, h.countable⟩
  have hlast : highest (s.db.houseCritter.rows.map HouseCritter.guid) ≠ LAST_GUID := by
    apply highest_ne_last
    intro n hn
    obtain ⟨r, hr, rfl⟩ := mem_map.1 hn
    exact (h.countable ht).animals r hr
  exact Nat.lt_of_lt_of_le ((h.animals ht).below guid c hc) (past_guid s.nextCritterGuid _ hlast).1

theorem loadCritters_orderly (h : Orderly tidy s)
    (hnone : ∀ guid, s.critters.lookup guid = none) : Orderly tidy s.loadCritters := by
  unfold loadCritters
  split
  · exact h
  have hperm := perm_insertionSort (fun a b : HouseCritter F => a.guid ≤ b.guid) s.db.houseCritter.rows
  have hrows := loadCritterRows_orderly ((hperm.map HouseCritter.guid).nodup_iff.2 s.db.houseCritter.unique) h
    (fun c hc => hperm.mem_iff.1 hc) fun c _ => hnone c.guid
  exact clearCritterGuids_orderly (foldl_orderly (fun _ guid h => numberCritter_orderly h guid) _ hrows)

theorem critters_before (s : HouseMgr sv) (named : UInt32 → Bool) (shelves : List StorageRow) :
    ((s.loadHouses.loadObjects.checkInstances named).loadTemplates.loadPortals.loadStorage shelves).critters = s.critters := by
  have hfold : ∀ {α : Type} {f : HouseMgr sv → α → HouseMgr sv}, (∀ s a, (f s a).critters = s.critters) →
      ∀ (l : List α) (s : HouseMgr sv), (l.foldl f s).critters = s.critters := by
    intro α f hf l
    induction l with
    | nil => exact fun s => rfl
    | cons a l ih => exact fun s => (ih (f s a)).trans (hf s a)
  have hmodify : ∀ (s : HouseMgr sv) id f, (s.modifyHouse id f).critters = s.critters := by
    intro s id f
    rw [modifyHouse_rest]
  have hobjects : ∀ s : HouseMgr sv, s.loadObjects.critters = s.critters := by
    intro s
    refine (hfold (fun s guid => ?_) _ _).trans (hfold (fun s o => ?_) _ s)
    · unfold numberObject
      split
      · rfl
      split
      · rfl
      · split <;> rfl
    · unfold loadObject
      split
      · rfl
      split
      · rfl
      split
      · rfl
      · exact hmodify _ _ _
  have hinstances : ∀ s : HouseMgr sv, (s.checkInstances named).critters = s.critters := by
    intro s
    refine hfold (fun s id => ?_) _ s
    unfold checkInstance
    split
    · rfl
    split
    · rfl
    split
    · rfl
    · exact hmodify _ _ _
  have htemplates : ∀ s : HouseMgr sv, s.loadTemplates.critters = s.critters := by
    intro s
    refine (hfold (fun s r => ?_) _ _).trans (hfold (fun s r => ?_) _ s)
    · unfold loadTemplateObject
      split <;> rfl
    · exact hmodify _ _ _
  have hportals : ∀ s : HouseMgr sv, s.loadPortals.critters = s.critters := by
    intro s
    refine hfold (fun s p => ?_) _ s
    unfold loadPortal
    dsimp only
    split <;> split <;> rfl
  have hstorage : ∀ s : HouseMgr sv, (s.loadStorage shelves).critters = s.critters := by
    intro s
    refine hfold (fun s r => ?_) _ { s with storage := ∅ }
    unfold loadStorageRow
    split <;> rfl
  rw [hstorage, hportals, htemplates, hinstances, hobjects, loadHouses_rest]

theorem start_orderly (hcountable : tidy → Countable db) (named : UInt32 → Bool) (shelves : List StorageRow) :
    Orderly tidy (start db named shelves) := by
  unfold start
  split
  · exact Orderly.empty rfl rfl (fun id h hh => by cases hh) hcountable
  have hhouses : Orderly tidy (loadHouses { empty sv with db := db }) := orderly_loadHouses rfl rfl hcountable
  have hobjects := loadObjects_orderly hhouses fun guid => by
    rw [loadHouses_rest]
    exact lookup_empty guid
  have hinstances : Orderly tidy ((loadHouses { empty sv with db := db }).loadObjects.checkInstances named) :=
    foldl_orderly (fun _ id h => checkInstance_orderly named h id) _ hobjects
  refine loadCritters_orderly (loadStorage_orderly (loadPortals_orderly (loadTemplates_orderly hinstances)) shelves) fun guid => ?_
  rw [critters_before]
  exact lookup_empty guid

/-! Runs. -/

theorem finds_free (h : Orderly tidy s) (r : HouseRequest F) : Finds ⟨True, tidy, False, False⟩ s r where
  listing := h.listing fun ht => ht
  claim ht := absurd ht (by simp)
  create ht := absurd ht (by simp)
  deletePieces ht := ht.elim
  deleteAnimals ht := ht.elim

theorem step_orderly (h : Orderly tidy s) (e : HouseEvent om F) : Orderly tidy (s.step e) := by
  cases e with
  | request bags p r => exact h.moved (moves_handle (w := ⟨bags, s⟩) h.toKeyed p (finds_free h r) fun hr => absurd trivial hr)
  | consoleDelete id =>
    exact h.moved (moves_deleteTemplate s none id (h.listing fun ht => ht) (fun ht => ht.elim) fun ht => ht.elim)
  | restart named shelves => exact start_orderly h.countable named shelves

/-- The houses of a server after a start on the tables that are there, and whatever happened then. -/
theorem run_orderly (hcountable : tidy → Countable db) (named : UInt32 → Bool) (shelves : List StorageRow)
    (es : List (HouseEvent om F)) : Orderly tidy (Runs.run step (start db named shelves) es) :=
  Runs.always (I := Orderly tidy) (fun _ e h => step_orderly h e) (start_orderly hcountable named shelves) es

theorem moves_step (h : Orderly tidy s) {e : HouseEvent om F} (he : ∀ named shelves, e ≠ .restart named shelves) :
    Moves ⟨True, tidy, False, False⟩ s (s.step e) := by
  cases e with
  | request bags p r => exact moves_handle (w := ⟨bags, s⟩) h.toKeyed p (finds_free h r) fun hr => absurd trivial hr
  | consoleDelete id => exact moves_deleteTemplate s none id (h.listing fun ht => ht) (fun ht => ht.elim) fun ht => ht.elim
  | restart named shelves => exact absurd rfl (he named shelves)

theorem moves_session (h : Orderly tidy s) {es : List (HouseEvent om F)} (hes : ∀ e ∈ es, ∀ named shelves, e ≠ .restart named shelves) :
    Moves ⟨True, tidy, False, False⟩ s (Runs.run step s es) := by
  induction es generalizing s with
  | nil => exact Moves.refl s
  | cons e es ih =>
    have hmoves := moves_step h (hes e mem_cons_self)
    exact hmoves.trans (ih (h.moved hmoves) fun e he => hes e (mem_cons_of_mem _ he))

/-- As long as the server is not restarted, a guid that was handed out names one piece or animal, which stays in its house and
keeps its slot and where it came from; once it is gone, the guid does not come back. -/
theorem guids_last (db : HouseTables sv) (named : UInt32 → Bool) (shelves : List StorageRow) (es es' : List (HouseEvent om F))
    (hes' : ∀ e ∈ es', ∀ named shelves, e ≠ .restart named shelves) :
    let s := Runs.run step (start db named shelves) es
    let s' := Runs.run step s es'
    s.nextObjectGuid ≤ s'.nextObjectGuid ∧ s.nextCritterGuid ≤ s'.nextCritterGuid ∧
      (∀ guid < s.nextObjectGuid, ∀ o', s'.objects.lookup guid = some o' → ∃ o, s.objects.lookup guid = some o ∧
        o'.houseId = o.houseId ∧ o'.slot = o.slot ∧ o'.source = o.source) ∧
      ∀ guid < s.nextCritterGuid, ∀ c', s'.critters.lookup guid = some c' → ∃ c, s.critters.lookup guid = some c ∧
        c'.houseId = c.houseId := by
  intro s s'
  have hmoves : Moves _ s s' := moves_session (run_orderly (False.elim : False → Countable db) named shelves es) hes'
  have hpieces := hmoves.pieces.lasts
  have hanimals := hmoves.animals.lasts
  refine ⟨le_iff_toNat_le.2 hpieces.next, le_iff_toNat_le.2 hanimals.next, fun guid hguid o' ho' => ?_, fun guid hguid c' hc' => ?_⟩
  · obtain ⟨o, ho, hkept⟩ := hpieces.things guid o' (lt_iff_toNat_lt.1 hguid) ho'
    exact ⟨o, ho, hkept.home, hkept.slot, hkept.source⟩
  · obtain ⟨c, hc, hkept⟩ := hanimals.things guid c' (lt_iff_toNat_lt.1 hguid) hc'
    exact ⟨c, hc, hkept.2⟩

def oneHouseDb : HouseTables HouseSample.server :=
  { (empty HouseSample.server).db with
    house := ⟨[⟨1, 2, 1, 0, 0, noExit HouseSample.server⟩], by decide⟩
    houseObject := ⟨[HouseSample.piece 8000000 0 .player], by decide⟩ }

theorem guids_last_consoleDelete : (8000001 : UInt32) ≤ (Runs.run step (start oneHouseDb (fun _ => true) [])
    [(.consoleDelete 1 : HouseEvent HouseSample.objectMgr Int)]).nextObjectGuid :=
  (guids_last oneHouseDb (fun _ => true) [] [] [(.consoleDelete 1 : HouseEvent HouseSample.objectMgr Int)] (by simp)).1

/-- What a house lists is there, in this house and once, its guid has been handed out, and every piece has its row. -/
theorem lists_right (hcountable : Countable db) (named : UInt32 → Bool) (shelves : List StorageRow) (es : List (HouseEvent om F)) :
    let s := Runs.run step (start db named shelves) es
    ∀ id house, s.houses.lookup id = some house →
      (house.objects.Nodup ∧ ∀ guid ∈ house.objects, guid < s.nextObjectGuid ∧ (s.db.houseObject.lookup guid).isSome = true ∧
        ∃ o, s.objects.lookup guid = some o ∧ o.guid = guid ∧ o.houseId = id) ∧
      house.critters.Nodup ∧ ∀ guid ∈ house.critters, guid < s.nextCritterGuid ∧
        ∃ c, s.critters.lookup guid = some c ∧ c.guid = guid ∧ c.houseId = id := by
  intro s id house hhouse
  have h : Orderly True s := run_orderly (fun _ => hcountable) named shelves es
  have hpieces := h.pieces trivial
  have hanimals := h.animals trivial
  have hobjects : s.pieces.lists id = some house.objects := congrArg (Option.map House.objects) hhouse
  have hcritters : s.animals.lists id = some house.critters := congrArg (Option.map House.critters) hhouse
  refine ⟨⟨hpieces.once id _ hobjects, fun guid hguid => ?_⟩, hanimals.once id _ hcritters, fun guid hguid => ?_⟩
  · obtain ⟨o, ho, hhome⟩ := hpieces.listed id _ guid hobjects hguid
    exact ⟨lt_iff_toNat_lt.2 (hpieces.below guid o ho), h.rowed guid (isSome_iff_exists.2 ⟨o, ho⟩), o, ho, h.objects guid o ho, hhome⟩
  · obtain ⟨c, hc, hhome⟩ := hanimals.listed id _ guid hcritters hguid
    exact ⟨lt_iff_toNat_lt.2 (hanimals.below guid c hc), c, hc, h.critters guid c hc, hhome⟩

theorem lists_right_oneHouse : ∃ house, (start oneHouseDb (fun _ => true) []).houses.lookup 1 = some house ∧
    house.objects = [8000000] ∧ house.objects.Nodup :=
  ⟨_, rfl, rfl, (@lists_right HouseSample.objectMgr _ _ oneHouseDb ⟨by decide, by decide⟩ (fun _ => true) [] [] 1 _ rfl).1.1⟩

end HouseMgr
end ComfyCraft
