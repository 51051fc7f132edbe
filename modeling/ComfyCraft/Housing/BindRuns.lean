import ComfyCraft.Housing.BindsKept

/-! What a restart makes of the houses and the binds, and whole runs that begin with one. -/

namespace ComfyCraft

open List Option Runs InstanceTables HouseMgr HouseRealm

variable {F : Type} {sv : Server F}

namespace HouseRealm

variable {s : HouseRealm sv}

variable {t : InstanceTables} {id : UInt32} {m : HouseMgr sv}

theorem named_iff :
    ((t.instances.lookup id).any fun r => r.map = HOUSE_MAP_ID) = true ↔ (⟨id, HOUSE_MAP_ID⟩ : InstanceRow) ∈ t.instances.rows := by
  rw [Option.any_eq_true]
  constructor
  · rintro ⟨r, hr, hmap⟩
    obtain ⟨hmem, hid⟩ := Rows.lookup_eq_some.1 hr
    cases r
    cases hid
    cases of_decide_eq_true hmap
    exact hmem
  · intro hmem
    exact ⟨_, Rows.lookup_eq_some.2 ⟨hmem, rfl⟩, decide_eq_true rfl⟩

theorem mapOf_eq_house : t.mapOf id = HOUSE_MAP_ID ↔ (⟨id, HOUSE_MAP_ID⟩ : InstanceRow) ∈ t.instances.rows := by
  rw [← named_iff]
  unfold mapOf
  cases t.instances.lookup id with
  | none => exact ⟨fun h => absurd h (by decide), fun h => absurd h (by decide)⟩
  | some r => simp

theorem loaded_house (hids : (m.db.house.rows.map HouseRow.id).Nodup) (hen : sv.enabled = true)
    {named : UInt32 → Bool} {h : House F} (hget : (m.loadFromDB named).getHouseById id = some h) :
    ∃ r ∈ m.db.house.rows, r.id = id ∧ h.accountId = r.account ∧
      (h.instanceId = 0 ∨ (h.instanceId = r.instanceId ∧ named r.instanceId = true)) := by
  rw [(loadFromDB_spec hids named hen).2] at hget
  obtain ⟨r, hr, rfl⟩ := map_eq_some_iff.1 hget
  obtain ⟨hmem, hid⟩ := houseRow_some hr
  refine ⟨r, hmem, hid, ?_⟩
  unfold checked
  split_ifs with hnamed
  · exact ⟨rfl, .inr ⟨rfl, hnamed⟩⟩
  · exact ⟨rfl, .inl rfl⟩

variable (maps : MapStorage sv)

theorem loaded_closed (hdis : sv.enabled = false) (named : UInt32 → Bool) (id : UInt32) :
    (m.loadFromDB named).getHouseById id = none := by
  unfold loadFromDB
  rw [hdis]
  rfl

theorem held_restart (hroom : ∀ r ∈ s.tables.instances.rows, r.id ≠ 0 ∧ InstanceTables.shiftable r.id = true) (e : Restart)
    {guid instanceId : UInt32} {permanent : Bool} (hb : (s.restart maps e).Held guid instanceId permanent) :
    let c := s.tables.cleanupInstances maps.isDungeon s.characters e
    ∃ b ∈ c.characterInstance.rows, b.guid = guid ∧ b.permanent = permanent ∧ instanceId = c.packed b.instanceId ∧
      b.instanceId ∈ c.ids := by
  intro c
  have hpack : c.Packable := packable_cleanupInstances maps.continent hroom
  rcases hb with hrow | ⟨binds, map, hlook, -⟩
  · have hrow' : (⟨guid, instanceId, permanent⟩ : CharacterInstance) ∈ c.packInstances.characterInstance.rows := hrow
    rw [hpack.packInstances_renamed.character] at hrow'
    obtain ⟨b, hb, heq⟩ := mem_map.1 hrow'
    obtain ⟨hguid, hinst, hperm⟩ := CharacterInstance.mk.inj heq
    exact ⟨b, hb, hguid, hperm, hinst.symm, hpack.character b hb⟩
  · cases hlook

section

variable (hrows : RowsApart s.mgr)
  (hroom : ∀ r ∈ s.tables.instances.rows, r.id ≠ 0 ∧ InstanceTables.shiftable r.id = true) (e : Restart)
include hrows hroom e

theorem restart_sound : (s.restart maps e).Sound := by
  have hle : ∀ id, (⟨id, HOUSE_MAP_ID⟩ : InstanceRow) ∈ (s.restart maps e).tables.instances.rows →
      id ≤ (s.restart maps e).maxInstanceId := fun id hmem => le_maxInstanceId (mem_map_of_mem hmem)
  have hbinds : ∀ guid instanceId permanent, (s.restart maps e).Held guid instanceId permanent →
      instanceId ≤ (s.restart maps e).maxInstanceId := by
    intro guid instanceId permanent hb
    obtain ⟨b, hmem, -, -, rfl, hid⟩ := held_restart maps hroom e hb
    apply le_maxInstanceId
    rw [(packable_cleanupInstances maps.continent hroom).packInstances_renamed.ids]
    exact mem_map_of_mem hid
  cases hen : sv.enabled with
  | false =>
    have hclosed := fun id => loaded_closed (m := s.mgr) hen
      (fun id => (((s.tables.cleanupInstances maps.isDungeon s.characters e).packInstances).instances.lookup id).any fun r =>
        r.map = HOUSE_MAP_ID) id
    have hdb : (s.restart maps e).mgr.db = s.mgr.db := by
      unfold restart loadFromDB
      rw [hen]
      rfl
    refine ⟨⟨hdb ▸ hrows.primary, hdb ▸ hrows.instances⟩, fun h => ?_, fun _ => hclosed, fun id h hget => ?_, hbinds⟩
    · rw [hen] at h
      cases h
    · exact absurd ((hclosed id).symm.trans hget) (by simp)
  | true =>
    have hfiled : (s.restart maps e).mgr.Filed := (loadFromDB_spec hrows.primary _ hen).1
    have hapart : (s.restart maps e).HousesApart := by
      intro id id' h h' hget hget' hne heq
      obtain ⟨r, hr, hid, -, hinst⟩ := loaded_house hrows.primary hen hget
      obtain ⟨r', hr', hid', -, hinst'⟩ := loaded_house hrows.primary hen hget'
      obtain ⟨hinst, -⟩ := hinst.resolve_left hne
      obtain ⟨hinst', -⟩ := hinst'.resolve_left (heq ▸ hne)
      rw [← hid, ← hid']
      exact hrows.instances r hr r' hr' (hinst ▸ hne) (hinst.symm.trans (heq.trans hinst'))
    refine ⟨rowsApart_of_filed hfiled hapart, fun _ => hfiled, fun h => ?_, fun id h hget => ?_, hbinds⟩
    · rw [hen] at h
      cases h
    obtain ⟨r, -, -, -, hzero | ⟨hinst, hnamed⟩⟩ := loaded_house hrows.primary hen hget
    · rw [hzero]
      exact UInt32.zero_le
    · rw [hinst]
      exact hle _ (named_iff.1 hnamed)

/-- Right after a restart the binds are apart exactly when the packing kept them so. -/
theorem restart_apart_iff : (s.restart maps e).BindsApart ↔ PacksApart maps s (.restart e) := by
  have hpack : (s.tables.cleanupInstances maps.isDungeon s.characters e).Packable :=
    packable_cleanupInstances maps.continent hroom
  have hren := hpack.packInstances_renamed
  constructor
  · intro h hen b hb hperm hmap account hacc r hr hne heq
    have hrow : (s.restart maps e).Held b.guid r.instanceId true := by
      left
      rw [heq, ← hperm]
      refine hren.character ▸ ?_
      exact mem_map.2 ⟨b, hb, rfl⟩
    have hnamed : ((s.restart maps e).tables.instances.lookup r.instanceId).any (fun r => r.map = HOUSE_MAP_ID) = true := by
      rw [named_iff, heq]
      refine hren.instances ▸ ?_
      exact mem_map.2 ⟨_, mapOf_eq_house.1 hmap, rfl⟩
    have hget : (s.restart maps e).mgr.getHouseById r.id = some (ofRow r) := by
      refine ((loadFromDB_spec hrows.primary _ hen).2 r.id).trans ?_
      rw [houseRow_of_mem hrows.primary hr, map_some, checked]
      exact congrArg some (if_pos hnamed)
    exact h b.guid r.instanceId hrow account hacc r.id _ hget hne rfl
  · intro h guid instanceId hb account hacc id house hget hne heq
    obtain ⟨b, hmem, rfl, hperm, rfl, hid⟩ := held_restart maps hroom e hb
    cases hen : sv.enabled with
    | false => exact absurd ((loaded_closed hen _ id).symm.trans hget) (by simp)
    | true =>
      obtain ⟨r, hr, -, howner, hinst⟩ := loaded_house hrows.primary hen hget
      obtain ⟨hinst, hnamed⟩ := hinst.resolve_left hne
      rw [howner]
      -- the row that loading found is the one of the bind's instance
      have hrow := named_iff.1 hnamed
      rw [hren.instances] at hrow
      obtain ⟨x, hx, hxeq⟩ := mem_map.1 hrow
      obtain ⟨hxid, hxmap⟩ := InstanceRow.mk.inj hxeq
      have hsame : x.id = b.instanceId :=
        hpack.packed_inj (mem_map_of_mem hx) hid (hxid.trans (hinst.symm.trans heq))
      have hmap : (s.tables.cleanupInstances maps.isDungeon s.characters e).mapOf b.instanceId = HOUSE_MAP_ID := by
        rw [mapOf_eq_house, ← hsame, ← hxmap]
        exact hx
      exact h hen b hmem hperm hmap account hacc r hr (hinst ▸ hne) (hinst.symm.trans heq)

end

/-! ### Runs -/

/-- One step keeps the houses apart, and the binds exactly when it packs them apart. -/
theorem step_kept (h : s.Sound) (a : HouseStep F) (hroom : s.HasRoom a) :
    (s.step maps a).Sound ∧ (s.BindsApart → PacksApart maps s a → (s.step maps a).BindsApart) := by
  cases a with
  | login guid inGroup =>
    have hcalm := calm_login maps s guid inGroup
    exact ⟨hcalm.sound h, fun hb _ => hcalm.bindsApart hb⟩
  | logout guid =>
    have hcalm := calm_logout s guid
    exact ⟨hcalm.sound h, fun hb _ => hcalm.bindsApart hb⟩
  | goHome guid p =>
    obtain ⟨hsound, hapart⟩ := goHome_kept h guid p hroom
    exact ⟨hsound, fun hb _ => hapart hb⟩
  | enterNew guid map permanent =>
    obtain ⟨hsound, hapart⟩ := enterNew_kept maps h guid map permanent hroom
    exact ⟨hsound, fun hb _ => hapart hb⟩
  | cleanUp id =>
    have hcalm := calm_cleanUp s id
    exact ⟨hcalm.sound h, fun hb _ => hcalm.bindsApart hb⟩
  | restart e => exact ⟨restart_sound maps h.rows hroom e, fun _ hp => (restart_apart_iff maps h.rows hroom e).2 hp⟩

/-- From the first restart on no two houses share an instance, and no bind names the instance of another account's house in
any state exactly when every restart packs the binds apart. -/
theorem binds_apart_iff (s : HouseRealm sv) (hrows : RowsApart s.mgr) (e : Restart) (as : List (HouseStep F))
    (hroom : Runs.Admitted (step maps) HasRoom s (.restart e :: as)) :
    (∀ n, (Runs.run (step maps) s (.restart e :: as.take n)).HousesApart) ∧
      ((∀ n, (Runs.run (step maps) s (.restart e :: as.take n)).BindsApart) ↔
        Runs.Admitted (step maps) (PacksApart maps) s (.restart e :: as)) := by
  have hfirst : (s.restart maps e).Sound := restart_sound maps hrows hroom.1 e
  have hsound : ∀ n, (run (step maps) (s.restart maps e) (as.take n)).Sound := fun n =>
    invariant (I := Sound) (fun s a hs ha => (step_kept maps hs a ha).1) hfirst (hroom.2.take n)
  refine ⟨fun n => (hsound n).housesApart, fun h => ?_, fun h n => ?_⟩
  · rw [admitted_iff_getElem?]
    intro n a ha
    cases a with
    | restart e' =>
      -- the state after a restart tells how it packed
      cases n with
      | zero =>
        cases ha
        exact (restart_apart_iff maps hrows hroom.1 e).1 (h 0)
      | succ n =>
        obtain ⟨hr, hnext⟩ := hroom.2.getElem? ha
        have hafter : (run (step maps) (s.restart maps e) (as.take (n + 1))).BindsApart := h (n + 1)
        have hrestart : run (step maps) (s.restart maps e) (as.take (n + 1)) =
            (run (step maps) (s.restart maps e) (as.take n)).restart maps e' := hnext
        rw [hrestart] at hafter
        exact (restart_apart_iff maps (hsound n).rows hr e').1 hafter
    | login guid inGroup => trivial
    | logout guid => trivial
    | goHome guid p => trivial
    | enterNew guid map permanent => trivial
    | cleanUp id => trivial
  · have hboth : Admitted (step maps) (fun s a => s.HasRoom a ∧ PacksApart maps s a) (s.restart maps e) as := by
      rw [admitted_iff_getElem?]
      intro k a ha
      exact ⟨(hroom.2.getElem? ha).1, (h.2.getElem? ha).1⟩
    have hstart : (s.restart maps e).BindsApart := (restart_apart_iff maps hrows hroom.1 e).2 h.1
    have hkept := invariant (I := fun s => s.Sound ∧ s.BindsApart)
      (fun s a hs ha => ⟨(step_kept maps hs.1 a ha.1).1, (step_kept maps hs.1 a ha.1).2 hs.2 ha.2⟩)
      ⟨hfirst, hstart⟩ (hboth.take n)
    exact hkept.2

end HouseRealm

namespace BindSample

open HouseSample HouseStep

def maps : MapStorage server where
  isDungeon map := 1 < map
  continent _ h := decide_eq_false fun hlt => absurd (UInt32.lt_of_lt_of_le hlt h) (UInt32.lt_irrefl _)
  house := by decide

def resident (accountId : UInt32) (h : accountId < HOUSE_TEMPLATE_ACCOUNT_MIN) : Visitor Int :=
  { owner with accountId := accountId, account_lt := h }

/-- Two accounts with a character and a house each, and no instances yet. -/
def start : HouseRealm server where
  mgr := { HouseMgr.empty server with
    db := { (HouseMgr.empty server).db with
      house := ⟨[⟨1, 1, 0, 0, 0, noExit server⟩, ⟨2, 2, 0, 0, 0, noExit server⟩], by decide⟩ } }
  maxInstanceId := 0
  tables := ⟨Rows.empty, Rows.empty, Rows.empty⟩
  characters := ((∅ : Table UInt32 UInt32).insert 11 1).insert 12 2
  boundInstances := ∅

def quiet : Restart := ⟨[], []⟩

/-- A dungeon gets the first number and the two houses the next. -/
def settled : List (HouseStep Int) :=
  [login 11 false, enterNew 11 33 false, restart quiet, login 11 false, login 12 false, goHome 11 (resident 1 owner.account_lt),
    goHome 12 (resident 2 (by decide))]

def shifted : List (HouseStep Int) := settled ++ [cleanUp 100, restart quiet]

theorem rowsApart_start : HouseRealm.RowsApart start.mgr := ⟨by decide, by decide⟩

theorem binds_apart_settled : (Runs.run (HouseRealm.step maps) start (restart quiet :: settled)).BindsApart := by
  have hrun : ∀ n, (run (step maps) start (restart quiet :: settled.take n)).BindsApart := by
    refine (binds_apart_iff maps start rowsApart_start quiet settled (by decide +kernel)).2.2 ?_
    refine ⟨fun _ b hb => ?_, trivial, trivial, fun _ b hb hperm => ?_, trivial, trivial, trivial, trivial, trivial⟩
    · exact absurd hb not_mem_nil
    · revert b
      decide +kernel
  have hend := hrun settled.length
  rwa [take_length] at hend

/-- The first house keeps its number, which is the second one's now. -/
theorem bind_given_away : ¬ ∀ n, (Runs.run (HouseRealm.step maps) start (restart quiet :: shifted.take n)).BindsApart := by
  intro h
  have hheld : (run (step maps) start (restart quiet :: shifted)).Held 12 101 true := .inl (by decide +kernel)
  have hchar : (run (step maps) start (restart quiet :: shifted)).characters.lookup 12 = some 2 := by decide +kernel
  have hhouse : ((run (step maps) start (restart quiet :: shifted)).mgr.getHouseById 1).map
      (fun house => (house.instanceId, house.accountId)) = some (101, 1) := by decide +kernel
  obtain ⟨house, hget, heq⟩ := map_eq_some_iff.1 hhouse
  obtain ⟨hinst, hacc⟩ := Prod.mk.inj heq
  have howner := h 9 12 101 hheld 2 hchar 1 house hget (by rw [hinst]; decide) hinst
  rw [hacc] at howner
  exact absurd howner (by decide)

end BindSample

end ComfyCraft
