import ComfyCraft.Housing.HouseRows
import ComfyCraft.Housing.Packing

/-! House binds through restarts. No two houses ever share an instance. Binds keep naming the instance of
their own house exactly when packing never gives the instance of one a number that the row of another
account's house still has from before. -/

namespace ComfyCraft

open List UInt32 Option AList Prod HouseMgr

variable {F : Type} {sv : Server F} {maps : MapStorage sv}

namespace InstanceTables

variable {t : InstanceTables} {isDungeon : UInt32 → Bool} {characters : Table UInt32 UInt32} {e : Restart}

/-- What removing instances leaves of the tables. -/
structure Part (t t' : InstanceTables) : Prop where
  instances : ∀ r ∈ t'.instances.rows, r ∈ t.instances.rows
  character : ∀ b ∈ t'.characterInstance.rows, b ∈ t.characterInstance.rows

theorem Part.trans {t t' t'' : InstanceTables} (h : Part t t') (h' : Part t' t'') : Part t t'' :=
  ⟨fun r hr => h.instances r (h'.instances r hr), fun b hb => h.character b (h'.character b hb)⟩

theorem part_deleteInstanceFromDB (t : InstanceTables) (id : UInt32) : Part t (t.deleteInstanceFromDB id) := by
  unfold deleteInstanceFromDB
  split_ifs
  · exact ⟨fun _ hr => hr, fun _ hb => hb⟩
  · exact ⟨fun _ hr => mem_of_mem_filter hr, fun _ hb => mem_of_mem_filter hb⟩

theorem part_deleteAll (l : List InstanceRow) (t : InstanceTables) : Part t (l.foldl
    (fun t r => t.deleteInstanceFromDB r.id) t) := by
  induction l generalizing t with
  | nil => exact ⟨fun _ hr => hr, fun _ hb => hb⟩
  | cons r l ih => exact (t.part_deleteInstanceFromDB r.id).trans (ih _)

theorem not_mem_deleteAll {l : List InstanceRow} (hl : ∀ r ∈ l, r.id ≠ 0) (t : InstanceTables) :
    ∀ r ∈ l, r ∉ (l.foldl (fun t r => t.deleteInstanceFromDB r.id) t).instances.rows := by
  induction l generalizing t with
  | nil => exact fun _ hr => absurd hr not_mem_nil
  | cons x l ih =>
    intro r hr
    rcases mem_cons.1 hr with rfl | hlater
    · intro hmem
      have hhere : r ∈ (t.deleteInstanceFromDB r.id).instances.rows := (part_deleteAll l _).instances r hmem
      unfold deleteInstanceFromDB at hhere
      rw [if_neg (hl r mem_cons_self)] at hhere
      simpa using (mem_filter.1 hhere).2
    · exact ih (fun y hy => hl y (mem_cons_of_mem x hy)) _ r hlater

theorem part_cleanupInstances : Part t (t.cleanupInstances isDungeon characters e) := by
  have hload := part_deleteAll (t.instances.rows.filter fun r => !isDungeon r.map) t
  exact ⟨fun r hr => hload.instances r (mem_of_mem_filter (mem_of_mem_filter hr)),
    fun b hb => hload.character b (mem_of_mem_filter hb)⟩

theorem packable_cleanupInstances (hcont : ∀ map ≤ 1, isDungeon map = false)
    (hroom : ∀ r ∈ t.instances.rows, r.id ≠ 0 ∧ shiftable r.id = true) : (t.cleanupInstances isDungeon characters e).Packable := by
  refine ⟨anchored_cleanupInstances t isDungeon characters e, fun r hr => ?_, fun id hid => ?_⟩
  · -- a row off the dungeon maps went before anything else
    by_contra hmap
    have hold := part_cleanupInstances.instances r hr
    have hgone : r ∈ t.instances.rows.filter fun r => !isDungeon r.map :=
      mem_filter.2 ⟨hold, by rw [hcont r.map (UInt32.not_lt.1 hmap)]; rfl⟩
    exact not_mem_deleteAll (fun x hx => (hroom x (mem_of_mem_filter hx)).1) t r hgone
      (mem_of_mem_filter (mem_of_mem_filter hr))
  · obtain ⟨r, hr, rfl⟩ := mem_map.1 hid
    exact (hroom r (part_cleanupInstances.instances r hr)).2

theorem foldl_max_ge (l : List UInt32) (n : UInt32) : n ≤ l.foldl max n ∧ ∀ x ∈ l, x ≤ l.foldl max n := by
  induction l generalizing n with
  | nil => exact ⟨UInt32.le_refl n, fun _ hx => absurd hx not_mem_nil⟩
  | cons y l ih =>
    obtain ⟨hn, hl⟩ := ih (max n y)
    have hmax : n ≤ max n y ∧ y ≤ max n y := by
      have hdef : max n y = if n ≤ y then y else n := rfl
      rw [hdef]
      split_ifs with hle
      · exact ⟨hle, UInt32.le_refl y⟩
      · exact ⟨UInt32.le_refl n, UInt32.le_of_lt (UInt32.not_le.1 hle)⟩
    refine ⟨UInt32.le_trans hmax.1 hn, fun x hx => ?_⟩
    rcases mem_cons.1 hx with rfl | hx
    · exact UInt32.le_trans hmax.2 hn
    · exact hl x hx

theorem le_maxInstanceId {t : InstanceTables} {x : UInt32} (hx : x ∈ t.ids) : x ≤ t.maxInstanceId :=
  (foldl_max_ge _ _).2 x hx

end InstanceTables

namespace HouseRealm

variable {s s' : HouseRealm sv}

/-- A character has a bind, in its table or in memory. -/
def Held (s : HouseRealm sv) (guid instanceId : UInt32) (permanent : Bool) : Prop :=
  (⟨guid, instanceId, permanent⟩ : CharacterInstance) ∈ s.tables.characterInstance.rows ∨
    ∃ binds map, s.boundInstances.lookup guid = some binds ∧ binds.lookup map = some ⟨instanceId, permanent⟩

/-- No permanent bind names an instance that another account's house has. -/
def BindsApart (s : HouseRealm sv) : Prop :=
  ∀ guid instanceId, s.Held guid instanceId true → ∀ account, s.characters.lookup guid = some account →
    ∀ id h, s.mgr.getHouseById id = some h → h.instanceId ≠ 0 → h.instanceId = instanceId → h.accountId = account

/-- No two houses have an instance in common. -/
def HousesApart (s : HouseRealm sv) : Prop :=
  ∀ id id' h h', s.mgr.getHouseById id = some h → s.mgr.getHouseById id' = some h' → h.instanceId ≠ 0 →
    h.instanceId = h'.instanceId → id = id'

/-- The same of the rows, of which ids are the primary key. -/
structure RowsApart (m : HouseMgr sv) : Prop where
  primary : (m.db.house.rows.map HouseRow.id).Nodup
  instances : ∀ r ∈ m.db.house.rows, ∀ r' ∈ m.db.house.rows, r.instanceId ≠ 0 → r.instanceId = r'.instanceId → r.id = r'.id

/-- The instances that a step needs room for, among the 32 bit ids. -/
def HasRoom (s : HouseRealm sv) : HouseStep F → Prop
  | .restart _ => ∀ r ∈ s.tables.instances.rows, r.id ≠ 0 ∧ InstanceTables.shiftable r.id = true
  | .goHome _ _ | .enterNew _ _ _ => s.maxInstanceId.toNat + 1 < 2 ^ 32
  | _ => True

instance (s : HouseRealm sv) : ∀ a, Decidable (s.HasRoom a)
  | .restart _ => inferInstanceAs (Decidable (∀ r ∈ s.tables.instances.rows, r.id ≠ 0 ∧ InstanceTables.shiftable r.id = true))
  | .goHome _ _ | .enterNew _ _ _ => inferInstanceAs (Decidable (s.maxInstanceId.toNat + 1 < 2 ^ 32))
  | .login _ _ | .logout _ | .cleanUp _ => isTrue trivial

/-- No permanent bind to the house map that the cleanup leaves goes with its instance to a number that the
row of another account's house has. -/
def PacksApart (maps : MapStorage sv) (s : HouseRealm sv) : HouseStep F → Prop
  | .restart e =>
    let t := s.tables.cleanupInstances maps.isDungeon s.characters e
    sv.enabled = true → ∀ b ∈ t.characterInstance.rows, b.permanent = true → t.mapOf b.instanceId = HOUSE_MAP_ID →
      ∀ account, s.characters.lookup b.guid = some account →
        ∀ r ∈ s.mgr.db.house.rows, r.instanceId ≠ 0 → r.instanceId = t.packed b.instanceId → r.account = account
  | _ => True

structure Sound (s : HouseRealm sv) : Prop where
  rows : RowsApart s.mgr
  filed : sv.enabled = true → s.mgr.Filed
  closed : sv.enabled = false → ∀ id, s.mgr.getHouseById id = none
  houses : ∀ id h, s.mgr.getHouseById id = some h → h.instanceId ≤ s.maxInstanceId
  binds : ∀ guid instanceId permanent, s.Held guid instanceId permanent → instanceId ≤ s.maxInstanceId

theorem Sound.housesApart (h : s.Sound) : s.HousesApart := by
  intro id id' house house' hget hget' hne heq
  cases hen : sv.enabled with
  | false => rw [h.closed hen id] at hget; cases hget
  | true =>
    have hrow := (h.filed hen).rows id
    have hrow' := (h.filed hen).rows id'
    rw [hget] at hrow
    rw [hget'] at hrow'
    obtain ⟨r, hr, hreq⟩ := map_eq_some_iff.1 hrow.symm
    obtain ⟨r', hr', hreq'⟩ := map_eq_some_iff.1 hrow'.symm
    obtain ⟨hmem, hid⟩ := houseRow_some hr
    obtain ⟨hmem', hid'⟩ := houseRow_some hr'
    have hinst : r.instanceId = house.instanceId := congrArg snd hreq
    have hinst' : r'.instanceId = house'.instanceId := congrArg snd hreq'
    have hsame := h.rows.instances r hmem r' hmem' (hinst ▸ hne) (hinst.trans (heq.trans hinst'.symm))
    exact hid.symm.trans (hsame.trans hid')

theorem rowsApart_of_filed (hf : s.mgr.Filed) (h : s.HousesApart) : RowsApart s.mgr := by
  refine ⟨hf.primary, fun r hr r' hr' hne heq => ?_⟩
  have hrow := hf.rows r.id
  have hrow' := hf.rows r'.id
  rw [houseRow_of_mem hf.primary hr] at hrow
  rw [houseRow_of_mem hf.primary hr'] at hrow'
  obtain ⟨house, hget, hheq⟩ := map_eq_some_iff.1 hrow
  obtain ⟨house', hget', hheq'⟩ := map_eq_some_iff.1 hrow'
  have hinst : house.instanceId = r.instanceId := congrArg snd hheq
  have hinst' : house'.instanceId = r'.instanceId := congrArg snd hheq'
  exact h r.id r'.id house house' hget hget' (hinst ▸ hne) (hinst.trans (heq.trans hinst'.symm))

/-! ### Steps that only take binds away -/

/-- The houses and the ids in use are as they were, and nobody has a bind that they did not have. -/
structure Calm (s s' : HouseRealm sv) : Prop where
  mgr : s'.mgr = s.mgr
  max : s'.maxInstanceId = s.maxInstanceId
  characters : s'.characters = s.characters
  held : ∀ guid instanceId permanent, s'.Held guid instanceId permanent → s.Held guid instanceId permanent

theorem Calm.sound (h : Calm s s') (hs : s.Sound) : s'.Sound := by
  obtain ⟨hmgr, hmax, -, hheld⟩ := h
  refine ⟨hmgr ▸ hs.rows, hmgr ▸ hs.filed, hmgr ▸ hs.closed, ?_, ?_⟩
  · rw [hmgr, hmax]
    exact hs.houses
  · intro guid instanceId permanent hb
    rw [hmax]
    exact hs.binds guid instanceId permanent (hheld _ _ _ hb)

theorem Calm.bindsApart (h : Calm s s') (hs : s.BindsApart) : s'.BindsApart := by
  obtain ⟨hmgr, -, hchar, hheld⟩ := h
  intro guid instanceId hb
  rw [hmgr, hchar]
  exact hs guid instanceId (hheld _ _ _ hb)

variable {guid g map m instanceId : UInt32} {binds : Table UInt32 Bound} {permanent : Bool}

theorem lookup_boundInstances_insert {t : Table UInt32 (Table UInt32 Bound)} {old : Table UInt32 Bound}
    {new bind : Bound} (hlook : (t.insert guid (old.insert map new)).lookup g = some binds) (hbind : binds.lookup m = some bind) :
    (g = guid ∧ (bind = new ∨ old.lookup m = some bind)) ∨ t.lookup g = some binds := by
  by_cases hg : g = guid
  · subst hg
    rw [lookup_insert] at hlook
    cases hlook
    by_cases hm : m = map
    · subst hm
      rw [lookup_insert] at hbind
      exact .inl ⟨rfl, .inl (some.inj hbind).symm⟩
    · exact .inl ⟨rfl, .inr ((lookup_insert_ne hm).symm.trans hbind)⟩
  · exact .inr ((lookup_insert_ne hg).symm.trans hlook)

theorem calm_loadBind (maps : MapStorage sv) (inGroup : Bool) (s : HouseRealm sv) (b : CharacterInstance) :
    (s.loadBind maps inGroup b).mgr = s.mgr ∧ (s.loadBind maps inGroup b).maxInstanceId = s.maxInstanceId ∧
      (s.loadBind maps inGroup b).characters = s.characters ∧
      ∀ guid instanceId permanent, (s.loadBind maps inGroup b).Held guid instanceId permanent →
        s.Held guid instanceId permanent ∨ b = ⟨guid, instanceId, permanent⟩ := by
  unfold loadBind
  dsimp only
  split_ifs
  · refine ⟨rfl, rfl, rfl, fun guid instanceId permanent hb => .inl ?_⟩
    rcases hb with hrow | hbound
    · exact .inl (mem_of_mem_filter hrow)
    · exact .inr hbound
  · refine ⟨rfl, rfl, rfl, fun guid instanceId permanent hb => ?_⟩
    rcases hb with hrow | ⟨binds, map, hlook, hbind⟩
    · exact .inl (.inl hrow)
    rcases lookup_boundInstances_insert hlook hbind with ⟨rfl, heq | hold⟩ | hold
    · right
      obtain ⟨h1, h2⟩ := Bound.mk.inj heq
      cases b
      exact congrArg₂ _ h1.symm h2.symm
    · cases hget : s.boundInstances.lookup b.guid with
      | none => rw [hget] at hold; cases hold
      | some old =>
        rw [hget] at hold
        exact .inl (.inr ⟨old, map, hget, hold⟩)
    · exact .inl (.inr ⟨binds, map, hold, hbind⟩)

theorem calm_login (maps : MapStorage sv) (s : HouseRealm sv) (guid : UInt32) (inGroup : Bool) : Calm s
    (s.login maps guid inGroup) := by
  have hfold : ∀ (l : List CharacterInstance) (s₁ : HouseRealm sv), Calm s s₁ → (∀ b ∈ l, b ∈ s.tables.characterInstance.rows) →
      Calm s (l.foldl (loadBind maps inGroup) s₁) := by
    intro l
    induction l with
    | nil => exact fun s₁ h _ => h
    | cons b l ih =>
      intro s₁ h hl
      obtain ⟨hmgr, hmax, hchar, hheld⟩ := calm_loadBind maps inGroup s₁ b
      refine ih _ ⟨hmgr.trans h.mgr, hmax.trans h.max, hchar.trans h.characters, fun g i p hb => ?_⟩
        fun x hx => hl x (mem_cons_of_mem b hx)
      rcases hheld g i p hb with hold | rfl
      · exact h.held g i p hold
      · exact .inl (hl _ mem_cons_self)
  apply hfold
  · refine ⟨rfl, rfl, rfl, fun g i p hb => ?_⟩
    rcases hb with hrow | ⟨binds, map, hlook, hbind⟩
    · exact .inl hrow
    by_cases hg : g = guid
    · subst hg
      rw [lookup_insert] at hlook
      cases hlook
      cases hbind
    · exact .inr ⟨binds, map, (lookup_insert_ne hg).symm.trans hlook, hbind⟩
  · exact fun b hb => mem_of_mem_filter hb

theorem calm_logout (s : HouseRealm sv) (guid : UInt32) : Calm s { s with boundInstances := s.boundInstances.erase guid } := by
  refine ⟨rfl, rfl, rfl, fun g i p hb => ?_⟩
  rcases hb with hrow | ⟨binds, map, hlook, hbind⟩
  · exact .inl hrow
  by_cases hg : g = guid
  · subst hg
    rw [lookup_erase] at hlook
    cases hlook
  · exact .inr ⟨binds, map, (lookup_erase_ne hg).symm.trans hlook, hbind⟩

theorem calm_cleanUp (s : HouseRealm sv) (id : UInt32) : Calm s (s.cleanUp id) := by
  refine ⟨rfl, rfl, rfl, fun g i p hb => ?_⟩
  rcases hb with hrow | ⟨binds, map, hlook, hbind⟩
  · exact .inl ((s.tables.part_deleteInstanceFromDB id).character _ hrow)
  have hmap : (s.boundInstances.mapValues fun binds => binds.keep fun _ b => b.instanceId ≠ id).lookup g = some binds := hlook
  rw [Table.lookup_mapValues] at hmap
  obtain ⟨old, hold, rfl⟩ := map_eq_some_iff.1 hmap
  rw [Table.lookup_keep] at hbind
  exact .inr ⟨old, map, hold, (filter_eq_some_iff.1 hbind).1⟩

/-! ### Steps that bind somebody -/

theorem mem_writeBind {t : InstanceTables} {bind : Option Bound} {b : CharacterInstance}
    (hb : b ∈ (writeBind t guid bind instanceId permanent).characterInstance.rows) :
    b ∈ t.characterInstance.rows ∨ b = ⟨guid, instanceId, permanent⟩ := by
  unfold writeBind at hb
  cases bind with
  | none =>
    unfold insertRow at hb
    cases hins : t.characterInstance.insert ⟨guid, instanceId, permanent⟩ with
    | none =>
      rw [hins] at hb
      exact .inl hb
    | some rows =>
      rw [hins, getD_some, Rows.insert_some hins, mem_append, mem_singleton] at hb
      exact hb
  | some old =>
    dsimp only at hb
    split_ifs at hb
    · unfold updateRows at hb
      cases hupd : t.characterInstance.updateWhere (fun b => decide (b.guid = guid) && decide (b.instanceId = old.instanceId))
          (fun b => { b with instanceId := instanceId, permanent := permanent }) with
      | none =>
        rw [hupd] at hb
        exact .inl hb
      | some rows =>
        rw [hupd, getD_some, Rows.updateWhere_some hupd] at hb
        obtain ⟨r, hr, rfl⟩ := mem_map.1 hb
        split_ifs with htest
        · rw [Bool.and_eq_true, decide_eq_true_eq, decide_eq_true_eq] at htest
          exact .inr (congrArg (fun g => CharacterInstance.mk g instanceId permanent) htest.1)
        · exact .inl hr
    · exact .inl hb

theorem held_bindToInstance (hlook : s.boundInstances.lookup guid = some binds) {i : UInt32} {p : Bool}
    (hb : (s.bindToInstance guid binds map instanceId permanent).Held g i p) :
    s.Held g i p ∨ (g = guid ∧ i = instanceId ∧ p = permanent) := by
  rcases hb with hrow | ⟨binds', m, hlook', hbind⟩
  · rcases mem_writeBind hrow with hold | hnew
    · exact .inl (.inl hold)
    · exact .inr (CharacterInstance.mk.inj hnew)
  · rcases lookup_boundInstances_insert hlook' hbind with ⟨rfl, heq | hold⟩ | hold
    · exact .inr ⟨rfl, Bound.mk.inj heq⟩
    · exact .inl (.inr ⟨binds, m, hlook, hold⟩)
    · exact .inl (.inr ⟨binds', m, hold, hbind⟩)

theorem Sound.bindToInstance (h : s.Sound)
    (hlook : s.boundInstances.lookup guid = some binds) (hle : instanceId ≤ s.maxInstanceId) :
    (s.bindToInstance guid binds map instanceId permanent).Sound := by
  refine ⟨h.rows, h.filed, h.closed, h.houses, fun g i p hb => ?_⟩
  rcases held_bindToInstance hlook hb with hold | ⟨-, rfl, -⟩
  · exact h.binds g i p hold
  · exact hle

theorem BindsApart.bindToInstance (h : s.BindsApart) (hlook : s.boundInstances.lookup guid = some binds)
    (hgiven : ∀ account, s.characters.lookup guid = some account → ∀ id house, s.mgr.getHouseById id = some house →
      house.instanceId ≠ 0 → house.instanceId = instanceId → house.accountId = account) :
    (s.bindToInstance guid binds map instanceId permanent).BindsApart := by
  intro g i hb
  rcases held_bindToInstance hlook hb with hold | ⟨rfl, rfl, -⟩
  · exact h g i hold
  · exact hgiven

theorem le_succ {x : UInt32} (hroom : m.toNat + 1 < 2 ^ 32) (h : x ≤ m) : x ≤ m + 1 ∧ x ≠ m + 1 := by
  have hsucc : (m + 1).toNat = m.toNat + 1 := by
    rw [UInt32.toNat_add]
    exact Nat.mod_eq_of_lt hroom
  have hle := le_iff_toNat_le.1 h
  constructor
  · rw [le_iff_toNat_le, hsucc]
    omega
  · rintro rfl
    omega

theorem Sound.addInstance (h : s.Sound) (hroom : s.maxInstanceId.toNat + 1 < 2 ^ 32)
    (instances : Rows InstanceRow UInt32 InstanceRow.id) (map : UInt32) : (s.addInstance instances map).Sound :=
  ⟨h.rows, h.filed, h.closed, fun id house hget => (le_succ hroom (h.houses id house hget)).1,
    fun g i p hb => (le_succ hroom (h.binds g i p hb)).1⟩

theorem enterNew_kept (maps : MapStorage sv) (h : s.Sound) (guid map : UInt32) (permanent : Bool)
    (hroom : s.maxInstanceId.toNat + 1 < 2 ^ 32) :
    (s.enterNew maps guid map permanent).Sound ∧ (s.BindsApart → (s.enterNew maps guid map permanent).BindsApart) := by
  unfold enterNew
  cases hlook : s.boundInstances.lookup guid with
  | none => exact ⟨h, id⟩
  | some binds =>
    dsimp only
    split_ifs
    · exact ⟨h, id⟩
    have hlook' : (s.addInstance s.tables.instances map).boundInstances.lookup guid = some binds := hlook
    refine ⟨(h.addInstance hroom _ map).bindToInstance hlook' (UInt32.le_refl _), fun hb => ?_⟩
    have hb' : (s.addInstance s.tables.instances map).BindsApart := hb
    refine hb'.bindToInstance hlook' fun account _ id house hget _ heq => ?_
    exact absurd heq (le_succ hroom (h.houses id house hget)).2

theorem prepare_kept (h : s.Sound) (hen : sv.enabled = true) {house : House F} (hhouse : s.mgr.getHouseById house.id = some house)
    (hroom : s.maxInstanceId.toNat + 1 < 2 ^ 32) (instances : Rows InstanceRow UInt32 InstanceRow.id) :
    let s' := { s with mgr := s.mgr.prepareInstance house (s.maxInstanceId + 1) }.addInstance instances HOUSE_MAP_ID
    s'.Sound ∧ (s.BindsApart → s'.BindsApart) ∧
      ∀ id h', s'.mgr.getHouseById id = some h' → h'.instanceId = s.maxInstanceId + 1 → h'.accountId = house.accountId := by
  intro s'
  obtain ⟨hfiled, hget⟩ := prepareInstance_spec (h.filed hen) hhouse (s.maxInstanceId + 1)
  -- every house is as it was, or the one that has the next id now
  have hcases : ∀ id h', s'.mgr.getHouseById id = some h' →
      (id = house.id ∧ h' = { house with instanceId := s.maxInstanceId + 1 }) ∨ s.mgr.getHouseById id = some h' := by
    intro id h' hh'
    have heq := (hget id).symm.trans hh'
    split_ifs at heq with hid
    · exact .inl ⟨hid.1, (some.inj heq).symm⟩
    · exact .inr heq
  have hapart : s'.HousesApart := by
    intro id id' h₁ h₂ hh₁ hh₂ hne heq
    rcases hcases id h₁ hh₁ with ⟨rfl, rfl⟩ | hold₁ <;> rcases hcases id' h₂ hh₂ with ⟨rfl, rfl⟩ | hold₂
    · rfl
    · exact absurd heq.symm (le_succ hroom (h.houses id' h₂ hold₂)).2
    · exact absurd heq (le_succ hroom (h.houses id h₁ hold₁)).2
    · exact h.housesApart id id' h₁ h₂ hold₁ hold₂ hne heq
  refine ⟨⟨rowsApart_of_filed hfiled hapart, fun _ => hfiled, fun hdis => ?_, fun id h' hh' => ?_, fun g i p hb => ?_⟩,
    fun hb => ?_, fun id h' hh' heq => ?_⟩
  · rw [hen] at hdis
    cases hdis
  · rcases hcases id h' hh' with ⟨-, rfl⟩ | hold
    · exact UInt32.le_refl _
    · exact (le_succ hroom (h.houses id h' hold)).1
  · exact (le_succ hroom (h.binds g i p hb)).1
  · intro g i hheld account hacc id h' hh' hne heq
    rcases hcases id h' hh' with ⟨-, rfl⟩ | hold
    · exact absurd heq.symm (le_succ hroom (h.binds g i true hheld)).2
    · exact hb g i hheld account hacc id h' hold hne heq
  · rcases hcases id h' hh' with ⟨-, rfl⟩ | hold
    · rfl
    · exact absurd heq (le_succ hroom (h.houses id h' hold)).2

theorem goHome_kept (h : s.Sound) (guid : UInt32) (p : Visitor F) (hroom : s.maxInstanceId.toNat + 1 < 2 ^ 32) :
    (s.goHome guid p).Sound ∧ (s.BindsApart → (s.goHome guid p).BindsApart) := by
  unfold goHome
  cases hlook : s.boundInstances.lookup guid with
  | none => exact ⟨h, id⟩
  | some binds =>
    split_ifs with hsession
    · exact ⟨h, id⟩
    have hacc : s.characters.lookup guid = some p.accountId := not_not.1 hsession
    rcases s.mgr.sendPlayerHome_cases { p with newInstanceId := s.maxInstanceId + 1 } with ⟨error, hsend⟩ | ⟨house, hown, hsend⟩
    · rw [hsend]
      cases s.mgr.getHouseByAccount p.accountId <;> exact ⟨h, id⟩
    have hown' : s.mgr.getHouseByAccount p.accountId = some house := hown
    obtain ⟨id, hid, hget⟩ := bind_eq_some_iff.1 hown'
    have hen : sv.enabled = true := by
      cases hen : sv.enabled with
      | true => rfl
      | false => rw [h.closed hen id] at hget; cases hget
    have hkey := (h.filed hen).keyed id house hget
    have howner := (h.filed hen).accounts p.accountId id house hid hget
    subst hkey
    have hmine : ∀ account, s.characters.lookup guid = some account → account = house.accountId := by
      intro account hchar
      exact (some.inj (hchar.symm.trans hacc)).trans howner.symm
    rw [hown', hsend]
    dsimp only
    split_ifs with hzero
    · obtain ⟨hsound, hapart, hgiven⟩ := prepare_kept h hen hget hroom
        (s.tables.instances.deleteWhere fun r => r.id = s.maxInstanceId + 1)
      refine ⟨hsound.bindToInstance hlook (UInt32.le_refl _), fun hb => (hapart hb).bindToInstance hlook ?_⟩
      intro account hchar id' h' hh' _ heq
      exact (hgiven id' h' hh' heq).trans (hmine account hchar).symm
    · have hsame : s.mgr.prepareInstance house (s.maxInstanceId + 1) = s.mgr := if_pos hzero
      rw [hsame]
      refine ⟨h.bindToInstance hlook (h.houses house.id house hget), fun hb => hb.bindToInstance hlook ?_⟩
      intro account hchar id' h' hh' hne heq
      have hid' := h.housesApart id' house.id h' house hh' hget hne heq
      subst hid'
      rw [hmine account hchar, some.inj (hh'.symm.trans hget)]

end HouseRealm

end ComfyCraft
