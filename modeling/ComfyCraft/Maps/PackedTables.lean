import ComfyCraft.Maps.SavedTables

/-! Packing is one renaming in all tables exactly when no corpse lies in a reserved id and no respawn is of an
instance that has one. The shift moves corpses whatever their id is, and respawns from the reserved ids on. -/

namespace ComfyCraft

open List UInt32 InstanceTables Transaction

def changed (p : UInt32 → Bool) (f : UInt32 → UInt32) (x : UInt32) : UInt32 := if p x then f x else x

variable {R : Type} {p q : UInt32 → Bool} {f : UInt32 → UInt32} {c : R → UInt32} {w : R → UInt32 → R}

theorem setColumn_changed {K : Type} {key : R → K} [DecidableEq K] {t : Rows R K key} (g : K → K)
    (hfits : ∀ r ∈ t.rows, p (c r) = true → q (c r) = true) (hsame : ∀ r, w r (c r) = r)
    (hg : ∀ r, key (w r (changed p f (c r))) = g (key r))
    (hinj : ∀ r ∈ t.rows, ∀ r' ∈ t.rows, g (key r) = g (key r') → key r = key r') :
    ∃ t', setColumn t c w p f q = some t' ∧ t'.rows = t.rows.map fun r => w r (changed p f (c r)) := by
  have hwrite : ∀ r, (if p (c r) then w r (f (c r)) else r) = w r (changed p f (c r)) := by
    intro r
    unfold changed
    split_ifs
    · rfl
    · exact (hsame r).symm
  obtain ⟨t', h, hrows⟩ := t.updateWhere_of_injOn (fun r _ => by rw [hwrite, hg]) hinj
  refine ⟨t', ?_, hrows.trans (map_congr_left fun r _ => hwrite r)⟩
  unfold setColumn
  rw [if_pos, h]
  rw [all_eq_true]
  intro r hr
  cases hp : p (c r) with
  | false => rfl
  | true => simpa using hfits r hr hp

theorem setColumn_paired {G : Type} [DecidableEq G] {guid : R → G} {t : Rows R (G × UInt32) fun r => (guid r, c r)}
    (hfits : ∀ r ∈ t.rows, p (c r) = true → q (c r) = true) (hsame : ∀ r, w r (c r) = r)
    (hw : ∀ r v, guid (w r v) = guid r ∧ c (w r v) = v)
    (hinj : ∀ r ∈ t.rows, ∀ r' ∈ t.rows, changed p f (c r) = changed p f (c r') → c r = c r') :
    ∃ t', setColumn t c w p f q = some t' ∧ t'.rows = t.rows.map fun r => w r (changed p f (c r)) :=
  setColumn_changed (fun k => (k.1, changed p f k.2)) hfits hsame (fun r => Prod.ext (hw r _).1 (hw r _).2)
    fun r hr r' hr' heq => Prod.ext (Prod.mk.inj heq).1 (hinj r hr r' hr' (Prod.mk.inj heq).2)

namespace SavedTables

variable {f f' g g' : UInt32 → UInt32} {t t' t'' : SavedTables}

/-- The ids that occur where two rows must not come to bear the same. -/
def Named (t : SavedTables) (x : UInt32) : Prop :=
  x ∈ t.ids ∨ (∃ r ∈ t.creatureRespawn.rows, r.instanceId = x) ∨ ∃ r ∈ t.gameobjectRespawn.rows, r.instanceId = x

/-- The tables with other ids: those of the respawns by a function of their own. -/
structure Moved (f g : UInt32 → UInt32) (t t' : SavedTables) : Prop
    extends InstanceTables.Renamed f t.toInstanceTables t'.toInstanceTables where
  creature : t'.creatureRespawn.rows = t.creatureRespawn.rows.map fun r => { r with instanceId := g r.instanceId }
  gameobject : t'.gameobjectRespawn.rows = t.gameobjectRespawn.rows.map fun r => { r with instanceId := g r.instanceId }
  corpse : t'.corpse.rows = t.corpse.rows.map fun r => { r with instanceId := f r.instanceId }

theorem Moved.refl (t : SavedTables) : Moved id id t t :=
  ⟨Renamed.refl t.toInstanceTables, (map_id _).symm, (map_id _).symm, (map_id _).symm⟩

theorem Moved.trans (h : Moved f g t t') (h' : Moved f' g' t' t'') : Moved (f' ∘ f) (g' ∘ g) t t'' where
  toRenamed := h.toRenamed.trans h'.toRenamed
  creature := by rw [h'.creature, h.creature, map_map]; rfl
  gameobject := by rw [h'.gameobject, h.gameobject, map_map]; rfl
  corpse := by rw [h'.corpse, h.corpse, map_map]; rfl

theorem Moved.named (h : Moved f g t t') {y : UInt32} (hy : t'.Named y) :
    (∃ x ∈ t.ids, f x = y) ∨ ∃ x, t.Named x ∧ g x = y := by
  obtain hy | ⟨r, hr, rfl⟩ | ⟨r, hr, rfl⟩ := hy
  · rw [h.ids, mem_map] at hy
    exact .inl hy
  · rw [h.creature, mem_map] at hr
    obtain ⟨r, hr, rfl⟩ := hr
    exact .inr ⟨r.instanceId, .inr (.inl ⟨r, hr, rfl⟩), rfl⟩
  · rw [h.gameobject, mem_map] at hr
    obtain ⟨r, hr, rfl⟩ := hr
    exact .inr ⟨r.instanceId, .inr (.inr ⟨r, hr, rfl⟩), rfl⟩

section Columns

variable {p : UInt32 → Bool} {q : UInt32 → Bool}

theorem setRespawn_isSome {l : RespawnTable} (hfits : ∀ r ∈ l.rows, p r.instanceId = true → q r.instanceId = true)
    (hinj : ∀ r ∈ l.rows, ∀ r' ∈ l.rows, changed p f r.instanceId = changed p f r'.instanceId → r.instanceId = r'.instanceId) :
    ∃ rows', setColumn l RespawnRow.instanceId (fun r v => { r with instanceId := v }) p f q = some rows' ∧
      rows'.rows = l.rows.map fun r => { r with instanceId := changed p f r.instanceId } :=
  setColumn_paired hfits (fun _ => rfl) (fun _ _ => ⟨rfl, rfl⟩) hinj

theorem setCorpse_isSome {l : Rows CorpseRow UInt32 CorpseRow.guid}
    (hfits : ∀ r ∈ l.rows, p r.instanceId = true → q r.instanceId = true) :
    ∃ rows', setColumn l CorpseRow.instanceId (fun r v => { r with instanceId := v }) p f q = some rows' ∧
      rows'.rows = l.rows.map fun r => { r with instanceId := changed p f r.instanceId } :=
  setColumn_changed id hfits (fun _ => rfl) (fun _ => rfl) fun _ _ _ _ heq => heq

section Binds

variable {t : InstanceTables} (hfits : ∀ x ∈ t.ids, p x = true → q x = true)
  (hinj : ∀ x ∈ t.ids, ∀ y ∈ t.ids, changed p f x = changed p f y → x = y)
include hfits hinj

theorem setInstance_isSome : ∃ rows', setColumn t.instances InstanceRow.id (fun r v => { r with id := v }) p f q = some rows' ∧
      rows'.rows = t.instances.rows.map fun r => { r with id := changed p f r.id } :=
  setColumn_changed (changed p f) (fun r hr => hfits r.id (mem_map_of_mem hr)) (fun _ => rfl) (fun _ => rfl)
    fun r hr r' hr' heq => hinj _ (mem_map_of_mem hr) _ (mem_map_of_mem hr') heq

theorem setCharacterInstance_isSome (ht : t.Anchored) :
    ∃ rows', setColumn t.characterInstance CharacterInstance.instanceId (fun r v => { r with instanceId := v })
        p f q = some rows' ∧
      rows'.rows = t.characterInstance.rows.map fun b => { b with instanceId := changed p f b.instanceId } :=
  setColumn_paired (fun b hb => hfits b.instanceId (ht.character b hb)) (fun _ => rfl) (fun _ _ => ⟨rfl, rfl⟩)
    fun b hb b' hb' heq => hinj _ (ht.character b hb) _ (ht.character b' hb') heq

theorem setGroupInstance_isSome (ht : t.Anchored) :
    ∃ rows', setColumn t.groupInstance GroupInstance.instanceId (fun r v => { r with instanceId := v }) p f q = some rows' ∧
      rows'.rows = t.groupInstance.rows.map fun b => { b with instanceId := changed p f b.instanceId } :=
  setColumn_paired (fun b hb => hfits b.instanceId (ht.group b hb)) (fun _ => rfl) (fun _ _ => ⟨rfl, rfl⟩)
    fun b hb b' hb' heq => hinj _ (ht.group b hb) _ (ht.group b' hb') heq

end Binds

end Columns

/-! ### The shift -/

/-- Every id that the shift moves fits its column afterwards. -/
structure Fits (t : SavedTables) : Prop where
  instances : ∀ id ∈ t.ids, InstanceTables.shiftable id = true
  corpse : ∀ r ∈ t.corpse.rows, InstanceTables.shiftable r.instanceId = true
  creature : ∀ r ∈ t.creatureRespawn.rows, respawnShiftable r.instanceId = true
  gameobject : ∀ r ∈ t.gameobjectRespawn.rows, respawnShiftable r.instanceId = true

def bump (x : UInt32) : UInt32 := if RESERVED_INSTANCES_LAST ≤ x then x + RESERVED_INSTANCES_LAST else x

variable {x : UInt32} {ids : List UInt32}

theorem bump_toNat (h : respawnShiftable x = true) : (bump x).toNat = if 100 ≤ x.toNat then x.toNat + 100 else x.toNat := by
  have hfit : x.toNat + 100 < 2 ^ 24 := of_decide_eq_true h
  have hle : RESERVED_INSTANCES_LAST ≤ x ↔ 100 ≤ x.toNat := le_iff_toNat_le
  unfold bump
  split_ifs with h₁ h₂ h₂
  · rw [UInt32.toNat_add]
    exact Nat.mod_eq_of_lt (by change x.toNat + 100 < _; omega)
  · exact absurd (hle.mp h₁) h₂
  · exact absurd (hle.mpr h₂) h₁
  · rfl

theorem bump_injOn {y : UInt32} (hx : respawnShiftable x = true) (hy : respawnShiftable y = true)
    (h : bump x = bump y) : x = y := by
  have h' := congrArg UInt32.toNat h
  rw [bump_toNat hx, bump_toNat hy] at h'
  apply UInt32.toNat_inj.mp
  split_ifs at h' <;> omega

/-- The shift moves all ids out of the way, and then drops what is on a continent. -/
theorem shift_moved (ht : t.toInstanceTables.Anchored) (hfit : t.Fits) : ∃ t₁, Moved (· + RESERVED_INSTANCES_LAST) bump t t₁ ∧
      t.shift = { t₁ with instances := t₁.instances.deleteWhere fun r => r.map ≤ 1 } := by
  have hinj : ∀ x ∈ t.ids, ∀ y ∈ t.ids, changed (fun _ => true) (· + RESERVED_INSTANCES_LAST) x =
      changed (fun _ => true) (· + RESERVED_INSTANCES_LAST) y → x = y :=
    fun x _ y _ heq => (add_left_inj _).1 heq
  have hbump : ∀ x, changed (RESERVED_INSTANCES_LAST ≤ ·) (· + RESERVED_INSTANCES_LAST) x = bump x := by
    intro x
    simp only [changed, bump, decide_eq_true_eq]
  have hroom : ∀ x ∈ t.ids, true = true → shiftable x = true := fun x hx _ => hfit.instances x hx
  obtain ⟨rows₁, h₁, hrows₁⟩ := setInstance_isSome hroom hinj
  obtain ⟨rows₂, h₂, hrows₂⟩ := setRespawn_isSome (f := (· + RESERVED_INSTANCES_LAST))
    (fun r hr _ => hfit.creature r hr) (fun r hr r' hr' heq => by
      rw [hbump, hbump] at heq
      exact bump_injOn (hfit.creature r hr) (hfit.creature r' hr') heq)
  obtain ⟨rows₃, h₃, hrows₃⟩ := setRespawn_isSome (f := (· + RESERVED_INSTANCES_LAST))
    (fun r hr _ => hfit.gameobject r hr) (fun r hr r' hr' heq => by
      rw [hbump, hbump] at heq
      exact bump_injOn (hfit.gameobject r hr) (hfit.gameobject r' hr') heq)
  obtain ⟨rows₄, h₄, hrows₄⟩ := setCorpse_isSome (p := fun _ => true) (f := (· + RESERVED_INSTANCES_LAST))
    (fun r hr _ => hfit.corpse r hr)
  obtain ⟨rows₅, h₅, hrows₅⟩ := setCharacterInstance_isSome hroom hinj ht
  obtain ⟨rows₆, h₆, hrows₆⟩ := setGroupInstance_isSome hroom hinj ht
  refine ⟨⟨⟨rows₁, rows₅, rows₆⟩, rows₂, rows₃, rows₄⟩, ⟨⟨hrows₁, hrows₅, hrows₆⟩, ?_, ?_, hrows₄⟩, ?_⟩
  · rw [hrows₂]
    exact map_congr_left fun r _ => by rw [hbump]
  · rw [hrows₃]
    exact map_congr_left fun r _ => by rw [hbump]
  · unfold shift commit
    simp only [execute, setInstance, setCreatureRespawn, setGameobjectRespawn, setCorpse,
      setCharacterInstance, setGroupInstance, h₁, h₂, h₃, h₄, h₅, h₆, Option.map_some, Option.bind_some,
      Option.getD_some]

/-! ### The new numbers -/

/-- A transaction of the loop, when nobody else has the new number. -/
theorem renameInstance_moved (ht : t.toInstanceTables.Anchored) {i number : UInt32}
    (hfree : ∀ x, t.Named x → x ≠ i → x ≠ number) :
    Moved (fun x => if x = i then number else x) (fun x => if x = i then number else x) t (t.renameInstance i number) := by
  have hchanged : ∀ x, changed (· = i) (fun _ => number) x = if x = i then number else x := by
    intro x
    simp only [changed, decide_eq_true_eq]
  have hinj : ∀ x, t.Named x → ∀ y, t.Named y →
      changed (· = i) (fun _ => number) x = changed (· = i) (fun _ => number) y → x = y := by
    intro x hx y hy heq
    rw [hchanged, hchanged] at heq
    split_ifs at heq with hxi hyi hyi
    · exact hxi.trans hyi.symm
    · exact absurd heq.symm (hfree y hy hyi)
    · exact absurd heq (hfree x hx hxi)
    · exact heq
  have hids : ∀ x ∈ t.ids, ∀ y ∈ t.ids, changed (· = i) (fun _ => number) x = changed (· = i) (fun _ => number) y → x = y :=
    fun x hx y hy => hinj x (.inl hx) y (.inl hy)
  obtain ⟨rows₁, h₁, hrows₁⟩ := setRespawn_isSome (p := (· = i)) (f := fun _ => number) (q := fun _ => true)
    (l := t.creatureRespawn) (fun _ _ _ => rfl) (fun r hr r' hr' =>
      hinj _ (.inr (.inl ⟨r, hr, rfl⟩)) _ (.inr (.inl ⟨r', hr', rfl⟩)))
  obtain ⟨rows₂, h₂, hrows₂⟩ := setRespawn_isSome (p := (· = i)) (f := fun _ => number) (q := fun _ => true)
    (l := t.gameobjectRespawn) (fun _ _ _ => rfl) (fun r hr r' hr' =>
      hinj _ (.inr (.inr ⟨r, hr, rfl⟩)) _ (.inr (.inr ⟨r', hr', rfl⟩)))
  obtain ⟨rows₃, h₃, hrows₃⟩ := setCorpse_isSome (p := (· = i)) (f := fun _ => number) (q := fun _ => true)
    (l := t.corpse) (fun _ _ _ => rfl)
  obtain ⟨rows₄, h₄, hrows₄⟩ := setCharacterInstance_isSome (q := fun _ => true) (fun _ _ _ => rfl) hids ht
  obtain ⟨rows₅, h₅, hrows₅⟩ := setInstance_isSome (q := fun _ => true) (fun _ _ _ => rfl) hids
  obtain ⟨rows₆, h₆, hrows₆⟩ := setGroupInstance_isSome (q := fun _ => true) (fun _ _ _ => rfl) hids ht
  have hall : t.renameInstance i number = ⟨⟨rows₅, rows₄, rows₆⟩, rows₁, rows₂, rows₃⟩ := by
    unfold renameInstance commit
    simp only [execute, setInstance, setCreatureRespawn, setGameobjectRespawn, setCorpse,
      setCharacterInstance, setGroupInstance, h₁, h₂, h₃, h₄, h₅, h₆, Option.map_some, Option.bind_some,
      Option.getD_some]
  simp only [hchanged] at hrows₁ hrows₂ hrows₃ hrows₄ hrows₅ hrows₆
  rw [hall]
  exact ⟨⟨hrows₅, hrows₄, hrows₆⟩, hrows₁, hrows₂, hrows₃⟩

theorem renumber_moved (hids : ids.Pairwise (· < ·)) {n : Nat} (hn : ∀ i ∈ ids, n ≤ i.toNat)
    (ht : t.toInstanceTables.Anchored) (hcover : ∀ x, t.Named x → x.toNat < n ∨ x ∈ ids) :
    Moved (InstanceTables.numbered n ids) (InstanceTables.numbered n ids) t (renumber (UInt32.ofNat n) ids t) :=
  renumber_relates Named renumber renameInstance (R := fun f t t' => Moved f f t t') (fun _ _ => rfl)
    (fun _ _ _ _ => rfl) Moved.refl Moved.trans (fun h ht => h.toRenamed.anchored ht)
    (fun h hy => (h.named hy).elim (fun ⟨x, hx, heq⟩ => ⟨x, .inl hx, heq⟩) fun hx => hx)
    (fun ht hfree => renameInstance_moved ht hfree) hids hn ht hcover

/-! ### Packing -/

/-- What becomes of an id that a row names: an instance gets its new name, and an id that is no instance's and
reserved stays. -/
structure Follows (f : UInt32 → UInt32) (ids : List UInt32) (old new : UInt32) : Prop where
  named : old ∈ ids → new = f old
  unnamed : old ∉ ids → old < RESERVED_INSTANCES_LAST → new = old

/-- One renaming of the instances, in order, onto the ids from the first unreserved one on, which every row
follows. -/
structure PackedBy (f : UInt32 → UInt32) (t t' : SavedTables) : Prop
    extends InstanceTables.Renamed f t.toInstanceTables t'.toInstanceTables where
  order : ∀ x ∈ t.ids, ∀ y ∈ t.ids, x < y → f x < f y
  consecutive : (t.ids.map fun x => (f x).toNat).Perm (List.range' RESERVED_INSTANCES_LAST.toNat t.ids.length)
  creature : List.Forall₂ (fun r r' => r'.guid = r.guid ∧ Follows f t.ids r.instanceId r'.instanceId)
    t.creatureRespawn.rows t'.creatureRespawn.rows
  gameobject : List.Forall₂ (fun r r' => r'.guid = r.guid ∧ Follows f t.ids r.instanceId r'.instanceId)
    t.gameobjectRespawn.rows t'.gameobjectRespawn.rows
  corpse : List.Forall₂ (fun r r' => r'.guid = r.guid ∧ Follows f t.ids r.instanceId r'.instanceId)
    t.corpse.rows t'.corpse.rows

/-- No instance is on a continent, every corpse below the reserved ids' end names an instance, and no respawn
there does. -/
structure Regular (t : SavedTables) : Prop where
  map : ∀ r ∈ t.instances.rows, 1 < r.map
  corpse : ∀ r ∈ t.corpse.rows, r.instanceId < RESERVED_INSTANCES_LAST → r.instanceId ∈ t.ids
  creature : ∀ r ∈ t.creatureRespawn.rows, r.instanceId ∈ t.ids → RESERVED_INSTANCES_LAST ≤ r.instanceId
  gameobject : ∀ r ∈ t.gameobjectRespawn.rows, r.instanceId ∈ t.ids → RESERVED_INSTANCES_LAST ≤ r.instanceId

/-- What the cleanup leaves: binds with their instances, and no respawns of an instance that is gone. -/
structure Cleaned (t : SavedTables) : Prop extends InstanceTables.Anchored t.toInstanceTables where
  creature : ∀ r ∈ t.creatureRespawn.rows, RESERVED_INSTANCES_LAST ≤ r.instanceId → r.instanceId ∈ t.ids
  gameobject : ∀ r ∈ t.gameobjectRespawn.rows, RESERVED_INSTANCES_LAST ≤ r.instanceId → r.instanceId ∈ t.ids

theorem cleaned_respawns {rows : RespawnTable} {t : InstanceTables} {r : RespawnRow} (hr : r ∈ (rows.deleteWhere fun r =>
      RESERVED_INSTANCES_LAST ≤ r.instanceId && (t.instances.lookup r.instanceId).isNone).rows)
    (h : RESERVED_INSTANCES_LAST ≤ r.instanceId) : r.instanceId ∈ t.ids := by
  have htest := (mem_filter.mp hr).2
  dsimp only at htest
  rw [decide_eq_true h, Bool.true_and, Bool.not_eq_true'] at htest
  cases hlook : t.instances.lookup r.instanceId with
  | none => rw [hlook] at htest; cases htest
  | some x =>
    obtain ⟨hmem, hid⟩ := Rows.lookup_eq_some.mp hlook
    rw [← hid]
    exact mem_map_of_mem hmem

theorem cleaned_cleanupInstances (t : SavedTables) (isDungeon : UInt32 → Bool) (characters : Table UInt32 UInt32)
    (e : Restart) : (t.cleanupInstances isDungeon characters e).Cleaned :=
  ⟨anchored_cleanupInstances t.toInstanceTables isDungeon characters e,
    fun _ hr h => cleaned_respawns hr h, fun _ hr h => cleaned_respawns hr h⟩

theorem renameInstance_length (t : SavedTables) (i number : UInt32) :
    (t.renameInstance i number).instances.rows.length = t.instances.rows.length := by
  refine commit_keeps (I := fun d : SavedTables => d.instances.rows.length = t.instances.rows.length)
    rfl fun s hs d d' hd h => ?_
  simp only [mem_cons, not_mem_nil, or_false] at hs
  obtain rfl | rfl | rfl | rfl | rfl | rfl := hs
  all_goals
    obtain ⟨rows, hrows, rfl⟩ := Option.map_eq_some_iff.mp h
    try exact hd
  -- only the table of the instances itself is left
  unfold setColumn at hrows
  split_ifs at hrows
  rw [← hd, Rows.updateWhere_some hrows, length_map]

theorem renumber_length (ids : List UInt32) : ∀ (number : UInt32) (t : SavedTables),
    (renumber number ids t).instances.rows.length = t.instances.rows.length := by
  induction ids with
  | nil => intro number t; rfl
  | cons i ids ih =>
    intro number t
    rw [renumber, ih]
    split_ifs
    · exact renameInstance_length t i number
    · rfl

/-- An instance on a continent goes, so that packing is no renaming of the instances. -/
theorem map_of_length (ht : t.toInstanceTables.Anchored) (hfit : t.Fits)
    (h : t.packInstances.instances.rows.length = t.instances.rows.length) : ∀ r ∈ t.instances.rows, 1 < r.map := by
  obtain ⟨t₁, hmoved, hshift⟩ := shift_moved ht hfit
  rw [packInstances, renumber_length, hshift] at h
  have hlen : t₁.instances.rows.length = t.instances.rows.length := by rw [hmoved.instances, length_map]
  rw [← hlen] at h
  have hall := length_filter_eq_length_iff.mp h
  intro r hr
  have hr₁ : ({ r with id := r.id + RESERVED_INSTANCES_LAST } : InstanceRow) ∈ t₁.instances.rows := by
    rw [hmoved.instances]
    exact mem_map_of_mem hr
  simpa using hall _ hr₁

theorem mem_reserved (h : ∀ x ∈ ids, 100 ≤ x.toNat) (hx : x < RESERVED_INSTANCES_LAST) : x ∉ ids := by
  intro hmem
  have hlt : x.toNat < 100 := lt_iff_toNat_lt.mp hx
  have := h x hmem
  omega

/-- With every instance on a map of its own kind, packing moves each id by one function of its own kind. -/
theorem packInstances_moved (ht : t.Cleaned) (hfit : t.Fits) (hmap : ∀ r ∈ t.instances.rows, 1 < r.map) :
    ∃ f g, Moved f g t t.packInstances ∧ (∀ x ∈ t.ids, f x = t.toInstanceTables.packed x) ∧
      (∀ x ∈ t.ids, RESERVED_INSTANCES_LAST ≤ x → g x = t.toInstanceTables.packed x) ∧
      (∀ x, InstanceTables.shiftable x = true → x ∉ t.ids → f x = x + RESERVED_INSTANCES_LAST) ∧
      ∀ x, x < RESERVED_INSTANCES_LAST → g x = x := by
  obtain ⟨t₁, hmoved, hshift⟩ := shift_moved ht.toAnchored hfit
  have hkeep : t₁.instances.deleteWhere (fun r => r.map ≤ 1) = t₁.instances := by
    have hrows : (t₁.instances.deleteWhere (fun r => r.map ≤ 1)).rows = t₁.instances.rows := by
      refine filter_eq_self.mpr fun r hr => ?_
      rw [hmoved.instances] at hr
      obtain ⟨old, hold, rfl⟩ := mem_map.mp hr
      simpa using hmap old hold
    generalize t₁.instances.deleteWhere (fun r => r.map ≤ 1) = u at hrows
    obtain ⟨rows, unique⟩ := u
    subst hrows
    rfl
  have hshifted : Moved (· + RESERVED_INSTANCES_LAST) bump t t.shift := by
    rw [hshift, hkeep]
    exact hmoved
  have hge : ∀ x ∈ t.shift.ids, 100 ≤ x.toNat := by
    intro x hx
    rw [hshifted.ids] at hx
    obtain ⟨y, hy, rfl⟩ := mem_map.mp hx
    rw [shift_toNat (hfit.instances y hy)]
    exact Nat.le_add_left _ _
  have hset : ∀ x ∈ t.shift.toInstanceTables.instanceSet, 100 ≤ x.toNat :=
    fun x hx => hge x (mem_instanceSet.mp hx)
  have hsmall : ∀ x, x < RESERVED_INSTANCES_LAST → bump x = x := by
    intro x hx
    rw [bump, if_neg (UInt32.not_le.mpr hx)]
  have hrespawn : ∀ x, (RESERVED_INSTANCES_LAST ≤ x → x ∈ t.ids) →
      (bump x).toNat < 100 ∨ bump x ∈ t.shift.toInstanceTables.instanceSet := by
    intro x hx
    by_cases hle : RESERVED_INSTANCES_LAST ≤ x
    · right
      rw [mem_instanceSet, hshifted.ids, bump, if_pos hle]
      exact mem_map_of_mem (hx hle)
    · left
      rw [hsmall x (UInt32.not_le.mp hle)]
      exact UInt32.lt_iff_toNat_lt.mp (UInt32.not_le.mp hle)
  have hcover : ∀ x, t.shift.Named x → x.toNat < 100 ∨ x ∈ t.shift.toInstanceTables.instanceSet := by
    intro x hx
    obtain hx | ⟨r, hr, rfl⟩ | ⟨r, hr, rfl⟩ := hx
    · exact .inr (mem_instanceSet.mpr hx)
    · rw [hshifted.creature] at hr
      obtain ⟨old, hold, rfl⟩ := mem_map.mp hr
      exact hrespawn old.instanceId (ht.creature old hold)
    · rw [hshifted.gameobject] at hr
      obtain ⟨old, hold, rfl⟩ := mem_map.mp hr
      exact hrespawn old.instanceId (ht.gameobject old hold)
  have hren := renumber_moved t.shift.toInstanceTables.instanceSet_pairwise hset
    (hshifted.toRenamed.anchored ht.toAnchored) hcover
  refine ⟨_, _, hshifted.trans hren, fun x hx => ?_, fun x hx hle => ?_, fun x hfits hx => ?_, fun x hx => ?_⟩
  · exact numbered_eq_packed hshifted.toRenamed hfit.instances hx
  · rw [Function.comp_apply, bump, if_pos hle]
    exact numbered_eq_packed hshifted.toRenamed hfit.instances hx
  · refine numbered_of_notMem _ fun hmem => ?_
    rw [mem_instanceSet, hshifted.ids, mem_map] at hmem
    obtain ⟨y, hy, heq⟩ := hmem
    rw [(add_left_inj _).mp heq] at hy
    exact hx hy
  · rw [Function.comp_apply, hsmall x hx]
    exact numbered_of_notMem _ (mem_reserved hset hx)

theorem forall₂_map {R : Type} {P : R → R → Prop} {l : List R} {f : R → R} :
    List.Forall₂ P l (l.map f) ↔ ∀ r ∈ l, P r (f r) := by
  rw [forall₂_map_right_iff, forall₂_same]

/-- What the cleanup leaves is packed by one renaming exactly when it is regular. -/
theorem packInstances_iff (t : SavedTables) (isDungeon : UInt32 → Bool) (characters : Table UInt32 UInt32)
    (e : Restart) (hfit : (t.cleanupInstances isDungeon characters e).Fits) :
    (∃ f, PackedBy f (t.cleanupInstances isDungeon characters e) (t.cleanupInstances isDungeon characters e).packInstances) ↔
      (t.cleanupInstances isDungeon characters e).Regular := by
  have ht := cleaned_cleanupInstances t isDungeon characters e
  generalize t.cleanupInstances isDungeon characters e = t at ht hfit
  constructor
  · intro ⟨f, h⟩
    have hmap := map_of_length ht.toAnchored hfit (by rw [h.instances, length_map])
    obtain ⟨f', g', hmoved, -, -, hout, hlow⟩ := packInstances_moved ht hfit hmap
    have hge : ∀ x ∈ t.ids, 100 ≤ (f x).toNat := by
      intro x hx
      have hmem := h.consecutive.mem_iff.mp (mem_map_of_mem (f := fun x => (f x).toNat) hx)
      exact (mem_range'_1.mp hmem).1
    have hrespawn : ∀ x, Follows f t.ids x (g' x) → x ∈ t.ids → RESERVED_INSTANCES_LAST ≤ x := by
      intro x hf hx
      by_contra hlt
      have hlt' := UInt32.lt_iff_toNat_lt.mp (UInt32.not_le.mp hlt)
      have heq := hf.named hx
      rw [hlow x (UInt32.not_le.mp hlt)] at heq
      have h100 := hge x hx
      rw [← heq] at h100
      exact absurd hlt' (Nat.not_lt.mpr h100)
    have hcorpse := h.corpse
    have hcreature := h.creature
    have hgameobject := h.gameobject
    rw [hmoved.corpse, forall₂_map] at hcorpse
    rw [hmoved.creature, forall₂_map] at hcreature
    rw [hmoved.gameobject, forall₂_map] at hgameobject
    refine ⟨hmap, fun r hr hlt => ?_, fun r hr => hrespawn _ (hcreature r hr).2, fun r hr => hrespawn _ (hgameobject r hr).2⟩
    by_contra hnot
    have hstay := (hcorpse r hr).2.unnamed hnot hlt
    have hgone := hout r.instanceId (hfit.corpse r hr) hnot
    have heq := congrArg toNat (hgone.symm.trans hstay)
    rw [shift_toNat (hfit.corpse r hr)] at heq
    have hpos : RESERVED_INSTANCES_LAST.toNat = 100 := rfl
    omega
  · intro h
    obtain ⟨f', g', hmoved, hf, hg, -, hlow⟩ := packInstances_moved ht hfit h.map
    have hrespawn : ∀ x, (RESERVED_INSTANCES_LAST ≤ x → x ∈ t.ids) → (x ∈ t.ids → RESERVED_INSTANCES_LAST ≤ x) →
        Follows t.toInstanceTables.packed t.ids x (g' x) := by
      intro x hin hle
      exact ⟨fun hx => hg x hx (hle hx), fun _ hlt => hlow x hlt⟩
    refine ⟨t.toInstanceTables.packed, hmoved.toRenamed.congr ht.toAnchored hf,
      fun x hx y hy hxy => packed_lt_packed hfit.instances hx hy hxy,
      packed_consecutive hfit.instances, ?_, ?_, ?_⟩
    · rw [hmoved.creature, forall₂_map]
      exact fun r hr => ⟨rfl, hrespawn _ (ht.creature r hr) (h.creature r hr)⟩
    · rw [hmoved.gameobject, forall₂_map]
      exact fun r hr => ⟨rfl, hrespawn _ (ht.gameobject r hr) (h.gameobject r hr)⟩
    · rw [hmoved.corpse, forall₂_map]
      exact fun r hr => ⟨rfl, fun hx => hf _ hx, fun hx hlt => absurd (h.corpse r hr hlt) hx⟩

end SavedTables

namespace PackedSample

def saved (corpse : CorpseRow) : SavedTables where
  instances := ⟨[⟨105, 409⟩], by decide⟩
  characterInstance := ⟨[⟨1, 105, true⟩], by decide⟩
  groupInstance := Rows.empty
  creatureRespawn := ⟨[⟨50, 105⟩], by decide⟩
  gameobjectRespawn := Rows.empty
  corpse := ⟨[corpse], by simp⟩

def cleaned (corpse : CorpseRow) : SavedTables :=
  (saved corpse).cleanupInstances (· = 409) ((∅ : Table UInt32 UInt32).insert 1 1) ⟨[], []⟩

/-- A corpse in the instance goes with it. -/
theorem inside_packed : ∃ f, SavedTables.PackedBy f (cleaned ⟨7, 105⟩) (cleaned ⟨7, 105⟩).packInstances :=
  (SavedTables.packInstances_iff (saved ⟨7, 105⟩) (· = 409) ((∅ : Table UInt32 UInt32).insert 1 1) ⟨[], []⟩
    ⟨all_eq_true.1 (by decide +kernel), by decide +kernel, by decide +kernel, by decide +kernel⟩).mpr
    ⟨by decide +kernel, by decide +kernel, by decide +kernel, by decide +kernel⟩

/-- A corpse in no instance ends up in the one that packing makes the first. -/
theorem outside_not_packed : ¬ ∃ f, SavedTables.PackedBy f (cleaned ⟨7, 0⟩) (cleaned ⟨7, 0⟩).packInstances := by
  rintro ⟨f, h⟩
  have hcorpse := h.corpse
  have hold : (cleaned ⟨7, 0⟩).corpse.rows = [⟨7, 0⟩] := rfl
  have hnew : (cleaned ⟨7, 0⟩).packInstances.corpse.rows = [⟨7, 100⟩] := by decide +kernel
  rw [hold, hnew, forall₂_cons] at hcorpse
  have hnot : (0 : UInt32) ∉ (cleaned ⟨7, 0⟩).ids := by decide +kernel
  exact absurd (hcorpse.1.2.unnamed hnot (by decide)) (by decide)

end PackedSample
end ComfyCraft
