import ComfyCraft.Housing.Instances

/-! Packing gives every instance the number of its place among the instances there are, and every bind
goes with its instance, where no bind is without one. -/

namespace ComfyCraft

open List UInt32 Transaction Nat

namespace InstanceTables

def ids (t : InstanceTables) : List UInt32 := t.instances.rows.map InstanceRow.id

/-- Every bind names an instance that has a row. -/
structure Anchored (t : InstanceTables) : Prop where
  character : ∀ b ∈ t.characterInstance.rows, b.instanceId ∈ t.ids
  group : ∀ b ∈ t.groupInstance.rows, b.instanceId ∈ t.ids

/-- The cleanup leaves no bind without its instance. -/
theorem anchored_cleanupInstances (t : InstanceTables) (isDungeon : UInt32 → Bool) (characters : Table UInt32 UInt32)
    (e : Restart) : (t.cleanupInstances isDungeon characters e).Anchored := by
  have hkeep : ∀ (l : InstanceTables) (id : UInt32), (l.instances.lookup id).isNone = false →
      ((∃ b ∈ l.characterInstance.rows, b.instanceId = id) ∨ ∃ b ∈ l.groupInstance.rows, b.instanceId = id) →
      id ∈ (l.instances.deleteWhere fun r => !(l.characterInstance.rows.any fun b => b.instanceId = r.id) &&
        !(l.groupInstance.rows.any fun b => b.instanceId = r.id)).rows.map InstanceRow.id := by
    intro l id hsome hbind
    cases hlook : l.instances.lookup id with
    | none => rw [hlook] at hsome; cases hsome
    | some r =>
      obtain ⟨hmem, hid⟩ := Rows.lookup_eq_some.1 hlook
      rw [← hid]
      apply mem_map_of_mem
      rw [Rows.rows_deleteWhere, mem_filter]
      refine ⟨hmem, ?_⟩
      rw [hid]
      rcases hbind with ⟨b, hb, hbid⟩ | ⟨b, hb, hbid⟩
      · have hany : (l.characterInstance.rows.any fun b => decide (b.instanceId = id)) = true :=
          any_eq_true.2 ⟨b, hb, decide_eq_true hbid⟩
        rw [hany]
        rfl
      · have hany : (l.groupInstance.rows.any fun b => decide (b.instanceId = id)) = true :=
          any_eq_true.2 ⟨b, hb, decide_eq_true hbid⟩
        rw [hany, Bool.not_true, Bool.and_false]
        rfl
  refine ⟨fun b hb => ?_, fun b hb => ?_⟩
  · obtain ⟨hmem, htest⟩ := mem_filter.1 hb
    rw [Bool.not_or, Bool.and_eq_true, Bool.not_eq_true'] at htest
    exact hkeep _ _ (Bool.not_eq_true' _ ▸ htest.2) (.inl ⟨b, hmem, rfl⟩)
  · obtain ⟨hmem, htest⟩ := mem_filter.1 hb
    rw [Bool.not_or, Bool.and_eq_true] at htest
    exact hkeep _ _ (Bool.not_eq_true' _ ▸ htest.2) (.inr ⟨b, hmem, rfl⟩)

/-- The tables with another name for each instance. -/
structure Renamed (f : UInt32 → UInt32) (t t' : InstanceTables) : Prop where
  instances : t'.instances.rows = t.instances.rows.map fun r => { r with id := f r.id }
  character : t'.characterInstance.rows = t.characterInstance.rows.map fun b => { b with instanceId := f b.instanceId }
  group : t'.groupInstance.rows = t.groupInstance.rows.map fun b => { b with instanceId := f b.instanceId }

variable {f g : UInt32 → UInt32} {t t' t'' : InstanceTables}

theorem Renamed.refl (t : InstanceTables) : Renamed id t t :=
  ⟨(map_id _).symm, (map_id _).symm, (map_id _).symm⟩

theorem Renamed.trans (h : Renamed f t t') (h' : Renamed g t' t'') : Renamed (g ∘ f) t t'' where
  instances := by rw [h'.instances, h.instances, map_map]; rfl
  character := by rw [h'.character, h.character, map_map]; rfl
  group := by rw [h'.group, h.group, map_map]; rfl

theorem Renamed.congr (ht : t.Anchored) (h : Renamed f t t') (hfg : ∀ x ∈ t.ids, f x = g x) : Renamed g t t' where
  instances := by
    rw [h.instances]
    apply map_congr_left
    intro r hr
    rw [hfg r.id (mem_map_of_mem hr)]
  character := by
    rw [h.character]
    apply map_congr_left
    intro b hb
    rw [hfg b.instanceId (ht.character b hb)]
  group := by
    rw [h.group]
    apply map_congr_left
    intro b hb
    rw [hfg b.instanceId (ht.group b hb)]

theorem Renamed.ids (h : Renamed f t t') : t'.ids = t.ids.map f := by
  unfold InstanceTables.ids
  rw [h.instances, map_map, map_map]
  rfl

theorem Renamed.anchored (h : Renamed f t t') (ht : t.Anchored) : t'.Anchored where
  character := by
    intro b hb
    rw [h.character] at hb
    obtain ⟨old, hold, rfl⟩ := mem_map.1 hb
    rw [h.ids]
    exact mem_map_of_mem (ht.character old hold)
  group := by
    intro b hb
    rw [h.group] at hb
    obtain ⟨old, hold, rfl⟩ := mem_map.1 hb
    rw [h.ids]
    exact mem_map_of_mem (ht.group old hold)

/-- A transaction that keeps different instances apart succeeds. -/
theorem rename_renamed (ht : t.Anchored) {p : UInt32 → Bool}
    (hinj : ∀ x ∈ t.ids, ∀ y ∈ t.ids, (if p x then f x else x) = (if p y then f y else y) → x = y) :
    Renamed (fun x => if p x then f x else x) t (t.rename p f) := by
  obtain ⟨rows₁, h₁, hrows₁⟩ := t.characterInstance.updateWhere_of_injOn (p := fun b => p b.instanceId)
    (f := fun b => { b with instanceId := f b.instanceId }) (g := fun k => (k.1, if p k.2 then f k.2 else k.2))
    (fun b _ => by dsimp only; split_ifs <;> rfl)
    (fun b hb b' hb' heq => by
      obtain ⟨hguid, hid⟩ := Prod.mk.inj heq
      exact Prod.ext hguid (hinj _ (ht.character b hb) _ (ht.character b' hb') hid))
  obtain ⟨rows₂, h₂, hrows₂⟩ := t.instances.updateWhere_of_injOn (p := fun r => p r.id)
    (f := fun r => { r with id := f r.id }) (g := fun k => if p k then f k else k)
    (fun r _ => by split_ifs <;> rfl)
    (fun r hr r' hr' heq => hinj _ (mem_map_of_mem hr) _ (mem_map_of_mem hr') heq)
  obtain ⟨rows₃, h₃, hrows₃⟩ := t.groupInstance.updateWhere_of_injOn (p := fun b => p b.instanceId)
    (f := fun b => { b with instanceId := f b.instanceId }) (g := fun k => (k.1, if p k.2 then f k.2 else k.2))
    (fun b _ => by dsimp only; split_ifs <;> rfl)
    (fun b hb b' hb' heq => by
      obtain ⟨hguid, hid⟩ := Prod.mk.inj heq
      exact Prod.ext hguid (hinj _ (ht.group b hb) _ (ht.group b' hb') hid))
  have hall : t.rename p f = ⟨rows₂, rows₁, rows₃⟩ := by
    unfold rename commit
    simp only [execute, h₁, h₂, h₃, Option.map_some, Option.bind_some, Option.getD_some]
  rw [hall]
  refine ⟨hrows₂.trans (map_congr_left fun r _ => ?_), hrows₁.trans (map_congr_left fun b _ => ?_),
    hrows₃.trans (map_congr_left fun b _ => ?_)⟩
  · split_ifs <;> rfl
  · split_ifs <;> rfl
  · split_ifs <;> rfl

/-! The numbers. -/

/-- The number an id gets when the ids of a list get the numbers from `n` on. -/
def numbered : Nat → List UInt32 → UInt32 → UInt32
  | _, [], x => x
  | n, i :: ids, x => if x = i then UInt32.ofNat n else numbered (n + 1) ids x

variable {l ids : List UInt32} {x y : UInt32} {n : Nat}

theorem numbered_of_notMem (n : Nat) (hx : x ∉ l) : numbered n l x = x := by
  induction l generalizing n with
  | nil => rfl
  | cons i l ih =>
    rw [mem_cons, not_or] at hx
    unfold numbered
    rw [if_neg hx.1, ih (n + 1) hx.2]

theorem numbered_eq (hl : l.Pairwise (· < ·)) (hx : x ∈ l) : numbered n l x = UInt32.ofNat (n + (l.filter (· < x)).length) := by
  induction l generalizing n with
  | nil => cases hx
  | cons i l ih =>
    rw [pairwise_cons] at hl
    unfold numbered
    split_ifs with hxi
    · -- nothing comes before the least
      have hnone : (i :: l).filter (· < x) = [] := by
        apply filter_eq_nil_iff.2
        intro y hy
        have hle : x ≤ y := by
          rcases mem_cons.1 hy with rfl | hy
          · exact hxi ▸ UInt32.le_refl _
          · exact hxi ▸ UInt32.le_of_lt (hl.1 y hy)
        simpa using hle
      rw [hnone]
      rfl
    · have hmem : x ∈ l := (mem_cons.1 hx).resolve_left hxi
      have hcons : (i :: l).filter (· < x) = i :: l.filter (· < x) := by
        simp [hl.1 x hmem]
      rw [ih hl.2 hmem, hcons, length_cons]
      congr 1
      omega

theorem toNat_ofNat_of_le {i : UInt32} (h : n ≤ i.toNat) : (UInt32.ofNat n).toNat = n :=
  toNat_ofNat_of_lt (lt_of_le_of_lt h i.toNat_lt)

/-- The loop of `PackInstances`, over any tables. Every id that is named either has its number, below `n`, or is still to be
named. -/
theorem renumber_relates {S : Type} (named : S → UInt32 → Prop) (loop : UInt32 → List UInt32 → S → S)
    (write : S → UInt32 → UInt32 → S)
    {I : S → Prop} {R : (UInt32 → UInt32) → S → S → Prop} (hnil : ∀ n s, loop n [] s = s)
    (hcons : ∀ n i ids s, loop n (i :: ids) s = loop (n + 1) ids (if i ≠ n then write s i n else s)) (hrefl : ∀ s, R id s s)
    (htrans : ∀ {f g s s' s''}, R f s s' → R g s' s'' → R (g ∘ f) s s'') (hkeeps : ∀ {f s s'}, R f s s' → I s → I s')
    (hnamed : ∀ {f s s' y}, R f s s' → named s' y → ∃ x, named s x ∧ f x = y)
    (hwrite : ∀ {s i n}, I s → (∀ x, named s x → x ≠ i → x ≠ n) → R (fun x => if x = i then n else x) s (write s i n)) (hids : ids.Pairwise (· < ·)) (hn : ∀ i ∈ ids, n ≤ i.toNat) {s : S} (hs : I s)
    (hcover : ∀ x, named s x → x.toNat < n ∨ x ∈ ids) : R (numbered n ids) s (loop (UInt32.ofNat n) ids s) := by
  induction ids generalizing n s with
  | nil =>
    rw [hnil]
    exact hrefl s
  | cons i ids ih =>
    rw [pairwise_cons] at hids
    have hni := hn i mem_cons_self
    have hnn := toNat_ofNat_of_le hni
    have hsucc : ofNat n + 1 = ofNat (n + 1) := by rw [ofNat_add]; rfl
    have hnext : ∀ j ∈ ids, n + 1 ≤ j.toNat := by
      intro j hj
      have h := lt_iff_toNat_lt.1 (hids.1 j hj)
      omega
    -- one round of the loop, whether or not it has to write
    have hone : R (fun x => if x = i then ofNat n else x) s (if i ≠ ofNat n then write s i (ofNat n) else s) := by
      split_ifs with hi
      · refine hwrite hs ?_
        rintro x hx hxi rfl
        rcases hcover _ hx with hlt | hmem
        · omega
        · have h := hnext _ ((mem_cons.1 hmem).resolve_left hxi)
          omega
      · have hid : (fun x => if x = i then ofNat n else x) = id := by
          funext x
          split_ifs with hx
          · exact (hx.trans (not_not.1 hi)).symm
          · rfl
        rw [hid]
        exact hrefl s
    have hcover' : ∀ y, named (if i ≠ ofNat n then write s i (ofNat n) else s) y → y.toNat < n + 1 ∨ y ∈ ids := by
      intro y hy
      obtain ⟨x, hx, rfl⟩ := hnamed hone hy
      split_ifs with hxi
      · left
        omega
      · rcases hcover x hx with hlt | hmem
        · exact .inl (by omega)
        · exact .inr ((mem_cons.1 hmem).resolve_left hxi)
    have hnumbered : numbered (n + 1) ids ∘ (fun x => if x = i then ofNat n else x) = numbered n (i :: ids) := by
      funext x
      simp only [Function.comp_apply, numbered]
      split_ifs with hxi
      · -- the new number is below all that are still to be named
        refine numbered_of_notMem (n + 1) fun hmem => ?_
        have h := hnext _ hmem
        omega
      · rfl
    rw [hcons, hsucc, ← hnumbered]
    exact htrans hone (ih hids.2 hnext (hkeeps hone hs) hcover')

theorem renumber_renamed (hids : ids.Pairwise (· < ·)) (hn : ∀ i ∈ ids, n ≤ i.toNat)
    (ht : t.Anchored) (hcover : ∀ x ∈ t.ids, x.toNat < n ∨ x ∈ ids) :
    Renamed (numbered n ids) t (renumber (UInt32.ofNat n) ids t) := by
  refine renumber_relates (fun t x => x ∈ t.ids) renumber (fun t i n => t.rename (· = i) fun _ => n) (fun _ _ => rfl)
    (fun _ _ _ _ => rfl) Renamed.refl Renamed.trans Renamed.anchored (fun h hy => mem_map.1 (h.ids ▸ hy)) ?_ hids hn ht hcover
  intro t i n ht hfree
  have h := rename_renamed (p := fun x => decide (x = i)) (f := fun _ => n) ht (by
    intro x hx y hy heq
    simp only [decide_eq_true_eq] at heq
    split_ifs at heq with hxi hyi hyi
    · exact hxi.trans hyi.symm
    · exact absurd heq.symm (hfree y hy hyi)
    · exact absurd heq (hfree x hx hxi)
    · exact heq)
  simpa only [decide_eq_true_eq] using h

/-- The number of an instance after packing: the count of the instances below it, from the reserved ids on. -/
def packed (t : InstanceTables) (id : UInt32) : UInt32 :=
  UInt32.ofNat (RESERVED_INSTANCES_LAST.toNat + (t.ids.filter (· < id)).length)

/-- What the cleanup leaves: every bind with its instance, and every instance on a map of its own kind. -/
structure Packable (t : InstanceTables) : Prop extends Anchored t where
  map : ∀ r ∈ t.instances.rows, 1 < r.map
  room : ∀ id ∈ t.ids, shiftable id = true

theorem instanceSet_pairwise (t : InstanceTables) : t.instanceSet.Pairwise (· < ·) := by
  have hle : t.instanceSet.Pairwise (· ≤ ·) := pairwise_insertionSort _ _
  have hne : t.instanceSet.Pairwise (· ≠ ·) := (perm_insertionSort _ _).nodup_iff.2 t.instances.unique
  exact (hle.and hne).imp fun h => UInt32.lt_of_le_of_ne h.1 h.2

theorem mem_instanceSet {t : InstanceTables} : x ∈ t.instanceSet ↔ x ∈ t.ids := mem_insertionSort _

theorem shift_toNat (h : shiftable x = true) :
    (x + RESERVED_INSTANCES_LAST).toNat = x.toNat + RESERVED_INSTANCES_LAST.toNat := by
  rw [UInt32.toNat_add]
  exact mod_eq_of_lt (of_decide_eq_true h)

theorem Packable.shift_renamed (h : t.Packable) : Renamed (· + RESERVED_INSTANCES_LAST) t t.shift := by
  have hren := rename_renamed (p := fun _ => true) (f := (· + RESERVED_INSTANCES_LAST)) h.toAnchored
    (fun x _ y _ heq => (add_left_inj _).1 heq)
  have hmaps : ∀ r ∈ (t.rename (fun _ => true) (· + RESERVED_INSTANCES_LAST)).instances.rows, (!decide (r.map ≤ 1)) = true := by
    intro r hr
    rw [hren.instances] at hr
    obtain ⟨old, hold, rfl⟩ := mem_map.1 hr
    simpa using h.map old hold
  unfold shift
  rw [if_pos]
  · exact { hren with instances := (filter_eq_self.2 hmaps).trans hren.instances }
  simp only [Bool.and_eq_true, all_eq_true]
  exact ⟨⟨fun r hr => h.room _ (mem_map_of_mem hr), fun b hb => h.room _ (h.character b hb)⟩,
    fun b hb => h.room _ (h.group b hb)⟩

theorem numbered_eq_packed (hshift : Renamed (· + RESERVED_INSTANCES_LAST) t t')
    (hroom : ∀ id ∈ t.ids, shiftable id = true) (hx : x ∈ t.ids) :
    numbered RESERVED_INSTANCES_LAST.toNat t'.instanceSet (x + RESERVED_INSTANCES_LAST) = t.packed x := by
  have hmem : x + RESERVED_INSTANCES_LAST ∈ t'.instanceSet := by
    rw [mem_instanceSet, hshift.ids]
    exact mem_map_of_mem hx
  rw [numbered_eq t'.instanceSet_pairwise hmem]
  unfold packed
  congr 2
  -- as many are below it after the shift as before
  have hperm : t'.instanceSet.Perm (t.ids.map (· + RESERVED_INSTANCES_LAST)) := by
    rw [← hshift.ids]
    exact perm_insertionSort _ _
  rw [(hperm.filter _).length_eq, filter_map, length_map]
  congr 1
  apply filter_congr
  intro y hy
  simp only [Function.comp_apply, decide_eq_decide, lt_iff_toNat_lt, shift_toNat (hroom y hy), shift_toNat (hroom x hx)]
  omega

theorem Packable.packInstances_renamed (h : t.Packable) : Renamed t.packed t t.packInstances := by
  have hshift := h.shift_renamed
  have hids : ∀ x ∈ t.shift.ids, RESERVED_INSTANCES_LAST.toNat ≤ x.toNat := by
    intro x hx
    rw [hshift.ids] at hx
    obtain ⟨y, hy, rfl⟩ := mem_map.1 hx
    rw [shift_toNat (h.room y hy)]
    exact le_add_left _ _
  have hren := renumber_renamed t.shift.instanceSet_pairwise (fun i hi => hids i (mem_instanceSet.1 hi)) (hshift.anchored h.toAnchored)
    (fun x hx => .inr (mem_instanceSet.2 hx))
  apply (hshift.trans hren).congr h.toAnchored
  intro x hx
  exact numbered_eq_packed hshift h.room hx

theorem Packable.packed_inj (h : t.Packable) (hx : x ∈ t.ids) (hy : y ∈ t.ids) (heq : t.packed x = t.packed y) : x = y := by
  have hnd : t.packInstances.ids.Nodup := t.packInstances.instances.unique
  rw [h.packInstances_renamed.ids] at hnd
  exact inj_on_of_nodup_map hnd hx hy heq

/-! The numbers in order. -/

def rank (t : InstanceTables) (x : UInt32) : Nat := (t.ids.filter (· < x)).length

theorem rank_lt_rank (hx : x ∈ t.ids) (hxy : x < y) : t.rank x < t.rank y := by
  have hsub : t.ids.filter (· < x) ⊆ t.ids.filter (fun z => z < y ∧ z ≠ x) := by
    intro z hz
    simp only [mem_filter, decide_eq_true_eq] at hz ⊢
    refine ⟨hz.1, UInt32.lt_trans hz.2 hxy, ?_⟩
    rintro rfl
    exact UInt32.lt_irrefl z hz.2
  have hnd : (t.ids.filter (· < x)).Nodup := t.instances.unique.filter _
  have hle := (subperm_of_subset hnd hsub).length_le
  have hcons : (x :: t.ids.filter (fun z => z < y ∧ z ≠ x)).Nodup := by
    refine nodup_cons.mpr ⟨fun h => ?_, t.instances.unique.filter _⟩
    simp at h
  have hsub' : x :: t.ids.filter (fun z => z < y ∧ z ≠ x) ⊆ t.ids.filter (· < y) := by
    intro z hz
    rcases mem_cons.mp hz with rfl | hz
    · simpa using ⟨hx, hxy⟩
    · simp only [mem_filter, decide_eq_true_eq] at hz ⊢
      exact ⟨hz.1, hz.2.1⟩
  have hle' := (subperm_of_subset hcons hsub').length_le
  rw [length_cons] at hle'
  exact lt_of_lt_of_le (lt_succ_of_le hle) hle'

theorem rank_le_toNat (t : InstanceTables) (x : UInt32) : t.rank x ≤ x.toNat := by
  have hnd : ((t.ids.filter (· < x)).map toNat).Nodup :=
    (t.instances.unique.filter _).map fun _ _ h => UInt32.toNat_inj.mp h
  have hsub : (t.ids.filter (· < x)).map toNat ⊆ range x.toNat := by
    intro k hk
    obtain ⟨z, hz, rfl⟩ := mem_map.mp hk
    rw [mem_filter, decide_eq_true_eq] at hz
    exact mem_range.mpr (lt_iff_toNat_lt.mp hz.2)
  have hle := (subperm_of_subset hnd hsub).length_le
  rwa [length_map, length_range] at hle

theorem packed_toNat (h : shiftable x = true) : (t.packed x).toNat = RESERVED_INSTANCES_LAST.toNat + t.rank x := by
  have hfit : x.toNat + RESERVED_INSTANCES_LAST.toNat < 2 ^ 32 := of_decide_eq_true h
  have hle := t.rank_le_toNat x
  apply toNat_ofNat_of_lt
  change _ + t.rank x < 2 ^ 32
  omega

theorem packed_lt_packed (hroom : ∀ id ∈ t.ids, shiftable id = true) (hx : x ∈ t.ids) (hy : y ∈ t.ids)
    (hxy : x < y) : t.packed x < t.packed y := by
  rw [lt_iff_toNat_lt, packed_toNat (hroom x hx), packed_toNat (hroom y hy)]
  exact Nat.add_lt_add_left (rank_lt_rank hx hxy) _

/-- The numbers follow one another from the first unreserved one. -/
theorem packed_consecutive (hroom : ∀ id ∈ t.ids, shiftable id = true) :
    (t.ids.map fun x => (t.packed x).toNat).Perm (List.range' RESERVED_INSTANCES_LAST.toNat t.ids.length) := by
  have hnd : (t.ids.map fun x => (t.packed x).toNat).Nodup := by
    refine t.instances.unique.map_on fun x hx y hy heq => ?_
    by_contra hne
    rcases UInt32.lt_or_lt_of_ne hne with hlt | hlt
    · exact absurd heq (Nat.ne_of_lt (lt_iff_toNat_lt.mp (packed_lt_packed hroom hx hy hlt)))
    · exact absurd heq.symm (Nat.ne_of_lt (lt_iff_toNat_lt.mp (packed_lt_packed hroom hy hx hlt)))
  have hsub : (t.ids.map fun x => (t.packed x).toNat) ⊆ range' RESERVED_INSTANCES_LAST.toNat t.ids.length := by
    intro k hk
    obtain ⟨x, hx, rfl⟩ := mem_map.mp hk
    have hlt : t.rank x < t.ids.length := by
      refine lt_of_le_of_ne (length_filter_le _ _) fun h => ?_
      have hall := length_filter_eq_length_iff.mp h x hx
      exact UInt32.lt_irrefl x (of_decide_eq_true hall)
    rw [mem_range'_1, packed_toNat (hroom x hx)]
    omega
  refine (subperm_of_subset hnd hsub).perm_of_length_le ?_
  rw [length_range', length_map]

end InstanceTables

end ComfyCraft
