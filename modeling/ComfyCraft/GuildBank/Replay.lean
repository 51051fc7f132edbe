import ComfyCraft.GuildBank.Genuine

/-! What the queued statements will make of a bank's rows. As long as every statement goes through and
touches no row of another bank, the table they lead to follows the items in memory edit by edit;
what "follows" means is left to a relation between the items' rows and the table's. -/

namespace ComfyCraft

open List UInt32 Bool Rows BankItem Transaction Seq

variable {om : ObjectMgr}

def ownRow (guildid : UInt32) (inferno : Bool) (r : BankRow) : Bool := r.guildid = guildid && r.isInferno = inferno

theorem ownRow_iff {guildid : UInt32} {inferno : Bool} {r : BankRow} :
    ownRow guildid inferno r = true ↔ r.guildid = guildid ∧ r.isInferno = inferno := by
  unfold ownRow
  rw [and_eq_true, decide_eq_true_eq, decide_eq_true_eq]

namespace BankItem

def own (it : BankItem om) : BankRow → Bool := ownRow it.guildid it.isInferno

/-- What the statement of a queue entry makes of the rows of its own bank. -/
def replay (it : BankItem om) (l : List BankRow) : List BankRow :=
  match it.state with
  | .new => l ++ [it.row]
  | .changed => l.map fun r => if r.guid = it.guid then it.row else r
  | .removed => l.filter fun r => r.guid ≠ it.guid
  | .unchanged => l

/-- The statement goes through, and touches no row of another bank. -/
def Clear (it : BankItem om) (t : BankTable) : Prop :=
  match it.state with
  | .new => it.guid.toNat < 2 ^ 31 ∧ ∀ r ∈ t.part it.own, r.guid ≠ it.guid
  | .changed => ∀ r ∈ t.rest it.own, ¬ (r.guildid = it.guildid ∧ r.guid = it.guid)
  | .removed => True
  | .unchanged => True

theorem own_row (it : BankItem om) : it.own it.row = true := ownRow_iff.2 ⟨rfl, rfl⟩

variable {it : BankItem om} {t : BankTable}

theorem own_of_clear {r : BankRow} (hr : r ∈ t.rows)
    (hclear : ∀ r ∈ t.rest it.own, ¬ (r.guildid = it.guildid ∧ r.guid = it.guid))
    (hp : (r.guildid = it.guildid && r.guid = it.guid) = true) : it.own r = true := by
  by_contra ho
  rw [and_eq_true, decide_eq_true_eq, decide_eq_true_eq] at hp
  exact hclear r (mem_rest.2 ⟨hr, by simpa using ho⟩) hp

theorem stmt_clear (h : it.Clear t) :
    ∃ t', it.stmt t = some t' ∧ t'.part it.own = it.replay (t.part it.own) ∧ t'.rest it.own = t.rest it.own := by
  unfold Clear at h
  unfold stmt replay
  cases hstate : it.state with
  | unchanged => exact ⟨t, rfl, rfl, rfl⟩
  | new =>
    rw [hstate] at h
    obtain ⟨hguid, hfresh⟩ := h
    obtain ⟨t', ht', -⟩ := insert_isSome (t := t) (r := it.row) fun x hx hkey => by
      have hown : it.own x = true :=
        ownRow_iff.2 ⟨congrArg Prod.fst hkey, congrArg (fun k => k.2.2) hkey⟩
      exact hfresh x (mem_part.2 ⟨hx, hown⟩) (congrArg (fun k => k.2.1) hkey)
    refine ⟨t', ?_, part_insert ht' it.own_row⟩
    simp only
    unfold addToDB
    rw [if_pos hguid]
    exact ht'
  | changed =>
    rw [hstate] at h
    have hown : ∀ r ∈ t.rows, (r.guildid = it.guildid && r.guid = it.guid) = true → it.own r = true :=
      fun r hr hp => own_of_clear hr h hp
    obtain ⟨t', ht', -⟩ := updateWhere_isSome (t := t) (p := fun r => r.guildid = it.guildid && r.guid = it.guid)
      (f := fun _ => it.row) fun r hr hp => by
        obtain ⟨h1, h2⟩ := ownRow_iff.1 (hown r hr hp)
        rw [and_eq_true, decide_eq_true_eq, decide_eq_true_eq] at hp
        unfold BankRow.key
        rw [h1, h2, hp.2]
        rfl
    obtain ⟨hpart, hrest⟩ := part_updateWhere ht' fun r hr hp => ⟨hown r hr hp, it.own_row⟩
    refine ⟨t', ht', hpart.trans (map_congr_left fun r hr => ?_), hrest⟩
    have hg := (ownRow_iff.1 (mem_part.1 hr).2).1
    simp [hg]
  | removed =>
    obtain ⟨hpart, hrest⟩ := part_deleteWhere it.own (t := t)
      (p := fun r => r.guildid = it.guildid && r.guid = it.guid && r.isInferno = it.isInferno) fun r _ hp => by
        rw [and_eq_true, and_eq_true, decide_eq_true_eq, decide_eq_true_eq, decide_eq_true_eq] at hp
        exact ownRow_iff.2 ⟨hp.1.1, hp.2⟩
    refine ⟨_, rfl, hpart.trans (filter_congr fun r hr => ?_), hrest⟩
    obtain ⟨hg, hk⟩ := ownRow_iff.1 (mem_part.1 hr).2
    simp [hg, hk]

end BankItem

/-! The guid a new item gets. -/

theorem foldl_guid (items : List (BankItem om)) (g : UInt32) :
    (∀ it ∈ items, it.guid.toNat ≤ (items.foldl (fun guid it => if guid < it.guid then it.guid else guid) g).toNat) ∧
      g.toNat ≤ (items.foldl (fun guid it => if guid < it.guid then it.guid else guid) g).toNat ∧
      (items.foldl (fun guid it => if guid < it.guid then it.guid else guid) g = g ∨
        ∃ it ∈ items, items.foldl (fun guid it => if guid < it.guid then it.guid else guid) g = it.guid) := by
  induction items generalizing g with
  | nil => exact ⟨fun _ hit => absurd hit not_mem_nil, le_rfl, .inl rfl⟩
  | cons x items ih =>
    obtain ⟨h1, h2, h3⟩ := ih (if g < x.guid then x.guid else g)
    have hx : x.guid.toNat ≤ (if g < x.guid then x.guid else g).toNat ∧ g.toNat ≤ (if g < x.guid then x.guid else g).toNat := by
      split_ifs with hlt
      · exact ⟨le_rfl, (lt_iff_toNat_lt.1 hlt).le⟩
      · exact ⟨UInt32.le_iff_toNat_le.1 (UInt32.not_lt.1 hlt), le_rfl⟩
    rw [foldl_cons]
    refine ⟨fun it hit => ?_, hx.2.trans h2, ?_⟩
    · rcases mem_cons.1 hit with rfl | hit
      · exact hx.1.trans h2
      · exact h1 it hit
    · rcases h3 with h3 | ⟨it, hit, h3⟩
      · by_cases hlt : g < x.guid
        · exact .inr ⟨x, mem_cons_self, by rw [h3, if_pos hlt]⟩
        · exact .inl (by rw [h3, if_neg hlt])
      · exact .inr ⟨it, mem_cons_of_mem _ hit, h3⟩

/-- While no guid has come near the end of its range, the next one is above them all. -/
theorem nextGuid_above {items : List (BankItem om)} (h : ∀ it ∈ items, it.guid.toNat + 1 < 2 ^ 31) :
    (∀ it ∈ items, it.guid.toNat < (nextGuid items).toNat) ∧ (nextGuid items).toNat < 2 ^ 31 := by
  obtain ⟨h1, -, h3⟩ := foldl_guid items 0
  unfold nextGuid
  generalize items.foldl (fun guid it => if guid < it.guid then it.guid else guid) 0 = m at h1 h3
  have hm : m.toNat + 1 < 2 ^ 31 := by
    rcases h3 with rfl | ⟨it, hit, rfl⟩
    · decide
    · exact h it hit
  have hnext : (m + 1).toNat = m.toNat + 1 := by
    have h1 : (1 : UInt32).toNat = 1 := rfl
    rw [UInt32.toNat_add, h1]
    omega
  rw [hnext]
  exact ⟨fun it hit => Nat.lt_succ_of_le (h1 it hit), hm⟩

/-- Where the queued statements lead, if they all go through: to a table whose other rows are the same. -/
structure Pending (own : BankRow → Bool) (rows : BankTable) (queue : List (BankItem om)) (t : BankTable) : Prop where
  execute : Transaction.execute (queue.map BankItem.stmt) rows = some t
  rest : t.rest own = rows.rest own

variable {queue : List (BankItem om)} {rows t : BankTable}

theorem Pending.push {own : BankRow → Bool} {it : BankItem om}
    (h : Pending own rows queue t) (hown : it.own = own) (hc : it.Clear t) :
    ∃ t', Pending own rows (queue ++ [it]) t' ∧ t'.part own = it.replay (t.part own) := by
  obtain ⟨t', hstmt, hpart, hrest⟩ := stmt_clear hc
  rw [hown] at hpart hrest
  refine ⟨t', ⟨?_, hrest.trans h.rest⟩, hpart⟩
  rw [map_append, execute_append, h.execute]
  change (it.stmt t).bind some = _
  rw [hstmt]
  rfl

theorem Pending.commit {own : BankRow → Bool} (h : Pending own rows queue t) :
    Transaction.commit rows (queue.map BankItem.stmt) = t := by
  unfold Transaction.commit
  rw [h.execute]
  rfl

namespace BankStore

def own (s : BankStore om) : BankRow → Bool := ownRow s.guildid s.inferno

variable {it old : BankItem om} {t : BankTable} {i : Nat}

theorem Owns.own_eq {s : BankStore om} (h : s.Owns it) : it.own = s.own := by
  unfold BankItem.own own
  rw [h.guildid, h.inferno]

theorem own_edit (s : BankStore om) (e : Edit om) : (s.edit e).own = s.own := by
  unfold own
  rw [guildid_edit, inferno_edit]

/-- No row of another bank carries the guid. -/
def GuidClear (s : BankStore om) (guid : UInt32) : Prop :=
  ∀ r ∈ s.rows.rest s.own, ¬ (r.guildid = s.guildid ∧ r.guid = guid)

/-- The statement that the edit queues will go through and touch no row of another bank. -/
def Written (s : BankStore om) : Edit om → Prop
  | .add _ => ∀ x ∈ s.items, x.guid.toNat + 1 < 2 ^ 31
  | .change _ it => s.GuidClear it.guid
  | .exchange _ it _ jt => s.GuidClear it.guid ∧ s.GuidClear jt.guid
  | _ => True

/-- A relation between the rows of the items and the rows of the table that every edit respects. -/
structure Follows (R : List BankRow → List BankRow → Prop) : Prop where
  subset : ∀ {a b}, R a b → b ⊆ a
  append : ∀ {a b} (r : BankRow), R a b → R (a ++ [r]) (b ++ [r])
  map : ∀ {a b} (f : BankRow → BankRow), R a b → R (a.map f) (b.map f)
  filter : ∀ {a b} (p : BankRow → Bool), R a b → R (a.filter p) (b.filter p)

/-- The items and the table the queue leads to belong together. -/
structure Synced (R : List BankRow → List BankRow → Prop) (s : BankStore om) : Prop where
  owns : s.OwnsAll
  guids : (s.items.map BankItem.guid).Nodup
  table : ∃ t, Pending s.own s.rows s.queue t ∧ R (s.items.map BankItem.row) (t.part s.own)

variable {R : List BankRow → List BankRow → Prop} {s : BankStore om}

theorem clear_changed (ho : s.Owns it) (ht : t.rest s.own = s.rows.rest s.own)
    (hw : s.GuidClear it.guid) : it.changed.Clear t := by
  intro r hr
  have hown : it.changed.own = s.own := (owns_changed.2 ho).own_eq
  rw [hown, ht] at hr
  have := hw r hr
  rw [← ho.guildid] at this
  exact this

theorem map_set (it : BankItem om) (hn : (s.items.map BankItem.guid).Nodup)
    (hi : s.items[i]? = some old) (hg : it.guid = old.guid) :
    (s.items.set i it.changed).map BankItem.row =
      (s.items.map BankItem.row).map fun r => if r.guid = it.guid then it.changed.row else r := by
  rw [set_eq_map it.changed hn hi, map_map, map_map]
  apply map_congr_left
  intro x _
  by_cases hx : x.guid = old.guid
  · simp [hx, hg, row]
  · simp [hx, hg, row]

theorem map_eraseIdx (hn : (s.items.map BankItem.guid).Nodup) (hi : s.items[i]? = some it) :
    (s.items.eraseIdx i).map BankItem.row = (s.items.map BankItem.row).filter fun r => r.guid ≠ it.guid := by
  rw [eraseIdx_eq_filter hn hi, filter_map]
  rfl

theorem pending_change (hR : Follows R) {items : List (BankItem om)} {queue : List (BankItem om)} (hn :
    (items.map BankItem.guid).Nodup) (ht : Pending s.own s.rows queue t)
    (hr : R (items.map BankItem.row) (t.part s.own)) (hi : items[i]? = some old) (ho : s.Owns it) (hg : it.guid = old.guid)
    (hw : s.GuidClear it.guid) :
    ∃ t', Pending s.own s.rows (queue ++ [it.changed]) t' ∧ R ((items.set i it.changed).map BankItem.row) (t'.part s.own) := by
  obtain ⟨t', hpend, hpart⟩ := ht.push (owns_changed.2 ho).own_eq (clear_changed ho ht.rest hw)
  refine ⟨t', hpend, ?_⟩
  rw [hpart, map_set (s := { s with items := items }) it hn hi hg]
  exact hR.map _ hr

theorem Synced.edit {e : Edit om} (hR : Follows R) (h : Synced R s) (hg : s.Genuine e) (hw : s.Written e)
    (hcopy : ∀ it, e = .enqueue it → ∀ a b p, R a b → R a (b.filter p)) : Synced R (s.edit e) := by
  have hnd := h.guids
  obtain ⟨t, ht, hr⟩ := h.table
  refine ⟨h.owns.edit hg, ?_, ?_⟩
  · cases e with
    | add it =>
      have hfresh := (nextGuid_above hw).1
      simp only [BankStore.edit, map_append, map_cons, map_nil]
      refine nodup_append.2 ⟨hnd, nodup_singleton _, ?_⟩
      intro a ha b hb hab
      obtain ⟨x, hx, rfl⟩ := mem_map.1 ha
      have := hfresh x hx
      rw [hab, mem_singleton.1 hb, hg.guid] at this
      exact lt_irrefl _ this
    | change i it =>
      obtain ⟨old, hc⟩ := hg
      simp only [BankStore.edit]
      rw [map_set_same hc.found (b := it.changed) hc.guid]
      exact hnd
    | exchange i it j jt =>
      obtain ⟨x, y, hc⟩ := hg
      have hset : (s.items.set i it.changed).map guid = s.items.map guid :=
        map_set_same hc.src (by rw [hc.it]; rfl)
      have hj : (s.items.set i it.changed)[j]? = some y := (getElem?_set_ne hc.ne).trans hc.dst
      simp only [BankStore.edit]
      rw [map_set_same hj (b := jt.changed) (by rw [hc.jt]; rfl), hset]
      exact hnd
    | remove i it => exact hnd.sublist ((eraseIdx_sublist _ _).map _)
    | enqueue it => exact hnd
    | tabs n => exact hnd
    | save =>
      rw [World.edit_save]
      rcases save_cases s with hs | hs
      · rw [hs.items]; exact hnd
      · rw [hs.items, map_map]; exact hnd
  · rw [own_edit]
    cases e with
    | add it =>
      have hown := (hg : s.GenuineAdd it).owns
      obtain ⟨hfresh, hsmall⟩ := nextGuid_above hw
      have hclear : it.Clear t := by
        unfold Clear
        rw [hg.state, hown.own_eq, hg.guid]
        refine ⟨hsmall, fun r hrow hguid => ?_⟩
        obtain ⟨x, hx, rfl⟩ := mem_map.1 (hR.subset hr hrow)
        have := hfresh x hx
        rw [← hguid] at this
        exact lt_irrefl _ this
      obtain ⟨t', hpend, hpart⟩ := ht.push hown.own_eq hclear
      refine ⟨t', hpend, ?_⟩
      have hrep : it.replay (t.part s.own) = t.part s.own ++ [it.row] := by unfold replay; rw [hg.state]
      rw [hpart, hrep]
      simp only [BankStore.edit, map_append, map_cons, map_nil]
      exact hR.append _ hr
    | change i it =>
      obtain ⟨old, hc⟩ := hg
      exact pending_change hR hnd ht hr hc.found hc.owns hc.guid hw
    | exchange i it j jt =>
      obtain ⟨x, y, hc⟩ := hg
      have hox := owns_of_getElem? h.owns hc.src
      have hoy := owns_of_getElem? h.owns hc.dst
      have hit : s.Owns it := by rw [hc.it]; exact ⟨hox.1, hox.2⟩
      have hjt : s.Owns jt := by rw [hc.jt]; exact ⟨hoy.1, hoy.2⟩
      obtain ⟨t1, ht1, hr1⟩ := pending_change hR hnd ht hr hc.src hit (by rw [hc.it]) hw.1
      have hset : (s.items.set i it.changed).map guid = s.items.map guid :=
        map_set_same hc.src (by rw [hc.it]; rfl)
      have hj : (s.items.set i it.changed)[j]? = some y := (getElem?_set_ne hc.ne).trans hc.dst
      obtain ⟨t2, ht2, hr2⟩ := pending_change hR (by rw [hset]; exact hnd) ht1 hr1 hj hjt (by rw [hc.jt]) hw.2
      rw [append_assoc] at ht2
      exact ⟨t2, ht2, hr2⟩
    | remove i it =>
      have hown := owns_of_getElem? h.owns hg
      obtain ⟨t', hpend, hpart⟩ := ht.push (owns_removed.2 hown).own_eq (by unfold Clear removed; trivial)
      refine ⟨t', hpend, ?_⟩
      rw [hpart]
      simp only [BankStore.edit]
      rw [map_eraseIdx hnd hg]
      exact hR.filter _ hr
    | enqueue it =>
      obtain ⟨hown, hstate⟩ := hg
      obtain ⟨t', hpend, hpart⟩ := ht.push hown.own_eq (by unfold Clear; rw [hstate]; trivial)
      refine ⟨t', hpend, ?_⟩
      have hrep : it.replay (t.part s.own) = (t.part s.own).filter fun r => r.guid ≠ it.guid := by
        unfold replay; rw [hstate]
      rw [hpart, hrep]
      exact hcopy it rfl _ _ _ hr
    | tabs n => exact ⟨t, ht, hr⟩
    | save =>
      rw [World.edit_save]
      rcases save_cases s with hs | hs
      · rw [hs.rows, hs.items, hs.queue]
        exact ⟨t, ht, hr⟩
      · rw [hs.rows, hs.items, hs.queue, ht.commit, map_map]
        exact ⟨t, ⟨rfl, rfl⟩, hr⟩

theorem follows_perm : Follows List.Perm where
  subset h := h.symm.subset
  append r h := h.append_right [r]
  map f h := h.map f
  filter p h := h.filter p

theorem follows_superset : Follows fun a b => b ⊆ a where
  subset h := h
  append _ h := append_subset.2 ⟨subset_append_of_subset_left _ h, subset_append_right _ _⟩
  map f h := map_subset f h
  filter p h := filter_subset p h

end BankStore

end ComfyCraft
