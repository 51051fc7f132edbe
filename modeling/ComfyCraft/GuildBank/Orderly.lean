import ComfyCraft.GuildBank.Counts
import ComfyCraft.GuildBank.Persist

/-! The order of a bank: over every run of messages and restarts its items lie in slots of unlocked tabs,
one to a slot, under guids of their own, in regular stacks. A restart reads the items back from
the table, so the rows of the bank are kept in order along with the items. -/

namespace ComfyCraft

open List World BankStore BankItem Rows GuildBank

variable {om : ObjectMgr} {ι : Type}

def BankRow.place (r : BankRow) : UInt32 × UInt32 := (r.tab, r.slot)

/-- A row that a load makes a regular stack in one of the first `tabs` tabs of. -/
structure RowInOrder (om : ObjectMgr) (tabs : UInt32) (r : BankRow) : Prop where
  slot : World.SlotInRange r.slot
  tab : World.TabInRange r.tab
  unlocked : r.tab.toNat ≤ tabs.toNat
  pos : 1 ≤ r.count.toNat
  le : r.count.toNat ≤ (om.maxStack r.itemTemplate).toNat
  fields : r.fields.toBank = r.fields

structure RowsInOrder (om : ObjectMgr) (tabs : UInt32) (l : List BankRow) : Prop where
  places : (l.map BankRow.place).Nodup
  rows : ∀ r ∈ l, RowInOrder om tabs r

namespace BankStore

variable {s : BankStore om} {e : Edit om}

def written : Edit om → List (BankItem om)
  | .add it => [it]
  | .change _ it => [it.changed]
  | .exchange _ it _ jt => [it.changed, jt.changed]
  | _ => []

theorem mem_edit {x : BankItem om} (hx : x ∈ (s.edit e).items) :
    x ∈ s.items ∨ x ∈ written e ∨ ∃ y ∈ s.items, x = { y with state := .unchanged } := by
  cases e with
  | add it =>
    rcases mem_append.1 hx with hx | hx
    · exact .inl hx
    · exact .inr (.inl hx)
  | change i it =>
    rcases mem_or_eq_of_mem_set hx with hx | rfl
    · exact .inl hx
    · exact .inr (.inl mem_cons_self)
  | exchange i it j jt =>
    rcases mem_or_eq_of_mem_set hx with hx | rfl
    · rcases mem_or_eq_of_mem_set hx with hx | rfl
      · exact .inl hx
      · exact .inr (.inl mem_cons_self)
    · exact .inr (.inl (mem_cons_of_mem _ mem_cons_self))
  | remove i it => exact .inl (mem_of_mem_eraseIdx hx)
  | enqueue it => exact .inl hx
  | tabs n => exact .inl hx
  | save =>
    rw [edit_save] at hx
    rcases save_cases s with hs | hs
    · rw [hs.items] at hx; exact .inl hx
    rw [hs.items] at hx
    obtain ⟨y, hy, hyx⟩ := mem_map.1 hx
    exact .inr (.inr ⟨y, hy, hyx.symm⟩)

theorem slots_edit (h : s.InOrder) (hg : s.Genuine e) : ∀ it ∈ (s.edit e).items, World.SlotInRange it.slot := by
  intro x hx
  rcases mem_edit hx with hx | hx | ⟨y, hy, rfl⟩
  · exact h.slots x hx
  · cases e with
    | add it =>
      rw [mem_singleton.1 hx]
      exact hg.slot
    | change i it =>
      obtain ⟨old, hc⟩ := hg
      rw [mem_singleton.1 hx]
      change SlotInRange it.slot
      rcases hc.slot with hsame | hfree
      · rw [hsame]; exact h.slots old (mem_of_getElem? hc.found)
      · exact hfree.1
    | exchange i it j jt =>
      obtain ⟨a, b, hc⟩ := hg
      rcases mem_cons.1 hx with rfl | hx
      · rw [hc.it]; exact h.slots b (mem_of_getElem? hc.dst)
      · rw [mem_singleton.1 hx, hc.jt]; exact h.slots a (mem_of_getElem? hc.src)
    | _ => exact absurd hx not_mem_nil
  · exact h.slots y hy

theorem counts_edit (h : s.InOrder) (hg : s.Genuine e) (hc : s.Counted e) : ∀ it ∈ (s.edit e).items, it.Regular := by
  intro x hx
  rcases mem_edit hx with hx | hx | ⟨y, hy, rfl⟩
  · exact h.counts x hx
  · cases e with
    | add it => rw [mem_singleton.1 hx]; exact hc.2
    | change i it =>
      rw [mem_singleton.1 hx]
      exact ⟨(hc : it.Regular).pos, (hc : it.Regular).le⟩
    | exchange i it j jt =>
      obtain ⟨a, b, hex⟩ := hg
      have ha := h.counts a (mem_of_getElem? hex.src)
      have hb := h.counts b (mem_of_getElem? hex.dst)
      rcases mem_cons.1 hx with rfl | hx
      · rw [hex.it]; exact ⟨ha.pos, ha.le⟩
      · rw [mem_singleton.1 hx, hex.jt]; exact ⟨hb.pos, hb.le⟩
    | _ => exact absurd hx not_mem_nil
  · exact ⟨(h.counts y hy).pos, (h.counts y hy).le⟩

theorem tabs_save (s : BankStore om) : s.save.tabs = s.tabs := by
  unfold save saveItems saveTabs
  split_ifs <;> rfl

theorem tabs_edit (h : s.InOrder) (hg : s.Genuine e) (hc : s.Counted e) :
    ∀ it ∈ (s.edit e).items, World.TabInRange it.tab ∧ it.tab.toNat ≤ (s.edit e).tabs.toNat := by
  intro x hx
  cases e with
  | tabs n => exact ⟨(h.tabs x hx).1, hc x hx⟩
  | save =>
    rw [edit_save, tabs_save]
    rcases mem_edit hx with hx | hx | ⟨y, hy, rfl⟩
    · exact h.tabs x hx
    · exact absurd hx not_mem_nil
    · exact h.tabs y hy
  | add it =>
    rcases mem_edit hx with hx | hx | ⟨y, hy, rfl⟩
    · exact h.tabs x hx
    · rw [mem_singleton.1 hx]; exact ⟨hg.tab, hc.1⟩
    · exact h.tabs y hy
  | change i it =>
    rcases mem_edit hx with hx | hx | ⟨y, hy, rfl⟩
    · exact h.tabs x hx
    · obtain ⟨old, hch⟩ := hg
      rw [mem_singleton.1 hx]
      change TabInRange it.tab ∧ it.tab.toNat ≤ s.tabs.toNat
      rw [hch.tab]
      exact h.tabs old (mem_of_getElem? hch.found)
    · exact h.tabs y hy
  | exchange i it j jt =>
    rcases mem_edit hx with hx | hx | ⟨y, hy, rfl⟩
    · exact h.tabs x hx
    · obtain ⟨a, b, hex⟩ := hg
      rcases mem_cons.1 hx with rfl | hx
      · rw [hex.it]; exact h.tabs a (mem_of_getElem? hex.src)
      · rw [mem_singleton.1 hx, hex.jt]; exact h.tabs b (mem_of_getElem? hex.dst)
    · exact h.tabs y hy
  | remove i it => exact h.tabs x (mem_of_mem_eraseIdx hx)
  | enqueue it => exact h.tabs x hx

theorem places_edit (h : s.InOrder) (hg : s.Genuine e) : ((s.edit e).items.map fun it => (it.tab, it.slot)).Nodup := by
  have hnd := h.places
  cases e with
  | add it =>
    simp only [edit, map_append, map_cons, map_nil]
    refine nodup_append.2 ⟨hnd, nodup_singleton _, ?_⟩
    intro a ha b hb hab
    obtain ⟨x, hx, rfl⟩ := mem_map.1 ha
    rw [mem_singleton.1 hb, Prod.mk.injEq] at hab
    exact (hg : s.GenuineAdd it).free x hx hab
  | change i it =>
    obtain ⟨old, hc⟩ := hg
    simp only [edit]
    rcases hc.slot with hsame | ⟨-, hfree⟩
    · rw [Seq.map_set_same hc.found (b := it.changed)]
      · exact hnd
      · exact Prod.ext hc.tab hsame
    · rw [List.map_set]
      refine hnd.set fun hmem => ?_
      obtain ⟨x, hx, hxp⟩ := mem_map.1 hmem
      exact hfree x hx (Prod.mk.inj hxp)
  | exchange i it j jt =>
    obtain ⟨a, b, hc⟩ := hg
    obtain ⟨hi, hia⟩ := List.getElem?_eq_some_iff.1 hc.src
    obtain ⟨hj, hjb⟩ := List.getElem?_eq_some_iff.1 hc.dst
    have hperm := @set_set_perm _ (s.items.map fun it => (it.tab, it.slot)) i j (by simpa using hi) (by simpa using hj)
    simp only [List.getElem_map, hia, hjb] at hperm
    simp only [edit, List.map_set]
    have hplace : (it.changed.tab, it.changed.slot) = (b.tab, b.slot) := by rw [hc.it]; exact Prod.ext hc.tab rfl
    have hplace' : (jt.changed.tab, jt.changed.slot) = (a.tab, a.slot) := by rw [hc.jt]; exact Prod.ext hc.tab.symm rfl
    rw [hplace, hplace']
    exact hperm.nodup_iff.2 hnd
  | remove i it => exact hnd.sublist ((List.eraseIdx_sublist _ _).map _)
  | enqueue it => exact hnd
  | tabs n => exact hnd
  | save =>
    rw [edit_save]
    rcases save_cases s with hs | hs
    · rw [hs.items]; exact hnd
    · rw [hs.items, map_map]; exact hnd

/-- The items and the rows of a bank are both in order, and the rows belong to the items. -/
structure Filed (s : BankStore om) : Prop where
  order : s.InOrder
  synced : Synced (fun a b => b ⊆ a) s
  rows : RowsInOrder om (s.savedTabs.getD 0) (s.rows.part s.own)
  link : s.tabsChanged = true ∨ s.savedTabs.getD 0 = s.tabs
  saved : s.tabs ≠ 0 → s.savedTabs.isSome

theorem rowInOrder_row {it : BankItem om} (h : s.InOrder) (hit : it ∈ s.items) : RowInOrder om s.tabs it.row where
  slot := h.slots it hit
  tab := (h.tabs it hit).1
  unlocked := (h.tabs it hit).2
  pos := (h.counts it hit).pos
  le := by
    have hmax : om.maxStack it.row.itemTemplate = it.maxStackSize := it.maxStackSize_eq.symm
    rw [hmax]
    exact (h.counts it hit).le
  fields := it.fields_eq

theorem rowsInOrder_of_subset {l : List BankRow} (h : s.InOrder) (hl : l.Nodup) (hsub : l ⊆ s.items.map BankItem.row) :
    RowsInOrder om s.tabs l := by
  refine ⟨Nodup.map_on ?_ hl, fun r hr => ?_⟩
  · intro r hr q hq hplace
    obtain ⟨x, hx, rfl⟩ := mem_map.1 (hsub hr)
    obtain ⟨y, hy, rfl⟩ := mem_map.1 (hsub hq)
    rw [inj_on_of_nodup_map h.places hx hy hplace]
  · obtain ⟨x, hx, rfl⟩ := mem_map.1 (hsub hr)
    exact rowInOrder_row h hx

theorem nodup_part (t : BankTable) (own : BankRow → Bool) : (t.part own).Nodup :=
  (Nodup.of_map _ t.unique).sublist filter_sublist

theorem save_locked (hlock : s.locked = true) : s.save = s := if_pos hlock

theorem savedTabs_save (hlock : s.locked = false) :
    s.save.savedTabs = (if s.tabsChanged then s.savedTabs.map fun _ => s.tabs else s.savedTabs) ∧
      s.save.tabsChanged = false := by
  unfold save saveItems saveTabs
  rw [if_neg (by rw [hlock]; decide)]
  split_ifs <;> exact ⟨rfl, rfl⟩

theorem getD_savedTabs_save (h : s.Filed) (hlock : s.locked = false) : s.save.savedTabs.getD 0 = s.tabs := by
  rw [(savedTabs_save hlock).1]
  split_ifs with hc
  · cases hsaved : s.savedTabs with
    | some t => rfl
    | none =>
      by_contra hne
      have hsome := h.saved fun h0 => hne (by rw [h0]; rfl)
      rw [hsaved] at hsome
      exact absurd hsome (by decide)
  · exact h.link.resolve_left hc

theorem isSome_savedTabs_edit (s : BankStore om) (e : Edit om) : (s.edit e).savedTabs.isSome = s.savedTabs.isSome := by
  cases e with
  | save =>
    rw [edit_save]
    cases hlock : s.locked with
    | true => rw [save_locked hlock]
    | false =>
      rw [(savedTabs_save hlock).1]
      split_ifs
      · exact Option.isSome_map
      · rfl
  | _ => rfl

theorem Filed.save (h : s.Filed) (hlock : s.locked = false) (ho : s.save.InOrder) (hs : Synced (fun a b => b ⊆ a) s.save) :
    s.save.Filed := by
  have hsub : s.save.rows.part s.own ⊆ s.save.items.map row :=
    h.synced.saved fun hl => absurd (hl.symm.trans hlock) (by decide)
  have htabs := getD_savedTabs_save h hlock
  have hown : s.save.own = s.own := own_edit s .save
  refine ⟨ho, hs, ?_, .inr ?_, fun hne => ?_⟩
  · rw [htabs, hown, ← tabs_save s]
    exact rowsInOrder_of_subset ho (nodup_part _ _) hsub
  · rw [htabs, tabs_save]
  · rw [tabs_save] at hne
    exact (isSome_savedTabs_edit s .save).trans (h.saved hne)

theorem Filed.edit (h : s.Filed) (hg : s.Genuine e) (hw : s.Written e) (hc : s.Counted e)
    (hunlock : s.savedTabs.isSome = true) : (s.edit e).Filed := by
  have hs : Synced (fun a b => b ⊆ a) (s.edit e) :=
    h.synced.edit follows_superset hg hw fun _ _ _ _ _ hab _ hr => hab (mem_of_mem_filter hr)
  have ho : (s.edit e).InOrder :=
    ⟨places_edit h.order hg, hs.guids, slots_edit h.order hg, tabs_edit h.order hg hc, counts_edit h.order hg hc⟩
  cases e with
  | save =>
    rw [edit_save] at ho hs ⊢
    cases hlock : s.locked with
    | true => rw [save_locked hlock]; exact h
    | false => exact h.save hlock ho hs
  | tabs n => exact ⟨ho, hs, h.rows, .inl rfl, fun _ => hunlock⟩
  | _ => exact ⟨ho, hs, h.rows, h.link, h.saved⟩

theorem filed_editAll {es : List (Edit om)} (h : s.Filed) (hunlock : s.savedTabs.isSome = true) (hg : World.AllGenuine s es)
    (hw : Runs.Admitted BankStore.edit Written s es) (hc : World.AllCounted s es) :
    (World.editAll s es).Filed ∧ (World.editAll s es).savedTabs.isSome = true := by
  induction es generalizing s with
  | nil => exact ⟨h, hunlock⟩
  | cons e es ih =>
    refine ih (h.edit hg.1 hw.1 hc.1 hunlock) ?_ hg.2 hw.2 hc.2
    rw [isSome_savedTabs_edit]
    exact hunlock

theorem rowsInOrder_nil (tabs : UInt32) : RowsInOrder om tabs [] := ⟨nodup_nil, fun _ hr => absurd hr not_mem_nil⟩

/-- A bank without items, in memory or in its table, is in order. -/
theorem filed_empty (hi : s.items = []) (hr : s.rows.part s.own = []) (hq : ∀ it ∈ s.queue, s.Owns it)
    (ht : ∃ t, Pending s.own s.rows s.queue t ∧ t.part s.own = []) (hl : s.savedTabs.getD 0 = s.tabs) : s.Filed := by
  have hnone : ∀ it ∈ s.items, False := by
    intro it hit
    rw [hi] at hit
    exact absurd hit not_mem_nil
  obtain ⟨t, hpend, hpart⟩ := ht
  have hguids : (s.items.map guid).Nodup := by rw [hi]; exact nodup_nil
  refine ⟨⟨by rw [hi]; exact nodup_nil, hguids, fun it hit => (hnone it hit).elim, fun it hit => (hnone it hit).elim,
    fun it hit => (hnone it hit).elim⟩, ⟨⟨fun it hit => (hnone it hit).elim, hq⟩, hguids, t, hpend, ?_⟩, ?_, .inr hl, ?_⟩
  · rw [hpart]
    exact nil_subset _
  · rw [hr]
    exact rowsInOrder_nil _
  intro hne
  cases hs : s.savedTabs with
  | some t => rfl
  | none =>
    rw [hs] at hl
    exact absurd hl.symm hne

end BankStore

theorem toUInt8_toUInt32 {a : UInt32} (h : a.toNat < 256) : a.toUInt8.toUInt32 = a := by
  apply UInt32.toNat_inj.1
  rw [UInt8.toNat_toUInt32, UInt32.toNat_toUInt8]
  omega

namespace RowInOrder

variable {tabs : UInt32} {r : BankRow}

theorem loaded_tab (h : RowInOrder om tabs r) : (BankItem.loadFromDB r : BankItem om).tab = r.tab :=
  toUInt8_toUInt32 (by have := h.tab.2; omega)

theorem loaded_slot (h : RowInOrder om tabs r) : (BankItem.loadFromDB r : BankItem om).slot = r.slot :=
  toUInt8_toUInt32 (by have := h.slot.2; omega)

theorem row_loaded (h : RowInOrder om tabs r) : (BankItem.loadFromDB r : BankItem om).row = r := by
  unfold row
  rw [h.loaded_tab, h.loaded_slot]
  unfold loadFromDB
  simp only [h.fields]

end RowInOrder

namespace GuildBank

theorem filed_load {b : GuildBank om} {db : CharacterDatabase} {t : UInt32} (hempty : b.bItemUpdateQueue = [])
    (htabs : b.bTabs = t) (hsaved : (b.bankRows db).getLast?.map (fun r => r.1.tabs) = some t)
    (hrows : RowsInOrder om t (ownRows b db)) (hitems : b.bItems = (ownRows b db).map BankItem.loadFromDB) :
    (b.store db).Filed := by
  have hown : ∀ r ∈ ownRows b db, r.guildid = b.guildid ∧ r.isInferno = b.bInfernoBank :=
    fun r hr => ownRow_iff.1 (mem_part.1 hr).2
  have hmem : ∀ it ∈ (b.store db).items, ∃ r ∈ ownRows b db, it = loadFromDB r := by
    intro it hit
    change it ∈ b.bItems at hit
    rw [hitems] at hit
    obtain ⟨r, hr, hri⟩ := mem_map.1 hit
    exact ⟨r, hr, hri.symm⟩
  have hplaces : ((b.store db).items.map fun it => (it.tab, it.slot)) = (ownRows b db).map BankRow.place := by
    change b.bItems.map _ = _
    rw [hitems, map_map]
    exact map_congr_left fun r hr => Prod.ext (hrows.rows r hr).loaded_tab (hrows.rows r hr).loaded_slot
  have hguids : ((b.store db).items.map guid).Nodup := by
    have hkeys : ((ownRows b db).map BankRow.key).Nodup := db.guildBank.unique.sublist (filter_sublist.map _)
    have hkey : (ownRows b db).map BankRow.key = ((b.store db).items.map guid).map fun g => (b.guildid, g, b.bInfernoBank) := by
      change _ = (b.bItems.map guid).map _
      rw [hitems, map_map, map_map]
      apply map_congr_left
      intro r hr
      unfold BankRow.key
      rw [(hown r hr).1, (hown r hr).2]
      rfl
    rw [hkey] at hkeys
    exact hkeys.of_map
  refine ⟨⟨by rw [hplaces]; exact hrows.places, hguids, ?_, ?_, ?_⟩, ⟨⟨?_, ?_⟩, hguids, db.guildBank, ?_, ?_⟩, ?_, .inr ?_, ?_⟩
  · intro it hit
    obtain ⟨r, hr, rfl⟩ := hmem it hit
    rw [(hrows.rows r hr).loaded_slot]
    exact (hrows.rows r hr).slot
  · intro it hit
    obtain ⟨r, hr, rfl⟩ := hmem it hit
    rw [(hrows.rows r hr).loaded_tab]
    exact ⟨(hrows.rows r hr).tab, by have := (hrows.rows r hr).unlocked; rw [← htabs] at this; exact this⟩
  · intro it hit
    obtain ⟨r, hr, rfl⟩ := hmem it hit
    exact ⟨(hrows.rows r hr).pos, (hrows.rows r hr).le⟩
  · intro it hit
    obtain ⟨r, hr, rfl⟩ := hmem it hit
    exact ⟨(hown r hr).1, (hown r hr).2⟩
  · intro it hit
    change it ∈ b.bItemUpdateQueue at hit
    rw [hempty] at hit
    exact absurd hit not_mem_nil
  · have hq : (b.store db).queue = [] := hempty
    rw [hq]
    exact ⟨rfl, rfl⟩
  · intro r hr
    refine mem_map.2 ⟨loadFromDB r, ?_, (hrows.rows r hr).row_loaded⟩
    change _ ∈ b.bItems
    rw [hitems]
    exact mem_map_of_mem hr
  · have hs : (b.store db).savedTabs = some t := hsaved
    rw [hs]
    exact hrows
  · have hs : (b.store db).savedTabs = some t := hsaved
    rw [hs]
    exact htabs.symm
  · intro _
    have hs : (b.store db).savedTabs = some t := hsaved
    rw [hs]
    rfl

end GuildBank

namespace GuildBank

variable {b : GuildBank om} {db : CharacterDatabase}

theorem loadBank_none (h : (b.bankRows db).getLast? = none) : b.loadBank db = b := by
  unfold loadBank
  rw [h]

theorem loadBank_some {tabs : TabsRow} {money : MoneyRow} (h : (b.bankRows db).getLast? = some (tabs, money)) :
    (b.loadBank db).bTabs = tabs.tabs ∧ (b.loadBank db).bItems = b.bItems ++ (ownRows b db).map BankItem.loadFromDB ∧
      (b.loadBank db).guildid = b.guildid ∧ (b.loadBank db).bInfernoBank = b.bInfernoBank ∧
      (b.loadBank db).bItemUpdateQueue = b.bItemUpdateQueue := by
  unfold loadBank
  rw [h]
  exact ⟨rfl, rfl, rfl, rfl, rfl⟩

theorem reads_same (b b' : GuildBank om) (db : CharacterDatabase) (h1 : b'.guildid = b.guildid)
    (h2 : b'.bInfernoBank = b.bInfernoBank) : b'.bankRows db = b.bankRows db ∧ ownRows b' db = ownRows b db := by
  unfold bankRows ownRows
  rw [h1, h2]
  exact ⟨rfl, rfl⟩

/-- A bank given to a guild is what its rows say, if they are in order. -/
theorem filed_setGuild (h : (b.store db).Filed) (log : List BankLog) :
    (((create b.bInfernoBank).setGuild db b.guildid log : GuildBank om).store db).Filed := by
  have hrows : RowsInOrder om ((b.store db).savedTabs.getD 0) (ownRows b db) := h.rows
  cases hlast : (b.bankRows db).getLast? with
  | none =>
    have hload := loadBank_none (b := { (create b.bInfernoBank : GuildBank om) with guildid := b.guildid, bTabs := 0 }) hlast
    have hs : (b.store db).savedTabs = none := by
      change (b.bankRows db).getLast?.map _ = none
      rw [hlast]
      rfl
    -- no tab is unlocked, so no row can lie in one
    have hnone : ownRows b db = [] := by
      rw [hs] at hrows
      refine eq_nil_iff_forall_not_mem.2 fun r hr => ?_
      have h1 := (hrows.rows r hr).tab.1
      have h2 := (hrows.rows r hr).unlocked
      rw [Option.getD_none, UInt32.toNat_zero] at h2
      omega
    unfold setGuild
    rw [hload]
    refine filed_empty rfl hnone (fun it hit => absurd hit not_mem_nil) ⟨db.guildBank, ⟨rfl, rfl⟩, hnone⟩ ?_
    change ((b.bankRows db).getLast?.map _).getD 0 = 0
    rw [hlast]
    rfl
  | some last =>
    obtain ⟨tabs, money⟩ := last
    have hs : (b.store db).savedTabs = some tabs.tabs := by
      change (b.bankRows db).getLast?.map _ = _
      rw [hlast]
      rfl
    rw [hs] at hrows
    set fresh : GuildBank om := { (create b.bInfernoBank : GuildBank om) with guildid := b.guildid, bTabs := 0 } with hfresh
    obtain ⟨htabs, hitems, hid, hkind, -⟩ := loadBank_some (b := fresh) hlast
    obtain ⟨hbank, hown⟩ := reads_same fresh ((create b.bInfernoBank).setGuild db b.guildid log) db hid hkind
    refine filed_load (t := tabs.tabs) rfl htabs ?_ ?_ ?_
    · rw [hbank, show fresh.bankRows db = b.bankRows db from rfl, hlast]
      rfl
    · rw [hown]
      exact hrows
    · rw [hown]
      exact hitems

theorem filed_unlock (h : (b.store db).Filed) (hitems : b.bItems = [])
    (hrows : ownRows b db = []) (log : List BankLog) {db' : CharacterDatabase}
    (hdb : db' = { db with
      guildBankTabs := db.guildBankTabs ++ [⟨b.guildid, b.bInfernoBank, 1, fun _ => ⟨0, 0⟩⟩]
      guildBankMoney := (db.guildBankMoney.insert ⟨b.guildid, b.bInfernoBank, 0⟩).getD db.guildBankMoney }) :
    (GuildBank.store { loadBank { b with bTabs := 1 } db' with bLog := log } db').Filed := by
  have hmoney : ∃ m ∈ db'.guildBankMoney.rows, m.guildid = b.guildid ∧ m.isInferno = b.bInfernoBank := by
    rw [hdb]
    cases hins : db.guildBankMoney.insert ⟨b.guildid, b.bInfernoBank, 0⟩ with
    | some t => exact ⟨⟨b.guildid, b.bInfernoBank, 0⟩, by simp [insert_some hins], rfl, rfl⟩
    | none =>
      obtain ⟨m, hm, hkey⟩ := insert_none hins
      exact ⟨m, hm, congrArg Prod.fst hkey, congrArg Prod.snd hkey⟩
  obtain ⟨m0, hm0, hkey0⟩ := hmoney
  -- the tab row just inserted is the last one the load reads
  have hlast : ∃ m, (({ b with bTabs := 1 } : GuildBank om).bankRows db').getLast? =
      some (⟨b.guildid, b.bInfernoBank, 1, fun _ => ⟨0, 0⟩⟩, m) := by
    have hne : (db'.guildBankMoney.rows.filter fun m => m.guildid = b.guildid && m.isInferno = b.bInfernoBank) ≠ [] := by
      refine ne_nil_of_mem (mem_filter.2 ⟨hm0, ?_⟩)
      simp [hkey0.1, hkey0.2]
    have htabs : db'.guildBankTabs = db.guildBankTabs ++ [⟨b.guildid, b.bInfernoBank, 1, fun _ => ⟨0, 0⟩⟩] := by rw [hdb]
    refine ⟨getLast _ hne, ?_⟩
    unfold bankRows
    rw [htabs, filter_append, flatMap_append, getLast?_append]
    simp [getLast?_eq_some_getLast hne]
  obtain ⟨m, hlast⟩ := hlast
  obtain ⟨htabs, hload, hid, hkind, hqueue⟩ := loadBank_some hlast
  have hsame : db'.guildBank = db.guildBank := by rw [hdb]
  set b' : GuildBank om := { loadBank { b with bTabs := 1 } db' with bLog := log } with hb'
  have hown' : (b'.store db').own = (b.store db).own := by
    change ownRow b'.guildid b'.bInfernoBank = ownRow b.guildid b.bInfernoBank
    rw [show b'.guildid = b.guildid from hid, show b'.bInfernoBank = b.bInfernoBank from hkind]
  have hpart : db.guildBank.part (b.store db).own = [] := hrows
  have hq : (b'.store db').queue = (b.store db).queue := hqueue
  have hr : (b'.store db').rows = (b.store db).rows := hsame
  obtain ⟨t, hpend, hsub⟩ := h.synced.table
  have hnil : (b.store db).items = [] := hitems
  rw [hnil] at hsub
  refine filed_empty ?_ ?_ ?_ ⟨t, ?_, ?_⟩ ?_
  · change b'.bItems = []
    have hrows' : ownRows ({ b with bTabs := 1 } : GuildBank om) db' = [] := by
      unfold ownRows
      rw [hsame]
      exact hrows
    rw [show b'.bItems = _ from hload, hrows']
    exact (append_nil _).trans hitems
  · rw [hr, hown']
    exact hpart
  · intro it hit
    rw [hq] at hit
    have ho := h.synced.owns.queue it hit
    exact ⟨ho.guildid.trans hid.symm, ho.inferno.trans hkind.symm⟩
  · rw [hown', hr, hq]
    exact hpend
  · rw [hown']
    exact subset_nil.1 hsub
  · have hread := (reads_same { b with bTabs := 1 } b' db' hid hkind).1
    change ((b'.bankRows db').getLast?.map _).getD 0 = b'.bTabs
    rw [hread, hlast, show b'.bTabs = _ from htabs]
    rfl

end GuildBank

inductive BankEvent (ι : Type)
  | message (who : ι) (ctx : Ctx) (msg : AddonMessage)
  | restart (log : List BankLog)

namespace World

/-- The command puts regular stacks into unlocked tabs, and the statements it queues go through. -/
def CommandFiled (ctx : Ctx) (text : String) (params : List Int) (w : World om) (cmd : Command) : Prop :=
  CommandCounts ctx text params w cmd ∧ Runs.Admitted BankStore.edit BankStore.Written w.store (edits ctx text params w cmd)

theorem filed_runCommand {ctx : Ctx} {text : String} {params : List Int} {w : World om} {cmd : Command}
    (h : w.store.Filed ∧ w.store.savedTabs.isSome = true) (hf : CommandFiled ctx text params w cmd) :
    (runCommand ctx text params w cmd).store.Filed ∧ (runCommand ctx text params w cmd).store.savedTabs.isSome = true := by
  rw [store_runCommand]
  exact filed_editAll h.1 h.2 (genuine_edits ctx text params cmd h.1.synced.owns) hf.2 (counted_edits h.1.order hf.1)

end World

namespace Realm

/-- A bank that has not been unlocked yet. -/
structure NotUnlocked (s : Realm om ι) : Prop where
  items : s.bank.bItems = []
  queue : s.bank.bItemUpdateQueue = []
  tabs : s.bank.bTabs = 0
  rows : ownRows s.bank s.db = []
  saved : s.bank.bankRows s.db = []

variable {s : Realm om ι}

theorem filed_notUnlocked (h : s.NotUnlocked) : s.store.Filed := by
  have hq : s.store.queue = [] := h.queue
  refine filed_empty h.items h.rows ?_ ⟨s.store.rows, ?_, h.rows⟩ ?_
  · rw [hq]
    exact fun it hit => absurd hit not_mem_nil
  · rw [hq]
    exact ⟨rfl, rfl⟩
  · change ((s.bank.bankRows s.db).getLast?.map _).getD 0 = s.bank.bTabs
    rw [h.saved, h.tabs]
    rfl

/-- Nothing goes wrong in the step: a bank is unlocked only while it has no items, in memory or in its
table, and the commands of a message put regular stacks into unlocked tabs and queue statements
that go through. -/
def Orderly (s : Realm om ι) : BankEvent ι → Prop
  | .message who ctx (.unlockGuildBank _) => ctx.canUseGuildBank = true → s.bank.bSaveLock = false →
      ctx.playerRankIndex = 0 → GUILD_BANK_COST ≤ (s.players who).money → s.bank.bItems = [] ∧ ownRows s.bank s.db = []
  | .message who ctx (.command text commands params) => ctx.canUseGuildBank = true → s.bank.bSaveLock = false →
      s.bank.bTabs ≠ 0 → Runs.Admitted (World.runCommand ctx text params) (World.CommandFiled ctx text params) (s.seenBy who)
        (World.handlers.filter (· ∈ commands))
  | .restart _ => True

variable [DecidableEq ι]

def step (s : Realm om ι) : BankEvent ι → Realm om ι
  | .message who ctx msg =>
    let w := World.handleAddonMessages ctx (s.seenBy who) msg
    ⟨Function.update s.players who w.player, w.bank, w.db⟩
  | .restart log => { s with bank := (GuildBank.create s.bank.bInfernoBank).setGuild s.db s.bank.guildid log }

theorem filed_step {ev : BankEvent ι} (h : s.store.Filed) (ho : s.Orderly ev) : (s.step ev).store.Filed := by
  cases ev with
  | restart log => exact filed_setGuild h log
  | message who ctx msg =>
    change (World.store (World.handleAddonMessages ctx (s.seenBy who) msg)).Filed
    have hw : (s.seenBy who).store.Filed := h
    unfold handleAddonMessages
    by_cases huse : ctx.canUseGuildBank = true
    · by_cases hlock : (s.seenBy who).bank.bSaveLock = true
      · rw [if_neg (by simp [huse]), if_pos hlock]
        exact hw
      rw [if_neg (by simp [huse]), if_neg hlock]
      rw [Bool.not_eq_true] at hlock
      cases msg with
      | command text commands params =>
        by_cases htabs : (s.seenBy who).bank.bTabs = 0
        · simp only [if_pos htabs]
          exact hw
        · simp only [if_neg htabs]
          exact (Runs.invariant (I := fun w : World om => w.store.Filed ∧ w.store.savedTabs.isSome = true)
            (fun w cmd hI hok => filed_runCommand hI hok) ⟨hw, hw.saved htabs⟩ (ho huse hlock htabs)).1
      | unlockGuildBank query =>
        simp only
        unfold unlockGuildBank
        by_cases hrank : ctx.playerRankIndex = 0
        · rw [if_neg (by simp [hrank])]
          cases query with
          | ok =>
            by_cases hmoney : (s.seenBy who).player.money < GUILD_BANK_COST
            · simp only [if_pos hmoney]
              exact hw
            · simp only [if_neg hmoney]
              obtain ⟨hitems, hrows⟩ := ho huse hlock hrank (UInt32.not_lt.1 hmoney)
              exact filed_unlock h hitems hrows ctx.log rfl
          | _ => exact hw
        · rw [if_pos hrank]
          exact hw
    · rw [if_pos (by simpa using huse)]
      exact hw

/-- From a bank that has not been unlocked yet, every run of messages and restarts in which nothing goes
wrong leads to a bank whose items lie in slots of unlocked tabs, one to a slot, under guids of
their own, in regular stacks. -/
theorem inOrder_of_run {s : Realm om ι} {evs : List (BankEvent ι)} (hs : s.NotUnlocked) (ho : Runs.Admitted step Orderly s evs) :
    (Runs.run step s evs).store.InOrder :=
  (Runs.invariant (I := fun s : Realm om ι => s.store.Filed) (fun _ _ h ho => filed_step h ho) (filed_notUnlocked hs) ho).order

def unboughtSample : Realm Sample.objectMgr Unit where
  players _ := { Sample.player with money := 3 * GUILD_BANK_COST }
  bank := { Sample.bank with bTabs := 0 }
  db := { Sample.db with guildBankTabs := [], guildBankMoney := Rows.empty }

def sampleEvent (text : String) (cmd : Command) (params : List Int) : BankEvent Unit :=
  .message () Sample.ctx (.command text [cmd] params)

theorem unboughtSample_notUnlocked : unboughtSample.NotUnlocked := ⟨rfl, rfl, rfl, rfl, rfl⟩

theorem orderly_unlock : unboughtSample.Orderly (.message () Sample.ctx (.unlockGuildBank .ok)) :=
  fun _ _ _ _ => ⟨rfl, rfl⟩

/-- The bank is bought, three pieces of ore are deposited and the server is restarted. -/
theorem inOrder_of_run_sample : (Runs.run step unboughtSample [.message () Sample.ctx (.unlockGuildBank .ok),
      sampleEvent "DepositItem:0:1:1:1:3" .depositItem [0, 1, 1, 1, 3], .restart []]).store.InOrder := by
  have hdeposit : (unboughtSample.step (.message () Sample.ctx (.unlockGuildBank .ok))).Orderly
      (sampleEvent "DepositItem:0:1:1:1:3" .depositItem [0, 1, 1, 1, 3]) := by
    intro _ _ _
    refine ⟨⟨?_, fun x hx => absurd hx not_mem_nil, trivial, trivial⟩, trivial⟩
    intro r hr
    cases hr
    exact ⟨by decide, by decide⟩
  exact inOrder_of_run unboughtSample_notUnlocked ⟨orderly_unlock, hdeposit, trivial, trivial⟩

/-- Of the bank only one tab is unlocked, and a deposit into the second one is accepted. -/
theorem deposit_into_locked_tab : ¬ (Runs.run step unboughtSample [.message () Sample.ctx (.unlockGuildBank .ok),
      sampleEvent "DepositItem:0:1:2:1:3" .depositItem [0, 1, 2, 1, 3]]).store.InOrder := by
  intro h
  have htabs := fun it hit => (h.tabs it hit).2
  revert htabs
  decide +kernel

end Realm

end ComfyCraft
