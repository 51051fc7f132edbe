import ComfyCraft.DungeonRun.Model
import Mathlib.Data.Finset.Union

/-! The slots of a dungeon or wing as a set: one for each boss and one for each "one of" group. The numbers the timer
counts with are those of the slots, and its lists hold each of them once. -/

namespace ComfyCraft.DungeonRun

open List UInt32

inductive Slot
  | boss (entry : UInt32)
  | oneOf (group : UInt8)
deriving DecidableEq

namespace Slot

def id : Slot → UInt32
  | boss entry => entry
  | oneOf group => 0x80000000 ||| group.toUInt32

end Slot

def DungeonBoss.slot (row : DungeonBoss) : Slot := if row.oneOf ≠ 0 then .oneOf row.oneOf else .boss row.entry

theorem slotId_eq (row : DungeonBoss) : slotId row = row.slot.id := by
  unfold slotId DungeonBoss.slot
  split_ifs <;> rfl

/-- A creature's entry has 24 bits in its guid. -/
def entryEnd : Nat := 2 ^ 24

theorem toNat_oneOf (group : UInt8) : (Slot.oneOf group).id.toNat = 2 ^ 31 + group.toNat := by
  change (0x80000000 ||| group.toUInt32).toNat = _
  rw [UInt32.toNat_or, UInt8.toNat_toUInt32]
  exact (Nat.two_pow_add_eq_or_of_lt (i := 31) (by have := group.toNat_lt; omega) 1).symm.trans (by omega)

namespace Slot

/-- Slots that a row of the lists may have. -/
def Valid : Slot → Prop
  | boss entry => entry.toNat < entryEnd
  | oneOf group => group ≠ 0

theorem id_injective {s s' : Slot} (hs : s.Valid) (hs' : s'.Valid) (h : s.id = s'.id) : s = s' := by
  have hnat : s.id.toNat = s'.id.toNat := congrArg toNat h
  have hend : entryEnd = 2 ^ 24 := rfl
  cases s with
  | boss entry =>
    have hentry : entry.toNat < entryEnd := hs
    cases s' with
    | boss entry' => exact congrArg boss h
    | oneOf group =>
      rw [toNat_oneOf] at hnat
      have hboss : (boss entry).id.toNat = entry.toNat := rfl
      omega
  | oneOf group =>
    rw [toNat_oneOf] at hnat
    cases s' with
    | boss entry =>
      have hentry : entry.toNat < entryEnd := hs'
      have hboss : (boss entry).id.toNat = entry.toNat := rfl
      omega
    | oneOf group' =>
      rw [toNat_oneOf] at hnat
      exact congrArg oneOf (UInt8.toNat_inj.1 (by omega))

/-- No slot has the number that only the bit of the groups makes. -/
theorem id_ne (s : Slot) (hs : s.Valid) : s.id.toNat ≠ 2 ^ 31 := by
  have hend : entryEnd = 2 ^ 24 := rfl
  cases s with
  | boss entry =>
    have hentry : entry.toNat < entryEnd := hs
    have hboss : (boss entry).id.toNat = entry.toNat := rfl
    omega
  | oneOf group =>
    rw [toNat_oneOf]
    have hgroup : group.toNat ≠ 0 := fun h => hs (UInt8.toNat_inj.1 h)
    omega

end Slot

section PushNew

variable {seen : List UInt32}

theorem nodup_pushNew (h : seen.Nodup) (s : UInt32) : (pushNew seen s).Nodup := by
  unfold pushNew
  split_ifs with hs
  · exact h
  · exact nodup_append.2 ⟨h, by simp, fun a ha b hb hab => hs (by rw [mem_singleton] at hb; rwa [← hb, ← hab])⟩

theorem mem_pushNew {s a : UInt32} : a ∈ pushNew seen s ↔ a ∈ seen ∨ a = s := by
  unfold pushNew
  split_ifs with hs
  · exact ⟨.inl, fun h => h.elim (fun h => h) fun h => h ▸ hs⟩
  · simp

/-- Slots pushed one after another: each is there once. -/
theorem foldl_pushNew (l seen : List UInt32) (h : seen.Nodup) :
    (l.foldl pushNew seen).Nodup ∧ ∀ a, a ∈ l.foldl pushNew seen ↔ a ∈ seen ∨ a ∈ l := by
  induction l generalizing seen with
  | nil => exact ⟨h, by simp⟩
  | cons s l ih =>
    obtain ⟨hnodup, hmem⟩ := ih (pushNew seen s) (nodup_pushNew h s)
    refine ⟨hnodup, fun a => ?_⟩
    rw [foldl_cons, hmem, mem_pushNew, mem_cons, or_assoc]

end PushNew

namespace Lists

variable (t : Lists) (mapId : UInt32)

def rows (wing : UInt8) : List DungeonBoss := t.bosses.filter fun row => row.mapId.toUInt32 = mapId && row.wing = wing

def requiredSlots (wing : UInt8) : Finset Slot := (((t.rows mapId wing).filter fun row => !row.isOptional).map DungeonBoss.slot).toFinset

def lastBossSlots (wing : UInt8) : Finset Slot :=
  (((t.rows mapId wing).filter fun row =>
    t.lastBosses.any fun last => last.mapId.toUInt32 = mapId && last.wing = wing && last.entry = row.entry).map DungeonBoss.slot).toFinset

/-- The slots that have a kill, where creatures of these entries have died. -/
def killedSlots (wing : UInt8) (dead : List UInt32) : Finset Slot :=
  (((t.rows mapId wing).filter fun row => row.entry ∈ dead).map DungeonBoss.slot).toFinset

variable {t mapId} {wing : UInt8} {row : DungeonBoss} {s : Slot}

theorem mem_rows : row ∈ t.rows mapId wing ↔ row ∈ t.bosses ∧ row.mapId.toUInt32 = mapId ∧ row.wing = wing := by
  unfold rows
  simp

theorem mem_requiredSlots : s ∈ t.requiredSlots mapId wing ↔ ∃ row ∈ t.rows mapId wing, row.isOptional = false ∧ row.slot = s := by
  unfold requiredSlots
  simp [and_assoc]

theorem mem_lastBossSlots : s ∈ t.lastBossSlots mapId wing ↔ ∃ row ∈ t.rows mapId wing,
    (∃ last ∈ t.lastBosses, last.mapId.toUInt32 = mapId ∧ last.wing = wing ∧ last.entry = row.entry) ∧ row.slot = s := by
  unfold lastBossSlots
  simp [and_assoc]

variable {dead : List UInt32} {entry : UInt32}

theorem mem_killedSlots : s ∈ t.killedSlots mapId wing dead ↔ ∃ row ∈ t.rows mapId wing, row.entry ∈ dead ∧ row.slot = s := by
  unfold killedSlots
  simp [and_assoc]

/-- What the header of the lists says of the rows of a map. -/
structure Sound (t : Lists) (mapId : UInt32) : Prop where
  entry : ∀ row ∈ t.bosses, row.mapId.toUInt32 = mapId → row.entry.toNat < entryEnd
  unique : ∀ row ∈ t.bosses, ∀ row' ∈ t.bosses, row.mapId.toUInt32 = mapId → row'.mapId.toUInt32 = mapId → row.entry = row'.entry → row = row'
  last : ∀ last ∈ t.lastBosses, ∀ row ∈ t.rows mapId last.wing, last.mapId.toUInt32 = mapId → last.entry = row.entry → row.isOptional = false

theorem Sound.slot (h : t.Sound mapId) (hrow : row ∈ t.rows mapId wing) : row.slot.Valid := by
  obtain ⟨hmem, hmap, -⟩ := mem_rows.1 hrow
  unfold DungeonBoss.slot
  split_ifs with hgroup
  · exact hgroup
  · exact h.entry row hmem hmap

theorem Sound.last_required (h : t.Sound mapId) : t.lastBossSlots mapId wing ⊆ t.requiredSlots mapId wing := by
  intro s hs
  obtain ⟨row, hrow, ⟨last, hlast, hmap, hwing, hentry⟩, hslot⟩ := mem_lastBossSlots.1 hs
  exact mem_requiredSlots.2 ⟨row, hrow, h.last last hlast row (hwing ▸ hrow) hmap hentry, hslot⟩

theorem Sound.toNat_slotCount (h : t.Sound mapId) : (t.slotCount mapId wing).toNat = (t.requiredSlots mapId wing).card := by
  have hrows : (t.bosses.filter fun row => row.mapId.toUInt32 = mapId && row.wing = wing && !row.isOptional) =
      (t.rows mapId wing).filter fun row => !row.isOptional := by
    unfold rows
    rw [filter_filter]
    exact filter_congr fun row _ => Bool.and_comm _ _
  unfold slotCount
  rw [hrows]
  obtain ⟨hnodup, hmem⟩ := foldl_pushNew ((((t.rows mapId wing).filter fun row => !row.isOptional).map slotId)) [] nodup_nil
  set seen := (((t.rows mapId wing).filter fun row => !row.isOptional).map slotId).foldl pushNew [] with hseen
  have himage : seen.toFinset = (t.requiredSlots mapId wing).image Slot.id := by
    ext a
    rw [mem_toFinset, hmem, Finset.mem_image]
    unfold requiredSlots
    simp [slotId_eq]
  have hvalid : ∀ s ∈ t.requiredSlots mapId wing, s.Valid := by
    intro s hs
    obtain ⟨row, hrow, -, rfl⟩ := mem_requiredSlots.1 hs
    exact h.slot hrow
  have hinj : Set.InjOn Slot.id (t.requiredSlots mapId wing : Set Slot) := fun s hs s' hs' heq =>
    Slot.id_injective (hvalid s hs) (hvalid s' hs') heq
  have hlength : seen.length = (t.requiredSlots mapId wing).card := by
    rw [← toFinset_card_of_nodup hnodup, himage, Finset.card_image_of_injOn hinj]
  -- the numbers of the slots are fewer than the numbers there are
  have hbound : (t.requiredSlots mapId wing).card < 2 ^ 32 := by
    have hcard : (t.requiredSlots mapId wing).card ≤ ((Finset.range (2 ^ 32)).erase (2 ^ 31)).card := by
      refine Finset.card_le_card_of_injOn (fun s => s.id.toNat) (fun s hs => ?_) fun s hs s' hs' heq =>
        hinj hs hs' (UInt32.toNat_inj.1 heq)
      exact Finset.mem_coe.2 (Finset.mem_erase.2 ⟨s.id_ne (hvalid s hs), Finset.mem_range.2 s.id.toNat_lt⟩)
    rw [Finset.card_erase_of_mem (Finset.mem_range.2 (by omega)), Finset.card_range] at hcard
    omega
  rw [toNat_ofNat_of_lt' (by rw [hlength]; exact hbound), hlength]

theorem mem_lastSlots {a : UInt32} : a ∈ t.lastSlots mapId wing ↔ ∃ s ∈ t.lastBossSlots mapId wing, s.id = a := by
  unfold lastSlots
  rw [(foldl_pushNew _ [] nodup_nil).2]
  constructor
  · rintro (hmem | hmem)
    · cases hmem
    obtain ⟨last, hlast, hslot⟩ := mem_flatMap.1 hmem
    obtain ⟨row, hrow, rfl⟩ := mem_map.1 hslot
    simp only [mem_filter, Bool.and_eq_true, decide_eq_true_eq] at hlast hrow
    refine ⟨row.slot, mem_lastBossSlots.2 ⟨row, mem_rows.2 ⟨hrow.1, hrow.2.1.1, hrow.2.1.2⟩, ?_, rfl⟩, (slotId_eq row).symm⟩
    exact ⟨last, hlast.1, hlast.2.1, hlast.2.2, hrow.2.2.symm⟩
  · rintro ⟨s, hs, rfl⟩
    obtain ⟨row, hrow, ⟨last, hlast, hmap, hwing, hentry⟩, rfl⟩ := mem_lastBossSlots.1 hs
    obtain ⟨hmem, hrowMap, hrowWing⟩ := mem_rows.1 hrow
    refine .inr (mem_flatMap.2 ⟨last, by simp [hlast, hmap, hwing], mem_map.2 ⟨row, ?_, slotId_eq row⟩⟩)
    simp [hmem, hrowMap, hrowWing, hentry]

/-- The row that a creature's death is taken for. -/
theorem rowOf_mem (h : t.rowOf mapId entry = some row) : row ∈ t.rows mapId row.wing ∧ row.entry = entry := by
  have hmem := mem_of_find?_eq_some h
  have hmap := find?_some h
  rw [(t.bossesByEntry_perm entry).mem_iff, mem_filter] at hmem
  exact ⟨mem_rows.2 ⟨hmem.1, by simpa using hmap, rfl⟩, by simpa using hmem.2⟩

theorem Sound.rowOf_eq (h : t.Sound mapId) (hrow : row ∈ t.rows mapId wing) : t.rowOf mapId row.entry = some row := by
  obtain ⟨hmem, hmap, -⟩ := mem_rows.1 hrow
  cases hfind : t.rowOf mapId row.entry with
  | none =>
    have hnone := find?_eq_none.1 hfind row ((t.bossesByEntry_perm row.entry).mem_iff.2 (by simp [hmem]))
    simp [hmap] at hnone
  | some row' =>
    obtain ⟨hrow', hentry⟩ := rowOf_mem hfind
    obtain ⟨hmem', hmap', -⟩ := mem_rows.1 hrow'
    rw [h.unique row' hmem' row hmem hmap' hmap hentry]

theorem Sound.killedSlots_append (h : t.Sound mapId) (hrow : t.rowOf mapId entry = some row) :
    t.killedSlots mapId wing (dead ++ [entry]) =
      if row.wing = wing then insert row.slot (t.killedSlots mapId wing dead) else t.killedSlots mapId wing dead := by
  obtain ⟨hmem, hentry⟩ := rowOf_mem hrow
  have hother : ∀ row' ∈ t.rows mapId wing, row'.entry = entry → row' = row := by
    intro row' hrow' hentry'
    have heq := h.rowOf_eq hrow'
    rw [hentry', hrow] at heq
    exact (Option.some.inj heq).symm
  ext s
  rw [mem_killedSlots]
  simp only [mem_append, mem_singleton]
  split_ifs with hwing
  · rw [Finset.mem_insert, mem_killedSlots]
    constructor
    · rintro ⟨row', hrow', hdead | hdead, rfl⟩
      · exact .inr ⟨row', hrow', hdead, rfl⟩
      · exact .inl (by rw [hother row' hrow' hdead])
    · rintro (rfl | ⟨row', hrow', hdead, rfl⟩)
      · exact ⟨row, hwing ▸ hmem, .inr hentry, rfl⟩
      · exact ⟨row', hrow', .inl hdead, rfl⟩
  · rw [mem_killedSlots]
    constructor
    · rintro ⟨row', hrow', hdead | hdead, rfl⟩
      · exact ⟨row', hrow', hdead, rfl⟩
      · exact absurd ((hother row' hrow' hdead) ▸ (mem_rows.1 hrow').2.2) hwing
    · rintro ⟨row', hrow', hdead, rfl⟩
      exact ⟨row', hrow', .inl hdead, rfl⟩

/-- The death of a creature that has no row fills no slot. -/
theorem Sound.killedSlots_other (h : t.Sound mapId) (hrow : t.rowOf mapId entry = none) :
    t.killedSlots mapId wing (dead ++ [entry]) = t.killedSlots mapId wing dead := by
  have hother : ∀ row' ∈ t.rows mapId wing, row'.entry ≠ entry := by
    intro row' hrow' hentry
    have heq := h.rowOf_eq hrow'
    rw [hentry, hrow] at heq
    cases heq
  ext s
  rw [mem_killedSlots, mem_killedSlots]
  simp only [mem_append, mem_singleton]
  constructor
  · rintro ⟨row', hrow', hdead | hdead, rfl⟩
    · exact ⟨row', hrow', hdead, rfl⟩
    · exact absurd hdead (hother row' hrow')
  · rintro ⟨row', hrow', hdead, rfl⟩
    exact ⟨row', hrow', .inl hdead, rfl⟩

end Lists

end ComfyCraft.DungeonRun
