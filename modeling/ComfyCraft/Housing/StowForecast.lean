import ComfyCraft.Housing.ShelfMoves
import ComfyCraft.Housing.ShelfOrder

/-! What packing a house up would come to, and what it comes to. The forecast counts how many squares are
free, and the packing walks over them; the squares below the one it looks on from are all taken, so the
two agree piece by piece. -/

namespace ComfyCraft

open List UInt32 AList List.Sublist

variable {om : ObjectMgr} {F : Type} {sv : Server F}

namespace HouseMgr

def squares : List UInt32 := (List.range' 1 HOUSE_STORAGE_MAX.toNat).map UInt32.ofNat

variable {slot next accountId : UInt32} {shelf : Table UInt32 UInt32} {s : HouseMgr sv} {pieces : List UInt32}
  {count : StowCount × Nat} {t : Stowing sv}

theorem isSquare_iff : IsSquare slot ↔ 1 ≤ slot.toNat ∧ slot.toNat ≤ 1000 := by
  unfold IsSquare HOUSE_STORAGE_MAX
  rw [UInt32.le_iff_toNat_le, ← UInt32.toNat_inj.ne]
  change slot.toNat ≠ 0 ∧ slot.toNat ≤ 1000 ↔ _
  omega

theorem toNat_ofNat_square {n : Nat} (h : n ≤ 1001) : (UInt32.ofNat n).toNat = n :=
  toNat_ofNat_of_lt (by change n < 2 ^ 32; omega)

theorem mem_squares : slot ∈ squares ↔ IsSquare slot := by
  unfold squares
  rw [isSquare_iff, mem_map]
  constructor
  · rintro ⟨n, hn, rfl⟩
    have hrange : 1 ≤ n ∧ n < 1 + 1000 := mem_range'_1.1 hn
    rw [toNat_ofNat_square (by omega)]
    omega
  · intro h
    exact ⟨slot.toNat, mem_range'_1.2 ⟨h.1, by change slot.toNat < 1 + 1000; omega⟩, UInt32.ofNat_toNat⟩

theorem nodup_squares : squares.Nodup := by
  refine List.Nodup.map_on (fun a ha b hb hab => ?_) nodup_range'
  have ha' : a < 1 + 1000 := (mem_range'_1.1 ha).2
  have hb' : b < 1 + 1000 := (mem_range'_1.1 hb).2
  rw [← toNat_ofNat_square (n := a) (by omega), hab, toNat_ofNat_square (by omega)]

/-! The search for a free square. -/

theorem freeSquare_eq (shelf : Table UInt32 UInt32) (next : UInt32) : freeSquare shelf next =
      ((List.range' next.toNat (1001 - next.toNat)).find? fun n => (shelf.lookup (UInt32.ofNat n)).isNone).map UInt32.ofNat := by
  unfold freeSquare
  rw [find?_map]
  rfl

theorem freeSquare_some (h : freeSquare shelf next = some slot) :
    next ≤ slot ∧ slot ≤ HOUSE_STORAGE_MAX ∧ shelf.lookup slot = none ∧
      ∀ x, next ≤ x → x < slot → (shelf.lookup x).isSome = true := by
  rw [freeSquare_eq, Option.map_eq_some_iff] at h
  obtain ⟨n, hn, rfl⟩ := h
  obtain ⟨hfree, hmem, hbefore⟩ := find?_range'_eq_some.1 hn
  have hrange := mem_range'_1.1 hmem
  have hnat : (UInt32.ofNat n).toNat = n := toNat_ofNat_square (by omega)
  refine ⟨UInt32.le_iff_toNat_le.2 (by omega), UInt32.le_iff_toNat_le.2 ?_, Option.isNone_iff_eq_none.1 hfree, fun x hx hlt => ?_⟩
  · change (UInt32.ofNat n).toNat ≤ 1000
    omega
  have hx' := UInt32.le_iff_toNat_le.1 hx
  have hlt' := UInt32.lt_iff_toNat_lt.1 hlt
  have hsome := hbefore x.toNat hx' (by omega)
  rw [UInt32.ofNat_toNat] at hsome
  simpa using hsome

theorem freeSquare_none (h : freeSquare shelf next = none) {x : UInt32}
    (hx : next ≤ x) (hle : x ≤ HOUSE_STORAGE_MAX) : (shelf.lookup x).isSome = true := by
  rw [freeSquare_eq, Option.map_eq_none_iff, find?_range'_eq_none] at h
  have hx' := UInt32.le_iff_toNat_le.1 hx
  have hle' : x.toNat ≤ 1000 := UInt32.le_iff_toNat_le.1 hle
  have hsome := h x.toNat hx' (by omega)
  rw [UInt32.ofNat_toNat] at hsome
  simpa using hsome

def freeCount (shelf : Table UInt32 UInt32) : Nat := squares.countP fun slot => (shelf.lookup slot).isNone

theorem freeCount_insert (itemEntry : UInt32) (hslot : IsSquare slot)
    (hfree : shelf.lookup slot = none) : freeCount shelf = freeCount (shelf.insert slot itemEntry) + 1 := by
  have hcount : ∀ l : List UInt32, l.Nodup → l.countP (fun x => (shelf.lookup x).isNone) =
        l.countP (fun x => ((shelf.insert slot itemEntry).lookup x).isNone) + if slot ∈ l then 1 else 0 := by
    intro l hl
    induction l with
    | nil => rfl
    | cons x l ih =>
      rw [nodup_cons] at hl
      rw [countP_cons, countP_cons, ih hl.2]
      rcases eq_or_ne x slot with rfl | hx
      · simp [hl.1, hfree]
      rw [lookup_insert_ne hx]
      simp only [mem_cons, hx.symm, false_or]
      omega
  unfold freeCount
  rw [hcount squares nodup_squares, if_pos (mem_squares.2 hslot)]

/-- On a shelf with nothing outside its squares, the free ones are those that are not taken. -/
theorem freeCount_eq (h : ∀ slot ∈ shelf.keys, IsSquare slot) :
    freeCount shelf + shelf.entries.length = HOUSE_STORAGE_MAX.toNat := by
  have hperm : (squares.filter fun slot => (shelf.lookup slot).isSome).Perm shelf.keys := by
    rw [perm_ext_iff_of_nodup (nodup_squares.filter _) shelf.keys_nodup]
    intro slot
    rw [mem_filter, mem_squares, AList.lookup_isSome, ← AList.mem_keys]
    exact ⟨fun hs => hs.2, fun hs => ⟨h slot hs, hs⟩⟩
  have hkeys : shelf.entries.length = squares.countP fun slot => (shelf.lookup slot).isSome := by
    rw [countP_eq_length_filter, hperm.length_eq]
    exact (length_map _).symm
  have hall := length_eq_countP_add_countP (fun slot => (shelf.lookup slot).isNone) (l := squares)
  have hlength : squares.length = HOUSE_STORAGE_MAX.toNat := by
    unfold squares
    rw [length_map, length_range']
  unfold freeCount
  rw [hkeys, ← hlength, hall]
  congr 1
  apply countP_congr
  intro slot _
  cases shelf.lookup slot <;> simp

/-! Packing up. -/

/-- The crates of some rows have come to the shelf of an account, each in a square that was free, and their
rows have been queued. -/
structure Stowed (s : HouseMgr sv) (accountId : UInt32) (rows : List StorageRow) (s' : HouseMgr sv) : Prop where
  queued : s'.db.storageOps = s.db.storageOps ++ rows.map fun r => (false, [.replace r])
  squares : ∀ r ∈ rows, r.account = accountId ∧ IsSquare r.slot ∧ s.shelves (accountId, r.slot) = none
  slots : (rows.map StorageRow.slot).Nodup
  shelves : ∀ k v, s'.shelves k = some v ↔ s.shelves k = some v ∨ (⟨k.1, k.2, v⟩ : StorageRow) ∈ rows

theorem Stowed.refl (s : HouseMgr sv) (accountId : UInt32) : Stowed s accountId [] s where
  queued := (append_nil _).symm
  squares := by simp
  slots := nodup_nil
  shelves := by simp

theorem shelves_putOnShelf (s : HouseMgr sv) (accountId slot itemEntry : UInt32) (k : Square) :
    (s.putOnShelf accountId slot itemEntry).shelves k = if k = (accountId, slot) then some itemEntry else s.shelves k := by
  change (shelf { s with storage := s.storage.insert accountId ((s.shelf accountId).insert slot itemEntry) } k.1).lookup k.2 = _
  rw [shelf_insert]
  split_ifs with ha hk hk
  · rw [hk, lookup_insert]
  · rw [lookup_insert_ne fun hs => hk (Prod.ext ha hs), ← ha]
    rfl
  · exact absurd (congrArg Prod.fst hk) ha
  · rfl

theorem Stowed.putOnShelf {s' : HouseMgr sv} {rows : List StorageRow} (h : Stowed s accountId rows s')
    (hslot : IsSquare slot) (hfree : s'.shelves (accountId, slot) = none) (itemEntry : UInt32) :
    Stowed s accountId (rows ++ [⟨accountId, slot, itemEntry⟩]) (s'.putOnShelf accountId slot itemEntry) where
  queued := by
    change s'.db.storageOps ++ _ = _
    rw [h.queued, map_append, append_assoc]
    rfl
  squares := by
    intro r hr
    rcases mem_append.1 hr with hr | hr
    · exact h.squares r hr
    rw [mem_singleton.1 hr]
    refine ⟨rfl, hslot, ?_⟩
    -- what was there before would still be there
    cases hs : s.shelves (accountId, slot) with
    | none => rfl
    | some v =>
      rw [(h.shelves (accountId, slot) v).2 (.inl hs)] at hfree
      cases hfree
  slots := by
    rw [map_append, nodup_append]
    refine ⟨h.slots, nodup_singleton _, ?_⟩
    rintro a ha b hb rfl
    rw [map_cons, map_nil, mem_singleton] at hb
    obtain ⟨r, hr, hrslot⟩ := mem_map.1 ha
    have hin : (⟨accountId, slot, r.itemEntry⟩ : StorageRow) ∈ rows := by
      obtain ⟨account, rslot, entry⟩ := r
      have haccount : account = accountId := (h.squares _ hr).1
      have hsame : rslot = slot := hrslot.trans hb
      exact haccount ▸ hsame ▸ hr
    rw [(h.shelves (accountId, slot) r.itemEntry).2 (.inr hin)] at hfree
    cases hfree
  shelves := by
    intro k v
    rw [shelves_putOnShelf, mem_append, mem_singleton, StorageRow.mk.injEq]
    split_ifs with hk
    · subst hk
      have hnot := fun v => not_congr (h.shelves (accountId, slot) v)
      simp only [hfree, reduceCtorEq, not_false_eq_true, true_iff, not_or] at hnot
      simp only [(hnot v).1, (hnot v).2, Option.some.injEq, true_and, false_or]
      exact eq_comm
    · rw [h.shelves]
      have hne : ¬(k.1 = accountId ∧ k.2 = slot ∧ v = itemEntry) := fun hc => hk (Prod.ext hc.1 hc.2.1)
      simp only [hne, or_false]

def countOne (count : StowCount × Nat) (itemEntry : UInt32) : StowCount × Nat :=
  if itemEntry = 0 then ({ count.1 with noItem := count.1.noItem + 1 }, count.2)
  else if count.2 ≠ 0 then ({ count.1 with savable := count.1.savable + 1 }, count.2 - 1)
  else ({ count.1 with noRoom := count.1.noRoom + 1 }, 0)

/-- The forecast and the packing after the same pieces. -/
structure InStep (s : HouseMgr sv) (accountId : UInt32) (pieces : List UInt32) (count : StowCount × Nat) (t : Stowing sv) : Prop where
  stowed : t.stowed = count.1.savable
  lost : t.lost = count.1.noRoom + count.1.noItem
  free : count.2 = freeCount (t.mgr.shelf accountId)
  next : 1 ≤ t.next.toNat ∧ t.next.toNat ≤ 1001
  taken : ∀ x, x ≠ 0 → x < t.next → ((t.mgr.shelf accountId).lookup x).isSome = true
  rows : ∃ rows, Stowed s accountId rows t.mgr ∧ rows.length = t.stowed ∧ (rows.map StorageRow.itemEntry).Sublist pieces

section

variable (h : InStep s accountId pieces count t)
include h

/-- With no square left from the one it looks on from, none is left at all. -/
theorem InStep.freeCount_zero (hnone : freeSquare (t.mgr.shelf accountId) t.next = none) :
    ∀ x, IsSquare x → ((t.mgr.shelf accountId).lookup x).isSome = true := by
  intro x hx
  rcases UInt32.lt_or_le x t.next with hlt | hle
  · exact h.taken x hx.1 hlt
  · exact freeSquare_none hnone hle hx.2

theorem InStep.stow (itemEntry : UInt32) :
    InStep s accountId (pieces ++ [itemEntry]) (countOne count itemEntry) (t.stow accountId itemEntry) := by
  obtain ⟨rows, hrows, hlength, hsub⟩ := h.rows
  have hlonger : (rows.map StorageRow.itemEntry).Sublist (pieces ++ [itemEntry]) :=
    hsub.trans (sublist_append_left pieces [itemEntry])
  unfold countOne Stowing.stow
  by_cases hzero : itemEntry = 0
  · rw [if_pos hzero, if_pos hzero]
    exact ⟨h.stowed, by rw [h.lost, Nat.add_assoc], h.free, h.next, h.taken, rows, hrows, hlength, hlonger⟩
  rw [if_neg hzero, if_neg hzero]
  cases hsquare : freeSquare (t.mgr.shelf accountId) t.next with
  | none =>
    have hall := h.freeCount_zero hsquare
    have hnone : count.2 = 0 := by
      rw [h.free]
      unfold freeCount
      rw [countP_eq_zero]
      intro x hx
      simp [Option.isSome_iff_ne_none.1 (hall x (mem_squares.1 hx))]
    rw [if_neg (not_not.2 hnone)]
    have hend : 1 ≤ (HOUSE_STORAGE_MAX + 1).toNat ∧ (HOUSE_STORAGE_MAX + 1).toNat ≤ 1001 := by decide
    refine ⟨h.stowed, ?_, hnone ▸ h.free, hend, fun x hx hlt => hall x ⟨hx, ?_⟩, rows, hrows, hlength, hlonger⟩
    · simp only [h.lost]
      omega
    · have hlt' : x.toNat < 1001 := lt_iff_toNat_lt.1 hlt
      have hle : x.toNat ≤ 1000 := by omega
      exact le_iff_toNat_le.2 hle
  | some slot =>
    obtain ⟨hle, hmax, hfree, hbefore⟩ := freeSquare_some hsquare
    have hle' := le_iff_toNat_le.1 hle
    have hmax' : slot.toNat ≤ 1000 := le_iff_toNat_le.1 hmax
    have hslot : IsSquare slot := isSquare_iff.2 ⟨h.next.1.trans hle', hmax'⟩
    have hshelf : (t.mgr.putOnShelf accountId slot itemEntry).shelf accountId = (t.mgr.shelf accountId).insert slot itemEntry := by
      change shelf { t.mgr with storage := t.mgr.storage.insert accountId _ } accountId = _
      rw [shelf_insert, if_pos rfl]
    have hcount := freeCount_insert itemEntry hslot hfree
    have hsome : count.2 ≠ 0 := by
      rw [h.free]
      omega
    have hsucc : (slot + 1).toNat = slot.toNat + 1 := by
      rw [UInt32.toNat_add]
      exact Nat.mod_eq_of_lt (by change slot.toNat + 1 < 2 ^ 32; omega)
    rw [if_pos hsome]
    refine ⟨?_, h.lost, ?_, ?_, fun x hx hlt => ?_, rows ++ [⟨accountId, slot, itemEntry⟩],
      hrows.putOnShelf hslot hfree itemEntry, ?_, ?_⟩
    · simp only [h.stowed]
    · simp only [h.free, hshelf]
      omega
    · simp only [hsucc]
      omega
    · simp only [hshelf]
      rcases eq_or_ne x slot with rfl | hne
      · rw [lookup_insert]
        rfl
      rw [lookup_insert_ne hne]
      have hlt' : x.toNat < (slot + 1).toNat := lt_iff_toNat_lt.1 hlt
      have hne' : x.toNat ≠ slot.toNat := fun heq => hne (UInt32.toNat_inj.1 heq)
      rcases UInt32.lt_or_le x t.next with hbelow | hfrom
      · exact h.taken x hx hbelow
      · exact hbefore x hfrom (lt_iff_toNat_lt.2 (by omega))
    · rw [length_append, hlength]
      rfl
    · rw [map_append]
      exact hsub.append (refl _)

theorem inStep_run (more : List UInt32) :
    InStep s accountId (pieces ++ more) (more.foldl countOne count) (Runs.run (Stowing.stow accountId) t more) := by
  induction more generalizing pieces count t with
  | nil => exact (append_nil pieces).symm ▸ h
  | cons itemEntry more ih =>
    have hstep := ih (h.stow itemEntry)
    rwa [append_assoc] at hstep

end

/-- Packing up does what the forecast says: as many crates go to the shelf as it calls savable, each to a square
that was free, and as many pieces are lost as it finds no room or no item for. -/
theorem stowHouseFurniture_forecast (s : HouseMgr sv) (house : House F)
    (h : ∀ slot ∈ (s.shelf house.accountId).keys, IsSquare slot) :
    (s.stowHouseFurniture house).stowed = (s.countStowable house).savable ∧
      (s.stowHouseFurniture house).lost = (s.countStowable house).noRoom + (s.countStowable house).noItem ∧
      ∃ rows, rows.length = (s.countStowable house).savable ∧ (rows.map StorageRow.itemEntry).Sublist (s.stowable house) ∧
        Stowed s house.accountId rows (s.stowHouseFurniture house).mgr := by
  have hcount := freeCount_eq h
  have hfree : (if HOUSE_STORAGE_MAX.toNat ≤ (s.shelf house.accountId).entries.length then 0
      else HOUSE_STORAGE_MAX.toNat - (s.shelf house.accountId).entries.length) = freeCount (s.shelf house.accountId) := by
    split_ifs
    · omega
    · omega
  have hstart : InStep s house.accountId [] (⟨0, 0, 0⟩, freeCount (s.shelf house.accountId)) ⟨s, 1, 0, 0⟩ := by
    have hone : 1 ≤ (1 : UInt32).toNat ∧ (1 : UInt32).toNat ≤ 1001 := by decide
    refine ⟨rfl, rfl, rfl, hone, fun x hx hlt => absurd (lt_iff_toNat_lt.1 hlt) ?_, [], Stowed.refl s _, rfl, refl _⟩
    have hpos : x.toNat ≠ 0 := fun h0 => hx (UInt32.toNat_inj.1 h0)
    change ¬x.toNat < 1
    omega
  have hrun := inStep_run hstart (s.stowable house)
  have heq : s.countStowable house = ((s.stowable house).foldl countOne (⟨0, 0, 0⟩, freeCount (s.shelf house.accountId))).1 := by
    rw [← hfree]
    rfl
  rw [heq]
  obtain ⟨rows, hrows, hlength, hsub⟩ := hrun.rows
  exact ⟨hrun.stowed, hrun.lost, rows, hlength.trans hrun.stowed, hsub, hrows⟩

/-! The shelves that there are have nothing outside their squares. -/

/-- One row of `LoadStorage`; a square that cannot be reached is ignored. -/
def loadStorageRow (s : HouseMgr sv) (r : StorageRow) : HouseMgr sv :=
  if r.slot = 0 ∨ HOUSE_STORAGE_MAX < r.slot then s
  else { s with storage := s.storage.insert r.account ((s.shelf r.account).insert r.slot r.itemEntry) }

def loadStorage (s : HouseMgr sv) (rows : List StorageRow) : HouseMgr sv := rows.foldl loadStorageRow { s with storage := ∅ }

end HouseMgr

namespace HouseSample

open HouseMgr

def piece (guid itemEntry : UInt32) (source : HouseObjectSource) : HouseObject Int where
  guid := guid
  houseId := 1
  slot := guid
  groupNo := 0
  goEntry := 9
  itemEntry := itemEntry
  x := 0
  y := 0
  z := 0
  o := 0
  rot0 := 0
  rot1 := 0
  rot2 := 0
  rot3 := 0
  scale := 0
  source := source

def furnishedHouse : House Int := { house with objects := [1, 2, 3, 4] }

/-- A crate on the shelf already, and in the house two pieces out of crates, one from the catalogue and a wall. -/
def furnished : HouseMgr server :=
  { shelved with
    houses := AList.singleton 1 furnishedHouse
    objects := (((AList.singleton 1 (piece 1 5 .player)).insert 2 (piece 2 0 .player)).insert 3 (piece 3 0 .template)).insert 4
      (piece 4 5 .player) }

theorem furnished_forecast : (furnished.stowHouseFurniture furnishedHouse).stowed =
    (furnished.countStowable furnishedHouse).savable := by
  have hshelf : (furnished.shelf furnishedHouse.accountId).keys.all (fun slot => decide (HouseMgr.IsSquare slot)) = true := by decide +kernel
  exact (stowHouseFurniture_forecast furnished furnishedHouse fun slot hslot =>
    of_decide_eq_true (all_eq_true.1 hshelf slot hslot)).1

example : furnished.countStowable furnishedHouse = ⟨2, 0, 1⟩ := by decide +kernel

end HouseSample

end ComfyCraft
