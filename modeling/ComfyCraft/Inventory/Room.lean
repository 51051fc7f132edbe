import ComfyCraft.Inventory.CanStore
import Mathlib.Algebra.Order.BigOperators.Group.List

/-! What a successful search for room promises: the positions are distinct, each one is a free
slot or a stack of the same template with enough room left, and their counts add up to what
was asked for. -/

namespace ComfyCraft

open List UInt32 Item

namespace Player

variable {om : ObjectMgr}

/-- The position is a slot something can lie in. -/
def HasSlot (p : Player om) (pos : Pos) : Prop :=
  pos.bag = INVENTORY_SLOT_BAG_0 ∧ ownSlot pos.slot ∨
    pos.bag ≠ INVENTORY_SLOT_BAG_0 ∧ ∃ pBag, p.getItemByPos ⟨INVENTORY_SLOT_BAG_0, pos.bag⟩ = some pBag ∧
      pos.slot.toNat < pBag.getBagSize.toNat

/-- `n` pieces of the template can be put at the position. -/
def RoomFor (p : Player om) (proto : ItemPrototype) (pos : Pos) (n : Nat) : Prop :=
  match p.getItemByPos pos with
  | none => p.HasSlot pos ∧ n ≤ proto.stackable.toNat
  | some it => it.getEntry = proto.itemId ∧ it.count.toNat + n ≤ proto.stackable.toNat

variable {p : Player om} {proto : ItemPrototype} {pos : Pos} {n r count entry : UInt32} {merge : Bool} {bag slot : UInt8}
  {total : Nat} {s s' : Search} {dest : List ItemPosCount}

theorem RoomFor.mono {n m : Nat} (h : p.RoomFor proto pos n) (hm : m ≤ n) : p.RoomFor proto pos m := by
  unfold RoomFor at *
  split at h
  · exact ⟨h.1, by omega⟩
  · exact ⟨h.1, by omega⟩

theorem RoomFor.le {n : Nat} (h : p.RoomFor proto pos n) : n ≤ proto.stackable.toNat := by
  unfold RoomFor at h
  split at h
  · exact h.2
  · have := h.2; omega

/-- The bags a search of `bag` may put something into. -/
def Reached (bag : UInt8) (pos : Pos) : Prop :=
  pos.bag = INVENTORY_SLOT_BAG_0 ∨ bagSlot pos.bag ∨ pos.bag = bag ∧ bag ≠ NULL_BAG

structure Good (p : Player om) (proto : ItemPrototype) (bag : UInt8) (total : Nat) (s : Search) : Prop where
  nodup : (s.dest.map ItemPosCount.pos).Nodup
  room : ∀ d ∈ s.dest, p.RoomFor proto d.pos d.count.toNat
  reached : ∀ d ∈ s.dest, Reached bag d.pos
  sum : (s.dest.map fun d => d.count.toNat).sum + s.count.toNat = total

theorem stackable_sub {c : UInt32} (h : c.toNat < proto.stackable.toNat) :
    (proto.stackable - c).toNat = proto.stackable.toNat - c.toNat :=
  UInt32.toNat_sub_of_le _ _ (UInt32.le_iff_toNat_le.2 h.le)

theorem roomAt_some (h : p.roomAt proto merge pos = some r) (hs : p.getItemByPos pos = none → p.HasSlot pos) :
    p.RoomFor proto pos r.toNat := by
  unfold roomAt at h
  unfold RoomFor
  cases hp : p.getItemByPos pos with
  | none =>
    rw [hp] at h
    simp only at h ⊢
    split_ifs at h
    cases h
    exact ⟨hs hp, le_rfl⟩
  | some it =>
    rw [hp] at h
    simp only at h ⊢
    split_ifs at h
    split at h
    · cases h
    rename_i u hu
    cases h
    obtain ⟨he, hc⟩ := canBeMerged_ok hu
    rw [stackable_sub hc]
    exact ⟨he, by omega⟩

theorem good_take (hg : p.Good proto bag total s) (hr : p.RoomFor proto pos r.toNat) (hb : Reached bag pos) :
    p.Good proto bag total (take pos r s) := by
  unfold take
  set n : UInt32 := if s.count < r then s.count else r with hn
  have hnr : n.toNat ≤ r.toNat ∧ n.toNat ≤ s.count.toNat := by
    rw [hn]
    split_ifs with hlt
    · rw [lt_iff_toNat_lt] at hlt; omega
    · rw [lt_iff_toNat_lt] at hlt; omega
  have hstack := proto.stackable_le
  have hle := hr.le
  have h8 : n.toUInt8.toNat = n.toNat := by
    rw [toNat_toUInt8]; omega
  have hsub : (s.count - n).toNat = s.count.toNat - n.toNat :=
    UInt32.toNat_sub_of_le _ _ (UInt32.le_iff_toNat_le.2 hnr.2)
  simp only
  split_ifs with hc
  · exact hg
  have hnew : ∀ d ∈ s.dest, d.pos ≠ pos := by
    intro d hd heq
    exact hc (any_eq_true.2 ⟨d, hd, by simp [heq]⟩)
  refine ⟨?_, ?_, ?_, ?_⟩
  · rw [map_append, nodup_append]
    refine ⟨hg.nodup, by simp, ?_⟩
    intro q hq q' hq' heq
    obtain ⟨d, hd, rfl⟩ := mem_map.1 hq
    simp only [map_cons, map_nil, mem_singleton] at hq'
    exact hnew d hd (heq.trans hq')
  · intro d hd
    rcases mem_append.1 hd with hd | hd
    · exact hg.room d hd
    · rw [mem_singleton.1 hd]
      exact hr.mono (by rw [h8]; exact hnr.1)
  · intro d hd
    rcases mem_append.1 hd with hd | hd
    · exact hg.reached d hd
    · rw [mem_singleton.1 hd]; exact hb
  · have hsum := hg.sum
    simp only [map_append, map_cons, map_nil, sum_append, sum_cons, sum_nil]
    omega

theorem good_takeSlots {ps : List Pos} (hg : p.Good proto bag total s)
    (hps : ∀ pos ∈ ps, Reached bag pos ∧ (p.getItemByPos pos = none → p.HasSlot pos)) :
    p.Good proto bag total (takeSlots p proto merge s ps) := by
  induction ps generalizing s with
  | nil => exact hg
  | cons pos rest ih =>
    have hrest := fun q hq => hps q (mem_cons_of_mem _ hq)
    obtain ⟨hb, hs⟩ := hps pos mem_cons_self
    unfold takeSlots
    split
    · exact ih hg hrest
    rename_i r hr
    have hg' := good_take hg (roomAt_some hr hs) hb
    simp only
    split_ifs
    · exact hg'
    · exact ih hg' hrest

/-- A pass keeps what has been promised so far. -/
def KeepsGood (p : Player om) (proto : ItemPrototype) (bag : UInt8) (pass : Pass) : Prop :=
  ∀ total s s', p.Good proto bag total s → pass.run s = .ok s' → p.Good proto bag total s'

theorem keeps_inInventorySlots (p : Player om) (proto : ItemPrototype) (merge strict : Bool)
    {start stop : UInt8} (bag slot bag' : UInt8) (hown : ∀ j ∈ slots start stop, ownSlot j) :
    p.KeepsGood proto bag' ⟨strict, p.inInventorySlots start stop proto merge bag slot⟩ := by
  intro total s s' hg h
  cases h
  apply good_takeSlots hg
  intro pos hpos
  obtain ⟨j, hj, rfl⟩ := mem_map.1 hpos
  exact ⟨.inl rfl, fun _ => .inl ⟨rfl, hown j (mem_of_mem_filter hj)⟩⟩

theorem good_inBag {i skipBag skipSlot : UInt8} {non : Bool} (hg : p.Good proto bag total s)
    (h : p.inBag i proto merge non skipBag skipSlot s = .ok s') (hi : Reached bag ⟨i, 0⟩)
    (hi0 : i ≠ INVENTORY_SLOT_BAG_0) : p.Good proto bag total s' := by
  unfold inBag at h
  split_ifs at h
  split at h
  · cases h
  rename_i pBag hbag
  simp only at h
  split_ifs at h
  cases h
  apply good_takeSlots hg
  intro pos hpos
  obtain ⟨j, hj, rfl⟩ := mem_map.1 hpos
  have hlt := (mem_slots (mem_of_mem_filter hj)).2
  rw [toNat_toUInt8] at hlt
  refine ⟨hi, fun _ => .inr ⟨hi0, pBag, hbag, ?_⟩⟩
  unfold getBagSize at *
  change j.toNat < _
  omega

theorem keeps_bagPasses (p : Player om) (proto : ItemPrototype) (merge non : Bool) (bag slot bag' : UInt8) :
    ∀ pass ∈ p.bagPasses proto merge non bag slot, p.KeepsGood proto bag' pass := by
  intro pass hpass total s s' hg h
  obtain ⟨i, hi, rfl⟩ := mem_map.1 hpass
  have hlt := mem_slots hi
  have h23 : INVENTORY_SLOT_BAG_END.toNat = 23 := rfl
  refine good_inBag hg h (.inr (.inl ?_)) ?_
  · unfold bagSlot
    simp only [Bool.or_eq_true, Bool.and_eq_true, decide_eq_true_eq, UInt8.le_iff_toNat_le, UInt8.lt_iff_toNat_lt]
    omega
  · rintro rfl
    have : INVENTORY_SLOT_BAG_0.toNat = 255 := rfl
    omega

theorem keeps_oneBag (p : Player om) (proto : ItemPrototype) (merge : Bool) (bag slot : UInt8)
    (hb : bag ≠ INVENTORY_SLOT_BAG_0) (h0 : bag ≠ NULL_BAG) : p.KeepsGood proto bag ⟨true, p.oneBag bag proto merge slot⟩ := by
  intro total s s' hg h
  change oneBag p bag proto merge slot s = _ at h
  unfold oneBag at h
  split at h
  · rename_i s1 h1
    cases h
    exact good_inBag hg h1 (.inr (.inr ⟨rfl, h0⟩)) hb
  · exact good_inBag hg h (.inr (.inr ⟨rfl, h0⟩)) hb

theorem ownSlot_keyring : ∀ j ∈ slots KEYRING_SLOT_START KEYRING_SLOT_END, ownSlot j := by decide +kernel

theorem ownSlot_backpack : ∀ j ∈ slots INVENTORY_SLOT_ITEM_START INVENTORY_SLOT_ITEM_END, ownSlot j := by decide +kernel

theorem ownSlot_of_not_buyback (h1 : ¬ KEYRING_SLOT_END ≤ slot)
    (h2 : ¬ (BUYBACK_SLOT_START ≤ slot ∧ slot < BUYBACK_SLOT_END)) : ownSlot slot := by
  unfold ownSlot
  simp only [Bool.or_eq_true, Bool.and_eq_true, decide_eq_true_eq, UInt8.le_iff_toNat_le, UInt8.lt_iff_toNat_lt] at *
  have e1 : BANK_SLOT_BAG_END.toNat = 69 := rfl
  have e2 : KEYRING_SLOT_START.toNat = 81 := rfl
  have e4 : BUYBACK_SLOT_START.toNat = 69 := rfl
  have e5 : BUYBACK_SLOT_END.toNat = 81 := rfl
  omega

theorem good_inSpecificSlot
    (hg : p.Good proto bag total s) (h0 : bag ≠ NULL_BAG) (hslot : ¬ (bag = INVENTORY_SLOT_BAG_0 ∧ KEYRING_SLOT_END ≤ slot))
    (h : p.inSpecificSlot bag slot proto s = .ok s') : p.Good proto bag total s' := by
  have hb : Reached bag ⟨bag, slot⟩ := .inr (.inr ⟨rfl, h0⟩)
  unfold inSpecificSlot at h
  split at h
  · rename_i it hit
    split at h
    · cases h
    rename_i u hu
    cases h
    obtain ⟨he, hc⟩ := canBeMerged_ok hu
    apply good_take hg _ hb
    unfold RoomFor
    rw [hit, stackable_sub hc]
    exact ⟨he, by omega⟩
  · rename_i hn
    have hroom : p.HasSlot ⟨bag, slot⟩ → p.RoomFor proto ⟨bag, slot⟩ proto.stackable.toNat := by
      intro hs
      unfold RoomFor
      rw [hn]
      exact ⟨hs, le_rfl⟩
    split_ifs at h with h1 h2 h3
    · cases h
      have hs : ownSlot slot := ownSlot_of_not_buyback (fun hk => hslot ⟨h1, hk⟩) fun hc => h3 (.inl hc)
      exact good_take hg (hroom (.inl ⟨h1, hs⟩)) hb
    · split at h
      · cases h
      rename_i pBag hbag
      split_ifs at h with h4 h5
      cases h
      exact good_take hg (hroom (.inr ⟨h1, pBag, hbag, not_le.1 h4⟩)) hb

theorem keeps_passes (p : Player om) (proto : ItemPrototype) (bag slot : UInt8) :
    ∀ pass ∈ p.passes proto bag slot, p.KeepsGood proto bag pass := by
  have hkey := fun merge => p.keeps_inInventorySlots proto merge true bag slot bag ownSlot_keyring
  have hpack := fun merge => p.keeps_inInventorySlots proto merge true bag slot bag ownSlot_backpack
  have hbags := fun merge non => p.keeps_bagPasses proto merge non bag slot bag
  intro pass hpass
  unfold passes at hpass
  rcases mem_append.1 hpass with hpass | hgen
  · rcases mem_append.1 hpass with hslot | hbag
    · unfold specificSlotPasses at hslot
      by_cases h1 : bag ≠ NULL_BAG ∧ slot ≠ NULL_SLOT
      · rw [if_pos h1] at hslot
        rw [mem_singleton.1 hslot]
        intro total s s' hg h
        simp only at h
        split_ifs at h with h2
        exact good_inSpecificSlot hg h1.1 h2 h
      · rw [if_neg h1] at hslot
        cases hslot
    · unfold specificBagPasses at hbag
      split_ifs at hbag with h1 h2 h3 h4 h4 h3
      all_goals simp only [mem_append, mem_cons, not_mem_nil, or_false, false_or] at hbag
      · rcases hbag with ((rfl | rfl) | rfl) | rfl
        exacts [hkey true, hpack true, hkey false, hpack false]
      · rcases hbag with (rfl | rfl) | rfl
        exacts [hkey true, hpack true, hpack false]
      · rcases hbag with rfl | rfl
        exacts [hkey false, hpack false]
      · subst hbag
        exact hpack false
      · rcases hbag with rfl | rfl
        exacts [p.keeps_oneBag proto true bag slot h2 h1, p.keeps_oneBag proto false bag slot h2 h1]
      · subst hbag
        exact p.keeps_oneBag proto false bag slot h2 h1
  · unfold generalPasses at hgen
    simp only [mem_append] at hgen
    rcases hgen with ((hmerge | hspecial) | hfree) | hplain
    · split_ifs at hmerge with h1 h2
      · simp only [mem_append, mem_cons, not_mem_nil, or_false] at hmerge
        rcases hmerge with ((rfl | rfl) | h) | h
        exacts [hkey true, hpack true, hbags true false _ h, hbags true true _ h]
      · simp only [mem_append, mem_cons, not_mem_nil, or_false] at hmerge
        rcases hmerge with (rfl | rfl) | h
        exacts [hkey true, hpack true, hbags true true _ h]
      · cases hmerge
    · split_ifs at hspecial with h1 h2
      · simp only [mem_append, mem_cons, not_mem_nil, or_false] at hspecial
        rcases hspecial with rfl | h
        exacts [hkey false, hbags false false _ h]
      · simp only [nil_append] at hspecial
        exact hbags false false _ hspecial
      · cases hspecial
    · rw [mem_singleton.1 hfree]
      exact hpack false
    · exact hbags false true _ hplain

theorem runPasses_ok {ps : List Pass} (hps : ∀ pass ∈ ps, p.KeepsGood proto bag pass)
    (hg : p.Good proto bag total s) (h : runPasses n ps s = .ok dest) :
    n = 0 ∧ p.Good proto bag total ⟨dest, 0⟩ := by
  induction ps generalizing s with
  | nil => cases h
  | cons pass rest ih =>
    have hrest := fun q hq => hps q (mem_cons_of_mem _ hq)
    unfold runPasses at h
    split at h
    · split_ifs at h
      exact ih hrest hg h
    rename_i s' hs'
    have hg' := hps pass mem_cons_self _ _ _ hg hs'
    split_ifs at h with h0 hn
    · cases h
      refine ⟨hn, ?_⟩
      rw [← h0]
      exact hg'
    · exact ih hrest hg' h

theorem noSimilarCount_ne_zero (h : p._canTakeMoreSimilarItems proto count = some n) : n ≠ 0 := by
  unfold _canTakeMoreSimilarItems at h
  simp only at h
  split_ifs at h with h1 h2
  cases h
  intro h0
  rw [add_comm] at h0
  rw [sub_eq_zero.1 h0] at h2
  exact UInt32.lt_irrefl _ h2

/-- A search that succeeds has found room for exactly the count asked for. -/
theorem canStoreNewItem_ok (h : p.canStoreNewItem bag slot entry count = .ok dest) :
    ∃ proto, om.getItemPrototype entry = some proto ∧ p.Good proto bag count.toNat ⟨dest, 0⟩ := by
  unfold canStoreNewItem at h
  split at h
  · cases h
  rename_i proto hproto
  have hstart : ∀ c : UInt32, p.Good proto bag c.toNat ⟨[], c⟩ := fun c =>
    ⟨nodup_nil, by simp, by simp, by simp⟩
  split at h
  · exact ⟨proto, hproto, (runPasses_ok (p.keeps_passes proto bag slot) (hstart _) h).2⟩
  rename_i n hn
  split_ifs at h
  exact absurd (runPasses_ok (p.keeps_passes proto bag slot) (hstart _) h).1 (noSimilarCount_ne_zero hn)

/-- No search finds room for more than one stack in each of the 65536 positions there are. -/
theorem canStoreNewItem_count_le (h : p.canStoreNewItem bag slot entry count = .ok dest) : count.toNat ≤ 255 * 65536 := by
  obtain ⟨proto, -, hg⟩ := canStoreNewItem_ok h
  have hsum := hg.sum
  have hlen : dest.length ≤ 65536 := by
    have hinj : Function.Injective fun q : Pos => q.bag.toNat * 256 + q.slot.toNat := by
      rintro ⟨b, j⟩ ⟨b', j'⟩ heq
      have := j.toNat_lt
      have := j'.toNat_lt
      simp only at heq
      have hb : b = b' := UInt8.toNat_inj.1 (by omega)
      have hj : j = j' := UInt8.toNat_inj.1 (by omega)
      rw [hb, hj]
    have hnd := hg.nodup.map hinj
    have hlt : ∀ n ∈ (dest.map ItemPosCount.pos).map (fun q : Pos => q.bag.toNat * 256 + q.slot.toNat), n < 65536 := by
      intro n hn
      obtain ⟨q, -, rfl⟩ := mem_map.1 hn
      have := q.bag.toNat_lt
      have := q.slot.toNat_lt
      omega
    have hsub := (subperm_of_subset hnd fun n hn => mem_range.2 (hlt n hn)).length_le
    simpa using hsub
  have hle : (dest.map fun d => d.count.toNat).sum ≤ dest.length * 255 := by
    have := sum_le_card_nsmul (dest.map fun d => d.count.toNat) 255 (by
      intro n hn
      obtain ⟨d, -, rfl⟩ := mem_map.1 hn
      have := d.count.toNat_lt
      omega)
    simpa using this
  simp only [UInt32.toNat_zero, Nat.add_zero] at hsum
  omega

/-- A stack that a search was pointed at has the template and is not full. -/
theorem canStoreNewItem_target {it : Item om}
    (h : p.canStoreNewItem pos.bag pos.slot entry count = .ok dest) (hp : p.getItemByPos pos = some it) :
    it.getEntry = entry ∧ it.count.toNat < it.proto.stackable.toNat := by
  obtain ⟨hbag, hslot⟩ := pos_of_getItemByPos hp
  unfold canStoreNewItem at h
  split at h
  · cases h
  rename_i proto hproto
  have hrun : ∀ n s, runPasses n (p.passes proto pos.bag pos.slot) s = .ok dest →
      it.getEntry = proto.itemId ∧ it.count.toNat < proto.stackable.toNat := by
    intro n s hs
    unfold passes specificSlotPasses at hs
    rw [if_pos ⟨hbag, hslot⟩] at hs
    simp only [cons_append, nil_append, runPasses] at hs
    split at hs
    · simp at hs
    rename_i s' hs'
    split_ifs at hs'
    unfold inSpecificSlot at hs'
    rw [hp] at hs'
    simp only at hs'
    split at hs'
    · cases hs'
    · rename_i u hu
      exact canBeMerged_ok hu
  have hfacts : it.getEntry = proto.itemId ∧ it.count.toNat < proto.stackable.toNat := by
    split at h
    · exact hrun _ _ h
    · split_ifs at h
      exact hrun _ _ h
  have hsame : it.proto = proto := by
    have hk := it.known
    have he := om.itemId_eq hproto
    rw [show it.proto.itemId = entry from hfacts.1.trans he, hproto] at hk
    exact (Option.some.inj hk).symm
  rw [hsame]
  exact ⟨hfacts.1.trans (om.itemId_eq hproto), hfacts.2⟩

end Player

end ComfyCraft
