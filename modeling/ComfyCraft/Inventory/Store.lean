import ComfyCraft.Inventory.Room

/-! Putting a new item into a player's bags (`StoreNewItem`, `StoreItem`, `_StoreItem`) at the positions a
search has found. The result is that nothing is lost on the way: the player holds exactly the
count of that template more. -/

namespace ComfyCraft

open List UInt8 Item

namespace Player

variable {om : ObjectMgr}

/-- `_StoreItem`: into a free position the object itself, or a clone of it, otherwise only its count. -/
def _storeItem (p : Player om) (pos : Pos) (pItem : Item om) (count : UInt32) (clone : Bool) : Option Pos × Player om :=
  match p.getItemByPos pos with
  | some pItem2 =>
    (some pos, p.setItem pos ((pItem2.bindOnStore (pos.bag = INVENTORY_SLOT_BAG_0 && bagSlot pos.slot)).setCount
      (pItem2.count + count)))
  | none =>
    let stored := if clone then pItem.cloneItem p.nextItemGuid count else some (pItem.setCount count)
    let p := if clone then { p with nextItemGuid := p.nextItemGuid + 1 } else p
    match stored with
    | none => (none, p)
    | some it =>
      let it := it.bindOnStore (pos.bag = INVENTORY_SLOT_BAG_0 && bagSlot pos.slot)
      if pos.bag = INVENTORY_SLOT_BAG_0 then (some pos, p.setItem pos it)
      else match p.getItemByPos ⟨INVENTORY_SLOT_BAG_0, pos.bag⟩ with
        | some _ => (some pos, p.setItem pos it)
        | none => (some pos, p)

/-- `StoreItem`: clones for all positions but the last, which takes the object itself. -/
def storeItem (p : Player om) (pItem : Item om) : List ItemPosCount → Option Pos × Player om
  | [] => (none, p)
  | [d] => p._storeItem d.pos pItem d.count.toUInt32 false
  | d :: rest => storeItem (p._storeItem d.pos pItem d.count.toUInt32 true).2 pItem rest

def destCount (dest : List ItemPosCount) (n : UInt32) : UInt32 := dest.foldl (fun n d => n + d.count.toUInt32) n

def storeNewItem (p : Player om) (dest : List ItemPosCount) (item : UInt32) (randomPropertyId : Int) :
    Option Pos × Player om :=
  match @Item.createItem om p.nextItemGuid item (destCount dest 0) with
  | none => (none, p)
  | some pItem =>
    let pItem := if randomPropertyId ≠ 0 then
      { pItem with fields := { pItem.fields with randomPropertyId := randomPropertyId } } else pItem
    storeItem { p with nextItemGuid := p.nextItemGuid + 1 } pItem dest

/-- The columns of the item at a position replaced, as `CloneItem` does for a withdrawn item. -/
def setFieldsAt (p : Player om) (pos : Pos) (f : ItemFields) : Player om :=
  match p.mItems.lookup pos with
  | some it => p.setItem pos { it with fields := f }
  | none => p

@[simp] theorem holds_setFieldsAt (p : Player om) (pos : Pos) (f : ItemFields) (e : UInt32) :
    (p.setFieldsAt pos f).holds e = p.holds e := by
  unfold setFieldsAt
  split
  · rename_i it hit
    have : (p.setItem pos { it with fields := f }).holds e + (if it.getEntry = e then it.count.toNat else 0) =
        (if it.getEntry = e then it.count.toNat else 0) + p.holds e := holds_setItem_over _ e hit
    omega
  · rfl

/-- What `GetItemByPos` reports as free really is free. -/
def Open (p : Player om) (pos : Pos) : Prop := p.getItemByPos pos = none → p.mItems.lookup pos = none

/-- No object lies inside a bag that `GetItemByPos` does not look into. -/
def NothingHidden (p : Player om) (bag : UInt8) : Prop :=
  bag = NULL_BAG ∨ bag = INVENTORY_SLOT_BAG_0 ∨ bagSlot bag ∨ ∀ j, p.mItems.lookup ⟨bag, j⟩ = none

variable {slot bag : UInt8} {p q : Player om} {pos pos' : Pos} {it : Item om} {proto : ItemPrototype} {n : Nat}
  {count entry : UInt32} {dest : List ItemPosCount}

theorem getItemByPos_own (p : Player om) (h : ownSlot slot) :
    p.getItemByPos ⟨INVENTORY_SLOT_BAG_0, slot⟩ = p.mItems.lookup ⟨INVENTORY_SLOT_BAG_0, slot⟩ := by
  unfold getItemByPos
  rw [if_pos ⟨rfl, h⟩]

theorem getItemByPos_inside {pBag : Item om} (hb : pos.bag ≠ INVENTORY_SLOT_BAG_0)
    (hs : bagSlot pos.bag) (hp : p.mItems.lookup ⟨INVENTORY_SLOT_BAG_0, pos.bag⟩ = some pBag)
    (hsize : pos.slot.toNat < pBag.getBagSize.toNat) : p.getItemByPos pos = p.mItems.lookup pos := by
  unfold getItemByPos
  rw [if_neg fun h => hb h.1, if_pos hs, hp]
  exact if_pos hsize

theorem open_of_hasSlot (hr : Reached bag pos)
    (hh : p.NothingHidden bag) (hs : p.getItemByPos pos = none → p.HasSlot pos) : p.Open pos := by
  intro hn
  rcases hs hn with ⟨hb, hown⟩ | ⟨hb, pBag, hbag, hsize⟩
  · obtain ⟨b, j⟩ := pos
    simp only at hb
    subst hb
    rw [← getItemByPos_own p hown]
    exact hn
  · by_cases hbs : bagSlot pos.bag
    · rw [← getItemByPos_inside hb hbs (lookup_of_getItemByPos hbag) hsize]
      exact hn
    obtain ⟨b, j⟩ := pos
    rcases hr with h | h | ⟨h, h0⟩
    · exact absurd h hb
    · exact absurd h hbs
    cases h
    rcases hh with h | h | h | h
    · exact absurd h h0
    · exact absurd h hb
    · exact absurd h hbs
    · exact h j

theorem not_bagSlot_own : ¬ bagSlot INVENTORY_SLOT_BAG_0 := by decide

theorem ownSlot_of_getItemByPos (h : p.getItemByPos ⟨INVENTORY_SLOT_BAG_0, slot⟩ = some it) : ownSlot slot := by
  by_contra hno
  unfold getItemByPos at h
  rw [if_neg fun h => hno h.2, if_neg not_bagSlot_own] at h
  cases h

/-- One position is written, and what lies there keeps its template if there was something before. -/
theorem getItemByPos_setItem_ne (hne : pos' ≠ pos) (hproto : ∀ old, p.mItems.lookup pos = some old → it.proto = old.proto)
    (hc : pos = ⟨INVENTORY_SLOT_BAG_0, pos'.bag⟩ → (p.mItems.lookup pos).isSome) :
    (p.setItem pos it).getItemByPos pos' = p.getItemByPos pos' := by
  unfold getItemByPos
  rw [lookup_setItem_ne p it hne]
  split_ifs with h1 h2
  · rfl
  · by_cases hcont : pos = ⟨INVENTORY_SLOT_BAG_0, pos'.bag⟩
    · obtain ⟨old, hold⟩ := Option.isSome_iff_exists.1 (hc hcont)
      rw [← hcont, lookup_setItem_self, hold]
      simp only [getBagSize, hproto old hold]
      rfl
    · rw [lookup_setItem_ne p it fun h => hcont h.symm]
  · rfl

theorem hasSlot_setItem (hproto : ∀ old, p.mItems.lookup pos = some old → it.proto = old.proto) (h : p.HasSlot pos') :
    (p.setItem pos it).HasSlot pos' := by
  rcases h with h | ⟨hb, pBag, hbag, hsize⟩
  · exact .inl h
  have hown := ownSlot_of_getItemByPos hbag
  have hold := lookup_of_getItemByPos hbag
  refine .inr ⟨hb, ?_⟩
  rw [getItemByPos_own _ hown]
  by_cases hcont : (⟨INVENTORY_SLOT_BAG_0, pos'.bag⟩ : Pos) = pos
  · rw [hcont] at hold ⊢
    refine ⟨it, lookup_setItem_self _ _ _, ?_⟩
    unfold getBagSize at *
    rw [hproto pBag hold]
    exact hsize
  · rw [lookup_setItem_ne _ _ hcont]
    exact ⟨pBag, hold, hsize⟩

/-- Writing one position leaves the room at the others as it was. -/
theorem roomFor_setItem (hne : pos' ≠ pos) (hproto : ∀ old, p.mItems.lookup pos = some old → it.proto = old.proto)
    (hr : p.RoomFor proto pos' n) (ho : p.Open pos') :
    (p.setItem pos it).RoomFor proto pos' n ∧ (p.setItem pos it).Open pos' := by
  have hsame : (p.setItem pos it).getItemByPos pos' = p.getItemByPos pos' := by
    cases hget : p.getItemByPos pos' with
    | some old =>
      by_cases hown : pos'.bag = INVENTORY_SLOT_BAG_0 ∧ ownSlot pos'.slot
      · rw [← hget]
        unfold getItemByPos
        rw [if_pos hown, if_pos hown, lookup_setItem_ne p it hne]
      rw [← hget]
      apply getItemByPos_setItem_ne hne hproto
      rintro rfl
      unfold getItemByPos at hget
      rw [if_neg hown] at hget
      split_ifs at hget
      split at hget
      · rename_i hb; rw [hb]; rfl
      · cases hget
    | none =>
      unfold RoomFor at hr
      rw [hget] at hr
      rcases hr.1 with ⟨hb, hown⟩ | ⟨hb, pBag, hbag, -⟩
      · obtain ⟨b, j⟩ := pos'
        simp only at hb
        subst hb
        rw [getItemByPos_own _ hown] at hget ⊢
        rw [lookup_setItem_ne p it hne, hget]
      · rw [← hget]
        apply getItemByPos_setItem_ne hne hproto
        rintro rfl
        rw [lookup_of_getItemByPos hbag]
        rfl
  constructor
  · unfold RoomFor at *
    rw [hsame]
    split
    · rename_i hn
      rw [hn] at hr
      exact ⟨hasSlot_setItem hproto hr.1, hr.2⟩
    · rename_i old hold
      rw [hold] at hr
      exact hr
  · intro hn
    rw [lookup_setItem_ne p it hne]
    exact ho (hsame ▸ hn)

/-- What one store does: that many pieces more, and the other positions as they were. -/
structure Stored (p p' : Player om) (proto : ItemPrototype) (pos : Pos) (n : Nat) : Prop where
  holds : ∀ e, p'.holds e = p.holds e + if proto.itemId = e then n else 0
  frame : ∀ pos' m, pos' ≠ pos → p.RoomFor proto pos' m → p.Open pos' → p'.RoomFor proto pos' m ∧ p'.Open pos'

theorem stored_setItem_new (hproto : it.proto = proto) (hn : p.mItems.lookup pos = none) :
    Stored p (p.setItem pos it) proto pos it.count.toNat where
  holds e := by
    rw [holds_setItem_new it e hn, getEntry, hproto]
    split_ifs <;> omega
  frame pos' m hne hr ho := roomFor_setItem hne (fun old hold => by rw [hn] at hold; cases hold) hr ho

theorem stored_setItem_over {old : Item om}
    (hold : p.mItems.lookup pos = some old) (hproto : it.proto = old.proto) (he : old.getEntry = proto.itemId)
    (hcount : it.count.toNat = old.count.toNat + n) : Stored p (p.setItem pos it) proto pos n where
  holds e := by
    have h := holds_setItem_over it e hold
    have hent : it.getEntry = old.getEntry := by unfold getEntry; rw [hproto]
    rw [hent, he] at h
    split_ifs at h ⊢ <;> omega
  frame pos' m hne hr ho := by
    refine roomFor_setItem hne (fun old' h => ?_) hr ho
    rw [hold] at h
    cases h
    exact hproto

theorem Stored.of_mItems {p' q' : Player om}
    (h : Stored p p' proto pos n) (hq : q.mItems = p.mItems) (hq' : q'.mItems = p'.mItems) :
    Stored q q' proto pos n := by
  obtain ⟨h1, h2⟩ := h
  constructor
  · intro e
    unfold Player.holds at *
    rw [hq, hq']
    exact h1 e
  · intro pos' m hne hr ho
    unfold RoomFor Open HasSlot getItemByPos at *
    rw [hq'] 
    rw [hq] at hr ho
    exact h2 pos' m hne hr ho

/-- A store at a free position puts an object of the given template and count there. -/
theorem stored_place (it : Item om) (hq : q.mItems = p.mItems) (hproto : it.proto = proto) (hcount : it.count.toNat = n)
    (hn : p.mItems.lookup pos = none) (hs : p.HasSlot pos) :
    let r := if pos.bag = INVENTORY_SLOT_BAG_0 then (some pos, q.setItem pos it)
      else match q.getItemByPos ⟨INVENTORY_SLOT_BAG_0, pos.bag⟩ with
        | some _ => (some pos, q.setItem pos it)
        | none => (some pos, q)
    Stored p r.2 proto pos n ∧ r.1 = some pos := by
  have hst : Stored p (q.setItem pos it) proto pos n := by
    have h := stored_setItem_new (p := p) hproto hn
    rw [hcount] at h
    exact h.of_mItems rfl (by unfold setItem; rw [hq])
  intro r
  rcases hs with ⟨hb, -⟩ | ⟨hb, pBag, hbag, -⟩
  · have hr : r = (some pos, q.setItem pos it) := if_pos hb
    rw [hr]
    exact ⟨hst, rfl⟩
  have hbag' : q.getItemByPos ⟨INVENTORY_SLOT_BAG_0, pos.bag⟩ = some pBag := by
    unfold getItemByPos at *
    rw [hq]
    exact hbag
  have hr : r = (some pos, q.setItem pos it) := by
    simp only [r, if_neg hb, hbag']
  rw [hr]
  exact ⟨hst, rfl⟩

theorem stored_storeItem {pItem : Item om} (clone : Bool) (hr : p.RoomFor pItem.proto pos count.toNat) (ho : p.Open pos) :
    Stored p (p._storeItem pos pItem count clone).2 pItem.proto pos count.toNat ∧
      (clone = false → (p._storeItem pos pItem count clone).1 = some pos) := by
  have hle := hr.le
  unfold _storeItem
  unfold RoomFor at hr
  split at hr
  · rename_i hget
    rw [hget]
    simp only
    cases clone with
    | false =>
      have h := stored_place (p := p) (q := p)
        ((pItem.setCount count).bindOnStore (pos.bag = INVENTORY_SLOT_BAG_0 && bagSlot pos.slot)) rfl rfl rfl (ho hget) hr.1
      exact ⟨h.1, fun _ => h.2⟩
    | true =>
      refine ⟨?_, fun h => by cases h⟩
      rcases pItem.cloneItem_cases p.nextItemGuid hle with ⟨h0, hnone⟩ | ⟨new, hnew, hproto, hcount⟩
      · rw [if_pos rfl, if_pos rfl, hnone, h0]
        exact ⟨fun e => by simp [holds], fun pos' m _ h1 h2 => ⟨h1, h2⟩⟩
      · rw [if_pos rfl, if_pos rfl, hnew]
        exact (stored_place (p := p) (q := { p with nextItemGuid := p.nextItemGuid + 1 })
          (new.bindOnStore (pos.bag = INVENTORY_SLOT_BAG_0 && bagSlot pos.slot)) rfl hproto (by rw [count_bindOnStore, hcount]) (ho hget) hr.1).1
  · rename_i old hget
    rw [hget]
    refine ⟨?_, fun _ => rfl⟩
    refine stored_setItem_over (lookup_of_getItemByPos hget) rfl hr.1 ?_
    have := pItem.proto.stackable_le
    rw [Item.count_setCount, UInt32.toNat_add]
    omega

theorem stored_storeItems (pItem : Item om) (hnd : (dest.map ItemPosCount.pos).Nodup) (hne : dest ≠ [])
    (hr : ∀ d ∈ dest, p.RoomFor pItem.proto d.pos d.count.toNat) (ho : ∀ d ∈ dest, p.Open d.pos) :
    (∀ e, (p.storeItem pItem dest).2.holds e =
      p.holds e + if pItem.proto.itemId = e then (dest.map fun d => d.count.toNat).sum else 0) ∧
      ∃ pos, (p.storeItem pItem dest).1 = some pos := by
  induction dest generalizing p with
  | nil => exact absurd rfl hne
  | cons d rest ih =>
    have hd : p.RoomFor pItem.proto d.pos d.count.toUInt32.toNat := by
      rw [toNat_toUInt32]; exact hr d mem_cons_self
    have hod := ho d mem_cons_self
    rw [map_cons, nodup_cons] at hnd
    cases rest with
    | nil =>
      obtain ⟨hst, hpos⟩ := stored_storeItem false hd hod
      refine ⟨fun e => ?_, d.pos, hpos rfl⟩
      have h := hst.holds e
      rw [toNat_toUInt32] at h
      simpa [storeItem] using h
    | cons d' rest =>
      obtain ⟨hst, -⟩ := stored_storeItem true hd hod
      -- the positions still to be filled are none of them the one just written
      have hframe : ∀ x ∈ d' :: rest, (p._storeItem d.pos pItem d.count.toUInt32 true).2.RoomFor pItem.proto x.pos x.count.toNat ∧
          (p._storeItem d.pos pItem d.count.toUInt32 true).2.Open x.pos := by
        intro x hx
        have hxd : x.pos ≠ d.pos := fun h => hnd.1 (h ▸ mem_map_of_mem hx)
        exact hst.frame _ _ hxd (hr x (mem_cons_of_mem _ hx)) (ho x (mem_cons_of_mem _ hx))
      obtain ⟨h1, h2⟩ := ih hnd.2 (by simp) (fun x hx => (hframe x hx).1) fun x hx => (hframe x hx).2
      refine ⟨fun e => ?_, h2⟩
      have h := hst.holds e
      have h' := h1 e
      rw [toNat_toUInt32] at h
      unfold storeItem
      have hsum : ((d :: d' :: rest).map fun d => d.count.toNat).sum =
          d.count.toNat + ((d' :: rest).map fun d => d.count.toNat).sum := sum_cons
      rw [h', h, hsum]
      split_ifs <;> omega

theorem destCount_toNat (dest : List ItemPosCount) (n : UInt32) (h : n.toNat + (dest.map fun d => d.count.toNat).sum < 2 ^ 32) :
    (destCount dest n).toNat = n.toNat + (dest.map fun d => d.count.toNat).sum := by
  unfold destCount
  induction dest generalizing n with
  | nil => simp
  | cons d rest ih =>
    rw [map_cons, sum_cons] at h ⊢
    have hadd : (n + d.count.toUInt32).toNat = n.toNat + d.count.toNat := by
      rw [UInt32.toNat_add, UInt8.toNat_toUInt32]; omega
    rw [foldl_cons, ih _ (by omega), hadd]
    omega

/-- Storing where `CanStoreNewItem` says there is room gives the player exactly that many pieces,
and nothing at all for a count of zero. -/
theorem holds_storeNewItem (rnd : Int) (h : p.canStoreNewItem bag slot entry count = .ok dest) (ho : ∀ d ∈ dest, p.Open d.pos) :
    count.toNat = 0 ∧ p.storeNewItem dest entry rnd = (none, p) ∨ (∃ pos, (p.storeNewItem dest entry rnd).1 = some pos) ∧
        ∀ e, (p.storeNewItem dest entry rnd).2.holds e = p.holds e + if entry = e then count.toNat else 0 := by
  obtain ⟨proto, hproto, hg⟩ := canStoreNewItem_ok h
  have hsum : (dest.map fun d => d.count.toNat).sum = count.toNat := by
    have := hg.sum
    simpa using this
  have hfold := destCount_toNat dest 0 (by have := count.toNat_lt; simpa [hsum] using this)
  rw [hsum] at hfold
  unfold storeNewItem
  simp only
  by_cases h0 : count.toNat = 0
  · left
    refine ⟨h0, ?_⟩
    have hz : destCount dest 0 < 1 := by
      rw [UInt32.lt_iff_toNat_lt, hfold, h0]; decide
    unfold createItem
    rw [if_pos hz]
  · right
    obtain ⟨it, hit, hip⟩ := createItem_some p.nextItemGuid hproto
      (show 1 ≤ (destCount dest 0).toNat by rw [hfold]; simp; omega)
    rw [hit]
    simp only
    generalize hit' : (if rnd ≠ 0 then { it with fields := { it.fields with randomPropertyId := rnd } } else it) = it'
    have hip' : it'.proto = proto := by
      rw [← hit', ← hip]
      split_ifs <;> rfl
    have hne : dest ≠ [] := by
      rintro rfl
      exact h0 hsum.symm
    have hst := stored_storeItems (p := { p with nextItemGuid := p.nextItemGuid + 1 }) it' hg.nodup hne
      (by rw [hip']; exact hg.room) (fun d hd => ho d hd)
    refine ⟨hst.2, fun e => ?_⟩
    rw [hst.1 e, hip', om.itemId_eq hproto, hsum]
    rfl

/-- The places found in the character's own slots and in the bags it can look into are free where
they look free. -/
theorem open_of_canStore
    (h : p.canStoreNewItem bag slot entry count = .ok dest) (hh : p.NothingHidden bag) : ∀ d ∈ dest, p.Open d.pos := by
  obtain ⟨proto, -, hg⟩ := canStoreNewItem_ok h
  intro d hd
  refine open_of_hasSlot (hg.reached d hd) hh fun hn => ?_
  have hr := hg.room d hd
  unfold RoomFor at hr
  rw [hn] at hr
  exact hr.1

/-! `DestroyItemCount` by template: the pieces a player carries of one template, looked for in the backpack,
the keyring, the bags and last among what is worn, are destroyed until enough are gone. -/

/-- The places `DestroyItemCount` looks into, in order; the ones among the worn things are marked. -/
def destroyPlaces (p : Player om) : List (Pos × Bool) :=
  let own := fun (start stop : UInt8) (worn : Bool) => (slots start stop).map fun j => ((⟨INVENTORY_SLOT_BAG_0, j⟩ : Pos), worn)
  own INVENTORY_SLOT_ITEM_START INVENTORY_SLOT_ITEM_END false ++ own KEYRING_SLOT_START KEYRING_SLOT_END false ++
    ((slots INVENTORY_SLOT_BAG_START INVENTORY_SLOT_BAG_END).flatMap fun b =>
      match p.getItemByPos ⟨INVENTORY_SLOT_BAG_0, b⟩ with
      | some pBag => (slots 0 pBag.getBagSize.toUInt8).map fun j => ((⟨b, j⟩ : Pos), false)
      | none => []) ++
    own 0 INVENTORY_SLOT_BAG_END true

def bagFilled (p : Player om) (pos : Pos) (pBag : Item om) : Bool :=
  (slots 0 pBag.getBagSize.toUInt8).any fun j => (p.getItemByPos ⟨pos.slot, j⟩).isSome

/-- The loop of `DestroyItemCount`, with the number of pieces that are gone already. -/
def destroyLoop (item count : UInt32) : List (Pos × Bool) → Player om → UInt32 → Player om
  | [], p, _ => p
  | (pos, worn) :: places, p, remcount =>
    match p.getItemByPos pos with
    | none => destroyLoop item count places p remcount
    | some pItem =>
      if pItem.getEntry = item ∧ pItem.inTrade = false then
        if worn ∧ pItem.isBag ∧ p.bagFilled pos pItem then destroyLoop item count places p remcount
        else if pItem.count + remcount ≤ count then
          if count ≤ remcount + pItem.count then p.destroyItem pos
          else destroyLoop item count places (p.destroyItem pos) (remcount + pItem.count)
        else p.setCountAt pos (pItem.count - count + remcount)
      else destroyLoop item count places p remcount

def destroyItemCount (p : Player om) (item count : UInt32) : Player om := destroyLoop item count p.destroyPlaces p 0

end Player

end ComfyCraft
