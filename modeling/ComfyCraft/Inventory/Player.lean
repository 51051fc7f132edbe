import ComfyCraft.Lib.Table
import ComfyCraft.Inventory.Item

/-! A player's items. Slots of the character itself are the positions of bag 255; the position
`⟨b, j⟩` with another `b` is slot `j` inside the bag that lies in slot `b`. -/

namespace ComfyCraft

open AList Table

def INVENTORY_SLOT_BAG_0 : UInt8 := 255
def NULL_BAG : UInt8 := 0
def NULL_SLOT : UInt8 := 255
def INVENTORY_SLOT_BAG_START : UInt8 := 19
def INVENTORY_SLOT_BAG_END : UInt8 := 23
def INVENTORY_SLOT_ITEM_START : UInt8 := 23
def INVENTORY_SLOT_ITEM_END : UInt8 := 39
def BANK_SLOT_ITEM_START : UInt8 := 39
def BANK_SLOT_BAG_START : UInt8 := 63
def BANK_SLOT_BAG_END : UInt8 := 69
def BUYBACK_SLOT_START : UInt8 := 69
def BUYBACK_SLOT_END : UInt8 := 81
def KEYRING_SLOT_START : UInt8 := 81
def KEYRING_SLOT_END : UInt8 := 113
def PLAYER_SLOT_END : UInt8 := 118

structure Pos where
  bag : UInt8
  slot : UInt8
deriving DecidableEq

structure Player (om : ObjectMgr) where
  guid : UInt32
  mItems : Table Pos (Item om)
  nextItemGuid : UInt32
  money : UInt32

/-- The slots `start .. stop-1`, in order. -/
def slots (start stop : UInt8) : List UInt8 :=
  (List.range' start.toNat (stop.toNat - start.toNat)).map UInt8.ofNat

theorem mem_slots {start stop j : UInt8} (h : j ∈ slots start stop) : start.toNat ≤ j.toNat ∧ j.toNat < stop.toNat := by
  unfold slots at h
  rw [List.mem_map] at h
  obtain ⟨n, hn, rfl⟩ := h
  rw [List.mem_range'_1] at hn
  have := stop.toNat_lt
  rw [UInt8.toNat_ofNat_of_lt' (by simp [UInt8.size]; omega)]
  omega

namespace Player

variable {om : ObjectMgr}

/-- The slots of bag 255 that `GetItemByPos` looks into. -/
def ownSlot (slot : UInt8) : Bool :=
  slot < BANK_SLOT_BAG_END || KEYRING_SLOT_START ≤ slot && slot < KEYRING_SLOT_END

/-- The slots whose bag `GetItemByPos` looks into. -/
def bagSlot (bag : UInt8) : Bool :=
  INVENTORY_SLOT_BAG_START ≤ bag && bag < INVENTORY_SLOT_BAG_END ||
    BANK_SLOT_BAG_START ≤ bag && bag < BANK_SLOT_BAG_END

def getItemByPos (p : Player om) (pos : Pos) : Option (Item om) :=
  if pos.bag = INVENTORY_SLOT_BAG_0 ∧ ownSlot pos.slot then p.mItems.lookup pos
  else if bagSlot pos.bag then
    match p.mItems.lookup ⟨INVENTORY_SLOT_BAG_0, pos.bag⟩ with
    | some pBag => if pos.slot.toNat < pBag.getBagSize.toNat then p.mItems.lookup pos else none
    | none => none
  else none

variable {p : Player om} {pos : Pos} {it : Item om}

theorem lookup_of_getItemByPos (h : p.getItemByPos pos = some it) : p.mItems.lookup pos = some it := by
  unfold getItemByPos at h
  split_ifs at h with h1 h2
  · exact h
  split at h
  · split_ifs at h; exact h
  · cases h

/-- No item is found under the bag or slot number that stands for none. -/
theorem pos_of_getItemByPos (h : p.getItemByPos pos = some it) : pos.bag ≠ NULL_BAG ∧ pos.slot ≠ NULL_SLOT := by
  unfold getItemByPos at h
  split_ifs at h with h1 h2
  · refine ⟨fun hb => absurd (hb.symm.trans h1.1) (by decide), fun hs => ?_⟩
    rw [hs] at h1
    exact absurd h1.2 (by decide)
  split at h
  · rename_i pBag _
    split_ifs at h with h3
    refine ⟨fun hb => ?_, fun hs => ?_⟩
    · rw [hb] at h2
      exact absurd h2 (by decide)
    have := pBag.proto.containerSlots_le
    have h255 : NULL_SLOT.toNat = 255 := rfl
    rw [hs, h255] at h3
    unfold Item.getBagSize at h3
    omega
  · cases h

/-- Everything `ApplyForAllItems` visits, in order. -/
def allItems (p : Player om) (inBank : Bool) : List (Item om) :=
  let own := fun (start stop : UInt8) =>
    (slots start stop).filterMap fun j => p.getItemByPos ⟨INVENTORY_SLOT_BAG_0, j⟩
  let inside := fun (start stop : UInt8) =>
    (slots start stop).flatMap fun b =>
      match p.getItemByPos ⟨INVENTORY_SLOT_BAG_0, b⟩ with
      | some pBag => (slots 0 pBag.getBagSize.toUInt8).filterMap fun j => p.getItemByPos ⟨b, j⟩
      | none => []
  own 0 INVENTORY_SLOT_ITEM_END ++ own KEYRING_SLOT_START KEYRING_SLOT_END ++
    inside INVENTORY_SLOT_BAG_START INVENTORY_SLOT_BAG_END ++
    (if inBank then own BANK_SLOT_ITEM_START BANK_SLOT_BAG_END ++ inside BANK_SLOT_BAG_START BANK_SLOT_BAG_END
      else [])

def getItemCount (p : Player om) (item : UInt32) (inBankAlso : Bool) : UInt32 :=
  (p.allItems inBankAlso).foldl (fun count it => if it.getEntry = item then count + it.count else count) 0

/-- How many pieces of one template a player holds, wherever they lie. -/
def holds (p : Player om) (entry : UInt32) : Nat :=
  Table.tally (fun _ it => if it.getEntry = entry then it.count.toNat else 0) p.mItems

def setItem (p : Player om) (pos : Pos) (it : Item om) : Player om :=
  { p with mItems := p.mItems.insert pos it }

@[simp] theorem lookup_setItem_self (p : Player om) (pos : Pos) (it : Item om) :
    (p.setItem pos it).mItems.lookup pos = some it := lookup_insert _

theorem lookup_setItem_ne {pos' : Pos} (p : Player om) (it : Item om) (h : pos' ≠ pos) :
    (p.setItem pos it).mItems.lookup pos' = p.mItems.lookup pos' := lookup_insert_ne h

theorem holds_setItem_new (it : Item om) (e : UInt32) (h : p.mItems.lookup pos = none) :
    (p.setItem pos it).holds e = (if it.getEntry = e then it.count.toNat else 0) + p.holds e :=
  tally_insert_new _ it h

theorem holds_setItem_over {old : Item om} (it : Item om) (e : UInt32) (h : p.mItems.lookup pos = some old) :
    (p.setItem pos it).holds e + (if old.getEntry = e then old.count.toNat else 0) =
      (if it.getEntry = e then it.count.toNat else 0) + p.holds e :=
  tally_insert_over _ it h

/-- The item at a position with its count replaced (`pItem->SetCount`). -/
def setCountAt (p : Player om) (pos : Pos) (n : UInt32) : Player om :=
  match p.mItems.lookup pos with
  | some it => p.setItem pos (it.setCount n)
  | none => p

theorem holds_setCountAt (n e : UInt32) (h : p.mItems.lookup pos = some it) :
    (p.setCountAt pos n).holds e + (if it.getEntry = e then it.count.toNat else 0) =
      (if it.getEntry = e then n.toNat else 0) + p.holds e := by
  unfold setCountAt
  rw [h]
  exact holds_setItem_over (it.setCount n) e h

theorem getItemByPos_setCountAt (n : UInt32) (h : p.getItemByPos pos = some it) :
    (p.setCountAt pos n).getItemByPos pos = some (it.setCount n) := by
  have hl := lookup_of_getItemByPos h
  have hset : p.setCountAt pos n = p.setItem pos (it.setCount n) := by unfold setCountAt; rw [hl]
  rw [hset]
  unfold getItemByPos at h ⊢
  rw [lookup_setItem_self]
  split_ifs at h ⊢ with h1 h2
  · rfl
  have hne : (⟨INVENTORY_SLOT_BAG_0, pos.bag⟩ : Pos) ≠ pos := by
    intro heq
    have hb : pos.bag = INVENTORY_SLOT_BAG_0 := by rw [← heq]
    rw [hb] at h2
    exact absurd h2 (by decide)
  rw [lookup_setItem_ne _ _ hne]
  split at h
  · split_ifs at h ⊢ with h3
    rfl
  · cases h

theorem isSome_lookup_setCountAt (p : Player om) (pos k : Pos) (n : UInt32) :
    ((p.setCountAt pos n).mItems.lookup k).isSome = (p.mItems.lookup k).isSome := by
  unfold setCountAt
  split
  · rename_i it hit
    by_cases hk : k = pos
    · rw [hk, lookup_setItem_self, hit]; rfl
    · rw [lookup_setItem_ne _ _ hk]
  · rfl

/-- Whether position `k` lies inside the bag at `pos`. -/
def inside (pos k : Pos) : Bool := pos.bag = INVENTORY_SLOT_BAG_0 && k.bag = pos.slot

/-- Whether the object at the position is a bag with something still inside. -/
def bagInUse (p : Player om) (pos : Pos) : Prop :=
  ∃ k, inside pos k ∧ (p.mItems.lookup k).isSome

theorem bagInUse_setCountAt (p : Player om) (pos pos' : Pos) (n : UInt32) :
    (p.setCountAt pos' n).bagInUse pos ↔ p.bagInUse pos := by
  unfold bagInUse
  simp only [isSome_lookup_setCountAt]

/-- `DestroyItem`: the object goes, and with a bag everything its slots still hold. -/
def destroyItem (p : Player om) (pos : Pos) : Player om :=
  match p.getItemByPos pos with
  | none => p
  | some _ => { p with mItems := Table.keep (fun k _ => !inside pos k) (p.mItems.erase pos) }

theorem lookup_destroyItem (h : p.getItemByPos pos = some it) : (p.destroyItem pos).mItems.lookup pos = none := by
  unfold destroyItem
  rw [h]
  simp only
  rw [lookup_keep, lookup_erase]
  rfl

theorem holds_destroyItem (e : UInt32) (h : p.getItemByPos pos = some it) (hb : ¬ p.bagInUse pos) :
    (if it.getEntry = e then it.count.toNat else 0) + (p.destroyItem pos).holds e = p.holds e := by
  have hl := lookup_of_getItemByPos h
  have hkeep : ∀ k v, (p.mItems.erase pos).lookup k = some v → (!inside pos k) = true := by
    intro k v hk
    by_cases hne : k = pos
    · rw [hne, lookup_erase] at hk; cases hk
    rw [lookup_erase_ne hne] at hk
    by_contra hcon
    exact hb ⟨k, by simpa using hcon, by rw [hk]; rfl⟩
  unfold destroyItem holds
  rw [h]
  simp only
  rw [tally_keep_all _ hkeep]
  exact tally_erase (fun _ it => if it.getEntry = e then it.count.toNat else 0) hl

/-- `DestroyItemCount(Item*, count)`: the whole object when the count covers it, a part otherwise. -/
def destroyItemCountAt (p : Player om) (pos : Pos) (count : UInt32) : Player om × UInt32 :=
  match p.getItemByPos pos with
  | none => (p, count)
  | some it =>
    if it.count ≤ count then (p.destroyItem pos, count - it.count)
    else (p.setCountAt pos (it.count - count), 0)

end Player

end ComfyCraft
