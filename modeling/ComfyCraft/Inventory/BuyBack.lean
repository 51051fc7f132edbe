import ComfyCraft.Lib.Runs
import ComfyCraft.Inventory.Player

/-! The buyback slots of a player: what a sale does to them, what buying an item back does, and which item a sale destroys. -/

namespace ComfyCraft

open List Function Option Runs

structure SoldItem where
  guid : UInt64
  money : UInt32
  etime : UInt32
deriving DecidableEq

/-- The slots of a player, and the fields that show them to the client; `removed` are the items that were put into the state `ITEM_REMOVED`. -/
structure BuyBack where
  m_items : Nat → Option SoldItem
  m_currentBuybackSlot : Nat
  m_logintime : Int
  vendorGuids : Nat → UInt64
  prices : Nat → UInt32
  timestamps : Nat → UInt32
  removed : List SoldItem

namespace BuyBack

def slotStart : Nat := BUYBACK_SLOT_START.toNat

def slotEnd : Nat := BUYBACK_SLOT_END.toNat

def login (m_logintime : Int) : BuyBack := ⟨fun _ => none, slotStart, m_logintime, fun _ => 0, fun _ => 0, fun _ => 0, []⟩

def InRange (slot : Nat) : Prop := slotStart ≤ slot ∧ slot < slotEnd

instance (slot : Nat) : Decidable (InRange slot) := inferInstanceAs (Decidable (_ ∧ _))

def GetItemFromBuyBackSlot (b : BuyBack) (slot : Nat) : Option SoldItem := if InRange slot then b.m_items slot else none

def RemoveItemFromBuyBackSlot (b : BuyBack) (slot : Nat) (del : Bool) : BuyBack :=
  if InRange slot then
    let eslot := slot - slotStart
    let m_items := Function.update b.m_items slot none
    { b with
      removed := if del then b.removed ++ (b.m_items slot).toList else b.removed
      m_items := m_items
      vendorGuids := Function.update b.vendorGuids eslot 0
      prices := Function.update b.prices eslot 0
      timestamps := Function.update b.timestamps eslot 0
      m_currentBuybackSlot := if (m_items b.m_currentBuybackSlot).isSome then slot else b.m_currentBuybackSlot }
  else b

structure Search where
  slot : Nat
  oldest_time : UInt32
  oldest_slot : Nat

/-- The loop over the slots behind the first, which an empty slot ends. -/
def search (b : BuyBack) : List Nat → Search → Search
  | [], r => r
  | i :: is, r =>
    if (b.m_items i).isNone then { r with slot := i }
    else if b.timestamps (i - slotStart) < r.oldest_time then
      b.search is { r with oldest_time := b.timestamps (i - slotStart), oldest_slot := i }
    else b.search is r

def slotFor (b : BuyBack) : Nat :=
  let slot := b.m_currentBuybackSlot
  if (b.m_items slot).isSome then
    let r := b.search (List.range' (slotStart + 1) (slotEnd - (slotStart + 1)))
      ⟨slot, b.timestamps 0, slotStart⟩
    { r with slot := r.oldest_slot }.slot
  else slot

def etime (b : BuyBack) (base : Int) : UInt32 := UInt32.ofInt (base - b.m_logintime + 30 * 3600)

def AddItemToBuyBackSlot (b : BuyBack) (guid : UInt64) (money : UInt32) (base : Int) : BuyBack :=
  let slot := b.slotFor
  let b := b.RemoveItemFromBuyBackSlot slot true
  let eslot := slot - slotStart
  { b with
    m_items := Function.update b.m_items slot (some ⟨guid, money, b.etime base⟩)
    vendorGuids := Function.update b.vendorGuids eslot guid
    prices := Function.update b.prices eslot money
    timestamps := Function.update b.timestamps eslot (b.etime base)
    m_currentBuybackSlot := if b.m_currentBuybackSlot < slotEnd - 1 then b.m_currentBuybackSlot + 1 else b.m_currentBuybackSlot }

/-- `served` where the player has the money and the room for what is bought back. -/
inductive Trade
  | sell (guid : UInt64) (money : UInt32) (base : Int)
  | buyback (slot : Nat) (served : Bool)

def step (b : BuyBack) : Trade → BuyBack
  | .sell guid money base => b.AddItemToBuyBackSlot guid money base
  | .buyback slot served => if (b.GetItemFromBuyBackSlot slot).isSome && served then b.RemoveItemFromBuyBackSlot slot false else b

/-! ### What the fields say -/

theorem inRange_iff {slot : Nat} : InRange slot ↔ 69 ≤ slot ∧ slot < 81 := Iff.rfl

theorem inRange_start : InRange slotStart := by decide

/-- The fields of a slot are those of the item in it, and zero where there is none. -/
structure Described (b : BuyBack) (slot : Nat) : Prop where
  guid : b.vendorGuids (slot - slotStart) = ((b.m_items slot).map SoldItem.guid).getD 0
  price : b.prices (slot - slotStart) = ((b.m_items slot).map SoldItem.money).getD 0
  time : b.timestamps (slot - slotStart) = ((b.m_items slot).map SoldItem.etime).getD 0

structure Kept (b : BuyBack) : Prop where
  cursor : InRange b.m_currentBuybackSlot
  described : ∀ slot, InRange slot → b.Described slot

variable {b : BuyBack} {slot : Nat}

theorem kept_login (m_logintime : Int) : Kept (login m_logintime) where
  cursor := inRange_start
  described _ _ := ⟨rfl, rfl, rfl⟩

/-- Slots in the range have fields of their own. -/
theorem eslot_inj {s : Nat} (hs : InRange s) (hslot : InRange slot) (hne : s ≠ slot) : s - slotStart ≠ slot - slotStart := by
  rw [inRange_iff] at hs hslot
  have hstart : slotStart = 69 := rfl
  omega

/-- A slot and its fields set to what they are to hold. -/
theorem described_update (hslot : InRange slot) (item : Option SoldItem) {b' : BuyBack}
    (hitems : b'.m_items = Function.update b.m_items slot item)
    (hguids : b'.vendorGuids = Function.update b.vendorGuids (slot - slotStart) ((item.map SoldItem.guid).getD 0))
    (hprices : b'.prices = Function.update b.prices (slot - slotStart) ((item.map SoldItem.money).getD 0))
    (htimes : b'.timestamps = Function.update b.timestamps (slot - slotStart) ((item.map SoldItem.etime).getD 0))
    (h : ∀ s, InRange s → s ≠ slot → b.Described s) : ∀ s, InRange s → b'.Described s := by
  intro s hs
  by_cases heq : s = slot
  · subst heq
    constructor
    · rw [hguids, hitems, update_self, update_self]
    · rw [hprices, hitems, update_self, update_self]
    · rw [htimes, hitems, update_self, update_self]
  · have hfield := eslot_inj hs hslot heq
    obtain ⟨hguid, hprice, htime⟩ := h s hs heq
    constructor
    · rw [hguids, hitems, update_of_ne hfield, update_of_ne heq, hguid]
    · rw [hprices, hitems, update_of_ne hfield, update_of_ne heq, hprice]
    · rw [htimes, hitems, update_of_ne hfield, update_of_ne heq, htime]

theorem Kept.removeItem (h : Kept b) (slot : Nat) (del : Bool) : Kept (b.RemoveItemFromBuyBackSlot slot del) := by
  unfold RemoveItemFromBuyBackSlot
  by_cases hslot : InRange slot
  · rw [if_pos hslot]
    refine ⟨?_, described_update hslot none rfl rfl rfl rfl fun s hs _ => h.described s hs⟩
    dsimp only
    split_ifs
    · exact hslot
    · exact h.cursor
  · rw [if_neg hslot]
    exact h

/-! ### The slot that is searched for -/

variable {l : List Nat} {r : Search}

/-- The oldest slot is the one it was, or one of those looked at, and not empty. -/
theorem search_slot (l : List Nat) (r : Search) :
    (b.search l r).oldest_slot = r.oldest_slot ∨ (b.search l r).oldest_slot ∈ l ∧ (b.m_items (b.search l r).oldest_slot).isSome = true := by
  induction l generalizing r with
  | nil => exact .inl rfl
  | cons i l ih =>
    unfold search
    split_ifs with hempty hless
    · exact .inl rfl
    · have hi : (b.m_items i).isSome = true := by
        rw [← not_isNone, Bool.not_eq_true'] 
        exact Bool.eq_false_iff.2 hempty
      rcases ih { r with oldest_time := b.timestamps (i - slotStart), oldest_slot := i } with h | ⟨hmem, hsome⟩
      · exact .inr ⟨by rw [h]; exact mem_cons_self, by rw [h]; exact hi⟩
      · exact .inr ⟨mem_cons_of_mem i hmem, hsome⟩
    · rcases ih r with h | ⟨hmem, hsome⟩
      · exact .inl h
      · exact .inr ⟨mem_cons_of_mem i hmem, hsome⟩

theorem search_time (hr : r.oldest_time = b.timestamps (r.oldest_slot - slotStart)) (l : List Nat) :
    (b.search l r).oldest_time = b.timestamps ((b.search l r).oldest_slot - slotStart) := by
  induction l generalizing r with
  | nil => exact hr
  | cons i l ih =>
    unfold search
    split_ifs
    · exact hr
    · exact ih rfl
    · exact ih hr

theorem search_oldest (hl : ∀ i ∈ l, (b.m_items i).isSome = true) :
    (b.search l r).oldest_time ≤ r.oldest_time ∧ ∀ i ∈ l, (b.search l r).oldest_time ≤ b.timestamps (i - slotStart) := by
  induction l generalizing r with
  | nil => exact ⟨UInt32.le_refl _, fun i hi => absurd hi not_mem_nil⟩
  | cons i l ih =>
    obtain ⟨hi, hl⟩ := forall_mem_cons.1 hl
    unfold search
    rw [if_neg (by simp [isSome_iff_ne_none.1 hi])]
    split_ifs with hless
    · obtain ⟨hle, hall⟩ := ih (r := { r with oldest_time := b.timestamps (i - slotStart), oldest_slot := i }) hl
      exact ⟨UInt32.le_trans hle (UInt32.le_of_lt hless), forall_mem_cons.2 ⟨hle, hall⟩⟩
    · obtain ⟨hle, hall⟩ := ih (r := r) hl
      exact ⟨hle, forall_mem_cons.2 ⟨UInt32.le_trans hle (UInt32.not_lt.1 hless), hall⟩⟩

theorem search_zero (hr : r.oldest_time = 0) (l : List Nat) : (b.search l r).oldest_slot = r.oldest_slot := by
  induction l generalizing r with
  | nil => rfl
  | cons i l ih =>
    unfold search
    rw [hr, if_neg (UInt32.not_lt_zero)]
    split_ifs
    · rfl
    · exact ih hr

def laterSlots : List Nat := List.range' (slotStart + 1) (slotEnd - (slotStart + 1))

theorem mem_laterSlots : slot ∈ laterSlots ↔ InRange slot ∧ slot ≠ slotStart := by
  unfold laterSlots
  rw [mem_range'_1, inRange_iff]
  have hstart : slotStart = 69 := rfl
  have hend : slotEnd = 81 := rfl
  omega

def firstSearch (b : BuyBack) : Search := b.search laterSlots ⟨b.m_currentBuybackSlot, b.timestamps 0, slotStart⟩

theorem slotFor_empty (h : b.m_items b.m_currentBuybackSlot = none) : b.slotFor = b.m_currentBuybackSlot := by
  unfold slotFor
  exact if_neg (by simp [h])

theorem slotFor_taken (h : (b.m_items b.m_currentBuybackSlot).isSome = true) : b.slotFor = b.firstSearch.oldest_slot := if_pos h

theorem slotFor_inRange (h : InRange b.m_currentBuybackSlot) : InRange b.slotFor := by
  cases hitem : b.m_items b.m_currentBuybackSlot with
  | none =>
    rw [slotFor_empty hitem]
    exact h
  | some item =>
    rw [slotFor_taken (by rw [hitem]; rfl)]
    rcases b.search_slot laterSlots ⟨b.m_currentBuybackSlot, b.timestamps 0, slotStart⟩ with heq | ⟨hmem, -⟩
    · unfold firstSearch
      rw [heq]
      exact inRange_start
    · exact (mem_laterSlots.1 hmem).1

/-! ### A sale -/

/-- All slots hold an item. -/
def Full (b : BuyBack) : Prop := ∀ slot ∈ List.range' slotStart (slotEnd - slotStart), (b.m_items slot).isSome = true

instance (b : BuyBack) : Decidable b.Full := List.decidableBAll _ _

theorem Full.item (h : b.Full) (hslot : InRange slot) : ∃ item, b.m_items slot = some item := by
  have hmem : slot ∈ range' slotStart (slotEnd - slotStart) := by
    rw [mem_range'_1]
    rw [inRange_iff] at hslot
    have hstart : slotStart = 69 := rfl
    have hend : slotEnd = 81 := rfl
    omega
  exact isSome_iff_exists.1 (h slot hmem)

/-- The item of a sale goes into a slot. Where that was taken all are, and its item, which is destroyed, is the oldest of all. -/
structure SaleRight (b b' : BuyBack) (item : SoldItem) (slot : Nat) : Prop where
  inRange : InRange slot
  items : b'.m_items = Function.update b.m_items slot (some item)
  removed : b'.removed = b.removed ++ (b.m_items slot).toList
  oldest : ∀ old, b.m_items slot = some old → b.Full ∧ ∀ s other, InRange s → b.m_items s = some other → old.etime ≤ other.etime

theorem removeItem_items (hslot : InRange slot) (del : Bool) :
    (b.RemoveItemFromBuyBackSlot slot del).m_items = Function.update b.m_items slot none := by
  unfold RemoveItemFromBuyBackSlot
  rw [if_pos hslot]

theorem removeItem_removed (hslot : InRange slot) :
    (b.RemoveItemFromBuyBackSlot slot true).removed = b.removed ++ (b.m_items slot).toList := by
  unfold RemoveItemFromBuyBackSlot
  rw [if_pos hslot]
  rfl

theorem etime_removeItem (slot : Nat) (del : Bool) (base : Int) : (b.RemoveItemFromBuyBackSlot slot del).etime base = b.etime base := by
  unfold RemoveItemFromBuyBackSlot
  split_ifs <;> rfl

section

variable (h : InRange b.m_currentBuybackSlot) (guid : UInt64) (money : UInt32) (base : Int)
include h guid money base

theorem addItem_items :
    (b.AddItemToBuyBackSlot guid money base).m_items = Function.update b.m_items b.slotFor (some ⟨guid, money, b.etime base⟩) := by
  have hitems := removeItem_items (b := b) (slotFor_inRange h) true
  unfold AddItemToBuyBackSlot
  dsimp only
  rw [etime_removeItem, hitems, update_idem]

theorem addItem_removed :
    (b.AddItemToBuyBackSlot guid money base).removed = b.removed ++ (b.m_items b.slotFor).toList := removeItem_removed (slotFor_inRange h)

end

theorem Kept.addItem (h : Kept b) (guid : UInt64) (money : UInt32) (base : Int) : Kept (b.AddItemToBuyBackSlot guid money base) := by
  have hremoved := h.removeItem b.slotFor true
  refine ⟨?_, described_update (b := b.RemoveItemFromBuyBackSlot b.slotFor true) (slotFor_inRange h.cursor) _ rfl rfl rfl rfl
    fun s hs _ => hremoved.described s hs⟩
  have hcursor := inRange_iff.1 hremoved.cursor
  have hend : slotEnd = 81 := rfl
  unfold AddItemToBuyBackSlot
  dsimp only
  rw [inRange_iff]
  split_ifs <;> omega

theorem Kept.step (h : Kept b) (e : Trade) : Kept (b.step e) := by
  cases e with
  | sell guid money base => exact h.addItem guid money base
  | buyback slot served =>
    change Kept (if ((b.GetItemFromBuyBackSlot slot).isSome && served) = true then b.RemoveItemFromBuyBackSlot slot false else b)
    split_ifs
    · exact h.removeItem slot false
    · exact h

/-- What a sale needs: where the slot at the cursor is taken, the first slot is empty or all slots are taken. -/
def Foreseen (b : BuyBack) : Prop := (b.m_items b.m_currentBuybackSlot).isSome = true → b.m_items slotStart = none ∨ b.Full

/-- Where the search is needed and no slot is empty, it finds the oldest item. -/
theorem oldest_of_full (h : Kept b) (hfull : b.Full) {old : SoldItem} (hold : b.m_items b.firstSearch.oldest_slot = some old) {s : Nat}
    {other : SoldItem} (hs : InRange s) (hother : b.m_items s = some other) : old.etime ≤ other.etime := by
  have hslot : InRange b.firstSearch.oldest_slot := by
    rcases b.search_slot laterSlots ⟨b.m_currentBuybackSlot, b.timestamps 0, slotStart⟩ with heq | ⟨hmem, -⟩
    · unfold firstSearch
      rw [heq]
      exact inRange_start
    · exact (mem_laterSlots.1 hmem).1
  have hlater : ∀ i ∈ laterSlots, (b.m_items i).isSome = true := fun i hi => by
    obtain ⟨item, hitem⟩ := hfull.item (mem_laterSlots.1 hi).1
    rw [hitem]
    rfl
  have htime : b.firstSearch.oldest_time = old.etime := by
    have hfield := (h.described _ hslot).time
    rw [hold] at hfield
    exact (b.search_time rfl laterSlots).trans hfield
  have htimeother := (h.described s hs).time
  rw [hother] at htimeother
  obtain ⟨hfirst, hrest⟩ := search_oldest (b := b) (r := ⟨b.m_currentBuybackSlot, b.timestamps 0, slotStart⟩) hlater
  rw [← htime]
  change _ ≤ ((some other).map SoldItem.etime).getD 0
  rw [← htimeother]
  by_cases heq : s = slotStart
  · rw [heq]
    exact hfirst
  · exact hrest s (mem_laterSlots.2 ⟨hs, heq⟩)

/-- A sale does what it is to do exactly where it is foreseen. -/
theorem sale_iff (h : Kept b) (guid : UInt64) (money : UInt32) (base : Int) :
    (∃ slot, SaleRight b (b.AddItemToBuyBackSlot guid money base) ⟨guid, money, b.etime base⟩ slot) ↔ b.Foreseen := by
  constructor
  · rintro ⟨slot, hright⟩ htaken
    by_contra hnot
    obtain ⟨hfirst, hnotfull⟩ := not_or.1 hnot
    have hgone := hright.removed
    rw [addItem_removed h.cursor, append_cancel_left_eq, slotFor_taken htaken] at hgone
    have hsome : (b.m_items b.firstSearch.oldest_slot).isSome = true := by
      rcases b.search_slot laterSlots ⟨b.m_currentBuybackSlot, b.timestamps 0, slotStart⟩ with heq | ⟨-, hsome⟩
      · unfold firstSearch
        rw [heq]
        exact isSome_iff_ne_none.2 hfirst
      · exact hsome
    obtain ⟨old, hold⟩ := isSome_iff_exists.1 hsome
    rw [hold] at hgone
    cases hitem : b.m_items slot with
    | none =>
      rw [hitem] at hgone
      cases hgone
    | some item => exact hnotfull (hright.oldest item hitem).1
  · intro hforeseen
    refine ⟨b.slotFor, slotFor_inRange h.cursor, addItem_items h.cursor guid money base, addItem_removed h.cursor guid money base, ?_⟩
    intro old hold
    cases hcursor : b.m_items b.m_currentBuybackSlot with
    | none =>
      rw [slotFor_empty hcursor, hcursor] at hold
      cases hold
    | some item =>
      have htaken : (b.m_items b.m_currentBuybackSlot).isSome = true := by rw [hcursor]; rfl
      rw [slotFor_taken htaken] at hold
      rcases hforeseen htaken with hfirst | hfull
      · -- the search starts at an empty slot, whose time is zero
        have hzero := (h.described slotStart inRange_start).time
        rw [hfirst] at hzero
        unfold firstSearch at hold
        rw [search_zero hzero, hfirst] at hold
        cases hold
      · exact ⟨hfull, fun s other hs hother => oldest_of_full h hfull hold hs hother⟩

def saleForeseen (b : BuyBack) : Trade → Prop
  | .sell _ _ _ => b.Foreseen
  | .buyback _ _ => True

theorem kept_run (m_logintime : Int) (es : List Trade) : Kept (Runs.run step (login m_logintime) es) :=
  always (fun _ e h => h.step e) (kept_login m_logintime) es

/-- The fields of the slots are those of their items at any time. All sales of a run go into an empty slot, or put an item in the place of the
oldest one where no slot is empty, exactly where each of them is foreseen. -/
theorem sales_iff (m_logintime : Int) (es : List Trade) :
    (∀ slot, InRange slot → (Runs.run step (login m_logintime) es).Described slot) ∧
      ((∀ n guid money base, es[n]? = some (.sell guid money base) →
          ∃ slot, SaleRight (Runs.run step (login m_logintime) (es.take n)) (Runs.run step (login m_logintime) (es.take (n + 1)))
            ⟨guid, money, (Runs.run step (login m_logintime) (es.take n)).etime base⟩ slot) ↔
        Runs.Admitted step saleForeseen (login m_logintime) es) := by
  refine ⟨(kept_run m_logintime es).described, ?_⟩
  have hany : Admitted step (fun _ _ => True) (login m_logintime) es := admitted_of_forall (fun _ _ => trivial) _ es
  have hnext : ∀ n e, es[n]? = some e →
      run step (login m_logintime) (es.take (n + 1)) = (run step (login m_logintime) (es.take n)).step e := fun n e he =>
    (hany.getElem? he).2
  rw [admitted_iff_getElem?]
  constructor
  · intro hsales n e he
    cases e with
    | buyback slot served => trivial
    | sell guid money base =>
      have hsale := hsales n guid money base he
      rw [hnext n _ he] at hsale
      exact (sale_iff (kept_run m_logintime _) guid money base).1 hsale
  · intro hforeseen n guid money base he
    rw [hnext n _ he]
    exact (sale_iff (kept_run m_logintime _) guid money base).2 (hforeseen n _ he)

def twoTakenBack : List Trade :=
  (List.range 12).map (fun i => .sell (UInt64.ofNat (i + 1)) 10 i) ++ [.buyback 72 true, .buyback 75 true, .sell 13 10 20]

/-- The next sale destroys the oldest item, with a slot still empty. -/
theorem destroyed_beside_empty :
    ¬ (∀ (m_logintime : Int) (es : List Trade) (n : Nat) (guid : UInt64) (money : UInt32) (base : Int),
        es[n]? = some (.sell guid money base) →
          ∃ slot, SaleRight (Runs.run step (login m_logintime) (es.take n)) (Runs.run step (login m_logintime) (es.take (n + 1)))
          ⟨guid, money, (Runs.run step (login m_logintime) (es.take n)).etime base⟩ slot) ∧
      (Runs.run step (login 0) twoTakenBack).m_items 75 = none ∧
      (Runs.run step (login 0) (twoTakenBack ++ [.sell 14 10 21])).removed = [⟨1, 10, 108000⟩] := by
  have hempty : (run step (login 0) twoTakenBack).m_items 75 = none := by decide +kernel
  have hremoved : (run step (login 0) (twoTakenBack ++ [.sell 14 10 21])).removed = [⟨1, 10, 108000⟩] := by decide +kernel
  have hbefore : (run step (login 0) twoTakenBack).removed = [] := by decide +kernel
  refine ⟨fun hright => ?_, hempty, hremoved⟩
  let es : List Trade := twoTakenBack ++ [.sell 14 10 21]
  obtain ⟨slot, hsale⟩ := hright 0 es 15 14 10 21 rfl
  have hdone : es.take 15 = twoTakenBack ∧ es.take (15 + 1) = es := ⟨rfl, rfl⟩
  rw [hdone.1, hdone.2] at hsale
  have hgone := hsale.removed
  rw [hremoved, hbefore, nil_append] at hgone
  cases hitem : (run step (login 0) twoTakenBack).m_items slot with
  | none =>
    rw [hitem] at hgone
    cases hgone
  | some old =>
    obtain ⟨item, hfull⟩ := (hsale.oldest old hitem).1.item (by decide : InRange 75)
    rw [hempty] at hfull
    cases hfull

end BuyBack

end ComfyCraft
