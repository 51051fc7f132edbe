import ComfyCraft.GuildBank.Genuine

/-! Tabs and counts. For each command the circumstances are named under which the items it puts into the
bank lie in an unlocked tab and are stacks of at least one piece and at most a full one. -/

namespace ComfyCraft

open UInt32 List BankItem Player Item GuildBank

variable {om : ObjectMgr}

/-- A stack of at least one piece and at most the template's maximum. -/
structure BankItem.Regular (it : BankItem om) : Prop where
  pos : 1 ≤ it.count.toNat
  le : it.count.toNat ≤ it.maxStackSize.toNat

structure Item.Regular (it : Item om) : Prop where
  pos : 1 ≤ it.count.toNat
  le : it.count.toNat ≤ it.proto.stackable.toNat

namespace BankStore

/-- No two items share a slot or a guid, and every item lies in a slot of an unlocked tab and is a
regular stack. -/
structure InOrder (s : BankStore om) : Prop where
  places : (s.items.map fun it => (it.tab, it.slot)).Nodup
  guids : (s.items.map BankItem.guid).Nodup
  slots : ∀ it ∈ s.items, World.SlotInRange it.slot
  tabs : ∀ it ∈ s.items, World.TabInRange it.tab ∧ it.tab.toNat ≤ s.tabs.toNat
  counts : ∀ it ∈ s.items, it.Regular

/-- The edit puts regular stacks into unlocked tabs, and locks no tab with items in it. -/
def Counted (s : BankStore om) : Edit om → Prop
  | .add it => it.tab.toNat ≤ s.tabs.toNat ∧ it.Regular
  | .change _ it => it.Regular
  | .tabs n => ∀ it ∈ s.items, it.tab.toNat ≤ n.toNat
  | _ => True

theorem regular_of_getElem? {s : BankStore om} {i : Nat} {it : BankItem om} (h : s.InOrder) (hi : s.items[i]? = some it) :
    it.Regular :=
  h.counts it (mem_of_getElem? hi)

end BankStore

namespace World

open BankStore

def AllCounted (s : BankStore om) (es : List (Edit om)) : Prop := Runs.Admitted BankStore.edit Counted s es

variable {s : BankStore om} {w : World om} {pos : Pos} {pItem : Item om} {bankTab bankSlot count remainer : UInt32} {i : Nat}
  {bItem : BankItem om} {stack : Bool} {r : SlotPair om} {ctx : Ctx} {params : List Int}

theorem AllCounted.append {es es' : List (Edit om)} (h : AllCounted s es) (h' : AllCounted (editAll s es) es') :
    AllCounted s (es ++ es') :=
  (Runs.admitted_append _ _).2 ⟨h, h'⟩

theorem edits_new (free : World om → UInt32 → Pos → List (Edit om)) (bankTab bankSlot : UInt32) (count : UInt32)
    (stack : Bool) (hp : w.player.mItems.lookup pos = some pItem) :
    depositItemInSlotEdits free w bankTab bankSlot pos count 0 .new stack =
      [.add (newItem w bankTab bankSlot pItem count), .save] := by
  unfold depositItemInSlotEdits
  rw [hp]
  rfl

theorem edits_over (free : World om → UInt32 → Pos → List (Edit om)) (count : UInt32) (stack : Bool)
    (hp : w.player.mItems.lookup pos = some pItem) (hi : w.bank.getItem bankTab bankSlot = some (i, bItem)) :
    depositItemInSlotEdits free w bankTab bankSlot pos count 0 .changed stack =
      [.change i (overItem w bItem pItem count stack), .save] := by
  unfold depositItemInSlotEdits
  rw [hp, hi]
  rfl

def afterFill (w : World om) (i : Nat) (full : BankItem om) (pos : Pos) (left : UInt32) : World om :=
  { w with bank := (w.bank.push full).setItem (some i) full, player := w.player.setCountAt pos left }

theorem edits_rest {free : World om → UInt32 → Pos → List (Edit om)}
    (hp : w.player.mItems.lookup pos = some pItem) (hi : w.bank.getItem bankTab bankSlot = some (i, bItem)) (hr : remainer ≠ 0) :
    depositItemInSlotEdits free w bankTab bankSlot pos count remainer .changed stack =
      .change i (overItem w bItem pItem count stack) ::
        (free (afterFill w i (overItem w bItem pItem count stack) pos (pItem.count - count)) bankTab pos ++ [.save]) := by
  unfold depositItemInSlotEdits
  rw [hp, hi]
  simp only [if_neg hr, reduceCtorEq, if_false, Option.map_some]
  rfl

theorem regular_over (w : World om) (bItem : BankItem om) (h1 : 1 ≤ (if stack then bItem.count + count else count).toNat)
    (h2 : (if stack then bItem.count + count else count).toNat ≤ pItem.proto.stackable.toNat) :
    (overItem w bItem pItem count stack).Regular :=
  ⟨h1, h2⟩

theorem counted_depositInFreeSlot (fuel : Nat)
    (hp : w.player.mItems.lookup pos = some pItem) (hreg : pItem.Regular) (ht : bankTab.toNat ≤ w.bank.bTabs.toNat) :
    AllCounted w.store (depositItemInFreeSlotEdits fuel w bankTab pos) := by
  induction fuel generalizing w pItem with
  | zero => trivial
  | succ fuel ih =>
    have hstack := pItem.proto.stackable_le
    have hpos := hreg.pos
    have hle := hreg.le
    unfold depositItemInFreeSlotEdits
    rw [hp]
    simp only
    cases hfound : (if 1 < pItem.proto.stackable then stackSlot w.bank bankTab pItem else none) with
    | some found =>
      obtain ⟨i, bItem⟩ := found
      simp only
      split_ifs at hfound with h1
      obtain ⟨idx, -, hget, hsame, hlt⟩ := stackSlot_some hfound
      have hmax := maxStackSize_of_entry hsame
      rw [hmax] at hlt
      have hfit : (pItem.count + bItem.count).toNat = pItem.count.toNat + bItem.count.toNat := by
        rw [UInt32.toNat_add]; omega
      split_ifs with hall
      · -- the whole stack fits
        rw [edits_over _ _ _ hp hget]
        rw [le_iff_toNat_le, hfit, hmax] at hall
        have hsum : (bItem.count + pItem.count).toNat = bItem.count.toNat + pItem.count.toNat := by
          rw [UInt32.toNat_add]; omega
        refine ⟨regular_over w bItem ?_ ?_, trivial, trivial⟩
        · rw [if_pos rfl, hsum]; omega
        · rw [if_pos rfl, hsum]; omega
      · -- the stack of the bank is filled up, and the rest is a regular stack again
        rw [UInt32.not_le, UInt32.lt_iff_toNat_lt, hfit, hmax] at hall
        have hroom : (bItem.maxStackSize - bItem.count).toNat = pItem.proto.stackable.toNat - bItem.count.toNat := by
          rw [hmax]
          exact UInt32.toNat_sub_of_le _ _ (UInt32.le_iff_toNat_le.2 hlt.le)
        have hleft : (pItem.count - (bItem.maxStackSize - bItem.count)).toNat =
            pItem.count.toNat - (pItem.proto.stackable.toNat - bItem.count.toNat) := by
          rw [UInt32.toNat_sub_of_le _ _ (UInt32.le_iff_toNat_le.2 (by omega)), hroom]
        have hfull : (bItem.count + (bItem.maxStackSize - bItem.count)).toNat = pItem.proto.stackable.toNat := by
          rw [UInt32.toNat_add, hroom]; omega
        have hne : pItem.count - (bItem.maxStackSize - bItem.count) ≠ 0 := by
          intro h0
          have := congrArg toNat h0
          rw [hleft, UInt32.toNat_zero] at this
          omega
        rw [edits_rest hp hget hne]
        have hp' : (w.player.setCountAt pos (pItem.count - (bItem.maxStackSize - bItem.count))).mItems.lookup pos =
            some (pItem.setCount (pItem.count - (bItem.maxStackSize - bItem.count))) := by
          unfold setCountAt
          rw [hp]
          exact lookup_setItem_self _ _ _
        refine ⟨regular_over w bItem (by rw [if_pos rfl, hfull]; omega) (by rw [if_pos rfl, hfull]), ?_⟩
        refine AllCounted.append (ih (w := afterFill w idx _ pos _) hp' ⟨?_, ?_⟩ ht) (show AllCounted _ [.save] from ⟨trivial, trivial⟩)
        · rw [count_setCount, hleft]; omega
        · rw [count_setCount, hleft, proto_setCount]; omega
    | none =>
      simp only
      cases freeSlot w.bank bankTab with
      | some slot =>
        simp only
        rw [edits_new _ _ _ _ _ hp]
        exact ⟨⟨ht, hpos, hle⟩, trivial, trivial⟩
      | none => trivial

theorem counted_takeOut (i : Nat) {left : Option UInt32}
    (h : ∀ n, left = some n → ({ bItem with count := n } : BankItem om).Regular) :
    AllCounted s (takeOutEdits (some i) bItem left) := by
  cases left with
  | none => exact ⟨trivial, trivial, trivial⟩
  | some n => exact ⟨h n rfl, trivial, trivial⟩

/-- What stays behind of a regular stack is a regular stack, unless it is nothing. -/
theorem regular_left (h : bItem.Regular) (hle : count.toNat ≤ bItem.count.toNat)
    (hne : bItem.count - count ≠ 0) : ({ bItem with count := bItem.count - count } : BankItem om).Regular := by
  have hsub : (bItem.count - count).toNat = bItem.count.toNat - count.toNat :=
    UInt32.toNat_sub_of_le _ _ (UInt32.le_iff_toNat_le.2 hle)
  have hpos : (bItem.count - count).toNat ≠ 0 := fun h0 => hne (UInt32.toNat_inj.1 h0)
  have := h.le
  exact ⟨Nat.one_le_iff_ne_zero.2 hpos, by simp only; omega⟩

theorem counted_withdrawOnto (ctx : Ctx) (count : UInt32) (i : Nat) (hp : w.player.getItemByPos pos = some pItem)
    (hreg : bItem.Regular)
    (hcount : pItem.count.toNat < pItem.proto.stackable.toNat → count.toNat ≤ bItem.count.toNat) :
    AllCounted w.store (withdrawItemToEdits ctx w pos.bag pos.slot count (some i) bItem (some pos) (bItem.count - count)) := by
  unfold withdrawItemToEdits
  cases hdest : w.player.canStoreNewItem pos.bag pos.slot bItem.itemTemplate count with
  | error err => trivial
  | ok dest =>
    simp only [lookup_of_getItemByPos hp]
    obtain ⟨-, hlt⟩ := canStoreNewItem_target hdest hp
    refine counted_takeOut i fun n hn => ?_
    split_ifs at hn with h0
    cases hn
    exact regular_left hreg (hcount hlt) h0

theorem counted_withdrawTo (ctx : Ctx) (bag slot : UInt8) (i : Nat)
    (hreg : bItem.Regular) (hle : count.toNat ≤ bItem.count.toNat) (hrem : remainer = bItem.count - count) :
    AllCounted w.store (withdrawItemToEdits ctx w bag slot count (some i) bItem none remainer) := by
  unfold withdrawItemToEdits
  cases w.player.canStoreNewItem bag slot bItem.itemTemplate count with
  | error err => trivial
  | ok dest =>
    simp only
    cases w.player.storeNewItem dest bItem.itemTemplate ctx.randomPropertyId with
    | mk stored player =>
      cases stored with
      | none => exact ⟨trivial, trivial⟩
      | some pos =>
        refine counted_takeOut i fun n hn => ?_
        split_ifs at hn with h0
        cases hn
        rw [hrem] at h0 ⊢
        exact regular_left hreg hle h0

theorem counted_withdrawCopy (ctx : Ctx) (w : World om) (bag slot : UInt8) (count : UInt32) (s : BankStore om)
    (bItem : BankItem om) : AllCounted s (withdrawItemToEdits ctx w bag slot count none bItem none 0) := by
  unfold withdrawItemToEdits
  cases w.player.canStoreNewItem bag slot bItem.itemTemplate count with
  | error err => trivial
  | ok dest =>
    simp only
    cases w.player.storeNewItem dest bItem.itemTemplate ctx.randomPropertyId with
    | mk stored player =>
      cases stored with
      | none => exact ⟨trivial, trivial⟩
      | some pos => exact ⟨trivial, trivial, trivial⟩

/-- A swap that is not refused puts the whole bag item into the bank. -/
def SwapCounts (w : World om) (pItem : Item om) (bankItem : BankItem om) : Prop :=
  (∃ res, w.player.canStoreNewItem NULL_BAG NULL_SLOT bankItem.itemTemplate bankItem.count = .error res ∧ res ≠ .inventoryFull) ∨
    pItem.Regular

theorem counted_swapItems (ctx : Ctx) {bagItem : Item om} {bankItem : BankItem om}
    (hp : w.player.mItems.lookup pos = some bagItem) (hi : w.bank.getItem bankItem.tab bankItem.slot = some (i, bankItem))
    (hs : SwapCounts w bagItem bankItem) : AllCounted w.store (swapItemsEdits ctx w pos bagItem bankItem) := by
  have hgo : bagItem.Regular → ∀ (w' : World om) (bag slot : UInt8), AllCounted w.store
      (depositInSlotEdits w bankItem.tab bankItem.slot pos bagItem.count .changed false ++
        withdrawItemToEdits ctx w' bag slot bankItem.count none bankItem none 0) := by
    intro hreg w' bag slot
    refine AllCounted.append ?_ (counted_withdrawCopy ctx w' bag slot _ _ _)
    unfold depositInSlotEdits
    rw [edits_over _ _ _ hp hi]
    exact ⟨regular_over w bankItem hreg.pos hreg.le, trivial, trivial⟩
  unfold swapItemsEdits
  rcases hs with ⟨res, hres, hne⟩ | hreg
  · rw [hres]
    cases res with
    | inventoryFull => exact absurd rfl hne
    | _ => trivial
  · cases w.player.canStoreNewItem NULL_BAG NULL_SLOT bankItem.itemTemplate bankItem.count with
    | ok dest => exact hgo hreg _ _ _
    | error res => cases res <;> first | trivial | exact hgo hreg _ _ _

/-- A deposit into a free place goes into an unlocked tab, and puts at least one piece there; into any
slot, and in a swap, it puts the whole bag item, which then has to be a regular stack. -/
def DepositCounts (w : World om) (r : DepositRequest om) : Prop :=
  if r.bankSlot = 0 then r.bankTab.toNat ≤ w.bank.bTabs.toNat ∧ r.pItem.Regular
  else match w.bank.getItem r.bankTab r.bankSlot with
    | none => r.bankTab.toNat ≤ w.bank.bTabs.toNat ∧ 1 ≤ r.count.toNat
    | some (_, dItem) => ¬ (dItem.itemTemplate = r.pItem.getEntry ∧ 1 < dItem.maxStackSize) → SwapCounts w r.pItem dItem

theorem counted_depositOnto (ctx : Ctx) {r : DepositRequest om} {ref : Nat} {dItem : BankItem om}
    (hr : r.Accepted w) (hi : w.bank.getItem r.bankTab r.bankSlot = some (ref, dItem)) (hreg : dItem.Regular)
    (hs : ¬ (dItem.itemTemplate = r.pItem.getEntry ∧ 1 < dItem.maxStackSize) → SwapCounts w r.pItem dItem) :
    AllCounted w.store (depositOntoEdits ctx w r.bankTab r.bankSlot r.count r.pos r.pItem ref dItem) := by
  have hl := lookup_of_getItemByPos hr.item
  have hstack := r.pItem.proto.stackable_le
  have hpos := hreg.pos
  have hle := hreg.le
  unfold depositOntoEdits
  split_ifs with h1 h2 h3 h4
  · trivial
  · have hmax := maxStackSize_of_entry h2.1
    rw [hmax] at hle
    have hcount := hr.count
    have hsum : (dItem.count + r.count).toNat = dItem.count.toNat + r.count.toNat := by
      rw [UInt32.toNat_add]; omega
    rw [le_iff_toNat_le, hsum, hmax] at h3
    unfold depositInSlotEdits
    rw [edits_over _ _ _ hl hi]
    refine ⟨regular_over w dItem ?_ ?_, trivial, trivial⟩
    · rw [if_pos rfl, hsum]; omega
    · rw [if_pos rfl, hsum]; exact h3
  · have hlt := lt_iff_toNat_lt.1 h4.1
    have hsub : (dItem.maxStackSize - r.count).toNat = dItem.maxStackSize.toNat - r.count.toNat :=
      UInt32.toNat_sub_of_le _ _ (UInt32.le_iff_toNat_le.2 (by rw [← h4.2]; exact hlt.le))
    have hw := counted_withdrawOnto ctx (dItem.maxStackSize - r.count) ref hr.item hreg fun _ => by rw [hsub, h4.2]; omega
    rw [h4.2] at hw
    exact hw
  · have hmax := maxStackSize_of_entry h2.1
    have hsub : (dItem.maxStackSize - dItem.count).toNat = dItem.maxStackSize.toNat - dItem.count.toNat :=
      UInt32.toNat_sub_of_le _ _ (UInt32.le_iff_toNat_le.2 hle)
    have hfull : (dItem.count + (dItem.maxStackSize - dItem.count)).toNat = r.pItem.proto.stackable.toNat := by
      rw [UInt32.toNat_add, hsub, ← hmax]
      have := dItem.maxStackSize.toNat_lt
      omega
    unfold depositInSlotEdits
    rw [edits_over _ _ _ hl hi]
    refine ⟨regular_over w dItem ?_ ?_, trivial, trivial⟩
    · rw [if_pos rfl, hfull, ← hmax]; omega
    · rw [if_pos rfl, hfull]
  · exact counted_swapItems ctx hl (getItem_self hi) (hs h2)

theorem counted_deposit (ctx : Ctx) {r : DepositRequest om} (h : w.store.InOrder) (hr : r.Accepted w)
    (hf : DepositCounts w r) : AllCounted w.store (depositEdits ctx w r) := by
  have hl := lookup_of_getItemByPos hr.item
  unfold DepositCounts at hf
  unfold depositEdits
  split_ifs at hf ⊢ with h0
  · exact counted_depositInFreeSlot freeSlotFuel hl hf.2 hf.1
  cases hi : w.bank.getItem r.bankTab r.bankSlot with
  | none =>
    rw [hi] at hf
    simp only
    unfold depositInSlotEdits
    rw [edits_new _ _ _ _ _ hl]
    exact ⟨⟨hf.1, hf.2, hr.count⟩, trivial, trivial⟩
  | some found =>
    obtain ⟨ref, dItem⟩ := found
    rw [hi] at hf
    exact counted_depositOnto ctx hr hi (regular_of_getElem? h (getItem_some hi).1) hf

/-- A withdrawal onto an item that cannot be stacked on is a swap. -/
def WithdrawCounts (w : World om) (r : WithdrawRequest om) : Prop :=
  ∀ pos pItem, r.pos = some pos → w.player.getItemByPos pos = some pItem → isItemBankable pItem = none →
    ¬ (pItem.getEntry = r.bItem.itemTemplate ∧ 1 < r.bItem.maxStackSize) → SwapCounts w pItem r.bItem

theorem counted_withdraw (ctx : Ctx) {r : WithdrawRequest om} (h : w.store.InOrder) (hr : r.Accepted w)
    (hf : WithdrawCounts w r) : AllCounted w.store (withdrawEdits ctx w r) := by
  have hreg := regular_of_getElem? h (getItem_some hr.item).1
  unfold withdrawEdits
  cases hpos : r.pos with
  | none =>
    simp only
    have hw := hr.whole hpos
    refine counted_withdrawTo ctx _ _ _ hreg hr.count ?_
    rw [hw]
    exact (sub_self _).symm
  | some pos =>
    simp only
    cases hitem : w.player.getItemByPos pos with
    | none => exact counted_withdrawTo ctx _ _ _ hreg hr.count rfl
    | some pItem =>
      simp only
      unfold withdrawOntoEdits
      cases hbank : isItemBankable pItem with
      | some refusal => trivial
      | none =>
        simp only
        by_cases h1 : pItem.getEntry = r.bItem.itemTemplate ∧ 1 < r.bItem.maxStackSize
        · rw [if_pos h1]
          refine counted_withdrawOnto ctx _ r.ref hitem hreg fun hlt => ?_
          have hcount := hr.count
          split_ifs with h2
          · have hsub : (pItem.proto.stackable - pItem.count).toNat = pItem.proto.stackable.toNat - pItem.count.toNat :=
              UInt32.toNat_sub_of_le _ _ (UInt32.le_iff_toNat_le.2 hlt.le)
            rw [UInt32.lt_iff_toNat_lt, UInt32.toNat_add] at h2
            have := Nat.mod_le (r.withdrawCount.toNat + pItem.count.toNat) (2 ^ 32)
            unfold getMaxStackCount at h2
            omega
          · exact hcount
        · rw [if_neg h1]
          exact counted_swapItems ctx (lookup_of_getItemByPos hitem) hr.item (hf pos pItem hpos hitem hbank h1)

theorem counted_moveItemTo (h : w.store.InOrder) (hr : r.Accepted w) : AllCounted w.store (moveItemToEdits r) := by
  obtain ⟨hs, hd⟩ := hr.apart
  have hsr := regular_of_getElem? h hs
  unfold moveItemToEdits
  cases hdst : r.dst with
  | none => exact ⟨⟨hsr.pos, hsr.le⟩, trivial⟩
  | some found =>
    obtain ⟨d, dItem⟩ := found
    have hdr := regular_of_getElem? h (hd d dItem hdst).1
    simp only
    split_ifs with hstack hall
    · have hmax : r.sItem.maxStackSize = dItem.maxStackSize := by
        rw [r.sItem.maxStackSize_eq, dItem.maxStackSize_eq, hstack.1]
      have hbound := maxStack_le om r.sItem.itemTemplate
      rw [← r.sItem.maxStackSize_eq] at hbound
      have h1 := hsr.pos
      have h2 := hsr.le
      have h3 := hdr.le
      rw [← hmax] at h3
      have hsum : (r.sItem.count + dItem.count).toNat = r.sItem.count.toNat + dItem.count.toNat := by
        rw [UInt32.toNat_add]; omega
      rw [le_iff_toNat_le, hsum, hmax] at hall
      refine ⟨⟨?_, ?_⟩, trivial, trivial⟩
      · simp only; omega
      · simp only; omega
    · have hmax : r.sItem.maxStackSize = dItem.maxStackSize := by
        rw [r.sItem.maxStackSize_eq, dItem.maxStackSize_eq, hstack.1]
      have hbound := maxStack_le om r.sItem.itemTemplate
      rw [← r.sItem.maxStackSize_eq] at hbound
      have h2 := hsr.le
      have h3 := hdr.le
      rw [← hmax] at h3
      have hsum : (r.sItem.count + dItem.count).toNat = r.sItem.count.toNat + dItem.count.toNat := by
        rw [UInt32.toNat_add]; omega
      rw [UInt32.not_le, UInt32.lt_iff_toNat_lt, hsum] at hall
      have hleft : (r.sItem.count - (r.sItem.maxStackSize - dItem.count)).toNat =
          r.sItem.count.toNat + dItem.count.toNat - r.sItem.maxStackSize.toNat := by
        rw [UInt32.toNat_sub, UInt32.toNat_sub]
        omega
      refine ⟨⟨?_, ?_⟩, ⟨?_, le_rfl⟩, trivial⟩
      · simp only; omega
      · simp only; omega
      · simp only; rw [← hmax]; omega
    · exact ⟨trivial, trivial, trivial⟩

/-- A split onto a free slot splits off at least one piece. -/
def SplitCounts (r : SlotPair om) (split : UInt32) : Prop := r.dst = none → 1 ≤ split.toNat

theorem counted_split {split : UInt32} (h : w.store.InOrder) (hr : r.Accepted w)
    (hbyte : split.toNat < 256) (hf : SplitCounts r split) : AllCounted w.store (splitEdits w r split) := by
  obtain ⟨hs, -⟩ := hr.apart
  have hsr := regular_of_getElem? h hs
  have htab := (h.tabs r.sItem (mem_of_getElem? hs)).2
  have hbound := maxStack_le om r.sItem.itemTemplate
  rw [← r.sItem.maxStackSize_eq] at hbound
  have hle := hsr.le
  unfold splitEdits
  cases hdst : r.dst with
  | none =>
    simp only
    unfold splitToFreeEdits
    split_ifs with h1 h2
    · trivial
    · trivial
    have hsplit := hf hdst
    rw [UInt32.not_le, UInt32.lt_iff_toNat_lt] at h1
    have hsub := lt_of_signed_sub hbyte h2
    have hleft : (r.sItem.count - split).toNat = r.sItem.count.toNat - split.toNat :=
      UInt32.toNat_sub_of_le _ _ (UInt32.le_iff_toNat_le.2 hsub.le)
    refine ⟨⟨?_, ?_⟩, ⟨htab, hsplit, h1.le⟩, trivial, trivial⟩
    · simp only; omega
    · simp only; omega
  | some found =>
    obtain ⟨dst, dItem⟩ := found
    simp only
    unfold splitOntoEdits
    split_ifs with hcond
    · trivial
    simp only [not_or] at hcond
    obtain ⟨hsame, -, h3, h4, h5, h6⟩ := hcond
    have hpos : ∀ n : UInt32, ¬ n ≤ 0 → 1 ≤ n.toNat := fun n hn => UInt32.lt_iff_toNat_lt.1 (UInt32.not_le.1 hn)
    have hmax : dItem.maxStackSize = r.sItem.maxStackSize := by
      rw [r.sItem.maxStackSize_eq, dItem.maxStackSize_eq, not_not.1 hsame]
    rw [UInt32.not_lt, UInt32.le_iff_toNat_le] at h4 h6
    have hdle : (dItem.count + split).toNat ≤ dItem.maxStackSize.toNat := by rw [hmax]; exact h6
    exact ⟨⟨hpos _ h3, h4⟩, ⟨hpos _ h5, hdle⟩, trivial⟩

/-- A tab that is unlocked is not below one that has items in it. -/
def UnlockTabCounts (ctx : Ctx) (w : World om) (params : List Int) : Prop :=
  ∀ n, .tabs n ∈ unlockTabEdits ctx w params → ∀ it ∈ w.bank.bItems, it.tab.toNat ≤ n.toNat

theorem counted_unlockTab (hf : UnlockTabCounts ctx w params) : AllCounted w.store (unlockTabEdits ctx w params) := by
  unfold UnlockTabCounts at hf
  rcases unlockTabEdits_cases ctx w params with hnone | ⟨n, -, hn⟩
  · rw [hnone]
    trivial
  · rw [hn] at hf ⊢
    exact ⟨hf n mem_cons_self, trivial, trivial⟩

/-- The circumstances under which a command puts regular stacks into unlocked tabs. -/
def CommandCounts (ctx : Ctx) (text : String) (params : List Int) (w : World om) : Command → Prop
  | .unlockTab => UnlockTabCounts ctx w params
  | .depositItem => ∀ r, depositRequest ctx w text params = .ok r → DepositCounts w r
  | .withdrawItem => ∀ r, withdrawRequest ctx w text params = .ok r → WithdrawCounts w r
  | .moveItem => True
  | .splitItem => ∀ r split, splitRequest ctx w text params = .ok (r, split) → SplitCounts r split

theorem counted_edits {text : String} {cmd : Command} (h : w.store.InOrder)
    (hf : CommandCounts ctx text params w cmd) : AllCounted w.store (edits ctx text params w cmd) := by
  cases cmd with
  | unlockTab => exact counted_unlockTab hf
  | depositItem =>
    simp only [edits]
    cases hr : depositRequest ctx w text params with
    | error refusal => trivial
    | ok r => exact counted_deposit ctx h (depositRequest_ok hr) (hf r hr)
  | withdrawItem =>
    simp only [edits]
    cases hr : withdrawRequest ctx w text params with
    | error refusal => trivial
    | ok r => exact counted_withdraw ctx h (withdrawRequest_ok hr) (hf r hr)
  | moveItem =>
    simp only [edits]
    cases hr : moveRequest ctx w text params with
    | error refusal => trivial
    | ok r => exact counted_moveItemTo h (moveRequest_ok hr)
  | splitItem =>
    simp only [edits]
    cases hr : splitRequest ctx w text params with
    | error refusal => trivial
    | ok r => exact counted_split h (splitRequest_ok hr).1 (splitRequest_ok hr).2 (hf r.1 r.2 hr)

end World

end ComfyCraft
