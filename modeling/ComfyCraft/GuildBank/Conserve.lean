import ComfyCraft.GuildBank.Requests
import Mathlib.Algebra.BigOperators.Group.Finset.Piecewise

/-! Item conservation. The pieces of a template in a player's bags and in the bank are counted together,
and for each handler the exact circumstances are named under which it moves pieces without making
or losing any. Nothing is assumed about the bank or the bags: the counts of both may be anything a
32-bit number can hold. -/

namespace ComfyCraft

open List UInt32 GuildBank BankItem Nat

variable {om : ObjectMgr}

def BankItem.weigh (e : UInt32) (it : BankItem om) : Nat := if it.itemTemplate = e then it.count.toNat else 0

namespace GuildBank

def holds (b : GuildBank om) (e : UInt32) : Nat := (b.bItems.map (BankItem.weigh e)).sum

@[simp] theorem holds_push (b : GuildBank om) (it : BankItem om) (e : UInt32) : (b.push it).holds e = b.holds e := rfl

theorem holds_addItem (b : GuildBank om) (it : BankItem om) (e : UInt32) :
    (b.addItem it).holds e = b.holds e + it.weigh e := Seq.sum_append_single _ _ _

variable {b : GuildBank om} {i : Nat} {it : BankItem om}

theorem holds_setItem (it' : BankItem om) (e : UInt32)
    (h : b.bItems[i]? = some it) : (b.setItem (some i) it').holds e + it.weigh e = b.holds e + it'.weigh e :=
  Seq.sum_set _ it' h

theorem holds_deleteItem (e : UInt32) (h : b.bItems[i]? = some it) : (b.deleteItem (some i)).holds e + it.weigh e = b.holds e :=
  Seq.sum_eraseIdx _ h

end GuildBank

namespace World

/-- The pieces of a template in the acting player's bags and in the bank. -/
def total (w : World om) (e : UInt32) : Nat := w.player.holds e + w.bank.holds e

section

variable (w : World om)
include w

@[simp] theorem player_saveToDB : w.saveToDB.player = w.player := rfl

theorem holds_saveToDB (e : UInt32) : w.saveToDB.bank.holds e = w.bank.holds e := by
  unfold saveToDB GuildBank.saveToDB
  split_ifs
  · rfl
  · rfl
  · rfl
  unfold holds
  simp only [map_map]
  rfl

@[simp] theorem total_saveToDB (e : UInt32) : w.saveToDB.total e = w.total e := by
  unfold total
  rw [player_saveToDB, holds_saveToDB]

@[simp] theorem player_logAction (ctx : Ctx) (action : UInt8) (tab : UInt32) :
    (w.logAction ctx action tab).player = w.player := by
  unfold logAction
  split_ifs <;> rfl

@[simp] theorem bItems_logAction (ctx : Ctx) (action : UInt8) (tab : UInt32) :
    (w.logAction ctx action tab).bank.bItems = w.bank.bItems := by
  unfold logAction
  split_ifs <;> rfl

@[simp] theorem total_logAction (ctx : Ctx) (action : UInt8) (tab : UInt32) (e : UInt32) :
    (w.logAction ctx action tab).total e = w.total e := by
  unfold total holds
  rw [player_logAction, bItems_logAction]

end

/-- `count` pieces of the item can be taken away from it: there are that many, and if they are all of
it, it is not a bag with something still inside. -/
def TakesFrom (p : Player om) (pos : Pos) (pItem : Item om) (count : UInt32) : Prop :=
  count.toNat ≤ pItem.count.toNat ∧ (count = pItem.count → ¬ p.bagInUse pos)

variable {p : Player om} {pos : Pos} {pItem : Item om} {count bankTab bankSlot remainer split : UInt32} {ctx : Ctx}
  {free : World om → UInt32 → Pos → World om} {w : World om} {stack : Bool} {i src dst : Nat}
  {bItem sItem dItem : BankItem om} {slot toSlot : UInt8} {b : GuildBank om}

variable (e : UInt32)

theorem holds_setCountAt_sub (hp : p.mItems.lookup pos = some pItem) (hc : count.toNat ≤ pItem.count.toNat) :
    (p.setCountAt pos (pItem.count - count)).holds e + (if pItem.getEntry = e then count.toNat else 0) = p.holds e := by
  have h := Player.holds_setCountAt (pItem.count - count) e hp
  have hsub : (pItem.count - count).toNat = pItem.count.toNat - count.toNat :=
    UInt32.toNat_sub_of_le _ _ (UInt32.le_iff_toNat_le.2 hc)
  rw [hsub] at h
  split_ifs at h ⊢ <;> omega

theorem holds_taken (hp : p.getItemByPos pos = some pItem) (ht : TakesFrom p pos pItem count) :
    (taken p pos pItem count).holds e + (if pItem.getEntry = e then count.toNat else 0) = p.holds e := by
  unfold taken
  by_cases hall : count = pItem.count
  · have := Player.holds_destroyItem e hp (ht.2 hall)
    rw [if_pos hall, hall]
    omega
  · rw [if_neg hall]
    exact holds_setCountAt_sub e (Player.lookup_of_getItemByPos hp) ht.1

@[simp] theorem weigh_newItem (w : World om) (bankTab bankSlot : UInt32) (pItem : Item om) (count e : UInt32) :
    (newItem w bankTab bankSlot pItem count).weigh e = if pItem.getEntry = e then count.toNat else 0 := rfl

theorem weigh_overItem (w : World om) (bItem : BankItem om) (pItem : Item om) (count e : UInt32) (stack : Bool) :
    (overItem w bItem pItem count stack).weigh e =
      if pItem.getEntry = e then (if stack then bItem.count + count else count).toNat else 0 := rfl

section

variable (hp : w.player.mItems.lookup pos = some pItem)
include hp

theorem depositItemInSlot_new : depositItemInSlot ctx free w bankTab bankSlot pos count 0 .new stack = (({ w with
          bank := (w.bank.push (newItem w bankTab bankSlot pItem count)).addItem (newItem w bankTab bankSlot pItem count)
          player := taken w.player pos pItem count }).logAction ctx ACTION_DEPOSIT_ITEM bankTab).saveToDB := by
  unfold depositItemInSlot
  rw [hp]
  rfl

theorem depositItemInSlot_over (hi : w.bank.getItem bankTab bankSlot = some (i, bItem)) :
    depositItemInSlot ctx free w bankTab bankSlot pos count 0 .changed stack = (({ w with
          bank := (w.bank.push (overItem w bItem pItem count stack)).setItem (some i) (overItem w bItem pItem count stack)
          player := taken w.player pos pItem count }).logAction ctx ACTION_DEPOSIT_ITEM bItem.tab).saveToDB := by
  unfold depositItemInSlot
  rw [hp, hi]
  rfl

theorem depositItemInSlot_rest (hi : w.bank.getItem bankTab bankSlot = some (i, bItem)) (hr : remainer ≠ 0) :
    depositItemInSlot ctx free w bankTab bankSlot pos count remainer .changed stack = ((free { w with
          bank := (w.bank.push (overItem w bItem pItem count stack)).setItem (some i) (overItem w bItem pItem count stack)
          player := w.player.setCountAt pos (pItem.count - count) } bankTab pos).logAction ctx
            ACTION_DEPOSIT_ITEM bItem.tab).saveToDB := by
  unfold depositItemInSlot
  rw [hp, hi]
  simp only [if_neg hr, reduceCtorEq, if_false, Option.map_some]

end

theorem total_depositNew (hp : w.player.getItemByPos pos = some pItem) (ht : TakesFrom w.player pos pItem count) :
    (depositItemInSlot ctx free w bankTab bankSlot pos count 0 .new stack).total e = w.total e := by
  rw [depositItemInSlot_new (Player.lookup_of_getItemByPos hp), total_saveToDB, total_logAction]
  have h1 := holds_taken e hp ht
  unfold total
  rw [holds_addItem, holds_push, weigh_newItem]
  simp only
  omega

/-- What a deposit over `bItem` does to the total, before anything is known about the numbers. -/
theorem total_depositOver (ctx : Ctx) (free : World om → UInt32 → Pos → World om) (count : UInt32) (stack : Bool)
    (e : UInt32) (hp : w.player.mItems.lookup pos = some pItem) (hi : w.bank.getItem bankTab bankSlot = some (i, bItem)) :
    (depositItemInSlot ctx free w bankTab bankSlot pos count 0 .changed stack).total e + bItem.weigh e =
      (taken w.player pos pItem count).holds e + w.bank.holds e + (overItem w bItem pItem count stack).weigh e := by
  rw [depositItemInSlot_over hp hi, total_saveToDB, total_logAction]
  have h2 := holds_setItem (b := w.bank.push (overItem w bItem pItem count stack))
    (overItem w bItem pItem count stack) e (getItem_some hi).1
  rw [holds_push] at h2
  unfold total
  simp only
  omega

section

variable (hp : w.player.getItemByPos pos = some pItem) (hi : w.bank.getItem bankTab bankSlot = some (i, bItem))
  (hsame : bItem.itemTemplate = pItem.getEntry)
include hp hi hsame

theorem total_depositStack (ht : TakesFrom w.player pos pItem count) (hfit : bItem.count.toNat + count.toNat < 2 ^ 32) :
    (depositItemInSlot ctx free w bankTab bankSlot pos count 0 .changed true).total e = w.total e := by
  have h1 := total_depositOver ctx free count true e (Player.lookup_of_getItemByPos hp) hi
  have h2 := holds_taken e hp ht
  rw [weigh_overItem, if_pos rfl, weigh, hsame, UInt32.toNat_add, mod_eq_of_lt hfit] at h1
  unfold total at h1 ⊢
  split_ifs at h1 h2 <;> omega

/-- Where an overfull stack of the bank is cut down to a full one, the difference goes back to the bag. -/
theorem total_depositOverfull (hfulldef : bItem.maxStackSize.toNat < bItem.count.toNat)
    (hfit : pItem.count.toNat + (bItem.count.toNat - bItem.maxStackSize.toNat) < 2 ^ 32) :
    (depositItemInSlot ctx free w bankTab bankSlot pos (bItem.maxStackSize - bItem.count) 0 .changed true).total e =
      w.total e := by
  have hl := Player.lookup_of_getItemByPos hp
  have h1 := total_depositOver ctx free (bItem.maxStackSize - bItem.count) true e hl hi
  have hc := bItem.count.toNat_lt
  have hsub : (bItem.maxStackSize - bItem.count).toNat = 2 ^ 32 - bItem.count.toNat + bItem.maxStackSize.toNat := by
    rw [UInt32.toNat_sub]; omega
  have hadd : (bItem.count + (bItem.maxStackSize - bItem.count)).toNat = bItem.maxStackSize.toNat := by
    rw [UInt32.toNat_add, hsub]; omega
  have hne : bItem.maxStackSize - bItem.count ≠ pItem.count := by
    intro heq
    have := congrArg toNat heq
    omega
  have hrest : (pItem.count - (bItem.maxStackSize - bItem.count)).toNat =
      pItem.count.toNat + (bItem.count.toNat - bItem.maxStackSize.toNat) := by
    rw [UInt32.toNat_sub, hsub]; omega
  have h2 := Player.holds_setCountAt (pItem.count - (bItem.maxStackSize - bItem.count)) e hl
  rw [weigh_overItem, if_pos rfl, weigh, hsame, hadd, taken, if_neg hne] at h1
  rw [hrest] at h2
  unfold total at h1 ⊢
  split_ifs at h1 h2 <;> omega

end

/-- A whole item can be deposited into a tab: no stack of it there overflows with it, and it is not
a bag with something still inside, unless it stays where it is because the tab is full. -/
structure FitsTab (w : World om) (bankTab : UInt32) (pos : Pos) (pItem : Item om) : Prop where
  room : 1 < pItem.proto.stackable → ∀ b ∈ w.bank.bItems, b.tab = bankTab → b.itemTemplate = pItem.getEntry →
    b.count.toNat + pItem.count.toNat < 2 ^ 32
  bag : ¬ w.player.bagInUse pos ∨ ¬ 1 < pItem.proto.stackable ∧ freeSlot w.bank bankTab = none

theorem total_depositItemInFreeSlot (ctx : Ctx) (fuel : Nat)
    (e : UInt32) (hp : w.player.getItemByPos pos = some pItem) (hf : FitsTab w bankTab pos pItem) :
    (depositItemInFreeSlot ctx fuel w bankTab pos).total e = w.total e := by
  induction fuel generalizing w pItem with
  | zero => rfl
  | succ fuel ih =>
    have hl := Player.lookup_of_getItemByPos hp
    unfold depositItemInFreeSlot
    rw [hl]
    simp only
    split
    · rename_i i bItem hfound
      split_ifs at hfound with h1
      obtain ⟨idx, -, hget, hsame, hlt⟩ := stackSlot_some hfound
      obtain ⟨hidx, htab, hslot⟩ := getItem_some hget
      have hsum := hf.room h1 bItem (mem_of_getElem? hidx) htab hsame
      have hbag := hf.bag.resolve_right fun h => h.1 h1
      split_ifs with hall
      · exact total_depositStack e hp hget hsame ⟨le_rfl, fun _ => hbag⟩ hsum
      -- the stack is filled up and the rest of the item is deposited like a new one
      have hroom : (bItem.maxStackSize - bItem.count).toNat = bItem.maxStackSize.toNat - bItem.count.toNat :=
        UInt32.toNat_sub_of_le _ _ (UInt32.le_iff_toNat_le.2 hlt.le)
      have hmore : bItem.maxStackSize.toNat < pItem.count.toNat + bItem.count.toNat := by
        rw [UInt32.not_le, UInt32.lt_iff_toNat_lt, UInt32.toNat_add] at hall
        omega
      have hle : (bItem.maxStackSize - bItem.count).toNat ≤ pItem.count.toNat := by omega
      have hleft : (pItem.count - (bItem.maxStackSize - bItem.count)).toNat =
          pItem.count.toNat - (bItem.maxStackSize.toNat - bItem.count.toNat) := by
        rw [UInt32.toNat_sub_of_le _ _ (UInt32.le_iff_toNat_le.2 hle), hroom]
      have hne : pItem.count - (bItem.maxStackSize - bItem.count) ≠ 0 := by
        intro h0
        have := congrArg toNat h0
        rw [hleft, UInt32.toNat_zero] at this
        omega
      have hfull : (bItem.count + (bItem.maxStackSize - bItem.count)).toNat = bItem.maxStackSize.toNat := by
        rw [UInt32.toNat_add, hroom]; omega
      rw [depositItemInSlot_rest hl hget hne, total_saveToDB, total_logAction]
      set full := overItem w bItem pItem (bItem.maxStackSize - bItem.count) true with hfulldef
      have hp' := Player.getItemByPos_setCountAt (pItem.count - (bItem.maxStackSize - bItem.count)) hp
      rw [ih hp' ?_]
      · have hb := holds_setItem (b := w.bank.push full) full e hidx
        have ht := Player.holds_setCountAt (pItem.count - (bItem.maxStackSize - bItem.count)) e hl
        rw [holds_push, hfulldef, weigh_overItem, if_pos rfl, hfull, weigh, hsame, ← hfulldef] at hb
        rw [hleft] at ht
        unfold total
        simp only
        split_ifs at hb ht <;> omega
      · refine ⟨fun _ b hb hbt hbs => ?_, .inl ?_⟩
        · change b ∈ w.bank.bItems.set idx full at hb
          change b.count.toNat + (pItem.count - (bItem.maxStackSize - bItem.count)).toNat < 2 ^ 32
          rw [hleft]
          rcases mem_or_eq_of_mem_set hb with hb | rfl
          · have := hf.room h1 b hb hbt hbs
            omega
          · have hcount : full.count.toNat = bItem.maxStackSize.toNat := hfull
            omega
        · rw [Player.bagInUse_setCountAt]
          exact hbag
    · split
      · rename_i slot hslot
        refine total_depositNew e hp ⟨le_rfl, fun _ => ?_⟩
        exact hf.bag.resolve_right fun h => by rw [hslot] at h; exact absurd h.2 (by simp)
      · rfl

theorem total_takeOut (ctx : Ctx) (w : World om) (left : Option UInt32) (e : UInt32) (hi : w.bank.bItems[i]? = some bItem) :
    (takeOut ctx w (some i) bItem left).total e + bItem.weigh e =
      w.total e + if bItem.itemTemplate = e then (left.getD 0).toNat else 0 := by
  cases left with
  | none =>
    unfold takeOut
    simp only
    rw [total_saveToDB]
    set removed := { bItem with state := ItemUpdateState.removed } with hrem
    set w' := { w with bank := (w.bank.setItem (some i) removed).push removed } with hw'
    have hlog : (w'.logAction ctx ACTION_WITHDRAW_ITEM removed.tab).bank.bItems = w.bank.bItems.set i removed :=
      bItems_logAction _ _ _ _
    have hlt : i < w.bank.bItems.length := (List.getElem?_eq_some_iff.1 hi).1
    have hget : (w'.logAction ctx ACTION_WITHDRAW_ITEM removed.tab).bank.bItems[i]? = some removed := by
      rw [hlog, getElem?_set_self hlt]
    have h1 := holds_deleteItem e hget
    have h2 := holds_setItem removed e hi
    have h3 : (w'.logAction ctx ACTION_WITHDRAW_ITEM removed.tab).bank.holds e = (w.bank.setItem (some i) removed).holds e := by
      unfold holds
      rw [hlog]
      rfl
    have hw : removed.weigh e = bItem.weigh e := rfl
    rw [h3] at h1
    unfold total
    rw [player_logAction]
    simp only [Option.getD_none, UInt32.toNat_zero, ite_self]
    change w.player.holds e + ((w'.logAction ctx ACTION_WITHDRAW_ITEM removed.tab).bank.deleteItem (some i)).holds e +
      bItem.weigh e = w.player.holds e + w.bank.holds e + 0
    omega
  | some n =>
    unfold takeOut
    simp only
    rw [total_saveToDB, total_logAction]
    have h2 := holds_setItem { bItem with count := n, state := .changed } e hi
    have hw : ({ bItem with count := n, state := .changed } : BankItem om).weigh e =
        if bItem.itemTemplate = e then n.toNat else 0 := rfl
    unfold total
    rw [holds_push]
    simp only [Option.getD_some]
    omega

/-- A withdrawal onto a stack of the player, which the search for room has already looked at. -/
theorem total_withdrawOnto (hp : w.player.getItemByPos pos = some pItem) (hi : w.bank.bItems[i]? = some bItem)
    (hcount : pItem.count.toNat < pItem.proto.stackable.toNat → count.toNat ≤ bItem.count.toNat ∧ remainer = bItem.count - count) :
    (withdrawItemTo ctx w pos.bag pos.slot count (some i) bItem (some pos) remainer).total e = w.total e := by
  unfold withdrawItemTo
  split
  · rfl
  rename_i dest hdest
  have hl := Player.lookup_of_getItemByPos hp
  obtain ⟨hsame, hlt⟩ := Player.canStoreNewItem_target hdest hp
  obtain ⟨hle, hrem⟩ := hcount hlt
  have hstack := pItem.proto.stackable_le
  have hmany := Player.canStoreNewItem_count_le hdest
  have hadd : (pItem.count + count).toNat = pItem.count.toNat + count.toNat := by
    rw [UInt32.toNat_add]; omega
  have hsub : (bItem.count - count).toNat = bItem.count.toNat - count.toNat :=
    UInt32.toNat_sub_of_le _ _ (UInt32.le_iff_toNat_le.2 hle)
  have hpl := Player.holds_setCountAt (pItem.count + count) e hl
  have hleft : ((if remainer = 0 then none else some (bItem.count - count)).getD 0).toNat = bItem.count.toNat - count.toNat := by
    split_ifs with h0
    · rw [← hsub, ← hrem, h0]; rfl
    · exact hsub
  simp only [hl]
  have ht := total_takeOut ctx { w with player := w.player.setCountAt pos (pItem.count + count) }
    (if remainer = 0 then none else some (bItem.count - count)) e hi
  rw [hleft, weigh] at ht
  rw [hadd, hsame] at hpl
  generalize (if remainer = 0 then none else some (bItem.count - count)) = left at ht ⊢
  unfold total at ht ⊢
  simp only at ht
  split_ifs at ht hpl <;> omega

/-- A withdrawal to wherever the search for room has found a place, if the places are free. -/
theorem total_withdrawTo {bag : UInt8} (hi : w.bank.bItems[i]? = some bItem) (hle : count.toNat ≤ bItem.count.toNat)
    (hrem : remainer = bItem.count - count)
    (ho : ∀ dest, w.player.canStoreNewItem bag slot bItem.itemTemplate count = .ok dest → ∀ d ∈ dest, w.player.Open d.pos) :
    (withdrawItemTo ctx w bag slot count (some i) bItem none remainer).total e = w.total e := by
  unfold withdrawItemTo
  split
  · rfl
  rename_i dest hdest
  have hsub : (bItem.count - count).toNat = bItem.count.toNat - count.toNat :=
    UInt32.toNat_sub_of_le _ _ (UInt32.le_iff_toNat_le.2 hle)
  simp only
  rcases Player.holds_storeNewItem ctx.randomPropertyId hdest (ho dest hdest) with ⟨-, hnone⟩ | ⟨⟨pos, hpos⟩, hholds⟩
  · rw [hnone]
    simp only
    rw [total_saveToDB]
  have hpl := hholds e
  generalize w.player.storeNewItem dest bItem.itemTemplate ctx.randomPropertyId = r at hpos hpl
  obtain ⟨r1, player⟩ := r
  simp only at hpos hpl
  subst hpos
  simp only
  have ht := total_takeOut ctx { w with player := player.setFieldsAt pos bItem.fields }
    (if remainer = 0 then none else some remainer) e hi
  have hleft : ((if remainer = 0 then none else some remainer).getD 0).toNat = bItem.count.toNat - count.toNat := by
    rw [← hsub, ← hrem]
    split_ifs with h0
    · rw [h0]; rfl
    · rfl
  rw [hleft, weigh] at ht
  generalize (if remainer = 0 then none else some remainer) = left at ht ⊢
  unfold total at ht ⊢
  simp only [Player.holds_setFieldsAt] at ht
  split_ifs at ht hpl <;> omega

theorem total_takeOut_copy (ctx : Ctx) (w : World om) (bItem : BankItem om) (left : Option UInt32) (e : UInt32) :
    (takeOut ctx w none bItem left).total e = w.total e := by
  cases left with
  | none =>
    unfold takeOut
    simp only
    rw [total_saveToDB]
    exact total_logAction _ ctx ACTION_WITHDRAW_ITEM bItem.tab e
  | some n =>
    unfold takeOut
    simp only
    rw [total_saveToDB]
    exact total_logAction _ ctx ACTION_WITHDRAW_ITEM bItem.tab e

/-- A copy of a bank item that finds room is created on top of what there is. -/
theorem total_withdrawCopy {aux : BankItem om}
    (h : aux.count = 0 ∨ ∃ dest, w.player.canStoreNewItem INVENTORY_SLOT_BAG_0 slot aux.itemTemplate aux.count = .ok dest) :
    (withdrawItemTo ctx w INVENTORY_SLOT_BAG_0 slot aux.count none aux none 0).total e = w.total e + aux.weigh e := by
  unfold withdrawItemTo
  split
  · rename_i err herr
    rcases h with h0 | ⟨dest, hdest⟩
    · simp [weigh, h0]
    · rw [herr] at hdest; cases hdest
  · rename_i dest hdest
    simp only
    rcases Player.holds_storeNewItem ctx.randomPropertyId hdest (Player.open_of_canStore hdest (.inr (.inl rfl))) with
      ⟨h0, hnone⟩ | ⟨⟨pos, hpos⟩, hholds⟩
    · rw [hnone]
      simp only
      rw [total_saveToDB]
      simp [weigh, h0]
    · have hpl := hholds e
      generalize w.player.storeNewItem dest aux.itemTemplate ctx.randomPropertyId = r at hpos hpl
      obtain ⟨r1, player⟩ := r
      simp only at hpos hpl
      subst hpos
      simp only
      rw [total_takeOut_copy]
      unfold total weigh
      simp only [Player.holds_setFieldsAt]
      omega

/-- A swap goes through as a whole: either it is refused before anything is deposited, or the bag item
is not a bag with something still inside and there is room for the bank item once it is gone. -/
def SwapFits (w : World om) (pos : Pos) (bankItem : BankItem om) : Prop :=
  (∃ res, w.player.canStoreNewItem NULL_BAG NULL_SLOT bankItem.itemTemplate bankItem.count = .error res ∧ res ≠ .inventoryFull) ∨
    ¬ w.player.bagInUse pos ∧ (bankItem.count = 0 ∨ ∃ dest, (w.player.destroyItem pos).canStoreNewItem
      INVENTORY_SLOT_BAG_0 NULL_SLOT bankItem.itemTemplate bankItem.count = .ok dest)

theorem total_swapItems {bagItem : Item om} {bankItem : BankItem om} (hp : w.player.getItemByPos pos = some bagItem)
    (hi : w.bank.getItem bankItem.tab bankItem.slot = some (i, bankItem)) (hs : SwapFits w pos bankItem) :
    (swapItems ctx w pos bagItem bankItem).total e = w.total e := by
  have hgo : ¬ w.player.bagInUse pos → (bankItem.count = 0 ∨ ∃ dest, (w.player.destroyItem pos).canStoreNewItem
      INVENTORY_SLOT_BAG_0 NULL_SLOT bankItem.itemTemplate bankItem.count = .ok dest) →
      (let w1 := depositInSlot ctx w bankItem.tab bankItem.slot pos bagItem.count .changed false
       let pos := if (w1.player.mItems.lookup pos).isSome then pos else ⟨INVENTORY_SLOT_BAG_0, NULL_SLOT⟩
       withdrawItemTo ctx w1 pos.bag pos.slot bankItem.count none bankItem none 0).total e = w.total e := by
    intro hbag hroom
    have hl := Player.lookup_of_getItemByPos hp
    have h1 := total_depositOver ctx (depositItemInFreeSlot ctx freeSlotFuel) bagItem.count false e hl hi
    have hplayer : (depositInSlot ctx w bankItem.tab bankItem.slot pos bagItem.count .changed false).player =
        w.player.destroyItem pos := by
      unfold depositInSlot
      rw [depositItemInSlot_over hl hi, player_saveToDB, player_logAction, taken, if_pos rfl]
    have hfulldef : (overItem w bankItem bagItem bagItem.count false).weigh e =
        if bagItem.getEntry = e then bagItem.count.toNat else 0 := rfl
    rw [taken, if_pos rfl, hfulldef] at h1
    have h2 := Player.holds_destroyItem e hp hbag
    simp only [hplayer, Player.lookup_destroyItem hp, Option.isSome_none, Bool.false_eq_true, if_false]
    rw [total_withdrawCopy e (by rw [hplayer]; exact hroom)]
    unfold depositInSlot
    unfold total at h1 ⊢
    omega
  unfold swapItems
  rcases hs with ⟨res, hres, hne⟩ | ⟨hbag, hroom⟩
  · rw [hres]
    cases res <;> first | rfl | exact absurd rfl hne
  · split
    · exact hgo hbag hroom
    · exact hgo hbag hroom
    · rfl

theorem holds_change {it : BankItem om} (it' : BankItem om) (e : UInt32)
    (h : b.bItems[i]? = some it) : (change b i it').holds e + it.weigh e = b.holds e + it'.weigh e :=
  holds_setItem { it' with state := .changed } e h

theorem bItems_change (b : GuildBank om) (i : Nat) (it : BankItem om) :
    (change b i it).bItems = b.bItems.set i { it with state := .changed } := rfl

/-- Stacking in the bank does not overflow: where a move or a split adds two stacks of one template
up, the sum fits into 32 bits. -/
def StackFits (sItem dItem : BankItem om) (n : UInt32) : Prop :=
  sItem.itemTemplate = dItem.itemTemplate → n.toNat + dItem.count.toNat < 2 ^ 32

theorem maxStackSize_same (h : sItem.itemTemplate = dItem.itemTemplate) : sItem.maxStackSize = dItem.maxStackSize := by
  rw [sItem.maxStackSize_eq, dItem.maxStackSize_eq, h]

/-- Two stacks of the bank that a handler changes at once: the counts it gives them add up to the old ones. -/
theorem holds_change_two (s' d' : BankItem om) (e : UInt32)
    (hs : b.bItems[src]? = some sItem) (hd : b.bItems[dst]? = some dItem) (hne : src ≠ dst)
    (hsum : s'.weigh e + d'.weigh e = sItem.weigh e + dItem.weigh e) :
    (change (change b src s') dst d').holds e = b.holds e := by
  have h1 := holds_change s' e hs
  have hd' : (change b src s').bItems[dst]? = some dItem := by
    rw [bItems_change, getElem?_set_ne hne]; exact hd
  have h2 := holds_change d' e hd'
  omega

theorem total_moveItemTo {dst : Option (Nat × BankItem om)} {fromSlot : UInt8} (hs : w.bank.bItems[src]? = some sItem)
    (hd : ∀ d dItem, dst = some (d, dItem) → w.bank.bItems[d]? = some dItem ∧ src ≠ d ∧
      (sItem.count ≠ sItem.maxStackSize → dItem.count ≠ dItem.maxStackSize → StackFits sItem dItem sItem.count)) :
    (moveItemTo w src sItem dst fromSlot toSlot).total e = w.total e := by
  unfold moveItemTo
  cases dst with
  | none =>
    have h := holds_change { sItem with slot := toSlot.toUInt32 } e hs
    have hw : ({ sItem with slot := toSlot.toUInt32 } : BankItem om).weigh e = sItem.weigh e := rfl
    unfold total
    simp only
    omega
  | some r =>
    obtain ⟨d, dItem⟩ := r
    obtain ⟨hdi, hne, hfit⟩ := hd d dItem rfl
    simp only
    split_ifs with hstack hall
    · obtain ⟨hsame, hfull⟩ := hstack
      have hsum := hfit (fun h => hfull (.inl h)) (fun h => hfull (.inr h)) hsame
      have h1 := holds_change { dItem with count := sItem.count + dItem.count } e hdi
      set b := change w.bank d { dItem with count := sItem.count + dItem.count } with hb
      have hsrc : (b.push { sItem with state := .removed }).bItems[src]? = some sItem := by
        change b.bItems[src]? = some sItem
        rw [hb, bItems_change, getElem?_set_ne hne.symm]; exact hs
      have h2 := holds_deleteItem e hsrc
      rw [holds_push] at h2
      have hw : ({ dItem with count := sItem.count + dItem.count } : BankItem om).weigh e = sItem.weigh e + dItem.weigh e := by
        unfold weigh
        rw [hsame, UInt32.toNat_add, mod_eq_of_lt hsum]
        split_ifs <;> rfl
      unfold total
      simp only
      omega
    · obtain ⟨hsame, hfull⟩ := hstack
      have hsum := hfit (fun h => hfull (.inl h)) (fun h => hfull (.inr h)) hsame
      have hmore : sItem.maxStackSize.toNat < sItem.count.toNat + dItem.count.toNat := by
        rw [UInt32.not_le, UInt32.lt_iff_toNat_lt, UInt32.toNat_add, mod_eq_of_lt hsum] at hall
        exact hall
      have hleft : (sItem.count - (sItem.maxStackSize - dItem.count)).toNat =
          sItem.count.toNat + dItem.count.toNat - sItem.maxStackSize.toNat := by
        have := sItem.count.toNat_lt
        have := dItem.count.toNat_lt
        rw [UInt32.toNat_sub, UInt32.toNat_sub]
        omega
      have hsum2 := holds_change_two { sItem with count := sItem.count - (sItem.maxStackSize - dItem.count) }
        { dItem with count := dItem.maxStackSize } e hs hdi hne (by
          unfold weigh
          simp only
          rw [hleft, hsame, ← maxStackSize_same hsame]
          split_ifs <;> omega)
      unfold total
      simp only
      omega
    · rw [total_saveToDB]
      have hsum2 := holds_change_two { sItem with slot := toSlot.toUInt32 } { dItem with slot := fromSlot.toUInt32 } e hs hdi hne rfl
      unfold total
      simp only
      omega

theorem total_splitToFree (hs : w.bank.bItems[src]? = some sItem) (hsplit : split.toNat < 256) :
    (splitToFree w src sItem toSlot split).total e = w.total e := by
  unfold splitToFree
  split_ifs with h1 h2
  · rfl
  · rfl
  rw [total_saveToDB]
  have hle := (lt_of_signed_sub hsplit h2).le
  have hsub : (sItem.count - split).toNat = sItem.count.toNat - split.toNat :=
    UInt32.toNat_sub_of_le _ _ (UInt32.le_iff_toNat_le.2 hle)
  have h1 := holds_change { sItem with count := sItem.count - split } e hs
  unfold total
  simp only
  rw [holds_addItem, holds_push]
  unfold weigh cloneBankItem at *
  simp only at *
  rw [hsub] at h1
  split_ifs at h1 ⊢ <;> omega

theorem total_splitOnto (hs : w.bank.bItems[src]? = some sItem) (hd : w.bank.bItems[dst]? = some dItem) (hne : src ≠ dst)
    (hsplit : split.toNat < 256) (hfit : StackFits sItem dItem split) :
    (splitOnto w src sItem dst dItem split).total e = w.total e := by
  unfold splitOnto
  simp only
  split_ifs with h1 h2 h3 h4 h5 h6
  · rfl
  · rfl
  · rfl
  · rfl
  · rfl
  · rfl
  have hsame := not_not.1 h1
  have hsum := hfit hsame
  -- a source of fewer pieces than are split off would have wrapped to far more than a stack
  have hle : split.toNat ≤ sItem.count.toNat := by
    by_contra hlt
    rw [UInt32.lt_iff_toNat_lt, UInt32.toNat_sub, sItem.maxStackSize_eq] at h4
    have := maxStack_le om sItem.itemTemplate
    have := sItem.count.toNat_lt
    omega
  have hsub : (sItem.count - split).toNat = sItem.count.toNat - split.toNat :=
    UInt32.toNat_sub_of_le _ _ (UInt32.le_iff_toNat_le.2 hle)
  have hadd : (dItem.count + split).toNat = dItem.count.toNat + split.toNat := by
    rw [UInt32.toNat_add]; omega
  have hsum2 := holds_change_two { sItem with count := sItem.count - split } { dItem with count := dItem.count + split } e hs hd hne (by
      unfold weigh
      simp only
      rw [hsub, hadd, hsame]
      split_ifs <;> omega)
  unfold total
  simp only
  omega

/-- A deposit dropped on an occupied slot moves pieces without loss: the item has as many as are
deposited and no stack overflows, or it is swapped as a whole. -/
def OntoFits (w : World om) (pos : Pos) (pItem : Item om) (dItem : BankItem om) (count : UInt32) : Prop :=
  if dItem.itemTemplate = pItem.getEntry ∧ dItem.count = pItem.count ∧ dItem.count = dItem.maxStackSize ∧
      dItem.fields.randomPropertyId = pItem.fields.randomPropertyId then True
  else if dItem.itemTemplate = pItem.getEntry ∧ 1 < dItem.maxStackSize then
    if dItem.count + count ≤ dItem.maxStackSize then
      TakesFrom w.player pos pItem count ∧ dItem.count.toNat + count.toNat < 2 ^ 32
    else if count < dItem.count ∧ dItem.count = dItem.maxStackSize then True
    else if dItem.maxStackSize < dItem.count then
      pItem.count.toNat + (dItem.count.toNat - dItem.maxStackSize.toNat) < 2 ^ 32
    else TakesFrom w.player pos pItem (dItem.maxStackSize - dItem.count)
  else SwapFits w pos dItem

theorem total_depositOnto {ref : Nat} (hp : w.player.getItemByPos pos = some pItem)
    (hi : w.bank.getItem bankTab bankSlot = some (ref, dItem)) (hf : OntoFits w pos pItem dItem count) :
    (depositOnto ctx w bankTab bankSlot count pos pItem ref dItem).total e = w.total e := by
  unfold OntoFits at hf
  unfold depositOnto
  split_ifs at hf ⊢ with h1 h2 h3 h4 h5
  · rfl
  · exact total_depositStack e hp hi h2.1 hf.1 hf.2
  · refine total_withdrawOnto e hp (getItem_some hi).1 fun _ => ?_
    have hlt := lt_iff_toNat_lt.1 h4.1
    have hsub : (dItem.maxStackSize - count).toNat = dItem.maxStackSize.toNat - count.toNat :=
      UInt32.toNat_sub_of_le _ _ (UInt32.le_iff_toNat_le.2 (by rw [← h4.2]; exact hlt.le))
    refine ⟨by rw [hsub, ← h4.2]; omega, by rw [h4.2]⟩
  · exact total_depositOverfull e hp hi h2.1 (lt_iff_toNat_lt.1 h5) hf
  · rw [UInt32.not_lt, UInt32.le_iff_toNat_le] at h5
    refine total_depositStack e hp hi h2.1 hf ?_
    have := dItem.maxStackSize.toNat_lt
    rw [UInt32.toNat_sub_of_le _ _ (UInt32.le_iff_toNat_le.2 h5)]
    omega
  · exact total_swapItems e hp (getItem_self hi) hf

def DepositFits (w : World om) (r : DepositRequest om) : Prop :=
  if r.bankSlot = 0 then FitsTab w r.bankTab r.pos r.pItem
  else match w.bank.getItem r.bankTab r.bankSlot with
    | some (_, dItem) => OntoFits w r.pos r.pItem dItem r.count
    | none => TakesFrom w.player r.pos r.pItem r.count

theorem total_deposit {r : DepositRequest om} (hr : r.Accepted w)
    (hf : DepositFits w r) : (deposit ctx w r).total e = w.total e := by
  unfold DepositFits at hf
  unfold deposit
  split_ifs at hf ⊢ with h0
  · exact total_depositItemInFreeSlot ctx freeSlotFuel e hr.item hf
  cases hi : w.bank.getItem r.bankTab r.bankSlot with
  | some found =>
    obtain ⟨ref, dItem⟩ := found
    rw [hi] at hf
    exact total_depositOnto e hr.item hi hf
  | none =>
    rw [hi] at hf
    exact total_depositNew e hr.item hf

/-- A withdrawal to a position that looks free needs the places found for it to be free; one onto an
item that cannot be stacked on is a swap. -/
def WithdrawFits (w : World om) (r : WithdrawRequest om) : Prop :=
  match r.pos with
  | none => True
  | some pos =>
    match w.player.getItemByPos pos with
    | none => ∀ dest, w.player.canStoreNewItem pos.bag pos.slot r.bItem.itemTemplate r.withdrawCount = .ok dest →
        ∀ d ∈ dest, w.player.Open d.pos
    | some pItem => isItemBankable pItem = none → ¬ (pItem.getEntry = r.bItem.itemTemplate ∧ 1 < r.bItem.maxStackSize) →
        SwapFits w pos r.bItem

theorem total_withdraw {r : WithdrawRequest om} (hr : r.Accepted w)
    (hf : WithdrawFits w r) : (withdraw ctx w r).total e = w.total e := by
  have hi := (getItem_some hr.item).1
  unfold WithdrawFits at hf
  unfold withdraw
  cases hpos : r.pos with
  | none =>
    simp only
    have hw := hr.whole hpos
    refine total_withdrawTo e hi hr.count (by rw [hw]; exact (sub_self _).symm) fun dest hdest => ?_
    exact Player.open_of_canStore hdest (.inl rfl)
  | some pos =>
    rw [hpos] at hf
    simp only at hf ⊢
    cases hget : w.player.getItemByPos pos with
    | none =>
      rw [hget] at hf
      exact total_withdrawTo e hi hr.count rfl hf
    | some pItem =>
      rw [hget] at hf
      simp only at hf ⊢
      unfold withdrawOnto
      split
      · rfl
      rename_i hbank
      by_cases h1 : pItem.getEntry = r.bItem.itemTemplate ∧ 1 < r.bItem.maxStackSize
      · rw [if_pos h1]
        refine total_withdrawOnto e hget hi fun hlt => ⟨?_, rfl⟩
        have hcount := hr.count
        split_ifs with h2
        · have hsub : (pItem.proto.stackable - pItem.count).toNat = pItem.proto.stackable.toNat - pItem.count.toNat :=
            UInt32.toNat_sub_of_le _ _ (UInt32.le_iff_toNat_le.2 hlt.le)
          rw [UInt32.lt_iff_toNat_lt, UInt32.toNat_add] at h2
          have := mod_le (r.withdrawCount.toNat + pItem.count.toNat) (2 ^ 32)
          unfold Item.getMaxStackCount at h2
          omega
        · exact hcount
      · rw [if_neg h1]
        exact total_swapItems e hget hr.item (hf hbank h1)

def MoveFits (r : SlotPair om) : Prop :=
  ∀ d dItem, r.dst = some (d, dItem) → r.sItem.count ≠ r.sItem.maxStackSize → dItem.count ≠ dItem.maxStackSize →
    StackFits r.sItem dItem r.sItem.count

def SplitFits (r : SlotPair om) (split : UInt32) : Prop :=
  ∀ d dItem, r.dst = some (d, dItem) → StackFits r.sItem dItem split

/-- The circumstances under which a command keeps every piece: what it goes on to do after its checks
moves no more pieces than there are, overflows no stack and leaves no bag contents behind. -/
def CommandFits (ctx : Ctx) (text : String) (params : List Int) (w : World om) : Command → Prop
  | .unlockTab => True
  | .depositItem => ∀ r, depositRequest ctx w text params = .ok r → DepositFits w r
  | .withdrawItem => ∀ r, withdrawRequest ctx w text params = .ok r → WithdrawFits w r
  | .moveItem => ∀ r, moveRequest ctx w text params = .ok r → MoveFits r
  | .splitItem => ∀ r split, splitRequest ctx w text params = .ok (r, split) → SplitFits r split

theorem total_unlockTab (ctx : Ctx) (w : World om) (text : String) (params : List Int) (e : UInt32) :
    (unlockTab ctx w text params).total e = w.total e := by
  unfold unlockTab
  split_ifs
  · rfl
  split
  · simp only
    split_ifs
    · rfl
    · rfl
    · rfl
    · rw [total_saveToDB, total_logAction]; rfl
    · rfl
    · rw [total_saveToDB, total_logAction]; rfl
  · rfl

theorem total_runCommand {text : String} {params : List Int} {cmd : Command}
    (hf : CommandFits ctx text params w cmd) : (runCommand ctx text params w cmd).total e = w.total e := by
  cases cmd with
  | unlockTab => exact total_unlockTab ctx w text params e
  | depositItem =>
    change (depositItem ctx w text params).total e = _
    unfold depositItem
    split
    · rfl
    · rename_i r hr
      exact total_deposit e (depositRequest_ok hr) (hf r hr)
  | withdrawItem =>
    change (withdrawItem ctx w text params).total e = _
    unfold withdrawItem
    split
    · rfl
    · rename_i r hr
      exact total_withdraw e (withdrawRequest_ok hr) (hf r hr)
  | moveItem =>
    change (moveItem ctx w text params).total e = _
    unfold moveItem
    split
    · rfl
    rename_i r hr
    obtain ⟨hs, hd⟩ := (moveRequest_ok hr).apart
    exact total_moveItemTo e hs fun d dItem hdst => ⟨(hd d dItem hdst).1, (hd d dItem hdst).2, hf r hr d dItem hdst⟩
  | splitItem =>
    change (splitItem ctx w text params).total e = _
    unfold splitItem
    split
    · rfl
    · rfl
    rename_i r split hr
    obtain ⟨hacc, hsplit⟩ := splitRequest_ok hr
    obtain ⟨hs, hd⟩ := hacc.apart
    split
    · exact total_splitToFree e hs hsplit
    · rename_i dst dItem hdst
      exact total_splitOnto e hs (hd dst dItem hdst).1 (hd dst dItem hdst).2 hsplit (hf r split hr dst dItem hdst)

end World

end ComfyCraft
