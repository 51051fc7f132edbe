import ComfyCraft.GuildBank.Handlers

/-! What a message that has passed a handler's checks is known to satisfy. Later proofs use these facts
and never look at the checks again. -/

namespace ComfyCraft

open UInt32 UInt8 Seq GuildBank Int32

variable {om : ObjectMgr}

variable {b : GuildBank om} {tab slot : UInt32} {i : Nat} {it : BankItem om}

theorem GuildBank.getItem_some
    (h : b.getItem tab slot = some (i, it)) : b.bItems[i]? = some it ∧ it.tab = tab ∧ it.slot = slot := by
  obtain ⟨hi, hp⟩ := locate_some h
  simp only [Bool.and_eq_true, decide_eq_true_eq] at hp
  exact ⟨hi, hp⟩

theorem GuildBank.getItem_none (h : b.getItem tab slot = none) : ∀ it ∈ b.bItems, ¬ (it.tab = tab ∧ it.slot = slot) := by
  intro it hit hts
  have := locate_none h it hit
  simp [hts] at this

theorem GuildBank.getItem_self (h : b.getItem tab slot = some (i, it)) : b.getItem it.tab it.slot = some (i, it) := by
  obtain ⟨-, ht, hs⟩ := getItem_some h
  rw [ht, hs]
  exact h

theorem maxStack_proto (it : Item om) : om.maxStack it.getEntry = it.proto.stackable := by
  unfold ObjectMgr.maxStack Item.getEntry
  rw [it.known]

theorem BankItem.maxStackSize_of_entry {bItem : BankItem om} {pItem : Item om} (h : bItem.itemTemplate = pItem.getEntry) :
    bItem.maxStackSize = pItem.proto.stackable := by
  rw [bItem.maxStackSize_eq, h, maxStack_proto]

namespace World

/-- A tab number a message may use. -/
def TabInRange (tab : UInt32) : Prop := 1 ≤ tab.toNat ∧ tab.toNat ≤ 5

/-- A slot number of a tab. -/
def SlotInRange (slot : UInt32) : Prop := 1 ≤ slot.toNat ∧ slot.toNat ≤ 98

variable {a bankTab : UInt32} {b : GuildBank om} {i : UInt8} {w : World om} {ctx : Ctx} {text : String} {params : List Int}
  {r : SlotPair om}

theorem pos_of_ne_zero (h : ¬ a = 0) : 1 ≤ a.toNat := by
  have : a.toNat ≠ 0 := fun h0 => h (UInt32.toNat_inj.1 h0)
  omega

theorem le_of_not_maxTabs (h : ¬ MAX_TABS < a) : a.toNat ≤ 5 := by
  rw [UInt32.not_lt, UInt32.le_iff_toNat_le] at h
  exact h

theorem le_of_not_tabSize (h : ¬ BANK_TAB_SIZE < a) : a.toNat ≤ 98 := by
  rw [UInt32.not_lt, UInt32.le_iff_toNat_le] at h
  exact h

theorem toUInt32_ne_zero {a : UInt8} (h : ¬ a = 0) : ¬ a.toUInt32 = 0 := by
  intro h0
  apply h
  have := congrArg UInt32.toNat h0
  rw [toNat_toUInt32] at this
  exact UInt8.toNat_inj.1 this

theorem toUInt32_inj {a b : UInt8} (h : a.toUInt32 = b.toUInt32) : a = b := by
  have := congrArg UInt32.toNat h
  rw [toNat_toUInt32, toNat_toUInt32] at this
  exact UInt8.toNat_inj.1 this

theorem stackSlot_some {pItem : Item om} {bItem : BankItem om} (h : stackSlot b bankTab pItem = some (i, bItem)) :
    ∃ idx, i ∈ slots 1 99 ∧ b.getItem bankTab i.toUInt32 = some (idx, bItem) ∧ bItem.itemTemplate = pItem.getEntry ∧
      bItem.count.toNat < bItem.maxStackSize.toNat := by
  unfold stackSlot at h
  obtain ⟨j, hmem, hj⟩ := List.exists_of_findSome?_eq_some h
  split at hj
  · rename_i idx it hget
    split_ifs at hj with hc
    cases hj
    exact ⟨idx, hmem, hget, hc.1, lt_iff_toNat_lt.1 hc.2⟩
  · cases hj

structure DepositRequest.Accepted (w : World om) (r : DepositRequest om) : Prop where
  item : w.player.getItemByPos r.pos = some r.pItem
  bankable : isItemBankable r.pItem = none
  tab : TabInRange r.bankTab
  slot : r.bankSlot.toNat ≤ 98
  count : r.count.toNat ≤ r.pItem.proto.stackable.toNat

theorem depositRequest_ok {r : DepositRequest om} (h : depositRequest ctx w text params = .ok r) : r.Accepted w := by
  unfold depositRequest at h
  split at h
  · rename_i p1 p2 p3 p4 p5
    simp only at h
    split_ifs at h with h1 h2
    split at h
    · cases h
    rename_i pItem hitem
    split at h
    · cases h
    rename_i hbank
    split_ifs at h with h3
    cases h
    simp only [not_or] at h1
    rw [UInt32.not_lt, UInt32.le_iff_toNat_le] at h3
    exact ⟨hitem, hbank, ⟨pos_of_ne_zero (toUInt32_ne_zero h1.1), le_of_not_maxTabs h1.2.1⟩, le_of_not_tabSize h1.2.2, h3⟩
  · cases h

structure WithdrawRequest.Accepted (w : World om) (r : WithdrawRequest om) : Prop where
  item : w.bank.getItem r.bItem.tab r.bItem.slot = some (r.ref, r.bItem)
  tab : TabInRange r.bItem.tab
  count : r.withdrawCount.toNat ≤ r.bItem.count.toNat
  whole : r.pos = none → r.withdrawCount = r.bItem.count

theorem withdrawRequest_ok {r : WithdrawRequest om} (h : withdrawRequest ctx w text params = .ok r) : r.Accepted w := by
  unfold withdrawRequest at h
  split at h
  · rename_i p1 p2 p3 p4 p5
    simp only at h
    cases hitem : w.bank.getItem (ofInt p1) (ofInt p2) with
    | none =>
      rw [hitem] at h
      split_ifs at h
    | some it =>
      obtain ⟨ref, bItem⟩ := it
      rw [hitem] at h
      simp only at h
      split_ifs at h with h1 h2 h3 h4 h5
      all_goals simp only [not_or] at h1
      all_goals have htab : TabInRange bItem.tab := by
                  rw [(getItem_some hitem).2.1]
                  exact ⟨pos_of_ne_zero h1.1, le_of_not_maxTabs h1.2.1⟩
      · cases h
        exact ⟨getItem_self hitem, htab, by rw [h5], fun _ => h5.symm⟩
      · cases h
        rw [UInt32.not_lt, UInt32.le_iff_toNat_le] at h3
        exact ⟨getItem_self hitem, htab, h3, fun hn => by cases hn⟩
  · cases h

/-- Two different slots of one tab, the first of them occupied. -/
structure SlotPair.Accepted (w : World om) (r : SlotPair om) : Prop where
  src : w.bank.getItem r.sItem.tab r.fromSlot.toUInt32 = some (r.src, r.sItem)
  dst : w.bank.getItem r.sItem.tab r.toSlot.toUInt32 = r.dst
  ne : r.fromSlot ≠ r.toSlot
  tab : TabInRange r.sItem.tab
  fromSlot : SlotInRange r.fromSlot.toUInt32
  toSlot : SlotInRange r.toSlot.toUInt32

theorem SlotPair.Accepted.apart (h : r.Accepted w) : w.bank.bItems[r.src]? = some r.sItem ∧
      ∀ d dItem, r.dst = some (d, dItem) → w.bank.bItems[d]? = some dItem ∧ r.src ≠ d := by
  obtain ⟨hs, -, hslot⟩ := getItem_some h.src
  refine ⟨hs, fun d dItem hd => ?_⟩
  obtain ⟨hdi, -, hdslot⟩ := getItem_some (h.dst.trans hd)
  refine ⟨hdi, fun heq => h.ne (toUInt32_inj ?_)⟩
  rw [heq, hdi] at hs
  cases hs
  exact hslot.symm.trans hdslot

theorem slotPair_accepted {bankTab fromSlot toSlot : UInt8} {src : Nat} {sItem : BankItem om}
    (hne : ¬ fromSlot = toSlot) (hr : ¬ (bankTab = 0 ∨ MAX_TABS < bankTab.toUInt32 ∨ fromSlot = 0 ∨
      BANK_TAB_SIZE < fromSlot.toUInt32 ∨ toSlot = 0 ∨ BANK_TAB_SIZE < toSlot.toUInt32))
    (hs : w.bank.getItem bankTab.toUInt32 fromSlot.toUInt32 = some (src, sItem)) :
    (⟨src, sItem, w.bank.getItem bankTab.toUInt32 toSlot.toUInt32, fromSlot, toSlot⟩ : SlotPair om).Accepted w := by
  simp only [not_or] at hr
  obtain ⟨h1, h2, h3, h4, h5, h6⟩ := hr
  obtain ⟨-, htab, -⟩ := getItem_some hs
  refine ⟨?_, ?_, hne, ?_, ⟨pos_of_ne_zero (toUInt32_ne_zero h3), le_of_not_tabSize h4⟩,
    ⟨pos_of_ne_zero (toUInt32_ne_zero h5), le_of_not_tabSize h6⟩⟩
  · simp only
    rw [htab]
    exact hs
  · simp only
    rw [htab]
  · simp only
    rw [htab]
    exact ⟨pos_of_ne_zero (toUInt32_ne_zero h1), le_of_not_maxTabs h2⟩

theorem moveRequest_ok (h : moveRequest ctx w text params = .ok r) : r.Accepted w := by
  unfold moveRequest at h
  split at h
  · simp only at h
    split_ifs at h with h1 h2 h3
    split at h
    · cases h
    rename_i src sItem hs
    cases h
    exact slotPair_accepted h2 h3 hs
  · cases h

theorem bmod_small {n : Int} (h0 : -256 ≤ n) (h : n < 256) : n.bmod (2 ^ 32) = n :=
  Int.bmod_eq_of_le (by omega) (by omega)

theorem toInt_small (h : a.toNat < 256) : a.toInt32.toInt = a.toNat := by
  have ha : a.toInt32.toBitVec.toNat = a.toNat := by
    unfold UInt32.toInt32 Int32.toBitVec UInt32.toNat
    with_reducible rfl
  unfold toInt
  rw [BitVec.toInt_eq_toNat_bmod, ha]
  exact bmod_small (by omega) (by omega)

/-- A byte whose signed difference from a count is positive is below the count. -/
theorem lt_of_signed_sub {b : UInt32} (hb : b.toNat < 256) (h : ¬ a.toInt32 - b.toInt32 ≤ 0) : b.toNat < a.toNat := by
  by_contra hlt
  apply h
  rw [le_iff_toInt_le, toInt_sub, toInt_small (by omega), toInt_small hb, bmod_small (by omega) (by omega), toInt_zero]
  omega

theorem splitRequest_ok {split : UInt32}
    (h : splitRequest ctx w text params = .ok (r, split)) : r.Accepted w ∧ split.toNat < 256 := by
  unfold splitRequest at h
  split at h
  · rename_i p1 p2 p3 p4
    simp only at h
    split_ifs at h with h1 h2 h3
    split at h
    · cases h
    rename_i src sItem hs
    cases h
    refine ⟨slotPair_accepted h2 h3 hs, ?_⟩
    rw [toNat_toUInt32]
    exact toNat_lt _
  · cases h

end World

end ComfyCraft
