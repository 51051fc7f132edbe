import ComfyCraft.Lib.Text
import ComfyCraft.GuildBank.Handlers

/-! Money put into the guild bank and taken out of it. The bank's balance is a full 32 bits, while a player's is changed
by a signed amount and stops at a cap. -/

namespace ComfyCraft

open UInt32 Bool Player

namespace Player

def MAX_MONEY_AMOUNT : UInt32 := 0x7FFFFFFF - 1

variable {om : ObjectMgr}

/-- The balance after `ModifyMoney`, all of it in 32 bits. -/
def modifiedMoney (money : UInt32) (amount : Int32) : UInt32 :=
  if amount < 0 then if (-amount).toUInt32 < money then money + amount.toUInt32 else 0
  else if money < MAX_MONEY_AMOUNT - amount.toUInt32 then money + amount.toUInt32 else MAX_MONEY_AMOUNT

def modifyMoney (p : Player om) (amount : Int32) : Player om := { p with money := modifiedMoney p.money amount }

theorem toInt32_neg_iff (a : UInt32) : a.toInt32 < 0 ↔ 2 ^ 31 ≤ a.toNat := by
  have hslt : a.toInt32.toBitVec.slt (0 : Int32).toBitVec = a.toBitVec.msb := BitVec.slt_zero_eq_msb
  rw [Int32.lt_iff_toBitVec_slt, hslt, BitVec.msb_eq_decide]
  simp

theorem modifiedMoney_toInt32 (p a : UInt32) : modifiedMoney p a.toInt32 =
      if 2 ^ 31 ≤ a.toNat then if -a < p then p + a else 0 else if p < MAX_MONEY_AMOUNT - a then p + a else MAX_MONEY_AMOUNT := by
  unfold modifiedMoney
  rw [toUInt32_toInt32, ← toInt32_neg, toUInt32_toInt32]
  simp only [toInt32_neg_iff]

theorem max_money_toNat : MAX_MONEY_AMOUNT.toNat = 2 ^ 31 - 2 := by decide

/-- What a player receives arrives in full exactly when the balance stays within the cap. -/
theorem modifiedMoney_received (p m : UInt32) :
    (modifiedMoney p m.toInt32).toNat = p.toNat + m.toNat ∧ modifiedMoney p m.toInt32 ≤ MAX_MONEY_AMOUNT ↔
      p.toNat + m.toNat ≤ MAX_MONEY_AMOUNT.toNat := by
  rw [modifiedMoney_toInt32]
  simp only [UInt32.lt_iff_toNat_lt, UInt32.le_iff_toNat_le, UInt32.toNat_neg, UInt32.toNat_sub, max_money_toNat, UInt32.size]
  split_ifs <;> simp only [UInt32.toNat_add, UInt32.toNat_zero, max_money_toNat] <;> omega

/-- What a player pays is taken as it is unless its negation comes out positive; that reaches the same balance only at the
edge, where the cap is not in the way. -/
theorem modifiedMoney_paid {p m : UInt32} (h : m.toNat ≤ p.toNat) :
    (modifiedMoney p (-m.toInt32)).toNat + m.toNat = p.toNat ∧ modifiedMoney p (-m.toInt32) ≤ MAX_MONEY_AMOUNT ↔
      p.toNat - m.toNat ≤ MAX_MONEY_AMOUNT.toNat ∧ m.toNat ≤ 2 ^ 31 + 1 := by
  have hp := p.toNat_lt
  rw [← UInt32.toInt32_neg, modifiedMoney_toInt32]
  simp only [UInt32.lt_iff_toNat_lt, UInt32.le_iff_toNat_le, UInt32.toNat_neg, UInt32.toNat_sub, max_money_toNat, UInt32.size]
  split_ifs <;> simp only [UInt32.toNat_add, UInt32.toNat_zero, UInt32.toNat_neg, max_money_toNat, UInt32.size] <;> omega

end Player

namespace World

variable {om : ObjectMgr}

inductive MoneyCommand
  | depositMoney
  | withdrawMoney

/-- The amount of `DepositMoney:money` or `WithdrawMoney:money`. -/
def moneyParam (msg : Text) : Option UInt32 :=
  match Text.tokenize ':' msg with
  | [_, param] =>
    if !Text.hasNumber param || decide (2 ^ 32 - 1 < Text.strtoul param) then none else some (UInt32.ofNat (Text.strtoul param))
  | _ => none

/-- `CanAccessTab` for `ACTION_WITHDRAW_MONEY`. -/
def canWithdrawMoney (ctx : Ctx) : Bool := ctx.playerRankIndex ≤ 1

def moneyChanged (w : World om) : World om :=
  { w with bank := { w.bank with bMoneyLogChanged := true, bMoneyChanged := true } }.saveToDB

def depositMoney (w : World om) (msg : Text) : World om :=
  match moneyParam msg with
  | none => w.sendAddonMessage ("DepositMoney:Error:WrongSyntax(" ++ String.ofList msg ++ ")")
  | some money =>
    if 0xFFFFFFFF - w.bank.bMoney < money then w.sendAddonMessage "DepositMoney:Error:TooMuch"
    else if w.player.money < money then w.sendAddonMessage "DepositMoney:Error:NotEnoughMoney"
    else moneyChanged { w with
      player := w.player.modifyMoney (-money.toInt32)
      bank := { w.bank with bMoney := w.bank.bMoney + money } }

def withdrawMoney (ctx : Ctx) (w : World om) (msg : Text) : World om :=
  match moneyParam msg with
  | none => w.sendAddonMessage ("WithdrawMoney:Error:WrongSyntax(" ++ String.ofList msg ++ ")")
  | some money =>
    if !canWithdrawMoney ctx then w.sendAddonMessage "WithdrawMoney:Error:NoAccess"
    else if w.bank.bMoney < money then w.sendAddonMessage "WithdrawMoney:Error:NotEnoug"
    else moneyChanged { w with
      player := w.player.modifyMoney money.toInt32
      bank := { w.bank with bMoney := w.bank.bMoney - money } }

def handleMoney (ctx : Ctx) (w : World om) (msg : Text) (cmd : MoneyCommand) : World om :=
  if !ctx.canUseGuildBank then w
  else if w.bank.bSaveLock then w.sendAddonMessage "ActionBlockedBySaveLock"
  else if w.bank.bTabs = 0 then w.sendAddonMessage "BankInfo:NoGuildBank"
  else match cmd with
    | .depositMoney => depositMoney w msg
    | .withdrawMoney => withdrawMoney ctx w msg

def depositable (w : World om) (money : UInt32) : Bool := money ≤ 0xFFFFFFFF - w.bank.bMoney && money ≤ w.player.money

def withdrawable (ctx : Ctx) (w : World om) (money : UInt32) : Bool := canWithdrawMoney ctx && money ≤ w.bank.bMoney

def moneyAccepted (ctx : Ctx) (w : World om) (msg : Text) (cmd : MoneyCommand) : Option UInt32 :=
  if !ctx.canUseGuildBank || w.bank.bSaveLock || decide (w.bank.bTabs = 0) then none
  else match cmd with
    | .depositMoney => (moneyParam msg).filter (depositable w)
    | .withdrawMoney => (moneyParam msg).filter (withdrawable ctx w)

/-- The player and the bank hold together what they did, and the player no more than a player can. -/
structure MoneyKept (w w' : World om) : Prop where
  sum : w'.player.money.toNat + w'.bank.bMoney.toNat = w.player.money.toNat + w.bank.bMoney.toNat
  capped : w'.player.money ≤ Player.MAX_MONEY_AMOUNT

/-- What is left to the player, or comes to be held, is within the cap. A payment just over the half of the 32 bits is
still taken as it should be. -/
def MoneyFits (w : World om) (cmd : MoneyCommand) (accepted : Option UInt32) : Prop :=
  match cmd, accepted with
  | _, none => w.player.money ≤ Player.MAX_MONEY_AMOUNT
  | .depositMoney, some money =>
    w.player.money.toNat - money.toNat ≤ Player.MAX_MONEY_AMOUNT.toNat ∧ money.toNat ≤ 2 ^ 31 + 1
  | .withdrawMoney, some money => w.player.money.toNat + money.toNat ≤ Player.MAX_MONEY_AMOUNT.toNat

variable {ctx : Ctx} {w : World om} {msg : Text} {cmd : MoneyCommand}

@[simp] theorem moneyChanged_player (w : World om) : (moneyChanged w).player = w.player := rfl

@[simp] theorem moneyChanged_bMoney (w : World om) : (moneyChanged w).bank.bMoney = w.bank.bMoney := by
  unfold moneyChanged saveToDB GuildBank.saveToDB
  split_ifs <;> rfl

/-- A request that changes neither balance keeps them, if the player's is one a player can have. -/
theorem moneyKept_refused {w' : World om} (hp : w'.player = w.player) (hb : w'.bank = w.bank) :
    MoneyKept w w' ↔ MoneyFits w cmd none := by
  have hfits : MoneyFits w cmd none ↔ w.player.money ≤ Player.MAX_MONEY_AMOUNT := by cases cmd <;> rfl
  rw [hfits]
  constructor
  · intro h
    rw [← hp]
    exact h.capped
  · intro h
    exact ⟨by rw [hp, hb], by rwa [hp]⟩

theorem toNat_deposited {a b : UInt32} (h : a ≤ 0xFFFFFFFF - b) : (b + a).toNat = b.toNat + a.toNat := by
  have hb := b.toNat_lt
  have hmax : (0xFFFFFFFF : UInt32).toNat = 2 ^ 32 - 1 := by decide
  rw [UInt32.le_iff_toNat_le, UInt32.toNat_sub_of_le _ _ (by rw [UInt32.le_iff_toNat_le, hmax]; omega), hmax] at h
  rw [UInt32.toNat_add]
  omega

variable {money : UInt32}

theorem deposited_kept (h : depositable w money = true) : MoneyKept w (moneyChanged { w with
        player := w.player.modifyMoney (-money.toInt32)
        bank := { w.bank with bMoney := w.bank.bMoney + money } }) ↔
      MoneyFits w .depositMoney (some money) := by
  unfold depositable at h
  rw [and_eq_true, decide_eq_true_eq, decide_eq_true_eq] at h
  obtain ⟨hbank, hplayer⟩ := h
  have hadd := toNat_deposited hbank
  dsimp only [MoneyFits]
  rw [← modifiedMoney_paid (le_iff_toNat_le.1 hplayer)]
  constructor
  · rintro ⟨hsum, hcap⟩
    rw [moneyChanged_player, moneyChanged_bMoney, hadd] at hsum
    refine ⟨?_, hcap⟩
    dsimp only [modifyMoney] at hsum
    omega
  · rintro ⟨hsum, hcap⟩
    refine ⟨?_, hcap⟩
    rw [moneyChanged_player, moneyChanged_bMoney, hadd]
    dsimp only [modifyMoney]
    omega

theorem withdrawn_kept (h : withdrawable ctx w money = true) : MoneyKept w (moneyChanged { w with
        player := w.player.modifyMoney money.toInt32
        bank := { w.bank with bMoney := w.bank.bMoney - money } }) ↔
      MoneyFits w .withdrawMoney (some money) := by
  unfold withdrawable at h
  rw [Bool.and_eq_true, decide_eq_true_eq] at h
  have hsub := UInt32.toNat_sub_of_le w.bank.bMoney money h.2
  have hle := UInt32.le_iff_toNat_le.1 h.2
  dsimp only [MoneyFits]
  rw [← Player.modifiedMoney_received]
  constructor
  · rintro ⟨hsum, hcap⟩
    rw [moneyChanged_player, moneyChanged_bMoney, hsub] at hsum
    refine ⟨?_, hcap⟩
    dsimp only [modifyMoney] at hsum
    omega
  · rintro ⟨hsum, hcap⟩
    refine ⟨?_, hcap⟩
    rw [moneyChanged_player, moneyChanged_bMoney, hsub]
    dsimp only [modifyMoney]
    omega

theorem depositMoney_kept (w : World om) (msg : Text) :
    MoneyKept w (depositMoney w msg) ↔ MoneyFits w .depositMoney ((moneyParam msg).filter (depositable w)) := by
  unfold depositMoney
  cases moneyParam msg with
  | none => exact moneyKept_refused rfl rfl
  | some money =>
    dsimp only
    rw [Option.filter_some]
    by_cases hfit : depositable w money = true
    · have hparts := hfit
      simp only [depositable, and_eq_true, decide_eq_true_eq] at hparts
      rw [if_pos hfit, if_neg (UInt32.not_lt.2 hparts.1), if_neg (UInt32.not_lt.2 hparts.2)]
      exact deposited_kept hfit
    · rw [if_neg hfit]
      split_ifs with hbank hplayer
      · exact moneyKept_refused rfl rfl
      · exact moneyKept_refused rfl rfl
      · simp only [depositable, and_eq_true, decide_eq_true_eq] at hfit
        exact absurd ⟨UInt32.not_lt.1 hbank, UInt32.not_lt.1 hplayer⟩ hfit

theorem withdrawMoney_kept (ctx : Ctx) (w : World om) (msg : Text) :
    MoneyKept w (withdrawMoney ctx w msg) ↔ MoneyFits w .withdrawMoney ((moneyParam msg).filter (withdrawable ctx w)) := by
  unfold withdrawMoney
  cases moneyParam msg with
  | none => exact moneyKept_refused rfl rfl
  | some money =>
    dsimp only
    rw [Option.filter_some]
    by_cases hfit : withdrawable ctx w money = true
    · have hparts := hfit
      simp only [withdrawable, and_eq_true, decide_eq_true_eq] at hparts
      rw [if_pos hfit, if_neg (by simp [hparts.1]), if_neg (UInt32.not_lt.2 hparts.2)]
      exact withdrawn_kept hfit
    · rw [if_neg hfit]
      split_ifs with hrank hbank
      · exact moneyKept_refused rfl rfl
      · exact moneyKept_refused rfl rfl
      · simp only [withdrawable, and_eq_true, decide_eq_true_eq] at hfit
        exact absurd ⟨by simpa using hrank, UInt32.not_lt.1 hbank⟩ hfit

/-- A message about money keeps the money exactly when it fits. -/
theorem handleMoney_kept (ctx : Ctx) (w : World om) (msg : Text) (cmd : MoneyCommand) :
    MoneyKept w (handleMoney ctx w msg cmd) ↔ MoneyFits w cmd (moneyAccepted ctx w msg cmd) := by
  unfold handleMoney moneyAccepted
  by_cases huse : ctx.canUseGuildBank = true
  · by_cases hlock : w.bank.bSaveLock = true
    · simp only [huse, hlock, Bool.not_true, Bool.false_or, Bool.true_or, if_true]
      exact moneyKept_refused rfl rfl
    by_cases htabs : w.bank.bTabs = 0
    · simp only [huse, hlock, htabs, Bool.not_true, Bool.false_or, decide_true, if_true, Bool.or_true]
      exact moneyKept_refused rfl rfl
    · simp only [huse, hlock, htabs, Bool.not_true, Bool.or_false, decide_false, if_false, Bool.false_eq_true]
      cases cmd with
      | depositMoney => exact depositMoney_kept w msg
      | withdrawMoney => exact withdrawMoney_kept ctx w msg
  · simp only [huse, Bool.not_false, Bool.true_or, if_true]
    exact moneyKept_refused rfl rfl

/-- A player of two hundred thousand gold with a bank of twenty thousand. -/
def rich : World Sample.objectMgr where
  player := { Sample.player with money := 2000000000 }
  bank := { Sample.bank with bMoney := 200000000 }
  db := Sample.db
  sent := []

/-- Taking all of the bank's money out reaches the cap, and what is over it is gone. -/
theorem withdrawMoney_loses :
    ¬ MoneyKept rich (handleMoney Sample.ctx rich "WithdrawMoney:200000000".toList .withdrawMoney) := by
  intro h
  have hsum := h.sum
  revert hsum
  decide +kernel

end World

end ComfyCraft
