import ComfyCraft.GuildBank.Requests

/-! The weekly limit of a tab. What is left to a member is counted anew from the log before each withdrawal, in a byte; a
handler logs at most one withdrawal, so a run of messages adds no more of them than the limit. -/

namespace ComfyCraft

open List UInt32 UInt8 Nat GuildBank

variable {om : ObjectMgr}

structure Quota where
  player : UInt32
  tab : UInt8
  weekstart : Nat

def Quota.count (q : Quota) (log : List BankLog) : Nat :=
  (log.filter fun l => l.action = ACTION_WITHDRAW_ITEM && l.player = q.player && l.tab = q.tab && q.weekstart ≤ l.stamp).length

/-- A withdrawal counts where it is the member's own, from the tab. -/
def Quota.weight (q : Quota) (ctx : Ctx) (tab : UInt32) : Nat := if ctx.playerGuid = q.player ∧ tab.toUInt8 = q.tab then 1 else 0

theorem Quota.count_append (q : Quota) (log : List BankLog) (l : BankLog) : q.count (log ++ [l]) = q.count log +
      if l.action = ACTION_WITHDRAW_ITEM ∧ l.player = q.player ∧ l.tab = q.tab ∧ q.weekstart ≤ l.stamp then 1 else 0 := by
  unfold Quota.count
  rw [filter_append, length_append]
  congr 1
  split_ifs with h
  · rw [filter_cons_of_pos (by simp [h])]
    rfl
  · rw [filter_cons_of_neg (by simpa [and_assoc] using h)]
    rfl

/-- A count goes up only while its byte is below the limit. -/
def Within (n c c' : Nat) : Prop := c ≤ c' ∧ c % 256 + (c' - c) ≤ max n (c % 256)

theorem Within.refl (n c : Nat) : Within n c c := ⟨le_rfl, by omega⟩

variable {n c : Nat}

theorem Within.succ (h : c % 256 < n) : Within n c (c + 1) := ⟨le_succ c, by omega⟩

theorem Within.trans {a b : Nat} (hn : n < 256) (h : Within n a b) (h' : Within n b c) : Within n a c := by
  unfold Within at h h' ⊢
  omega

theorem Within.le {c' : Nat} (h : Within n c c') : c' - c ≤ n := by
  unfold Within at h
  omega

namespace World

variable {tab action : UInt8} {k : Nat} {text : String} {params : List Int} {limit : BankTab}

/-- The tabs' limits are as they were, and the log has at most `k` more withdrawals. -/
structure Logs (q : Quota) (k : Nat) (b b' : GuildBank om) : Prop where
  tabInfo : b'.bTabInfo = b.bTabInfo
  count : q.count b.bLog ≤ q.count b'.bLog ∧ q.count b'.bLog ≤ q.count b.bLog + k

variable {q : Quota} {b b' : GuildBank om} {w : World om} {ctx : Ctx}

theorem Logs.same (q : Quota) (k : Nat) (htab : b'.bTabInfo = b.bTabInfo) (hlog : b'.bLog = b.bLog) : Logs q k b b' :=
  ⟨htab, by rw [hlog]; exact ⟨le_rfl, le_add_right _ _⟩⟩

theorem Logs.refl (q : Quota) (k : Nat) (b : GuildBank om) : Logs q k b b := Logs.same q k rfl rfl

theorem Logs.trans {j : Nat} {b'' : GuildBank om} (h : Logs q j b b') (h' : Logs q k b' b'') : Logs q (j + k) b b'' := by
  refine ⟨h'.tabInfo.trans h.tabInfo, h.count.1.trans h'.count.1, ?_⟩
  have h1 := h.count.2
  have h2 := h'.count.2
  omega

@[simp] theorem saveToDB_bTabInfo (w : World om) : w.saveToDB.bank.bTabInfo = w.bank.bTabInfo := by
  unfold saveToDB GuildBank.saveToDB
  split_ifs <;> rfl

@[simp] theorem saveToDB_bLog (w : World om) : w.saveToDB.bank.bLog = w.bank.bLog := by
  unfold saveToDB GuildBank.saveToDB
  split_ifs <;> rfl

theorem Logs.save (h : Logs q k b w.bank) : Logs q k b w.saveToDB.bank := by
  refine ⟨?_, ?_⟩
  · rw [saveToDB_bTabInfo]
    exact h.tabInfo
  · rw [saveToDB_bLog]
    exact h.count

theorem Logs.deposit (h : Logs q k b w.bank) (ctx : Ctx) (tab : UInt32) :
    Logs q k b (w.logAction ctx ACTION_DEPOSIT_ITEM tab).bank := by
  unfold logAction
  split_ifs
  · exact h
  · exact ⟨h.tabInfo, h.count⟩
  refine ⟨h.tabInfo, ?_⟩
  rw [Quota.count_append, if_neg fun h => absurd h.1 (show ACTION_DEPOSIT_ITEM ≠ ACTION_WITHDRAW_ITEM by decide)]
  exact h.count

/-- One command and the member's count: it stays, or goes up by one where the command is a withdrawal of the member's from
the tab, or a deposit of theirs into it, that was let through. -/
structure Counted (q : Quota) (ctx : Ctx) (w : World om) (b : GuildBank om) : Prop where
  tabInfo : b.bTabInfo = w.bank.bTabInfo
  count : q.count b.bLog = q.count w.bank.bLog ∨
    q.count b.bLog = q.count w.bank.bLog + 1 ∧ ctx.playerGuid = q.player ∧
      ∃ action, (action = ACTION_WITHDRAW_ITEM ∨ action = ACTION_DEPOSIT_ITEM) ∧ w.canAccessTab ctx q.tab action = true

theorem Logs.counted (h : Logs q 0 w.bank b) (ctx : Ctx) : Counted q ctx w b :=
  ⟨h.tabInfo, .inl (le_antisymm h.count.2 h.count.1)⟩

end World

end ComfyCraft
