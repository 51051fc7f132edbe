import ComfyCraft.GuildBank.Money
import Mathlib.Tactic.IntervalCases

/-! Unlocking the guild bank and its tabs. A request pays for the tab it names, and that becomes the number of tabs; what
is paid over a run is the price of the tabs it added when every request that is let through asks for the next one. -/

namespace ComfyCraft

open List GuildBank Runs

variable {om : ObjectMgr}

inductive UnlockMessage
  | unlockGuildBank (query : UnlockQuery)
  | unlockTab (text : String) (params : List Int)

def UnlockMessage.addon : UnlockMessage → AddonMessage
  | .unlockGuildBank query => .unlockGuildBank query
  | .unlockTab text params => .command text [.unlockTab] params

structure UnlockRequest (om : ObjectMgr) where
  ctx : Ctx
  player : Player om
  msg : UnlockMessage

namespace World

def seen (w : World om) (r : UnlockRequest om) : World om := { w with player := r.player }

def requestUnlock (w : World om) (r : UnlockRequest om) : World om := handleAddonMessages r.ctx (w.seen r) r.msg.addon

def unlockTakes (w : World om) (r : UnlockRequest om) : Int :=
  ((r.player.money.toNat : Int) + w.bank.bMoney.toNat) -
    ((w.requestUnlock r).player.money.toNat + (w.requestUnlock r).bank.bMoney.toNat)

def unlockPrice (tab : Nat) : Nat := if tab = 1 then GUILD_BANK_COST.toNat else (tabCost (UInt8.ofNat tab)).toNat

/-- The tab whose money the checks of `UnlockTab` find at hand. -/
def tabAffordable (w : World om) (tab moneySource : UInt8) : Option UInt8 :=
  if tab ≤ 1 ∨ MAX_TABS < tab.toUInt32 then none
  else if (if moneySource = 0 then w.bank.bMoney else w.player.money) < tabCost tab then none else some tab

/-- The tab that is let through; the bank itself goes with its first. -/
def unlocks (w : World om) (r : UnlockRequest om) : Option UInt8 :=
  if !r.ctx.canUseGuildBank || w.bank.bSaveLock || decide (r.ctx.playerRankIndex ≠ 0) then none
  else match r.msg with
    | .unlockGuildBank .ok => if r.player.money < GUILD_BANK_COST then none else some 1
    | .unlockTab _ [p1, p2] => if w.bank.bTabs = 0 then none else (w.seen r).tabAffordable (UInt8.ofInt p1) (UInt8.ofInt p2)
    | _ => none

/-- No request for anything but the next tab is let through. -/
def InOrder (w : World om) (r : UnlockRequest om) : Prop := ∀ tab, w.unlocks r = some tab → tab.toNat = w.bank.bTabs.toNat + 1

/-- Nothing is in memory or in the tables of a bank that is not unlocked. -/
structure Locked (w : World om) : Prop where
  bMoney : w.bank.bMoney = 0
  tabs : ∀ r ∈ w.db.guildBankTabs, ¬ (r.guildid = w.bank.guildid ∧ r.isInferno = w.bank.bInfernoBank)
  money : ∀ r ∈ w.db.guildBankMoney.rows, r.key ≠ (w.bank.guildid, w.bank.bInfernoBank)

structure Unlockable (w : World om) : Prop where
  bTabs : w.bank.bTabs ≤ MAX_TABS
  locked : w.bank.bTabs = 0 → Locked w

variable {w : World om} {r : UnlockRequest om}

/-! ### One request -/

structure Unchanged (w w' : World om) : Prop where
  bank : w'.bank = w.bank
  db : w'.db = w.db
  player : w'.player = w.player

theorem unchanged_sent (w : World om) (msg : String) : Unchanged w (w.sendAddonMessage msg) := ⟨rfl, rfl, rfl⟩

variable {db : CharacterDatabase} {tab : UInt8} {ctx : Ctx} {p1 p2 : Int}

/-- With no row of the bank's there before, the two rows just inserted are the ones that are loaded. -/
theorem bankRows_unlocked {b : GuildBank om} {tabs : TabsRow} {money : Rows MoneyRow (UInt32 × Bool) MoneyRow.key}
    (htabs : ∀ r ∈ db.guildBankTabs, ¬ (r.guildid = b.guildid ∧ r.isInferno = b.bInfernoBank))
    (hmoney : ∀ r ∈ db.guildBankMoney.rows, r.key ≠ (b.guildid, b.bInfernoBank))
    (hrow : tabs.guildid = b.guildid ∧ tabs.isInferno = b.bInfernoBank)
    (hinsert : money.rows = db.guildBankMoney.rows ++ [⟨b.guildid, b.bInfernoBank, 0⟩]) :
    b.bankRows { db with guildBankTabs := db.guildBankTabs ++ [tabs], guildBankMoney := money } =
      [(tabs, ⟨b.guildid, b.bInfernoBank, 0⟩)] := by
  have hnone : (db.guildBankTabs.filter fun r => r.guildid = b.guildid && r.isInferno = b.bInfernoBank) = [] := by
    refine filter_eq_nil_iff.2 fun r hr hp => htabs r hr ?_
    simpa using hp
  have hnomoney : (db.guildBankMoney.rows.filter fun m => m.guildid = tabs.guildid && m.isInferno = tabs.isInferno) = [] := by
    refine filter_eq_nil_iff.2 fun m hm hp => hmoney m hm ?_
    rw [hrow.1, hrow.2] at hp
    simpa [MoneyRow.key] using hp
  unfold bankRows
  rw [filter_append, hnone, hinsert, nil_append]
  simp only [hrow.1, hrow.2] at hnomoney ⊢
  simp [hrow.1, hrow.2, filter_append, hnomoney]

theorem unlockGuildBank_ok (hlocked : Locked w) (hrank : r.ctx.playerRankIndex = 0) (hmoney : GUILD_BANK_COST ≤ r.player.money) :
    (unlockGuildBank r.ctx (w.seen r) .ok).bank.bTabs = 1 ∧ (unlockGuildBank r.ctx (w.seen r) .ok).bank.bMoney = 0 ∧
      (unlockGuildBank r.ctx (w.seen r) .ok).player.money = r.player.money - GUILD_BANK_COST := by
  obtain ⟨money, hsome, hmoneyRows⟩ :=
    Rows.insert_isSome (t := w.db.guildBankMoney) (r := (⟨w.bank.guildid, w.bank.bInfernoBank, 0⟩ : MoneyRow)) hlocked.money
  let tabs : TabsRow := ⟨w.bank.guildid, w.bank.bInfernoBank, 1, fun _ => ⟨0, 0⟩⟩
  have hrows : ({ w.bank with bTabs := 1 } : GuildBank om).bankRows
      { w.db with guildBankTabs := w.db.guildBankTabs ++ [tabs], guildBankMoney := money } =
        [(tabs, ⟨w.bank.guildid, w.bank.bInfernoBank, 0⟩)] :=
    bankRows_unlocked hlocked.tabs hlocked.money ⟨rfl, rfl⟩ hmoneyRows
  unfold unlockGuildBank
  simp only [hrank, ne_eq, not_true_eq_false, if_false, seen, UInt32.not_lt.2 hmoney, hsome, Option.getD_some, loadBank, hrows, tabs,
    getLast?_singleton, and_self]

@[simp] theorem saveToDB_bTabs (w : World om) : w.saveToDB.bank.bTabs = w.bank.bTabs := by
  unfold saveToDB GuildBank.saveToDB
  split_ifs <;> rfl

@[simp] theorem saveToDB_bMoney (w : World om) : w.saveToDB.bank.bMoney = w.bank.bMoney := by
  unfold saveToDB GuildBank.saveToDB
  split_ifs <;> rfl

@[simp] theorem saveToDB_player (w : World om) : w.saveToDB.player = w.player := rfl

section

variable (h : ¬ (tab ≤ 1 ∨ MAX_TABS < tab.toUInt32))
include h

theorem tab_cases : tab = 2 ∨ tab = 3 ∨ tab = 4 ∨ tab = 5 := by
  rw [not_or, UInt8.not_le, UInt32.not_lt, UInt8.lt_iff_toNat_lt, UInt32.le_iff_toNat_le, UInt8.toNat_toUInt32] at h
  have hone : (1 : UInt8).toNat = 1 := rfl
  have hmax : MAX_TABS.toNat = 5 := rfl
  simp only [← UInt8.toNat_inj]
  have h2 : (2 : UInt8).toNat = 2 := rfl
  have h3 : (3 : UInt8).toNat = 3 := rfl
  have h4 : (4 : UInt8).toNat = 4 := rfl
  have h5 : (5 : UInt8).toNat = 5 := rfl
  omega

theorem tabCost_pos : tabCost tab ≠ 0 := by
  rcases tab_cases h with rfl | rfl | rfl | rfl <;> decide

theorem unlockPrice_tab : unlockPrice tab.toNat = (tabCost tab).toNat := by
  rcases tab_cases h with rfl | rfl | rfl | rfl <;> rfl

end

theorem tabAffordable_some {w : World om} {moneySource t : UInt8} (h : w.tabAffordable tab moneySource = some t) :
    t = tab ∧ ¬ (tab ≤ 1 ∨ MAX_TABS < tab.toUInt32) ∧ tabCost tab ≤ if moneySource = 0 then w.bank.bMoney else w.player.money := by
  unfold tabAffordable at h
  by_cases hrange : tab ≤ 1 ∨ MAX_TABS < tab.toUInt32
  · rw [if_pos hrange] at h
    cases h
  rw [if_neg hrange] at h
  by_cases hlt : (if moneySource = 0 then w.bank.bMoney else w.player.money) < tabCost tab
  · rw [if_pos hlt] at h
    cases h
  · rw [if_neg hlt] at h
    cases h
    exact ⟨rfl, hrange, UInt32.not_lt.1 hlt⟩

/-- Whichever balance pays, the two together go down by the price. -/
theorem unlockTab_some {w : World om} (text : String) (hrank : ctx.playerRankIndex = 0)
    (h : w.tabAffordable (UInt8.ofInt p1) (UInt8.ofInt p2) = some tab) :
    (unlockTab ctx w text [p1, p2]).bank.bTabs = tab.toUInt32 ∧
      (unlockTab ctx w text [p1, p2]).player.money.toNat + (unlockTab ctx w text [p1, p2]).bank.bMoney.toNat + unlockPrice tab.toNat =
        w.player.money.toNat + w.bank.bMoney.toNat := by
  obtain ⟨rfl, hrange, hcost⟩ := tabAffordable_some h
  have hlog : ∀ (v : World om) (action : UInt8),
      v.logAction ctx action TAB_MONEY = { v with bank := { v.bank with bMoneyLogChanged := true } } := by
    intro v action
    unfold logAction
    rw [if_neg (by decide), if_pos rfl]
  rw [unlockPrice_tab hrange]
  unfold unlockTab
  rw [if_neg (by simp [hrank])]
  dsimp only
  rw [if_neg hrange, if_neg (tabCost_pos hrange)]
  split_ifs at hcost with hsource
  · have hsub := UInt32.toNat_sub_of_le _ _ hcost
    have hle := UInt32.le_iff_toNat_le.1 hcost
    rw [if_pos hsource, if_neg (UInt32.not_lt.2 hcost), hlog, saveToDB_bTabs, saveToDB_bMoney, saveToDB_player]
    refine ⟨rfl, ?_⟩
    dsimp only
    omega
  · have hsub := UInt32.toNat_sub_of_le _ _ hcost
    have hle := UInt32.le_iff_toNat_le.1 hcost
    rw [if_neg hsource, if_neg (UInt32.not_lt.2 hcost), hlog, saveToDB_bTabs, saveToDB_bMoney, saveToDB_player]
    refine ⟨rfl, ?_⟩
    dsimp only
    omega

theorem unlockTab_none {w : World om} (text : String)
    (h : w.tabAffordable (UInt8.ofInt p1) (UInt8.ofInt p2) = none) : Unchanged w (unlockTab ctx w text [p1, p2]) := by
  unfold tabAffordable at h
  unfold unlockTab
  dsimp only
  by_cases hrank : ctx.playerRankIndex = 0
  · rw [if_neg (by simp [hrank])]
    by_cases hrange : UInt8.ofInt p1 ≤ 1 ∨ MAX_TABS < (UInt8.ofInt p1).toUInt32
    · rw [if_pos hrange]
      exact unchanged_sent w _
    rw [if_neg hrange] at h ⊢
    rw [if_neg (tabCost_pos hrange)]
    by_cases hsource : UInt8.ofInt p2 = 0
    · rw [if_pos hsource] at h ⊢
      by_cases hlt : w.bank.bMoney < tabCost (UInt8.ofInt p1)
      · rw [if_pos hlt]
        exact unchanged_sent w _
      · rw [if_neg hlt] at h
        cases h
    · rw [if_neg hsource] at h ⊢
      by_cases hlt : w.player.money < tabCost (UInt8.ofInt p1)
      · rw [if_pos hlt]
        exact unchanged_sent w _
      · rw [if_neg hlt] at h
        cases h
  · rw [if_pos (by simp [hrank])]
    exact unchanged_sent w _

theorem unlockTab_refused {w : World om} (text : String) (params : List Int)
    (h : ctx.playerRankIndex = 0 → ∀ p1 p2, params = [p1, p2] → w.tabAffordable (UInt8.ofInt p1) (UInt8.ofInt p2) = none) :
    Unchanged w (unlockTab ctx w text params) := by
  by_cases hrank : ctx.playerRankIndex = 0
  · match params with
    | [p1, p2] => exact unlockTab_none text (h hrank p1 p2 rfl)
    | [] | [_] | _ :: _ :: _ :: _ =>
      unfold unlockTab
      rw [if_neg (by simp [hrank])]
      exact unchanged_sent w _
  · unfold unlockTab
    rw [if_pos hrank]
    exact unchanged_sent w _

theorem unlockGuildBank_refused {w : World om} (query : UnlockQuery)
    (h : ctx.playerRankIndex = 0 → query = .ok → w.player.money < GUILD_BANK_COST) :
    Unchanged w (unlockGuildBank ctx w query) := by
  unfold unlockGuildBank
  by_cases hrank : ctx.playerRankIndex = 0
  · rw [if_neg (not_not.2 hrank)]
    cases query with
    | ok =>
      rw [if_pos (h hrank rfl)]
      exact ⟨rfl, rfl, rfl⟩
    | cost => exact unchanged_sent w _
    | unknown => exact unchanged_sent w _
    | wrongSyntax text => exact unchanged_sent w _
  · rw [if_pos hrank]
    exact unchanged_sent w _

theorem gates_open (huse : r.ctx.canUseGuildBank = true) (hlock : w.bank.bSaveLock = false) (hrank : r.ctx.playerRankIndex = 0) :
    ¬ (!r.ctx.canUseGuildBank || w.bank.bSaveLock || decide (r.ctx.playerRankIndex ≠ 0)) = true := by
  simp [huse, hlock, hrank]

/-- A request that is not let through is answered, and that is all. -/
theorem requestUnlock_none (h : w.unlocks r = none) : Unchanged (w.seen r) (w.requestUnlock r) := by
  unfold requestUnlock handleAddonMessages
  unfold unlocks at h
  by_cases huse : r.ctx.canUseGuildBank = true
  · rw [if_neg (by simp [huse])]
    by_cases hlock : w.bank.bSaveLock = true
    · rw [if_pos (by exact hlock)]
      exact unchanged_sent _ _
    rw [if_neg (by exact hlock)]
    have hfree : w.bank.bSaveLock = false := by simpa using hlock
    cases hmsg : r.msg with
    | unlockGuildBank query =>
      refine unlockGuildBank_refused query fun hrank hok => ?_
      by_contra hrich
      rw [if_neg (gates_open huse hfree hrank), hmsg, hok] at h
      rw [if_neg (by exact hrich)] at h
      cases h
    | unlockTab text params =>
      dsimp only [UnlockMessage.addon]
      by_cases htabs : w.bank.bTabs = 0
      · rw [if_pos (by exact htabs)]
        exact unchanged_sent _ _
      rw [if_neg (by exact htabs)]
      refine unlockTab_refused text params fun hrank p1 p2 hparams => ?_
      rw [if_neg (gates_open huse hfree hrank), hmsg, hparams] at h
      dsimp only at h
      rwa [if_neg htabs] at h
  · rw [if_pos (by simp [huse])]
    exact ⟨rfl, rfl, rfl⟩

/-- A request that is let through is one for the bank, with its price at hand, or for a tab of it. -/
theorem requestUnlock_some (h : w.unlocks r = some tab) : r.ctx.playerRankIndex = 0 ∧
      ((tab = 1 ∧ GUILD_BANK_COST ≤ r.player.money ∧ w.requestUnlock r = unlockGuildBank r.ctx (w.seen r) .ok) ∨
        ∃ text p1 p2, (w.seen r).tabAffordable (UInt8.ofInt p1) (UInt8.ofInt p2) = some tab ∧
          w.requestUnlock r = unlockTab r.ctx (w.seen r) text [p1, p2]) := by
  unfold unlocks at h
  by_cases hgate : (!r.ctx.canUseGuildBank || w.bank.bSaveLock || decide (r.ctx.playerRankIndex ≠ 0)) = true
  · rw [if_pos hgate] at h
    cases h
  rw [if_neg hgate] at h
  simp only [Bool.or_eq_true, not_or, Bool.not_eq_true, Bool.not_eq_false', decide_eq_false_iff_not, ne_eq, not_not] at hgate
  obtain ⟨⟨huse, hfree⟩, hrank⟩ := hgate
  refine ⟨hrank, ?_⟩
  unfold requestUnlock handleAddonMessages
  rw [if_neg (by simp [huse]), if_neg (by simp [seen, hfree])]
  split at h
  · rename_i hmsg
    by_cases hpoor : r.player.money < GUILD_BANK_COST
    · rw [if_pos hpoor] at h
      cases h
    · rw [if_neg hpoor] at h
      cases h
      rw [hmsg]
      exact .inl ⟨rfl, UInt32.not_lt.1 hpoor, rfl⟩
  · rename_i text p1 p2 hmsg
    by_cases htabs : w.bank.bTabs = 0
    · rw [if_pos htabs] at h
      cases h
    rw [if_neg htabs] at h
    refine .inr ⟨text, p1, p2, h, ?_⟩
    rw [hmsg]
    dsimp only [UnlockMessage.addon]
    rw [if_neg (by exact htabs)]
    rfl
  · cases h

/-- What a step may do: nothing but answer, or take the price of the next tab and add it. -/
inductive UnlockStep (w : World om) (r : UnlockRequest om) : Prop
  | refused (same : Unchanged (w.seen r) (w.requestUnlock r)) (takes : w.unlockTakes r = 0)
  | unlocked (bound : w.bank.bTabs.toNat < MAX_TABS.toNat)
      (bTabs : (w.requestUnlock r).bank.bTabs.toNat = w.bank.bTabs.toNat + 1)
      (takes : w.unlockTakes r = unlockPrice (w.bank.bTabs.toNat + 1))

theorem unlockTakes_of_sum {price : Nat}
    (h : (w.requestUnlock r).player.money.toNat + (w.requestUnlock r).bank.bMoney.toNat + price =
      r.player.money.toNat + w.bank.bMoney.toNat) : w.unlockTakes r = price := by
  unfold unlockTakes
  omega

theorem unlockStep (hw : Unlockable w) (hr : InOrder w r) : UnlockStep w r := by
  cases hsome : w.unlocks r with
  | none =>
    have hsame := requestUnlock_none hsome
    refine .refused hsame ?_
    unfold unlockTakes
    rw [hsame.bank, hsame.player]
    dsimp only [seen]
    omega
  | some tab =>
    have hnext := hr tab hsome
    obtain ⟨hrank, ⟨rfl, hcost, heq⟩ | ⟨text, p1, p2, hafford, heq⟩⟩ := requestUnlock_some hsome
    · -- the bank is asked for, so that it cannot be there yet
      have hzero : w.bank.bTabs.toNat = 0 := by
        have hone : (1 : UInt8).toNat = 1 := rfl
        omega
      have hlocked := hw.locked (UInt32.toNat_inj.1 hzero)
      obtain ⟨htabs, hmoney, hplayer⟩ := unlockGuildBank_ok hlocked hrank hcost
      have hsub := UInt32.toNat_sub_of_le _ _ hcost
      have hle := UInt32.le_iff_toNat_le.1 hcost
      refine .unlocked (by rw [hzero]; decide) (by rw [heq, htabs, hzero]; rfl) (unlockTakes_of_sum ?_)
      rw [heq, hmoney, hplayer, hsub, hlocked.bMoney, hzero]
      have hprice : unlockPrice (0 + 1) = GUILD_BANK_COST.toNat := rfl
      omega
    · obtain ⟨htabs, hsum⟩ := unlockTab_some text hrank hafford
      obtain ⟨rfl, hrange, -⟩ := tabAffordable_some hafford
      have hbound := UInt32.le_iff_toNat_le.1 (UInt32.not_lt.1 (not_or.1 hrange).2)
      rw [UInt8.toNat_toUInt32] at hbound
      refine .unlocked (by omega) (by rw [heq, htabs, UInt8.toNat_toUInt32, hnext]) (unlockTakes_of_sum ?_)
      rw [heq, ← hnext]
      exact hsum

theorem unlockable_requestUnlock (hw : Unlockable w) (hr : InOrder w r) : Unlockable (w.requestUnlock r) := by
  cases unlockStep hw hr with
  | refused same takes =>
    refine ⟨by rw [same.bank]; exact hw.bTabs, fun hzero => ?_⟩
    rw [same.bank] at hzero
    have hlocked := hw.locked hzero
    exact ⟨by rw [same.bank]; exact hlocked.bMoney, by rw [same.bank, same.db]; exact hlocked.tabs,
      by rw [same.bank, same.db]; exact hlocked.money⟩
  | unlocked bound bTabs takes =>
    refine ⟨by rw [UInt32.le_iff_toNat_le, bTabs]; exact bound, fun hzero => ?_⟩
    rw [hzero] at bTabs
    exact absurd bTabs (by simp)

/-! ### A run -/

def takings (w : World om) : List (UnlockRequest om) → List Int
  | [] => []
  | r :: rs => w.unlockTakes r :: takings (w.requestUnlock r) rs

theorem unlockPrice_pos {n : Nat} (h : 1 ≤ n) (h' : n ≤ MAX_TABS.toNat) : 0 < unlockPrice n := by
  have hmax : MAX_TABS.toNat = 5 := rfl
  rw [hmax] at h'
  interval_cases n <;> decide

/-- The amounts that are taken at all are the prices of the tabs that are added, one after the other. -/
theorem takings_run {rs : List (UnlockRequest om)} (hw : Unlockable w) (h : Runs.Admitted requestUnlock InOrder w rs) :
    ∃ k, (Runs.run requestUnlock w rs).bank.bTabs.toNat = w.bank.bTabs.toNat + k ∧
      (takings w rs).filter (· ≠ 0) = (List.range' (w.bank.bTabs.toNat + 1) k).map fun n => (unlockPrice n : Int) := by
  induction rs generalizing w with
  | nil => exact ⟨0, rfl, rfl⟩
  | cons r rs ih =>
    obtain ⟨hr, hrs⟩ := h
    obtain ⟨k, htabs, htakings⟩ := ih (unlockable_requestUnlock hw hr) hrs
    rw [run, takings]
    cases unlockStep hw hr with
    | refused same takes =>
      have hsame : (w.requestUnlock r).bank.bTabs = w.bank.bTabs := by rw [same.bank]; rfl
      rw [hsame] at htabs htakings
      refine ⟨k, htabs, ?_⟩
      rw [filter_cons_of_neg (by simp [takes]), htakings]
    | unlocked bound bTabs takes =>
      have hpos := unlockPrice_pos (by omega : 1 ≤ w.bank.bTabs.toNat + 1) bound
      rw [bTabs] at htabs htakings
      refine ⟨k + 1, by omega, ?_⟩
      rw [filter_cons_of_pos (by rw [takes]; simp; omega), htakings, takes, range'_succ, map_cons]

/-- A run that only ever lets the next tab through adds the tabs in order and takes the price of each of them once; at
every place of it a request either adds the next tab for its price or takes nothing and changes nothing. -/
theorem unlocks_charged {rs : List (UnlockRequest om)} (hw : Unlockable w) (hrs : Runs.Admitted requestUnlock InOrder w rs) :
    w.bank.bTabs ≤ (Runs.run requestUnlock w rs).bank.bTabs ∧
      (takings w rs).filter (· ≠ 0) = (List.range' (w.bank.bTabs.toNat + 1)
        ((Runs.run requestUnlock w rs).bank.bTabs.toNat - w.bank.bTabs.toNat)).map (fun n => (unlockPrice n : Int)) ∧
      ∀ n r, rs[n]? = some r → UnlockStep (Runs.run requestUnlock w (rs.take n)) r := by
  obtain ⟨k, htabs, htakings⟩ := takings_run hw hrs
  refine ⟨by rw [UInt32.le_iff_toNat_le, htabs]; exact Nat.le_add_right _ _, ?_, fun n r hr => ?_⟩
  · rw [htabs, Nat.add_sub_cancel_left]
    exact htakings
  · have hbefore : Unlockable (run requestUnlock w (rs.take n)) :=
      invariant (I := Unlockable) (fun _ _ hw hr => unlockable_requestUnlock hw hr) hw (hrs.take n)
    exact unlockStep hbefore (hrs.getElem? hr).1

theorem unlockable_fresh (player : Player om) (isInferno : Bool) (guildid : UInt32) (log : List BankLog)
    (htabs : ∀ r ∈ db.guildBankTabs, ¬ (r.guildid = guildid ∧ r.isInferno = isInferno))
    (hmoney : ∀ r ∈ db.guildBankMoney.rows, r.key ≠ (guildid, isInferno)) :
    Unlockable ⟨player, (GuildBank.create isInferno).setGuild db guildid log, db, []⟩ := by
  have hnone : (db.guildBankTabs.filter fun r => r.guildid = guildid && r.isInferno = isInferno) = [] := by
    refine filter_eq_nil_iff.2 fun r hr hp => htabs r hr ?_
    simpa using hp
  have hrows : ({ (create isInferno : GuildBank om) with guildid := guildid, bTabs := 0 }).bankRows db = [] := by
    unfold bankRows create
    rw [hnone]
    rfl
  have hload : loadBank { (create isInferno : GuildBank om) with guildid := guildid, bTabs := 0 } db =
      { (create isInferno : GuildBank om) with guildid := guildid, bTabs := 0 } := by
    unfold loadBank
    rw [hrows]
    rfl
  unfold setGuild
  rw [hload]
  exact ⟨show (0 : UInt32) ≤ MAX_TABS by decide, fun _ => ⟨rfl, htabs, hmoney⟩⟩

/-- A player with a hundred thousand gold, the master of a guild that has no bank. -/
def founder : World Sample.objectMgr where
  player := { Sample.player with money := 1000000000 }
  bank := (GuildBank.create false).setGuild { Sample.db with guildBankTabs := [], guildBankMoney := Rows.empty } 1 []
  db := { Sample.db with guildBankTabs := [], guildBankMoney := Rows.empty }
  sent := []

def foundersRequest (msg : UnlockMessage) : UnlockRequest Sample.objectMgr := ⟨Sample.ctx, founder.player, msg⟩

def unlockBank : UnlockRequest Sample.objectMgr := foundersRequest (.unlockGuildBank .ok)

def unlockSecond : UnlockRequest Sample.objectMgr := foundersRequest (.unlockTab "UnlockTab:2:1" [2, 1])

instance (w : World om) (r : UnlockRequest om) : Decidable (InOrder w r) :=
  decidable_of_iff ((w.unlocks r).all fun tab => tab.toNat = w.bank.bTabs.toNat + 1) (by
    unfold InOrder
    cases w.unlocks r <;> simp)

/-- The bank and its second tab are bought. -/
theorem unlocks_charged_founder : founder.bank.bTabs ≤ (Runs.run requestUnlock founder [unlockBank, unlockSecond]).bank.bTabs ∧
      (takings founder [unlockBank, unlockSecond]).filter (· ≠ 0) = (List.range' (founder.bank.bTabs.toNat + 1)
        ((Runs.run requestUnlock founder [unlockBank, unlockSecond]).bank.bTabs.toNat - founder.bank.bTabs.toNat)).map
          (fun n => (unlockPrice n : Int)) ∧
      ∀ n r, [unlockBank, unlockSecond][n]? = some r →
        UnlockStep (Runs.run requestUnlock founder ([unlockBank, unlockSecond].take n)) r :=
  unlocks_charged (unlockable_fresh _ false 1 [] (fun _ h => absurd h not_mem_nil) fun _ h => absurd h not_mem_nil)
    (by decide +kernel)

/-- The second tab is paid for twice, and so is the bank; and the second tab after the third is the last one again. -/
theorem unlocks_charged_twice : (Runs.run requestUnlock founder [unlockBank, unlockSecond, unlockSecond]).bank.bTabs = 2 ∧
      takings founder [unlockBank, unlockSecond, unlockSecond] = [20000000, 5000000, 5000000] ∧
      takings founder [unlockBank, unlockBank] = [20000000, 20000000] ∧
      (Runs.run requestUnlock founder [unlockBank, foundersRequest (.unlockTab "UnlockTab:3:1" [3, 1])]).bank.bTabs = 3 ∧
      (Runs.run requestUnlock founder
        [unlockBank, foundersRequest (.unlockTab "UnlockTab:3:1" [3, 1]), unlockSecond]).bank.bTabs = 2 := by
  decide +kernel

end World

end ComfyCraft
