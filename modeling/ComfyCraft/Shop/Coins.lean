import ComfyCraft.Shop.Model
import ComfyCraft.Lib.Runs
import Mathlib.Data.List.Count
import Mathlib.Algebra.Order.Ring.Int

/-! Shop coins: a price that was taken ends as one delivery or is given back once, over every run in which the log is
written, the second look at the balance succeeds, and nothing is given back to an account while the shop writes its
new balance. -/

namespace ComfyCraft.ShopMgr

open List Option State Statement Task AList

variable {initial : UInt32 → Option Int} {s : State} {shop : UInt32 → Option UInt32} {t task : Purchase}

def prices (a : UInt32) (l : List Purchase) : Int := (l.map fun t => if t.accountId = a then (t.price.toNat : Int) else 0).sum

theorem prices_cons (a : UInt32) (t : Purchase) (l : List Purchase) :
    prices a (t :: l) = (if t.accountId = a then (t.price.toNat : Int) else 0) + prices a l := sum_cons

theorem prices_perm (a : UInt32) {l l' : List Purchase} (h : l.Perm l') : prices a l = prices a l' := (h.map _).sum_eq

theorem prices_append (a : UInt32) (l l' : List Purchase) : prices a (l ++ l') = prices a l + prices a l' := by
  unfold prices
  rw [map_append, sum_append]

/-! ### Where a purchase is -/

def Task.item : Task → Option Purchase
  | .ShopSendItemTask task => some task
  | _ => none

def Statement.back : Statement → Option Purchase
  | .giveBack task => some task
  | _ => none

def held : Option Stage → List Purchase
  | some (.insertLog task _) | some (.checkBalance task _) => [task]
  | _ => []

namespace State

def underWay (s : State) : List Purchase := held s.stage ++ s.tasks.filterMap Task.item ++ s.delayed.filterMap Statement.back

def balance (s : State) (a : UInt32) : Int := (s.shop_coins a).getD 0

/-- Nothing is requested, worked on or queued. -/
def Quiet (s : State) : Prop := s.m_pendingRequests = [] ∧ s.requests = [] ∧ s.stage = none ∧ s.tasks = [] ∧ s.delayed = []

/-- The coins are what the purchases leave of them: only a price that was taken lowers them and only one that was given
back raises them, each price taken is under way, delivered or given back, once, and when all is quiet the coins are the
ones at first less the prices of what was delivered. -/
structure CoinsRight (initial : UInt32 → Option Int) (s : State) : Prop where
  accounted : ∀ a, s.balance a = (initial a).getD 0 - prices a s.taken + prices a s.givenBack
  once : ∀ t ∈ s.taken, s.underWay.count t + s.delivered.count t + s.givenBack.count t = 1
  others : ∀ t, t ∉ s.taken → t ∉ s.underWay ∧ t ∉ s.delivered ∧ t ∉ s.givenBack
  settled : s.Quiet → (∀ t ∈ s.taken, s.delivered.count t + s.givenBack.count t = 1) ∧
    ∀ a, s.balance a = (initial a).getD 0 - prices a s.delivered

/-! ### What every step keeps -/

/-- What the shop thread knows at its next statement. -/
def StageRight (s : State) : Option Stage → Prop
  | some (.updateCoins task newBalance) => task.shopId = s.m_maxShopEntry ∧ (∀ t ∈ s.taken, t.shopId ≠ task.shopId) ∧
    (s.shop_coins task.accountId).isSome = true ∧ newBalance = s.balance task.accountId - task.price.toNat
  | some (.insertLog task newBalance) | some (.checkBalance task newBalance) => s.balance task.accountId = newBalance
  | _ => True

structure Sound (initial : UInt32 → Option Int) (s : State) : Prop where
  coins : ∀ a, s.balance a + prices a s.taken = (initial a).getD 0 + prices a s.givenBack
  places : ∀ t, s.underWay.count t + s.delivered.count t + s.givenBack.count t = s.taken.count t
  unique : (s.taken.map Purchase.shopId).Nodup
  old : ∀ t ∈ s.taken, t.shopId ≤ s.m_maxShopEntry
  row : ∀ t ∈ s.taken, (s.shop_coins t.accountId).isSome = true
  stage : s.StageRight s.stage
  unrefunded : ∀ t ∈ s.tasks.filterMap Task.item, ∃ entry, s.m_shopLogsLookup.lookup t.shopId = some entry ∧ entry.refunded = false
  running : s.aborted = false

theorem Sound.nodup (h : Sound initial s) : s.taken.Nodup := List.Nodup.of_map _ h.unique

theorem Sound.right (h : Sound initial s) : s.CoinsRight initial := by
  have honce : ∀ t ∈ s.taken, s.underWay.count t + s.delivered.count t + s.givenBack.count t = 1 := fun t ht => by
    rw [h.places t, count_eq_one_of_mem h.nodup ht]
  refine ⟨fun a => ?_, honce, fun t ht => ?_, fun hquiet => ?_⟩
  · have := h.coins a
    omega
  · have hzero := h.places t
    rw [count_eq_zero_of_not_mem ht] at hzero
    exact ⟨count_eq_zero.1 (by omega), count_eq_zero.1 (by omega), count_eq_zero.1 (by omega)⟩
  obtain ⟨_, _, hstage, htasks, hdelayed⟩ := hquiet
  have hnone : s.underWay = [] := by
    unfold underWay
    rw [hstage, htasks, hdelayed]
    rfl
  refine ⟨fun t ht => ?_, fun a => ?_⟩
  · have := honce t ht
    rw [hnone, count_nil] at this
    omega
  have hperm : (s.delivered ++ s.givenBack).Perm s.taken := perm_iff_count.2 fun t => by
    have := h.places t
    rw [hnone, count_nil] at this
    rw [count_append]
    omega
  have hcoins := h.coins a
  rw [← prices_perm a hperm, prices_append] at hcoins
  omega

variable {newBalance : Int} {i : Nat} {s' : State}

theorem count_eraseIdx {α : Type} (f : α → Option Purchase) {l : List α} {a : α} (h : l[i]? = some a) (t : Purchase) :
    (l.filterMap f).count t = ((l.eraseIdx i).filterMap f).count t + if f a = some t then 1 else 0 := by
  obtain ⟨hlt, rfl⟩ := List.getElem?_eq_some_iff.1 h
  rw [← ((getElem_cons_eraseIdx_perm hlt).filterMap f).count_eq, filterMap_cons]
  cases hf : f l[i] with
  | none => simp
  | some b => simp [count_cons]

theorem count_underWay (s : State) (t : Purchase) :
    s.underWay.count t = (held s.stage).count t + (s.tasks.filterMap Task.item).count t + (s.delayed.filterMap Statement.back).count t := by
  unfold underWay
  rw [count_append, count_append]

/-! ### The shop's thread -/

theorem Sound.calm (h : Sound initial s) (hcoins : s'.shop_coins = s.shop_coins)
    (hhistory : s'.taken = s.taken ∧ s'.delivered = s.delivered ∧ s'.givenBack = s.givenBack)
    (hmax : s.m_maxShopEntry ≤ s'.m_maxShopEntry) (hlookup : s'.m_shopLogsLookup = s.m_shopLogsLookup)
    (hitems : s'.tasks.filterMap Task.item = s.tasks.filterMap Task.item)
    (hbacks : s'.delayed.filterMap Statement.back = s.delayed.filterMap Statement.back) (hheld : held s'.stage = held s.stage)
    (hstage : s'.StageRight s'.stage) (haborted : s'.aborted = s.aborted) : Sound initial s' := by
  obtain ⟨htaken, hdelivered, hgivenBack⟩ := hhistory
  have hbalance : s'.balance = s.balance := by
    unfold balance
    rw [hcoins]
  have hway : s'.underWay = s.underWay := by
    unfold underWay
    rw [hitems, hbacks, hheld]
  refine ⟨?_, ?_, ?_, ?_, ?_, hstage, ?_, haborted.trans h.running⟩
  · rw [hbalance, htaken, hgivenBack]
    exact h.coins
  · rw [hway, htaken, hdelivered, hgivenBack]
    exact h.places
  · rw [htaken]
    exact h.unique
  · rw [htaken]
    exact fun t ht => Nat.le_trans (h.old t ht) hmax
  · rw [htaken, hcoins]
    exact h.row
  · rw [hitems, hlookup]
    exact h.unrefunded

theorem finish_items (s : State) {task : Task} (hitem : task.item = none) :
    (s.finish task).tasks.filterMap Task.item = s.tasks.filterMap Task.item := by
  simp [finish, addAsyncTask, hitem]

/-- A request ends without a purchase. -/
theorem Sound.finish (h : Sound initial s) (hheld : held s.stage = []) {task : Task} (hitem : task.item = none) :
    Sound initial (s.finish task) :=
  h.calm rfl ⟨rfl, rfl, rfl⟩ (Nat.le_refl _) rfl (s.finish_items hitem) rfl hheld.symm trivial rfl

theorem Sound.getBalance (h : Sound initial s) (a : UInt32) (ok : Bool) : Sound initial (s.getBalance a ok).2 := by
  unfold State.getBalance
  split
  · exact h
  · exact h.calm rfl ⟨rfl, rfl, rfl⟩ (Nat.le_refl _) rfl rfl (by simp [pExecute, back]) rfl h.stage rfl

theorem getBalance_stage (s : State) (a : UInt32) (ok : Bool) : (s.getBalance a ok).2.stage = s.stage ∧
    (s.getBalance a ok).2.shop_coins = s.shop_coins := by
  unfold getBalance
  split <;> exact ⟨rfl, rfl⟩

/-- Coins that are there were read from the row. -/
theorem getBalance_pos {a : UInt32} {ok : Bool} (h : 0 < (s.getBalance a ok).1) :
    s.shop_coins a = some (s.getBalance a ok).1 := by
  unfold getBalance at h ⊢
  cases ok with
  | false => cases h
  | true =>
    rw [if_pos rfl] at h ⊢
    cases hrow : s.shop_coins a with
    | none =>
      rw [hrow] at h
      cases h
    | some coins => rfl

section

variable (h : Sound initial s)
include h

theorem Sound.buyItem (hheld : held s.stage = []) (request : ShopRequest) (price : UInt32) {coins : Int}
    (hcoins : 0 < coins → s.shop_coins request.accountId = some coins) : Sound initial (s.buyItem request price coins) := by
  unfold State.buyItem
  dsimp only
  split
  · rename_i hpos
    split
    · refine h.calm rfl ⟨rfl, rfl, rfl⟩ (Nat.le_succ _) rfl rfl rfl hheld.symm ⟨rfl, fun t ht => ?_, ?_, ?_⟩ rfl
      · exact Nat.ne_of_lt (Nat.lt_succ_of_le (h.old t ht))
      · dsimp only
        rw [hcoins hpos]
        rfl
      · unfold balance
        dsimp only
        rw [hcoins hpos]
        rfl
    · exact h.finish hheld rfl
  · exact h.finish hheld rfl

theorem Sound.nextRequest (hstage : s.stage = none) (shop : UInt32 → Option UInt32) : Sound initial (s.nextRequest shop) := by
  have hheld : held s.stage = [] := by rw [hstage]; rfl
  unfold State.nextRequest
  split
  · exact h.calm rfl ⟨rfl, rfl, rfl⟩ (Nat.le_refl _) rfl rfl rfl rfl h.stage rfl
  rename_i request rest _
  have hrest : Sound initial { s with requests := rest } :=
    h.calm rfl ⟨rfl, rfl, rfl⟩ (Nat.le_refl _) rfl rfl rfl rfl h.stage rfl
  dsimp only
  split
  · exact hrest.calm rfl ⟨rfl, rfl, rfl⟩ (Nat.le_refl _) rfl rfl rfl hheld.symm trivial rfl
  split
  · exact hrest.finish hheld rfl
  · exact hrest.calm rfl ⟨rfl, rfl, rfl⟩ (Nat.le_refl _) rfl rfl rfl hheld.symm trivial rfl

theorem Sound.updateCoins (hstage : s.stage = some (.updateCoins task newBalance)) :
    Sound initial { s.updateCoins task.accountId fun _ => newBalance with
      stage := some (.insertLog task newBalance), taken := task :: s.taken } := by
  have hright := h.stage
  rw [hstage] at hright
  obtain ⟨hid, hnew, hrow, hbalance⟩ := hright
  obtain ⟨coins, hcoins⟩ := isSome_iff_exists.1 hrow
  have hnow : ∀ a, (if a = task.accountId then (s.shop_coins a).map (fun _ => newBalance) else s.shop_coins a).getD 0 =
      s.balance a - if task.accountId = a then (task.price.toNat : Int) else 0 := by
    intro a
    by_cases ha : a = task.accountId
    · subst ha
      rw [if_pos rfl, if_pos rfl, hcoins]
      exact hbalance
    · rw [if_neg ha, if_neg (Ne.symm ha), Int.sub_zero]
      rfl
  have hkept : ∀ a, (s.shop_coins a).isSome = true →
      (if a = task.accountId then (s.shop_coins a).map (fun _ => newBalance) else s.shop_coins a).isSome = true := by
    intro a ha
    split
    · rw [isSome_map]
      exact ha
    · exact ha
  refine ⟨fun a => ?_, fun t => ?_, ?_, fun t ht => ?_, fun t ht => ?_, ?_, h.unrefunded, h.running⟩
  · have hcoins := h.coins a
    have := hnow a
    unfold balance
    dsimp only [State.updateCoins]
    rw [prices_cons, hnow a]
    omega
  · have hplaces := h.places t
    rw [count_underWay, hstage] at hplaces
    rw [count_underWay]
    dsimp only [State.updateCoins, held] at hplaces ⊢
    simp only [count_cons, count_nil] at hplaces ⊢
    omega
  · rw [map_cons, nodup_cons]
    refine ⟨fun hmem => ?_, h.unique⟩
    obtain ⟨t, ht, heq⟩ := mem_map.1 hmem
    exact hnew t ht heq
  · rcases mem_cons.1 ht with rfl | ht
    · exact Nat.le_of_eq hid
    · exact h.old t ht
  · rcases mem_cons.1 ht with rfl | ht
    · exact hkept _ hrow
    · exact hkept _ (h.row t ht)
  · show balance _ task.accountId = newBalance
    unfold balance
    dsimp only [State.updateCoins]
    rw [hnow, if_pos rfl]
    exact hbalance.symm

theorem Sound.insertLog (hstage : s.stage = some (.insertLog task newBalance))
    (logs : Table Nat ShopLogEntry) : Sound initial { s with shop_logs := logs, stage := some (.checkBalance task newBalance) } := by
  have hright := h.stage
  rw [hstage] at hright
  exact h.calm rfl ⟨rfl, rfl, rfl⟩ (Nat.le_refl _) rfl rfl rfl (by rw [hstage]; rfl) hright rfl

theorem Sound.sendItem (hstage : s.stage = some (.checkBalance task newBalance)) :
    Sound initial ({ s with m_shopLogsLookup := s.m_shopLogsLookup.insert task.shopId (logEntry task) }.finish
      (.ShopSendItemTask task)) := by
  refine ⟨h.coins, fun t => ?_, h.unique, h.old, h.row, trivial, fun t ht => ?_, h.running⟩
  · have hplaces := h.places t
    rw [count_underWay, hstage] at hplaces
    rw [count_underWay]
    simp only [State.finish, addAsyncTask, held, filterMap_append, filterMap_cons, filterMap_nil, item,
      count_append, count_cons, count_nil] at hplaces ⊢
    omega
  · dsimp only [State.finish, addAsyncTask] at ht ⊢
    by_cases hid : t.shopId = task.shopId
    · rw [hid]
      exact ⟨_, lookup_insert _, rfl⟩
    rw [lookup_insert_ne hid]
    refine h.unrefunded t ?_
    rw [filterMap_append] at ht
    rcases mem_append.1 ht with ht | ht
    · exact ht
    · rw [mem_singleton.1 ht] at hid
      exact absurd rfl hid

end

/-- The statement of the shop thread after the price is taken: the log is written, and the balance is read again, for a
number or for nothing where nothing is left. -/
def ThreadKeeps (s : State) (ok : Bool) : Prop :=
  match s.stage with
  | some (.insertLog _ _) => ok = true
  | some (.checkBalance _ newBalance) => ok = true ∨ newBalance = 0
  | _ => True

theorem Sound.worker (h : Sound initial s) (shop : UInt32 → Option UInt32) (ok : Bool) (hok : s.ThreadKeeps ok) :
    Sound initial (s.worker shop ok) := by
  unfold State.worker
  unfold ThreadKeeps at hok
  cases hstage : s.stage with
  | none => exact h.nextRequest hstage shop
  | some stage =>
    rw [hstage] at hok
    cases stage with
    | getBalance request price =>
      have hread := h.getBalance request.accountId ok
      obtain ⟨hsame, hrows⟩ := s.getBalance_stage request.accountId ok
      have hheld : held (s.getBalance request.accountId ok).2.stage = [] := by rw [hsame, hstage]; rfl
      dsimp only
      cases price with
      | none => exact hread.finish hheld rfl
      | some price =>
        refine hread.buyItem hheld request price fun hpos => ?_
        rw [hrows]
        exact getBalance_pos hpos
    | updateCoins task newBalance =>
      dsimp only
      split
      · exact h.updateCoins hstage
      · exact h.finish (by rw [hstage]; rfl) rfl
    | insertLog task newBalance =>
      dsimp only at hok ⊢
      rw [if_pos hok]
      exact h.insertLog hstage _
    | checkBalance task newBalance =>
      have hright := h.stage
      rw [hstage] at hright
      have hread := h.getBalance task.accountId ok
      have hsame := (s.getBalance_stage task.accountId ok).1
      have hvalue : (s.getBalance task.accountId ok).1 = newBalance := by
        have hbalance : (s.shop_coins task.accountId).getD 0 = newBalance := hright
        unfold State.getBalance
        cases ok with
        | false =>
          obtain rfl := hok.resolve_left Bool.false_ne_true
          rfl
        | true =>
          rw [if_pos rfl]
          cases hrow : s.shop_coins task.accountId with
          | none =>
            rw [hrow] at hbalance
            exact hbalance
          | some coins =>
            rw [hrow] at hbalance
            exact hbalance
      dsimp only
      rw [if_neg (not_not.2 hvalue)]
      exact hread.sendItem (hsame.trans hstage)

/-! ### The world -/

theorem Sound.taken_of_item (h : Sound initial s) (ht : t ∈ s.tasks.filterMap Task.item) : t ∈ s.taken := by
  have hcount := count_pos_iff.2 ht
  have hplaces := h.places t
  rw [count_underWay] at hplaces
  exact count_pos_iff.1 (by omega)

/-- The entry of a purchase that is carried out is there, and the purchase is given back. -/
theorem Sound.refund (h : Sound initial s) (htask : s.tasks[i]? = some (.ShopSendItemTask task)) :
    Sound initial ({ s with tasks := s.tasks.eraseIdx i }.refundPurchase task) := by
  have hmem : task ∈ s.tasks.filterMap item := mem_filterMap.2 ⟨_, mem_of_getElem? htask, rfl⟩
  obtain ⟨entry, hentry, hopen⟩ := h.unrefunded task hmem
  have hcount := fun t => count_eraseIdx item htask t
  unfold refundPurchase
  dsimp only
  rw [hentry]
  dsimp only
  rw [hopen, if_neg Bool.false_ne_true]
  refine ⟨h.coins, fun t => ?_, h.unique, h.old, h.row, h.stage, fun t ht => ?_, h.running⟩
  · have hplaces := h.places t
    have := hcount t
    rw [count_underWay] at hplaces ⊢
    simp only [pExecute, filterMap_append, filterMap_cons, filterMap_nil, back, count_append,
      count_cons, count_nil, item, some.injEq, beq_iff_eq] at this hplaces ⊢
    omega
  · dsimp only [pExecute] at ht ⊢
    -- another purchase has another number
    have hrest : t ∈ s.tasks.filterMap item := ((eraseIdx_sublist ..).filterMap _).subset ht
    have hne : t.shopId ≠ task.shopId := by
      intro hid
      have heq := inj_on_of_nodup_map h.unique (h.taken_of_item hrest) (h.taken_of_item hmem) hid
      subst heq
      have hleft := count_pos_iff.2 ht
      have hall := hcount t
      have hone := count_eq_one_of_mem h.nodup (h.taken_of_item hmem)
      have hplaces := h.places t
      rw [count_underWay] at hplaces
      have hitem : (ShopSendItemTask t).item = some t := rfl
      rw [if_pos hitem] at hall
      omega
    rw [lookup_insert_ne hne]
    exact h.unrefunded t hrest

theorem Sound.runTask (h : Sound initial s) (i : Nat) (hasRoom : Bool) : Sound initial (s.runTask i hasRoom) := by
  unfold State.runTask
  cases htask : s.tasks[i]? with
  | none => exact h
  | some first =>
    have hcount := fun t => count_eraseIdx item htask t
    have hless : ∀ t ∈ (s.tasks.eraseIdx i).filterMap item, t ∈ s.tasks.filterMap item :=
      fun t ht => ((eraseIdx_sublist ..).filterMap _).subset ht
    have hgone : first.item = none → Sound initial { s with tasks := s.tasks.eraseIdx i } := by
      intro hnone
      refine { h with
        places := fun t => ?_
        unrefunded := fun t ht => h.unrefunded t (hless t ht) }
      have hplaces := h.places t
      have := hcount t
      rw [hnone, if_neg (some_ne_none t).symm] at this
      rw [count_underWay] at hplaces ⊢
      dsimp only
      omega
    dsimp only
    cases first with
    | ShopSendBalanceTask a balance =>
      unfold carryOut
      dsimp only
      split
      · exact (hgone rfl).calm rfl ⟨rfl, rfl, rfl⟩ (Nat.le_refl _) rfl rfl rfl rfl (hgone rfl).stage rfl
      · exact hgone rfl
    | ShopSendBuyResultTask a message =>
      unfold carryOut
      dsimp only
      split
      · exact (hgone rfl).calm rfl ⟨rfl, rfl, rfl⟩ (Nat.le_refl _) rfl rfl rfl rfl (hgone rfl).stage rfl
      · exact hgone rfl
    | ShopSendItemTask task =>
      have hrefund := h.refund htask
      unfold carryOut
      dsimp only
      split
      · exact hrefund
      split
      · refine ⟨h.coins, fun t => ?_, h.unique, h.old, h.row, h.stage, fun t ht => h.unrefunded t (hless t ht), h.running⟩
        have hplaces := h.places t
        have := hcount t
        rw [count_underWay] at hplaces ⊢
        simp only [sendAddonMessage, item, some.injEq, count_cons, beq_iff_eq] at this hplaces ⊢
        omega
      · exact hrefund.calm rfl ⟨rfl, rfl, rfl⟩ (Nat.le_refl _) rfl rfl rfl rfl hrefund.stage rfl

/-! ### The delayed statements -/

def buying (s : State) : Option UInt32 :=
  match s.stage with
  | some (.updateCoins task _) | some (.insertLog task _) | some (.checkBalance task _) => some task.accountId
  | _ => none

/-- A give-back succeeds, and not while the shop thread writes the account's new balance. -/
def DelayedKeeps (s : State) (i : Nat) (ok : Bool) : Prop :=
  ∀ task, s.delayed[i]? = some (.giveBack task) → ok = true ∧ (task.price ≠ 0 → s.buying ≠ some task.accountId)

theorem Sound.taken_of_back (h : Sound initial s) (ht : t ∈ s.delayed.filterMap Statement.back) : t ∈ s.taken := by
  have hcount := count_pos_iff.2 ht
  have hplaces := h.places t
  rw [count_underWay] at hplaces
  exact count_pos_iff.1 (by omega)

/-- Coins of other accounts, or nothing, do not matter to the shop thread. -/
theorem StageRight.congr (h : s.StageRight s.stage) (hstage : s'.stage = s.stage) (hmax : s'.m_maxShopEntry = s.m_maxShopEntry)
    (htaken : s'.taken = s.taken) (hrows : ∀ a, (s.shop_coins a).isSome = true → (s'.shop_coins a).isSome = true)
    (hcoins : ∀ a, s.buying = some a → s'.balance a = s.balance a) : s'.StageRight s'.stage := by
  rw [hstage]
  unfold buying at hcoins
  cases hnow : s.stage with
  | none => trivial
  | some stage =>
    rw [hnow] at h hcoins
    cases stage with
    | getBalance request price => trivial
    | updateCoins task newBalance =>
      obtain ⟨hid, hnew, hrow, hbalance⟩ := h
      refine ⟨hid.trans hmax.symm, fun t ht => hnew t (htaken ▸ ht), hrows _ hrow, ?_⟩
      rw [hcoins _ rfl]
      exact hbalance
    | insertLog task newBalance => exact (hcoins _ rfl).trans h
    | checkBalance task newBalance => exact (hcoins _ rfl).trans h

theorem Sound.giveBack (h : Sound initial s) (hstatement : s.delayed[i]? = some (.giveBack task))
    (hnot : task.price ≠ 0 → s.buying ≠ some task.accountId) :
    Sound initial ({ s with delayed := s.delayed.eraseIdx i }.execute (.giveBack task)) := by
  have hmem : task ∈ s.delayed.filterMap back := mem_filterMap.2 ⟨_, mem_of_getElem? hstatement, rfl⟩
  have hrow := h.row task (h.taken_of_back hmem)
  have hcount := fun t => count_eraseIdx back hstatement t
  have hnow : ∀ a, (if a = task.accountId then (s.shop_coins a).map (fun coins => coins + (task.price.toNat : Int)) else
      s.shop_coins a).getD 0 =
      s.balance a + if task.accountId = a then (task.price.toNat : Int) else 0 := by
    intro a
    obtain ⟨coins, hcoins⟩ := isSome_iff_exists.1 hrow
    unfold balance
    by_cases ha : a = task.accountId
    · subst ha
      rw [if_pos rfl, if_pos rfl, hcoins]
      rfl
    · rw [if_neg ha, if_neg (Ne.symm ha), Int.add_zero]
  have hrows : ∀ a, (s.shop_coins a).isSome = true →
      (if a = task.accountId then (s.shop_coins a).map (fun coins => coins + (task.price.toNat : Int)) else s.shop_coins a).isSome = true := by
    intro a ha
    split
    · rw [isSome_map]
      exact ha
    · exact ha
  unfold execute
  dsimp only
  rw [if_pos hrow]
  refine ⟨fun a => ?_, fun t => ?_, h.unique, h.old, fun t ht => hrows _ (h.row t ht), ?_, h.unrefunded, h.running⟩
  · have hcoins := h.coins a
    unfold balance
    dsimp only [State.updateCoins]
    rw [prices_cons, hnow a]
    omega
  · have hplaces := h.places t
    have := hcount t
    rw [count_underWay] at hplaces ⊢
    simp only [State.updateCoins, back, some.injEq, count_cons, beq_iff_eq] at this hplaces ⊢
    omega
  · refine h.stage.congr rfl rfl rfl hrows fun a ha => ?_
    unfold balance
    dsimp only [State.updateCoins]
    rw [hnow]
    by_cases hprice : task.price = 0
    · rw [hprice]
      simp [balance]
    · have hne : task.accountId ≠ a := fun heq => hnot hprice (heq ▸ ha)
      rw [if_neg hne, Int.add_zero]
      rfl

theorem Sound.runDelayed (h : Sound initial s) (i : Nat) (ok : Bool) (hok : s.DelayedKeeps i ok) : Sound initial
    (s.runDelayed i ok) := by
  unfold State.runDelayed
  unfold DelayedKeeps at hok
  cases hstatement : s.delayed[i]? with
  | none => exact h
  | some statement =>
    have hcount := fun t => count_eraseIdx back hstatement t
    have hgone : statement.back = none → Sound initial { s with delayed := s.delayed.eraseIdx i } := by
      intro hnone
      refine { h with places := fun t => ?_ }
      have hplaces := h.places t
      have := hcount t
      rw [hnone, if_neg (some_ne_none t).symm] at this
      rw [count_underWay] at hplaces ⊢
      dsimp only
      omega
    dsimp only
    cases statement with
    | giveBack task =>
      obtain ⟨rfl, hnot⟩ := hok task hstatement
      exact h.giveBack hstatement hnot
    | insertCoins a =>
      split
      · have hleft := hgone rfl
        unfold execute
        dsimp only
        split
        · exact hleft
        rename_i hnone
        have hnow : ∀ a', (if a' = a then some 0 else s.shop_coins a').getD 0 = s.balance a' := by
          intro a'
          by_cases ha : a' = a
          · subst ha
            rw [if_pos rfl]
            unfold balance
            rw [not_isSome_iff_eq_none.1 hnone]
            rfl
          · rw [if_neg ha]
            rfl
        have hrows : ∀ a', (s.shop_coins a').isSome = true → (if a' = a then some 0 else s.shop_coins a').isSome = true := by
          intro a' ha
          split
          · rfl
          · exact ha
        refine { hleft with
          coins := fun a' => ?_
          row := fun t ht => hrows _ (h.row t ht)
          stage := h.stage.congr rfl rfl rfl hrows fun a' _ => hnow a' }
        have hcoins := h.coins a'
        unfold balance
        dsimp only
        rw [hnow]
        exact hcoins
      · exact hgone rfl
    | setRefunded shopId =>
      split
      · unfold execute
        dsimp only
        split
        · exact hgone rfl
        · exact (hgone rfl).calm rfl ⟨rfl, rfl, rfl⟩ (Nat.le_refl _) rfl rfl rfl rfl (hgone rfl).stage rfl
      · exact hgone rfl

end State

/-! ### Runs -/

/-- A step that keeps the coins right: the log of a price that was taken is written and the balance read again, and a
price is given back, and not while the shop writes the new balance of the account. -/
def KeepsCoins (s : State) : Event → Prop
  | .worker ok => s.ThreadKeeps ok
  | .runDelayed i ok => s.DelayedKeeps i ok
  | _ => True

theorem step_sound (h : s.Sound initial) (shop : UInt32 → Option UInt32) (e : Event) (hok : KeepsCoins s e) :
    (step shop s e).Sound initial := by
  cases e with
  | requestBalance a =>
    simp only [step, requestBalance]
    split
    · exact h
    · exact h.calm rfl ⟨rfl, rfl, rfl⟩ (Nat.le_refl _) rfl rfl rfl rfl h.stage rfl
  | requestPurchase a guid itemId eggRefused =>
    simp only [step, requestPurchase]
    split
    · exact h
    split
    · exact h
    · exact h.calm rfl ⟨rfl, rfl, rfl⟩ (Nat.le_refl _) rfl rfl rfl rfl h.stage rfl
  | login a guid => exact h.calm rfl ⟨rfl, rfl, rfl⟩ (Nat.le_refl _) rfl rfl rfl rfl h.stage rfl
  | logout a => exact h.calm rfl ⟨rfl, rfl, rfl⟩ (Nat.le_refl _) rfl rfl rfl rfl h.stage rfl
  | worker ok => exact h.worker shop ok hok
  | runTask i hasRoom => exact h.runTask i hasRoom
  | runDelayed i ok => exact h.runDelayed i ok hok

theorem start_sound (initial : UInt32 → Option Int) (logs : Table Nat ShopLogEntry) (m : Nat) :
    (start initial logs m).Sound initial := by
  refine ⟨fun _ => rfl, fun _ => rfl, nodup_nil, fun t ht => ?_, fun t ht => ?_, trivial, fun t ht => ?_, rfl⟩
  · cases ht
  · cases ht
  · cases ht

/-- The coins are right in every state of a run whose steps keep them so, and no assertion of a refund fails in it. -/
theorem coins_right (shop : UInt32 → Option UInt32) (initial : UInt32 → Option Int) (logs : Table Nat ShopLogEntry) (m : Nat)
    (es : List Event) (hes : Runs.Admitted (step shop) KeepsCoins (start initial logs m) es) (n : Nat) :
    (Runs.run (step shop) (start initial logs m) (es.take n)).CoinsRight initial ∧
      (Runs.run (step shop) (start initial logs m) (es.take n)).aborted = false := by
  have h := Runs.invariant (I := fun s => s.Sound initial) (fun _ e h hok => step_sound h shop e hok) (start_sound initial logs m)
    (hes.take n)
  exact ⟨h.right, h.running⟩

def oneItem (itemId : UInt32) : Option UInt32 := if itemId = 5 then some 60 else none

def hundred (accountId : UInt32) : Option Int := if accountId = 1 then some 100 else none

/-- The player of the account asks for the item, and the shop's thread takes the request and reads the balance. -/
def asks : List Event := [.login 1 7, .requestPurchase 1 7 5 false, .worker true, .worker true, .worker true]

def fullBags : List Event := asks ++ [.worker true, .worker true, .worker true, .runTask 0 false]

def refunded : List Event := fullBags ++ [.runDelayed 0 true, .runDelayed 0 true]

theorem coins_right_refunded : (Runs.run (step oneItem) (start hundred ∅ 0) (refunded.take 11)).CoinsRight hundred := by
  refine (coins_right oneItem hundred ∅ 0 refunded ?_ 11).1
  have hidle : ∀ task : Purchase, (none : Option UInt32) ≠ some task.accountId := fun _ hcon => by cases hcon
  exact ⟨trivial, trivial, trivial, trivial, trivial, trivial, rfl, .inl rfl, trivial, fun task _ => ⟨rfl, fun _ => hidle task⟩,
    fun task _ => ⟨rfl, fun _ => hidle task⟩, trivial⟩

/-- The log is not written. -/
def logFails : List Event := asks ++ [.worker true, .worker false, .runTask 0 true]

/-- The refund comes between the first look at the balance and the new balance of the next purchase. -/
def refundOverwritten : List Event := fullBags ++ [.requestPurchase 1 7 5 false, .worker true, .worker true, .worker true,
  .runDelayed 0 true, .worker true, .worker true, .worker true, .runTask 0 true, .runDelayed 0 true]

def more (accountId : UInt32) : Option Int := if accountId = 1 then some 130 else none

/-- Either costs a price for nothing. -/
theorem coins_lost : ¬ (Runs.run (step oneItem) (start hundred ∅ 0) logFails).CoinsRight hundred ∧
    ¬ (Runs.run (step oneItem) (start more ∅ 0) refundOverwritten).CoinsRight more := by
  constructor
  · intro hright
    have hcoins := (hright.settled ⟨by decide +kernel, by decide +kernel, rfl, rfl, rfl⟩).2 1
    revert hcoins
    decide +kernel
  · intro hright
    have hcoins := (hright.settled ⟨by decide +kernel, by decide +kernel, rfl, rfl, rfl⟩).2 1
    revert hcoins
    decide +kernel

end ComfyCraft.ShopMgr
