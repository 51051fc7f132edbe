import ComfyCraft.Lib.Table

/-! The shop: requests that the world queues for the shop's thread, the statements that thread runs one by one, the
tasks it gives back to the world, and the delayed statements of the login database.

Every statement is a step, so that the other threads' steps come between any two of them. Whether a statement
succeeds is an input of its step. -/

namespace ComfyCraft.ShopMgr

def INT_MAX : Int := 2147483647

structure ShopRequest where
  accountId : UInt32
  guidLow : UInt32
  itemId : UInt32
deriving DecidableEq

/-- The members of `ShopSendItemTask`. -/
structure Purchase where
  accountId : UInt32
  guidLow : UInt32
  itemId : UInt32
  shopId : Nat
  price : UInt32
deriving DecidableEq

structure ShopLogEntry where
  accountId : UInt32
  charGuid : UInt32
  itemEntry : UInt32
  itemPrice : UInt32
  refunded : Bool

inductive Task
  | ShopSendBalanceTask (accountId : UInt32) (balance : Int)
  | ShopSendBuyResultTask (accountId : UInt32) (message : String)
  | ShopSendItemTask (task : Purchase)

/-- The delayed statements. The purchase in `giveBack` is not in the statement's text, which has its price and account. -/
inductive Statement
  | insertCoins (accountId : UInt32)
  | giveBack (task : Purchase)
  | setRefunded (shopId : Nat)

/-- The statement that the shop thread runs next. A balance is read for a purchase at a price, or to be sent. -/
inductive Stage
  | getBalance (request : ShopRequest) (price : Option UInt32)
  | updateCoins (task : Purchase) (newBalance : Int)
  | insertLog (task : Purchase) (newBalance : Int)
  | checkBalance (task : Purchase) (newBalance : Int)

/-- The login database, the shop, the world's tasks and who is in the world. The last three are no data of the
program: the purchases whose price was taken, that were delivered and that were given back. -/
structure State where
  shop_coins : UInt32 → Option Int
  shop_logs : Table Nat ShopLogEntry
  delayed : List Statement
  m_pendingRequests : List ShopRequest
  requests : List ShopRequest
  stage : Option Stage
  m_maxShopEntry : Nat
  m_shopLogsLookup : Table Nat ShopLogEntry
  tasks : List Task
  players : UInt32 → Option UInt32
  sent : List (UInt32 × String)
  aborted : Bool
  taken : List Purchase
  delivered : List Purchase
  givenBack : List Purchase

namespace State

variable (s : State) (accountId : UInt32)

def addAsyncTask (task : Task) : State := { s with tasks := s.tasks ++ [task] }

def pExecute (statement : Statement) : State := { s with delayed := s.delayed ++ [statement] }

def sendAddonMessage (message : String) : State := { s with sent := s.sent ++ [(accountId, message)] }

/-! ### The world's requests -/

def requestBalance : State :=
  if s.m_pendingRequests.any fun itr => itr.accountId = accountId && itr.itemId = 0 then s
  else { s with m_pendingRequests := s.m_pendingRequests ++ [⟨accountId, 0, 0⟩] }

def requestPurchase (accountId guidLow itemId : UInt32) (eggRefused : Bool) : State :=
  if itemId = 92010 ∧ eggRefused = true then s
  else if s.m_pendingRequests.any fun itr => itr.accountId = accountId && itr.guidLow = guidLow && itr.itemId = itemId then s
  else { s with m_pendingRequests := s.m_pendingRequests ++ [⟨accountId, guidLow, itemId⟩] }

/-! ### The shop's thread -/

/-- A query that fails has no result, like one that finds no row. -/
def getBalance (ok : Bool) : Int × State :=
  match (if ok then s.shop_coins accountId else none) with
  | some balance => (balance, s)
  | none => (0, s.pExecute (.insertCoins accountId))

def finish (task : Task) : State := { s with stage := none }.addAsyncTask task

/-- `BuyItem` from the balance on, up to its first write. -/
def buyItem (request : ShopRequest) (price : UInt32) (coins : Int) : State :=
  if 0 < coins then
    let newBalance := coins - price.toNat
    if 0 ≤ newBalance ∧ newBalance < INT_MAX then
      let shopId := s.m_maxShopEntry + 1
      let task : Purchase := ⟨request.accountId, request.guidLow, request.itemId, shopId, price⟩
      { s with m_maxShopEntry := shopId, stage := some (.updateCoins task newBalance) }
    else s.finish (.ShopSendBuyResultTask request.accountId "notenoughtokens")
  else s.finish (.ShopSendBuyResultTask request.accountId "notenoughtokens")

def nextRequest (shop : UInt32 → Option UInt32) (s : State) : State :=
  match s.requests with
  | [] => { s with requests := s.m_pendingRequests, m_pendingRequests := [] }
  | request :: rest =>
    let s := { s with requests := rest }
    if request.itemId = 0 then { s with stage := some (.getBalance request none) }
    else match shop request.itemId with
      | none => s.finish (.ShopSendBuyResultTask request.accountId "itemnotinshop")
      | some price => { s with stage := some (.getBalance request (some price)) }

/-- `UPDATE shop_coins SET coins = newBalance`: no row, nothing to update. -/
def updateCoins (f : Int → Int) : State :=
  { s with shop_coins := fun a => if a = accountId then (s.shop_coins a).map f else s.shop_coins a }

def logEntry (task : Purchase) : ShopLogEntry := ⟨task.accountId, task.guidLow, task.itemId, task.price, false⟩

/-- `ProcessRequestsWorker` by one statement. -/
def worker (shop : UInt32 → Option UInt32) (s : State) (ok : Bool) : State :=
  match s.stage with
  | none => s.nextRequest shop
  | some (.getBalance request price) =>
    let (coins, s) := s.getBalance request.accountId ok
    match price with
    | none => s.finish (.ShopSendBalanceTask request.accountId coins)
    | some price => s.buyItem request price coins
  | some (.updateCoins task newBalance) =>
    if ok then
      { s.updateCoins task.accountId fun _ => newBalance with stage := some (.insertLog task newBalance), taken := task :: s.taken }
    else s.finish (.ShopSendBuyResultTask task.accountId "dberrorcantprocess")
  | some (.insertLog task newBalance) =>
    if ok then
      { s with shop_logs := s.shop_logs.insert task.shopId (logEntry task), stage := some (.checkBalance task newBalance) }
    else s.finish (.ShopSendBuyResultTask task.accountId "dberrorcantprocess")
  | some (.checkBalance task newBalance) =>
    let (balance, s) := s.getBalance task.accountId ok
    if balance ≠ newBalance then s.finish (.ShopSendBuyResultTask task.accountId "dberrorcantprocess")
    else
      { s with m_shopLogsLookup := s.m_shopLogsLookup.insert task.shopId (logEntry task) }.finish (.ShopSendItemTask task)

/-! ### The world's tasks -/

/-- `RefundPurchase`, with its assertions. -/
def refundPurchase (task : Purchase) : State :=
  match s.m_shopLogsLookup.lookup task.shopId with
  | none => { s with aborted := true }
  | some entry =>
    if entry.refunded then { s with aborted := true }
    else
      ({ s with m_shopLogsLookup := s.m_shopLogsLookup.insert task.shopId { entry with refunded := true } }.pExecute
        (.giveBack task)).pExecute (.setRefunded task.shopId)

/-- A task is carried out; `hasRoom` says whether `CanStoreNewItem` leaves anything to store. A kick is a logout,
which is a step of its own. -/
def carryOut (hasRoom : Bool) : Task → State
  | .ShopSendBalanceTask accountId balance =>
    if (s.players accountId).isSome && 0 ≤ balance then s.sendAddonMessage accountId ("Balance:" ++ toString balance) else s
  | .ShopSendBuyResultTask accountId message =>
    if (s.players accountId).isSome then s.sendAddonMessage accountId ("BuyResult:" ++ message) else s
  | .ShopSendItemTask task =>
    if s.players task.accountId ≠ some task.guidLow then s.refundPurchase task
    else if hasRoom then { s with delivered := task :: s.delivered }.sendAddonMessage task.accountId "BuyResult:ok"
    else (s.refundPurchase task).sendAddonMessage task.accountId "BuyResult:bagsfulloralreadyhaveitem"

def runTask (i : Nat) (hasRoom : Bool) : State :=
  match s.tasks[i]? with
  | none => s
  | some task => { s with tasks := s.tasks.eraseIdx i }.carryOut hasRoom task

/-! ### The delayed statements -/

def execute : Statement → State
  | .insertCoins accountId =>
    if (s.shop_coins accountId).isSome then s
    else { s with shop_coins := fun a => if a = accountId then some 0 else s.shop_coins a }
  | .giveBack task =>
    if (s.shop_coins task.accountId).isSome then
      { s.updateCoins task.accountId fun coins => coins + task.price.toNat with givenBack := task :: s.givenBack }
    else s
  | .setRefunded shopId =>
    match s.shop_logs.lookup shopId with
    | none => s
    | some entry => { s with shop_logs := s.shop_logs.insert shopId { entry with refunded := true } }

def runDelayed (i : Nat) (ok : Bool) : State :=
  match s.delayed[i]? with
  | none => s
  | some statement =>
    let s := { s with delayed := s.delayed.eraseIdx i }
    if ok then s.execute statement else s

end State

inductive Event
  | requestBalance (accountId : UInt32)
  | requestPurchase (accountId guidLow itemId : UInt32) (eggRefused : Bool)
  | login (accountId guidLow : UInt32)
  | logout (accountId : UInt32)
  | worker (ok : Bool)
  | runTask (i : Nat) (hasRoom : Bool)
  | runDelayed (i : Nat) (ok : Bool)

/-- One step of one of the threads. `shop` has the prices of the items that are sold. -/
def step (shop : UInt32 → Option UInt32) (s : State) : Event → State
  | .requestBalance accountId => s.requestBalance accountId
  | .requestPurchase accountId guidLow itemId eggRefused => s.requestPurchase accountId guidLow itemId eggRefused
  | .login accountId guidLow => { s with players := fun a => if a = accountId then some guidLow else s.players a }
  | .logout accountId => { s with players := fun a => if a = accountId then none else s.players a }
  | .worker ok => s.worker shop ok
  | .runTask i hasRoom => s.runTask i hasRoom
  | .runDelayed i ok => s.runDelayed i ok

/-- The server after the start: the coins and the log as they are in the database, nothing queued. -/
def start (shop_coins : UInt32 → Option Int) (shop_logs : Table Nat ShopLogEntry) (m_maxShopEntry : Nat) : State :=
  ⟨shop_coins, shop_logs, [], [], [], none, m_maxShopEntry, shop_logs, [], fun _ => none, [], false, [], [], []⟩

end ComfyCraft.ShopMgr
