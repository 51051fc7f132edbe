import ComfyCraft.Lib.Runs
import ComfyCraft.Lib.Table

/-! The auction houses. Several house ids may share one house, which keeps its auctions in three maps: by id, by
buyout and by the owner's account. The maps hold addresses, so that a bid is seen through all of them; the items
lie in one map for all houses. Left out are the rows of the `auction` table, what clients are told, and the lock
on a fresh auction for other addresses. -/

namespace ComfyCraft

def MAX_MONEY_AMOUNT : Nat := 0x7FFFFFFE
def MIN_AUCTION_TIME : Nat := 7200

/-- A `uint32` read as an `int32`. -/
def int32 (n : Nat) : Int := if n % 2 ^ 32 < 2 ^ 31 then (n % 2 ^ 32 : Nat) else (n % 2 ^ 32 : Nat) - 2 ^ 32

/-- The difference of two `uint32`. -/
def sub32 (a b : Nat) : Nat := (a + (2 ^ 32 - b % 2 ^ 32)) % 2 ^ 32

structure AuctionEntry where
  id : Nat
  itemGuidLow : Nat
  itemTemplate : Nat
  owner : Nat
  ownerAccount : Nat
  startbid : Nat
  bid : Nat
  buyout : Nat
  expireTime : Nat
  /-- 0 before the first bid. -/
  bidder : Nat
  deposit : Nat
  houseId : Nat

structure AuctionItem where
  entry : Nat
  count : Nat
  maxStackSize : Nat
  sellPrice : Nat
  canBeTraded : Bool
  soulBound : Bool
  conjured : Bool
  duration : Nat

inductive MailAuctionAnswers
  | outbidded
  | won
  | successful
  | expired
  | cancelledToBidder
  | canceled
deriving DecidableEq

inductive AuctionMailBody
  | none
  | won (owner bid buyout : Nat)
  | successful (bidder bid buyout deposit auctionCut : Nat)

structure AuctionMail where
  answer : MailAuctionAnswers
  auction : Nat
  itemTemplate : Nat
  body : AuctionMailBody
  receiver : Nat
  money : Nat
  item : Option Nat

inductive ChargeKind
  | deposit
  | bid
  | cut
deriving DecidableEq

structure AuctionCharge where
  kind : ChargeKind
  auction : Nat
  player : Nat
  amount : Nat

/-- The houses of the server, and what the configured rates make of a deposit, of a cut and of a duration. -/
structure AuctionConfig where
  getAuctionsMap : Nat → Nat
  getAuctionDeposit : Nat → Nat → AuctionItem → Nat
  getAuctionCut : Nat → Nat → Nat
  auctionTime : Nat → Nat
  /-- 0 for no limit. -/
  limit : Nat

structure AuctionWorld where
  online : Nat → Bool
  /-- 0 for a character that does not exist. -/
  accountByGuid : Nat → Nat
  hardcore : Nat → Bool
  time : Nat

structure AuctionPlayer where
  guid : Nat
  guid_ne : guid ≠ 0
  accountId : Nat
  suspicious : Bool
  mayTrade : Bool
  houseId : Option Nat

structure SellRequest where
  itemGuid : Nat
  bid : Nat
  buyout : Nat
  etime : Nat
  item : Option AuctionItem
  bankPos : Bool

inductive AuctionError
  | ok
  | inventory
  | database
  | notEnoughMoney
  | itemNotFound
  | higherBid
  | bidIncrement
  | bidOwn
deriving DecidableEq

structure AuctionHouseObject where
  auctionsMap : Table Nat Nat
  orderedAuctionMap : List (Nat × Nat)
  accountAuctionMap : List (Nat × Nat)

/-- The houses, the entries by their addresses, the items, the ids in use, and the players' money. The auctions
are listed as they were opened, the place of each being its address, and so are the mails and the charges. -/
structure AuctionMgr where
  houses : Nat → AuctionHouseObject
  entries : Table Nat AuctionEntry
  opened : List AuctionEntry
  aItems : Table Nat AuctionItem
  auctionIds : List Nat
  nextAuctionId : Nat
  money : Table Nat Nat
  mails : List AuctionMail
  charges : List AuctionCharge

namespace AuctionEntry

/-- One hundredth of the bid, five times; 1 for a small bid. -/
def getAuctionOutBid (e : AuctionEntry) : Nat := if e.bid / 100 * 5 = 0 then 1 else e.bid / 100 * 5

end AuctionEntry

namespace AuctionHouseObject

def empty : AuctionHouseObject := ⟨∅, [], []⟩

def addAuction (h : AuctionHouseObject) (ptr : Nat) (e : AuctionEntry) : AuctionHouseObject where
  auctionsMap := h.auctionsMap.insert e.id ptr
  orderedAuctionMap := h.orderedAuctionMap ++ [(e.buyout, ptr)]
  accountAuctionMap := h.accountAuctionMap ++ [(e.ownerAccount, ptr)]

/-- In the price map and in the account map the first of its range with the id goes. -/
def removeAuction (h : AuctionHouseObject) (idOf : Nat → Option Nat) (e : AuctionEntry) : AuctionHouseObject where
  auctionsMap := h.auctionsMap.erase e.id
  orderedAuctionMap := h.orderedAuctionMap.eraseP fun x => x.1 = e.buyout && idOf x.2 = some e.id
  accountAuctionMap := h.accountAuctionMap.eraseP fun x => x.1 = e.ownerAccount && idOf x.2 = some e.id

def getAccountAuctionCount (h : AuctionHouseObject) (accountId : Nat) : Nat :=
  (h.accountAuctionMap.filter fun x => x.1 = accountId).length

end AuctionHouseObject

namespace AuctionMgr

def empty (money : Table Nat Nat) (nextAuctionId : Nat) : AuctionMgr :=
  ⟨fun _ => AuctionHouseObject.empty, ∅, [], ∅, [], nextAuctionId, money, [], []⟩

def skipUsed : List Nat → Nat → Nat
  | [], next => next
  | id :: ids, next => if id = next then skipUsed ids ((next + 1) % 2 ^ 32) else next

variable (s : AuctionMgr)

/-- `GenerateAuctionID`: the ids in use from the next one on are skipped. -/
def generateAuctionID : Nat :=
  skipUsed ((s.auctionIds.filter fun id => s.nextAuctionId ≤ id).insertionSort (· ≤ ·)) s.nextAuctionId

/-- `ModifyMoney`, within the limits of a purse. -/
def modified (money : Nat) (d : Int) : Nat :=
  if d < 0 then (if money > d.natAbs then money - d.natAbs else 0)
  else if money < MAX_MONEY_AMOUNT - d.natAbs then money + d.natAbs else MAX_MONEY_AMOUNT

def modifyMoney (guid : Nat) (d : Int) : AuctionMgr :=
  { s with
    money := match s.money.lookup guid with
      | none => s.money
      | some money => s.money.insert guid (modified money d) }

def charge (kind : ChargeKind) (ptr guid amount : Nat) : AuctionMgr :=
  let s := s.modifyMoney guid (-int32 amount)
  { s with charges := s.charges ++ [⟨kind, ptr, guid, amount⟩] }

def send (mail : AuctionMail) : AuctionMgr := { s with mails := s.mails ++ [mail] }

def getAuction (h id : Nat) : Option (Nat × AuctionEntry) :=
  ((s.houses h).auctionsMap.lookup id).bind fun ptr => (s.entries.lookup ptr).map fun e => (ptr, e)

def removeAItem (guid : Nat) : AuctionMgr := { s with aItems := s.aItems.erase guid }

def setHouse (h : Nat) (house : AuctionHouseObject) : AuctionMgr :=
  { s with houses := fun h' => if h' = h then house else s.houses h' }

/-- `RemoveAuction`; the id is free again if the house had it. -/
def removeAuction (h : Nat) (e : AuctionEntry) : AuctionMgr :=
  let house := s.houses h
  { s.setHouse h (house.removeAuction (fun ptr => (s.entries.lookup ptr).map AuctionEntry.id) e) with
    auctionIds := if (house.auctionsMap.lookup e.id).isSome then s.auctionIds.filter (· ≠ e.id) else s.auctionIds }

/-- What every end of an auction but one comes to: item, auction and entry go. -/
def close (h ptr : Nat) (e : AuctionEntry) : AuctionMgr :=
  let s := (s.removeAItem e.itemGuidLow).removeAuction h e
  { s with entries := s.entries.erase ptr }

end AuctionMgr

namespace AuctionWorld

/-- A mail reaches its receiver: the character exists, and is not a hardcore one. -/
def reaches (w : AuctionWorld) (guid : Nat) : Bool := (w.online guid || w.accountByGuid guid ≠ 0) && !w.hardcore guid

end AuctionWorld

end ComfyCraft
