import ComfyCraft.AuctionHouse.Model

/-! What players and the clock do to the auction houses: an item is put up, bid on, bought out or taken back, an
auction runs out, and all auctions of a player are removed. Each handler makes its checks first. -/

namespace ComfyCraft

namespace AuctionMgr

variable (cfg : AuctionConfig)

/-! Mails. -/

variable (s : AuctionMgr) (w : AuctionWorld) (p : AuctionPlayer) (e : AuctionEntry)

def sendAuctionOutbiddedMail (ptr : Nat) (e : AuctionEntry) : AuctionMgr :=
  if w.reaches e.bidder then s.send ⟨.outbidded, ptr, e.itemTemplate, .none, e.bidder, e.bid, none⟩ else s

def sendAuctionCancelledToBidderMail (ptr : Nat) (e : AuctionEntry) : AuctionMgr :=
  if w.reaches e.bidder then s.send ⟨.cancelledToBidder, ptr, e.itemTemplate, .none, e.bidder, e.bid, none⟩ else s

def sendAuctionSuccessfulMail (ptr : Nat) (e : AuctionEntry) : AuctionMgr :=
  let auctionCut := cfg.getAuctionCut e.houseId e.bid
  if w.reaches e.owner then
    s.send ⟨.successful, ptr, e.itemTemplate, .successful e.bidder e.bid e.buyout e.deposit auctionCut, e.owner,
      sub32 (e.bid + e.deposit) auctionCut, none⟩
  else s

def sendItem (mail : AuctionMail) : AuctionMgr :=
  match s.aItems.lookup e.itemGuidLow with
  | none => s
  | some _ =>
    if w.reaches mail.receiver then
      (if w.online mail.receiver then s else s.removeAItem e.itemGuidLow).send { mail with item := some e.itemGuidLow }
    else s.removeAItem e.itemGuidLow

def sendAuctionWonMail (ptr : Nat) (e : AuctionEntry) : AuctionMgr :=
  s.sendItem w e ⟨.won, ptr, e.itemTemplate, .won e.owner e.bid e.buyout, e.bidder, 0, none⟩

def sendAuctionExpiredMail (ptr : Nat) (e : AuctionEntry) : AuctionMgr :=
  s.sendItem w e ⟨.expired, ptr, e.itemTemplate, .none, e.owner, 0, none⟩

def settle (ptr : Nat) (e : AuctionEntry) : AuctionMgr :=
  (s.sendAuctionSuccessfulMail cfg w ptr e).sendAuctionWonMail w ptr e

/-! `HandleAuctionSellItem`. -/

structure Sale where
  houseId : Nat
  item : AuctionItem
  deposit : Nat

def sellChecks (r : SellRequest) : Except (Option AuctionError) Sale :=
  let etime := r.etime * 60 % 2 ^ 32
  if r.bid = 0 ∨ r.etime = 0 ∨ p.suspicious then .error none
  else if r.bid > 2000000000 ∨ r.buyout > 2000000000 then .error none
  else if r.buyout ≠ 0 ∧ r.bid > r.buyout then .error none
  else if !p.mayTrade then .error none
  else match p.houseId with
    | none => .error none
    | some houseId =>
      if cfg.limit ≠ 0 ∧ (s.houses (cfg.getAuctionsMap houseId)).getAccountAuctionCount p.accountId ≥ cfg.limit then
        .error (some .database)
      else if etime ≠ 1 * MIN_AUCTION_TIME ∧ etime ≠ 4 * MIN_AUCTION_TIME ∧ etime ≠ 12 * MIN_AUCTION_TIME then .error none
      else if r.itemGuid = 0 then .error none
      else if (s.aItems.lookup r.itemGuid).isSome then .error (some .inventory)
      else match r.item, s.money.lookup p.guid with
        | none, _ => .error (some .inventory)
        | _, none => .error none
        | some it, some money =>
          if r.bankPos then .error (some .inventory)
          else if !it.canBeTraded ∨ it.soulBound then .error (some .inventory)
          else if it.conjured ∨ it.duration ≠ 0 then .error (some .inventory)
          else
            let deposit := cfg.getAuctionDeposit houseId etime it
            if money < deposit then .error (some .notEnoughMoney) else .ok ⟨houseId, it, deposit⟩

def newEntry (r : SellRequest) (sale : Sale) : AuctionEntry where
  id := s.generateAuctionID
  itemGuidLow := r.itemGuid
  itemTemplate := sale.item.entry
  owner := p.guid
  ownerAccount := p.accountId
  startbid := r.bid
  bid := 0
  buyout := r.buyout
  expireTime := w.time + cfg.auctionTime (r.etime * 60 % 2 ^ 32)
  bidder := 0
  deposit := sale.deposit
  houseId := sale.houseId

def openAuction (item : AuctionItem) : AuctionMgr :=
  let ptr := s.opened.length
  let s := s.charge .deposit ptr e.owner e.deposit
  let h := cfg.getAuctionsMap e.houseId
  { s.setHouse h ((s.houses h).addAuction ptr e) with
    entries := s.entries.insert ptr e
    opened := s.opened ++ [e]
    aItems := s.aItems.insert e.itemGuidLow item
    auctionIds := e.id :: s.auctionIds
    nextAuctionId := (e.id + 1) % 2 ^ 32 }

def handleAuctionSellItem (r : SellRequest) :
    AuctionMgr × Option AuctionError :=
  match s.sellChecks cfg p r with
  | .error e => (s, e)
  | .ok sale => (s.openAuction cfg (s.newEntry cfg w p r sale) sale.item, some .ok)

/-! `HandleAuctionPlaceBid`. -/

def isBid (price : Nat) : Bool := price < e.buyout || e.buyout = 0

structure Bid where
  h : Nat
  ptr : Nat
  e : AuctionEntry

def bidChecks (auctionId price : Nat) :
    Except (Option AuctionError) Bid :=
  if !p.mayTrade then .error none
  else if auctionId = 0 ∨ price = 0 then .error none
  else match p.houseId with
    | none => .error none
    | some houseId =>
      if p.suspicious then .error none
      else match s.getAuction (cfg.getAuctionsMap houseId) auctionId, s.money.lookup p.guid with
        | none, _ => .error (some .itemNotFound)
        | _, none => .error none
        | some (ptr, e), some money =>
          if e.owner = p.guid then .error (some .bidOwn)
          else if !w.online e.owner ∧ w.accountByGuid e.owner = p.accountId then .error (some .bidOwn)
          else if price < e.startbid then .error none
          else if price ≤ e.bid then .error (some .higherBid)
          else if isBid e price ∧ price < (e.bid + e.getAuctionOutBid) % 2 ^ 32 then .error (some .bidIncrement)
          else if price > money then .error none
          else .ok ⟨cfg.getAuctionsMap houseId, ptr, e⟩

/-- The new highest bidder pays, the difference on a bid of their own; the old one has the bid back. -/
def takeBid (ptr : Nat) (e : AuctionEntry) (guid amount : Nat) : AuctionMgr :=
  let paid :=
    if guid = e.bidder then s.charge .bid ptr guid (sub32 amount e.bid)
    else
      let s := s.charge .bid ptr guid amount
      if e.bidder ≠ 0 then s.sendAuctionOutbiddedMail w ptr e else s
  { paid with entries := paid.entries.insert ptr { e with bidder := guid, bid := amount } }

def handleAuctionPlaceBid (auctionId price : Nat) :
    AuctionMgr × Option AuctionError :=
  match s.bidChecks cfg w p auctionId price with
  | .error e => (s, e)
  | .ok b =>
    if isBid b.e price then (s.takeBid w b.ptr b.e p.guid price, some .ok)
    else
      let bought := { b.e with bidder := p.guid, bid := b.e.buyout }
      (((s.takeBid w b.ptr b.e p.guid b.e.buyout).settle cfg w b.ptr bought).close b.h b.ptr bought, some .ok)

/-! `HandleAuctionRemoveItem`. -/

/-- A bidder has the bid back before the owner is charged the cut; an owner who cannot pay it keeps the auction. -/
def handleAuctionRemoveItem (auctionId : Nat) :
    AuctionMgr × Option AuctionError :=
  match p.houseId with
  | none => (s, none)
  | some houseId =>
    match (s.getAuction (cfg.getAuctionsMap houseId) auctionId).filter fun a => a.2.owner = p.guid with
    | none => (s, some .database)
    | some (ptr, e) =>
      match s.aItems.lookup e.itemGuidLow, s.money.lookup p.guid with
      | none, _ => (s, some .inventory)
      | _, none => (s, none)
      | some _, some money =>
        let auctionCut := cfg.getAuctionCut e.houseId e.bid
        let mail : AuctionMail := ⟨.canceled, ptr, e.itemTemplate, .none, p.guid, 0, some e.itemGuidLow⟩
        if e.bidder > 0 then
          if money < auctionCut then (s, none)
          else
            let s := (s.sendAuctionCancelledToBidderMail w ptr e).charge .cut ptr p.guid auctionCut
            ((s.send mail).close (cfg.getAuctionsMap houseId) ptr e, some .ok)
        else ((s.send mail).close (cfg.getAuctionsMap houseId) ptr e, some .ok)

/-! `AuctionHouseObject::Update` and `RemoveAllAuctions`. -/

def inOrder (h : Nat) : List Nat :=
  ((s.houses h).auctionsMap.entries.insertionSort fun a b => a.1 ≤ b.1).map (·.2)

def expire (h ptr : Nat) : AuctionMgr :=
  match s.entries.lookup ptr with
  | none => s
  | some e =>
    if w.time > e.expireTime then
      (if e.bidder = 0 then s.sendAuctionExpiredMail w ptr e else s.settle cfg w ptr e).close h ptr e
    else s

def update (h : Nat) : AuctionMgr :=
  (s.inOrder h).foldl (fun s ptr => s.expire cfg w h ptr) s

def auctionsOf (h guid accountId : Nat) : List AuctionEntry :=
  ((s.houses h).accountAuctionMap.filter fun x => x.1 = accountId).filterMap fun x =>
    (s.entries.lookup x.2).filter fun e => e.owner = guid

def removeAllAuctions (h guid accountId : Nat) : AuctionMgr :=
  (s.auctionsOf h guid accountId).foldl (fun s e => s.removeAuction h e) s

end AuctionMgr

inductive AuctionStep
  | sell (w : AuctionWorld) (p : AuctionPlayer) (r : SellRequest)
  | placeBid (w : AuctionWorld) (p : AuctionPlayer) (auctionId price : Nat)
  | removeItem (w : AuctionWorld) (p : AuctionPlayer) (auctionId : Nat)
  | update (w : AuctionWorld) (h : Nat)
  | removeAll (h guid accountId : Nat)

namespace AuctionMgr

def step (cfg : AuctionConfig) (s : AuctionMgr) : AuctionStep → AuctionMgr
  | .sell w p r => (s.handleAuctionSellItem cfg w p r).1
  | .placeBid w p auctionId price => (s.handleAuctionPlaceBid cfg w p auctionId price).1
  | .removeItem w p auctionId => (s.handleAuctionRemoveItem cfg w p auctionId).1
  | .update w h => s.update cfg w h
  | .removeAll h guid accountId => s.removeAllAuctions h guid accountId

end AuctionMgr

end ComfyCraft
