import ComfyCraft.AuctionHouse.Bids

/-! Every step keeps the books, while whoever money is due to can be reached, no cut is larger than what it is
taken from, and no auction with a bid is removed together with the player's others. -/

namespace ComfyCraft

open List Nat Bool Relation

namespace AuctionMgr

variable {cfg : AuctionConfig} {s s' : AuctionMgr} {w : AuctionWorld} {h ptr : Nat} {e : AuctionEntry}

/-! An auction is sold, runs out or is cancelled. -/

def successfulMail (cfg : AuctionConfig) (ptr : Nat) (e : AuctionEntry) : AuctionMail :=
  ⟨.successful, ptr, e.itemTemplate, .successful e.bidder e.bid e.buyout e.deposit (cfg.getAuctionCut e.houseId e.bid), e.owner,
    sub32 (e.bid + e.deposit) (cfg.getAuctionCut e.houseId e.bid), none⟩

def wonMail (ptr : Nat) (e : AuctionEntry) : AuctionMail :=
  ⟨.won, ptr, e.itemTemplate, .won e.owner e.bid e.buyout, e.bidder, 0, some e.itemGuidLow⟩

theorem sendItem_money (s : AuctionMgr) (w : AuctionWorld) (e : AuctionEntry) (mail : AuctionMail) :
    (s.sendItem w e mail).money = s.money ∧ (s.sendItem w e mail).charges = s.charges := by
  unfold sendItem
  split
  · exact ⟨rfl, rfl⟩
  split
  · split <;> exact ⟨rfl, rfl⟩
  · exact ⟨rfl, rfl⟩

theorem settle_money (cfg : AuctionConfig) (s : AuctionMgr) (w : AuctionWorld) (ptr : Nat) (e : AuctionEntry) :
    (s.settle cfg w ptr e).money = s.money ∧ (s.settle cfg w ptr e).charges = s.charges := by
  have hpaid : (s.sendAuctionSuccessfulMail cfg w ptr e).money = s.money ∧
      (s.sendAuctionSuccessfulMail cfg w ptr e).charges = s.charges := by
    unfold sendAuctionSuccessfulMail
    split <;> exact ⟨rfl, rfl⟩
  obtain ⟨hmoney, hcharges⟩ := (s.sendAuctionSuccessfulMail cfg w ptr e).sendItem_money w e
    ⟨.won, ptr, e.itemTemplate, .won e.owner e.bid e.buyout, e.bidder, 0, none⟩
  exact ⟨hmoney.trans hpaid.1, hcharges.trans hpaid.2⟩

theorem settle_eq (cfg : AuctionConfig) (ptr : Nat) (hitem : (s.aItems.lookup e.itemGuidLow).isSome)
    (howner : w.reaches e.owner = true) (hbidder : w.reaches e.bidder = true) :
    (s.settle cfg w ptr e).mails = s.mails ++ [successfulMail cfg ptr e, wonMail ptr e] := by
  have hpaid : s.sendAuctionSuccessfulMail cfg w ptr e = s.send (successfulMail cfg ptr e) := if_pos howner
  unfold settle sendAuctionWonMail
  rw [hpaid, sendItem_mails (s := s.send (successfulMail cfg ptr e)) hitem hbidder]
  exact append_assoc _ _ _

/-- What a sale needs to be paid out: everybody can be reached, and the cut is within the money. -/
structure Payable (cfg : AuctionConfig) (s : AuctionMgr) (w : AuctionWorld) (e : AuctionEntry) : Prop where
  item : (s.aItems.lookup e.itemGuidLow).isSome
  owner : w.reaches e.owner = true
  bidder : w.reaches e.bidder = true
  bidder_ne : e.bidder ≠ 0
  cut : cfg.getAuctionCut e.houseId e.bid ≤ e.bid + e.deposit

theorem paid_successful (hopened : s.opened[ptr]? = some e.fresh) (hbid : e.bid ≤ MAX_MONEY_AMOUNT)
    (hdeposit : e.deposit ≤ MAX_MONEY_AMOUNT) (hcut : cfg.getAuctionCut e.houseId e.bid ≤ e.bid + e.deposit) :
    Paid s.opened (successfulMail cfg ptr e) := by
  refine ⟨e.fresh, hopened, rfl, rfl, ?_⟩
  unfold MAX_MONEY_AMOUNT at hbid hdeposit
  show sub32 (e.bid + e.deposit) (cfg.getAuctionCut e.houseId e.bid) + cfg.getAuctionCut e.houseId e.bid = e.bid + e.deposit
  rw [sub32_of_le hcut (by omega)]
  omega

theorem Booked.settle (hb : s.Booked cfg) (hs : s.Coherent cfg) (hheld : s.Held h ptr e) (hpay : s.Payable cfg w e) :
    ((s.settle cfg w ptr e).close h ptr e).Booked cfg := by
  have hst := hb.up h ptr e hheld
  have hopened := (hs.listed hheld).1.1
  obtain ⟨hmoney, hcharges⟩ := s.settle_money cfg w ptr e
  apply hb.close hs hheld (s.settle_store cfg w ptr e).1 hmoney hcharges (settle_eq cfg ptr hpay.item hpay.owner hpay.bidder)
  · intro m hm
    rcases mem_pair.1 hm with rfl | rfl
    · rfl
    · rfl
  · have hrefunds : refundsIn [successfulMail cfg ptr e, wonMail ptr e] ptr = [] := by
      unfold refundsIn
      rw [filterMap_eq_nil_iff]
      intro m hm
      rcases mem_pair.1 hm with rfl | rfl
      · exact if_neg fun hp => hp.2.elim nofun nofun
      · exact if_neg fun hp => hp.2.elim nofun nofun
    have hsales : salesIn [successfulMail cfg ptr e, wonMail ptr e] ptr = [(e.bidder, e.bid)] := by
      simp [salesIn, saleBid, successfulMail, wonMail]
    rw [hrefunds, hsales, standing, if_neg hpay.bidder_ne, nil_append]
  · intro m hm
    rcases mem_pair.1 hm with rfl | rfl
    · exact paid_successful hopened hst.bid_le hst.deposit_le hpay.cut
    · trivial

/-- A mail brings an item back to its owner. -/
structure SendsBack (s s' : AuctionMgr) (ptr : Nat) (e : AuctionEntry) (mail : AuctionMail) : Prop where
  store : SameStore s s'
  items : ∀ g, g ≠ e.itemGuidLow → s'.aItems.lookup g = s.aItems.lookup g
  purses : s'.money = s.money
  charges : s'.charges = s.charges
  mails : s'.mails = s.mails ++ [mail]
  own : mail.auction = ptr
  body : mail.body = .none
  money : mail.money = 0
  answer : mail.answer = .expired ∨ mail.answer = .canceled

theorem sendsBack_expired (s : AuctionMgr) (ptr : Nat) (hitem : (s.aItems.lookup e.itemGuidLow).isSome)
    (hreach : w.reaches e.owner = true) :
    SendsBack s (s.sendAuctionExpiredMail w ptr e) ptr e
      ⟨.expired, ptr, e.itemTemplate, .none, e.owner, 0, some e.itemGuidLow⟩ := by
  obtain ⟨hsame, hitems⟩ := s.sendItem_store w e ⟨.expired, ptr, e.itemTemplate, .none, e.owner, 0, none⟩
  obtain ⟨hmoney, hcharges⟩ := s.sendItem_money w e ⟨.expired, ptr, e.itemTemplate, .none, e.owner, 0, none⟩
  exact ⟨hsame, hitems, hmoney, hcharges, sendItem_mails hitem hreach, rfl, rfl, rfl, .inl rfl⟩

theorem Booked.sendBack (hb : s.Booked cfg) (hs : s.Coherent cfg) (hheld : s.Held h ptr e) (hzero : e.bidder = 0)
    {mail : AuctionMail} (hback : SendsBack s s' ptr e mail) : (s'.close h ptr e).Booked cfg := by
  apply hb.close hs hheld hback.store hback.purses hback.charges hback.mails
  · intro m hm
    rw [mem_singleton.1 hm]
    exact hback.own
  · have hrefunds : refundsIn [mail] ptr = [] := by
      refine filterMap_cons_none (if_neg ?_)
      rintro ⟨-, hrefund⟩
      rcases hback.answer with hm | hm <;> rw [hm] at hrefund <;> exact hrefund.elim nofun nofun
    have hsales : salesIn [mail] ptr = [] := by
      refine filterMap_cons_none ?_
      rw [if_pos hback.own, saleBid, hback.body]
    rw [hrefunds, hsales, standing, if_pos hzero]
    rfl
  · intro m hm
    rw [mem_singleton.1 hm, Paid, hback.body]
    trivial

theorem Coherent.charge (hs : s.Coherent cfg) (kind : ChargeKind) (ptr guid x : Nat) : (s.charge kind ptr guid x).Coherent cfg :=
  hs.transfer rfl rfl rfl hs.entries hs.kept hs.items

theorem Booked.charge (hb : s.Booked cfg) (hs : s.Coherent cfg) (hheld : s.Held h ptr e) (kind : ChargeKind)
    (hkind : kind ≠ .bid) (guid x : Nat) : (s.charge kind ptr guid x).Booked cfg := by
  have htouch : Touch cfg ptr [] s (s.charge kind ptr guid x) := by
    constructor
    · exact prefix_refl _
    · exact fun _ _ hp => hp
    · exact (hs.listed hheld).1.lt
    · exact fun _ _ _ _ hp => hp
    · exact fun _ _ _ hl => hl
    · refine ⟨_, rfl, ?_⟩
      intro c hc
      rw [mem_singleton.1 hc]
    · exact charge_purses hb.purses kind ptr guid x
    · exact fun _ => s.charge_players kind ptr guid x
    · exact (append_nil _).symm
    · exact fun _ hm => (not_mem_nil hm).elim
  have hbids : (s.charge kind ptr guid x).bids ptr = s.bids ptr := by
    rw [bids_charge, if_neg fun hp => hkind hp.1, append_nil]
  apply hb.touch htouch
  · exact fun _ hm => (not_mem_nil hm).elim
  · intro h' e' hheld'
    have hst := hb.up h' ptr e' hheld'
    refine ⟨hst.bid_le, hst.deposit_le, hst.below, htouch.players _ hst.owner, fun hne => htouch.players _ (hst.bidder hne),
      ?_, hst.sales, ?_⟩
    · rw [hbids]
      exact hst.unbid
    · rw [hbids]
      exact hst.stakes
  · intro e' he' hgone
    rw [hbids]
    exact hb.ended ptr e' he' hgone

/-- The bidder has the bid back, the owner pays the cut and has the item back. -/
def canceled (s : AuctionMgr) (w : AuctionWorld) (ptr : Nat) (e : AuctionEntry) (guid auctionCut : Nat) : AuctionMgr :=
  ((s.sendAuctionCancelledToBidderMail w ptr e).charge .cut ptr guid auctionCut).send
    ⟨.canceled, ptr, e.itemTemplate, .none, guid, 0, some e.itemGuidLow⟩

theorem canceled_store (s : AuctionMgr) (w : AuctionWorld) (ptr : Nat) (e : AuctionEntry) (guid auctionCut : Nat) :
    SameStore s (s.canceled w ptr e guid auctionCut) ∧ (s.canceled w ptr e guid auctionCut).aItems = s.aItems := by
  obtain ⟨hsame, hitems⟩ := s.sendCancelled_store w ptr e
  exact ⟨⟨hsame.houses, hsame.entries, hsame.opened, hsame.auctionIds, hsame.nextAuctionId⟩, hitems⟩

theorem canceled_mails (s : AuctionMgr) (ptr : Nat) (hreach : w.reaches e.bidder = true) (guid auctionCut : Nat) :
    (s.canceled w ptr e guid auctionCut).mails = s.mails ++
      [⟨.cancelledToBidder, ptr, e.itemTemplate, .none, e.bidder, e.bid, none⟩,
        ⟨.canceled, ptr, e.itemTemplate, .none, guid, 0, some e.itemGuidLow⟩] := by
  have hsent : s.sendAuctionCancelledToBidderMail w ptr e =
      s.send ⟨.cancelledToBidder, ptr, e.itemTemplate, .none, e.bidder, e.bid, none⟩ := if_pos hreach
  unfold canceled
  rw [hsent]
  exact append_assoc _ _ _

theorem canceled_money (s : AuctionMgr) (w : AuctionWorld) (ptr : Nat) (e : AuctionEntry) (guid auctionCut : Nat) :
    (s.canceled w ptr e guid auctionCut).money = (s.charge .cut ptr guid auctionCut).money ∧
      (s.canceled w ptr e guid auctionCut).charges = (s.charge .cut ptr guid auctionCut).charges := by
  unfold canceled sendAuctionCancelledToBidderMail
  split <;> exact ⟨rfl, rfl⟩

theorem Booked.cancel (hb : s.Booked cfg) (hs : s.Coherent cfg) (hheld : s.Held h ptr e) (hbidder : e.bidder ≠ 0)
    (hreach : w.reaches e.bidder = true) (guid auctionCut : Nat) :
    ((s.canceled w ptr e guid auctionCut).close h ptr e).Booked cfg := by
  have hfee := hb.charge hs hheld .cut (by decide) guid auctionCut
  obtain ⟨hmoney, hcharges⟩ := s.canceled_money w ptr e guid auctionCut
  obtain ⟨hsame, -⟩ := s.canceled_store w ptr e guid auctionCut
  apply hfee.close (hs.charge .cut ptr guid auctionCut) hheld ?_ hmoney hcharges (s.canceled_mails ptr hreach guid auctionCut)
  · intro m hm
    rcases mem_pair.1 hm with rfl | rfl
    · rfl
    · rfl
  · simp [refundsIn, salesIn, saleBid, standing, hbidder]
  · intro m hm
    rcases mem_pair.1 hm with rfl | rfl
    · trivial
    · trivial
  · exact ⟨hsame.houses, hsame.entries, hsame.opened, hsame.auctionIds, hsame.nextAuctionId⟩

/-! An auction is removed and nothing else is done about it. -/

theorem Coherent.held_before (hs' : s'.Coherent cfg) {h' p : Nat} {e' : AuctionEntry} (hp : s'.Held h' p e')
    (hentry : s.entries.lookup p = some e') (hl : s.Listed cfg p e'.fresh) : s.Held h' p e' := by
  have hhouse : cfg.getAuctionsMap e'.fresh.houseId = h' := (hs'.listed hp).2
  have hlookup := hl.2
  rw [hhouse] at hlookup
  exact ⟨hentry, hlookup⟩

theorem Booked.removeAuction (hb : s.Booked cfg) (hs : s.Coherent cfg) (hheld : s.Held h ptr e) (hzero : e.bidder = 0) :
    (s.removeAuction h e).Booked cfg := by
  have hlisted := hs.listed_removeAuction hheld
  have htouch : Touch cfg ptr [] s (s.removeAuction h e) := by
    constructor
    · exact prefix_refl _
    · exact fun _ _ hp => hp
    · exact (hs.listed hheld).1.lt
    · intro h' p e' hne hp
      have hs' := hs.removeAuction hheld
      exact hs'.held_before hp hp.1 ((hlisted p e'.fresh).1 (hs'.listed hp).1).1
    · exact fun p e' hne hl => (hlisted p e').2 ⟨hl, hne⟩
    · exact ⟨[], (append_nil _).symm, fun _ hc => (not_mem_nil hc).elim⟩
    · exact hb.purses
    · exact fun _ hg => hg
    · exact (append_nil _).symm
    · exact fun _ hm => (not_mem_nil hm).elim
  have hst := hb.up h ptr e hheld
  apply hb.touch htouch
  · exact fun _ hm => (not_mem_nil hm).elim
  · intro h' e' hp
    obtain ⟨hl, -⟩ := (hs.removeAuction hheld).listed hp
    exact absurd rfl ((hlisted ptr e'.fresh).1 hl).2
  · intro e' _ _
    have hstakes := hst.stakes
    rw [standing, if_pos hzero, append_nil] at hstakes
    have hnone : (s.removeAuction h e).sales ptr = [] := hst.sales
    rw [hnone, append_nil]
    exact ⟨hstakes, zero_le _⟩

/-! An auction is opened. -/

theorem Booked.openAuction (hb : s.Booked cfg) (hs : s.Coherent cfg) {item : AuctionItem} (hid : e.id ∉ s.auctionIds)
    (hitem : s.aItems.lookup e.itemGuidLow = none) (hfresh : e.fresh = e) (hdeposit : e.deposit ≤ MAX_MONEY_AMOUNT)
    (howner : (s.money.lookup e.owner).isSome) : (s.openAuction cfg e item).Booked cfg := by
  have hlisted := listed_openAuction hs item hid
  have hopened : (s.openAuction cfg e item).opened = s.opened ++ [e] := rfl
  have hentries : (s.openAuction cfg e item).entries = s.entries.insert s.opened.length e := rfl
  have hbid : e.bid = 0 := by
    rw [← hfresh]
    rfl
  have hbidder : e.bidder = 0 := by
    rw [← hfresh]
    rfl
  have htouch : Touch cfg s.opened.length [] s (s.openAuction cfg e item) := by
    constructor
    · exact prefix_append _ _
    · intro p hne hp
      rw [hopened, length_append, length_singleton] at hp
      omega
    · rw [hopened, length_append, length_singleton]
      exact lt_succ_self _
    · intro h p e' hne hp
      have hs' := hs.openAuction item hid hitem hfresh
      have hentry := hp.1
      rw [hentries, AList.lookup_insert_ne hne] at hentry
      rcases (hlisted p e'.fresh).1 (hs'.listed hp).1 with hl | ⟨heq, -⟩
      · exact hs'.held_before hp hentry hl
      · exact absurd heq hne
    · exact fun p e' _ hl => (hlisted p e').2 (.inl hl)
    · refine ⟨_, rfl, ?_⟩
      intro c hc
      rw [mem_singleton.1 hc]
    · exact charge_purses hb.purses .deposit s.opened.length e.owner e.deposit
    · exact fun _ => s.charge_players .deposit s.opened.length e.owner e.deposit
    · exact (append_nil _).symm
    · exact fun _ hm => (not_mem_nil hm).elim
  -- Nothing was said of the new address before.
  have hbids : (s.openAuction cfg e item).bids s.opened.length = [] := by
    show (s.charge .deposit s.opened.length e.owner e.deposit).bids s.opened.length = []
    rw [bids_charge, if_neg nofun, append_nil]
    unfold bids
    rw [filterMap_eq_nil_iff]
    exact fun c hc => if_neg fun hp => Nat.ne_of_lt (hb.charges_lt c hc) hp.2
  have hrefunds : (s.openAuction cfg e item).refunds s.opened.length = [] :=
    refundsIn_other fun m hm => Nat.ne_of_lt (hb.mails_lt m hm)
  have hsales : (s.openAuction cfg e item).sales s.opened.length = [] :=
    salesIn_other fun m hm => Nat.ne_of_lt (hb.mails_lt m hm)
  apply hb.touch htouch
  · exact fun _ hm => (not_mem_nil hm).elim
  · rintro h e' ⟨hentry, -⟩
    rw [hentries, AList.lookup_insert] at hentry
    obtain rfl := Option.some.inj hentry
    refine ⟨hbid ▸ zero_le _, hdeposit, .inr (hbid ▸ zero_le _), htouch.players _ howner,
      fun hne => absurd hbidder hne, fun _ => ⟨hbid, hbids⟩, hsales, ?_⟩
    rw [hbids, hrefunds, standing, if_pos hbidder]
    rfl
  · intro e' he' hgone
    have hnew : (s.openAuction cfg e item).Listed cfg s.opened.length e := (hlisted _ e).2 (.inr ⟨rfl, rfl⟩)
    have heq : e = e' := Option.some.inj (hnew.1.symm.trans he')
    subst heq
    exact absurd hnew hgone

/-! The steps. -/

/-- Whoever has a purse gets their mail. -/
def AllReached (s : AuctionMgr) (w : AuctionWorld) : Prop := ∀ guid, (s.money.lookup guid).isSome → w.reaches guid = true

/-- The players of a step exist, and none is a hardcore one. -/
def Reliable (s : AuctionMgr) : AuctionStep → Prop
  | .placeBid w _ _ _ => s.AllReached w
  | .removeItem w _ _ => s.AllReached w
  | .update w _ => s.AllReached w
  | _ => True

/-- What keeps the books: ids that do not come round, cuts within the money they are taken from, and no auction
with a bid removed together with all auctions of its owner. -/
def BidsKept (cfg : AuctionConfig) (s : AuctionMgr) (a : AuctionStep) : Prop :=
  s.NewId cfg a ∧
  match a with
  | .placeBid w p auctionId price => ∀ b, s.bidChecks cfg w p auctionId price = .ok b → isBid b.e price = false →
      cfg.getAuctionCut b.e.houseId b.e.buyout ≤ b.e.buyout + b.e.deposit
  | .update w h => ∀ ptr e, s.Held h ptr e → w.time > e.expireTime → e.bidder ≠ 0 →
      cfg.getAuctionCut e.houseId e.bid ≤ e.bid + e.deposit
  | .removeAll h guid accountId => ∀ e ∈ s.auctionsOf h guid accountId, e.bidder = 0
  | _ => True

/-- What a step comes to, one after another. -/
inductive Move (cfg : AuctionConfig) (s : AuctionMgr) : AuctionMgr → Prop
  | opened {e : AuctionEntry} {item : AuctionItem} (hid : e.id ∉ s.auctionIds) (hitem : s.aItems.lookup e.itemGuidLow = none)
      (hfresh : e.fresh = e) (hmoney : ∃ money, s.money.lookup e.owner = some money ∧ e.deposit ≤ money) :
      Move cfg s (s.openAuction cfg e item)
  | taken {w : AuctionWorld} {h ptr : Nat} {e : AuctionEntry} {guid amount : Nat} (hheld : s.Held h ptr e)
      (ht : s.Takes w e guid amount) : Move cfg s (s.takeBid w ptr e guid amount)
  | settled {w : AuctionWorld} {h ptr : Nat} {e : AuctionEntry} (hheld : s.Held h ptr e) (hpay : s.Payable cfg w e) :
      Move cfg s ((s.settle cfg w ptr e).close h ptr e)
  | sentBack {h ptr : Nat} {e : AuctionEntry} {s' : AuctionMgr} {mail : AuctionMail} (hheld : s.Held h ptr e)
      (hzero : e.bidder = 0) (hback : SendsBack s s' ptr e mail) : Move cfg s (s'.close h ptr e)
  | canceled {w : AuctionWorld} {h ptr : Nat} {e : AuctionEntry} {guid auctionCut : Nat} (hheld : s.Held h ptr e)
      (hbidder : e.bidder ≠ 0) (hreach : w.reaches e.bidder = true)
      (hmoney : ∃ money, s.money.lookup guid = some money ∧ auctionCut ≤ money) :
      Move cfg s ((s.canceled w ptr e guid auctionCut).close h ptr e)
  | removed {h ptr : Nat} {e : AuctionEntry} (hheld : s.Held h ptr e) (hzero : e.bidder = 0) :
      Move cfg s (s.removeAuction h e)

theorem Move.coherent (hm : Move cfg s s') (hs : s.Coherent cfg) : s'.Coherent cfg := by
  cases hm with
  | opened hid hitem hfresh hmoney => exact hs.openAuction _ hid hitem hfresh
  | taken hheld ht => exact (hs.takeBid hheld _ _ _).1
  | settled hheld hpay =>
    obtain ⟨hsame, hitems⟩ := settle_store cfg s _ _ _
    exact hs.close hheld hsame hitems
  | sentBack hheld hzero hback => exact hs.close hheld hback.store hback.items
  | canceled hheld hbidder hreach hmoney =>
    obtain ⟨hsame, hitems⟩ := s.canceled_store _ _ _ _ _
    exact hs.close hheld hsame fun _ _ => by rw [hitems]
  | removed hheld hzero => exact hs.removeAuction hheld

theorem Move.booked (hm : Move cfg s s') (hs : s.Coherent cfg) (hb : s.Booked cfg) : s'.Booked cfg := by
  cases hm with
  | opened hid hitem hfresh hmoney =>
    obtain ⟨money, hmoney, hle⟩ := hmoney
    exact hb.openAuction hs hid hitem hfresh (hle.trans (hb.purses _ money hmoney)) (by rw [hmoney]; rfl)
  | taken hheld ht => exact hb.takeBid hs hheld ht
  | settled hheld hpay => exact hb.settle hs hheld hpay
  | sentBack hheld hzero hback => exact hb.sendBack hs hheld hzero hback
  | canceled hheld hbidder hreach hmoney => exact hb.cancel hs hheld hbidder hreach _ _
  | removed hheld hzero => exact hb.removeAuction hs hheld hzero

/-- A property that every move keeps is kept by all of them. -/
theorem moves_keep {P : AuctionMgr → Prop} (hP : ∀ s s', s.Coherent cfg → s.Booked cfg → P s → Move cfg s s' → P s')
    (hm : Relation.ReflTransGen (Move cfg) s s') (hs : s.Coherent cfg) (hb : s.Booked cfg) (hstart : P s) :
    s'.Coherent cfg ∧ s'.Booked cfg ∧ P s' := by
  induction hm with
  | refl => exact ⟨hs, hb, hstart⟩
  | tail _ hmove ih =>
    obtain ⟨hs, hb, hp⟩ := ih
    exact ⟨hmove.coherent hs, hmove.booked hs hb, hP _ _ hs hb hp hmove⟩

theorem expire_move (hs : s.Coherent cfg) (hheld : s.Held h ptr e) (hreach : w.reaches e.owner = true)
    (hpay : e.bidder ≠ 0 → s.Payable cfg w e) : Move cfg s ((s.expiring cfg w ptr e).close h ptr e) := by
  unfold expiring
  split
  · rename_i hzero
    exact Move.sentBack hheld hzero (s.sendsBack_expired ptr (hs.items ptr e.fresh (hs.listed hheld).1) hreach)
  · rename_i hbidder
    exact Move.settled hheld (hpay hbidder)

theorem step_moves (hs : s.Coherent cfg) (hn : s.Numbered) (hb : s.Booked cfg) (a : AuctionStep) (hreach : s.Reliable a)
    (hkept : s.BidsKept cfg a) : Relation.ReflTransGen (Move cfg) s (s.step cfg a) := by
  obtain ⟨hid, hkept⟩ := hkept
  cases a with
  | sell w p r =>
    unfold step handleAuctionSellItem
    dsimp only
    split
    · exact .refl
    rename_i sale hok
    have hchecked := sellChecks_ok hok
    exact .single (Move.opened (hn.fresh hid hok) hchecked.free rfl hchecked.money)
  | placeBid w p auctionId price =>
    have hreach : s.AllReached w := hreach
    unfold step handleAuctionPlaceBid
    dsimp only
    split
    · exact .refl
    rename_i b hok
    have hchecked := bidChecks_ok hok
    have hheld := hs.getAuction hchecked.found
    have hst := hb.up _ _ _ hheld
    obtain ⟨money, hmoney, hle⟩ := hchecked.money
    split
    · rename_i hbid
      refine .single (Move.taken hheld ⟨p.guid_ne, ⟨money, hmoney, hle⟩, hchecked.above.le, ?_, fun hne => hreach _ (hst.bidder hne)⟩)
      unfold isBid at hbid
      simp only [or_eq_true, decide_eq_true_eq] at hbid
      omega
    · rename_i hbuy
      have hbuy : isBid b.e price = false := eq_false_iff.2 hbuy
      have hcut := hkept b hok hbuy
      unfold isBid at hbuy
      simp only [or_eq_false_iff, decide_eq_false_iff_not] at hbuy
      have ht : s.Takes w b.e p.guid b.e.buyout := by
        refine ⟨p.guid_ne, ⟨money, hmoney, by omega⟩, ?_, .inr (le_refl _), fun hne => hreach _ (hst.bidder hne)⟩
        rcases hst.below with hzero | hle
        · exact absurd hzero hbuy.2
        · exact hle
      obtain ⟨hs', hheld'⟩ := hs.takeBid hheld w p.guid b.e.buyout
      have hown : (s.money.lookup p.guid).isSome := by
        rw [hmoney]
        rfl
      refine .tail (.single (Move.taken hheld ht)) (Move.settled hheld' ⟨?_, ?_, ?_, p.guid_ne, hcut⟩)
      · exact hs'.items b.ptr (bidOn b.e p.guid b.e.buyout).fresh (hs'.listed hheld').1
      · exact hreach _ hst.owner
      · exact hreach _ hown
  | removeItem w p auctionId =>
    show ReflTransGen (Move cfg) s (s.handleAuctionRemoveItem cfg w p auctionId).1
    rcases s.removeItem_eq cfg w p auctionId with heq | ⟨h, ptr, e, money, hfound, -, -, hmoney, ⟨hzero, heq⟩ | ⟨hbidder, hcut, heq⟩⟩
    · rw [heq]
    · rw [heq]
      let mail : AuctionMail := ⟨.canceled, ptr, e.itemTemplate, .none, p.guid, 0, some e.itemGuidLow⟩
      have hback : SendsBack s (s.send mail) ptr e mail :=
        ⟨⟨rfl, rfl, rfl, rfl, rfl⟩, fun _ _ => rfl, rfl, rfl, rfl, rfl, rfl, rfl, .inr rfl⟩
      exact .single (Move.sentBack (hs.getAuction hfound) hzero hback)
    · rw [heq]
      have hheld := hs.getAuction hfound
      have hst := hb.up _ _ _ hheld
      exact .single (Move.canceled hheld hbidder (hreach _ (hst.bidder hbidder)) ⟨money, hmoney, hcut⟩)
  | update w h =>
    have hreach : s.AllReached w := hreach
    have hrun : ReflTransGen (Move cfg) s (s.update cfg w h) ∧ (s.update cfg w h).Booked cfg ∧
        (s.update cfg w h).money = s.money := by
      apply (hs.update_rule
        (P := fun s' => ReflTransGen (Move cfg) s s' ∧ s'.Booked cfg ∧ s'.money = s.money) w h _ ⟨.refl, hb, rfl⟩).2
      rintro s' ptr e hs' ⟨hmoves, hb', hmoney⟩ hheld' hheld hover
      have hst := hb'.up h ptr e hheld'
      have hreach' (guid : Nat) (hg : (s'.money.lookup guid).isSome) : w.reaches guid = true := by
        rw [hmoney] at hg
        exact hreach guid hg
      have hmove : Move cfg s' ((s'.expiring cfg w ptr e).close h ptr e) := by
        apply expire_move hs' hheld' (hreach' _ hst.owner)
        intro hbidder
        exact ⟨hs'.items ptr e.fresh (hs'.listed hheld').1, hreach' _ hst.owner, hreach' _ (hst.bidder hbidder), hbidder,
          hkept ptr e hheld hover hbidder⟩
      refine ⟨hmoves.tail hmove, hmove.booked hs' hb', ?_⟩
      rw [← hmoney]
      show (s'.expiring cfg w ptr e).money = s'.money
      unfold expiring
      split
      · exact (s'.sendItem_money w e _).1
      · exact (s'.settle_money cfg w ptr e).1
    exact hrun.1
  | removeAll h guid accountId =>
    apply (hs.removeAll_rule (P := fun s' => ReflTransGen (Move cfg) s s') _ .refl).2
    intro s' ptr e he _ hmoves hheld
    exact hmoves.tail (Move.removed hheld (hkept e he))

end AuctionMgr

end ComfyCraft
