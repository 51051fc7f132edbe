import ComfyCraft.AuctionHouse.Delivery

/-! What becomes of the money of the bidders. What a bidder pays on one auction, raise after raise, until somebody
else bids is one stake; the stakes of an auction are, in their order, the refunds that were mailed and then the
bid that was paid out, or the one that still stands. -/

namespace ComfyCraft

open List AList Nat

/-! Stakes. -/

def addStake (stakes : List (Nat × Nat)) (payment : Nat × Nat) : List (Nat × Nat) :=
  match stakes.getLast? with
  | none => [payment]
  | some last =>
    if last.1 = payment.1 then stakes.dropLast ++ [(last.1, last.2 + payment.2)] else stakes ++ [payment]

def stakes (payments : List (Nat × Nat)) : List (Nat × Nat) := payments.foldl addStake []

theorem stakes_append (payments : List (Nat × Nat)) (payment : Nat × Nat) :
    stakes (payments ++ [payment]) = addStake (stakes payments) payment := by
  unfold stakes
  rw [foldl_append]
  rfl

theorem addStake_raise (before : List (Nat × Nat)) (bidder bid amount : Nat) :
    addStake (before ++ [(bidder, bid)]) (bidder, amount) = before ++ [(bidder, bid + amount)] := by
  unfold addStake
  rw [getLast?_append, dropLast_concat]
  exact if_pos rfl

theorem addStake_new (before : List (Nat × Nat)) {bidder other : Nat} (bid amount : Nat) (hne : bidder ≠ other) :
    addStake (before ++ [(bidder, bid)]) (other, amount) = before ++ [(bidder, bid)] ++ [(other, amount)] := by
  unfold addStake
  rw [getLast?_append]
  exact if_neg hne

/-! Arithmetic of `uint32` within the limits of a purse. -/

theorem int32_of_le {x : Nat} (hx : x ≤ MAX_MONEY_AMOUNT) : int32 x = x := by
  unfold int32
  unfold MAX_MONEY_AMOUNT at hx
  rw [mod_eq_of_lt (by omega), if_pos (by omega)]

theorem sub32_of_le {a b : Nat} (hle : b ≤ a) (ha : a < 2 ^ 32) : sub32 a b = a - b := by
  unfold sub32
  omega

namespace AuctionMgr

variable {money x guid p amount : Nat} {mails extra : List AuctionMail}

theorem modified_charge (hx : x ≤ money) (hmoney : money ≤ MAX_MONEY_AMOUNT) : modified money (-int32 x) = money - x := by
  rw [int32_of_le (hx.trans hmoney)]
  unfold modified
  rcases Nat.eq_zero_or_pos x with rfl | hpos
  · simp only [cast_zero, neg_zero, lt_irrefl, if_false, Int.natAbs_zero, sub_zero, add_zero]
    split <;> omega
  · have hneg : (-(x : Int)) < 0 := by omega
    have habs : (-(x : Int)).natAbs = x := by omega
    rw [if_pos hneg, habs]
    split <;> omega

variable {cfg : AuctionConfig} {s s' : AuctionMgr} {w : AuctionWorld} {h ptr : Nat} {e : AuctionEntry}

theorem charge_money {kind : ChargeKind} (hlookup : s.money.lookup guid = some money) (hx : x ≤ money)
    (hmoney : money ≤ MAX_MONEY_AMOUNT) : (s.charge kind ptr guid x).money = s.money.insert guid (money - x) := by
  unfold charge modifyMoney
  rw [hlookup]
  dsimp only
  rw [modified_charge hx hmoney]

/-! The records. -/

def bids (s : AuctionMgr) (ptr : Nat) : List (Nat × Nat) :=
  s.charges.filterMap fun c => if c.kind = .bid ∧ c.auction = ptr then some (c.player, c.amount) else none

def refundsIn (mails : List AuctionMail) (ptr : Nat) : List (Nat × Nat) :=
  mails.filterMap fun m =>
    if m.auction = ptr ∧ (m.answer = .outbidded ∨ m.answer = .cancelledToBidder) then some (m.receiver, m.money) else none

def saleBid (m : AuctionMail) : Option (Nat × Nat) :=
  match m.body with
  | .successful bidder bid _ _ _ => some (bidder, bid)
  | _ => none

def salesIn (mails : List AuctionMail) (ptr : Nat) : List (Nat × Nat) :=
  mails.filterMap fun m => if m.auction = ptr then saleBid m else none

def refunds (s : AuctionMgr) (ptr : Nat) : List (Nat × Nat) := refundsIn s.mails ptr

def sales (s : AuctionMgr) (ptr : Nat) : List (Nat × Nat) := salesIn s.mails ptr

def standing (e : AuctionEntry) : List (Nat × Nat) := if e.bidder = 0 then [] else [(e.bidder, e.bid)]

/-- A mail that pays an owner: the bid and the deposit, less the cut. -/
def Paid (opened : List AuctionEntry) (m : AuctionMail) : Prop :=
  match m.body with
  | .successful _ bid _ deposit auctionCut =>
    ∃ e, opened[m.auction]? = some e ∧ m.receiver = e.owner ∧ deposit = e.deposit ∧ m.money + auctionCut = bid + deposit
  | _ => True

/-- What holds of an auction that is up. -/
structure Standing (s : AuctionMgr) (ptr : Nat) (e : AuctionEntry) : Prop where
  bid_le : e.bid ≤ MAX_MONEY_AMOUNT
  deposit_le : e.deposit ≤ MAX_MONEY_AMOUNT
  below : e.buyout = 0 ∨ e.bid ≤ e.buyout
  owner : (s.money.lookup e.owner).isSome
  bidder : e.bidder ≠ 0 → (s.money.lookup e.bidder).isSome
  unbid : e.bidder = 0 → e.bid = 0 ∧ s.bids ptr = []
  sales : s.sales ptr = []
  stakes : stakes (s.bids ptr) = s.refunds ptr ++ standing e

structure Booked (cfg : AuctionConfig) (s : AuctionMgr) : Prop where
  purses : ∀ guid money, s.money.lookup guid = some money → money ≤ MAX_MONEY_AMOUNT
  up : ∀ h ptr e, s.Held h ptr e → s.Standing ptr e
  ended : ∀ ptr e, s.opened[ptr]? = some e → ¬ s.Listed cfg ptr e →
    stakes (s.bids ptr) = s.refunds ptr ++ s.sales ptr ∧ (s.sales ptr).length ≤ 1
  charges_lt : ∀ c ∈ s.charges, c.auction < s.opened.length
  mails_lt : ∀ m ∈ s.mails, m.auction < s.opened.length
  paid : ∀ m ∈ s.mails, Paid s.opened m

theorem refundsIn_append (mails extra : List AuctionMail) (ptr : Nat) :
    refundsIn (mails ++ extra) ptr = refundsIn mails ptr ++ refundsIn extra ptr := filterMap_append

theorem salesIn_append (mails extra : List AuctionMail) (ptr : Nat) :
    salesIn (mails ++ extra) ptr = salesIn mails ptr ++ salesIn extra ptr := filterMap_append

theorem refundsIn_other (hown : ∀ m ∈ mails, m.auction ≠ p) : refundsIn mails p = [] := by
  unfold refundsIn
  rw [filterMap_eq_nil_iff]
  intro m hm
  exact if_neg fun hp => hown m hm hp.1

theorem salesIn_other (hown : ∀ m ∈ mails, m.auction ≠ p) : salesIn mails p = [] := by
  unfold salesIn
  rw [filterMap_eq_nil_iff]
  intro m hm
  exact if_neg (hown m hm)

theorem bids_charge (s : AuctionMgr) (kind : ChargeKind) (a guid x p : Nat) :
    (s.charge kind a guid x).bids p = s.bids p ++ if kind = .bid ∧ a = p then [(guid, x)] else [] := by
  have hcharges : (s.charge kind a guid x).charges = s.charges ++ [⟨kind, a, guid, x⟩] := rfl
  unfold bids
  rw [hcharges, filterMap_append]
  congr 1
  split_ifs with hp
  · exact filterMap_cons_some (if_pos hp)
  · exact filterMap_cons_none (if_neg hp)

/-! A step at one auction. -/

/-- The auction at one address is opened, bid on or ended, with what that takes from players and sends them; every
other auction is left as it is. -/
structure Touch (cfg : AuctionConfig) (ptr : Nat) (extra : List AuctionMail) (s s' : AuctionMgr) : Prop where
  opened : s.opened <+: s'.opened
  new : ∀ p, p ≠ ptr → p < s'.opened.length → p < s.opened.length
  lt : ptr < s'.opened.length
  held : ∀ h p e, p ≠ ptr → s'.Held h p e → s.Held h p e
  listed : ∀ p e, p ≠ ptr → s.Listed cfg p e → s'.Listed cfg p e
  charges : ∃ taken, s'.charges = s.charges ++ taken ∧ ∀ c ∈ taken, c.auction = ptr
  purses : ∀ guid money, s'.money.lookup guid = some money → money ≤ MAX_MONEY_AMOUNT
  players : ∀ guid, (s.money.lookup guid).isSome → (s'.money.lookup guid).isSome
  mails : s'.mails = s.mails ++ extra
  own : ∀ m ∈ extra, m.auction = ptr

section

variable (ht : Touch cfg ptr extra s s') (hne : p ≠ ptr)
include ht hne

theorem Touch.bids : s'.bids p = s.bids p := by
  obtain ⟨taken, htaken, hown⟩ := ht.charges
  unfold AuctionMgr.bids
  rw [htaken, filterMap_append, append_right_eq_self, filterMap_eq_nil_iff]
  intro c hc
  refine if_neg fun hp => hne ?_
  rw [← hp.2, hown c hc]

theorem Touch.refunds : s'.refunds p = s.refunds p := by
  unfold AuctionMgr.refunds
  rw [ht.mails, refundsIn_append, append_right_eq_self]
  refine refundsIn_other fun m hm => ?_
  rw [ht.own m hm]
  exact hne.symm

theorem Touch.sales : s'.sales p = s.sales p := by
  unfold AuctionMgr.sales
  rw [ht.mails, salesIn_append, append_right_eq_self]
  refine salesIn_other fun m hm => ?_
  rw [ht.own m hm]
  exact hne.symm

end

theorem Paid.mono {opened opened' : List AuctionEntry} {m : AuctionMail} (hm : Paid opened m) (hle : opened <+: opened') :
    Paid opened' m := by
  unfold Paid at hm ⊢
  split
  · rename_i hbody
    rw [hbody] at hm
    obtain ⟨e, he, hrest⟩ := hm
    obtain ⟨hlt, rfl⟩ := List.getElem?_eq_some_iff.1 he
    exact ⟨_, prefix_iff_getElem?.1 hle _ hlt, hrest⟩
  · trivial

/-- The books stay in order if they are for the auction that the step is at. -/
theorem Booked.touch (hb : s.Booked cfg) (ht : Touch cfg ptr extra s s')
    (hpaid : ∀ m ∈ extra, Paid s'.opened m) (hup : ∀ h e, s'.Held h ptr e → s'.Standing ptr e)
    (hover : ∀ e, s'.opened[ptr]? = some e → ¬ s'.Listed cfg ptr e →
      stakes (s'.bids ptr) = s'.refunds ptr ++ s'.sales ptr ∧ (s'.sales ptr).length ≤ 1) : s'.Booked cfg := by
  have hlen : s.opened.length ≤ s'.opened.length := ht.opened.length_le
  constructor
  · exact ht.purses
  · intro h p e hheld
    by_cases heq : p = ptr
    · subst heq
      exact hup h e hheld
    have hst := hb.up h p e (ht.held h p e heq hheld)
    refine ⟨hst.bid_le, hst.deposit_le, hst.below, ht.players _ hst.owner, fun hne => ht.players _ (hst.bidder hne), ?_, ?_, ?_⟩
    · intro hzero
      rw [ht.bids heq]
      exact hst.unbid hzero
    · rw [ht.sales heq]
      exact hst.sales
    · rw [ht.bids heq, ht.refunds heq]
      exact hst.stakes
  · intro p e he hgone
    by_cases heq : p = ptr
    · subst heq
      exact hover e he hgone
    · have hlt : p < s.opened.length := ht.new p heq (List.getElem?_eq_some_iff.1 he).1
      rw [prefix_iff_getElem?.1 ht.opened p hlt, ← getElem?_eq_getElem hlt] at he
      rw [ht.bids heq, ht.refunds heq, ht.sales heq]
      exact hb.ended p e he fun hl => hgone (ht.listed p e heq hl)
  · intro c hc
    obtain ⟨taken, htaken, hown⟩ := ht.charges
    rw [htaken] at hc
    rcases mem_append.1 hc with hc | hc
    · exact lt_of_lt_of_le (hb.charges_lt c hc) hlen
    · rw [hown c hc]
      exact ht.lt
  · intro m hm
    rw [ht.mails] at hm
    rcases mem_append.1 hm with hm | hm
    · exact lt_of_lt_of_le (hb.mails_lt m hm) hlen
    · rw [ht.own m hm]
      exact ht.lt
  · intro m hm
    rw [ht.mails] at hm
    rcases mem_append.1 hm with hm | hm
    · exact (hb.paid m hm).mono ht.opened
    · exact hpaid m hm

/-! Purses. -/

theorem modified_le (hmoney : money ≤ MAX_MONEY_AMOUNT) (d : Int) : modified money d ≤ MAX_MONEY_AMOUNT := by
  unfold modified
  split
  · split <;> omega
  · split <;> omega

theorem charge_purses (hpurses : ∀ guid money, s.money.lookup guid = some money → money ≤ MAX_MONEY_AMOUNT)
    (kind : ChargeKind) (ptr guid x : Nat) (g money : Nat) (hg : (s.charge kind ptr guid x).money.lookup g = some money) :
    money ≤ MAX_MONEY_AMOUNT := by
  unfold charge modifyMoney at hg
  split at hg
  · exact hpurses g money hg
  rename_i before hbefore
  by_cases heq : g = guid
  · subst heq
    rw [lookup_insert] at hg
    cases hg
    exact modified_le (hpurses g before hbefore) _
  · rw [lookup_insert_ne heq] at hg
    exact hpurses g money hg

theorem charge_players (s : AuctionMgr) (kind : ChargeKind) (ptr guid x : Nat) {g : Nat} (hg : (s.money.lookup g).isSome) :
    ((s.charge kind ptr guid x).money.lookup g).isSome := by
  unfold charge modifyMoney
  split
  · exact hg
  by_cases heq : g = guid
  · subst heq
    rw [lookup_insert]
    rfl
  · rw [lookup_insert_ne heq]
    exact hg

/-! A bid is taken. -/

def payment (e : AuctionEntry) (guid amount : Nat) : Nat := if guid = e.bidder then amount - e.bid else amount

def outbidMails (ptr : Nat) (e : AuctionEntry) (guid : Nat) : List AuctionMail :=
  if guid = e.bidder ∨ e.bidder = 0 then [] else [⟨.outbidded, ptr, e.itemTemplate, .none, e.bidder, e.bid, none⟩]

theorem takeBid_eq (s : AuctionMgr) (ptr guid : Nat) (hreach : e.bidder ≠ 0 → w.reaches e.bidder = true)
    (hup : e.bid ≤ amount) (hamount : amount < 2 ^ 32) :
    s.takeBid w ptr e guid amount = { s.charge .bid ptr guid (payment e guid amount) with
        mails := s.mails ++ outbidMails ptr e guid
        entries := s.entries.insert ptr (bidOn e guid amount) } := by
  unfold takeBid payment outbidMails
  by_cases hown : guid = e.bidder
  · simp only [if_pos hown, if_pos (.inl hown : guid = e.bidder ∨ e.bidder = 0), append_nil, sub32_of_le hup hamount]
    rfl
  by_cases hfirst : e.bidder = 0
  · simp only [if_neg hown, if_neg (not_not.2 hfirst), if_pos (.inr hfirst : guid = e.bidder ∨ e.bidder = 0), append_nil]
    rfl
  · simp only [if_neg hown, if_pos hfirst, if_neg (not_or.2 ⟨hown, hfirst⟩)]
    unfold sendAuctionOutbiddedMail
    rw [if_pos (hreach hfirst)]
    rfl

/-- What a bid has to be to be taken. -/
structure Takes (s : AuctionMgr) (w : AuctionWorld) (e : AuctionEntry) (guid amount : Nat) : Prop where
  guid_ne : guid ≠ 0
  money : ∃ money, s.money.lookup guid = some money ∧ amount ≤ money
  up : e.bid ≤ amount
  below : e.buyout = 0 ∨ amount ≤ e.buyout
  reach : e.bidder ≠ 0 → w.reaches e.bidder = true

theorem Takes.le (hb : s.Booked cfg) (ht : s.Takes w e guid amount) : amount ≤ MAX_MONEY_AMOUNT := by
  obtain ⟨money, hmoney, hle⟩ := ht.money
  exact hle.trans (hb.purses guid money hmoney)

theorem Takes.lt (hb : s.Booked cfg) (ht : s.Takes w e guid amount) : amount < 2 ^ 32 :=
  lt_of_le_of_lt (ht.le hb) (by decide)

theorem touch_takeBid (hb : s.Booked cfg) (hs : s.Coherent cfg) (hheld : s.Held h ptr e)
    (ht : s.Takes w e guid amount) : Touch cfg ptr (outbidMails ptr e guid) s (s.takeBid w ptr e guid amount) := by
  rw [takeBid_eq s ptr guid ht.reach ht.up (ht.lt hb)]
  have hlt : ptr < s.opened.length := (hs.listed hheld).1.lt
  constructor
  · exact prefix_refl _
  · exact fun _ _ hp => hp
  · exact hlt
  · rintro h' p e' hne ⟨hentry, hlookup⟩
    refine ⟨?_, hlookup⟩
    have hentry : (s.entries.insert ptr (bidOn e guid amount)).lookup p = some e' := hentry
    rwa [lookup_insert_ne hne] at hentry
  · exact fun _ _ _ hl => hl
  · refine ⟨_, rfl, ?_⟩
    intro c hc
    rw [mem_singleton.1 hc]
  · exact charge_purses hb.purses .bid ptr guid (payment e guid amount)
  · exact fun _ => s.charge_players .bid ptr guid (payment e guid amount)
  · rfl
  · intro m hm
    unfold outbidMails at hm
    split at hm
    · cases hm
    · rw [mem_singleton.1 hm]

/-- The payment makes the new bid of the last stake, or is a new stake once the last is refunded. -/
theorem stakes_takeBid (hst : s.Standing ptr e) (ht : s.Takes w e guid amount) :
    stakes (s.bids ptr ++ [(guid, payment e guid amount)]) =
      s.refunds ptr ++ refundsIn (outbidMails ptr e guid) ptr ++ [(guid, amount)] := by
  rw [stakes_append]
  unfold payment outbidMails
  by_cases hown : guid = e.bidder
  · have hbidder : e.bidder ≠ 0 := hown ▸ ht.guid_ne
    have hstakes : stakes (s.bids ptr) = s.refunds ptr ++ [(e.bidder, e.bid)] := by
      rw [hst.stakes, standing, if_neg hbidder]
    rw [if_pos hown, if_pos (.inl hown), hstakes, hown, addStake_raise, Nat.add_sub_cancel' ht.up]
    exact congrArg (· ++ _) (append_nil _).symm
  rw [if_neg hown]
  by_cases hfirst : e.bidder = 0
  · have hnone : s.bids ptr = [] := (hst.unbid hfirst).2
    have hrefunds : s.refunds ptr = [] := by
      have hstakes := hst.stakes
      rw [hnone, standing, if_pos hfirst, append_nil] at hstakes
      exact hstakes.symm
    rw [if_pos (.inr hfirst), hnone, hrefunds]
    rfl
  · have hstakes : stakes (s.bids ptr) = s.refunds ptr ++ [(e.bidder, e.bid)] := by
      rw [hst.stakes, standing, if_neg hfirst]
    rw [if_neg (not_or.2 ⟨hown, hfirst⟩), hstakes, addStake_new _ _ _ (Ne.symm hown)]
    have hrefund : refundsIn [⟨.outbidded, ptr, e.itemTemplate, .none, e.bidder, e.bid, none⟩] ptr = [(e.bidder, e.bid)] :=
      filterMap_cons_some (if_pos ⟨rfl, .inl rfl⟩)
    rw [hrefund]

theorem Booked.takeBid (hb : s.Booked cfg) (hs : s.Coherent cfg) (hheld : s.Held h ptr e)
    (ht : s.Takes w e guid amount) : (s.takeBid w ptr e guid amount).Booked cfg := by
  have htouch := touch_takeBid hb hs hheld ht
  have hst := hb.up h ptr e hheld
  have heq := takeBid_eq s ptr guid ht.reach ht.up (ht.lt hb)
  have hbids : (s.takeBid w ptr e guid amount).bids ptr = s.bids ptr ++ [(guid, payment e guid amount)] := by
    rw [heq]
    show (s.charge .bid ptr guid (payment e guid amount)).bids ptr = _
    rw [bids_charge, if_pos ⟨rfl, rfl⟩]
  have hentry : (s.takeBid w ptr e guid amount).entries.lookup ptr = some (bidOn e guid amount) := by
    rw [heq, lookup_insert]
  have hmails : ∀ m ∈ outbidMails ptr e guid, m.body = .none := by
    intro m hm
    unfold outbidMails at hm
    split at hm
    · cases hm
    · rw [mem_singleton.1 hm]
  have hsales : salesIn (outbidMails ptr e guid) ptr = [] := by
    unfold salesIn
    rw [filterMap_eq_nil_iff]
    intro m hm
    unfold saleBid
    rw [hmails m hm]
    exact ite_self _
  apply hb.touch htouch
  · intro m hm
    unfold Paid
    rw [hmails m hm]
    trivial
  · rintro h' e' ⟨hentry', -⟩
    rw [hentry] at hentry'
    obtain rfl := Option.some.inj hentry'
    obtain ⟨money, hmoney, -⟩ := ht.money
    refine ⟨ht.le hb, hst.deposit_le, ht.below, htouch.players _ hst.owner, fun _ => htouch.players _ ?_, ?_, ?_, ?_⟩
    · show (s.money.lookup guid).isSome
      rw [hmoney]
      rfl
    · exact fun hzero => absurd hzero ht.guid_ne
    · unfold sales
      rw [htouch.mails, salesIn_append, hsales, append_nil]
      exact hst.sales
    · have hrefunds : (s.takeBid w ptr e guid amount).refunds ptr = s.refunds ptr ++ refundsIn (outbidMails ptr e guid) ptr := by
        unfold refunds
        rw [htouch.mails, refundsIn_append]
      have hstands : standing (bidOn e guid amount) = [(guid, amount)] := if_neg ht.guid_ne
      rw [hbids, hrefunds, hstands]
      exact stakes_takeBid hst ht
  · intro e' he' hgone
    obtain ⟨hhouses, hopened, -⟩ := s.takeBid_store w ptr e guid amount
    obtain ⟨hl, -⟩ := hs.listed hheld
    rw [hopened] at he'
    have heq' : e.fresh = e' := Option.some.inj (hl.1.symm.trans he')
    subst heq'
    refine absurd ?_ hgone
    unfold Listed
    rw [hhouses, hopened]
    exact hl

/-! An auction ends. -/

section

variable (hb : s.Booked cfg) (hs : s.Coherent cfg) (hheld : s.Held h ptr e) (hsame : SameStore s s')
  (hmoney : s'.money = s.money) (hcharges : s'.charges = s.charges) (hmails : s'.mails = s.mails ++ extra)
  (hown : ∀ m ∈ extra, m.auction = ptr)
include hb hs hheld hsame hmoney hcharges hmails hown

theorem touch_close : Touch cfg ptr extra s (s'.close h ptr e) := by
  have hopened : (s'.close h ptr e).opened = s.opened := hsame.opened
  have hpurses : (s'.close h ptr e).money = s.money := hmoney
  constructor
  · exact hopened ▸ prefix_refl _
  · intro p _ hp
    rwa [hopened] at hp
  · rw [hopened]
    exact (hs.listed hheld).1.lt
  · exact fun h' p e' _ hp => held_of_close hsame hp
  · exact fun p e' hne hl => (hs.listed_close hheld hsame p e').2 ⟨hl, hne⟩
  · refine ⟨[], ?_, fun c hc => (not_mem_nil hc).elim⟩
    rw [append_nil]
    exact hcharges
  · rw [hpurses]
    exact hb.purses
  · rw [hpurses]
    exact fun _ hg => hg
  · exact hmails
  · exact hown

/-- The mails of the end refund the bid that stood, or pay it out. -/
theorem Booked.close (hend : refundsIn extra ptr ++ salesIn extra ptr = standing e) (hpaid : ∀ m ∈ extra, Paid s.opened m) :
    (s'.close h ptr e).Booked cfg := by
  have htouch := touch_close hb hs hheld hsame hmoney hcharges hmails hown
  have hst := hb.up h ptr e hheld
  have hopened : (s'.close h ptr e).opened = s.opened := hsame.opened
  apply hb.touch htouch
  · rw [hopened]
    exact hpaid
  · rintro h' e' ⟨hentry, -⟩
    have hentry : (s'.entries.erase ptr).lookup ptr = some e' := hentry
    rw [lookup_erase] at hentry
    cases hentry
  · intro e' _ _
    have hbids : (s'.close h ptr e).bids ptr = s.bids ptr := by
      show s'.charges.filterMap _ = s.charges.filterMap _
      rw [hcharges]
    have hrefunds : (s'.close h ptr e).refunds ptr = s.refunds ptr ++ refundsIn extra ptr := by
      unfold refunds
      rw [htouch.mails, refundsIn_append]
    have hsales : (s'.close h ptr e).sales ptr = salesIn extra ptr := by
      have hbefore : salesIn s.mails ptr = [] := hst.sales
      unfold sales
      rw [htouch.mails, salesIn_append, hbefore, nil_append]
    rw [hbids, hrefunds, hsales, append_assoc, hend]
    refine ⟨hst.stakes, ?_⟩
    have hlen : (salesIn extra ptr).length ≤ (standing e).length := by
      rw [← hend, length_append]
      exact le_add_left _ _
    refine hlen.trans ?_
    unfold standing
    split <;> simp

end

end AuctionMgr

end ComfyCraft
