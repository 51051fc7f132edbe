import ComfyCraft.AuctionHouse.Booking

/-! The money of the players, of the bids that stand and of the mails changes by fees and by returned deposits
alone. Each move of an auction is looked at once; runs follow. -/

namespace ComfyCraft

open List AList Runs Table Nat

namespace AuctionMgr

variable {cfg : AuctionConfig} {s s' : AuctionMgr} {w : AuctionWorld} {h ptr : Nat} {e : AuctionEntry}

/-! The sums. -/

def purseSum (s : AuctionMgr) : Nat := Table.tally (fun _ money => money) s.money

def heldBid (cfg : AuctionConfig) (s : AuctionMgr) (ptr : Nat) (e : AuctionEntry) : Nat :=
  if (s.houses (cfg.getAuctionsMap e.houseId)).auctionsMap.lookup e.id = some ptr then e.bid else 0

def heldBids (cfg : AuctionConfig) (s : AuctionMgr) : Nat := Table.tally (heldBid cfg s) s.entries

def mailed (mails : List AuctionMail) : Nat := (mails.map AuctionMail.money).sum

def fees (charges : List AuctionCharge) : Nat := (charges.map fun c => if c.kind = .bid then 0 else c.amount).sum

def cutIn (m : AuctionMail) : Nat :=
  match m.body with
  | .successful _ _ _ _ auctionCut => auctionCut
  | _ => 0

def depositIn (m : AuctionMail) : Nat :=
  match m.body with
  | .successful _ _ _ deposit _ => deposit
  | _ => 0

def cuts (mails : List AuctionMail) : Nat := (mails.map cutIn).sum

def returned (mails : List AuctionMail) : Nat := (mails.map depositIn).sum

/-- The money there was, and where it went. -/
def Balanced (cfg : AuctionConfig) (start : Nat) (s : AuctionMgr) : Prop :=
  s.purseSum + heldBids cfg s + mailed s.mails + fees s.charges + cuts s.mails = start + returned s.mails

theorem mailed_append (mails extra : List AuctionMail) : mailed (mails ++ extra) = mailed mails + mailed extra := by
  unfold mailed
  rw [map_append, sum_append]

theorem cuts_append (mails extra : List AuctionMail) : cuts (mails ++ extra) = cuts mails + cuts extra := by
  unfold cuts
  rw [map_append, sum_append]

theorem returned_append (mails extra : List AuctionMail) : returned (mails ++ extra) = returned mails + returned extra := by
  unfold returned
  rw [map_append, sum_append]

theorem charge_fees (s : AuctionMgr) (kind : ChargeKind) (ptr guid x : Nat) :
    fees (s.charge kind ptr guid x).charges = fees s.charges + if kind = .bid then 0 else x := by
  have hcharges : (s.charge kind ptr guid x).charges = s.charges ++ [⟨kind, ptr, guid, x⟩] := rfl
  unfold fees
  rw [hcharges, map_append, sum_append]
  rfl

variable {guid x p start : Nat}

theorem charge_tally {money : Nat} (kind : ChargeKind) (ptr : Nat) (hlookup : s.money.lookup guid = some money)
    (hx : x ≤ money) (hmoney : money ≤ MAX_MONEY_AMOUNT) : (s.charge kind ptr guid x).purseSum + x = s.purseSum := by
  unfold purseSum
  rw [charge_money hlookup hx hmoney]
  have hover := tally_insert_over (fun _ money => money) (money - x) hlookup
  omega

/-! The bids that stand, after each kind of move. -/

theorem heldBid_congr (hhouses : s'.houses = s.houses) : heldBid cfg s' = heldBid cfg s := by
  unfold heldBid
  rw [hhouses]

section

variable (hs : s.Coherent cfg)
include hs

theorem Coherent.inHouse_iff {e : AuctionEntry} (he : s.entries.lookup p = some e) :
    (s.houses (cfg.getAuctionsMap e.houseId)).auctionsMap.lookup e.id = some p ↔ s.Listed cfg p e.fresh := by
  unfold Listed
  rw [hs.entries p e he]
  exact ⟨fun hin => ⟨rfl, hin⟩, fun hl => hl.2⟩

theorem Coherent.heldBid_held (hheld : s.Held h ptr e) : heldBid cfg s ptr e = e.bid :=
  if_pos ((hs.inHouse_iff hheld.1).2 (hs.listed hheld).1)

theorem Coherent.heldBid_eq (hs' : s'.Coherent cfg) {e : AuctionEntry}
    (he : s.entries.lookup p = some e) (he' : s'.entries.lookup p = some e)
    (hiff : s'.Listed cfg p e.fresh ↔ s.Listed cfg p e.fresh) : heldBid cfg s' p e = heldBid cfg s p e := by
  have hin := (hs'.inHouse_iff he').trans (hiff.trans (hs.inHouse_iff he).symm)
  exact if_congr hin rfl rfl

theorem heldBids_takeBid (hheld : s.Held h ptr e) (w : AuctionWorld) (guid amount : Nat) :
    heldBids cfg (s.takeBid w ptr e guid amount) + e.bid = heldBids cfg s + amount := by
  obtain ⟨hhouses, -, -, -, hentries, -⟩ := s.takeBid_store w ptr e guid amount
  have hover := tally_insert_over (heldBid cfg s) (bidOn e guid amount) hheld.1
  have hafter : heldBid cfg s ptr (bidOn e guid amount) = amount :=
    if_pos ((hs.inHouse_iff hheld.1).2 (hs.listed hheld).1)
  rw [hs.heldBid_held hheld, hafter, add_comm amount] at hover
  unfold heldBids
  rw [heldBid_congr hhouses, hentries]
  exact hover

theorem heldBids_close (hheld : s.Held h ptr e) (hsame : SameStore s s')
    (hs' : (s'.close h ptr e).Coherent cfg) : heldBids cfg (s'.close h ptr e) + e.bid = heldBids cfg s := by
  have hentries : (s'.close h ptr e).entries = s.entries.erase ptr := congrArg (erase ptr) hsame.entries
  have herase := tally_erase (heldBid cfg s) hheld.1
  have hsum : heldBids cfg (s'.close h ptr e) = tally (heldBid cfg s) (s.entries.erase ptr) := by
    unfold heldBids
    rw [hentries]
    apply tally_congr
    intro p e' hlookup
    have hne : p ≠ ptr := by
      rintro rfl
      rw [lookup_erase] at hlookup
      cases hlookup
    have he' : (s'.close h ptr e).entries.lookup p = some e' := by
      rw [hentries]
      exact hlookup
    rw [lookup_erase_ne hne] at hlookup
    apply hs.heldBid_eq hs' hlookup he'
    rw [hs.listed_close hheld hsame]
    exact and_iff_left hne
  rw [hs.heldBid_held hheld] at herase
  rw [hsum]
  unfold heldBids
  omega

theorem heldBids_removeAuction (hheld : s.Held h ptr e) (hbid : e.bid = 0) :
    heldBids cfg (s.removeAuction h e) = heldBids cfg s := by
  have hs' := hs.removeAuction hheld
  apply tally_congr
  intro p e' hlookup
  by_cases heq : p = ptr
  · subst heq
    obtain rfl := Option.some.inj (hheld.1.symm.trans hlookup)
    unfold heldBid
    rw [hbid, ite_self, ite_self]
  · apply hs.heldBid_eq hs' hlookup hlookup
    rw [hs.listed_removeAuction hheld]
    exact and_iff_left heq

theorem heldBids_openAuction {item : AuctionItem} (hid : e.id ∉ s.auctionIds)
    (hs' : (s.openAuction cfg e item).Coherent cfg) (hbid : e.bid = 0) :
    heldBids cfg (s.openAuction cfg e item) = heldBids cfg s := by
  have hentries : (s.openAuction cfg e item).entries = s.entries.insert s.opened.length e := rfl
  have hnone : s.entries.lookup s.opened.length = none := by
    rw [Option.eq_none_iff_forall_ne_some]
    intro e' he'
    exact absurd (List.getElem?_eq_some_iff.1 (hs.entries _ e' he')).1 (lt_irrefl _)
  have hnew : heldBid cfg (s.openAuction cfg e item) s.opened.length e = 0 := by
    unfold heldBid
    rw [hbid, ite_self]
  unfold heldBids
  rw [hentries, tally_insert_new _ _ hnone, hnew, zero_add]
  apply tally_congr
  intro p e' hlookup
  have hne : p ≠ s.opened.length := by
    rintro rfl
    rw [hnone] at hlookup
    cases hlookup
  have he' : (s.openAuction cfg e item).entries.lookup p = some e' := by
    rw [hentries, lookup_insert_ne hne]
    exact hlookup
  apply hs.heldBid_eq hs' hlookup he'
  rw [listed_openAuction hs item hid]
  exact or_iff_left fun hp => hne hp.1

end

/-! The balance. -/

theorem Balanced.takeBid {amount : Nat} (hbal : s.Balanced cfg start) (hs : s.Coherent cfg) (hb : s.Booked cfg)
    (hheld : s.Held h ptr e) (ht : s.Takes w e guid amount) : (s.takeBid w ptr e guid amount).Balanced cfg start := by
  have hst := hb.up h ptr e hheld
  have hbids := heldBids_takeBid hs hheld w guid amount
  have heq := takeBid_eq s ptr guid ht.reach ht.up (ht.lt hb)
  obtain ⟨money, hmoney, hle⟩ := ht.money
  have hpay : payment e guid amount ≤ money := by
    unfold payment
    split <;> omega
  have hpurses := charge_tally .bid ptr hmoney hpay (hb.purses guid money hmoney)
  have hfees := s.charge_fees .bid ptr guid (payment e guid amount)
  have hmailed : mailed (outbidMails ptr e guid) + amount = payment e guid amount + e.bid := by
    have hup := ht.up
    unfold outbidMails payment
    by_cases hown : guid = e.bidder
    · rw [if_pos (.inl hown), if_pos hown]
      show 0 + amount = _
      omega
    · by_cases hfirst : e.bidder = 0
      · rw [if_pos (.inr hfirst), if_neg hown, (hst.unbid hfirst).1]
        exact add_comm _ _
      · rw [if_neg (not_or.2 ⟨hown, hfirst⟩), if_neg hown]
        exact add_comm _ _
  have hnothing : cuts (outbidMails ptr e guid) = 0 ∧ returned (outbidMails ptr e guid) = 0 := by
    unfold outbidMails
    split <;> exact ⟨rfl, rfl⟩
  have hmails : (s.takeBid w ptr e guid amount).mails = s.mails ++ outbidMails ptr e guid := by rw [heq]
  have hmoney' : (s.takeBid w ptr e guid amount).purseSum = (s.charge .bid ptr guid (payment e guid amount)).purseSum := by
    rw [heq]
    rfl
  have hcharges : (s.takeBid w ptr e guid amount).charges = (s.charge .bid ptr guid (payment e guid amount)).charges := by
    rw [heq]
  unfold Balanced at hbal ⊢
  rw [hmails, hmoney', hcharges, mailed_append, cuts_append, returned_append, hfees, hnothing.1, hnothing.2, if_pos rfl]
  omega

/-- An auction ends: the mails hold the bid, and the deposit and the cut of a sale. -/
theorem Balanced.close {extra : List AuctionMail} (hbal : s.Balanced cfg start) (hs : s.Coherent cfg)
    (hheld : s.Held h ptr e) (hsame : SameStore s s') (hs' : (s'.close h ptr e).Coherent cfg) (hmoney : s'.money = s.money)
    (hcharges : s'.charges = s.charges) (hmails : s'.mails = s.mails ++ extra)
    (hsum : mailed extra + cuts extra = e.bid + returned extra) : (s'.close h ptr e).Balanced cfg start := by
  have hbids := heldBids_close hs hheld hsame hs'
  have hpurses : (s'.close h ptr e).purseSum = s.purseSum := congrArg (tally fun _ money => money) hmoney
  have hcharges' : (s'.close h ptr e).charges = s.charges := hcharges
  have hmails' : (s'.close h ptr e).mails = s.mails ++ extra := hmails
  unfold Balanced at hbal ⊢
  rw [hpurses, hcharges', hmails', mailed_append, cuts_append, returned_append]
  omega

theorem Balanced.charge (hbal : s.Balanced cfg start) (hb : s.Booked cfg) (kind : ChargeKind)
    (hkind : kind ≠ .bid) (ptr : Nat) (hmoney : ∃ money, s.money.lookup guid = some money ∧ x ≤ money) :
    (s.charge kind ptr guid x).Balanced cfg start := by
  obtain ⟨money, hmoney, hle⟩ := hmoney
  have hpurses := charge_tally kind ptr hmoney hle (hb.purses guid money hmoney)
  have hfees := s.charge_fees kind ptr guid x
  have hbids : heldBids cfg (s.charge kind ptr guid x) = heldBids cfg s := rfl
  have hmails : (s.charge kind ptr guid x).mails = s.mails := rfl
  rw [if_neg hkind] at hfees
  unfold Balanced at hbal ⊢
  rw [hbids, hmails, hfees]
  omega

theorem Move.balanced (hs : s.Coherent cfg) (hb : s.Booked cfg) (hbal : s.Balanced cfg start)
    (hm : Move cfg s s') : s'.Balanced cfg start := by
  have hs' := hm.coherent hs
  cases hm with
  | @opened e item hid hitem hfresh hmoney =>
    have hbid : e.bid = 0 := by
      rw [← hfresh]
      rfl
    have hpaid := hbal.charge hb .deposit (by decide) s.opened.length hmoney
    have hbids := heldBids_openAuction hs hid hs' hbid
    unfold Balanced at hpaid ⊢
    rw [hbids]
    exact hpaid
  | taken hheld ht => exact hbal.takeBid hs hb hheld ht
  | @settled w h ptr e hheld hpay =>
    have hst := hb.up h ptr e hheld
    have hbid := hst.bid_le
    have hdeposit := hst.deposit_le
    obtain ⟨hmoney, hcharges⟩ := s.settle_money cfg w ptr e
    apply hbal.close hs hheld (s.settle_store cfg w ptr e).1 hs' hmoney hcharges
      (settle_eq cfg ptr hpay.item hpay.owner hpay.bidder)
    have hcut := hpay.cut
    show sub32 (e.bid + e.deposit) (cfg.getAuctionCut e.houseId e.bid) + (0 + 0) + (cfg.getAuctionCut e.houseId e.bid + (0 + 0)) =
      e.bid + (e.deposit + (0 + 0))
    unfold MAX_MONEY_AMOUNT at hbid hdeposit
    rw [sub32_of_le hcut (by omega)]
    omega
  | @sentBack h ptr e s' mail hheld hzero hback =>
    apply hbal.close hs hheld hback.store hs' hback.purses hback.charges hback.mails
    have hbid : e.bid = 0 := ((hb.up h ptr e hheld).unbid hzero).1
    have hcut : cutIn mail = 0 := by
      unfold cutIn
      rw [hback.body]
    have hdeposit : depositIn mail = 0 := by
      unfold depositIn
      rw [hback.body]
    show mail.money + 0 + (cutIn mail + 0) = e.bid + (depositIn mail + 0)
    rw [hback.money, hcut, hdeposit, hbid]
  | @canceled w h ptr e guid auctionCut hheld hbidder hreach hmoney =>
    have hpaid := hbal.charge hb .cut (by decide) ptr hmoney
    obtain ⟨hsame, -⟩ := s.canceled_store w ptr e guid auctionCut
    obtain ⟨hpurses, hcharges⟩ := s.canceled_money w ptr e guid auctionCut
    apply hpaid.close (hs.charge .cut ptr guid auctionCut) hheld ?_ hs' hpurses hcharges
      (s.canceled_mails ptr hreach guid auctionCut)
    · rfl
    · exact ⟨hsame.houses, hsame.entries, hsame.opened, hsame.auctionIds, hsame.nextAuctionId⟩
  | @removed h ptr e hheld hzero =>
    have hbid : e.bid = 0 := ((hb.up h ptr e hheld).unbid hzero).1
    have hbids := heldBids_removeAuction hs hheld hbid
    unfold Balanced at hbal ⊢
    rw [hbids]
    exact hbal

/-! The books of a run. -/

theorem booked_empty {money : Table Nat Nat} (hmoney : ∀ guid m, money.lookup guid = some m → m ≤ MAX_MONEY_AMOUNT)
    (next : Nat) : (empty money next).Booked cfg where
  purses := hmoney
  up _ _ _ hheld := by cases hheld.1
  ended _ _ hopened := by cases hopened
  charges_lt _ hc := (not_mem_nil hc).elim
  mails_lt _ hm := (not_mem_nil hm).elim
  paid _ hm := (not_mem_nil hm).elim

theorem balanced_empty (money : Table Nat Nat) (next : Nat) :
    (empty money next).Balanced cfg (Table.tally (fun _ m => m) money) := rfl

def heldStake (cfg : AuctionConfig) (s : AuctionMgr) (ptr : Nat) : List (Nat × Nat) :=
  match s.entries.lookup ptr with
  | none => []
  | some e => if (s.houses (cfg.getAuctionsMap e.houseId)).auctionsMap.lookup e.id = some ptr then standing e else []

/-- Every stake was refunded, or was paid out, or is held, one of the three and once; at most one of an auction was
not refunded. Sales were paid as they should be, and the money balances. -/
structure Conserved (cfg : AuctionConfig) (start : Nat) (s : AuctionMgr) : Prop where
  stakes : ∀ ptr, stakes (s.bids ptr) = s.refunds ptr ++ s.sales ptr ++ heldStake cfg s ptr
  once : ∀ ptr, (s.sales ptr ++ heldStake cfg s ptr).length ≤ 1
  paid : ∀ m ∈ s.mails, Paid s.opened m
  balanced : s.Balanced cfg start

theorem heldStake_held (hs : s.Coherent cfg) (hheld : s.Held h ptr e) : heldStake cfg s ptr = standing e := by
  unfold heldStake
  rw [hheld.1]
  exact if_pos ((hs.inHouse_iff hheld.1).2 (hs.listed hheld).1)

theorem heldStake_gone (hs : s.Coherent cfg) (hgone : ∀ e, ¬ s.Listed cfg ptr e) : heldStake cfg s ptr = [] := by
  unfold heldStake
  split
  · rfl
  · rename_i e he
    exact if_neg fun hin => hgone _ ((hs.inHouse_iff he).1 hin)

theorem standing_length (e : AuctionEntry) : (standing e).length ≤ 1 := by
  unfold standing
  split
  · exact zero_le _
  · exact le_refl _

/-- An auction is up, or over, or was never opened. -/
theorem Booked.settled (hb : s.Booked cfg) (hs : s.Coherent cfg) (ptr : Nat) :
    stakes (s.bids ptr) = s.refunds ptr ++ s.sales ptr ++ heldStake cfg s ptr ∧
      (s.sales ptr ++ heldStake cfg s ptr).length ≤ 1 := by
  by_cases hup : ∃ e, s.Listed cfg ptr e
  · obtain ⟨e₀, hl⟩ := hup
    obtain ⟨e, hheld, rfl⟩ := hs.held hl
    have hst := hb.up _ ptr e hheld
    rw [heldStake_held hs hheld, hst.sales, append_nil, nil_append]
    exact ⟨hst.stakes, standing_length e⟩
  rw [not_exists] at hup
  rw [heldStake_gone hs hup, append_nil, append_nil]
  cases hopened : s.opened[ptr]? with
  | some e => exact hb.ended ptr e hopened (hup e)
  | none =>
    have hge : s.opened.length ≤ ptr := getElem?_eq_none_iff.1 hopened
    have hbids : s.bids ptr = [] := by
      unfold bids
      rw [filterMap_eq_nil_iff]
      exact fun c hc => if_neg fun hp : c.kind = .bid ∧ c.auction = ptr => Nat.not_lt_of_le hge (hp.2 ▸ hb.charges_lt c hc)
    have hmails (m : AuctionMail) (hm : m ∈ s.mails) : m.auction ≠ ptr := fun hp => Nat.not_lt_of_le hge (hp ▸ hb.mails_lt m hm)
    have hrefunds : s.refunds ptr = [] := refundsIn_other hmails
    have hsales : s.sales ptr = [] := salesIn_other hmails
    rw [hbids, hrefunds, hsales]
    exact ⟨rfl, zero_le _⟩

/-- In every state of a run whose steps keep the books, the money of the bidders is conserved. -/
theorem bids_conserved (money : Table Nat Nat) (hmoney : ∀ guid m, money.lookup guid = some m → m ≤ MAX_MONEY_AMOUNT)
    (next : Nat) (hnext : next < 2 ^ 32) (steps : List AuctionStep)
    (hkept : Runs.Admitted (step cfg) (fun s a => s.Reliable a ∧ s.BidsKept cfg a) (empty money next) steps) :
    (Runs.run (step cfg) (empty money next) steps).Conserved cfg (Table.tally (fun _ m => m) money) := by
  have hrun : let s := run (step cfg) (empty money next) steps
      s.Coherent cfg ∧ s.Numbered ∧ s.Booked cfg ∧ s.Balanced cfg (tally (fun _ m => m) money) := by
    apply invariant (I := fun s => s.Coherent cfg ∧ s.Numbered ∧ s.Booked cfg ∧
      s.Balanced cfg (tally (fun _ m => m) money)) _ _ hkept
    · rintro s a ⟨hs, hn, hb, hbal⟩ ⟨hreach, hok⟩
      have hmoves := step_moves hs hn hb a hreach hok
      obtain ⟨hs', hb', hbal'⟩ := moves_keep (fun s s' hs hb hbal hm => hm.balanced hs hb hbal) hmoves hs hb hbal
      exact ⟨hs', hn.step hs a hok.1, hb', hbal'⟩
    · exact ⟨coherent_empty money next, numbered_empty money hnext, booked_empty hmoney next, balanced_empty money next⟩
  obtain ⟨hs, -, hb, hbal⟩ := hrun
  exact ⟨fun ptr => (hb.settled hs ptr).1, fun ptr => (hb.settled hs ptr).2, hb.paid, hbal⟩

end AuctionMgr

namespace AuctionSample

def stranded : List AuctionStep := [putUp, .placeBid (world 10) buyer 1 100, .removeAll 0 1 11]

theorem purses_le (guid m : Nat) (hm : purses.lookup guid = some m) : m ≤ MAX_MONEY_AMOUNT := by
  unfold purses at hm
  by_cases hbuyer : guid = 2
  · rw [hbuyer, lookup_insert] at hm
    cases hm
    decide
  rw [lookup_insert_ne hbuyer] at hm
  by_cases hseller : guid = 1
  · rw [hseller, lookup_insert] at hm
    cases hm
    decide
  · rw [lookup_insert_ne hseller] at hm
    cases hm

end AuctionSample

namespace AuctionMgr

open AuctionSample in
theorem bids_conserved_sample : (Runs.run (step cfg) (empty purses 1) sold).Conserved cfg 1100 := by
  apply bids_conserved purses purses_le 1 (by decide) sold
  have hcut (houseId bid deposit : Nat) : cfg.getAuctionCut houseId bid ≤ bid + deposit :=
    (div_le_self bid 20).trans (le_add_right _ _)
  refine ⟨⟨trivial, ?_, trivial⟩, ⟨?_, trivial, ?_⟩, ⟨?_, trivial, ?_⟩, trivial⟩
  · exact fun _ _ hzero => absurd hzero not_zero
  · exact fun guid _ => reaches_all 10 guid
  · exact fun _ _ _ => hcut _ _ _
  · exact fun guid _ => reaches_all 7201 guid
  · exact fun _ _ _ _ _ => hcut _ _ _

open AuctionSample in
/-- The buyer's hundred is neither held nor refunded nor paid out. -/
theorem bid_left_behind : ¬ ∀ (cfg : AuctionConfig) (money : Table Nat Nat),
    (∀ guid m, money.lookup guid = some m → m ≤ MAX_MONEY_AMOUNT) → ∀ next < 2 ^ 32, ∀ steps : List AuctionStep,
    Runs.Admitted (step cfg) Reliable (empty money next) steps →
    (Runs.run (step cfg) (empty money next) steps).Conserved cfg (Table.tally (fun _ m => m) money) := by
  intro hclaim
  have hs := hclaim cfg purses purses_le 1 (by decide) stranded ⟨trivial, fun guid _ => reaches_all 10 guid, trivial, trivial⟩
  have hpaid : stakes ((run (step cfg) (empty purses 1) stranded).bids 0) = [(2, 100)] := by decide
  have hmails : (run (step cfg) (empty purses 1) stranded).mails.length = 0 := by decide
  have hheld : heldStake cfg (run (step cfg) (empty purses 1) stranded) 0 = [] := by decide
  have hlist := hs.stakes 0
  rw [hpaid, hheld] at hlist
  unfold refunds sales at hlist
  rw [length_eq_zero_iff.1 hmails] at hlist
  cases hlist

end AuctionMgr

end ComfyCraft
