import ComfyCraft.AuctionHouse.Store

/-! Every step keeps the store coherent, as long as a new auction gets an id that is not in use. What a handler
comes to is said once: nothing, an auction opened, a bid taken, an auction closed after its mails. -/

namespace ComfyCraft

open List Option AList Nat

namespace AuctionMgr

variable {cfg : AuctionConfig} {s s' : AuctionMgr} {w : AuctionWorld} {h ptr : Nat} {e : AuctionEntry}

/-! What the checks let through. -/

theorem ok_of_ite {ε α : Type} {c : Prop} [Decidable c] {error : ε} {x : Except ε α} {a : α}
    (h : (if c then .error error else x) = .ok a) : ¬ c ∧ x = .ok a := by
  split at h
  · cases h
  · rename_i hc
    exact ⟨hc, h⟩

/-- A sale that went through the checks. -/
structure SaleChecked (cfg : AuctionConfig) (s : AuctionMgr) (p : AuctionPlayer) (r : SellRequest) (sale : Sale) : Prop where
  price : r.buyout = 0 ∨ r.bid ≤ r.buyout
  free : s.aItems.lookup r.itemGuid = none
  item : r.item = some sale.item
  money : ∃ money, s.money.lookup p.guid = some money ∧ sale.deposit ≤ money

variable {p guid accountId : Nat} {r : SellRequest} {sale : Sale} {e' : AuctionEntry} {P : AuctionMgr → Prop}

theorem sellChecks_ok {p : AuctionPlayer} (hok : s.sellChecks cfg p r = .ok sale) : SaleChecked cfg s p r sale := by
  unfold sellChecks at hok
  obtain ⟨-, hok⟩ := ok_of_ite hok
  obtain ⟨-, hok⟩ := ok_of_ite hok
  obtain ⟨hprice, hok⟩ := ok_of_ite hok
  obtain ⟨-, hok⟩ := ok_of_ite hok
  cases hhouse : p.houseId with
  | none =>
    rw [hhouse] at hok
    cases hok
  | some houseId =>
    rw [hhouse] at hok
    obtain ⟨-, hok⟩ := ok_of_ite hok
    obtain ⟨-, hok⟩ := ok_of_ite hok
    obtain ⟨-, hok⟩ := ok_of_ite hok
    obtain ⟨hfree, hok⟩ := ok_of_ite hok
    cases hitem : r.item with
    | none =>
      rw [hitem] at hok
      cases hok
    | some it =>
      cases hmoney : s.money.lookup p.guid with
      | none =>
        rw [hitem, hmoney] at hok
        cases hok
      | some money =>
        rw [hitem, hmoney] at hok
        obtain ⟨-, hok⟩ := ok_of_ite hok
        obtain ⟨-, hok⟩ := ok_of_ite hok
        obtain ⟨-, hok⟩ := ok_of_ite hok
        obtain ⟨hdeposit, hok⟩ := ok_of_ite hok
        cases hok
        refine ⟨?_, not_isSome_iff_eq_none.1 hfree, hitem, money, hmoney, Nat.le_of_not_lt hdeposit⟩
        by_contra hcon
        push Not at hcon
        exact hprice hcon

/-- A bid that went through the checks. -/
structure BidChecked (cfg : AuctionConfig) (s : AuctionMgr) (p : AuctionPlayer) (auctionId price : Nat) (b : Bid) : Prop where
  found : s.getAuction b.h auctionId = some (b.ptr, b.e)
  above : b.e.bid < price
  money : ∃ money, s.money.lookup p.guid = some money ∧ price ≤ money

theorem bidChecks_ok {p : AuctionPlayer} {auctionId price : Nat} {b : Bid}
    (hok : s.bidChecks cfg w p auctionId price = .ok b) : BidChecked cfg s p auctionId price b := by
  unfold bidChecks at hok
  obtain ⟨-, hok⟩ := ok_of_ite hok
  obtain ⟨-, hok⟩ := ok_of_ite hok
  cases hhouse : p.houseId with
  | none =>
    rw [hhouse] at hok
    cases hok
  | some houseId =>
    rw [hhouse] at hok
    obtain ⟨-, hok⟩ := ok_of_ite hok
    cases hfound : s.getAuction (cfg.getAuctionsMap houseId) auctionId with
    | none =>
      rw [hfound] at hok
      cases hok
    | some a =>
      cases hmoney : s.money.lookup p.guid with
      | none =>
        rw [hfound, hmoney] at hok
        cases hok
      | some money =>
        rw [hfound, hmoney] at hok
        obtain ⟨-, hok⟩ := ok_of_ite hok
        obtain ⟨-, hok⟩ := ok_of_ite hok
        obtain ⟨-, hok⟩ := ok_of_ite hok
        obtain ⟨habove, hok⟩ := ok_of_ite hok
        obtain ⟨-, hok⟩ := ok_of_ite hok
        obtain ⟨hprice, hok⟩ := ok_of_ite hok
        cases hok
        exact ⟨hfound, Nat.lt_of_not_le habove, money, hmoney, Nat.le_of_not_lt hprice⟩

theorem Coherent.getAuction (hs : s.Coherent cfg) {id : Nat} (hfound : s.getAuction h id = some (ptr, e)) : s.Held h ptr e := by
  obtain ⟨p, hlookup, hentry⟩ := bind_eq_some_iff.1 hfound
  obtain ⟨e', he', heq⟩ := map_eq_some_iff.1 hentry
  obtain ⟨rfl, rfl⟩ := Prod.mk.inj heq
  obtain ⟨e₀, hopened, hid, -⟩ := hs.idMap h id p hlookup
  have hfresh : e'.fresh = e₀ := some.inj ((hs.entries p e' he').symm.trans hopened)
  rw [← hfresh] at hid
  have hid : e'.id = id := hid
  refine ⟨he', ?_⟩
  rw [hid]
  exact hlookup

/-- What a cancelled auction comes to: the bidder's money and the cut if there is a bidder, and the item. -/
theorem removeItem_eq (cfg : AuctionConfig) (s : AuctionMgr) (w : AuctionWorld) (p : AuctionPlayer) (auctionId : Nat) :
    (s.handleAuctionRemoveItem cfg w p auctionId).1 = s ∨
      ∃ h ptr e money, s.getAuction h auctionId = some (ptr, e) ∧ e.owner = p.guid ∧
        (s.aItems.lookup e.itemGuidLow).isSome ∧ s.money.lookup p.guid = some money ∧
        let mail : AuctionMail := ⟨.canceled, ptr, e.itemTemplate, .none, p.guid, 0, some e.itemGuidLow⟩
        let auctionCut := cfg.getAuctionCut e.houseId e.bid
        (e.bidder = 0 ∧ (s.handleAuctionRemoveItem cfg w p auctionId).1 = (s.send mail).close h ptr e) ∨
        (e.bidder ≠ 0 ∧ auctionCut ≤ money ∧ (s.handleAuctionRemoveItem cfg w p auctionId).1 =
          (((s.sendAuctionCancelledToBidderMail w ptr e).charge .cut ptr p.guid auctionCut).send mail).close h ptr e) := by
  unfold handleAuctionRemoveItem
  split
  · exact .inl rfl
  rename_i houseId hhouse
  split
  · exact .inl rfl
  rename_i ptr e hfound
  obtain ⟨hfound, howner⟩ := filter_eq_some_iff.1 hfound
  split
  · exact .inl rfl
  · exact .inl rfl
  rename_i item money hitem hmoney
  dsimp only
  split
  · rename_i hbidder
    split
    · exact .inl rfl
    rename_i hcut
    refine .inr ⟨cfg.getAuctionsMap houseId, ptr, e, money, hfound, of_decide_eq_true howner, by rw [hitem]; rfl, hmoney, ?_⟩
    exact .inr ⟨Nat.pos_iff_ne_zero.1 hbidder, Nat.le_of_not_lt hcut, rfl⟩
  · rename_i hbidder
    refine .inr ⟨cfg.getAuctionsMap houseId, ptr, e, money, hfound, of_decide_eq_true howner, by rw [hitem]; rfl, hmoney, ?_⟩
    exact .inl ⟨Nat.eq_zero_of_not_pos hbidder, rfl⟩

/-! What the parts of a step leave alone. -/

theorem SameStore.refl (s : AuctionMgr) : SameStore s s := ⟨rfl, rfl, rfl, rfl, rfl⟩

theorem sendOutbidded_store (s : AuctionMgr) (w : AuctionWorld) (ptr : Nat) (e : AuctionEntry) :
    SameStore s (s.sendAuctionOutbiddedMail w ptr e) ∧ (s.sendAuctionOutbiddedMail w ptr e).aItems = s.aItems := by
  unfold sendAuctionOutbiddedMail
  split <;> exact ⟨⟨rfl, rfl, rfl, rfl, rfl⟩, rfl⟩

theorem sendCancelled_store (s : AuctionMgr) (w : AuctionWorld) (ptr : Nat) (e : AuctionEntry) :
    SameStore s (s.sendAuctionCancelledToBidderMail w ptr e) ∧
      (s.sendAuctionCancelledToBidderMail w ptr e).aItems = s.aItems := by
  unfold sendAuctionCancelledToBidderMail
  split <;> exact ⟨⟨rfl, rfl, rfl, rfl, rfl⟩, rfl⟩

theorem sendSuccessful_store (cfg : AuctionConfig) (s : AuctionMgr) (w : AuctionWorld) (ptr : Nat) (e : AuctionEntry) :
    SameStore s (s.sendAuctionSuccessfulMail cfg w ptr e) ∧ (s.sendAuctionSuccessfulMail cfg w ptr e).aItems = s.aItems := by
  unfold sendAuctionSuccessfulMail
  split <;> exact ⟨⟨rfl, rfl, rfl, rfl, rfl⟩, rfl⟩

theorem sendItem_store (s : AuctionMgr) (w : AuctionWorld) (e : AuctionEntry) (mail : AuctionMail) :
    SameStore s (s.sendItem w e mail) ∧ ∀ g, g ≠ e.itemGuidLow → (s.sendItem w e mail).aItems.lookup g = s.aItems.lookup g := by
  unfold sendItem
  split
  · exact ⟨SameStore.refl s, fun _ _ => rfl⟩
  split
  · split
    · exact ⟨⟨rfl, rfl, rfl, rfl, rfl⟩, fun _ _ => rfl⟩
    · exact ⟨⟨rfl, rfl, rfl, rfl, rfl⟩, fun g hne => lookup_erase_ne hne⟩
  · exact ⟨⟨rfl, rfl, rfl, rfl, rfl⟩, fun g hne => lookup_erase_ne hne⟩

theorem settle_store (cfg : AuctionConfig) (s : AuctionMgr) (w : AuctionWorld) (ptr : Nat) (e : AuctionEntry) :
    SameStore s (s.settle cfg w ptr e) ∧
      ∀ g, g ≠ e.itemGuidLow → (s.settle cfg w ptr e).aItems.lookup g = s.aItems.lookup g := by
  obtain ⟨hpaid, hitems⟩ := s.sendSuccessful_store cfg w ptr e
  obtain ⟨hsent, hother⟩ := (s.sendAuctionSuccessfulMail cfg w ptr e).sendItem_store w e
    ⟨.won, ptr, e.itemTemplate, .won e.owner e.bid e.buyout, e.bidder, 0, none⟩
  refine ⟨hpaid.trans hsent, fun g hne => ?_⟩
  rw [← hitems]
  exact hother g hne

def expiring (cfg : AuctionConfig) (s : AuctionMgr) (w : AuctionWorld) (ptr : Nat) (e : AuctionEntry) : AuctionMgr :=
  if e.bidder = 0 then s.sendAuctionExpiredMail w ptr e else s.settle cfg w ptr e

theorem expiring_store (cfg : AuctionConfig) (s : AuctionMgr) (w : AuctionWorld) (ptr : Nat) (e : AuctionEntry) :
    SameStore s (s.expiring cfg w ptr e) ∧
      ∀ g, g ≠ e.itemGuidLow → (s.expiring cfg w ptr e).aItems.lookup g = s.aItems.lookup g := by
  unfold expiring
  split
  · exact s.sendItem_store w e _
  · exact s.settle_store cfg w ptr e

def bidOn (e : AuctionEntry) (guid amount : Nat) : AuctionEntry := { e with bidder := guid, bid := amount }

theorem takeBid_store (s : AuctionMgr) (w : AuctionWorld) (ptr : Nat) (e : AuctionEntry) (guid amount : Nat) :
    (s.takeBid w ptr e guid amount).houses = s.houses ∧ (s.takeBid w ptr e guid amount).opened = s.opened ∧
      (s.takeBid w ptr e guid amount).auctionIds = s.auctionIds ∧ (s.takeBid w ptr e guid amount).aItems = s.aItems ∧
      (s.takeBid w ptr e guid amount).entries = s.entries.insert ptr (bidOn e guid amount) ∧
      (s.takeBid w ptr e guid amount).nextAuctionId = s.nextAuctionId := by
  unfold takeBid
  dsimp only
  split
  · exact ⟨rfl, rfl, rfl, rfl, rfl, rfl⟩
  split
  · obtain ⟨hsame, hitems⟩ := (s.charge .bid ptr guid amount).sendOutbidded_store w ptr e
    refine ⟨hsame.houses, hsame.opened, hsame.auctionIds, hitems, ?_, hsame.nextAuctionId⟩
    rw [hsame.entries]
    rfl
  · exact ⟨rfl, rfl, rfl, rfl, rfl, rfl⟩

section

variable (hs : s.Coherent cfg) (hheld : s.Held h ptr e)
include hs hheld

theorem Coherent.takeBid (w : AuctionWorld) (guid amount : Nat) :
    (s.takeBid w ptr e guid amount).Coherent cfg ∧ (s.takeBid w ptr e guid amount).Held h ptr (bidOn e guid amount) := by
  obtain ⟨hhouses, hopened, hids, hitems, hentries, -⟩ := s.takeBid_store w ptr e guid amount
  refine ⟨hs.rebid hhouses hopened hids hitems hentries hheld.1 rfl, ?_, ?_⟩
  · rw [hentries, lookup_insert]
  · rw [hhouses]
    exact hheld.2

/-- After a close the auction is not listed, and every other one is as before. -/
theorem Coherent.listed_close (hsame : SameStore s s') (p : Nat)
    (e' : AuctionEntry) : (s'.close h ptr e).Listed cfg p e' ↔ s.Listed cfg p e' ∧ p ≠ ptr := by
  rw [← hs.listed_removeAuction hheld]
  have hhouses : (s'.close h ptr e).houses = (s.removeAuction h e).houses := by
    unfold AuctionMgr.close AuctionMgr.removeAuction
    simp only [removeAItem, setHouse, hsame.houses, hsame.entries]
  have hopened : (s'.close h ptr e).opened = (s.removeAuction h e).opened := hsame.opened
  unfold Listed
  rw [hhouses, hopened]

theorem Coherent.held_close (hsame : SameStore s s') (hp : s.Held h p e') (hne : p ≠ ptr) : (s'.close h ptr e).Held h p e' := by
  obtain ⟨hl, hhouse⟩ := hs.listed hp
  have hafter := ((hs.listed_close hheld hsame p e'.fresh).2 ⟨hl, hne⟩).2
  refine ⟨?_, ?_⟩
  · show (s'.entries.erase ptr).lookup p = some e'
    rw [hsame.entries, lookup_erase_ne hne]
    exact hp.1
  · have hhouse : cfg.getAuctionsMap e'.fresh.houseId = h := hhouse
    rw [hhouse] at hafter
    exact hafter

theorem Coherent.expire (w : AuctionWorld) : ((s.expiring cfg w ptr e).close h ptr e).Coherent cfg := by
  obtain ⟨hsame, hitems⟩ := s.expiring_store cfg w ptr e
  exact hs.close hheld hsame hitems

end

theorem mem_inOrder (hp : p ∈ s.inOrder h) : ∃ id, (s.houses h).auctionsMap.lookup id = some p := by
  obtain ⟨x, hx, rfl⟩ := mem_map.1 hp
  rw [mem_insertionSort] at hx
  exact ⟨x.1, Table.lookup_eq_some_iff.2 hx⟩

theorem held_of_close (hsame : SameStore s s') {h' : Nat} (hp : (s'.close h ptr e).Held h' p e') : s.Held h' p e' := by
  obtain ⟨hentry, hlookup⟩ := hp
  have hentry : (s'.entries.erase ptr).lookup p = some e' := hentry
  have hhouses : ((s'.close h ptr e).houses h').auctionsMap =
      if h' = h then (s'.houses h).auctionsMap.erase e.id else (s'.houses h').auctionsMap := by
    show (if h' = h then _ else _ : AuctionHouseObject).auctionsMap = _
    split <;> rfl
  rw [hhouses, hsame.houses] at hlookup
  rw [hsame.entries] at hentry
  constructor
  · by_cases heq : p = ptr
    · subst heq
      rw [lookup_erase] at hentry
      cases hentry
    · rwa [lookup_erase_ne heq] at hentry
  · split at hlookup
    · rename_i hhouse
      subst hhouse
      by_cases heq : e'.id = e.id
      · rw [heq, lookup_erase] at hlookup
        cases hlookup
      · rwa [lookup_erase_ne heq] at hlookup
    · exact hlookup

/-- The visits of an update that are left. An auction to be visited is in the house, or is gone; one that is in
the house was there when the update began. -/
theorem Coherent.visit_rule {w : AuctionWorld} {s₀ : AuctionMgr}
    (hstep : ∀ s ptr e, Coherent cfg s → P s → s.Held h ptr e → s₀.Held h ptr e → w.time > e.expireTime →
      P ((s.expiring cfg w ptr e).close h ptr e)) (ptrs : List Nat) (hs : s.Coherent cfg) (hP : P s)
    (hheld : ∀ ptr ∈ ptrs, ∀ e, s.entries.lookup ptr = some e → s.Held h ptr e)
    (hback : ∀ ptr e, s.Held h ptr e → s₀.Held h ptr e) :
    (ptrs.foldl (fun s ptr => s.expire cfg w h ptr) s).Coherent cfg ∧ P (ptrs.foldl (fun s ptr => s.expire cfg w h ptr) s) := by
  induction ptrs generalizing s with
  | nil => exact ⟨hs, hP⟩
  | cons ptr ptrs ih =>
    rw [foldl_cons]
    have hrest := fun p hp => hheld p (mem_cons_of_mem _ hp)
    cases he : s.entries.lookup ptr with
    | none =>
      have hskip : s.expire cfg w h ptr = s := by
        unfold AuctionMgr.expire
        rw [he]
      rw [hskip]
      exact ih hs hP hrest hback
    | some e =>
      have hown := hheld ptr mem_cons_self e he
      by_cases hover : w.time > e.expireTime
      · have hclosed : s.expire cfg w h ptr = (s.expiring cfg w ptr e).close h ptr e := by
          unfold AuctionMgr.expire
          rw [he]
          exact if_pos hover
        rw [hclosed]
        obtain ⟨hsame, -⟩ := s.expiring_store cfg w ptr e
        apply ih (hs.expire hown w) (hstep s ptr e hs hP hown (hback ptr e hown) hover)
        · intro p hp e' he'
          have he' : ((s.expiring cfg w ptr e).entries.erase ptr).lookup p = some e' := he'
          rw [hsame.entries] at he'
          by_cases hne : p = ptr
          · subst hne
            rw [lookup_erase] at he'
            cases he'
          · rw [lookup_erase_ne hne] at he'
            exact hs.held_close hown hsame (hrest p hp e' he') hne
        · exact fun p e' hp => hback p e' (held_of_close hsame hp)
      · have hwait : s.expire cfg w h ptr = s := by
          unfold AuctionMgr.expire
          rw [he]
          exact if_neg hover
        rw [hwait]
        exact ih hs hP hrest hback

/-- A property that every end of an auction of the house keeps is kept by the whole update. -/
theorem Coherent.update_rule (w : AuctionWorld) (h : Nat)
    (hstep : ∀ s' ptr e, Coherent cfg s' → P s' → s'.Held h ptr e → s.Held h ptr e → w.time > e.expireTime →
      P ((s'.expiring cfg w ptr e).close h ptr e)) (hs : s.Coherent cfg) (hP : P s) :
    (s.update cfg w h).Coherent cfg ∧ P (s.update cfg w h) := by
  apply hs.visit_rule hstep (s.inOrder h) hP
  · intro ptr hptr e he
    obtain ⟨id, hlookup⟩ := mem_inOrder hptr
    have hfound : s.getAuction h id = some (ptr, e) := by
      unfold AuctionMgr.getAuction
      rw [hlookup, bind_some, he]
      rfl
    exact hs.getAuction hfound
  · exact fun _ _ hheld => hheld

/-- Removing an auction that the house does not have changes nothing. -/
theorem Coherent.removeAuction_none (hs : s.Coherent cfg) (hnone : (s.houses h).auctionsMap.lookup e.id = none) :
    s.removeAuction h e = s := by
  have hindex {key : AuctionEntry → Nat} {m : List (Nat × Nat)} (hm : Index m (s.Keyed cfg h key)) (k₀ : Nat) :
      (m.eraseP fun x => x.1 = k₀ && (s.entries.lookup x.2).map AuctionEntry.id = some e.id) = m := by
    apply hm.remove_none
    rintro k p ⟨e', hl, hhouse, -⟩
    rw [Bool.and_eq_false_iff]
    refine .inr (decide_eq_false ?_)
    intro hid
    obtain ⟨e'', he'', hid⟩ := map_eq_some_iff.1 hid
    have heq : e''.fresh = e' := some.inj ((hs.entries p e'' he'').symm.trans hl.1)
    have hlookup := hl.2
    rw [hhouse, ← heq] at hlookup
    have hlookup : (s.houses h).auctionsMap.lookup e''.id = some p := hlookup
    rw [hid, hnone] at hlookup
    cases hlookup
  have hhouse : (s.houses h).removeAuction (fun ptr => (s.entries.lookup ptr).map AuctionEntry.id) e = s.houses h := by
    unfold AuctionHouseObject.removeAuction
    rw [Table.erase_of_lookup_none hnone, hindex (hs.prices h), hindex (hs.accounts h)]
  have hhouses : (fun h' => if h' = h then s.houses h else s.houses h') = s.houses := by
    funext h'
    split
    · rename_i heq
      rw [heq]
    · rfl
  unfold AuctionMgr.removeAuction setHouse
  dsimp only
  rw [hhouse, hhouses, hnone]
  rfl

theorem Coherent.mem_auctionsOf (hs : s.Coherent cfg) (he : e ∈ s.auctionsOf h guid accountId) : ∃ ptr, s.Held h ptr e := by
  unfold auctionsOf at he
  obtain ⟨⟨k, p⟩, hx, he⟩ := mem_filterMap.1 he
  obtain ⟨hentry, -⟩ := filter_eq_some_iff.1 he
  obtain ⟨e', hl, hhouse, -⟩ := ((hs.accounts h).mem_iff k p).1 (mem_of_mem_filter hx)
  have heq : e.fresh = e' := some.inj ((hs.entries p e hentry).symm.trans hl.1)
  refine ⟨p, hentry, ?_⟩
  have hlookup := hl.2
  rw [hhouse, ← heq] at hlookup
  exact hlookup

/-- A property that the removal of one of the player's auctions keeps is kept by the removal of all. -/
theorem Coherent.removeAll_rule
    (hstep : ∀ s' ptr, ∀ e ∈ s.auctionsOf h guid accountId, Coherent cfg s' → P s' → s'.Held h ptr e →
      P (s'.removeAuction h e)) (hs : s.Coherent cfg) (hP : P s) :
    (s.removeAllAuctions h guid accountId).Coherent cfg ∧ P (s.removeAllAuctions h guid accountId) := by
  have hheld : ∀ e ∈ s.auctionsOf h guid accountId,
      (s.houses h).auctionsMap.lookup e.id = none ∨ ∃ ptr, s.Held h ptr e := fun e he => .inr (hs.mem_auctionsOf he)
  unfold removeAllAuctions
  generalize s.auctionsOf h guid accountId = es at hheld hstep
  induction es generalizing s with
  | nil => exact ⟨hs, hP⟩
  | cons e es ih =>
    rw [foldl_cons]
    have hrest := fun e' he' => hheld e' (mem_cons_of_mem _ he')
    have hlater := fun s' ptr e' he' => hstep s' ptr e' (mem_cons_of_mem _ he')
    rcases hheld e mem_cons_self with hnone | ⟨ptr, hown⟩
    · rw [hs.removeAuction_none hnone]
      exact ih hs hP hrest hlater
    apply ih (hs.removeAuction hown) (hstep s ptr e mem_cons_self hs hP hown)
    · intro e' he'
      have hhere : ((s.removeAuction h e).houses h).auctionsMap = (s.houses h).auctionsMap.erase e.id := by
        show (if h = h then _ else _ : AuctionHouseObject).auctionsMap = _
        rw [if_pos rfl]
        rfl
      rw [hhere]
      by_cases hid : e'.id = e.id
      · rw [hid]
        exact .inl (lookup_erase _ _)
      rw [lookup_erase_ne hid]
      rcases hrest e' he' with hnone | ⟨p, hp⟩
      · exact .inl hnone
      refine .inr ⟨p, hp.1, ?_⟩
      rw [hhere, lookup_erase_ne hid]
      exact hp.2
    · exact hlater

/-! The ids. -/

/-- The ids in use are different numbers of 32 bits, and so is the next one. -/
structure Numbered (s : AuctionMgr) : Prop where
  nodup : s.auctionIds.Nodup
  lt : ∀ id ∈ s.auctionIds, id < 2 ^ 32
  next_lt : s.nextAuctionId < 2 ^ 32

/-- From a number on, the ids in use are skipped to one that is free, or past the last number to 0. -/
theorem skipUsed_free (ids : List Nat) (next : Nat) (hsorted : ids.Pairwise (· < ·)) (hge : ∀ id ∈ ids, next ≤ id)
    (hlt : ∀ id ∈ ids, id < 2 ^ 32) (hnext : next < 2 ^ 32) :
    skipUsed ids next < 2 ^ 32 ∧ (skipUsed ids next = 0 ∨ (next ≤ skipUsed ids next ∧ skipUsed ids next ∉ ids)) := by
  induction ids generalizing next with
  | nil => exact ⟨hnext, .inr ⟨le_refl _, not_mem_nil⟩⟩
  | cons id ids ih =>
    obtain ⟨hfirst, hrest⟩ := pairwise_cons.1 hsorted
    have hltRest := fun x hx => hlt x (mem_cons_of_mem _ hx)
    unfold skipUsed
    split
    · rename_i heq
      subst heq
      rcases lt_or_ge (id + 1) (2 ^ 32) with hin | hwrap
      · rw [mod_eq_of_lt hin]
        obtain ⟨hbound, hzero | ⟨hle, hfree⟩⟩ := ih (id + 1) hrest hfirst hltRest hin
        · exact ⟨hbound, .inl hzero⟩
        refine ⟨hbound, .inr ⟨by omega, ?_⟩⟩
        rw [mem_cons, not_or]
        exact ⟨by omega, hfree⟩
      · have hempty : ids = [] := by
          apply eq_nil_iff_forall_not_mem.2
          intro x hx
          have := hfirst x hx
          have := hltRest x hx
          omega
        have hzero : (id + 1) % 2 ^ 32 = 0 := by
          omega
        rw [hempty, hzero]
        exact ⟨by decide, .inl rfl⟩
    · rename_i hne
      refine ⟨hnext, .inr ⟨le_refl _, ?_⟩⟩
      rw [mem_cons, not_or]
      have hle := hge id mem_cons_self
      refine ⟨fun heq => hne heq.symm, fun hmem => ?_⟩
      have := hfirst next hmem
      omega

/-- Only 0, where the counter comes round, can be an id that is in use. -/
theorem Numbered.generate (hs : s.Numbered) :
    s.generateAuctionID < 2 ^ 32 ∧ (s.generateAuctionID ≠ 0 → s.generateAuctionID ∉ s.auctionIds) := by
  let ids := (s.auctionIds.filter fun id => s.nextAuctionId ≤ id).insertionSort (· ≤ ·)
  have hmem (id : Nat) : id ∈ ids ↔ id ∈ s.auctionIds ∧ s.nextAuctionId ≤ id := by
    rw [mem_insertionSort, mem_filter, decide_eq_true_eq]
  have hnodup : ids.Nodup := (perm_insertionSort (· ≤ ·) _).nodup_iff.2 (hs.nodup.filter _)
  have hsorted : ids.Pairwise (· < ·) := by
    have hle : ids.Pairwise (· ≤ ·) := pairwise_insertionSort (· ≤ ·) _
    exact (hle.and hnodup).imp fun hab => lt_of_le_of_ne hab.1 hab.2
  obtain ⟨hbound, hfree⟩ := skipUsed_free ids s.nextAuctionId hsorted (fun id hid => ((hmem id).1 hid).2)
    (fun id hid => hs.lt id ((hmem id).1 hid).1) hs.next_lt
  refine ⟨hbound, fun hne hused => ?_⟩
  rcases hfree with hzero | ⟨hle, hfree⟩
  · exact hne hzero
  · exact hfree ((hmem _).2 ⟨hused, hle⟩)

/-- The counter of ids has not come round to 0 while 0 is in use. -/
def NewId (cfg : AuctionConfig) (s : AuctionMgr) : AuctionStep → Prop
  | .sell _ p r => ∀ sale, s.sellChecks cfg p r = .ok sale → s.generateAuctionID = 0 → 0 ∉ s.auctionIds
  | _ => True

theorem Numbered.fresh (hs : s.Numbered) {p : AuctionPlayer}
    (hid : s.NewId cfg (.sell w p r)) (hok : s.sellChecks cfg p r = .ok sale) : s.generateAuctionID ∉ s.auctionIds := by
  by_cases hzero : s.generateAuctionID = 0
  · rw [hzero]
    exact hid sale hok hzero
  · exact hs.generate.2 hzero

theorem Coherent.step (hs : s.Coherent cfg) (hn : s.Numbered) (a : AuctionStep) (hid : s.NewId cfg a) :
    (s.step cfg a).Coherent cfg := by
  cases a with
  | sell w p r =>
    unfold AuctionMgr.step handleAuctionSellItem
    dsimp only
    split
    · exact hs
    · rename_i sale hok
      exact hs.openAuction sale.item (hn.fresh hid hok) (sellChecks_ok hok).free rfl
  | placeBid w p auctionId price =>
    unfold AuctionMgr.step handleAuctionPlaceBid
    dsimp only
    split
    · exact hs
    rename_i b hok
    have hheld := hs.getAuction (bidChecks_ok hok).found
    split
    · exact (hs.takeBid hheld w p.guid price).1
    obtain ⟨hs', hheld'⟩ := hs.takeBid hheld w p.guid b.e.buyout
    obtain ⟨hsame, hitems⟩ := (s.takeBid w b.ptr b.e p.guid b.e.buyout).settle_store cfg w b.ptr (bidOn b.e p.guid b.e.buyout)
    exact hs'.close hheld' hsame hitems
  | removeItem w p auctionId =>
    rcases s.removeItem_eq cfg w p auctionId with heq | ⟨h, ptr, e, money, hfound, -, -, -, hcase⟩
    · show (s.handleAuctionRemoveItem cfg w p auctionId).1.Coherent cfg
      rw [heq]
      exact hs
    show (s.handleAuctionRemoveItem cfg w p auctionId).1.Coherent cfg
    have hheld := hs.getAuction hfound
    rcases hcase with ⟨-, heq⟩ | ⟨-, -, heq⟩
    · rw [heq]
      exact hs.close hheld ⟨rfl, rfl, rfl, rfl, rfl⟩ fun _ _ => rfl
    rw [heq]
    obtain ⟨hsame, hitems⟩ := s.sendCancelled_store w ptr e
    refine hs.close hheld ?_ ?_
    · exact ⟨hsame.houses, hsame.entries, hsame.opened, hsame.auctionIds, hsame.nextAuctionId⟩
    intro g _
    exact congrArg (fun t : Table Nat AuctionItem => t.lookup g) hitems
  | update w h => exact (hs.update_rule (P := fun _ => True) w h (fun _ _ _ _ _ _ _ _ => trivial) trivial).1
  | removeAll h guid accountId =>
    exact (hs.removeAll_rule (P := fun _ => True) (fun _ _ _ _ _ _ _ => trivial) trivial).1

theorem Numbered.removeAuction (hn : s.Numbered) (h : Nat) (e : AuctionEntry) : (s.removeAuction h e).Numbered := by
  have hids : (s.removeAuction h e).auctionIds.Sublist s.auctionIds := by
    unfold AuctionMgr.removeAuction
    dsimp only
    split
    · exact filter_sublist
    · exact List.Sublist.refl _
  exact ⟨hn.nodup.sublist hids, fun id hid => hn.lt id (hids.subset hid), hn.next_lt⟩

theorem Numbered.congr (hn : s.Numbered) (hids : s'.auctionIds = s.auctionIds)
    (hnext : s'.nextAuctionId = s.nextAuctionId) : s'.Numbered := by
  constructor
  · rw [hids]
    exact hn.nodup
  · rw [hids]
    exact hn.lt
  · rw [hnext]
    exact hn.next_lt

theorem Numbered.close (hn : s.Numbered) (hsame : SameStore s s') (h ptr : Nat) (e : AuctionEntry) : (s'.close h ptr e).Numbered :=
  ((hn.congr hsame.auctionIds hsame.nextAuctionId).removeAuction h e).congr rfl rfl

theorem Numbered.step (hn : s.Numbered) (hs : s.Coherent cfg) (a : AuctionStep) (hid : s.NewId cfg a) :
    (s.step cfg a).Numbered := by
  cases a with
  | sell w p r =>
    unfold AuctionMgr.step handleAuctionSellItem
    dsimp only
    split
    · exact hn
    rename_i sale hok
    have hfree := hn.fresh hid hok
    refine ⟨nodup_cons.2 ⟨hfree, hn.nodup⟩, ?_, mod_lt _ (by decide)⟩
    intro id hmem
    rcases mem_cons.1 hmem with rfl | hmem
    · exact hn.generate.1
    · exact hn.lt id hmem
  | placeBid w p auctionId price =>
    unfold AuctionMgr.step handleAuctionPlaceBid
    dsimp only
    split
    · exact hn
    rename_i b hok
    have hbid (amount : Nat) : (s.takeBid w b.ptr b.e p.guid amount).Numbered := by
      obtain ⟨-, -, hids, -, -, hnext⟩ := s.takeBid_store w b.ptr b.e p.guid amount
      exact hn.congr hids hnext
    split
    · exact hbid price
    · exact (hbid b.e.buyout).close (settle_store cfg _ w b.ptr _).1 b.h b.ptr _
  | removeItem w p auctionId =>
    show (s.handleAuctionRemoveItem cfg w p auctionId).1.Numbered
    rcases s.removeItem_eq cfg w p auctionId with heq | ⟨h, ptr, e, money, -, -, -, -, ⟨-, heq⟩ | ⟨-, -, heq⟩⟩
    · rw [heq]
      exact hn
    · rw [heq]
      refine hn.close ?_ h ptr e
      exact ⟨rfl, rfl, rfl, rfl, rfl⟩
    · rw [heq]
      obtain ⟨hsame, -⟩ := s.sendCancelled_store w ptr e
      refine hn.close ?_ h ptr e
      exact ⟨hsame.houses, hsame.entries, hsame.opened, hsame.auctionIds, hsame.nextAuctionId⟩
  | update w h =>
    apply (hs.update_rule (P := Numbered) w h _ hn).2
    intro s ptr e _ hn _ _ _
    exact hn.close (s.expiring_store cfg w ptr e).1 h ptr e
  | removeAll h guid accountId =>
    apply (hs.removeAll_rule (P := Numbered) _ hn).2
    intro s' ptr e _ _ hn _
    exact hn.removeAuction h e

theorem numbered_empty (money : Table Nat Nat) {next : Nat} (hnext : next < 2 ^ 32) : (empty money next).Numbered :=
  ⟨nodup_nil, fun _ hid => (not_mem_nil hid).elim, hnext⟩

theorem coherent_empty (money : Table Nat Nat) (next : Nat) : (empty money next).Coherent cfg := by
  have hnone (ptr : Nat) (e : AuctionEntry) : ¬ (empty money next).Listed cfg ptr e := by
    rintro ⟨hopened, -⟩
    cases hopened
  have hkeyed (h : Nat) (key : AuctionEntry → Nat) (k ptr : Nat) : ¬ (empty money next).Keyed cfg h key k ptr := by
    rintro ⟨e, hl, -⟩
    exact hnone ptr e hl
  constructor
  · intro h id ptr hlookup
    cases hlookup
  · exact fun h => Index.nil (hkeyed h _)
  · exact fun h => Index.nil (hkeyed h _)
  · intro ptr e hlookup
    cases hlookup
  · exact fun ptr e hl => (hnone ptr e hl).elim
  · exact fun ptr e hl => (hnone ptr e hl).elim
  · exact fun ptr e _ _ hl => (hnone ptr e hl).elim
  · exact fun ptr e hl => (hnone ptr e hl).elim
  · exact fun ptr e _ _ hl => (hnone ptr e hl).elim

end AuctionMgr

end ComfyCraft
