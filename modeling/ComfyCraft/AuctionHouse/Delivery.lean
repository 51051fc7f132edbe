import ComfyCraft.AuctionHouse.Coherence

/-! The item of every auction is in the item map as long as the auction is up, and leaves with one mail when the
auction ends. Only the removal of all auctions of a player takes an auction and leaves its item behind. -/

namespace ComfyCraft

open List Option Runs Nat AList AuctionEntry

def AuctionEntry.heir (e : AuctionEntry) : Nat := if e.bidder = 0 then e.owner else e.bidder

namespace AuctionMgr

variable {cfg : AuctionConfig} {s s' : AuctionMgr} {w : AuctionWorld} {h ptr : Nat} {e : AuctionEntry}

def itemMails (s : AuctionMgr) (ptr : Nat) : List AuctionMail := s.mails.filter fun m => m.auction = ptr && m.item.isSome

structure Delivered (cfg : AuctionConfig) (s : AuctionMgr) : Prop where
  mails_lt : ∀ m ∈ s.mails, m.auction < s.opened.length
  waiting : ∀ ptr e, s.Listed cfg ptr e → s.itemMails ptr = []
  delivered : ∀ ptr e, s.opened[ptr]? = some e → ¬ s.Listed cfg ptr e →
    ∃ m, s.itemMails ptr = [m] ∧ m.item = some e.itemGuidLow
  owned : ∀ g, (s.aItems.lookup g).isSome → ∃ ptr e, s.Listed cfg ptr e ∧ e.itemGuidLow = g

theorem Delivered.empty (money : Table Nat Nat) (next : Nat) : (empty money next).Delivered cfg where
  mails_lt _ hm := (not_mem_nil hm).elim
  waiting _ _ _ := rfl
  delivered _ _ hopened := by cases hopened
  owned _ hg := by cases hg

section

variable (hd : s.Delivered cfg)
include hd

theorem itemMails_new : s.itemMails s.opened.length = [] := by
  unfold itemMails
  rw [filter_eq_nil_iff]
  intro m hm
  have hne : m.auction ≠ s.opened.length := Nat.ne_of_lt (hd.mails_lt m hm)
  simp [hne]

theorem Delivered.openAuction (hs : s.Coherent cfg) {item : AuctionItem} (hid : e.id ∉ s.auctionIds) :
    (s.openAuction cfg e item).Delivered cfg := by
  have hlisted := listed_openAuction hs item hid
  have hopened : (s.openAuction cfg e item).opened = s.opened ++ [e] := rfl
  have hmails (p : Nat) : (s.openAuction cfg e item).itemMails p = s.itemMails p := rfl
  have hnew : (s.openAuction cfg e item).Listed cfg s.opened.length e := (hlisted _ e).2 (.inr ⟨rfl, rfl⟩)
  constructor
  · intro m hm
    rw [hopened, length_append]
    exact lt_of_lt_of_le (hd.mails_lt m hm) (le_add_right _ _)
  · intro p e' hl
    rw [hmails]
    rcases (hlisted p e').1 hl with hp | ⟨rfl, -⟩
    · exact hd.waiting p e' hp
    · exact itemMails_new hd
  · intro p e' he' hgone
    rw [hmails]
    rcases lt_or_ge p s.opened.length with hlt | hge
    · rw [hopened, getElem?_append_left hlt] at he'
      exact hd.delivered p e' he' fun hp => hgone ((hlisted p e').2 (.inl hp))
    have hp : p = s.opened.length := by
      have hlt := (List.getElem?_eq_some_iff.1 he').1
      rw [hopened, length_append, length_singleton] at hlt
      omega
    subst hp
    have heq : e = e' := some.inj (hnew.1.symm.trans he')
    subst heq
    exact absurd hnew hgone
  · intro g hg
    have hg : ((s.aItems.insert e.itemGuidLow item).lookup g).isSome := hg
    by_cases heq : g = e.itemGuidLow
    · exact ⟨_, e, hnew, heq.symm⟩
    rw [lookup_insert_ne heq] at hg
    obtain ⟨p, e', hp, hitem⟩ := hd.owned g hg
    exact ⟨p, e', (hlisted p e').2 (.inl hp), hitem⟩

theorem Delivered.mailed (hhouses : s'.houses = s.houses) (hopened : s'.opened = s.opened)
    (hitems : s'.aItems = s.aItems) {extra : List AuctionMail} (hmails : s'.mails = s.mails ++ extra)
    (hlt : ∀ m ∈ extra, m.auction < s.opened.length ∧ m.item = none) : s'.Delivered cfg := by
  have hlisted (p : Nat) (e : AuctionEntry) : s'.Listed cfg p e ↔ s.Listed cfg p e := by
    unfold Listed
    rw [hhouses, hopened]
  have hsame (p : Nat) : s'.itemMails p = s.itemMails p := by
    unfold itemMails
    rw [hmails, filter_append, append_right_eq_self, filter_eq_nil_iff]
    intro m hm
    simp [(hlt m hm).2]
  constructor
  · intro m hm
    rw [hmails, mem_append] at hm
    rw [hopened]
    rcases hm with hm | hm
    · exact hd.mails_lt m hm
    · exact (hlt m hm).1
  · intro p e hl
    rw [hsame]
    exact hd.waiting p e ((hlisted p e).1 hl)
  · intro p e he hgone
    rw [hopened] at he
    rw [hsame]
    exact hd.delivered p e he fun hl => hgone ((hlisted p e).2 hl)
  · intro g hg
    rw [hitems] at hg
    obtain ⟨p, e, hl, hitem⟩ := hd.owned g hg
    exact ⟨p, e, (hlisted p e).2 hl, hitem⟩

theorem Delivered.close (hs : s.Coherent cfg) (hheld : s.Held h ptr e) (hsame : SameStore s s')
    (hitems : ∀ g, g ≠ e.itemGuidLow → s'.aItems.lookup g = s.aItems.lookup g) (extra : List AuctionMail)
    (hmails : s'.mails = s.mails ++ extra) (hown : ∀ m ∈ extra, m.auction = ptr)
    (hone : ∃ m, (extra.filter fun m => m.item.isSome) = [m] ∧ m.item = some e.itemGuidLow) :
    (s'.close h ptr e).Delivered cfg := by
  obtain ⟨hl, -⟩ := hs.listed hheld
  have hlisted := hs.listed_close hheld hsame
  have hopened : (s'.close h ptr e).opened = s.opened := hsame.opened
  have hsent : (s'.close h ptr e).mails = s.mails ++ extra := hmails
  have hother (p : Nat) (hne : p ≠ ptr) : (s'.close h ptr e).itemMails p = s.itemMails p := by
    unfold itemMails
    rw [hsent, filter_append, append_right_eq_self, filter_eq_nil_iff]
    intro m hm
    simp [hown m hm, hne.symm]
  have hhere : (s'.close h ptr e).itemMails ptr = extra.filter fun m => m.item.isSome := by
    have hbefore := hd.waiting ptr e.fresh hl
    unfold itemMails at hbefore ⊢
    rw [hsent, filter_append, hbefore, nil_append]
    apply filter_congr
    intro m hm
    simp [hown m hm]
  constructor
  · intro m hm
    rw [hsent, mem_append] at hm
    rw [hopened]
    rcases hm with hm | hm
    · exact hd.mails_lt m hm
    · rw [hown m hm]
      exact hl.lt
  · intro p e' hp
    obtain ⟨hp, hne⟩ := (hlisted p e').1 hp
    rw [hother p hne]
    exact hd.waiting p e' hp
  · intro p e' he' hgone
    rw [hopened] at he'
    by_cases heq : p = ptr
    · subst heq
      have hfresh : e.fresh = e' := some.inj (hl.1.symm.trans he')
      subst hfresh
      rw [hhere]
      exact hone
    · rw [hother p heq]
      exact hd.delivered p e' he' fun hp => hgone ((hlisted p e').2 ⟨hp, heq⟩)
  · intro g hg
    have hg : ((s'.aItems.erase e.itemGuidLow).lookup g).isSome := hg
    by_cases heq : g = e.itemGuidLow
    · subst heq
      rw [lookup_erase] at hg
      cases hg
    · rw [lookup_erase_ne heq, hitems g heq] at hg
      obtain ⟨p, e', hp, hitem⟩ := hd.owned g hg
      refine ⟨p, e', (hlisted p e').2 ⟨hp, ?_⟩, hitem⟩
      rintro rfl
      rw [hp.unique hl] at hitem
      exact heq hitem.symm

end

/-! The mails of the steps. -/

theorem sendItem_mails {mail : AuctionMail} (hitem : (s.aItems.lookup e.itemGuidLow).isSome)
    (hreach : w.reaches mail.receiver = true) :
    (s.sendItem w e mail).mails = s.mails ++ [{ mail with item := some e.itemGuidLow }] := by
  obtain ⟨item, hitem⟩ := isSome_iff_exists.1 hitem
  unfold sendItem
  rw [hitem]
  dsimp only
  rw [if_pos hreach]
  split <;> rfl

theorem sendSuccessful_mails (cfg : AuctionConfig) (s : AuctionMgr) (w : AuctionWorld) (ptr : Nat) (e : AuctionEntry) :
    ∃ extra, (s.sendAuctionSuccessfulMail cfg w ptr e).mails = s.mails ++ extra ∧
      ∀ m ∈ extra, m.auction = ptr ∧ m.item = none := by
  unfold sendAuctionSuccessfulMail
  split
  · refine ⟨_, rfl, ?_⟩
    intro m hm
    rw [mem_singleton.1 hm]
    exact ⟨rfl, rfl⟩
  · exact ⟨[], (append_nil _).symm, fun m hm => (not_mem_nil hm).elim⟩

theorem settle_mails (cfg : AuctionConfig) (ptr : Nat) (hitem : (s.aItems.lookup e.itemGuidLow).isSome)
    (hreach : w.reaches e.bidder = true) :
    ∃ extra, (s.settle cfg w ptr e).mails = s.mails ++ extra ∧ (∀ m ∈ extra, m.auction = ptr) ∧
      ∃ m, (extra.filter fun m => m.item.isSome) = [m] ∧ m.item = some e.itemGuidLow := by
  obtain ⟨extra, hpaid, hnone⟩ := s.sendSuccessful_mails cfg w ptr e
  have hitems := (s.sendSuccessful_store cfg w ptr e).2
  unfold settle sendAuctionWonMail
  rw [sendItem_mails (by rw [hitems]; exact hitem) hreach, hpaid]
  refine ⟨_, append_assoc _ _ _, ?_, ⟨.won, ptr, e.itemTemplate, .won e.owner e.bid e.buyout, e.bidder, 0,
    some e.itemGuidLow⟩, ?_, rfl⟩
  · intro m hm
    rcases mem_append.1 hm with hm | hm
    · exact (hnone m hm).1
    · rw [mem_singleton.1 hm]
  · have hempty : (extra.filter fun m => m.item.isSome) = [] := by
      rw [filter_eq_nil_iff]
      intro m hm
      rw [(hnone m hm).2]
      exact Bool.false_ne_true
    rw [filter_append, hempty]
    rfl

theorem expiring_mails (cfg : AuctionConfig) (ptr : Nat) (hitem : (s.aItems.lookup e.itemGuidLow).isSome)
    (hreach : w.reaches e.heir = true) :
    ∃ extra, (s.expiring cfg w ptr e).mails = s.mails ++ extra ∧ (∀ m ∈ extra, m.auction = ptr) ∧
      ∃ m, (extra.filter fun m => m.item.isSome) = [m] ∧ m.item = some e.itemGuidLow := by
  unfold expiring
  unfold heir at hreach
  split
  · rename_i hbidder
    rw [if_pos hbidder] at hreach
    refine ⟨_, sendItem_mails hitem hreach, ?_, _, rfl, rfl⟩
    intro m hm
    rw [mem_singleton.1 hm]
  · rename_i hbidder
    rw [if_neg hbidder] at hreach
    exact settle_mails cfg ptr hitem hreach

theorem takeBid_mails (s : AuctionMgr) (w : AuctionWorld) (ptr : Nat) (e : AuctionEntry) (guid amount : Nat) :
    ∃ extra, (s.takeBid w ptr e guid amount).mails = s.mails ++ extra ∧ ∀ m ∈ extra, m.auction = ptr ∧ m.item = none := by
  unfold takeBid
  split
  · exact ⟨[], (append_nil _).symm, fun m hm => (not_mem_nil hm).elim⟩
  split
  · unfold sendAuctionOutbiddedMail
    split
    · refine ⟨_, rfl, ?_⟩
      intro m hm
      rw [mem_singleton.1 hm]
      exact ⟨rfl, rfl⟩
    · exact ⟨[], (append_nil _).symm, fun m hm => (not_mem_nil hm).elim⟩
  · exact ⟨[], (append_nil _).symm, fun m hm => (not_mem_nil hm).elim⟩

/-- What keeps the store whole: ids that do not come round, no player with auctions in the house has them all
removed, and an item is due to nobody who is gone or a hardcore player. -/
def StoreKept (cfg : AuctionConfig) (s : AuctionMgr) (a : AuctionStep) : Prop :=
  s.NewId cfg a ∧
  match a with
  | .placeBid w p _ _ => w.reaches p.guid = true
  | .update w h => ∀ ptr e, s.Held h ptr e → w.time > e.expireTime → w.reaches e.heir = true
  | .removeAll h guid accountId => s.auctionsOf h guid accountId = []
  | _ => True

theorem Delivered.step (hd : s.Delivered cfg) (hs : s.Coherent cfg) (hn : s.Numbered) (a : AuctionStep)
    (hkept : s.StoreKept cfg a) : (s.step cfg a).Delivered cfg := by
  obtain ⟨hid, hkept⟩ := hkept
  cases a with
  | sell w p r =>
    unfold AuctionMgr.step handleAuctionSellItem
    dsimp only
    split
    · exact hd
    · rename_i sale hok
      exact hd.openAuction hs (hn.fresh hid hok)
  | placeBid w p auctionId price =>
    unfold AuctionMgr.step handleAuctionPlaceBid
    dsimp only
    split
    · exact hd
    rename_i b hok
    have hheld := hs.getAuction (bidChecks_ok hok).found
    have hlt : b.ptr < s.opened.length := (hs.listed hheld).1.lt
    have hbid (amount : Nat) : (s.takeBid w b.ptr b.e p.guid amount).Delivered cfg := by
      obtain ⟨hhouses, hopened, -, hitems, -, -⟩ := s.takeBid_store w b.ptr b.e p.guid amount
      obtain ⟨extra, hmails, hnone⟩ := s.takeBid_mails w b.ptr b.e p.guid amount
      apply hd.mailed hhouses hopened hitems hmails
      intro m hm
      rw [(hnone m hm).1]
      exact ⟨hlt, (hnone m hm).2⟩
    split
    · exact hbid price
    obtain ⟨hs', hheld'⟩ := hs.takeBid hheld w p.guid b.e.buyout
    obtain ⟨hsame, hitems⟩ := (s.takeBid w b.ptr b.e p.guid b.e.buyout).settle_store cfg w b.ptr (bidOn b.e p.guid b.e.buyout)
    have hitem := hs'.items _ _ (hs'.listed hheld').1
    obtain ⟨extra, hmails, hown, hone⟩ := settle_mails cfg b.ptr (e := bidOn b.e p.guid b.e.buyout) hitem hkept
    exact (hbid b.e.buyout).close hs' hheld' hsame hitems extra hmails hown hone
  | removeItem w p auctionId =>
    show (s.handleAuctionRemoveItem cfg w p auctionId).1.Delivered cfg
    rcases s.removeItem_eq cfg w p auctionId with heq | ⟨h, ptr, e, money, hfound, -, -, -, ⟨-, heq⟩ | ⟨-, -, heq⟩⟩
    · rw [heq]
      exact hd
    · rw [heq]
      refine hd.close hs (hs.getAuction hfound) ⟨rfl, rfl, rfl, rfl, rfl⟩ (fun _ _ => rfl) _ rfl ?_ ⟨_, rfl, rfl⟩
      intro m hm
      rw [mem_singleton.1 hm]
    · rw [heq]
      obtain ⟨hsame, hitems⟩ := s.sendCancelled_store w ptr e
      have hmails : ∃ extra, (s.sendAuctionCancelledToBidderMail w ptr e).mails = s.mails ++ extra ∧
          ∀ m ∈ extra, m.auction = ptr ∧ m.item = none := by
        unfold sendAuctionCancelledToBidderMail
        split
        · refine ⟨_, rfl, ?_⟩
          intro m hm
          rw [mem_singleton.1 hm]
          exact ⟨rfl, rfl⟩
        · exact ⟨[], (append_nil _).symm, fun m hm => (not_mem_nil hm).elim⟩
      obtain ⟨extra, hmails, hnone⟩ := hmails
      let mail : AuctionMail := ⟨.canceled, ptr, e.itemTemplate, .none, p.guid, 0, some e.itemGuidLow⟩
      refine hd.close hs (hs.getAuction hfound)
        ⟨hsame.houses, hsame.entries, hsame.opened, hsame.auctionIds, hsame.nextAuctionId⟩ ?_ (extra ++ [mail]) ?_ ?_ ?_
      · intro g _
        exact congrArg (fun t : Table Nat AuctionItem => t.lookup g) hitems
      · rw [← append_assoc, ← hmails]
        rfl
      · intro m hm
        rcases mem_append.1 hm with hm | hm
        · exact (hnone m hm).1
        · rw [mem_singleton.1 hm]
      · have hempty : (extra.filter fun m => m.item.isSome) = [] := by
          rw [filter_eq_nil_iff]
          intro m hm
          rw [(hnone m hm).2]
          exact Bool.false_ne_true
        rw [filter_append, hempty]
        exact ⟨mail, rfl, rfl⟩
  | update w h =>
    apply (hs.update_rule (P := Delivered cfg) w h _ hd).2
    intro s' ptr e hs' hd' hheld' hheld hover
    obtain ⟨hsame, hitems⟩ := s'.expiring_store cfg w ptr e
    have hitem : (s'.aItems.lookup e.itemGuidLow).isSome := hs'.items ptr e.fresh (hs'.listed hheld').1
    obtain ⟨extra, hmails, hown, hone⟩ := expiring_mails cfg ptr hitem (hkept ptr e hheld hover)
    exact hd'.close hs' hheld' hsame hitems extra hmails hown hone
  | removeAll h guid accountId =>
    have hnothing : s.removeAllAuctions h guid accountId = s := by
      unfold removeAllAuctions
      rw [show s.auctionsOf h guid accountId = [] from hkept]
      rfl
    show (s.removeAllAuctions h guid accountId).Delivered cfg
    rw [hnothing]
    exact hd

/-! The store, as it is found. -/

/-- The three maps of every house hold the same auctions, each by its own id, buyout and account; the items are
those of the auctions, one each; an auction that is over has sent its item, once. -/
structure Sound (s : AuctionMgr) : Prop where
  idMap : ∀ h id ptr, (s.houses h).auctionsMap.lookup id = some ptr → ∃ e, s.Held h ptr e ∧ e.id = id
  prices : ∀ h, Index (s.houses h).orderedAuctionMap fun k ptr => ∃ e, s.Held h ptr e ∧ k = e.buyout
  accounts : ∀ h, Index (s.houses h).accountAuctionMap fun k ptr => ∃ e, s.Held h ptr e ∧ k = e.ownerAccount
  items : ∀ h ptr e, s.Held h ptr e → (s.aItems.lookup e.itemGuidLow).isSome ∧
    ∀ h' ptr' e', s.Held h' ptr' e' → e'.itemGuidLow = e.itemGuidLow → h' = h ∧ ptr' = ptr
  owned : ∀ g, (s.aItems.lookup g).isSome → ∃ h ptr e, s.Held h ptr e ∧ e.itemGuidLow = g
  up : ∀ h ptr e, s.Held h ptr e → s.itemMails ptr = []
  ended : ∀ ptr e, s.opened[ptr]? = some e → (∀ h e', ¬ s.Held h ptr e') →
    ∃ m, s.itemMails ptr = [m] ∧ m.item = some e.itemGuidLow

theorem Coherent.held_iff (hs : s.Coherent cfg) (h : Nat) (key : AuctionEntry → Nat) (hkey : ∀ e : AuctionEntry, key e.fresh = key e)
    (k ptr : Nat) : (∃ e, s.Held h ptr e ∧ k = key e) ↔ s.Keyed cfg h key k ptr := by
  constructor
  · rintro ⟨e, hheld, rfl⟩
    obtain ⟨hl, hhouse⟩ := hs.listed hheld
    exact ⟨e.fresh, hl, hhouse, (hkey e).symm⟩
  · rintro ⟨e, hl, hhouse, rfl⟩
    obtain ⟨e', hheld, rfl⟩ := hs.held hl
    rw [hhouse] at hheld
    exact ⟨e', hheld, hkey e'⟩

theorem Delivered.sound (hd : s.Delivered cfg) (hs : s.Coherent cfg) : s.Sound where
  idMap h id ptr hlookup := by
    obtain ⟨e, hopened, rfl, rfl⟩ := hs.idMap h id ptr hlookup
    obtain ⟨e', hheld, rfl⟩ := hs.held ⟨hopened, hlookup⟩
    exact ⟨e', hheld, rfl⟩
  prices h := (hs.prices h).congr (hs.held_iff h buyout fun _ => rfl)
  accounts h := (hs.accounts h).congr (hs.held_iff h ownerAccount fun _ => rfl)
  items h ptr e hheld := by
    obtain ⟨hl, hhouse⟩ := hs.listed hheld
    refine ⟨hs.items ptr e.fresh hl, ?_⟩
    intro h' ptr' e' hheld' hitem
    obtain ⟨hl', hhouse'⟩ := hs.listed hheld'
    have heq : ptr' = ptr := hs.uniqueItem ptr' _ ptr _ hl' hl hitem
    subst heq
    have hfresh : e'.fresh = e.fresh := hl'.unique hl
    refine ⟨?_, rfl⟩
    calc h' = cfg.getAuctionsMap e'.fresh.houseId := hhouse'.symm
      _ = cfg.getAuctionsMap e.fresh.houseId := by rw [hfresh]
      _ = h := hhouse
  owned g hg := by
    obtain ⟨ptr, e, hl, hitem⟩ := hd.owned g hg
    obtain ⟨e', hheld, rfl⟩ := hs.held hl
    exact ⟨_, ptr, e', hheld, hitem⟩
  up h ptr e hheld := hd.waiting ptr _ (hs.listed hheld).1
  ended ptr e hopened hgone := by
    apply hd.delivered ptr e hopened
    intro hl
    obtain ⟨e', hheld, -⟩ := hs.held hl
    exact hgone _ e' hheld

theorem store_run (money : Table Nat Nat) {next : Nat} (hnext : next < 2 ^ 32) {steps : List AuctionStep}
    (hkept : Runs.Admitted (step cfg) (StoreKept cfg) (empty money next) steps) :
    let s := run (step cfg) (empty money next) steps
    s.Coherent cfg ∧ s.Numbered ∧ s.Delivered cfg := by
  apply invariant (I := fun s => s.Coherent cfg ∧ s.Numbered ∧ s.Delivered cfg) _ _ hkept
  · rintro s a ⟨hs, hn, hd⟩ hok
    exact ⟨hs.step hn a hok.1, hn.step hs a hok.1, hd.step hs hn a hok⟩
  · exact ⟨coherent_empty money next, numbered_empty money hnext, Delivered.empty money next⟩

/-- In every state of a run whose steps keep the store whole, it is sound. -/
theorem store_sound (money : Table Nat Nat) (next : Nat) (hnext : next < 2 ^ 32) (steps : List AuctionStep)
    (hkept : Runs.Admitted (step cfg) (StoreKept cfg) (empty money next) steps) :
    (Runs.run (step cfg) (empty money next) steps).Sound := by
  obtain ⟨hs, -, hd⟩ := store_run money hnext hkept
  exact hd.sound hs

end AuctionMgr

/-! One house, where character 1 sells and character 2 buys. -/

namespace AuctionSample

def cfg : AuctionConfig where
  getAuctionsMap _ := 0
  getAuctionDeposit _ _ _ := 5
  getAuctionCut _ bid := bid / 20
  auctionTime etime := etime
  limit := 0

def purses : Table Nat Nat := (AList.insert 1 100 ∅ : Table Nat Nat).insert 2 1000

def world (time : Nat) : AuctionWorld := ⟨fun _ => true, fun guid => guid + 10, fun _ => false, time⟩

def seller : AuctionPlayer := ⟨1, Nat.one_ne_zero, 11, false, true, some 1⟩

def buyer : AuctionPlayer := ⟨2, Nat.two_pos.ne', 12, false, true, some 1⟩

def sword : AuctionItem := ⟨25, 1, 1, 40, true, false, false, 0⟩

/-- For two hours, from 100 on, without a buyout. -/
def offer : SellRequest := ⟨7, 100, 0, 120, some sword, false⟩

def putUp : AuctionStep := .sell (world 0) seller offer

def sold : List AuctionStep := [putUp, .placeBid (world 10) buyer 1 100, .update (world 7201) 0]

def removed : List AuctionStep := [putUp, .removeAll 0 1 11]

theorem reaches_all (time guid : Nat) : (world time).reaches guid = true := rfl

theorem not_zero : (AuctionMgr.empty purses 1).generateAuctionID ≠ 0 := one_ne_zero

end AuctionSample

namespace AuctionMgr

open AuctionSample in
theorem store_sound_sample : (Runs.run (step cfg) (empty purses 1) sold).Sound := by
  apply store_sound purses 1 (by decide) sold
  refine ⟨⟨?_, trivial⟩, ⟨trivial, rfl⟩, ⟨trivial, ?_⟩, trivial⟩
  · exact fun _ _ hzero => absurd hzero not_zero
  · exact fun _ e _ _ => reaches_all 7201 e.heir

open AuctionSample in
/-- The seller's auctions are removed, and the item stays in the item map. -/
theorem item_left_behind : ¬ ∀ (cfg : AuctionConfig) (money : Table Nat Nat) (next : Nat), next < 2 ^ 32 →
    ∀ steps : List AuctionStep, (Runs.run (step cfg) (empty money next) steps).Sound := by
  intro hclaim
  have hs := hclaim cfg purses 1 (by decide) removed
  obtain ⟨h, ptr, e, ⟨-, hlookup⟩, -⟩ := hs.owned 7 rfl
  have hnone : ((run (step cfg) (empty purses 1) removed).houses h).auctionsMap.lookup e.id = none := by
    by_cases hzero : h = 0
    · subst hzero
      rfl
    · have hempty : (run (step cfg) (empty purses 1) removed).houses h = AuctionHouseObject.empty :=
        (if_neg hzero).trans (if_neg hzero)
      rw [hempty]
      rfl
  rw [hnone] at hlookup
  cases hlookup

end AuctionMgr

end ComfyCraft
