import ComfyCraft.AuctionHouse.Handlers
import ComfyCraft.Lib.Index

/-! The maps of the auction houses hold the same auctions. What the maps go by never changes after an auction is
opened, so the invariant is stated of the auctions as they were opened: an auction is listed while the id map of
its house has its address, and the price map, the account map, the entries and the items follow. -/

namespace ComfyCraft

open List Option AList AuctionHouseObject AuctionEntry

def AuctionEntry.fresh (e : AuctionEntry) : AuctionEntry := { e with bid := 0, bidder := 0 }

namespace AuctionMgr

variable {cfg : AuctionConfig} {s s' : AuctionMgr} {h ptr : Nat} {e : AuctionEntry}

/-- The auction at an address is in its house. -/
def Listed (cfg : AuctionConfig) (s : AuctionMgr) (ptr : Nat) (e : AuctionEntry) : Prop :=
  s.opened[ptr]? = some e ∧ (s.houses (cfg.getAuctionsMap e.houseId)).auctionsMap.lookup e.id = some ptr

/-- An entry that the id map of a house leads to. -/
def Held (s : AuctionMgr) (h ptr : Nat) (e : AuctionEntry) : Prop :=
  s.entries.lookup ptr = some e ∧ (s.houses h).auctionsMap.lookup e.id = some ptr

/-- What a map by some key should hold for a house. -/
def Keyed (cfg : AuctionConfig) (s : AuctionMgr) (h : Nat) (key : AuctionEntry → Nat) (k ptr : Nat) : Prop :=
  ∃ e, s.Listed cfg ptr e ∧ cfg.getAuctionsMap e.houseId = h ∧ k = key e

structure Coherent (cfg : AuctionConfig) (s : AuctionMgr) : Prop where
  idMap : ∀ h id ptr, (s.houses h).auctionsMap.lookup id = some ptr →
    ∃ e, s.opened[ptr]? = some e ∧ e.id = id ∧ cfg.getAuctionsMap e.houseId = h
  prices : ∀ h, Index (s.houses h).orderedAuctionMap (s.Keyed cfg h AuctionEntry.buyout)
  accounts : ∀ h, Index (s.houses h).accountAuctionMap (s.Keyed cfg h AuctionEntry.ownerAccount)
  entries : ∀ ptr e, s.entries.lookup ptr = some e → s.opened[ptr]? = some e.fresh
  kept : ∀ ptr e, s.Listed cfg ptr e → (s.entries.lookup ptr).isSome
  ids : ∀ ptr e, s.Listed cfg ptr e → e.id ∈ s.auctionIds
  uniqueId : ∀ ptr e ptr' e', s.Listed cfg ptr e → s.Listed cfg ptr' e' → e.id = e'.id → ptr = ptr'
  items : ∀ ptr e, s.Listed cfg ptr e → (s.aItems.lookup e.itemGuidLow).isSome
  uniqueItem : ∀ ptr e ptr' e', s.Listed cfg ptr e → s.Listed cfg ptr' e' → e.itemGuidLow = e'.itemGuidLow → ptr = ptr'

variable {e' : AuctionEntry}

theorem Listed.unique (hl : s.Listed cfg ptr e) (hl' : s.Listed cfg ptr e') : e = e' :=
  some.inj (hl.1.symm.trans hl'.1)

theorem Coherent.listed (hs : s.Coherent cfg) (hheld : s.Held h ptr e) :
    s.Listed cfg ptr e.fresh ∧ cfg.getAuctionsMap e.houseId = h := by
  obtain ⟨e₀, hopened, -, hhouse⟩ := hs.idMap h e.id ptr hheld.2
  have heq : e.fresh = e₀ := some.inj ((hs.entries ptr e hheld.1).symm.trans hopened)
  subst heq
  have hhouse : cfg.getAuctionsMap e.houseId = h := hhouse
  refine ⟨⟨hopened, ?_⟩, hhouse⟩
  show (s.houses (cfg.getAuctionsMap e.houseId)).auctionsMap.lookup e.id = some ptr
  rw [hhouse]
  exact hheld.2

theorem Coherent.held (hs : s.Coherent cfg) (hl : s.Listed cfg ptr e) :
    ∃ e', s.Held (cfg.getAuctionsMap e.houseId) ptr e' ∧ e'.fresh = e := by
  obtain ⟨e', he'⟩ := isSome_iff_exists.1 (hs.kept ptr e hl)
  have heq : e'.fresh = e := some.inj ((hs.entries ptr e' he').symm.trans hl.1)
  subst heq
  exact ⟨e', ⟨he', hl.2⟩, rfl⟩

/-- The same auctions in the same places; items are not spoken of. -/
structure SameStore (s s' : AuctionMgr) : Prop where
  houses : s'.houses = s.houses
  entries : s'.entries = s.entries
  opened : s'.opened = s.opened
  auctionIds : s'.auctionIds = s.auctionIds
  nextAuctionId : s'.nextAuctionId = s.nextAuctionId

theorem SameStore.trans {s'' : AuctionMgr} (h : SameStore s s') (h' : SameStore s' s'') : SameStore s s'' :=
  ⟨h'.houses.trans h.houses, h'.entries.trans h.entries, h'.opened.trans h.opened, h'.auctionIds.trans h.auctionIds,
    h'.nextAuctionId.trans h.nextAuctionId⟩

section

variable (hs : s.Coherent cfg) (hhouses : s'.houses = s.houses) (hopened : s'.opened = s.opened)
  (hids : s'.auctionIds = s.auctionIds)
include hs hhouses hopened hids

/-- The maps and the ids are those of a coherent store; entries and items are looked at again. -/
theorem Coherent.transfer (hentries : ∀ ptr e, s'.entries.lookup ptr = some e → s.opened[ptr]? = some e.fresh)
    (hkept : ∀ ptr e, s.Listed cfg ptr e → (s'.entries.lookup ptr).isSome)
    (hitems : ∀ ptr e, s.Listed cfg ptr e → (s'.aItems.lookup e.itemGuidLow).isSome) : s'.Coherent cfg := by
  have hlisted (ptr : Nat) (e : AuctionEntry) : s'.Listed cfg ptr e ↔ s.Listed cfg ptr e := by
    unfold Listed
    rw [hhouses, hopened]
  have hkeyed (h : Nat) (key : AuctionEntry → Nat) (k ptr : Nat) : s'.Keyed cfg h key k ptr ↔ s.Keyed cfg h key k ptr := by
    unfold Keyed
    simp only [hlisted]
  constructor
  · intro h id ptr hlookup
    rw [hopened]
    rw [hhouses] at hlookup
    exact hs.idMap h id ptr hlookup
  · intro h
    rw [hhouses]
    exact (hs.prices h).congr (hkeyed h _)
  · intro h
    rw [hhouses]
    exact (hs.accounts h).congr (hkeyed h _)
  · rw [hopened]
    exact hentries
  · intro p e hl
    exact hkept p e ((hlisted p e).1 hl)
  · intro p e hl
    rw [hids]
    exact hs.ids p e ((hlisted p e).1 hl)
  · intro p e p' e' hl hl'
    exact hs.uniqueId p e p' e' ((hlisted p e).1 hl) ((hlisted p' e').1 hl')
  · intro p e hl
    exact hitems p e ((hlisted p e).1 hl)
  · intro p e p' e' hl hl'
    exact hs.uniqueItem p e p' e' ((hlisted p e).1 hl) ((hlisted p' e').1 hl')

/-- An auction changes in its bid alone. -/
theorem Coherent.rebid (hitems : s'.aItems = s.aItems)
    (hentries : s'.entries = s.entries.insert ptr e') (he : s.entries.lookup ptr = some e) (hfresh : e'.fresh = e.fresh) :
    s'.Coherent cfg := by
  apply hs.transfer hhouses hopened hids
  · intro p e₁ hlookup
    rw [hentries] at hlookup
    by_cases heq : p = ptr
    · subst heq
      rw [lookup_insert] at hlookup
      cases hlookup
      rw [hfresh]
      exact hs.entries p e he
    · rw [lookup_insert_ne heq] at hlookup
      exact hs.entries p e₁ hlookup
  · intro p e₁ hl
    rw [hentries]
    by_cases heq : p = ptr
    · subst heq
      rw [lookup_insert]
      rfl
    · rw [lookup_insert_ne heq]
      exact hs.kept p e₁ hl
  · intro p e₁ hl
    rw [hitems]
    exact hs.items p e₁ hl

end

/-! An auction is opened. -/

theorem listed_openAuction (hs : s.Coherent cfg) (item : AuctionItem) (hid : e.id ∉ s.auctionIds) (p : Nat) (e' : AuctionEntry) :
    (s.openAuction cfg e item).Listed cfg p e' ↔ s.Listed cfg p e' ∨ (p = s.opened.length ∧ e' = e) := by
  have hopened : (s.openAuction cfg e item).opened = s.opened ++ [e] := rfl
  have hhouses (h : Nat) : (s.openAuction cfg e item).houses h =
      if h = cfg.getAuctionsMap e.houseId then (s.houses h).addAuction s.opened.length e else s.houses h := by
    show (if h = _ then _ else _) = _
    split
    · rename_i heq
      rw [heq]
      rfl
    · rfl
  unfold Listed
  rw [hopened, hhouses]
  rcases Nat.lt_or_ge p s.opened.length with hlt | hge
  · rw [getElem?_append_left hlt]
    have hne : p ≠ s.opened.length := Nat.ne_of_lt hlt
    simp only [hne, false_and, or_false]
    apply and_congr_right
    intro he'
    split
    · rename_i hhouse
      by_cases heq : e'.id = e.id
      · constructor
        · intro hlookup
          rw [addAuction, heq, lookup_insert] at hlookup
          exact absurd (some.inj hlookup).symm hne
        · intro hlookup
          have hmem := hs.ids p e' ⟨he', hlookup⟩
          rw [heq] at hmem
          exact absurd hmem hid
      · rw [addAuction, lookup_insert_ne heq]
    · exact Iff.rfl
  · constructor
    · rintro ⟨he', hlookup⟩
      rw [getElem?_append_right hge] at he'
      have hzero : p - s.opened.length = 0 := by
        by_contra hne
        rw [getElem?_eq_none (by simp; omega)] at he'
        cases he'
      rw [hzero] at he'
      exact .inr ⟨by omega, (some.inj he').symm⟩
    · rintro (⟨he', -⟩ | ⟨rfl, rfl⟩)
      · rw [getElem?_eq_none hge] at he'
        cases he'
      · refine ⟨by simp, ?_⟩
        rw [if_pos rfl, addAuction, lookup_insert]

theorem Listed.lt (hl : s.Listed cfg ptr e) : ptr < s.opened.length := (List.getElem?_eq_some_iff.1 hl.1).1

theorem Coherent.openAuction (hs : s.Coherent cfg) (item : AuctionItem) (hid : e.id ∉ s.auctionIds)
    (hitem : s.aItems.lookup e.itemGuidLow = none) (hfresh : e.fresh = e) : (s.openAuction cfg e item).Coherent cfg := by
  have hlisted := listed_openAuction hs item hid
  have hopened : (s.openAuction cfg e item).opened = s.opened ++ [e] := rfl
  have hentries : (s.openAuction cfg e item).entries = s.entries.insert s.opened.length e := rfl
  have hitems : (s.openAuction cfg e item).aItems = s.aItems.insert e.itemGuidLow item := rfl
  have hids : (s.openAuction cfg e item).auctionIds = e.id :: s.auctionIds := rfl
  have hhouse : (s.openAuction cfg e item).houses (cfg.getAuctionsMap e.houseId) =
      (s.houses (cfg.getAuctionsMap e.houseId)).addAuction s.opened.length e := if_pos rfl
  have hother (h : Nat) (hne : h ≠ cfg.getAuctionsMap e.houseId) : (s.openAuction cfg e item).houses h = s.houses h :=
    if_neg hne
  have hnew (h : Nat) (key : AuctionEntry → Nat) (k : Nat) : ¬ s.Keyed cfg h key k s.opened.length := by
    rintro ⟨e', hl, -⟩
    exact absurd hl.lt (Nat.lt_irrefl _)
  have hkeyed (h : Nat) (key : AuctionEntry → Nat) (k p : Nat) : (s.openAuction cfg e item).Keyed cfg h key k p ↔
      s.Keyed cfg h key k p ∨ (cfg.getAuctionsMap e.houseId = h ∧ k = key e ∧ p = s.opened.length) := by
    unfold Keyed
    constructor
    · rintro ⟨e', hl, hmap, hk⟩
      rcases (hlisted p e').1 hl with hl | ⟨rfl, rfl⟩
      · exact .inl ⟨e', hl, hmap, hk⟩
      · exact .inr ⟨hmap, hk, rfl⟩
    · rintro (⟨e', hl, hmap, hk⟩ | ⟨hmap, hk, rfl⟩)
      · exact ⟨e', (hlisted p e').2 (.inl hl), hmap, hk⟩
      · exact ⟨e, (hlisted _ e).2 (.inr ⟨rfl, rfl⟩), hmap, hk⟩
  -- What holds of an auction that was listed before, or of the new one, holds of every listed one.
  have hindex (key : AuctionEntry → Nat) {m : List (Nat × Nat)} (hm : Index m (s.Keyed cfg (cfg.getAuctionsMap e.houseId) key)) :
      Index (m ++ [(key e, s.opened.length)]) ((s.openAuction cfg e item).Keyed cfg (cfg.getAuctionsMap e.houseId) key) := by
    apply hm.add (hnew _ key _)
    intro k p
    rw [hkeyed]
    simp only [true_and]
  have hkept (h : Nat) (hne : h ≠ cfg.getAuctionsMap e.houseId) (key : AuctionEntry → Nat) (k p : Nat) :
      (s.openAuction cfg e item).Keyed cfg h key k p ↔ s.Keyed cfg h key k p := by
    rw [hkeyed]
    constructor
    · rintro (hk | ⟨hmap, -⟩)
      · exact hk
      · exact absurd hmap.symm hne
    · exact .inl
  constructor
  · intro h id p hlookup
    by_cases heq : h = cfg.getAuctionsMap e.houseId
    · subst heq
      rw [hhouse, addAuction] at hlookup
      by_cases hsame : id = e.id
      · subst hsame
        rw [lookup_insert] at hlookup
        cases hlookup
        exact ⟨e, ((hlisted _ e).2 (.inr ⟨rfl, rfl⟩)).1, rfl, rfl⟩
      · rw [lookup_insert_ne hsame] at hlookup
        obtain ⟨e', he', hrest⟩ := hs.idMap _ id p hlookup
        refine ⟨e', ?_, hrest⟩
        rw [hopened, List.getElem?_append_left (List.getElem?_eq_some_iff.1 he').1]
        exact he'
    · rw [hother h heq] at hlookup
      obtain ⟨e', he', hrest⟩ := hs.idMap h id p hlookup
      refine ⟨e', ?_, hrest⟩
      rw [hopened, List.getElem?_append_left (List.getElem?_eq_some_iff.1 he').1]
      exact he'
  · intro h
    by_cases heq : h = cfg.getAuctionsMap e.houseId
    · subst heq
      rw [hhouse]
      exact hindex buyout (hs.prices _)
    · rw [hother h heq]
      exact (hs.prices h).congr (hkept h heq _)
  · intro h
    by_cases heq : h = cfg.getAuctionsMap e.houseId
    · subst heq
      rw [hhouse]
      exact hindex ownerAccount (hs.accounts _)
    · rw [hother h heq]
      exact (hs.accounts h).congr (hkept h heq _)
  · intro p e' hlookup
    rw [hentries] at hlookup
    by_cases heq : p = s.opened.length
    · subst heq
      rw [lookup_insert] at hlookup
      cases hlookup
      rw [hfresh]
      exact ((hlisted _ e).2 (.inr ⟨rfl, rfl⟩)).1
    · rw [lookup_insert_ne heq] at hlookup
      have he' := hs.entries p e' hlookup
      rw [hopened, List.getElem?_append_left (List.getElem?_eq_some_iff.1 he').1]
      exact he'
  · intro p e' hl
    rw [hentries]
    by_cases heq : p = s.opened.length
    · subst heq
      rw [lookup_insert]
      rfl
    · rw [lookup_insert_ne heq]
      rcases (hlisted p e').1 hl with hl | ⟨hp, -⟩
      · exact hs.kept p e' hl
      · exact absurd hp heq
  · intro p e' hl
    rw [hids, mem_cons]
    rcases (hlisted p e').1 hl with hl | ⟨-, rfl⟩
    · exact .inr (hs.ids p e' hl)
    · exact .inl rfl
  · intro p e' p' e'' hl hl' heq
    rcases (hlisted p e').1 hl with hp | ⟨rfl, rfl⟩
    · rcases (hlisted p' e'').1 hl' with hp' | ⟨rfl, rfl⟩
      · exact hs.uniqueId p e' p' e'' hp hp' heq
      have hmem := hs.ids p e' hp
      rw [heq] at hmem
      exact absurd hmem hid
    · rcases (hlisted p' e'').1 hl' with hl' | ⟨rfl, -⟩
      · have hmem := hs.ids p' e'' hl'
        rw [← heq] at hmem
        exact absurd hmem hid
      · rfl
  · intro p e' hl
    rw [hitems]
    by_cases heq : e'.itemGuidLow = e.itemGuidLow
    · rw [heq, lookup_insert]
      rfl
    · rw [lookup_insert_ne heq]
      rcases (hlisted p e').1 hl with hl | ⟨-, rfl⟩
      · exact hs.items p e' hl
      · exact absurd rfl heq
  · intro p e' p' e'' hl hl' heq
    rcases (hlisted p e').1 hl with hp | ⟨rfl, rfl⟩
    · rcases (hlisted p' e'').1 hl' with hp' | ⟨rfl, rfl⟩
      · exact hs.uniqueItem p e' p' e'' hp hp' heq
      have hsome := hs.items p e' hp
      rw [heq, hitem] at hsome
      cases hsome
    · rcases (hlisted p' e'').1 hl' with hl' | ⟨rfl, -⟩
      · have hsome := hs.items p' e'' hl'
        rw [← heq, hitem] at hsome
        cases hsome
      · rfl

/-! An auction is removed. -/

section

variable (hs : s.Coherent cfg) (hheld : s.Held h ptr e)
include hs hheld

theorem Coherent.listed_removeAuction (p : Nat) (e' : AuctionEntry) :
    (s.removeAuction h e).Listed cfg p e' ↔ s.Listed cfg p e' ∧ p ≠ ptr := by
  obtain ⟨hl, hhouse⟩ := hs.listed hheld
  have hhouses (h' : Nat) : ((s.removeAuction h e).houses h').auctionsMap =
      if h' = h then (s.houses h).auctionsMap.erase e.id else (s.houses h').auctionsMap := by
    show (if h' = h then _ else _ : AuctionHouseObject).auctionsMap = _
    split <;> rfl
  have hid (hp : s.Listed cfg p e') : p = ptr ↔ e'.id = e.id := by
    constructor
    · rintro rfl
      rw [hp.unique hl]
      rfl
    · exact hs.uniqueId p e' ptr e.fresh hp hl
  unfold Listed
  rw [hhouses]
  constructor
  · rintro ⟨he', hlookup⟩
    have hne : e'.id ≠ e.id ∨ cfg.getAuctionsMap e'.houseId ≠ h := by
      by_contra hcon
      push Not at hcon
      rw [if_pos hcon.2, hcon.1, lookup_erase] at hlookup
      cases hlookup
    have hp : s.Listed cfg p e' := by
      refine ⟨he', ?_⟩
      split at hlookup
      · rename_i hmap
        rcases hne with hne | hne
        · rw [lookup_erase_ne hne] at hlookup
          rw [hmap]
          exact hlookup
        · exact absurd hmap hne
      · exact hlookup
    refine ⟨hp, ?_⟩
    intro heq
    rcases hne with hne | hne
    · exact hne ((hid hp).1 heq)
    subst heq
    rw [hp.unique hl] at hne
    exact hne hhouse
  · rintro ⟨hp, hne⟩
    refine ⟨hp.1, ?_⟩
    have hne : e'.id ≠ e.id := fun heq => hne ((hid hp).2 heq)
    split
    · rename_i hmap
      rw [lookup_erase_ne hne, ← hmap]
      exact hp.2
    · exact hp.2

/-- The range of a key in the price map, or in the account map, has the id of the auction once. -/
theorem Coherent.index_removeAuction {key : AuctionEntry → Nat}
    (hkey : ∀ e : AuctionEntry, key e.fresh = key e) {m : List (Nat × Nat)} (hm : Index m (s.Keyed cfg h key)) :
    Index (m.eraseP fun x => x.1 = key e && (s.entries.lookup x.2).map AuctionEntry.id = some e.id)
      ((s.removeAuction h e).Keyed cfg h key) := by
  obtain ⟨hl, hhouse⟩ := hs.listed hheld
  apply hm.remove (key e) ptr
  · rintro k p ⟨e', hp, hmap, rfl⟩
    simp only [Bool.and_eq_true, decide_eq_true_eq]
    constructor
    · rintro ⟨hk, hid⟩
      refine ⟨hk, ?_⟩
      obtain ⟨e'', he'', hid⟩ := map_eq_some_iff.1 hid
      have heq : e''.fresh = e' := some.inj ((hs.entries p e'' he'').symm.trans hp.1)
      subst heq
      exact hs.uniqueId p e''.fresh ptr e.fresh hp hl hid
    · rintro ⟨hk, rfl⟩
      refine ⟨hk, ?_⟩
      rw [hheld.1]
      rfl
  · intro k p
    unfold Keyed
    constructor
    · rintro ⟨e', hp, hmap, hk⟩
      obtain ⟨hp, hne⟩ := (hs.listed_removeAuction hheld p e').1 hp
      exact ⟨⟨e', hp, hmap, hk⟩, fun heq => hne heq.2⟩
    · rintro ⟨⟨e', hp, hmap, rfl⟩, hne⟩
      refine ⟨e', (hs.listed_removeAuction hheld p e').2 ⟨hp, ?_⟩, hmap, rfl⟩
      rintro rfl
      rw [hp.unique hl, hkey] at hne
      exact hne ⟨rfl, rfl⟩

theorem Coherent.removeAuction : (s.removeAuction h e).Coherent cfg := by
  have hlisted := hs.listed_removeAuction hheld
  obtain ⟨hl, hhouse⟩ := hs.listed hheld
  have hhere : (s.removeAuction h e).houses h =
      (s.houses h).removeAuction (fun ptr => (s.entries.lookup ptr).map AuctionEntry.id) e := if_pos rfl
  have hother (h' : Nat) (hne : h' ≠ h) : (s.removeAuction h e).houses h' = s.houses h' := if_neg hne
  have hkept (h' : Nat) (hne : h' ≠ h) (key : AuctionEntry → Nat) (k p : Nat) :
      (s.removeAuction h e).Keyed cfg h' key k p ↔ s.Keyed cfg h' key k p := by
    unfold Keyed
    constructor
    · rintro ⟨e', hp, hrest⟩
      exact ⟨e', ((hlisted p e').1 hp).1, hrest⟩
    · rintro ⟨e', hp, hmap, hk⟩
      refine ⟨e', (hlisted p e').2 ⟨hp, ?_⟩, hmap, hk⟩
      rintro rfl
      rw [hp.unique hl] at hmap
      exact hne (hmap.symm.trans hhouse)
  constructor
  · intro h' id p hlookup
    have hbefore : (s.houses h').auctionsMap.lookup id = some p := by
      by_cases heq : h' = h
      · subst heq
        rw [hhere, AuctionHouseObject.removeAuction] at hlookup
        by_cases hid : id = e.id
        · subst hid
          rw [lookup_erase] at hlookup
          cases hlookup
        · rwa [lookup_erase_ne hid] at hlookup
      · rwa [hother h' heq] at hlookup
    exact hs.idMap h' id p hbefore
  · intro h'
    by_cases heq : h' = h
    · subst heq
      rw [hhere]
      exact hs.index_removeAuction hheld (fun _ => rfl) (hs.prices h')
    · rw [hother h' heq]
      exact (hs.prices h').congr (hkept h' heq _)
  · intro h'
    by_cases heq : h' = h
    · subst heq
      rw [hhere]
      exact hs.index_removeAuction hheld (fun _ => rfl) (hs.accounts h')
    · rw [hother h' heq]
      exact (hs.accounts h').congr (hkept h' heq _)
  · exact hs.entries
  · intro p e' hp
    exact hs.kept p e' ((hlisted p e').1 hp).1
  · intro p e' hp
    obtain ⟨hp, hne⟩ := (hlisted p e').1 hp
    have hids : (s.removeAuction h e).auctionIds = s.auctionIds.filter (· ≠ e.id) := if_pos (by rw [hheld.2]; rfl)
    rw [hids, mem_filter]
    refine ⟨hs.ids p e' hp, decide_eq_true ?_⟩
    intro heq
    exact hne (hs.uniqueId p e' ptr e.fresh hp hl heq)
  · intro p e' p' e'' hp hp'
    exact hs.uniqueId p e' p' e'' ((hlisted p e').1 hp).1 ((hlisted p' e'').1 hp').1
  · intro p e' hp
    exact hs.items p e' ((hlisted p e').1 hp).1
  · intro p e' p' e'' hp hp'
    exact hs.uniqueItem p e' p' e'' ((hlisted p e').1 hp).1 ((hlisted p' e'').1 hp').1

/-- An auction ends; of the items only its own may have gone before. -/
theorem Coherent.close (hsame : SameStore s s')
    (hitems : ∀ g, g ≠ e.itemGuidLow → s'.aItems.lookup g = s.aItems.lookup g) : (s'.close h ptr e).Coherent cfg := by
  have hlisted := hs.listed_removeAuction hheld
  obtain ⟨hl, -⟩ := hs.listed hheld
  apply (hs.removeAuction hheld).transfer
  · unfold AuctionMgr.close AuctionMgr.removeAuction
    simp only [removeAItem, setHouse, hsame.houses, hsame.entries]
  · exact hsame.opened
  · unfold AuctionMgr.close AuctionMgr.removeAuction
    simp only [removeAItem, hsame.houses, hsame.auctionIds]
  · intro p e' hlookup
    have hlookup : (s'.entries.erase ptr).lookup p = some e' := hlookup
    rw [hsame.entries] at hlookup
    by_cases heq : p = ptr
    · subst heq
      rw [lookup_erase] at hlookup
      cases hlookup
    · rw [lookup_erase_ne heq] at hlookup
      exact hs.entries p e' hlookup
  · intro p e' hp
    obtain ⟨hp, hne⟩ := (hlisted p e').1 hp
    show ((s'.entries.erase ptr).lookup p).isSome
    rw [hsame.entries, lookup_erase_ne hne]
    exact hs.kept p e' hp
  · intro p e' hp
    obtain ⟨hp, hne⟩ := (hlisted p e').1 hp
    have hother : e'.itemGuidLow ≠ e.itemGuidLow := fun heq => hne (hs.uniqueItem p e' ptr e.fresh hp hl heq)
    show ((s'.aItems.erase e.itemGuidLow).lookup e'.itemGuidLow).isSome
    rw [lookup_erase_ne hother, hitems _ hother]
    exact hs.items p e' hp

end

end AuctionMgr

end ComfyCraft
