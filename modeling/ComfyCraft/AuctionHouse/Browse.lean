import ComfyCraft.Lib.Paging
import ComfyCraft.Lib.Text
import Mathlib.Data.List.Nodup
import Mathlib.Data.List.Perm.Subperm

/-! A player browses an auction house, fifty auctions at a time. A query for everything has a loop of its own; all others go through the
filters. -/

namespace ComfyCraft.AuctionBrowse

open List UInt32 Option Bool Paging

structure ItemPrototype where
  Class : UInt32
  SubClass : UInt32
  InventoryType : UInt32
  Quality : UInt32
  RequiredLevel : UInt32
  spellId : UInt32
  Name1 : Text

structure Item where
  proto : ItemPrototype
  randomPropertyId : Int

/-- The part of an auction that browsing reads; the rest is only sent on. -/
structure AuctionEntry where
  Id : UInt32
  itemGuidLow : UInt32
  lockedIpAddress : Text
deriving DecidableEq

/-- The auctions of a house in the order they are listed in; each has a number of its own, and none the number 0. -/
structure AuctionHouseObject where
  OrderedAuctionMap : List AuctionEntry
  ids : (OrderedAuctionMap.map AuctionEntry.Id).Nodup
  nonzero : ∀ e ∈ OrderedAuctionMap, e.Id ≠ 0

structure AuctionHouseClientQuery where
  wsearchedname : Text
  levelmin : UInt8
  levelmax : UInt8
  usable : UInt8
  listfrom : UInt32
  auctionSlotID : UInt32
  auctionMainCategory : UInt32
  auctionSubCategory : UInt32
  quality : UInt32

/-- The player, and what the server knows of items and spells: `effectTrigger` is the spell a spell's first effect triggers, if there is the
spell, and `nameFits` compares the item's localised name with the searched one. -/
structure Player where
  remoteAddress : Text
  GetAItem : UInt32 → Option Item
  CanUseItem : Item → Bool
  HasSpell : UInt32 → Bool
  effectTrigger : UInt32 → Option UInt32
  nameFits : Item → Text → Bool

/-- The answer so far: what has been written of each auction, and the two counters. -/
structure Reply where
  data : List (AuctionEntry × Item)
  count : UInt32
  totalcount : UInt32

def Reply.empty : Reply := ⟨[], 0, 0⟩

def ANY : UInt32 := 0xffffffff

def INVTYPE_CHEST : UInt32 := 5

def INVTYPE_ROBE : UInt32 := 20

def ITEM_CLASS_RECIPE : UInt32 := 9

def AuctionEntry.IsAvailableFor (e : AuctionEntry) (player : Player) : Bool :=
  e.lockedIpAddress.isEmpty || e.lockedIpAddress = player.remoteAddress

/-- What is sent of an auction is a matter of the auction and its item; nothing where there is no item. -/
def AuctionEntry.BuildAuctionInfo (e : AuctionEntry) (player : Player) (data : List (AuctionEntry × Item)) : List (AuctionEntry × Item) :=
  match player.GetAItem e.itemGuidLow with
  | none => data
  | some item => data ++ [(e, item)]

def AuctionHouseClientQuery.isForAll (query : AuctionHouseClientQuery) : Bool :=
  query.auctionMainCategory = ANY && query.auctionSubCategory = ANY && query.auctionSlotID = ANY && query.quality = ANY &&
    query.levelmin = 0 && query.levelmax = 0 && query.usable = 0 && query.wsearchedname.isEmpty

def listAll (player : Player) : List AuctionEntry → Reply → Reply
  | [], r => r
  | e :: rest, r =>
    if !e.IsAvailableFor player then listAll player rest r
    else
      let r' := { r with data := e.BuildAuctionInfo player r.data, count := r.count + 1 }
      if 50 ≤ r'.count then r' else listAll player rest r'

def AuctionHouseClientQuery.keeps (query : AuctionHouseClientQuery) (player : Player) (e : AuctionEntry) (item : Item) : Bool :=
  !(query.auctionMainCategory ≠ ANY && item.proto.Class ≠ query.auctionMainCategory) &&
    !(query.auctionSubCategory ≠ ANY && item.proto.SubClass ≠ query.auctionSubCategory) &&
    !(query.auctionSlotID ≠ ANY && item.proto.InventoryType ≠ query.auctionSlotID &&
      (query.auctionSlotID ≠ INVTYPE_CHEST || query.auctionSlotID = INVTYPE_CHEST && item.proto.InventoryType ≠ INVTYPE_ROBE)) &&
    !(query.quality ≠ ANY && item.proto.Quality < query.quality) &&
    !(query.levelmin ≠ 0 && (item.proto.RequiredLevel < query.levelmin.toUInt32 ||
      query.levelmax ≠ 0 && query.levelmax.toUInt32 < item.proto.RequiredLevel)) &&
    !(query.usable ≠ 0 && !player.CanUseItem item) &&
    !(query.usable ≠ 0 && item.proto.Class = ITEM_CLASS_RECIPE && (player.effectTrigger item.proto.spellId).any player.HasSpell) &&
    e.IsAvailableFor player &&
    (query.wsearchedname.isEmpty || !item.proto.Name1.isEmpty && player.nameFits item query.wsearchedname)

def listTurn (player : Player) (query : AuctionHouseClientQuery) (r : Reply) (e : AuctionEntry) : Reply :=
  match player.GetAItem e.itemGuidLow with
  | none => r
  | some item =>
    if !query.keeps player e item then r
    else if r.count < 50 && query.listfrom ≤ r.totalcount then
      ⟨e.BuildAuctionInfo player r.data, r.count + 1, r.totalcount + 1⟩
    else { r with totalcount := r.totalcount + 1 }

def listFiltered (house : AuctionHouseObject) (player : Player) (query : AuctionHouseClientQuery) (r : Reply) : Reply :=
  house.OrderedAuctionMap.foldl (listTurn player query) r

def BuildListAuctionItems (house : AuctionHouseObject) (player : Player) (query : AuctionHouseClientQuery) (r : Reply) : Reply :=
  if query.isForAll then
    let r := { r with totalcount := UInt32.ofNat house.OrderedAuctionMap.length }
    if query.listfrom < r.totalcount then listAll player (house.OrderedAuctionMap.drop query.listfrom.toNat) r else r
  else listFiltered house player query r

/-! ### The general loop -/

section Filtered

variable {player : Player} {query : AuctionHouseClientQuery} {e : AuctionEntry} {l : List AuctionEntry} {house : AuctionHouseObject}

def shown (player : Player) (query : AuctionHouseClientQuery) (e : AuctionEntry) : Option (AuctionEntry × Item) :=
  ((player.GetAItem e.itemGuidLow).filter (query.keeps player e)).map fun item => (e, item)

def matching (house : AuctionHouseObject) (player : Player) (query : AuctionHouseClientQuery) : List (AuctionEntry × Item) :=
  house.OrderedAuctionMap.filterMap (shown player query)

variable {data : List (AuctionEntry × Item)}

theorem BuildAuctionInfo_some {item : Item} (h : player.GetAItem e.itemGuidLow = some item) :
    e.BuildAuctionInfo player data = data ++ [(e, item)] := by
  unfold AuctionEntry.BuildAuctionInfo
  rw [h]

def Reply.ofPage (data : List (AuctionEntry × Item)) (total : Nat) : Reply := ⟨data, UInt32.ofNat data.length, UInt32.ofNat total⟩

theorem listTurn_skip (h : shown player query e = none) (r : Reply) : listTurn player query r e = r := by
  unfold listTurn
  cases hitem : player.GetAItem e.itemGuidLow with
  | none => rfl
  | some item =>
    unfold shown at h
    rw [hitem] at h
    have hkeeps : query.keeps player e item = false := by
      simpa using h
    simp [hkeeps]

theorem ofNat_succ (n : Nat) : UInt32.ofNat (n + 1) = UInt32.ofNat n + 1 := ofNat_add ..

/-- One auction that is kept: on the page where it has begun and has room, and counted either way. -/
theorem listTurn_shown {total : Nat} {x : AuctionEntry × Item} (h : shown player query e = some x)
    (hdata : data.length ≤ 50) (htotal : total < 2 ^ 32) :
    listTurn player query (Reply.ofPage data total) e =
      Reply.ofPage (data ++ if data.length < 50 ∧ query.listfrom.toNat ≤ total then [x] else []) (total + 1) := by
  obtain ⟨item, hfilter, rfl⟩ := map_eq_some_iff.1 h
  obtain ⟨hitem, hkeeps⟩ := filter_eq_some_iff.1 hfilter
  have hroom : ((UInt32.ofNat data.length < 50 && query.listfrom ≤ UInt32.ofNat total) = true) ↔
      data.length < 50 ∧ query.listfrom.toNat ≤ total := by
    have hlen : data.length < 2 ^ 32 := by omega
    have hcount : (UInt32.ofNat data.length).toNat = data.length := toNat_ofNat_of_lt' hlen
    have hsum : (UInt32.ofNat total).toNat = total := toNat_ofNat_of_lt' htotal
    rw [and_eq_true, decide_eq_true_eq, decide_eq_true_eq, lt_iff_toNat_lt, le_iff_toNat_le, hcount, hsum]
    rfl
  unfold listTurn Reply.ofPage
  rw [hitem]
  dsimp only
  rw [hkeeps, Bool.not_true, if_neg Bool.false_ne_true]
  by_cases hpage : data.length < 50 ∧ query.listfrom.toNat ≤ total
  · rw [if_pos (hroom.2 hpage), if_pos hpage, BuildAuctionInfo_some hitem, length_append, length_singleton, ofNat_succ, ofNat_succ]
  · rw [if_neg (mt hroom.1 hpage), if_neg hpage, append_nil, ofNat_succ]

/-- What the loop has answered after some auctions. -/
theorem foldl_listTurn (player : Player) (query : AuctionHouseClientQuery) (l : List AuctionEntry) (hlen : l.length < 2 ^ 32) :
    l.foldl (listTurn player query) Reply.empty =
      Reply.ofPage (Paging.page 50 query.listfrom.toNat (l.filterMap (shown player query))) (l.filterMap (shown player query)).length := by
  induction l using reverseRecOn with
  | nil => simp [page, Reply.ofPage, Reply.empty]
  | append_singleton l e ih =>
    rw [length_append, length_singleton] at hlen
    have hkept := length_filterMap_le (shown player query) l
    rw [foldl_append, ih (by omega), foldl_cons, foldl_nil, filterMap_append]
    cases hshown : shown player query e with
    | none =>
      rw [listTurn_skip hshown]
      simp [hshown]
    | some x =>
      have hpage : (page 50 query.listfrom.toNat (l.filterMap (shown player query))).length ≤ 50 := length_take_le ..
      rw [listTurn_shown hshown hpage (by omega)]
      have hlast : [e].filterMap (shown player query) = [x] := by simp [hshown]
      rw [hlast, page_concat, length_append, length_singleton]

theorem AuctionHouseObject.length_lt (house : AuctionHouseObject) : house.OrderedAuctionMap.length < 2 ^ 32 := by
  have hnodup : (0 :: (house.OrderedAuctionMap.map AuctionEntry.Id).map UInt32.toNat).Nodup := by
    refine nodup_cons.2 ⟨fun hzero => ?_, house.ids.map fun _ _ h => UInt32.toNat_inj.1 h⟩
    obtain ⟨id, hid, htoNat⟩ := mem_map.1 hzero
    obtain ⟨e, he, rfl⟩ := mem_map.1 hid
    exact house.nonzero e he (UInt32.toNat_inj.1 htoNat)
  have hsub : (0 :: (house.OrderedAuctionMap.map AuctionEntry.Id).map UInt32.toNat) ⊆ range (2 ^ 32) := by
    intro n hn
    rcases mem_cons.1 hn with rfl | hn
    · exact mem_range.2 (Nat.two_pow_pos 32)
    · obtain ⟨id, -, rfl⟩ := mem_map.1 hn
      exact mem_range.2 id.toNat_lt
  have hle := (subperm_of_subset hnodup hsub).length_le
  rw [length_cons, length_map, length_map, length_range] at hle
  omega

theorem listFiltered_eq (house : AuctionHouseObject) (player : Player) (query : AuctionHouseClientQuery) :
    listFiltered house player query Reply.empty =
      Reply.ofPage (Paging.page 50 query.listfrom.toNat (matching house player query)) (matching house player query).length :=
  foldl_listTurn player query _ house.length_lt

def AuctionHouseClientQuery.at (query : AuctionHouseClientQuery) (start : UInt32) : AuctionHouseClientQuery := { query with listfrom := start }

/-- What the pages 0, 50, 100 and so on show, up to the total that is reported. -/
def walk (answer : UInt32 → Reply) : List (AuctionEntry × Item) :=
  (List.range (((answer 0).totalcount.toNat + 49) / 50)).flatMap fun i => (answer (UInt32.ofNat (50 * i))).data

/-- Page by page everything there is to show is shown once. -/
theorem walk_pages {answer : UInt32 → Reply} {l : List (AuctionEntry × Item)} (hlen : l.length < 2 ^ 32)
    (h : ∀ start, answer start = Reply.ofPage (Paging.page 50 start.toNat l) l.length) : walk answer = l := by
  have htotal : (answer 0).totalcount.toNat = l.length := by
    rw [h]
    exact toNat_ofNat_of_lt' hlen
  unfold walk
  rw [htotal]
  refine Eq.trans (flatMap_congr fun i hi => ?_) (pages_all (by decide : 0 < 50) l)
  have hstart : 50 * i < 2 ^ 32 := by
    have hlt := mem_range.1 hi
    omega
  rw [h, toNat_ofNat_of_lt' hstart]
  rfl

theorem length_matching_lt (house : AuctionHouseObject) (player : Player) (query : AuctionHouseClientQuery) :
    (matching house player query).length < 2 ^ 32 :=
  Nat.lt_of_le_of_lt (length_filterMap_le _ _) house.length_lt

theorem walk_listFiltered (house : AuctionHouseObject) (player : Player) (query : AuctionHouseClientQuery) :
    walk (fun start => listFiltered house player (query.at start) Reply.empty) = matching house player query :=
  walk_pages (length_matching_lt house player query) fun start => listFiltered_eq house player (query.at start)

end Filtered

/-! ### The loop for everything -/

section All

variable {player : Player} {query : AuctionHouseClientQuery} {e : AuctionEntry} {l : List AuctionEntry} {house : AuctionHouseObject}

section

variable (h : query.isForAll = true)
include h

theorem keeps_of_isForAll (player : Player) (e : AuctionEntry) (item : Item) :
    query.keeps player e item = e.IsAvailableFor player := by
  unfold AuctionHouseClientQuery.isForAll at h
  simp only [and_eq_true, decide_eq_true_eq] at h
  obtain ⟨⟨⟨⟨⟨⟨⟨hmain, hsub⟩, hslot⟩, hquality⟩, hmin⟩, hmax⟩, husable⟩, hname⟩ := h
  unfold AuctionHouseClientQuery.keeps
  simp [hmain, hsub, hslot, hquality, hmin, husable, hname]

theorem shown_of_isForAll {item : Item} (hitem : player.GetAItem e.itemGuidLow = some item) :
    shown player query e = if e.IsAvailableFor player then some (e, item) else none := by
  unfold shown
  rw [hitem]
  cases havail : e.IsAvailableFor player <;> simp [keeps_of_isForAll h, havail]

/-- Where everything is available, the loop shows what comes next, as far as there is room. -/
theorem listAll_eq (l : List AuctionEntry)
    (havail : ∀ e ∈ l, e.IsAvailableFor player = true ∧ (player.GetAItem e.itemGuidLow).isSome = true)
    {data : List (AuctionEntry × Item)} (hroom : data.length < 50) (total : Nat) :
    listAll player l (Reply.ofPage data total) = Reply.ofPage (data ++ (l.filterMap (shown player query)).take (50 - data.length)) total := by
  induction l generalizing data with
  | nil => simp [listAll]
  | cons e l ih =>
    obtain ⟨hfree, hhas⟩ := havail e mem_cons_self
    obtain ⟨item, hitem⟩ := isSome_iff_exists.1 hhas
    have hshown : shown player query e = some (e, item) := by
      rw [shown_of_isForAll h hitem, if_pos hfree]
    obtain ⟨room, hroomEq⟩ : ∃ room, 50 - data.length = room + 1 := ⟨49 - data.length, by omega⟩
    have hlen : (data ++ [(e, item)]).length = data.length + 1 := length_append
    have hturn : listAll player (e :: l) (Reply.ofPage data total) =
        if 50 ≤ UInt32.ofNat (data.length + 1) then Reply.ofPage (data ++ [(e, item)]) total
        else listAll player l (Reply.ofPage (data ++ [(e, item)]) total) := by
      simp only [listAll, hfree, Reply.ofPage, BuildAuctionInfo_some hitem, hlen, ofNat_succ, Bool.not_true, if_neg Bool.false_ne_true]
    have hfull : 50 ≤ UInt32.ofNat (data.length + 1) ↔ 50 ≤ data.length + 1 := by
      have hlt : data.length + 1 < 2 ^ 32 := by omega
      rw [le_iff_toNat_le, toNat_ofNat_of_lt' hlt]
      rfl
    rw [hturn, filterMap_cons_some hshown, hroomEq, take_succ_cons]
    by_cases hlast : 50 ≤ data.length + 1
    · have hnone : room = 0 := by omega
      rw [if_pos (hfull.2 hlast), hnone, take_zero]
    · have hrest : 50 - (data ++ [(e, item)]).length = room := by omega
      rw [if_neg (mt hfull.1 hlast), ih (fun e' he' => havail e' (mem_cons_of_mem _ he')) (by omega), hrest, append_assoc,
        singleton_append]

theorem map_fst_shown (l : List AuctionEntry) (hitems : ∀ e ∈ l, (player.GetAItem e.itemGuidLow).isSome = true) :
    (l.filterMap (shown player query)).map Prod.fst = l.filter fun e => e.IsAvailableFor player := by
  induction l with
  | nil => rfl
  | cons e l ih =>
    obtain ⟨item, hitem⟩ := isSome_iff_exists.1 (hitems e mem_cons_self)
    have hrest := ih fun e' he' => hitems e' (mem_cons_of_mem _ he')
    have hshown := shown_of_isForAll h hitem
    cases hfree : e.IsAvailableFor player with
    | false =>
      rw [hfree, if_neg Bool.false_ne_true] at hshown
      rw [filterMap_cons_none hshown, filter_cons_of_neg (by simp [hfree]), hrest]
    | true =>
      rw [hfree, if_pos rfl] at hshown
      rw [filterMap_cons_some hshown, filter_cons_of_pos (by simp [hfree]), map_cons, hrest]

/-- Where nothing is left out, the places in the house are the places on the pages. -/
theorem filterMap_drop (l : List AuctionEntry)
    (havail : ∀ e ∈ l, e.IsAvailableFor player = true ∧ (player.GetAItem e.itemGuidLow).isSome = true) (start : Nat) :
    (l.drop start).filterMap (shown player query) = (l.filterMap (shown player query)).drop start := by
  induction l generalizing start with
  | nil => simp
  | cons e l ih =>
    obtain ⟨hfree, hhas⟩ := havail e mem_cons_self
    obtain ⟨item, hitem⟩ := isSome_iff_exists.1 hhas
    have hshown : shown player query e = some (e, item) := by
      rw [shown_of_isForAll h hitem, if_pos hfree]
    cases start with
    | zero => rfl
    | succ start =>
      rw [filterMap_cons_some hshown, drop_succ_cons, drop_succ_cons, ih fun e' he' => havail e' (mem_cons_of_mem _ he')]

/-- Where everything is available, the loop for everything shows the page that the general loop shows. -/
theorem BuildListAuctionItems_all
    (havail : ∀ e ∈ house.OrderedAuctionMap, e.IsAvailableFor player = true ∧ (player.GetAItem e.itemGuidLow).isSome = true) :
    BuildListAuctionItems house player query Reply.empty = listFiltered house player query Reply.empty := by
  have hlen : (matching house player query).length = house.OrderedAuctionMap.length := by
    have hall := filter_eq_self.2 fun e he => (havail e he).1
    rw [← length_map (f := Prod.fst), matching, map_fst_shown h _ fun e he => (havail e he).2, hall]
  have hbound : query.listfrom < UInt32.ofNat house.OrderedAuctionMap.length ↔ query.listfrom.toNat < house.OrderedAuctionMap.length := by
    rw [lt_iff_toNat_lt, toNat_ofNat_of_lt' house.length_lt]
  unfold BuildListAuctionItems
  rw [if_pos h, listFiltered_eq, hlen]
  by_cases hstart : query.listfrom.toNat < house.OrderedAuctionMap.length
  · rw [if_pos (hbound.2 hstart)]
    refine (listAll_eq h _ (fun e he => havail e (mem_of_mem_drop he)) (by decide : ([] : List (AuctionEntry × Item)).length < 50) _).trans ?_
    rw [filterMap_drop h _ havail]
    rfl
  · rw [if_neg (mt hbound.1 hstart), page, drop_eq_nil_of_le (by omega)]
    rfl

theorem totalcount_all (player : Player) :
    (BuildListAuctionItems house player query Reply.empty).totalcount.toNat = house.OrderedAuctionMap.length := by
  have hkept : ∀ (l : List AuctionEntry) (r : Reply), (listAll player l r).totalcount = r.totalcount := by
    intro l
    induction l with
    | nil => exact fun _ => rfl
    | cons e l ih =>
      intro r
      simp only [listAll]
      split
      · exact ih _
      split
      · rfl
      · exact ih _
  unfold BuildListAuctionItems
  rw [if_pos h]
  dsimp only
  split
  · rw [hkept]
    exact toNat_ofNat_of_lt' house.length_lt
  · exact toNat_ofNat_of_lt' house.length_lt

/-- An auction that is not available is not counted by the general loop. -/
theorem available_of_length (hitems : ∀ e ∈ house.OrderedAuctionMap, (player.GetAItem e.itemGuidLow).isSome = true)
    (hlen : (matching house player query).length = house.OrderedAuctionMap.length) :
    ∀ e ∈ house.OrderedAuctionMap, e.IsAvailableFor player = true := by
  intro e he
  obtain ⟨item, hitem⟩ := isSome_iff_exists.1 (hitems e he)
  have hshown := filterMap_length_eq_length.1 hlen e he
  rw [shown_of_isForAll h hitem] at hshown
  by_contra hlocked
  rw [if_neg hlocked] at hshown
  exact absurd hshown false_ne_true

theorem agrees_iff (hitems : ∀ e ∈ house.OrderedAuctionMap, (player.GetAItem e.itemGuidLow).isSome = true) :
    BuildListAuctionItems house player query Reply.empty = listFiltered house player query Reply.empty ↔
      ∀ e ∈ house.OrderedAuctionMap, e.IsAvailableFor player = true := by
  constructor
  · intro hagree
    have htotal : (BuildListAuctionItems house player query Reply.empty).totalcount.toNat = house.OrderedAuctionMap.length :=
      totalcount_all h player
    rw [hagree, listFiltered_eq] at htotal
    refine available_of_length h hitems (Eq.trans ?_ htotal)
    exact (toNat_ofNat_of_lt' (length_matching_lt house player query)).symm
  · exact fun havail => BuildListAuctionItems_all h fun e he => ⟨havail e he, hitems e he⟩

end

/-- The general loop, walked page by page, shows what the query keeps, once each. The loop for everything answers as the general loop would exactly
where each auction of the house is available to the player: it counts the others in the total, and skips over them to the start of a page. -/
theorem browse_agrees_iff (house : AuctionHouseObject) (player : Player)
    (hitems : ∀ e ∈ house.OrderedAuctionMap, (player.GetAItem e.itemGuidLow).isSome = true) :
    (∀ query : AuctionHouseClientQuery,
      walk (fun start => listFiltered house player (query.at start) Reply.empty) = matching house player query ∧
        (query.isForAll = false →
          walk (fun start => BuildListAuctionItems house player (query.at start) Reply.empty) = matching house player query)) ∧
      ∀ query : AuctionHouseClientQuery, query.isForAll = true →
        ((matching house player query).map Prod.fst = house.OrderedAuctionMap.filter fun e => e.IsAvailableFor player) ∧
        (∀ start, BuildListAuctionItems house player (query.at start) Reply.empty = listFiltered house player (query.at start) Reply.empty ↔
          ∀ e ∈ house.OrderedAuctionMap, e.IsAvailableFor player = true) ∧
        (((∀ start, BuildListAuctionItems house player (query.at start) Reply.empty =
              listFiltered house player (query.at start) Reply.empty) ∧
            (walk fun start => BuildListAuctionItems house player (query.at start) Reply.empty).map Prod.fst =
              house.OrderedAuctionMap.filter fun e => e.IsAvailableFor player) ↔
          ∀ e ∈ house.OrderedAuctionMap, e.IsAvailableFor player = true) := by
  refine ⟨fun query => ⟨walk_listFiltered house player query, fun hsome => ?_⟩, fun query h => ?_⟩
  · refine (congrArg walk (funext fun start => ?_)).trans (walk_listFiltered house player query)
    unfold BuildListAuctionItems
    have hsome' : (query.at start).isForAll = false := hsome
    rw [hsome', if_neg Bool.false_ne_true]
  · have hstart : ∀ start, BuildListAuctionItems house player (query.at start) Reply.empty =
        listFiltered house player (query.at start) Reply.empty ↔ ∀ e ∈ house.OrderedAuctionMap, e.IsAvailableFor player = true :=
      fun start => agrees_iff h hitems
    refine ⟨map_fst_shown h _ hitems, hstart, fun hagree => (hstart 0).1 (hagree.1 0), fun havail => ?_⟩
    have hagree := fun start => (hstart start).2 havail
    refine ⟨hagree, ?_⟩
    rw [funext hagree, walk_listFiltered, matching, map_fst_shown h _ hitems]

end All

namespace BrowseSample

def sword : Item := ⟨⟨2, 7, 13, 1, 1, 0, []⟩, 0⟩

def player : Player where
  remoteAddress := "10.0.0.1".toList
  GetAItem := fun _ => some sword
  CanUseItem := fun _ => true
  HasSpell := fun _ => false
  effectTrigger := fun _ => none
  nameFits := fun _ _ => true

def everything : AuctionHouseClientQuery := ⟨[], 0, 0, 0, 0, ANY, ANY, ANY, ANY⟩

/-- The first auction is kept for another address; the second is for all. -/
def house : AuctionHouseObject where
  OrderedAuctionMap := [⟨1, 11, "10.0.0.2".toList⟩, ⟨2, 12, []⟩]
  ids := by decide
  nonzero := by decide

theorem browse_agrees_house :
    (walk (fun start => listFiltered house player (everything.at start) Reply.empty)).map Prod.fst = [⟨2, 12, []⟩] ∧
      (∀ start, BuildListAuctionItems house player (everything.at start) Reply.empty ≠
        listFiltered house player (everything.at start) Reply.empty) := by
  obtain ⟨hfiltered, hall⟩ := browse_agrees_iff house player fun _ _ => rfl
  obtain ⟨hshown, hagrees, -⟩ := hall everything (by decide)
  refine ⟨?_, fun start hsame => ?_⟩
  · rw [(hfiltered everything).1, hshown]
    decide +kernel
  · exact absurd ((hagrees start).1 hsame ⟨1, 11, "10.0.0.2".toList⟩ List.mem_cons_self) (by decide +kernel)

/-- The loop for everything reports two auctions where it shows one; from the second place on it shows that one again. -/
theorem everything_counts_locked : (BuildListAuctionItems house player everything Reply.empty).totalcount = 2 ∧
      (listFiltered house player everything Reply.empty).totalcount = 1 ∧
      (BuildListAuctionItems house player (everything.at 1) Reply.empty).count = 1 ∧
      (listFiltered house player (everything.at 1) Reply.empty).count = 0 := by
  decide +kernel

end BrowseSample

end ComfyCraft.AuctionBrowse
