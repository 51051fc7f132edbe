import ComfyCraft.Loot.Rights
import ComfyCraft.Group.LootRollTally

/-! What becomes of an item that is rolled for. The roll of the group says who wins by its votes and draws, and counting it
out marks the item of the loot. -/

namespace ComfyCraft

open List Runs Table Prod LootItem

/-! ### Who leads a roll -/

namespace Roll

def deciding (r : Roll) : Option RollVote :=
  if 0 < r.votes .need then some .need else if 0 < r.votes .greed then some .greed else none

/-- A player with the highest draw among those whose kind of vote decides. -/
def Highest (r : Roll) (dice : Nat → Nat) (guid : Nat) : Prop :=
  ∃ vote, r.deciding = some vote ∧ r.playerVote.lookup guid = some vote ∧
    ∀ other, r.playerVote.lookup other = some vote → dice other ≤ dice guid

/-- The first of a list with the highest draw among those with a kind of vote. -/
def First (dice : Nat → Nat) (vote : RollVote) (l : List (Sigma fun _ : Nat => RollVote)) (guid : Nat) : Prop :=
  ∃ before after, l = before ++ ⟨guid, vote⟩ :: after ∧ (∀ e ∈ before, e.2 = vote → dice e.1 < dice guid) ∧
    ∀ e ∈ after, e.2 = vote → dice e.1 ≤ dice guid

/-- The first of the players with the highest draw, in the order of the votes. -/
def Leads (r : Roll) (dice : Nat → Nat) (guid : Nat) : Prop :=
  ∃ vote, r.deciding = some vote ∧ First dice vote r.playerVote.entries guid

/-- The totals tell whether there are votes of a kind. -/
structure Agrees (r : Roll) : Prop where
  need : 0 < r.totalNeed ↔ 0 < r.votes .need
  greed : 0 < r.totalGreed ↔ 0 < r.votes .greed

/-- How `CountTheRoll` ends the roll, where anybody can have won it. -/
def result (r : Roll) (dice : Nat → Nat) (online room : Nat → Bool) : Option RollEnd :=
  if 0 < r.totalNeed then (r.highest dice .need).map fun best => .won true best.1 (online best.1) (room best.1)
  else if 0 < r.totalGreed then (r.highest dice .greed).map fun best => .won false best.1 (online best.1) (room best.1)
  else some .passed

variable {r : Roll} {dice : Nat → Nat} {vote : RollVote}

variable {l : List (Sigma fun _ : Nat => RollVote)} {guid : Nat}

theorem exists_first (h : ∃ e ∈ l, e.2 = vote) : ∃ guid, First dice vote l guid := by
  induction l with
  | nil =>
    obtain ⟨e, he, -⟩ := h
    cases he
  | cons x l ih =>
    by_cases hrest : ∃ e ∈ l, e.2 = vote
    · obtain ⟨guid, before, after, hl, hbefore, hafter⟩ := ih hrest
      by_cases hx : x.2 = vote ∧ dice guid ≤ dice x.1
      · refine ⟨x.1, [], l, ?_, fun e he => absurd he not_mem_nil, fun e he hvote => ?_⟩
        · rw [nil_append, ← hx.1]
        rw [hl, mem_append, mem_cons] at he
        rcases he with he | rfl | he
        · exact (le_of_lt (hbefore e he hvote)).trans hx.2
        · exact hx.2
        · exact (hafter e he hvote).trans hx.2
      · refine ⟨guid, x :: before, after, by rw [hl, cons_append], fun e he hvote => ?_, hafter⟩
        rcases mem_cons.1 he with rfl | he
        · exact Nat.lt_of_not_le fun hle => hx ⟨hvote, hle⟩
        · exact hbefore e he hvote
    · obtain ⟨e, he, hvote⟩ := h
      rcases mem_cons.1 he with rfl | he
      · exact ⟨e.1, [], l, by rw [nil_append, ← hvote], fun e he => absurd he not_mem_nil,
          fun e' he' hvote' => absurd ⟨e', he', hvote'⟩ hrest⟩
      · exact absurd ⟨e, he, hvote⟩ hrest

/-- The loop of `CountTheRoll` over the votes. -/
theorem First.foldl (h : First dice vote l guid) {best : Nat × Nat} (hbest : best.2 < dice guid) :
    l.foldl (fun best e => if e.2 = vote ∧ best.2 < dice e.1 then (e.1, dice e.1) else best) best = (guid, dice guid) := by
  obtain ⟨before, after, rfl, hbefore, hafter⟩ := h
  rw [foldl_append, foldl_cons]
  have hlow : ∀ (l : List (Sigma fun _ : Nat => RollVote)) (best : Nat × Nat), (∀ e ∈ l, e.2 = vote → dice e.1 < dice guid) →
      best.2 < dice guid →
      (l.foldl (fun best e => if e.2 = vote ∧ best.2 < dice e.1 then (e.1, dice e.1) else best) best).2 < dice guid := by
    intro l
    induction l with
    | nil => exact fun _ _ h => h
    | cons e l ih =>
      intro best hall hlt
      rw [foldl_cons]
      split_ifs with hbetter
      · exact ih _ (fun e' he' => hall e' (mem_cons_of_mem _ he')) (hall e mem_cons_self hbetter.1)
      · exact ih _ (fun e' he' => hall e' (mem_cons_of_mem _ he')) hlt
  have hhigh : ∀ l : List (Sigma fun _ : Nat => RollVote), (∀ e ∈ l, e.2 = vote → dice e.1 ≤ dice guid) →
      l.foldl (fun best e => if e.2 = vote ∧ best.2 < dice e.1 then (e.1, dice e.1) else best) (guid, dice guid) = (guid, dice guid) := by
    intro l
    induction l with
    | nil => exact fun _ => rfl
    | cons e l ih =>
      intro hall
      have hnot : ¬ (e.2 = vote ∧ dice guid < dice e.1) := fun hbetter =>
        absurd (hall e mem_cons_self hbetter.1) (not_le.2 hbetter.2)
      rw [foldl_cons, if_neg hnot]
      exact ih fun e' he' => hall e' (mem_cons_of_mem _ he')
  rw [if_pos ⟨rfl, hlow before best hbefore hbest⟩]
  exact hhigh after hafter

theorem First.highest (h : First dice vote r.playerVote.entries guid) (hdice : ∀ guid, 0 < dice guid) :
    r.highest dice vote = some (guid, dice guid) := by
  unfold Roll.highest
  cases hentries : r.playerVote.entries with
  | nil =>
    rw [hentries] at h
    obtain ⟨before, after, hl, -⟩ := h
    cases before <;> cases hl
  | cons first rest =>
    rw [hentries] at h
    exact congrArg some (h.foldl (hdice guid))

theorem votes_pos_iff : 0 < r.votes vote ↔ ∃ e ∈ r.playerVote.entries, e.2 = vote := by
  unfold votes tally
  generalize r.playerVote.entries = l
  induction l with
  | nil => simp
  | cons e l ih =>
    rw [map_cons, sum_cons]
    dsimp only at ih ⊢
    split_ifs with hvote
    · exact ⟨fun _ => ⟨e, mem_cons_self, hvote⟩, fun _ => by omega⟩
    · rw [zero_add, ih]
      simp [hvote]

theorem deciding_votes (h : r.deciding = some vote) : 0 < r.votes vote := by
  unfold deciding at h
  split_ifs at h with hneed hgreed
  · cases h
    exact hneed
  · cases h
    exact hgreed

theorem exists_leads (h : r.deciding = some vote) : ∃ guid, r.Leads dice guid := by
  obtain ⟨guid, hfirst⟩ := exists_first (votes_pos_iff.1 (deciding_votes h))
  exact ⟨guid, vote, h, hfirst⟩

theorem Leads.highest (h : r.Leads dice guid) : r.Highest dice guid := by
  obtain ⟨vote, hdeciding, before, after, hentries, hbefore, hafter⟩ := h
  refine ⟨vote, hdeciding, lookup_eq_some_iff.2 (by rw [hentries]; simp), fun other hother => ?_⟩
  have hmem := lookup_eq_some_iff.1 hother
  rw [hentries, mem_append, mem_cons] at hmem
  rcases hmem with hmem | hmem | hmem
  · exact le_of_lt (hbefore _ hmem rfl)
  · cases hmem
    exact le_refl _
  · exact hafter _ hmem rfl

theorem Leads.result (h : r.Leads dice guid) (hagrees : r.Agrees) (hdice : ∀ guid, 0 < dice guid) (online room : Nat → Bool) :
    ∃ need, r.result dice online room = some (.won need guid (online guid) (room guid)) := by
  obtain ⟨vote, hdeciding, hfirst⟩ := h
  unfold Roll.result
  unfold deciding at hdeciding
  split_ifs at hdeciding with hneed hgreed
  · cases hdeciding
    rw [if_pos (hagrees.need.2 hneed), hfirst.highest hdice]
    exact ⟨true, rfl⟩
  · cases hdeciding
    rw [if_neg fun hpos => hneed (hagrees.need.1 hpos), if_pos (hagrees.greed.2 hgreed), hfirst.highest hdice]
    exact ⟨false, rfl⟩

theorem result_passed (h : r.deciding = none) (hagrees : r.Agrees) (online room : Nat → Bool) :
    r.result dice online room = some .passed := by
  unfold result
  unfold deciding at h
  split_ifs at h with hneed hgreed
  rw [if_neg fun hpos => hneed (hagrees.need.1 hpos), if_neg fun hpos => hgreed (hagrees.greed.1 hpos)]

end Roll

namespace LootTarget

/-! ### The items of a loot and the rolls for them -/

/-- `CountTheRoll` with the roll as the group has it. -/
def countRoll (t : LootTarget) (r : Roll) (dice : Nat → Nat) (online room : Nat → Bool) : LootTarget :=
  match r.result dice online room with
  | some result => t.countTheRoll r.itemSlot result
  | none => { t with rolls := t.rolls.erase r.itemSlot }

/-- An item that is rolled for. Only a master looter can have given it away meanwhile. -/
structure Pending (item : LootItem) : Prop where
  blocked : item.isBlocked = true
  owner : item.lootOwner = none
  left : item.isLooted = true → item.count = 0

/-- No item that is left is blocked without a roll. -/
def NoStray (items : List LootItem) (rolls : List Nat) : Prop :=
  ∀ slot item, items[slot]? = some item → item.isBlocked = true → item.isLooted = false → slot ∈ rolls

/-- As a fill leaves an item. -/
structure Fresh (item : LootItem) : Prop where
  blocked : item.isBlocked = false
  looted : item.isLooted = false
  owner : item.lootOwner = none
  count : item.count ≠ 0

structure Rolled (clean : Prop) (items : List LootItem) (rolls : List Nat) : Prop where
  nodup : rolls.Nodup
  pending : ∀ slot ∈ rolls, ∃ item, items[slot]? = some item ∧ Pending item
  left : ∀ item ∈ items, item.isLooted = false → item.count ≠ 0
  stray : clean → NoStray items rolls

variable {clean : Prop} {items : List LootItem} {rolls : List Nat}

theorem Rolled.fresh (h : ∀ item ∈ items, Fresh item) : Rolled clean items [] where
  nodup := nodup_nil
  pending slot hslot := absurd hslot not_mem_nil
  left item hitem _ := (h item hitem).count
  stray _ slot item hitem hblocked _ := by
    rw [(h item (mem_of_getElem? hitem)).blocked] at hblocked
    cases hblocked

def pendingKey (item : LootItem) : Bool × Bool × Option Nat × Nat := (item.isBlocked, item.isLooted, item.lootOwner, item.count)

variable {item : LootItem} {i slot guid : Nat} {f : LootItem → LootItem} {v : LootVisit} {result : RollEnd}

theorem pendingKey_eq {item' : LootItem} (h : pendingKey item = pendingKey item') :
    item.isBlocked = item'.isBlocked ∧ item.isLooted = item'.isLooted ∧ item.lootOwner = item'.lootOwner ∧ item.count = item'.count := by
  unfold pendingKey at h
  simpa [Prod.ext_iff] using h

theorem Rolled.keys (h : Rolled clean items rolls) {items' : List LootItem} (hk : items'.map pendingKey = items.map pendingKey) :
    Rolled clean items' rolls := by
  have hat : ∀ slot : Nat, (items'[slot]?).map pendingKey = (items[slot]?).map pendingKey := by
    intro slot
    rw [← getElem?_map, ← getElem?_map, hk]
  refine ⟨h.nodup, fun slot hslot => ?_, fun item' hitem' hleft => ?_, fun hclean slot item' hitem' hblocked hleft => ?_⟩
  · obtain ⟨item, hitem, hpending⟩ := h.pending slot hslot
    have hsame := hat slot
    rw [hitem, Option.map_some, Option.map_eq_some_iff] at hsame
    obtain ⟨item', hitem', hkey⟩ := hsame
    obtain ⟨h1, h2, h3, h4⟩ := pendingKey_eq hkey
    exact ⟨item', hitem', h1.trans hpending.blocked, h3.trans hpending.owner, fun hl => h4.trans (hpending.left (h2.symm.trans hl))⟩
  · obtain ⟨slot, hslot⟩ := getElem?_of_mem hitem'
    have hsame := (hat slot).symm
    rw [hslot, Option.map_some, Option.map_eq_some_iff] at hsame
    obtain ⟨item, hitem, hkey⟩ := hsame
    obtain ⟨-, h2, -, h4⟩ := pendingKey_eq hkey
    rw [← h4]
    exact h.left item (mem_of_getElem? hitem) (h2.trans hleft)
  · have hsame := (hat slot).symm
    rw [hitem', Option.map_some, Option.map_eq_some_iff] at hsame
    obtain ⟨item, hitem, hkey⟩ := hsame
    obtain ⟨h1, h2, -, -⟩ := pendingKey_eq hkey
    exact h.stray hclean slot item hitem (h1.trans hblocked) (h2.trans hleft)

/-- Where an item of a marked list comes from. -/
theorem modify_cases (h : (items.modify i f)[slot]? = some item) :
    (∃ before, items[slot]? = some before ∧ i = slot ∧ f before = item) ∨ i ≠ slot ∧ items[slot]? = some item := by
  by_cases hi : i = slot
  · subst hi
    rw [getElem?_modify_eq] at h
    obtain ⟨before, hbefore, hitem⟩ := Option.map_eq_some_iff.1 h
    exact .inl ⟨before, hbefore, rfl, hitem⟩
  · rw [getElem?_modify_ne _ _ hi] at h
    exact .inr ⟨hi, h⟩

/-- An item is marked, which leaves no more of it than before, and nothing less pending where it is rolled for. -/
theorem Rolled.modify (h : Rolled clean items rolls)
    (hleft : ∀ item, (f item).isLooted = false → item.isLooted = false ∧ (f item).count = item.count ∧ (f item).isBlocked = item.isBlocked)
    (hpending : i ∈ rolls → ∀ item, Pending item → Pending (f item)) : Rolled clean (items.modify i f) rolls := by
  refine ⟨h.nodup, fun slot hslot => ?_, fun item hitem hl => ?_, fun hclean slot item hitem hblocked hl => ?_⟩
  · obtain ⟨item, hitem, hp⟩ := h.pending slot hslot
    by_cases hi : i = slot
    · subst hi
      exact ⟨f item, by rw [getElem?_modify_eq, hitem]; rfl, hpending hslot item hp⟩
    · exact ⟨item, by rw [getElem?_modify_ne _ _ hi]; exact hitem, hp⟩
  · obtain ⟨slot, hslot⟩ := getElem?_of_mem hitem
    rcases modify_cases hslot with ⟨before, hbefore, -, rfl⟩ | ⟨-, hsame⟩
    · obtain ⟨h1, h2, -⟩ := hleft before hl
      rw [h2]
      exact h.left before (mem_of_getElem? hbefore) h1
    · exact h.left item (mem_of_getElem? hsame) hl
  · rcases modify_cases hitem with ⟨before, hbefore, -, rfl⟩ | ⟨-, hsame⟩
    · obtain ⟨h1, -, h3⟩ := hleft before hl
      exact h.stray hclean slot before hbefore (h3.symm.trans hblocked) h1
    · exact h.stray hclean slot item hsame hblocked hl

theorem Rolled.count (h : Rolled clean items rolls)
    (hleft : ∀ item, (f item).isLooted = false → item.isLooted = false ∧ (f item).count = item.count)
    (hfree : clean → ∀ item, (f item).isLooted = false → (f item).isBlocked = false) : Rolled clean (items.modify i f) (rolls.erase i) := by
  refine ⟨h.nodup.erase i, fun slot hslot => ?_, fun item hitem hl => ?_, fun hclean slot item hitem hblocked hl => ?_⟩
  · have hne : i ≠ slot := fun heq => h.nodup.not_mem_erase (heq ▸ hslot)
    obtain ⟨item, hitem, hp⟩ := h.pending slot (mem_of_mem_erase hslot)
    exact ⟨item, by rw [getElem?_modify_ne _ _ hne]; exact hitem, hp⟩
  · obtain ⟨slot, hslot⟩ := getElem?_of_mem hitem
    rcases modify_cases hslot with ⟨before, hbefore, -, rfl⟩ | ⟨-, hsame⟩
    · obtain ⟨h1, h2⟩ := hleft before hl
      rw [h2]
      exact h.left before (mem_of_getElem? hbefore) h1
    · exact h.left item (mem_of_getElem? hsame) hl
  · rcases modify_cases hitem with ⟨before, hbefore, -, rfl⟩ | ⟨hne, hsame⟩
    · rw [hfree hclean before hl] at hblocked
      cases hblocked
    · exact (mem_erase_of_ne fun heq => hne heq.symm).2 (h.stray hclean slot item hsame hblocked hl)

/-! ### Along the events of a loot -/

/-- A loot table gives at least one of each item it drops. -/
def LootSource.Counted (s : LootSource) : Prop := ∀ li neederGuids, Drop.addItem li neederGuids ∈ s.drops → li.count ≠ 0

/-- What a loot is filled from, and who wins a roll where `clean` is asked for. -/
def Filled (clean : Prop) : LootEvent → Prop
  | .sendLoot v => ∀ s ∈ v.source, LootSource.Counted s
  | .countTheRoll _ (.won _ _ online _) => clean → online = true
  | _ => True

structure RollGuard (clean : Prop) (t : LootTarget) : Prop where
  rolled : Rolled clean t.loot.items t.rolls
  unopened : t.creature = true → t.alive = false → t.lootForBody = false →
    t.rolls = [] ∧ t.openers = ∅ ∧ ∀ item ∈ t.loot.items, Fresh item

variable {t : LootTarget}

theorem fresh_iff : Fresh item ↔ (item.isBlocked = false ∧ item.isLooted = false ∧ item.lootOwner = none) ∧ item.count ≠ 0 :=
  ⟨fun h => ⟨⟨h.blocked, h.looted, h.owner⟩, h.count⟩, fun ⟨⟨h1, h2, h3⟩, h4⟩ => ⟨h1, h2, h3, h4⟩⟩

theorem fresh_refresh (t : LootTarget) {source : Option LootSource} (hsource : ∀ s ∈ source, LootSource.Counted s)
    (personal : Bool) (gold : Nat) :
    ∀ item ∈ (t.refresh source personal gold).loot.items, Fresh item := by
  have hnil : ∀ item ∈ (t.loot.clear true).items, Fresh item := fun _ h => nomatch h
  unfold refresh
  cases source with
  | none => exact hnil
  | some s =>
    have hall : ∀ item : LootItem, Fresh item = ((item.isBlocked = false ∧ item.isLooted = false ∧ item.lootOwner = none) ∧ item.count ≠ 0) :=
      fun item => propext fresh_iff
    exact forall_fillLoot (p := Fresh) (fun item => by rw [hall, hall]) (fun item => by rw [hall, hall]) hnil
      (fun li neederGuids hmem => ⟨rfl, rfl, rfl, hsource s rfl li neederGuids hmem⟩) s.owner personal s.reach s.below

theorem RollGuard.opened (h : RollGuard clean t) (ho : (t.openers.lookup guid).isSome = true) :
    ¬ (t.creature = true ∧ t.alive = false ∧ t.lootForBody = false) := by
  rintro ⟨hc, ha, hb⟩
  rw [(h.unopened hc ha hb).2.1] at ho
  cases ho

theorem rolled_clear : Rolled clean (t.loot.clear true).items [] := Rolled.fresh fun _ h => nomatch h

theorem rolled_doLootRelease (h : Rolled clean t.loot.items t.rolls) (guid : Nat) (found again : Bool) :
    Rolled clean (t.doLootRelease guid found again).loot.items (t.doLootRelease guid found again).rolls := by
  unfold doLootRelease
  dsimp only
  split_ifs
  · exact h
  · exact rolled_clear
  · exact rolled_clear
  · exact rolled_clear
  · exact h
  · exact h

theorem RollGuard.doLootRelease (h : RollGuard clean t) (ho : (t.openers.lookup guid).isSome = true) (found again : Bool) :
    RollGuard clean (t.doLootRelease guid found again) := by
  obtain ⟨hc, ha, hb, -⟩ := doLootRelease_kept t guid found again
  refine ⟨rolled_doLootRelease h.rolled guid found again, ?_⟩
  rw [hc, ha, hb]
  exact fun h1 h2 h3 => absurd ⟨h1, h2, h3⟩ (h.opened ho)

theorem rolled_groupLoot (hr : t.rolls = []) (hf : ∀ item ∈ t.loot.items, Fresh item) (g : LootGroup) :
    Rolled clean (t.groupLoot g).loot.items (t.groupLoot g).rolls := by
  have hshare : ∀ item, (g.share t.loot item).isLooted = item.isLooted ∧ (g.share t.loot item).lootOwner = item.lootOwner ∧
      (g.share t.loot item).count = item.count ∧
      ((g.share t.loot item).isBlocked = true → item.isBlocked = true ∨ item.freeforall = false ∧ g.rolls t.loot item = true) := by
    intro item
    unfold LootGroup.share
    by_cases hff : item.freeforall = true
    · rw [if_pos hff]
      exact ⟨rfl, rfl, rfl, .inl⟩
    rw [if_neg hff]
    split
    · exact ⟨rfl, rfl, rfl, .inl⟩
    split_ifs with hg
    · exact ⟨rfl, rfl, rfl, fun _ => .inr ⟨by simpa using hff, hg⟩⟩
    · exact ⟨rfl, rfl, rfl, .inl⟩
  have hblocked : ∀ item, item.freeforall = false → g.rolls t.loot item = true → (g.share t.loot item).isBlocked = true := by
    intro item hff hg
    have hquality : g.quality item.itemid = some true := by
      unfold LootGroup.rolls at hg
      simp only [Bool.and_eq_true, decide_eq_true_eq] at hg
      exact hg.1
    unfold LootGroup.share
    rw [if_neg (by rw [hff]; decide), if_neg (by rw [hquality]; decide), if_pos hg]
  have hslots : ∀ slot, slot ∈ (t.groupLoot g).rolls ↔ ∃ item, t.loot.items[slot]? = some item ∧ item.freeforall = false ∧ g.rolls t.loot item = true := by
    intro slot
    unfold groupLoot
    dsimp only
    rw [hr, nil_append, mem_map]
    constructor
    · rintro ⟨⟨item, i⟩, he, rfl⟩
      obtain ⟨he, ht⟩ := mem_filter.1 he
      rw [Bool.and_eq_true, Bool.not_eq_true'] at ht
      exact ⟨item, mem_zipIdx_iff_getElem?.1 he, ht.1, ht.2⟩
    · rintro ⟨item, hitem, hff, hg⟩
      exact ⟨(item, slot), mem_filter.2 ⟨mem_zipIdx_iff_getElem?.2 hitem, by rw [hff, hg]; rfl⟩, rfl⟩
  have hitems : (t.groupLoot g).loot.items = t.loot.items.map (g.share t.loot) := rfl
  refine ⟨?_, fun slot hslot => ?_, fun item hitem _ => ?_, fun _ slot item hitem hblock _ => ?_⟩
  · have hsub : (((t.loot.items.zipIdx.filter fun e => !e.1.freeforall && g.rolls t.loot e.1)).map snd).Sublist
        (t.loot.items.zipIdx.map snd) := filter_sublist.map _
    unfold groupLoot
    dsimp only
    rw [hr, nil_append]
    apply hsub.nodup
    rw [zipIdx_map_snd]
    exact nodup_range'
  · obtain ⟨item, hitem, hff, hg⟩ := (hslots slot).1 hslot
    have hfresh := hf item (mem_of_getElem? hitem)
    obtain ⟨h1, h2, -, -⟩ := hshare item
    refine ⟨g.share t.loot item, by rw [hitems, getElem?_map, hitem]; rfl, hblocked item hff hg, h2.trans hfresh.owner, fun hl => ?_⟩
    rw [h1, hfresh.looted] at hl
    cases hl
  · rw [hitems] at hitem
    obtain ⟨before, hbefore, rfl⟩ := mem_map.1 hitem
    rw [(hshare before).2.2.1]
    exact (hf before hbefore).count
  · rw [hitems, getElem?_map, Option.map_eq_some_iff] at hitem
    obtain ⟨before, hbefore, rfl⟩ := hitem
    have hfresh := hf before (mem_of_getElem? hbefore)
    rcases (hshare before).2.2.2 hblock with hb | hb
    · rw [hfresh.blocked] at hb
      cases hb
    · exact (hslots slot).2 ⟨before, hbefore, hb⟩

theorem rolled_openBody (h : Rolled clean t.loot.items t.rolls)
    (hu : t.lootForBody = false → t.rolls = [] ∧ ∀ item ∈ t.loot.items, Fresh item) (v : LootVisit) (r : LootRecipient) :
    Rolled clean (t.openBody v r).loot.items (t.openBody v r).rolls := by
  unfold openBody
  split_ifs with hb
  · exact h
  obtain ⟨hr, hf⟩ := hu (by simpa using hb)
  have hgroup : ∀ g : LootGroup, Rolled clean ({ t with lootForBody := true }.groupLoot g).loot.items ({ t with lootForBody := true }.groupLoot g).rolls :=
    fun g => rolled_groupLoot hr hf g
  dsimp only
  cases v.groupRecipient with
  | some g =>
    dsimp only
    split_ifs
    · exact hgroup g
    · exact h
  | none =>
    cases r.group with
    | none => exact h
    | some g =>
      dsimp only
      split_ifs
      · exact hgroup g
      · exact h

/-- `SendLoot`, up to where it sets the loot guid. -/
theorem rolled_opened {t' : LootTarget} {permission : LootPermission} (h : RollGuard clean t)
    (hsource : ∀ s ∈ v.source, LootSource.Counted s) (ho : t.opened v = some (t', permission)) :
    Rolled clean t'.loot.items t'.rolls ∧ Reopened t t' ∧ (t.creature = true → t.alive = false → t'.lootForBody = true) := by
  have hrefresh : ∀ (t : LootTarget) personal gold,
      Rolled clean (t.refresh v.source personal gold).loot.items (t.refresh v.source personal gold).rolls :=
    fun t personal gold => Rolled.fresh (fresh_refresh t hsource personal gold)
  unfold opened at ho
  split at ho
  · cases ho
  by_cases hc : t.creature = true
  · rw [if_pos hc] at ho
    by_cases ha : t.alive ≠ decide (v.lootType = .pickpocketing)
    · rw [if_pos ha] at ho
      cases ho
    rw [if_neg ha] at ho
    rw [ne_eq, not_not] at ha
    split_ifs at ho with hp
    · cases ho
      rw [decide_eq_true hp] at ha
      refine ⟨?_, ?_, fun _ hdead => absurd (ha.symm.trans hdead) nofun⟩
      · unfold pickPocket
        split_ifs
        · exact hrefresh t false v.gold
        · exact Rolled.fresh fun _ h => nomatch h
        · exact h.rolled
      · unfold pickPocket
        split_ifs <;> exact ⟨rfl, rfl, rfl⟩
    · rw [Option.map_eq_some_iff] at ho
      obtain ⟨r, hr, heq⟩ := ho
      rw [decide_eq_false hp] at ha
      obtain ⟨t1, ht1, ho1, hu1, hk1⟩ : ∃ t1 : LootTarget, (if t.lootForPickPocketed then { t.clear with lootForPickPocketed := false } else t) = t1 ∧
          Rolled clean t1.loot.items t1.rolls ∧ (t1.lootForBody = false → t1.rolls = [] ∧ ∀ item ∈ t1.loot.items, Fresh item) ∧ Reopened t t1 := by
        split
        · exact ⟨_, rfl, rolled_clear, fun _ => ⟨rfl, fun _ h => nomatch h⟩, rfl, rfl, rfl⟩
        · exact ⟨_, rfl, h.rolled, fun hb => ⟨(h.unopened hc ha hb).1, (h.unopened hc ha hb).2.2⟩, rfl, rfl, rfl⟩
      have ho2 := rolled_openBody ho1 hu1 v r
      obtain ⟨hk2, hb2⟩ := openBody_kept t1 v r
      have hk : Reopened t (t1.openBody v r) :=
        ⟨hk2.creature.trans hk1.creature, hk2.alive.trans hk1.alive, hk2.openers.trans hk1.openers⟩
      unfold openCorpse at heq
      rw [ht1] at heq
      dsimp only at heq
      generalize t1.openBody v r = t2 at ho2 hk hb2 heq
      split_ifs at heq
      · cases heq
        exact ⟨hrefresh t2 false 0, ⟨hk.creature, hk.alive, hk.openers⟩, fun _ _ => hb2⟩
      · cases heq
        exact ⟨ho2, hk, fun _ _ => hb2⟩
      cases heq
      cases v.group with
      | none => exact ⟨ho2, hk, fun _ _ => hb2⟩
      | some g =>
        dsimp only
        split_ifs
        · exact ⟨ho2.keys (map_markUnderthreshold (fun _ => rfl) _ _), ⟨hk.creature, hk.alive, hk.openers⟩, fun _ _ => hb2⟩
        · exact ⟨ho2, hk, fun _ _ => hb2⟩
  · rw [if_neg hc] at ho
    cases ho
    refine ⟨?_, ?_, fun hc' => absurd hc' hc⟩
    · unfold openChest
      cases t.chest with
      | ready =>
        dsimp only
        split_ifs
        · exact hrefresh t (!v.groupRules) v.gold
        · exact h.rolled
      | activated => exact h.rolled.keys (map_fillNotNormalLootFor (fun _ => rfl) t.loot v.player)
      | justDeactivated => exact h.rolled
    · unfold openChest
      cases t.chest with
      | ready =>
        dsimp only
        split_ifs <;> exact ⟨rfl, rfl, rfl⟩
      | activated => exact ⟨rfl, rfl, rfl⟩
      | justDeactivated => exact ⟨rfl, rfl, rfl⟩

theorem RollGuard.sendLoot (h : RollGuard clean t) (hsource : ∀ s ∈ v.source, LootSource.Counted s) :
    RollGuard clean (t.sendLoot v) := by
  have hopen : ∀ t : LootTarget, RollGuard clean t → ∀ t' permission, t.opened v = some (t', permission) →
      RollGuard clean { t' with openers := t'.openers.insert v.player.guid permission } := by
    intro t h t' permission ho
    obtain ⟨hrolled, hk, hb⟩ := rolled_opened h hsource ho
    refine ⟨hrolled, fun hc ha hb' => ?_⟩
    dsimp only at hc ha hb'
    rw [hk.creature] at hc
    rw [hk.alive] at ha
    rw [hb hc ha] at hb'
    cases hb'
  unfold LootTarget.sendLoot
  split
  · exact h
  dsimp only
  by_cases ho : (t.openers.lookup v.player.guid).isSome = true
  · have hreleased := h.doLootRelease ho v.found v.again
    rw [if_pos ho]
    split
    · exact hreleased
    · rename_i heq
      exact hopen _ hreleased _ _ heq
  · rw [if_neg ho]
    split
    · exact h
    · rename_i heq
      exact hopen t h _ _ heq

theorem rolled_mark {l : Loot} (h : Rolled clean l.items rolls) {pick : Loot.Pick}
    (hs : l.InSlot slot guid item pick) (hb : ¬ ((!pick.isQuest) = true ∧ item.isBlocked = true)) :
    Rolled clean (l.mark guid slot pick).items rolls := by
  have hleft : ∀ item : LootItem, item.take.isLooted = false →
      item.isLooted = false ∧ item.take.count = item.count ∧ item.take.isBlocked = item.isBlocked := by
    intro item hl
    unfold LootItem.take at hl
    exact ⟨(Bool.or_eq_false_iff.1 hl).1, rfl, rfl⟩
  have hother : pick.isQuest = false → l.items[slot]? = some item → slot ∈ rolls → ∀ item, Pending item → Pending item.take := by
    intro hq hat hmem
    obtain ⟨item', hitem', hpending⟩ := h.pending slot hmem
    rw [hat] at hitem'
    cases hitem'
    rw [hq] at hb
    exact absurd ⟨rfl, hpending.blocked⟩ hb
  cases hs with
  | quest list entry at_index item_left entry_left => exact h
  | ffa at_slot free entry entry_left => exact h.modify hleft (hother rfl at_slot)
  | conditional at_slot single item_left entry => exact h.modify hleft (hother rfl at_slot)
  | plain at_slot item_left entry => exact h.modify hleft (hother rfl at_slot)

theorem RollGuard.autostore (h : RollGuard clean t) (p : Looter) (slot : Nat) (rogue near masterLoot room : Bool) :
    RollGuard clean (t.autostore p slot rogue near masterLoot room) := by
  unfold LootTarget.autostore
  cases ho : t.openers.lookup p.guid with
  | none => exact h
  | some permission =>
    have hopener : (t.openers.lookup p.guid).isSome = true := by rw [ho]; rfl
    dsimp only
    split
    · exact h
    cases hs : t.loot.autostored p slot (t.creature && masterLoot) room with
    | none => exact h
    | some e =>
      obtain ⟨item, pick⟩ := e
      obtain ⟨hslot, -, hblocked, -, -, -⟩ := Loot.autostored_inSlot hs
      exact ⟨rolled_mark h.rolled hslot hblocked, fun hc ha hb => absurd ⟨hc, ha, hb⟩ (h.opened hopener)⟩

theorem RollGuard.masterGive (h : RollGuard clean t) (giver target slot : Nat) (granted room : Bool) :
    RollGuard clean (t.masterGive giver target slot granted room) := by
  have hleft : ∀ item : LootItem, item.give.isLooted = false →
      item.isLooted = false ∧ item.give.count = item.count ∧ item.give.isBlocked = item.isBlocked := fun _ hl => nomatch hl
  have hpending : ∀ item : LootItem, Pending item → Pending item.give := fun item hp => ⟨hp.blocked, hp.owner, fun _ => rfl⟩
  unfold LootTarget.masterGive
  cases ho : t.openers.lookup giver with
  | none => exact h
  | some permission =>
    have hopener : (t.openers.lookup giver).isSome = true := by rw [ho]; rfl
    dsimp only
    split
    · exact h
    cases hs : t.loot.masterGiven target slot room with
    | none => exact h
    | some item =>
      refine ⟨?_, fun hc ha hb => absurd ⟨hc, ha, hb⟩ (h.opened hopener)⟩
      have hgive : (t.loot.masterGive target slot room).items = t.loot.items.modify slot give := by
        unfold Loot.masterGive
        rw [hs]
      dsimp only
      rw [hgive]
      exact h.rolled.modify hleft fun _ => hpending

theorem RollGuard.countTheRoll (h : RollGuard clean t) (hfilled : Filled clean (.countTheRoll slot result)) :
    RollGuard clean (t.countTheRoll slot result) := by
  by_cases hs : slot ∈ t.rolls
  · obtain ⟨hk, hb⟩ := countTheRoll_kept t slot result
    refine ⟨?_, fun hc ha hbody => ?_⟩
    · obtain ⟨item, hitem, -⟩ := h.rolled.pending slot hs
      unfold LootTarget.countTheRoll
      rw [if_neg fun hnot => hnot hs]
      dsimp only
      rw [hitem]
      cases result with
      | passed => exact h.rolled.count (fun item hl => ⟨hl, rfl⟩) fun _ _ _ => rfl
      | won need winner online room =>
        cases online with
        | false =>
          have hno : ¬ clean := fun hclean => absurd (hfilled hclean) (by decide)
          cases need with
          | true => exact h.rolled.count (fun item hl => ⟨hl, rfl⟩) fun hclean => absurd hclean hno
          | false =>
            have hsame := h.rolled.count (i := slot) (f := fun item => item) (fun item hl => ⟨hl, rfl⟩) fun hclean => absurd hclean hno
            have hmodify : t.loot.items.modify slot (fun item => item) = t.loot.items := modify_id slot t.loot.items
            rw [hmodify] at hsame
            exact hsame
        | true =>
          cases room with
          | true => exact h.rolled.count (fun item hl => nomatch hl) fun _ item hl => nomatch hl
          | false => exact h.rolled.count (fun item hl => ⟨hl, rfl⟩) fun _ _ _ => rfl
    · rw [hk.creature] at hc
      rw [hk.alive] at ha
      rw [hb] at hbody
      rw [(h.unopened hc ha hbody).1] at hs
      cases hs
  · have hsame : t.countTheRoll slot result = t := by
      unfold LootTarget.countTheRoll
      rw [if_pos hs]
    rw [hsame]
    exact h

theorem rollGuard_step {e : LootEvent} (h : RollGuard clean t) (hfilled : Filled clean e) : RollGuard clean (t.step e) := by
  cases e with
  | sendLoot v => exact h.sendLoot hfilled
  | autostore p slot rogue near masterLoot room => exact h.autostore p slot rogue near masterLoot room
  | masterGive giver target slot granted room => exact h.masterGive giver target slot granted room
  | lootMoney guid =>
    change RollGuard clean (if (t.openers.lookup guid).isSome then { t with loot := { t.loot with gold := 0 } } else t)
    split_ifs
    · exact ⟨h.rolled, h.unopened⟩
    · exact h
  | countTheRoll slot result => exact h.countTheRoll hfilled
  | release guid found again =>
    change RollGuard clean (if (t.openers.lookup guid).isSome then t.doLootRelease guid found again else t)
    split_ifs with ho
    · exact h.doLootRelease ho found again
    · exact h

/-- A fresh corpse whose table gives at least one of each item, a living creature, an unopened chest. -/
theorem rollGuard_start (h : Start t) (hcount : ∀ item ∈ t.loot.items, item.count ≠ 0) : RollGuard clean t := by
  cases h with
  | corpse source gold =>
    have hfresh : ∀ item ∈ ((unopened true false).refresh source false gold).loot.items, Fresh item := by
      intro item hitem
      refine fresh_iff.2 ⟨?_, hcount item hitem⟩
      have hnil : ∀ item ∈ ((unopened true false).loot.clear true).items,
          item.isBlocked = false ∧ item.isLooted = false ∧ item.lootOwner = none := fun _ h => nomatch h
      unfold refresh at hitem
      cases source with
      | none => exact hnil item hitem
      | some s =>
        exact forall_fillLoot (p := fun item => item.isBlocked = false ∧ item.isLooted = false ∧ item.lootOwner = none)
          (fun _ => rfl) (fun _ => rfl) hnil (fun _ _ _ => ⟨rfl, rfl, rfl⟩) s.owner false s.reach s.below item hitem
    exact ⟨Rolled.fresh hfresh, fun _ _ _ => ⟨rfl, rfl, hfresh⟩⟩
  | creature => exact ⟨Rolled.fresh fun _ h => (nomatch h), fun _ h => (nomatch h)⟩
  | chest => exact ⟨Rolled.fresh fun _ h => (nomatch h), fun h => (nomatch h)⟩

/-! ### The outcome of a roll -/

/-- The item is looted and stored with a player, and counted down. -/
structure Stored (t t' : LootTarget) (slot guid : Nat) (item : LootItem) : Prop where
  looted : item.isLooted = true
  taken : t'.taken = ⟨.item slot, guid, none⟩ :: t.taken
  count : t'.loot.unlootedCount = t.loot.unlootedCount - 1

/-- The item is left, free to be looted by its owner, or by anybody where it has none. -/
structure Reserved (t t' : LootTarget) (owner : Option Nat) (item : LootItem) : Prop where
  left : item.isLooted = false
  free : item.isBlocked = false
  owner : item.lootOwner = owner
  taken : t'.taken = t.taken
  count : t'.loot.unlootedCount = t.loot.unlootedCount

/-- What a roll that is counted out is to come to. -/
structure Outcome (t t' : LootTarget) (r : Roll) (dice : Nat → Nat) : Prop where
  gone : t'.rolls = t.rolls.erase r.itemSlot ∧ r.itemSlot ∉ t'.rolls
  item : ∃ item, t'.loot.items[r.itemSlot]? = some item ∧
    ((∃ guid, r.Highest dice guid ∧ (Stored t t' r.itemSlot guid item ∨ Reserved t t' (some guid) item)) ∨
      r.deciding = none ∧ Reserved t t' none item)
  stray : NoStray t.loot.items t.rolls → NoStray t'.loot.items t'.rolls

def RollEnd.mark (item : LootItem) : RollEnd → LootItem
  | .passed => { item with isBlocked := false }
  | .won need winner online room =>
    if !online then if need then { item with lootOwner := some winner } else item
    else if room then { item with isLooted := true }
    else { item with isBlocked := false, lootOwner := some winner }

theorem countTheRoll_items (hs : slot ∈ t.rolls) (hitem : t.loot.items[slot]? = some item) (result : RollEnd) :
    (t.countTheRoll slot result).rolls = t.rolls.erase slot ∧
      (t.countTheRoll slot result).loot.items[slot]? = some (RollEnd.mark item result) ∧
      ∀ i, i ≠ slot → (t.countTheRoll slot result).loot.items[i]? = t.loot.items[i]? := by
  have hmodify : ∀ f : LootItem → LootItem, (t.loot.items.modify slot f)[slot]? = some (f item) ∧
      ∀ i, i ≠ slot → (t.loot.items.modify slot f)[i]? = t.loot.items[i]? := by
    intro f
    refine ⟨?_, fun i hi => getElem?_modify_ne _ _ fun heq => hi heq.symm⟩
    rw [getElem?_modify_eq, hitem]
    rfl
  unfold countTheRoll
  rw [if_neg fun hnot => hnot hs]
  dsimp only
  rw [hitem]
  cases result with
  | passed => exact ⟨rfl, hmodify _⟩
  | won need winner online room =>
    cases online with
    | false =>
      cases need with
      | true => exact ⟨rfl, hmodify _⟩
      | false => exact ⟨rfl, hitem, fun _ _ => rfl⟩
    | true =>
      cases room with
      | true => exact ⟨rfl, hmodify _⟩
      | false => exact ⟨rfl, hmodify _⟩

/-- Where the item that was rolled for is looted or free, no stray is left behind. -/
theorem noStray_countTheRoll (hs : slot ∈ t.rolls) (hitem : t.loot.items[slot]? = some item)
    (hfree : (RollEnd.mark item result).isLooted = false → (RollEnd.mark item result).isBlocked = false)
    (h : NoStray t.loot.items t.rolls) :
    NoStray (t.countTheRoll slot result).loot.items (t.countTheRoll slot result).rolls := by
  obtain ⟨hrolls, hat, hother⟩ := countTheRoll_items hs hitem result
  intro i item' hitem' hblocked hleft
  rw [hrolls]
  by_cases hi : i = slot
  · rw [hi, hat] at hitem'
    cases hitem'
    rw [hfree hleft] at hblocked
    cases hblocked
  · rw [hother i hi] at hitem'
    exact (mem_erase_of_ne hi).2 (h i item' hitem' hblocked hleft)

variable {r : Roll} {dice : Nat → Nat}

/-- A roll comes to what it is to come to exactly when its item is left and the player who leads is online. -/
theorem countRoll_iff (h : RollGuard clean t) (hs : r.itemSlot ∈ t.rolls) (hagrees : r.Agrees) (hdice : ∀ guid, 0 < dice guid)
    (online room : Nat → Bool) :
    Outcome t (t.countRoll r dice online room) r dice ↔
      (∀ item, t.loot.items[r.itemSlot]? = some item → item.isLooted = false) ∧ ∀ guid, r.Leads dice guid → online guid = true := by
  obtain ⟨item, hitem, hpending⟩ := h.rolled.pending r.itemSlot hs
  have hleft : (∀ item, t.loot.items[r.itemSlot]? = some item → item.isLooted = false) ↔ item.isLooted = false :=
    ⟨fun hall => hall item hitem, fun hl item' hitem' => by rw [hitem] at hitem'; cases hitem'; exact hl⟩
  have hcons : ∀ e : LootTaken, t.taken ≠ e :: t.taken := fun e heq => absurd (congrArg length heq) (by simp)
  have hgone : r.itemSlot ∉ t.rolls.erase r.itemSlot := h.rolled.nodup.not_mem_erase
  rw [hleft]
  unfold countRoll
  cases hdeciding : r.deciding with
  | none =>
    rw [r.result_passed hdeciding hagrees]
    obtain ⟨hrolls, hat, -⟩ := countTheRoll_items hs hitem .passed
    have htaken : (t.countTheRoll r.itemSlot .passed).taken = t.taken ∧
        (t.countTheRoll r.itemSlot .passed).loot.unlootedCount = t.loot.unlootedCount := by
      unfold countTheRoll
      rw [if_neg fun hnot => hnot hs]
      dsimp only
      rw [hitem]
      exact ⟨rfl, rfl⟩
    constructor
    · intro houtcome
      refine ⟨?_, fun guid hleads => ?_⟩
      · obtain ⟨item', hitem', ⟨guid, ⟨vote, hvote, -⟩, -⟩ | ⟨-, hreserved⟩⟩ := houtcome.item
        · rw [hdeciding] at hvote
          cases hvote
        · rw [hat] at hitem'
          cases hitem'
          exact hreserved.left
      · obtain ⟨vote, hvote, -⟩ := hleads
        rw [hdeciding] at hvote
        cases hvote
    · rintro ⟨hl, -⟩
      exact ⟨⟨hrolls, by rw [hrolls]; exact hgone⟩, ⟨_, hat, .inr ⟨hdeciding, hl, rfl, hpending.owner, htaken.1, htaken.2⟩⟩,
        noStray_countTheRoll hs hitem fun _ => rfl⟩
  | some vote =>
    obtain ⟨guid, hleads⟩ : ∃ guid, r.Leads dice guid := r.exists_leads hdeciding
    obtain ⟨need, hresult⟩ := hleads.result hagrees hdice online room
    have honly : (∀ other, r.Leads dice other → online other = true) ↔ online guid = true := by
      refine ⟨fun hall => hall guid hleads, fun hon other hother => ?_⟩
      obtain ⟨need', hresult'⟩ := hother.result hagrees hdice online room
      rw [hresult] at hresult'
      injection hresult' with hwon
      injection hwon with _ hguid
      rw [← hguid]
      exact hon
    rw [hresult, honly]
    obtain ⟨hrolls, hat, -⟩ := countTheRoll_items hs hitem (.won need guid (online guid) (room guid))
    have hstore : (t.countTheRoll r.itemSlot (.won need guid (online guid) (room guid))).taken =
          (if online guid = true ∧ room guid = true ∧ item.count ≠ 0 then ⟨.item r.itemSlot, guid, none⟩ :: t.taken else t.taken) ∧
        (t.countTheRoll r.itemSlot (.won need guid (online guid) (room guid))).loot.unlootedCount =
          (if online guid = true ∧ room guid = true then t.loot.unlootedCount - 1 else t.loot.unlootedCount) := by
      unfold countTheRoll
      rw [if_neg fun hnot => hnot hs]
      dsimp only
      rw [hitem]
      cases online guid <;> cases room guid <;> cases need <;> by_cases hcount : item.count = 0 <;>
        simp [setItem, hcount]
    obtain ⟨htaken, hunlooted⟩ := hstore
    have hblocked : online guid = false → (RollEnd.mark item (.won need guid (online guid) (room guid))).isBlocked = true := by
      intro hoff
      rw [hoff]
      cases need <;> exact hpending.blocked
    constructor
    · intro houtcome
      obtain ⟨item', hitem', ⟨winner, -, hstored | hreserved⟩ | ⟨hnobody, -⟩⟩ := houtcome.item
      · have hwon : online guid = true ∧ room guid = true ∧ item.count ≠ 0 := by
          by_contra hnot
          rw [if_neg hnot] at htaken
          exact hcons _ (htaken.symm.trans hstored.taken)
        refine ⟨?_, hwon.1⟩
        by_contra hl
        exact hwon.2.2 (hpending.left (by simpa using hl))
      · rw [hat] at hitem'
        cases hitem'
        have hon : online guid = true := by
          by_contra hoff
          have hblock := hblocked (by simpa using hoff)
          rw [hreserved.free] at hblock
          cases hblock
        have hkept := hreserved.left
        rw [hon] at hkept
        cases hroom : room guid with
        | true =>
          rw [hroom] at hkept
          cases hkept
        | false =>
          rw [hroom] at hkept
          exact ⟨hkept, hon⟩
      · rw [hdeciding] at hnobody
        cases hnobody
    · rintro ⟨hl, hon⟩
      have hcount := h.rolled.left item (mem_of_getElem? hitem) hl
      have hfree : (RollEnd.mark item (.won need guid (online guid) (room guid))).isLooted = false →
          (RollEnd.mark item (.won need guid (online guid) (room guid))).isBlocked = false := by
        rw [hon]
        cases room guid with
        | true => exact nofun
        | false => exact fun _ => rfl
      refine ⟨⟨hrolls, by rw [hrolls]; exact hgone⟩, ⟨_, hat, .inl ⟨guid, hleads.highest, ?_⟩⟩, noStray_countTheRoll hs hitem hfree⟩
      rw [hon] at htaken hunlooted ⊢
      cases hroom : room guid with
      | true =>
        rw [hroom] at htaken hunlooted
        exact .inl ⟨rfl, htaken.trans (if_pos ⟨rfl, rfl, hcount⟩), hunlooted.trans (if_pos ⟨rfl, rfl⟩)⟩
      | false =>
        rw [hroom] at htaken hunlooted
        exact .inr ⟨hl, rfl, rfl, htaken.trans (if_neg fun hand => nomatch hand.2.1), hunlooted.trans (if_neg fun hand => nomatch hand.2)⟩

/-- In every run of a loot, a pending roll comes to what it is to come to exactly when its item was not given away and the player who leads is
online; and where all rolls are won by players who are, no item is ever left blocked without a roll. -/
theorem rolls_come_out {t₀ : LootTarget} (hs : Start t₀) (hcount : ∀ item ∈ t₀.loot.items, item.count ≠ 0) {es : List LootEvent}
    (hfilled : ∀ e ∈ es, Filled False e) :
    (∀ (r : Roll) (dice : Nat → Nat) (online room : Nat → Bool), r.itemSlot ∈ (Runs.run step t₀ es).rolls → r.Agrees → (∀ guid, 0 < dice guid) →
      (Outcome (Runs.run step t₀ es) ((Runs.run step t₀ es).countRoll r dice online room) r dice ↔
        (∀ item, (Runs.run step t₀ es).loot.items[r.itemSlot]? = some item → item.isLooted = false) ∧
          ∀ guid, r.Leads dice guid → online guid = true)) ∧
      ((∀ e ∈ es, Filled True e) → NoStray (Runs.run step t₀ es).loot.items (Runs.run step t₀ es).rolls) := by
  have hrun : ∀ clean : Prop, (∀ e ∈ es, Filled clean e) → RollGuard clean (run step t₀ es) := by
    intro clean hall
    have hadmitted : Admitted step (fun _ e => Filled clean e) t₀ es :=
      admitted_iff_getElem?.2 fun n e he => hall e (mem_of_getElem? he)
    exact invariant (I := RollGuard clean) (fun _ _ h hok => rollGuard_step h hok) (rollGuard_start hs hcount) hadmitted
  exact ⟨fun r dice online room hslot hagrees hdice => countRoll_iff (hrun False hfilled) hslot hagrees hdice online room,
    fun hall => (hrun True hall).rolled.stray trivial⟩

/-- The first of two players passes and the second wants the sword of the first place. -/
def secondWants (vote : RollVote) : Roll where
  lootedTarget := 9
  itemSlot := 0
  loot := some 9
  playerVote := ((∅ : Table Nat RollVote).insert 1 .pass).insert 2 vote
  totalPlayersRolling := 2
  totalNeed := if vote = .need then 1 else 0
  totalGreed := if vote = .greed then 1 else 0
  totalPass := 1

def swordRolled : List LootEvent := [.sendLoot (visit 1 (some (pair .groupLoot)))]

theorem swordRolled_filled : ∀ e ∈ swordRolled, Filled False e := by
  intro e he
  rw [swordRolled, mem_singleton] at he
  subst he
  exact fun s hs => nomatch hs

theorem rolls_come_out_sword : ∃ t, t.rolls = [0] ∧
    Outcome t (t.countRoll (secondWants .greed) (fun _ => 60) (fun _ => true) fun _ => true) (secondWants .greed) (fun _ => 60) := by
  have hs : Start (kill (some [Loot.anyone 1, Loot.anyone 2])) := .corpse _ _
  obtain ⟨hroll, -⟩ := rolls_come_out hs (by decide +kernel) swordRolled_filled
  refine ⟨_, by decide +kernel, (hroll (secondWants .greed) (fun _ => 60) (fun _ => true) (fun _ => true) (by decide +kernel)
    ⟨by decide +kernel, by decide +kernel⟩ fun _ => by decide).2 ⟨fun item hitem => ?_, fun _ _ => rfl⟩⟩
  have hleft : ((run step (kill (some [Loot.anyone 1, Loot.anyone 2])) swordRolled).loot.items[(secondWants .greed).itemSlot]?).map
      isLooted = some false := by decide +kernel
  rw [hitem] at hleft
  exact Option.some.inj hleft

/-- The winner is not online: the item stays blocked with its roll gone, and where he won by greed it is not even his. -/
theorem offline_winner_blocks :
    ¬ (∀ (t₀ : LootTarget) (es : List LootEvent) (r : Roll) (dice : Nat → Nat) (online room : Nat → Bool), Start t₀ →
        (∀ item ∈ t₀.loot.items, item.count ≠ 0) → (∀ e ∈ es, Filled False e) → r.itemSlot ∈ (Runs.run step t₀ es).rolls → r.Agrees →
        (∀ guid, 0 < dice guid) → (∀ item, (Runs.run step t₀ es).loot.items[r.itemSlot]? = some item → item.isLooted = false) →
        Outcome (Runs.run step t₀ es) ((Runs.run step t₀ es).countRoll r dice online room) r dice) ∧
      ∀ need : Bool,
        let r := secondWants (if need then .need else .greed)
        let t := (run step (kill (some [Loot.anyone 1, Loot.anyone 2])) swordRolled).countRoll r (fun _ => 60) (fun _ => false) fun _ => true
        t.rolls = [] ∧ (t.loot.items[0]?).map (fun item => (item.isBlocked, item.isLooted, item.lootOwner)) =
          some (true, false, if need then some 2 else none) := by
  have hfields : ∀ need : Bool,
      let r := secondWants (if need then .need else .greed)
      let t := (run step (kill (some [Loot.anyone 1, Loot.anyone 2])) swordRolled).countRoll r (fun _ => 60) (fun _ => false) fun _ => true
      t.rolls = [] ∧ (t.loot.items[0]?).map (fun item => (item.isBlocked, item.isLooted, item.lootOwner)) =
        some (true, false, if need then some 2 else none) := by decide +kernel
  refine ⟨fun hall => ?_, hfields⟩
  have houtcome := hall (kill (some [Loot.anyone 1, Loot.anyone 2])) swordRolled (secondWants .greed) (fun _ => 60) (fun _ => false)
    (fun _ => true) (.corpse _ _) (by decide +kernel) swordRolled_filled (by decide +kernel) ⟨by decide +kernel, by decide +kernel⟩
    (fun _ => by decide) fun item hitem => ?_
  · obtain ⟨item, hitem, houtcome⟩ := houtcome.item
    have hstate := (hfields false).2
    simp only [Bool.false_eq_true, if_false] at hstate
    have hsame : ((run step (kill (some [Loot.anyone 1, Loot.anyone 2])) swordRolled).countRoll (secondWants .greed) (fun _ => 60)
      (fun _ => false) fun _ => true).loot.items[0]? = some item := hitem
    rw [hsame] at hstate
    have hblocked : item.isBlocked = true := congrArg (fun p => p.1) (Option.some.inj hstate)
    have hleft : item.isLooted = false := congrArg (fun p => p.2.1) (Option.some.inj hstate)
    rcases houtcome with ⟨guid, -, hstored | hreserved⟩ | ⟨-, hreserved⟩
    · rw [hstored.looted] at hleft
      cases hleft
    · rw [hreserved.free] at hblocked
      cases hblocked
    · rw [hreserved.free] at hblocked
      cases hblocked
  · have hleft : ((run step (kill (some [Loot.anyone 1, Loot.anyone 2])) swordRolled).loot.items[(secondWants .greed).itemSlot]?).map
        isLooted = some false := by decide +kernel
    rw [hitem] at hleft
    exact Option.some.inj hleft

end LootTarget

end ComfyCraft
