import ComfyCraft.Loot.Count
import ComfyCraft.Loot.Rolling

/-! Who may take what, over whole runs: an item leaves the loot once, or once for each player when it is free for all, and
whoever takes or gives one opened the loot with a right to it, as long as every step is a fair one. -/

namespace ComfyCraft

open List Option AList LootGroup LootItem Loot

/-- A player of the recipient's group, or the recipient himself when he has none. -/
def LootVisit.rightful (v : LootVisit) (r : LootRecipient) : Bool :=
  match v.group with
  | some g => r.group.map LootGroup.id = some g.id
  | none => r.guid = v.player.guid

def LootVisit.Entitled (v : LootVisit) : Prop := v.lootType = .corpse → ∀ r ∈ v.recipient, v.rightful r = true

instance (v : LootVisit) : Decidable v.Entitled :=
  inferInstanceAs (Decidable (v.lootType = .corpse → ∀ r ∈ v.recipient, v.rightful r = true))

namespace LootTarget

open Loot (entry)

def freeForAll (l : Loot) (w : LootPlace) : Bool := (itemAt l w).any fun item => item.freeforall

structure Rights (t : LootTarget) : Prop where
  once : ∀ w, freeForAll t.loot w = false → total t.taken w ≤ 1
  oncePerPlayer : ∀ w guid, freeForAll t.loot w = true → ofPlayer t.taken w guid ≤ 1
  permitted : ∀ e ∈ t.taken, e.permission ≠ some .none

/-- Openers are entitled, an item free for all is taken by a player who has an entry for it, and what a master looter
gives is not taken yet, by anybody or, when it is free for all, by the one it is for. -/
def Fair (t : LootTarget) : LootEvent → Prop
  | .sendLoot v => t.creature = true → v.Entitled
  | .autostore p slot _ near _ room =>
    (t.openers.lookup p.guid).isSome → near → room → ∀ item ∈ t.loot.items[slot]?,
      item.freeforall → item.allowedForPlayer p → item.isLooted = false → (entry t.loot.playerFFAItems p.guid slot).isSome
  | .masterGive giver target slot granted room =>
    (t.openers.lookup giver).isSome → granted → room → target ∈ t.loot.allowedLooters → ∀ item ∈ t.loot.items[slot]?,
      item.count ≠ 0 →
        if item.freeforall then ∀ q ∈ entry t.loot.playerFFAItems target slot, q.isLooted = false else item.isLooted = false
  | _ => True

/-- What is in the loot, what was taken from it and what is rolled for agree. -/
structure Orderly (t : LootTarget) : Prop where
  ledger : Ledger t.loot t.taken
  rolling : Rolling t.loot.items t.rolls
  permitted : ∀ e ∈ t.taken, e.permission ≠ some .none

structure Guarded (t : LootTarget) : Prop where
  orderly : t.Orderly
  unopened : t.creature = true → t.alive = false → t.lootForBody = false →
    t.rolls = [] ∧ t.openers = ∅ ∧ Whole t.loot.items
  openers : ∀ guid permission, t.openers.lookup guid = some permission → permission ≠ .none

variable {t t' : LootTarget} {guid slot : Nat} {v : LootVisit} {r : LootRecipient} {p : Looter} {pick : Loot.Pick}
  {item : LootItem} {room : Bool}

theorem Orderly.rights (h : t.Orderly) : Rights t where
  once w hw := by
    unfold freeForAll at hw
    cases hat : itemAt t.loot w with
    | none => rw [h.ledger.absent w hat]; exact Nat.zero_le 1
    | some item =>
      rw [hat] at hw
      exact (h.ledger.single w item hat hw).1
  oncePerPlayer w guid hw := by
    unfold freeForAll at hw
    cases hat : itemAt t.loot w with
    | none => rw [hat] at hw; cases hw
    | some item =>
      rw [hat] at hw
      exact (h.ledger.each w item guid hat hw).1
  permitted := h.permitted

theorem Orderly.bare (ht : t.taken = []) (hr : t.rolls = []) : t.Orderly where
  ledger := ht ▸ Ledger.nil t.loot
  rolling := hr ▸ Rolling.nil t.loot.items
  permitted e he := by rw [ht] at he; cases he

theorem Orderly.onward (h : t.Orderly) (ho : Onward t.loot t'.loot)
    (hk : t'.loot.items.map rollKey = t.loot.items.map rollKey) (ht : t'.taken = t.taken) (hr : t'.rolls = t.rolls) : t'.Orderly where
  ledger := ht ▸ h.ledger.onward ho
  rolling := hr ▸ h.rolling.keys hk
  permitted := ht ▸ h.permitted

theorem Orderly.same (h : t.Orderly) (hi : t'.loot.items = t.loot.items) (hq : t'.loot.questItems = t.loot.questItems)
    (hf : t'.loot.playerFFAItems = t.loot.playerFFAItems) (hp : t'.loot.playerQuestItems = t.loot.playerQuestItems)
    (ht : t'.taken = t.taken) (hr : t'.rolls = t.rolls) : t'.Orderly :=
  h.onward (.items_only (hi ▸ .refl _) hq hf hp) (by rw [hi]) ht hr

theorem Guarded.opened (h : Guarded t) (ho : (t.openers.lookup guid).isSome = true) :
    ¬ (t.creature = true ∧ t.alive = false ∧ t.lootForBody = false) := by
  rintro ⟨hc, ha, hb⟩
  rw [(h.unopened hc ha hb).2.1] at ho
  cases ho

/-! Release. -/

theorem orderly_doLootRelease (h : t.Orderly) (guid : Nat) (found again : Bool) : (t.doLootRelease guid found again).Orderly := by
  have hsame : Orderly { t with openers := t.openers.erase guid } := h.same rfl rfl rfl rfl rfl rfl
  unfold doLootRelease
  dsimp only
  split
  · exact hsame
  split
  · split
    · exact .bare rfl rfl
    · exact .bare rfl rfl
  · split
    · exact hsame
    · exact h.same rfl rfl rfl rfl rfl rfl

theorem doLootRelease_kept (t : LootTarget) (guid : Nat) (found again : Bool) :
    (t.doLootRelease guid found again).creature = t.creature ∧ (t.doLootRelease guid found again).alive = t.alive ∧
      (t.doLootRelease guid found again).lootForBody = t.lootForBody ∧
      (t.doLootRelease guid found again).openers = t.openers.erase guid := by
  unfold doLootRelease
  dsimp only
  split
  · exact ⟨rfl, rfl, rfl, rfl⟩
  split
  · split
    · exact ⟨rfl, rfl, rfl, rfl⟩
    · exact ⟨rfl, rfl, rfl, rfl⟩
  · split
    · exact ⟨rfl, rfl, rfl, rfl⟩
    · exact ⟨rfl, rfl, rfl, rfl⟩

theorem Guarded.doLootRelease (h : Guarded t) (ho : (t.openers.lookup guid).isSome = true)
    (found again : Bool) : Guarded (t.doLootRelease guid found again) := by
  obtain ⟨hc, ha, hb, hop⟩ := doLootRelease_kept t guid found again
  refine ⟨orderly_doLootRelease h.orderly guid found again, ?_, ?_⟩
  · rw [hc, ha, hb]
    exact fun h1 h2 h3 => absurd ⟨h1, h2, h3⟩ (h.opened ho)
  intro g permission hg
  rw [hop] at hg
  by_cases hgg : g = guid
  · subst hgg
    rw [lookup_erase] at hg
    cases hg
  · rw [lookup_erase_ne hgg] at hg
    exact h.openers g permission hg

/-! Opening. -/

/-- The rolls that start when nothing was taken yet. -/
theorem orderly_groupLoot (h : t.Orderly) (hr : t.rolls = []) (hw : Whole t.loot.items) (g : LootGroup) :
    (t.groupLoot g).Orderly := by
  have hlater : ∀ item, Later item (g.share t.loot item) := by
    intro item
    unfold share
    split
    · exact .refl item
    split
    · exact ⟨rfl, fun h => h, fun h => h⟩
    split
    · exact ⟨rfl, fun h => h, fun h => h⟩
    · exact .refl item
  refine ⟨h.ledger.onward (.items_only (.map hlater _) rfl rfl rfl), ⟨?_, ?_⟩, h.permitted⟩
  · have hsub : (((t.loot.items.zipIdx.filter fun e => !e.1.freeforall && g.rolls t.loot e.1)).map Prod.snd).Sublist
        (t.loot.items.zipIdx.map Prod.snd) := filter_sublist.map _
    unfold groupLoot
    dsimp only
    rw [hr, nil_append]
    apply hsub.nodup
    rw [zipIdx_map_snd]
    exact nodup_range'
  · intro slot hs
    unfold groupLoot at hs ⊢
    dsimp only at hs ⊢
    rw [hr, nil_append] at hs
    obtain ⟨⟨item, i⟩, he, rfl⟩ := mem_map.1 hs
    obtain ⟨he, ht⟩ := mem_filter.1 he
    have hitem : t.loot.items[i]? = some item := mem_zipIdx_iff_getElem?.1 he
    dsimp only at ht ⊢
    rw [Bool.and_eq_true, Bool.not_eq_true'] at ht
    have hq : ¬ g.quality item.itemid = some false := by
      intro hq
      have := ht.2
      unfold LootGroup.rolls at this
      rw [hq] at this
      simp at this
    refine ⟨g.share t.loot item, ?_, ?_⟩
    · rw [getElem?_map, hitem]
      rfl
    unfold share
    rw [if_neg (by rw [ht.1]; decide), if_neg hq, if_pos ht.2]
    refine ⟨ht.1, rfl, fun hl => ?_⟩
    have hleft := hw item (mem_of_getElem? hitem)
    dsimp only at hl
    rw [hleft] at hl
    cases hl

theorem orderly_masterLoot (h : t.Orderly) (g : LootGroup) : (t.masterLoot g).Orderly := by
  refine h.onward (.items_only (.map ?_ _) rfl rfl rfl) (keys_markUnderthreshold _ _) rfl rfl
  intro item
  split
  · exact ⟨rfl, fun h => h, fun h => h⟩
  · exact .refl item

theorem orderly_openBody (h : t.Orderly) (hu : t.lootForBody = false → t.rolls = [] ∧ Whole t.loot.items)
    (v : LootVisit) (r : LootRecipient) : (t.openBody v r).Orderly := by
  unfold openBody
  split_ifs with hb
  · exact h
  obtain ⟨hr, hw⟩ := hu (Bool.not_eq_true _ ▸ hb)
  have hsame : Orderly { t with lootForBody := true } := h.same rfl rfl rfl rfl rfl rfl
  have hgroup : ∀ g : LootGroup, Orderly ({ t with lootForBody := true }.groupLoot g) := fun g => orderly_groupLoot hsame hr hw g
  dsimp only
  cases v.groupRecipient with
  | some g =>
    dsimp only
    split
    · exact hgroup g
    · exact hsame
  | none =>
    cases r.group with
    | none => exact hsame
    | some g =>
      dsimp only
      split
      · exact hgroup g
      · exact hsame

/-- What an opening leaves alone. -/
structure Reopened (t t' : LootTarget) : Prop where
  creature : t'.creature = t.creature
  alive : t'.alive = t.alive
  openers : t'.openers = t.openers

theorem openBody_kept (t : LootTarget) (v : LootVisit) (r : LootRecipient) :
    Reopened t (t.openBody v r) ∧ (t.openBody v r).lootForBody = true := by
  unfold openBody
  split_ifs with hb
  · exact ⟨⟨rfl, rfl, rfl⟩, hb⟩
  dsimp only
  cases v.groupRecipient with
  | some g =>
    dsimp only
    split
    · exact ⟨⟨rfl, rfl, rfl⟩, rfl⟩
    · exact ⟨⟨rfl, rfl, rfl⟩, rfl⟩
  | none =>
    cases r.group with
    | none => exact ⟨⟨rfl, rfl, rfl⟩, rfl⟩
    | some g =>
      dsimp only
      split
      · exact ⟨⟨rfl, rfl, rfl⟩, rfl⟩
      · exact ⟨⟨rfl, rfl, rfl⟩, rfl⟩

theorem corpsePermission_ne (he : v.Entitled) (ht : v.lootType = .corpse) (hr : v.recipient = some r) :
    corpsePermission v r ≠ .none := by
  have hright := he ht r hr
  unfold LootVisit.rightful at hright
  unfold corpsePermission
  cases hg : v.group with
  | none =>
    rw [hg] at hright
    dsimp only at hright ⊢
    rw [if_pos (of_decide_eq_true hright)]
    exact nofun
  | some g =>
    rw [hg] at hright
    dsimp only at hright ⊢
    rw [if_pos (of_decide_eq_true hright)]
    cases g.method <;> exact nofun

/-- Opening a corpse: everything still agrees, the first opening is over, and the permission is a real one. -/
theorem openCorpse_spec (h : t.Orderly) (hu : t.lootForBody = false → t.rolls = [] ∧ Whole t.loot.items) (he : v.Entitled)
    (hp : v.lootType ≠ .pickpocketing) (hr : v.recipient = some r) :
    (t.openCorpse v r).1.Orderly ∧ Reopened t (t.openCorpse v r).1 ∧ (t.openCorpse v r).1.lootForBody = true ∧
      (t.openCorpse v r).2 ≠ .none := by
  have hfirst : ∃ t1 : LootTarget, (if t.lootForPickPocketed then { t.clear with lootForPickPocketed := false } else t) = t1 ∧
      t1.Orderly ∧ (t1.lootForBody = false → t1.rolls = [] ∧ Whole t1.loot.items) ∧ Reopened t t1 := by
    split
    · exact ⟨_, rfl, .bare rfl rfl, fun _ => ⟨rfl, fun _ h => nomatch h⟩, rfl, rfl, rfl⟩
    · exact ⟨_, rfl, h, hu, rfl, rfl, rfl⟩
  obtain ⟨t1, ht1, ho1, hu1, hk1⟩ := hfirst
  have ho2 := orderly_openBody ho1 hu1 v r
  obtain ⟨hk2, hb2⟩ := openBody_kept t1 v r
  have hk : Reopened t (t1.openBody v r) := ⟨hk2.creature.trans hk1.creature, hk2.alive.trans hk1.alive, hk2.openers.trans hk1.openers⟩
  unfold openCorpse
  rw [ht1]
  dsimp only
  generalize t1.openBody v r = t2 at ho2 hk hb2 ⊢
  by_cases hs : v.lootType = .skinning
  · rw [if_pos hs]
    split
    · exact ⟨.bare rfl rfl, ⟨hk.creature, hk.alive, hk.openers⟩, hb2, nofun⟩
    · exact ⟨ho2, hk, hb2, nofun⟩
  · rw [if_neg hs]
    have hcorpse : v.lootType = .corpse := by
      cases hv : v.lootType with
      | corpse => rfl
      | pickpocketing => exact absurd hv hp
      | skinning => exact absurd hv hs
    have hperm := corpsePermission_ne he hcorpse hr
    cases v.group with
    | none => exact ⟨ho2, hk, hb2, hperm⟩
    | some g =>
      dsimp only
      split
      · exact ⟨orderly_masterLoot ho2 g, ⟨hk.creature, hk.alive, hk.openers⟩, hb2, hperm⟩
      · exact ⟨ho2, hk, hb2, hperm⟩

theorem pickPocket_spec (h : t.Orderly) (v : LootVisit) : (t.pickPocket v).Orderly ∧ Reopened t (t.pickPocket v) := by
  unfold pickPocket
  split
  · exact ⟨.bare rfl rfl, rfl, rfl, rfl⟩
  split
  · exact ⟨.bare rfl rfl, rfl, rfl, rfl⟩
  · exact ⟨h, rfl, rfl, rfl⟩

theorem openChest_spec (h : t.Orderly) (v : LootVisit) : (t.openChest v).Orderly ∧ Reopened t (t.openChest v) := by
  unfold openChest
  cases t.chest with
  | ready =>
    dsimp only
    split
    · exact ⟨.bare rfl rfl, rfl, rfl, rfl⟩
    · exact ⟨h.same rfl rfl rfl rfl rfl rfl, rfl, rfl, rfl⟩
  | activated =>
    exact ⟨h.onward (onward_fillNotNormalLootFor t.loot v.player) (keys_fillNotNormalLootFor t.loot v.player) rfl rfl, rfl, rfl, rfl⟩
  | justDeactivated => exact ⟨h, rfl, rfl, rfl⟩

/-- What `SendLoot` does up to where it sets the loot guid. -/
theorem opened_spec {permission : LootPermission} (h : t.Orderly)
    (hu : t.creature = true → t.alive = false → t.lootForBody = false → t.rolls = [] ∧ Whole t.loot.items)
    (he : t.creature = true → v.Entitled) (ho : t.opened v = some (t', permission)) :
    t'.Orderly ∧ Reopened t t' ∧ (t.creature = true → t.alive = false → t'.lootForBody = true) ∧ permission ≠ .none := by
  unfold opened at ho
  split at ho
  · cases ho
  by_cases hc : t.creature = true
  · rw [if_pos hc] at ho
    by_cases ha : t.alive ≠ decide (v.lootType = .pickpocketing)
    · rw [if_pos ha] at ho
      cases ho
    rw [if_neg ha] at ho
    rw [ne_eq, not_not] at ha
    split_ifs at ho with hp
    · cases ho
      rw [decide_eq_true hp] at ha
      obtain ⟨hord, hk⟩ := pickPocket_spec h v
      exact ⟨hord, hk, fun _ hdead => absurd (ha.symm.trans hdead) nofun, nofun⟩
    · rw [map_eq_some_iff] at ho
      obtain ⟨r, hr, heq⟩ := ho
      rw [decide_eq_false hp] at ha
      obtain ⟨hord, hk, hb, hperm⟩ := openCorpse_spec h (hu hc ha) (he hc) hp hr
      rw [heq] at hord hk hb hperm
      exact ⟨hord, hk, fun _ _ => hb, hperm⟩
  · rw [if_neg hc] at ho
    cases ho
    obtain ⟨hord, hk⟩ := openChest_spec h v
    exact ⟨hord, hk, fun hc' => absurd hc' hc, nofun⟩

theorem Guarded.sendLoot (h : Guarded t) (he : t.creature = true → v.Entitled) : Guarded (t.sendLoot v) := by
  have hopen : ∀ t : LootTarget, Guarded t → (t.creature = true → v.Entitled) → ∀ t' permission,
      t.opened v = some (t', permission) → Guarded { t' with openers := t'.openers.insert v.player.guid permission } := by
    intro t h he t' permission ho
    have hu : t.creature = true → t.alive = false → t.lootForBody = false → t.rolls = [] ∧ Whole t.loot.items :=
      fun hc ha hb => ⟨(h.unopened hc ha hb).1, (h.unopened hc ha hb).2.2⟩
    obtain ⟨hord, hk, hb, hperm⟩ := opened_spec h.orderly hu he ho
    refine ⟨hord.same rfl rfl rfl rfl rfl rfl, ?_, ?_⟩
    · intro hc ha hb'
      dsimp only at hc ha hb'
      rw [hk.creature] at hc
      rw [hk.alive] at ha
      rw [hb hc ha] at hb'
      cases hb'
    · intro g perm hg
      dsimp only at hg
      by_cases hgp : g = v.player.guid
      · subst hgp
        rw [lookup_insert] at hg
        cases hg
        exact hperm
      · rw [lookup_insert_ne hgp, hk.openers] at hg
        exact h.openers g perm hg
  unfold LootTarget.sendLoot
  split
  · exact h
  dsimp only
  by_cases ho : (t.openers.lookup v.player.guid).isSome = true
  · have hreleased := h.doLootRelease ho v.found v.again
    rw [if_pos ho]
    split
    · exact hreleased
    rename_i heq
    refine hopen _ hreleased (fun hc => he ?_) _ _ heq
    rw [← (doLootRelease_kept t v.player.guid v.found v.again).1]
    exact hc
  · rw [if_neg ho]
    split
    · exact h
    · rename_i heq
      exact hopen t h he _ _ heq

/-! Taking. -/

theorem autostore_ledger (h : t.Orderly)
    {permission : Option LootPermission} (hs : t.loot.InSlot slot p.guid item pick) (hc : item.count ≠ 0)
    (hplain : pick = .plain → item.freeforall = false) :
    Ledger (t.loot.mark p.guid slot pick) (⟨.ofPick slot pick, p.guid, permission⟩ :: t.taken) := by
  have honward := h.ledger.onward (onward_mark t.loot p.guid slot pick)
  cases hs with
  | quest list entry at_index item_left entry_left =>
    rename_i ql q
    have hat : itemAt t.loot (.questItem q.index) = some item := at_index
    refine honward.cons (?_ : itemAt _ _ = some item.take) ?_ ?_
    · show (t.loot.questItems.modify q.index take)[q.index]? = some item.take
      rw [getElem?_modify_eq, at_index]
      rfl
    · intro hff
      refine ⟨h.ledger.total_zero hat hff item_left, ?_⟩
      have hff' : item.freeforall = false := hff
      unfold LootItem.take
      rw [hff']
      simp
    · intro hff
      exact ⟨h.ledger.ofPlayer_zero hat hff hc (not_done list entry entry_left), .inr (done_markEntry list entry)⟩
  | ffa at_slot free entry entry_left =>
    obtain ⟨ql, list, hmem, rfl⟩ := entry_iff entry
    rename_i q
    have hat : itemAt t.loot (.item q.index) = some item := at_slot
    refine honward.cons (?_ : itemAt _ _ = some item.take) ?_ ?_
    · show (t.loot.items.modify q.index take)[q.index]? = some item.take
      rw [getElem?_modify_eq, at_slot]
      rfl
    · intro hff
      have hff' : item.freeforall = false := hff
      rw [free] at hff'
      cases hff'
    · intro hff
      exact ⟨h.ledger.ofPlayer_zero hat hff hc (not_done list hmem entry_left), .inr (done_markEntry list hmem)⟩
  | conditional at_slot single item_left entry =>
    have hat : itemAt t.loot (.item slot) = some item := at_slot
    refine honward.cons (?_ : itemAt _ _ = some item.take) ?_ ?_
    · show (t.loot.items.modify slot take)[slot]? = some item.take
      rw [getElem?_modify_eq, at_slot]
      rfl
    · intro hff
      refine ⟨h.ledger.total_zero hat hff item_left, ?_⟩
      unfold LootItem.take
      rw [single]
      simp
    · intro hff
      have hff' : item.freeforall = true := hff
      rw [single] at hff'
      cases hff'
  | plain at_slot item_left entry =>
    have hat : itemAt t.loot (.item slot) = some item := at_slot
    have hsingle := hplain rfl
    refine honward.cons (?_ : itemAt _ _ = some item.take) ?_ ?_
    · show (t.loot.items.modify slot take)[slot]? = some item.take
      rw [getElem?_modify_eq, at_slot]
      rfl
    · intro hff
      refine ⟨h.ledger.total_zero hat hff item_left, ?_⟩
      unfold LootItem.take
      rw [hsingle]
      simp
    · intro hff
      have hff' : item.freeforall = true := hff
      rw [hsingle] at hff'
      cases hff'

/-- An item that is rolled for is blocked, so an autostore takes another one. -/
theorem rolling_mark {l : Loot} {rolls : List Nat} (h : Rolling l.items rolls)
    (hs : l.InSlot slot guid item pick) (hb : ¬ ((!pick.isQuest) = true ∧ item.isBlocked = true)) :
    Rolling (l.mark guid slot pick).items rolls := by
  have hother : pick.isQuest = false → l.items[slot]? = some item → slot ∉ rolls := by
    intro hq hat hmem
    obtain ⟨item', hitem', -, hblocked, -⟩ := h.blocked slot hmem
    rw [hat] at hitem'
    cases hitem'
    rw [hq] at hb
    exact hb ⟨rfl, hblocked⟩
  cases hs with
  | quest list entry at_index item_left entry_left => exact h
  | ffa at_slot free entry entry_left => exact h.modify_ne (hother rfl at_slot) _
  | conditional at_slot single item_left entry => exact h.modify_ne (hother rfl at_slot) _
  | plain at_slot item_left entry => exact h.modify_ne (hother rfl at_slot) _

theorem Guarded.autostore (h : Guarded t) {rogue near masterLoot : Bool}
    (hok : t.Fair (.autostore p slot rogue near masterLoot room)) : Guarded (t.autostore p slot rogue near masterLoot room) := by
  unfold LootTarget.autostore
  cases ho : t.openers.lookup p.guid with
  | none => exact h
  | some permission =>
    dsimp only
    split_ifs with hn
    · exact h
    cases hs : t.loot.autostored p slot (t.creature && masterLoot) room with
    | none => exact h
    | some e =>
      obtain ⟨item, pick⟩ := e
      obtain ⟨hslot, hallowed, hblocked, -, hroom, hcount⟩ := autostored_inSlot hs
      have hopener : (t.openers.lookup p.guid).isSome = true := by rw [ho]; rfl
      have hnear : near = true := by
        rw [not_or] at hn
        simpa using hn.1
      have hplain : pick = .plain → item.freeforall = false := by
        rintro rfl
        cases hslot with
        | plain at_slot item_left entry =>
          by_contra hff
          rw [Bool.not_eq_false] at hff
          have := hok hopener hnear hroom item at_slot hff (by simpa using hallowed) item_left
          rw [entry hff] at this
          cases this
      refine ⟨⟨autostore_ledger h.orderly hslot hcount hplain, rolling_mark h.orderly.rolling hslot hblocked, ?_⟩, ?_, h.openers⟩
      · intro e he
        obtain rfl | he := mem_cons.1 he
        · exact fun heq => h.openers p.guid permission ho (some.inj heq)
        · exact h.orderly.permitted e he
      · exact fun hc ha hb => absurd ⟨hc, ha, hb⟩ (h.opened hopener)

theorem Done.entry {t : Table Nat (List QuestItem)} {index : Nat} (hd : Done t guid index) :
    ∃ q ∈ Loot.entry t guid index, q.isLooted = true := by
  obtain ⟨ql, hl, ⟨q, hq, hqi⟩, hall⟩ := hd
  unfold Loot.entry
  rw [hl, bind_some]
  cases hf : ql.find? fun q => q.index = index with
  | none =>
    have := find?_eq_none.1 hf q hq
    exact absurd (by simpa using hqi) this
  | some q' => exact ⟨q', rfl, hall q' (mem_of_find?_eq_some hf) (by simpa using find?_some hf)⟩

theorem onward_masterGive (l : Loot) (target slot : Nat) (room : Bool) : Onward l (l.masterGive target slot room) := by
  unfold Loot.masterGive
  cases l.masterGiven target slot room with
  | none => exact .refl l
  | some item => exact .items_only (.modify later_give _ _) rfl rfl rfl

theorem Guarded.masterGive (h : Guarded t) {giver target : Nat} {granted : Bool}
    (hok : t.Fair (.masterGive giver target slot granted room)) : Guarded (t.masterGive giver target slot granted room) := by
  unfold LootTarget.masterGive
  cases ho : t.openers.lookup giver with
  | none => exact h
  | some permission =>
    dsimp only
    split_ifs with hg
    · exact h
    have hopener : (t.openers.lookup giver).isSome = true := by rw [ho]; rfl
    cases hs : t.loot.masterGiven target slot room with
    | none => exact h
    | some item =>
      have hgiven : t.loot.items[slot]? = some item ∧ target ∈ t.loot.allowedLooters ∧ room = true := by
        unfold masterGiven at hs
        cases hi : t.loot.items[slot]? with
        | none => rw [hi] at hs; cases hs
        | some item' =>
          rw [hi] at hs
          dsimp only at hs
          by_cases hok' : target ∈ t.loot.allowedLooters ∧ room = true
          · rw [if_pos hok'] at hs
            cases hs
            exact ⟨rfl, hok'⟩
          · rw [if_neg hok'] at hs
            cases hs
      obtain ⟨hitem, htarget, hroom⟩ := hgiven
      have honward := h.orderly.ledger.onward (onward_masterGive t.loot target slot room)
      have hgive : (t.loot.masterGive target slot room).items = t.loot.items.modify slot give := by
        unfold Loot.masterGive
        rw [hs]
      have hat : itemAt t.loot (.item slot) = some item := hitem
      have hat' : itemAt (t.loot.masterGive target slot room) (.item slot) = some item.give := by
        show (t.loot.masterGive target slot room).items[slot]? = some item.give
        rw [hgive, getElem?_modify_eq, hitem]
        rfl
      refine ⟨⟨?_, ?_, ?_⟩, ?_, h.openers⟩
      · dsimp only
        split_ifs with hc
        · have hfair := hok hopener (by simpa using hg) hroom htarget item hitem hc
          refine honward.cons hat' ?_ ?_
          · intro hff
            have hff' : item.freeforall = false := hff
            rw [if_neg (by rw [hff']; decide)] at hfair
            exact ⟨h.orderly.ledger.total_zero hat hff' hfair, rfl⟩
          · intro hff
            have hff' : item.freeforall = true := hff
            rw [if_pos hff'] at hfair
            refine ⟨h.orderly.ledger.ofPlayer_zero hat hff' hc ?_, .inl rfl⟩
            intro hd
            obtain ⟨q, hq, hl⟩ := hd.entry
            rw [hfair q hq] at hl
            cases hl
        · exact honward
      · dsimp only
        rw [hgive]
        exact h.orderly.rolling.give slot
      · intro e he
        dsimp only at he
        split at he
        · obtain rfl | he := mem_cons.1 he
          · exact fun heq => h.openers giver permission ho (some.inj heq)
          · exact h.orderly.permitted e he
        · exact h.orderly.permitted e he
      · exact fun hc ha hb => absurd ⟨hc, ha, hb⟩ (h.opened hopener)

/-! Rolls. -/

theorem Orderly.setItem (h : t.Orderly) (hs : slot ∉ t.rolls) {f : LootItem → LootItem}
    (hf : ∀ item, Later item (f item)) : (t.setItem slot f).Orderly :=
  ⟨h.ledger.onward (.items_only (.modify hf _ _) rfl rfl rfl), h.rolling.modify_ne hs f, h.permitted⟩

theorem orderly_countTheRoll (h : t.Orderly) (slot : Nat) (result : RollEnd) : (t.countTheRoll slot result).Orderly := by
  unfold countTheRoll
  by_cases hs : slot ∉ t.rolls
  · rw [if_pos hs]
    exact h
  rw [if_neg hs]
  rw [not_not] at hs
  obtain ⟨item, hitem, hff, -, hleft⟩ := h.rolling.blocked slot hs
  have hrest : Orderly { t with rolls := t.rolls.erase slot } := ⟨h.ledger, h.rolling.erase slot, h.permitted⟩
  have hnot : slot ∉ t.rolls.erase slot := h.rolling.nodup.not_mem_erase
  dsimp only
  rw [hitem]
  cases result with
  | passed => exact hrest.setItem hnot fun _ => ⟨rfl, fun h => h, fun h => h⟩
  | won need winner online room =>
    dsimp only
    split
    · split
      · exact hrest.setItem hnot fun _ => ⟨rfl, fun h => h, fun h => h⟩
      · exact hrest
    split
    · have hwon := hrest.setItem hnot (f := fun item => { item with isLooted := true }) fun _ => ⟨rfl, fun _ => rfl, fun h => h⟩
      have honward : Ledger { ({ t with rolls := t.rolls.erase slot }.setItem slot fun item => { item with isLooted := true }).loot with
          unlootedCount := t.loot.unlootedCount - 1 } t.taken := hwon.ledger.onward ⟨.refl _, .refl _, fun _ _ h => h, fun _ _ h => h⟩
      have hat : itemAt t.loot (.item slot) = some item := hitem
      refine ⟨?_, hwon.rolling, ?_⟩
      · dsimp only
        split_ifs with hc
        · refine honward.cons (?_ : itemAt _ _ = some { item with isLooted := true }) ?_ ?_
          · show (t.loot.items.modify slot fun item => { item with isLooted := true })[slot]? = some { item with isLooted := true }
            rw [getElem?_modify_eq, hitem]
            rfl
          · intro _
            have hl : item.isLooted = false := by
              cases hl : item.isLooted with
              | false => rfl
              | true => exact absurd (hleft hl) hc
            exact ⟨h.ledger.total_zero hat hff hl, rfl⟩
          · intro hff'
            have hff'' : item.freeforall = true := hff'
            rw [hff] at hff''
            cases hff''
        · exact honward
      · intro e he
        dsimp only at he
        split at he
        · obtain rfl | he := mem_cons.1 he
          · exact nofun
          · exact h.permitted e he
        · exact h.permitted e he
    · exact hrest.setItem hnot fun _ => ⟨rfl, fun h => h, fun h => h⟩

/-- Counting out a roll leaves alone who has the loot open. -/
theorem countTheRoll_kept (t : LootTarget) (slot : Nat) (result : RollEnd) :
    Reopened t (t.countTheRoll slot result) ∧ (t.countTheRoll slot result).lootForBody = t.lootForBody := by
  unfold countTheRoll
  split
  · exact ⟨⟨rfl, rfl, rfl⟩, rfl⟩
  dsimp only
  cases t.loot.items[slot]? with
  | none => exact ⟨⟨rfl, rfl, rfl⟩, rfl⟩
  | some item =>
    cases result with
    | passed => exact ⟨⟨rfl, rfl, rfl⟩, rfl⟩
    | won need winner online room => cases online <;> cases need <;> cases room <;> exact ⟨⟨rfl, rfl, rfl⟩, rfl⟩

theorem Guarded.countTheRoll (h : Guarded t) (slot : Nat) (result : RollEnd) : Guarded (t.countTheRoll slot result) := by
  by_cases hs : slot ∈ t.rolls
  · obtain ⟨hk, hb⟩ := countTheRoll_kept t slot result
    refine ⟨orderly_countTheRoll h.orderly slot result, ?_, ?_⟩
    · intro hc ha hbody
      rw [hk.creature] at hc
      rw [hk.alive] at ha
      rw [hb] at hbody
      rw [(h.unopened hc ha hbody).1] at hs
      cases hs
    · rw [hk.openers]
      exact h.openers
  · have hsame : t.countTheRoll slot result = t := by
      unfold LootTarget.countTheRoll
      rw [if_pos hs]
    rw [hsame]
    exact h

/-! Runs. -/

theorem guarded_step (h : Guarded t) {e : LootEvent} (hok : t.Fair e) : Guarded (t.step e) := by
  cases e with
  | sendLoot v => exact h.sendLoot hok
  | autostore p slot rogue near masterLoot room => exact h.autostore hok
  | masterGive giver target slot granted room => exact h.masterGive hok
  | lootMoney guid =>
    show Guarded (if (t.openers.lookup guid).isSome then { t with loot := { t.loot with gold := 0 } } else t)
    split
    · exact ⟨h.orderly.same rfl rfl rfl rfl rfl rfl, h.unopened, h.openers⟩
    · exact h
  | countTheRoll slot result => exact h.countTheRoll slot result
  | release guid found again =>
    show Guarded (if (t.openers.lookup guid).isSome then t.doLootRelease guid found again else t)
    split_ifs with ho
    · exact h.doLootRelease ho found again
    · exact h

theorem guarded_start (h : Start t) : Guarded t := by
  cases h with
  | corpse source gold => exact ⟨.bare rfl rfl, fun _ _ _ => ⟨rfl, rfl, whole_refresh _ source false gold⟩, fun _ _ h => nomatch h⟩
  | creature => exact ⟨.bare rfl rfl, fun _ h => (nomatch h), fun _ _ h => (nomatch h)⟩
  | chest => exact ⟨.bare rfl rfl, fun h => (nomatch h), fun _ _ h => (nomatch h)⟩

/-- In every run of fair steps, at every moment, each item has left the loot at most once, or once for each player when it
is free for all, and nobody without a right has taken or given one. -/
theorem loot_rights {t : LootTarget} (hs : Start t) {es : List LootEvent} (hok : Runs.Admitted step Fair t es) (n : Nat) :
    Rights (Runs.run step t (es.take n)) :=
  (Runs.invariant (I := Guarded) (fun _ _ h hok => guarded_step h hok) (guarded_start hs) (hok.take n)).orderly.rights

instance (t : LootTarget) (e : LootEvent) : Decidable (t.Fair e) :=
  match e with
  | .sendLoot v => inferInstanceAs (Decidable (t.creature = true → v.Entitled))
  | .autostore p slot _ near _ room => inferInstanceAs (Decidable ((t.openers.lookup p.guid).isSome → near → room →
      ∀ item ∈ t.loot.items[slot]?, item.freeforall → item.allowedForPlayer p → item.isLooted = false →
        (entry t.loot.playerFFAItems p.guid slot).isSome))
  | .masterGive giver target slot granted room => inferInstanceAs (Decidable ((t.openers.lookup giver).isSome → granted → room →
      target ∈ t.loot.allowedLooters → ∀ item ∈ t.loot.items[slot]?, item.count ≠ 0 →
        if item.freeforall then ∀ q ∈ entry t.loot.playerFFAItems target slot, q.isLooted = false else item.isLooted = false))
  | .lootMoney _ => isTrue trivial
  | .countTheRoll _ _ => isTrue trivial
  | .release _ _ _ => isTrue trivial

/-- A group of two under a loot method, with items from number 20 on above its threshold. -/
def pair (method : LootMethod) : LootGroup :=
  ⟨5, method, false, [⟨Loot.anyone 1, true, fun _ => true⟩, ⟨Loot.anyone 2, true, fun _ => true⟩], fun itemid => some (20 ≤ itemid)⟩

/-- The first of two players kills something with a sword above the threshold, cloth below it and a token for each. -/
def kill (reach : Option (List Looter)) : LootTarget :=
  (unopened true false).refresh (some ⟨[.addItem ⟨25, 0, false, false, 1⟩ [], .addItem ⟨10, 0, false, false, 3⟩ [],
    .addItem ⟨11, 0, false, true, 1⟩ []], Loot.anyone 1, reach, fun itemid => itemid < 20⟩) false 40

def visit (guid : Nat) (group : Option LootGroup) : LootVisit :=
  ⟨Loot.anyone guid, .corpse, true, true, group, some ⟨1, group⟩, group, false, none, 0, true, false⟩

/-- A roll for the sword, the cloth for the first, a token for each; the sword is won and the loot left. -/
def sharedKill : List LootEvent :=
  [.sendLoot (visit 1 (some (pair .groupLoot))), .autostore (Loot.anyone 1) 0 false true false true,
    .autostore (Loot.anyone 1) 1 false true false true, .autostore (Loot.anyone 1) 2 false true false true,
    .sendLoot (visit 2 (some (pair .groupLoot))), .autostore (Loot.anyone 2) 2 false true false true,
    .countTheRoll 0 (.won true 2 true true), .lootMoney 2, .masterGive 1 2 0 false true, .release 1 true false]

theorem loot_rights_shared : Rights (Runs.run step (kill (some [Loot.anyone 1, Loot.anyone 2])) (sharedKill.take 9)) ∧
    (Runs.run step (kill (some [Loot.anyone 1, Loot.anyone 2])) (sharedKill.take 9)).taken.length = 4 :=
  ⟨loot_rights (.corpse _ _) (by decide +kernel) 9, by decide +kernel⟩

/-- A stranger opens the corpse with no permission and takes what he likes, what is free for all as often as he likes;
and cloth that was taken is given once more by the master looter. -/
theorem loot_rights_broken : (Runs.run step (kill none) [.sendLoot { visit 2 none with recipient := some ⟨1, none⟩ },
        .autostore (Loot.anyone 2) 0 false true false true, .autostore (Loot.anyone 2) 2 false true false true,
        .autostore (Loot.anyone 2) 2 false true false true]).taken =
      [⟨.item 2, 2, some .none⟩, ⟨.item 2, 2, some .none⟩, ⟨.item 0, 2, some .none⟩] ∧
    (Runs.run step (kill (some [Loot.anyone 1, Loot.anyone 2])) [.sendLoot (visit 1 (some (pair .master))),
        .autostore (Loot.anyone 1) 1 false true true true, .masterGive 1 2 1 true true]).taken =
      [⟨.item 1, 2, some .master⟩, ⟨.item 1, 1, some .master⟩] ∧
    ¬ Rights (Runs.run step (kill (some [Loot.anyone 1, Loot.anyone 2])) [.sendLoot (visit 1 (some (pair .master))),
        .autostore (Loot.anyone 1) 1 false true true true, .masterGive 1 2 1 true true]) := by
  refine ⟨by decide +kernel, by decide +kernel, fun h => ?_⟩
  have htwice := h.once (.item 1) (by decide +kernel)
  revert htwice
  decide +kernel

end LootTarget

end ComfyCraft
