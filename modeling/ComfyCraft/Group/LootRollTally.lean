import ComfyCraft.Lib.Runs
import ComfyCraft.Group.LootRoll
import Mathlib.Data.List.Perm.Subperm

/-! The totals of a roll against the votes it records. One step keeps them equal, and leaves no roll behind on which
everybody has voted, when nobody votes twice on a roll and the last player without a vote does not leave. -/

namespace ComfyCraft

open List Function Option Table Nat RollVote Roll

namespace Roll

/-- How many of the players who may roll have chosen `vote`. -/
def votes (r : Roll) (vote : RollVote) : Nat := Table.tally (fun _ v => if v = vote then 1 else 0) r.playerVote

def players (r : Roll) : Nat := Table.tally (fun _ _ => 1) r.playerVote

structure Tallied (r : Roll) : Prop where
  need : r.totalNeed.toNat = r.votes .need
  greed : r.totalGreed.toNat = r.votes .greed
  pass : r.totalPass.toNat = r.votes .pass
  players : r.totalPlayersRolling.toNat = r.players

/-- Somebody who may roll has not voted. -/
def Silent (r : Roll) : Prop := ∃ guid, r.playerVote.lookup guid = some .notEmitedYet

/-- What holds of a roll besides its totals, in a group of these members and with loots of so many items. -/
structure Sound (members : List Nat) (items : Nat → Nat) (r : Roll) : Prop where
  tallied : r.Tallied
  entitled : ∀ guid ∈ r.playerVote, guid ∈ members
  chosen : ∀ guid vote, r.playerVote.lookup guid = some vote → vote ≠ .notValid
  item : ∀ loot, r.loot = some loot → r.itemSlot < items loot

variable {r : Roll} {members : List Nat} {items : Nat → Nat}

theorem players_eq_length : r.players = r.playerVote.keys.length := by
  unfold players tally AList.keys keys
  rw [length_map]
  generalize r.playerVote.entries = l
  induction l with
  | nil => rfl
  | cons e l ih => rw [map_cons, sum_cons, length_cons, ih, add_comm]

theorem players_le (h : ∀ guid ∈ r.playerVote, guid ∈ members) : r.players ≤ members.length := by
  rw [players_eq_length]
  exact (List.Nodup.subperm r.playerVote.keys_nodup fun guid hguid => h guid hguid).length_le

theorem tally_add (w w' : Nat → RollVote → Nat) (t : Table Nat RollVote) :
    Table.tally (fun k v => w k v + w' k v) t = Table.tally w t + Table.tally w' t := by
  unfold tally
  exact sum_map_add

theorem tally_zero (t : Table Nat RollVote) : Table.tally (fun _ _ => 0) t = 0 := by
  unfold tally
  refine sum_eq_zero fun n hn => ?_
  obtain ⟨e, -, rfl⟩ := mem_map.1 hn
  rfl

/-- Everybody who may roll has chosen a kind, or none yet. -/
theorem players_split (h : ∀ guid vote, r.playerVote.lookup guid = some vote → vote ≠ .notValid) :
    r.players = r.votes .pass + r.votes .need + r.votes .greed + r.votes .notEmitedYet := by
  unfold players votes
  rw [← tally_add, ← tally_add, ← tally_add]
  refine tally_congr fun guid vote hvote => ?_
  have hvalid := h guid vote hvote
  cases vote with
  | notValid => exact absurd rfl hvalid
  | _ => rfl

theorem silent_iff : r.Silent ↔ 0 < r.votes .notEmitedYet := by
  constructor
  · rintro ⟨guid, hguid⟩
    have := tally_le_of_lookup (fun _ v => if v = notEmitedYet then 1 else 0) hguid
    exact this
  · intro hpos
    by_contra hnone
    have hzero : r.votes .notEmitedYet = tally (fun _ _ => 0) r.playerVote := by
      refine tally_congr fun guid vote hvote => if_neg ?_
      rintro rfl
      exact hnone ⟨guid, hvote⟩
    have hsum := tally_zero r.playerVote
    omega

/-- By the totals everybody has voted exactly when nobody is silent. -/
theorem Sound.allVoted_iff (h : r.Sound members items) : r.allVoted = true ↔ ¬ r.Silent := by
  have hsplit := players_split h.chosen
  have h1 := h.tallied.need
  have h2 := h.tallied.greed
  have h3 := h.tallied.pass
  have h4 := h.tallied.players
  unfold allVoted
  rw [silent_iff, decide_eq_true_iff]
  omega

theorem Sound.mono (h : r.Sound members items) {members' : List Nat} {items' : Nat → Nat}
    (hmembers : ∀ guid ∈ members, guid ∈ members') (hitems : ∀ loot, items loot ≤ items' loot) : r.Sound members' items' where
  tallied := h.tallied
  entitled guid hguid := hmembers guid (h.entitled guid hguid)
  chosen := h.chosen
  item loot hloot := lt_of_lt_of_le (h.item loot hloot) (hitems loot)

/-- Without its loot a roll is no longer pending. -/
theorem Sound.unlink (h : r.Sound members items) (items' : Nat → Nat) : ({ r with loot := none } : Roll).Sound members items' where
  tallied := ⟨h.tallied.need, h.tallied.greed, h.tallied.pass, h.tallied.players⟩
  entitled := h.entitled
  chosen := h.chosen
  item loot hloot := by cases hloot

/-! A vote. -/

variable {guid n other : Nat} {old vote v kind : RollVote} {t : Table Nat RollVote} {total : UInt8} {entered : List Nat}

theorem votes_insert (h : r.playerVote.lookup guid = some old) (vote kind : RollVote) :
    Table.tally (fun _ v => if v = kind then 1 else 0) (r.playerVote.insert guid vote) + (if old = kind then 1 else 0) =
      (if vote = kind then 1 else 0) + r.votes kind :=
  tally_insert_over (fun _ v => if v = kind then 1 else 0) vote h

theorem players_insert (h : r.playerVote.lookup guid = some old) (vote : RollVote) :
    Table.tally (fun _ _ => 1) (r.playerVote.insert guid vote) = r.players := by
  have := tally_insert_over (fun _ _ => 1) vote h
  unfold players
  omega

theorem toNat_add_one {n : UInt8} (h : n.toNat < 255) : (n + 1).toNat = n.toNat + 1 := by
  rw [UInt8.toNat_add, UInt8.toNat_one]
  omega

theorem lookup_insert_cases
    (h : (t.insert guid vote).lookup other = some v) : other = guid ∧ v = vote ∨ other ≠ guid ∧ t.lookup other = some v := by
  by_cases heq : other = guid
  · rw [heq, AList.lookup_insert] at h
    exact .inl ⟨heq, (some.inj h).symm⟩
  · rw [AList.lookup_insert_ne heq] at h
    exact .inr ⟨heq, h⟩

theorem countVote_fields (r : Roll) (guid : Nat) (vote : RollVote) :
    (r.countVote guid vote).loot = r.loot ∧ (r.countVote guid vote).itemSlot = r.itemSlot ∧
      (r.countVote guid vote).totalPlayersRolling = r.totalPlayersRolling := by
  cases vote <;> exact ⟨rfl, rfl, rfl⟩

theorem total_counted (vote : RollVote) (htotal : total.toNat = r.votes kind)
    (hsize : r.players ≤ 40) (hchosen : ∀ guid vote, r.playerVote.lookup guid = some vote → vote ≠ .notValid)
    (hkind : kind = .pass ∨ kind = .need ∨ kind = .greed) (hfirst : r.playerVote.lookup guid = some .notEmitedYet) :
    (if vote = kind then total + 1 else total).toNat =
      Table.tally (fun _ v => if v = kind then 1 else 0) (r.playerVote.insert guid vote) := by
  have hins := votes_insert hfirst vote kind
  have hsplit := players_split hchosen
  have hlt : total.toNat < 255 := by rcases hkind with rfl | rfl | rfl <;> omega
  have hold : (if notEmitedYet = kind then 1 else 0) = 0 := by rcases hkind with rfl | rfl | rfl <;> rfl
  rw [hold] at hins
  split_ifs at hins ⊢
  · rw [toNat_add_one hlt]
    omega
  · omega

theorem Sound.countVote (h : r.Sound members items) (hsize : members.length ≤ 40)
    (hfirst : r.playerVote.lookup guid = some .notEmitedYet) (hvote : vote = .pass ∨ vote = .need ∨ vote = .greed) :
    (r.countVote guid vote).Sound members items := by
  have hmem : guid ∈ r.playerVote := AList.lookup_isSome.1 (by rw [hfirst]; rfl)
  have hplayers : r.players ≤ 40 := (players_le h.entitled).trans hsize
  have htable : (r.countVote guid vote).playerVote = r.playerVote.insert guid vote := by
    rcases hvote with rfl | rfl | rfl <;> rfl
  obtain ⟨h1, h2, h3, h4⟩ := h.tallied
  obtain ⟨hloot, hslot, -⟩ := countVote_fields r guid vote
  refine ⟨?_, ?_, ?_, ?_⟩
  · have hneed := total_counted vote h1 hplayers h.chosen (.inr (.inl rfl)) hfirst
    have hgreed := total_counted vote h2 hplayers h.chosen (.inr (.inr rfl)) hfirst
    have hpass := total_counted vote h3 hplayers h.chosen (.inl rfl) hfirst
    have hp := h4.trans (players_insert hfirst vote).symm
    rcases hvote with rfl | rfl | rfl
    · exact ⟨hneed, hgreed, hpass, hp⟩
    · exact ⟨hneed, hgreed, hpass, hp⟩
    · exact ⟨hneed, hgreed, hpass, hp⟩
  · intro other hother
    rw [htable, AList.mem_insert] at hother
    rcases hother with rfl | hother
    · exact h.entitled _ hmem
    · exact h.entitled other hother
  · intro other v hv
    rw [htable] at hv
    rcases lookup_insert_cases hv with ⟨-, rfl⟩ | ⟨-, hv⟩
    · rcases hvote with rfl | rfl | rfl <;> decide
    · exact h.chosen other v hv
  · rw [hloot, hslot]
    exact h.item

/-! A player who leaves. -/

theorem toNat_sub_one {n : UInt8} (h : 1 ≤ n.toNat) : (n - 1).toNat = n.toNat - 1 :=
  UInt8.toNat_sub_of_le n 1 (UInt8.le_iff_toNat_le.2 h)

theorem lookup_erase_cases (h : (t.erase guid).lookup other = some v) : other ≠ guid ∧ t.lookup other = some v := by
  have hne : other ≠ guid := by
    rintro rfl
    rw [AList.lookup_erase] at h
    cases h
  rw [AList.lookup_erase_ne hne] at h
  exact ⟨hne, h⟩

theorem total_removed (htotal : total.toNat = r.votes kind) (hvote : r.playerVote.lookup guid = some vote) :
    (if vote = kind then total - 1 else total).toNat =
      Table.tally (fun _ v => if v = kind then 1 else 0) (r.playerVote.erase guid) := by
  have herase := tally_erase (fun _ v => if v = kind then 1 else 0) hvote
  unfold votes at htotal
  split_ifs at herase ⊢
  · rw [toNat_sub_one (by omega)]
    omega
  · omega

theorem Sound.removePlayer (h : r.Sound members items) (hvote : r.playerVote.lookup guid = some vote) :
    (r.removePlayer guid vote).Sound (members.erase guid) items := by
  obtain ⟨h1, h2, h3, h4⟩ := h.tallied
  have hplayers := tally_erase (fun _ _ => 1) hvote
  unfold players at h4
  refine ⟨⟨total_removed h1 hvote, total_removed h2 hvote, total_removed h3 hvote, ?_⟩, ?_, ?_, h.item⟩
  · change (if vote ≠ .notValid then r.totalPlayersRolling - 1 else r.totalPlayersRolling).toNat =
      tally _ (r.playerVote.erase guid)
    rw [if_pos (h.chosen guid vote hvote), toNat_sub_one (by omega)]
    omega
  · intro other hother
    obtain ⟨hne, hmem⟩ := AList.mem_erase.1 hother
    exact (mem_erase_of_ne hne).2 (h.entitled other hmem)
  · intro other v hv
    exact h.chosen other v (lookup_erase_cases hv).2

/-! A new roll. -/

/-- After `n` players are entered, none of whom has voted. -/
structure Entered (n : Nat) (entered : List Nat) (r : Roll) : Prop where
  players : r.totalPlayersRolling.toNat = n ∧ r.players = n
  totals : r.totalNeed = 0 ∧ r.totalGreed = 0 ∧ r.totalPass = 0
  silent : ∀ guid vote, r.playerVote.lookup guid = some vote → vote = .notEmitedYet
  mem : ∀ guid, guid ∈ r.playerVote ↔ guid ∈ entered

theorem Entered.enter (h : r.Entered n entered) (hnew : guid ∉ entered) (hn : n < 255) :
    (r.enter guid).Entered (n + 1) (entered ++ [guid]) := by
  have hnone : r.playerVote.lookup guid = none := AList.lookup_eq_none.2 fun hmem => hnew ((h.mem guid).1 hmem)
  obtain ⟨hp1, hp2⟩ := h.players
  refine ⟨⟨?_, ?_⟩, h.totals, ?_, ?_⟩
  · exact (toNat_add_one (by omega)).trans (by omega)
  · have := tally_insert_new (fun _ _ => 1) notEmitedYet hnone
    unfold Roll.players at hp2 ⊢
    unfold Roll.enter
    dsimp only
    omega
  · intro other vote hv
    rcases lookup_insert_cases hv with ⟨-, hv⟩ | ⟨-, hv⟩
    · exact hv
    · exact h.silent other vote hv
  · intro other
    unfold Roll.enter
    rw [AList.mem_insert, h.mem other, mem_append, mem_singleton]
    exact or_comm

theorem enter_fields (r : Roll) (guids : List Nat) :
    (guids.foldl Roll.enter r).loot = r.loot ∧ (guids.foldl Roll.enter r).itemSlot = r.itemSlot := by
  induction guids generalizing r with
  | nil => exact ⟨rfl, rfl⟩
  | cons guid guids ih => exact ih (r.enter guid)

theorem Entered.enterAll (guids : List Nat) (h : r.Entered n entered) (hnodup : (entered ++ guids).Nodup)
    (hn : n + guids.length < 255) : (guids.foldl Roll.enter r).Entered (n + guids.length) (entered ++ guids) := by
  induction guids generalizing r n entered with
  | nil =>
    rw [append_nil]
    exact h
  | cons guid guids ih =>
    rw [length_cons] at hn
    rw [append_cons] at hnodup
    have hnew : guid ∉ entered := by
      intro hmem
      exact (disjoint_of_nodup_append (List.Nodup.of_append_left hnodup)) hmem mem_cons_self
    have := ih (h.enter hnew (by omega)) hnodup (by omega)
    rw [length_cons, append_cons]
    rwa [add_assoc, add_comm 1] at this

theorem entered_start (lootedTarget itemSlot loot : Nat) :
    (⟨lootedTarget, itemSlot, some loot, ∅, 0, 0, 0, 0⟩ : Roll).Entered 0 [] where
  players := ⟨rfl, rfl⟩
  totals := ⟨rfl, rfl, rfl⟩
  silent guid vote hv := by simp at hv
  mem guid := by simp

theorem Entered.votes_eq_zero (h : r.Entered n entered) (hkind : kind ≠ .notEmitedYet) : r.votes kind = 0 := by
  have hzero : r.votes kind = tally (fun _ _ => 0) r.playerVote := by
    refine tally_congr fun guid vote hv => if_neg ?_
    rw [h.silent guid vote hv]
    exact hkind.symm
  rw [hzero]
  exact tally_zero r.playerVote

theorem Entered.tallied (h : r.Entered n entered) : r.Tallied := by
  obtain ⟨h1, h2, h3⟩ := h.totals
  refine ⟨?_, ?_, ?_, h.players.1.trans h.players.2.symm⟩
  · rw [h1, h.votes_eq_zero (by decide)]
    rfl
  · rw [h2, h.votes_eq_zero (by decide)]
    rfl
  · rw [h3, h.votes_eq_zero (by decide)]
    rfl

theorem Entered.silent_of_pos (h : r.Entered n entered) (hpos : 0 < r.totalPlayersRolling.toNat) : r.Silent := by
  have hlen : 0 < r.playerVote.keys.length := by
    rw [← players_eq_length, h.players.2, ← h.players.1]
    exact hpos
  obtain ⟨guid, hguid⟩ := exists_mem_of_length_pos hlen
  obtain ⟨vote, hvote⟩ := isSome_iff_exists.1 (AList.lookup_isSome.2 hguid)
  exact ⟨guid, by rw [hvote, h.silent guid vote hvote]⟩

/-! Who wins. -/

end Roll

namespace RollGroup

variable {g : RollGroup}

/-- The vote is the first of its player on the roll; and who leaves is not the last of a roll without a vote, unless
the group is disbanded. -/
def InTurn (g : RollGroup) : RollEvent → Prop
  | .lootRoll guid lootedTarget itemSlot rollType =>
    ∀ r ∈ g.rolls, r.isValid → r.lootedTarget = lootedTarget → r.itemSlot = itemSlot → RollVote.ofClient rollType ≠ none →
      r.playerVote.lookup guid = none ∨ r.playerVote.lookup guid = some .notEmitedYet
  | .removeMember guid =>
    g.membersMinCount < g.members.length → ∀ r ∈ g.rolls, r.isValid → guid ∈ r.playerVote →
      ∃ other ∈ r.playerVote.keys, other ≠ guid ∧ r.playerVote.lookup other = some .notEmitedYet
  | _ => True

instance (g : RollGroup) (e : RollEvent) : Decidable (g.InTurn e) := by
  cases e <;> unfold InTurn <;> infer_instance

/-- What a step should do to the rolls: the totals of every pending roll are right, somebody on it has not voted, and
a roll that is resolved is one on which every player still in the group has voted, or its time is up. -/
structure Right (g : RollGroup) (e : RollEvent) : Prop where
  tallied : ∀ r ∈ (g.step e).rolls, r.isValid → r.Tallied
  entitled : ∀ r ∈ (g.step e).rolls, r.isValid → ∀ guid ∈ r.playerVote, guid ∈ (g.step e).members
  pending : ∀ r ∈ (g.step e).rolls, r.isValid → r.Silent
  resolved : ∀ r ∈ (g.call e).1, r.isValid → (∃ loot, r.loot = some loot ∧ e = .endRoll loot) ∨
    ∀ guid vote, r.playerVote.lookup guid = some vote → guid ∈ (g.step e).members → vote ≠ .notEmitedYet
  expired : ∀ loot, e = .endRoll loot → ∀ r ∈ (g.step e).rolls, r.loot ≠ some loot

/-- What holds of the group between two steps. -/
structure Sound (g : RollGroup) : Prop where
  size : g.members.length ≤ 40
  nodup : g.members.Nodup
  rolls : ∀ r ∈ g.rolls, r.Sound g.members g.items
  pending : ∀ r ∈ g.rolls, r.isValid → r.Silent

theorem start_sound (battleground : Bool) : (start battleground).Sound where
  size := zero_le _
  nodup := nodup_nil
  rolls r hr := by cases hr
  pending r hr := by cases hr

variable {guid rollType : Nat} {vote : RollVote} {e : RollEvent}

theorem Sound.countRollVote (h : g.Sound) {r : Roll} (hr : r ∈ g.rolls) (hvalid : r.isValid = true)
    (hfirst : ∀ v, r.playerVote.lookup guid = some v → v = .notEmitedYet) (hvote : vote = .pass ∨ vote = .need ∨ vote = .greed) :
    (r.countRollVote g.items guid vote).1.Sound g.members g.items ∧
      ((r.countRollVote g.items guid vote).2 = true ↔ ¬ (r.countRollVote g.items guid vote).1.Silent) := by
  have hsound := h.rolls r hr
  unfold Roll.countRollVote
  split
  · exact ⟨hsound, by simpa using h.pending r hr hvalid⟩
  rename_i v hv
  obtain rfl := hfirst v hv
  split_ifs with hempty
  · exact ⟨hsound, by simpa using h.pending r hr hvalid⟩
  · have hkept := hsound.countVote h.size hv hvote
    exact ⟨hkept, hkept.allVoted_iff⟩

theorem ofClient_cases (h : RollVote.ofClient rollType = some vote) : vote = .pass ∨ vote = .need ∨ vote = .greed := by
  unfold ofClient at h
  split at h
  · exact .inl (some.inj h).symm
  · exact .inr (.inl (some.inj h).symm)
  · exact .inr (.inr (some.inj h).symm)
  · cases h

/-- What a vote may do to the rolls: at most one changes, by `countRollVote`. -/
theorem voteFirst_cases (items : Nat → Nat) (lootedTarget itemSlot guid : Nat) (vote : RollVote) (rs : List Roll) :
    (∀ r' ∈ (voteFirst items lootedTarget itemSlot guid vote rs).1, ∃ r ∈ rs, r.isValid = true ∧ r.lootedTarget = lootedTarget ∧
      r.itemSlot = itemSlot ∧ r.countRollVote items guid vote = (r', true)) ∧
    ∀ r' ∈ (voteFirst items lootedTarget itemSlot guid vote rs).2, r' ∈ rs ∨ ∃ r ∈ rs, r.isValid = true ∧
      r.lootedTarget = lootedTarget ∧ r.itemSlot = itemSlot ∧ r.countRollVote items guid vote = (r', false) := by
  induction rs with
  | nil => exact ⟨fun r' hr' => (not_mem_nil hr').elim, fun r' hr' => (not_mem_nil hr').elim⟩
  | cons r rs ih =>
    unfold voteFirst
    split_ifs with hmatch
    · obtain ⟨hvalid, htarget, hslot⟩ := hmatch
      split <;> rename_i r1 hr1
      · refine ⟨fun r' hr' => ?_, fun r' hr' => .inl (mem_cons_of_mem r hr')⟩
        rw [mem_singleton.1 hr']
        exact ⟨r, mem_cons_self, hvalid, htarget, hslot, hr1⟩
      · refine ⟨fun r' hr' => (not_mem_nil hr').elim, fun r' hr' => ?_⟩
        rcases mem_cons.1 hr' with rfl | hr'
        · exact .inr ⟨r, mem_cons_self, hvalid, htarget, hslot, hr1⟩
        · exact .inl (mem_cons_of_mem r hr')
    · constructor
      · intro r' hr'
        obtain ⟨q, hq, hrest⟩ := ih.1 r' hr'
        exact ⟨q, mem_cons_of_mem r hq, hrest⟩
      · intro r' hr'
        rcases mem_cons.1 hr' with rfl | hr'
        · exact .inl mem_cons_self
        rcases ih.2 r' hr' with hmem | ⟨q, hq, hrest⟩
        · exact .inl (mem_cons_of_mem r hmem)
        · exact .inr ⟨q, mem_cons_of_mem r hq, hrest⟩

/-- No roll is counted out for a player who has left it. -/
theorem removeRolls_cases (items : Nat → Nat) (guid : Nat) (rs : List Roll) : (removeRolls items guid rs).1 = [] ∧
    ∀ r' ∈ (removeRolls items guid rs).2, ∃ r ∈ rs, (r.playerVote.lookup guid = none ∧ r' = r) ∨
      ∃ vote, r.playerVote.lookup guid = some vote ∧ r' = r.removePlayer guid vote := by
  induction rs with
  | nil => exact ⟨rfl, fun r' hr' => (not_mem_nil hr').elim⟩
  | cons r rs ih =>
    have hrest : ∀ r' ∈ (removeRolls items guid rs).2, ∃ q ∈ r :: rs, (q.playerVote.lookup guid = none ∧ r' = q) ∨
        ∃ vote, q.playerVote.lookup guid = some vote ∧ r' = q.removePlayer guid vote := by
      intro r' hr'
      obtain ⟨q, hq, hcase⟩ := ih.2 r' hr'
      exact ⟨q, mem_cons_of_mem r hq, hcase⟩
    unfold removeRolls
    cases hlook : r.playerVote.lookup guid with
    | none =>
      refine ⟨ih.1, fun r' hr' => ?_⟩
      rcases mem_cons.1 hr' with rfl | hr'
      · exact ⟨_, mem_cons_self, .inl ⟨hlook, rfl⟩⟩
      · exact hrest r' hr'
    | some vote =>
      have hgone : (r.removePlayer guid vote).countRollVote items guid .notEmitedYet = (r.removePlayer guid vote, false) := by
        have hnone : (r.removePlayer guid vote).playerVote.lookup guid = none := AList.lookup_erase guid r.playerVote
        unfold countRollVote
        rw [hnone]
      dsimp only
      rw [hgone]
      refine ⟨ih.1, fun r' hr' => ?_⟩
      rcases mem_cons.1 hr' with rfl | hr'
      · exact ⟨r, mem_cons_self, .inr ⟨vote, hlook, rfl⟩⟩
      · exact hrest r' hr'

/-- A step that counts no roll out is right when its state is sound. -/
theorem Sound.right (h : (g.step e).Sound) (hresolved : ∀ r ∈ (g.call e).1, r.isValid →
      (∃ loot, r.loot = some loot ∧ e = .endRoll loot) ∨
        ∀ guid vote, r.playerVote.lookup guid = some vote → guid ∈ (g.step e).members → vote ≠ .notEmitedYet)
    (hexpired : ∀ loot, e = .endRoll loot → ∀ r ∈ (g.step e).rolls, r.loot ≠ some loot) : g.Right e where
  tallied r hr _ := (h.rolls r hr).tallied
  entitled r hr _ := (h.rolls r hr).entitled
  pending := h.pending
  resolved := hresolved
  expired := hexpired

section

variable (h : g.Sound)
include h

theorem Sound.addMember (guid : Nat) : (g.step (.addMember guid)).Sound := by
  change (if g.isFull ∨ guid ∈ g.members then g else { g with members := g.members ++ [guid] }).Sound
  split_ifs with hguard
  · exact h
  obtain ⟨hfull, hnew⟩ := not_or.1 hguard
  have hsize : g.members.length < 40 := by
    unfold isFull at hfull
    split at hfull <;> rw [decide_eq_true_iff] at hfull <;> omega
  refine ⟨?_, ?_, fun r hr => ?_, h.pending⟩
  · rw [length_append]
    exact hsize
  · exact nodup_append.2 ⟨h.nodup, nodup_singleton guid, fun a ha b hb => by
      rw [mem_singleton.1 hb]
      exact fun heq => hnew (heq ▸ ha)⟩
  · exact (h.rolls r hr).mono (fun other hother => mem_append_left _ hother) fun loot => le_refl _

theorem Sound.fillLoot (loot count : Nat) : (g.step (.fillLoot loot count)).Sound := by
  refine ⟨h.size, h.nodup, fun r hr => (h.rolls r hr).mono (fun _ hmem => hmem) fun other => ?_, h.pending⟩
  change g.items other ≤ update g.items loot (g.items loot + count) other
  by_cases heq : other = loot
  · rw [heq, update_self]
    exact le_add_right _ _
  · rw [update_of_ne heq]

theorem Sound.clearLoot (loot : Nat) : (g.step (.clearLoot loot)).Sound := by
  refine ⟨h.size, h.nodup, fun r' hr' => ?_, fun r' hr' hvalid => ?_⟩
  · obtain ⟨r, hr, rfl⟩ := mem_map.1 hr'
    have hsound := h.rolls r hr
    split_ifs with hloot
    · exact hsound.unlink _
    refine ⟨hsound.tallied, hsound.entitled, hsound.chosen, fun other hother => ?_⟩
    have hne : other ≠ loot := fun heq => hloot (heq ▸ hother)
    change r.itemSlot < update g.items loot 0 other
    rw [update_of_ne hne]
    exact hsound.item other hother
  · obtain ⟨r, hr, rfl⟩ := mem_map.1 hr'
    split_ifs at hvalid ⊢ with hloot
    · cases hvalid
    · exact h.pending r hr hvalid

theorem Sound.startLootRoll (lootedTarget loot itemSlot : Nat) (allowed : List Nat) :
    (g.step (.startLootRoll lootedTarget loot itemSlot allowed)).Sound := by
  change (g.startLootRoll lootedTarget loot itemSlot allowed).Sound
  unfold RollGroup.startLootRoll
  dsimp only
  split_ifs with hitem hpos
  · exact h
  · have hsub : (g.members.filter (· ∈ allowed)).Sublist g.members := filter_sublist
    have hlen := hsub.length_le
    have hsize := h.size
    have hentered := (entered_start lootedTarget itemSlot loot).enterAll (g.members.filter (· ∈ allowed))
      (by simpa using h.nodup.filter _) (by omega)
    obtain ⟨hloot, hslot⟩ := enter_fields ⟨lootedTarget, itemSlot, some loot, ∅, 0, 0, 0, 0⟩ (g.members.filter (· ∈ allowed))
    generalize (g.members.filter (· ∈ allowed)).foldl enter _ = r at hentered hloot hslot hpos
    have hsound : r.Sound g.members g.items := by
      refine ⟨hentered.tallied, fun guid hguid => hsub.subset (by simpa using (hentered.mem guid).1 hguid), ?_, ?_⟩
      · intro guid vote hvote
        rw [hentered.silent guid vote hvote]
        decide
      · intro other hother
        rw [hloot] at hother
        obtain rfl := some.inj hother
        rw [hslot]
        exact Nat.lt_of_not_le hitem
    have hsilent := hentered.silent_of_pos (UInt8.lt_iff_toNat_lt.1 hpos)
    refine ⟨h.size, h.nodup, fun r' hr' => ?_, fun r' hr' hvalid => ?_⟩
    · rcases mem_append.1 hr' with hr' | hr'
      · exact h.rolls r' hr'
      · rw [mem_singleton.1 hr']
        exact hsound
    · rcases mem_append.1 hr' with hr' | hr'
      · exact h.pending r' hr' hvalid
      · rw [mem_singleton.1 hr']
        exact hsilent
  · exact h

theorem Sound.lootRoll {lootedTarget itemSlot : Nat} (hturn : g.InTurn (.lootRoll guid lootedTarget itemSlot rollType)) :
    (g.step (.lootRoll guid lootedTarget itemSlot rollType)).Sound ∧
      ∀ r ∈ (g.call (.lootRoll guid lootedTarget itemSlot rollType)).1, ¬ r.Silent := by
  simp only [step, call]
  cases hvote : ofClient rollType with
  | none => exact ⟨h, fun r hr => (not_mem_nil hr).elim⟩
  | some vote =>
    split_ifs with hmem
    · have hkind := ofClient_cases hvote
      have hfirst : ∀ r ∈ g.rolls, r.isValid = true → r.lootedTarget = lootedTarget → r.itemSlot = itemSlot →
          ∀ v, r.playerVote.lookup guid = some v → v = .notEmitedYet := by
        intro r hr h1 h2 h3 v hv
        have hchosen := hturn r hr h1 h2 h3 (by rw [hvote]; exact some_ne_none vote)
        rw [hv] at hchosen
        simpa using hchosen
      obtain ⟨hout, hin⟩ := voteFirst_cases g.items lootedTarget itemSlot guid vote g.rolls
      refine ⟨⟨h.size, h.nodup, fun r' hr' => ?_, fun r' hr' hvalid => ?_⟩, fun r' hr' => ?_⟩
      · rcases hin r' hr' with hold | ⟨r, hr, h1, h2, h3, heq⟩
        · exact h.rolls r' hold
        have := h.countRollVote hr h1 (hfirst r hr h1 h2 h3) hkind
        rw [heq] at this
        exact this.1
      · rcases hin r' hr' with hold | ⟨r, hr, h1, h2, h3, heq⟩
        · exact h.pending r' hold hvalid
        have := h.countRollVote hr h1 (hfirst r hr h1 h2 h3) hkind
        rw [heq] at this
        by_contra hnot
        exact Bool.false_ne_true (this.2.2 hnot)
      · obtain ⟨r, hr, h1, h2, h3, heq⟩ := hout r' hr'
        have := h.countRollVote hr h1 (hfirst r hr h1 h2 h3) hkind
        rw [heq] at this
        exact this.2.1 rfl
    · exact ⟨h, fun r hr => (not_mem_nil hr).elim⟩

theorem Sound.removeMember (hturn : g.InTurn (.removeMember guid)) : (g.step (.removeMember guid)).Sound ∧
      ((g.call (.removeMember guid)).1 = [] ∨ (g.step (.removeMember guid)).members = []) := by
  simp only [step, call]
  split_ifs with hmin
  · obtain ⟨hout, hin⟩ := removeRolls_cases g.items guid g.rolls
    refine ⟨⟨?_, h.nodup.erase guid, fun r' hr' => ?_, fun r' hr' hvalid => ?_⟩, .inl hout⟩
    · exact (length_erase_le).trans h.size
    · obtain ⟨r, hr, ⟨hnone, rfl⟩ | ⟨vote, hvote, rfl⟩⟩ := hin r' hr'
      · have hsound := h.rolls r' hr
        refine ⟨hsound.tallied, fun other hother => ?_, hsound.chosen, hsound.item⟩
        have hne : other ≠ guid := fun heq => AList.lookup_eq_none.1 hnone (heq ▸ hother)
        exact (mem_erase_of_ne hne).2 (hsound.entitled other hother)
      · exact (h.rolls r hr).removePlayer hvote
    · obtain ⟨r, hr, ⟨hnone, rfl⟩ | ⟨vote, hvote, rfl⟩⟩ := hin r' hr'
      · exact h.pending r' hr hvalid
      -- somebody else is silent
      obtain ⟨other, -, hne, hother⟩ := hturn hmin r hr hvalid (AList.lookup_isSome.1 (by rw [hvote]; rfl))
      refine ⟨other, ?_⟩
      change (r.playerVote.erase guid).lookup other = some .notEmitedYet
      rw [AList.lookup_erase_ne hne]
      exact hother
  · exact ⟨⟨zero_le _, nodup_nil, fun r hr => (not_mem_nil hr).elim, fun r hr => (not_mem_nil hr).elim⟩, .inr rfl⟩

theorem Sound.endRoll (loot : Nat) : (g.step (.endRoll loot)).Sound where
  size := h.size
  nodup := h.nodup
  rolls r hr := h.rolls r (mem_filter.1 hr).1
  pending r hr hvalid := h.pending r (mem_filter.1 hr).1 hvalid

theorem Sound.step (hturn : g.InTurn e) : (g.step e).Sound ∧ g.Right e := by
  have hquiet : (g.step e).Sound → (g.call e).1 = [] → (∀ loot, e ≠ .endRoll loot) → (g.step e).Sound ∧ g.Right e := by
    intro hsound hnone hnot
    refine ⟨hsound, hsound.right (fun r hr => ?_) fun loot he => absurd he (hnot loot)⟩
    rw [hnone] at hr
    exact (not_mem_nil hr).elim
  cases e with
  | addMember guid => exact hquiet (h.addMember guid) rfl fun loot => by simp
  | convertToRaid => exact hquiet ⟨h.size, h.nodup, h.rolls, h.pending⟩ rfl fun loot => by simp
  | fillLoot loot count => exact hquiet (h.fillLoot loot count) rfl fun loot => by simp
  | clearLoot loot => exact hquiet (h.clearLoot loot) rfl fun loot => by simp
  | startLootRoll lootedTarget loot itemSlot allowed =>
    exact hquiet (h.startLootRoll lootedTarget loot itemSlot allowed) rfl fun loot => by simp
  | lootRoll guid lootedTarget itemSlot rollType =>
    obtain ⟨hsound, hout⟩ := h.lootRoll hturn
    refine ⟨hsound, hsound.right (fun r hr _ => .inr fun other vote hvote _ heq => ?_) fun loot he => by cases he⟩
    rw [heq] at hvote
    exact hout r hr ⟨other, hvote⟩
  | removeMember guid =>
    obtain ⟨hsound, hout⟩ := h.removeMember hturn
    refine ⟨hsound, hsound.right (fun r hr _ => .inr fun other vote _ hmem => ?_) fun loot he => by cases he⟩
    rcases hout with hnone | hgone
    · rw [hnone] at hr
      exact (not_mem_nil hr).elim
    · rw [hgone] at hmem
      exact (not_mem_nil hmem).elim
  | endRoll loot =>
    have hsound := h.endRoll loot
    refine ⟨hsound, hsound.right (fun r hr _ => .inl ⟨loot, ?_, rfl⟩) fun loot' he r hr => ?_⟩
    · exact of_decide_eq_true (mem_filter.1 hr).2
    · cases he
      exact of_decide_eq_true (mem_filter.1 hr).2

end

theorem loot_rolls_tallied {battleground : Bool} {es : List RollEvent}
    (h : Runs.Admitted RollGroup.step InTurn (start battleground) es) :
    Runs.Admitted RollGroup.step Right (start battleground) es :=
  h.of_invariant (fun _ _ hg hturn => hg.step hturn) (start_sound battleground)

theorem loot_rolls_tallied_greed :
    Runs.Admitted RollGroup.step Right (start false) [.addMember 1, .addMember 2, .addMember 3, .fillLoot 0 1,
      .startLootRoll 9 0 0 [1, 2, 3], .lootRoll 1 9 0 2, .removeMember 2, .endRoll 0] :=
  loot_rolls_tallied (by decide)

/-- A second vote is counted on top of the first; and the roll that only waited for a player who leaves goes on waiting. -/
theorem loot_rolls_not_tallied :
    (¬ Runs.Admitted RollGroup.step Right (start false) [.addMember 1, .addMember 2, .addMember 3, .fillLoot 0 1,
      .startLootRoll 9 0 0 [1, 2, 3], .lootRoll 1 9 0 1, .lootRoll 1 9 0 1]) ∧
    ¬ Runs.Admitted RollGroup.step Right (start false) [.addMember 1, .addMember 2, .addMember 3, .fillLoot 0 1,
      .startLootRoll 9 0 0 [1, 2, 3], .lootRoll 1 9 0 1, .lootRoll 2 9 0 0, .removeMember 3] := by
  constructor
  · intro h
    have hright := (h.getElem? (n := 6) rfl).1
    have hneed := fun r hr hvalid => (hright.tallied r hr hvalid).need
    exact absurd hneed (by decide)
  · intro h
    have hright := (h.getElem? (n := 7) rfl).1
    have hsilent := fun r hr hvalid => silent_iff.1 (hright.pending r hr hvalid)
    exact absurd hsilent (by decide)

end RollGroup

end ComfyCraft
