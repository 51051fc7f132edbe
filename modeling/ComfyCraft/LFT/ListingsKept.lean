import ComfyCraft.LFT.ListingTexts
import ComfyCraft.Lib.Runs
import Mathlib.Data.List.Perm.Subperm

/-! What the requests keep of the listings: one for each creator, no name twice in one, the counts of its
signups, and its row. -/

namespace ComfyCraft

open List UInt8 PerRole ListingWorld Party ListedPlayer

variable {u : Utf8} {cols : ListingColumns} {w : ListingWorld}

namespace PerRole

variable {α : Type} {r : PerRole (List α)}

theorem all_filter (r : PerRole (List α)) (p : α → Bool) : (r.map (List.filter p)).all = r.all.filter p := by
  unfold all map
  rw [filter_append, filter_append]

theorem all_push (r : PerRole (List α)) (roleIdx : Nat) (a : α) : (r.modify roleIdx fun l => l ++ [a]).all.Perm (a :: r.all) := by
  unfold modify all
  split_ifs
  · dsimp only
    rw [append_assoc, append_assoc, append_assoc]
    exact perm_middle
  · dsimp only
    rw [← append_assoc, append_assoc]
    exact perm_middle
  · dsimp only
    rw [← append_assoc]
    exact perm_append_singleton _ _

end PerRole

/-! ### One listing -/

namespace Listing

variable {l : Listing}

def names (u : Utf8) (l : Listing) : List Text := l.signups.all.filterMap fun s => normalizePlayerName u s.name

/-- The columns keep the texts of a listing as they are. -/
structure Fits (cols : ListingColumns) (l : Listing) : Prop where
  creator : cols.creatorName l.creator = some l.creator
  title : cols.title l.title = some l.title
  description : cols.description l.description = some l.description

structure Sound (u : Utf8) (cols : ListingColumns) (l : Listing) : Prop where
  fits : l.Fits cols
  named : ∀ s ∈ l.signups.all, (normalizePlayerName u s.name).isSome = true
  names : (l.names u).Nodup
  lettered : ∀ s ∈ l.signups.all, s.Lettered
  counts : l.numConfirmed.map UInt8.toNat = l.signups.map List.length

/-- A listing between the changes of a request: a name that is none of a player's is still in it. -/
structure Open (u : Utf8) (w : ListingWorld) (l : Listing) : Prop where
  names : (l.names u).Nodup
  lettered : ∀ s ∈ l.signups.all, s.Lettered ∨ (normalizePlayerName u s.name).bind (w.getPlayerByName u) = none

theorem Sound.open (h : l.Sound u cols) : l.Open u w := ⟨h.names, fun s hs => .inl (h.lettered s hs)⟩

theorem Open.filter (h : l.Open u w) (p : ListingSignup → Bool) : { l with signups := l.signups.map (List.filter p) }.Open u w where
  names := by
    unfold Listing.names
    rw [PerRole.all_filter]
    exact h.names.sublist (filter_sublist.filterMap _)
  lettered := by
    intro s hs
    rw [PerRole.all_filter] at hs
    exact h.lettered s (mem_of_mem_filter hs)

theorem Open.removeListingSignup (h : l.Open u w) (name : Text) : (l.removeListingSignup u name).Open u w := by
  unfold Listing.removeListingSignup
  split
  · exact h
  · exact h.filter _

theorem notMem_removeListingSignup (l : Listing) {name n : Text} (hn : normalizePlayerName u name = some n) :
    n ∉ (l.removeListingSignup u name).names u := by
  unfold removeListingSignup
  rw [hn]
  intro hmem
  unfold names at hmem
  rw [PerRole.all_filter] at hmem
  obtain ⟨s, hs, heq⟩ := mem_filterMap.1 hmem
  exact of_decide_eq_true (mem_filter.1 hs).2 heq

variable {s : ListingSignup} {l' : Listing} {creator : ListedPlayer}

section

variable (h : l.Open u w)
include h

theorem Open.enterSignup (hs : s.Lettered ∨ (normalizePlayerName u s.name).bind (w.getPlayerByName u) = none) (roleIdx : Nat) :
    (l.enterSignup u s roleIdx).Open u w := by
  have hrem := h.removeListingSignup s.name
  have hperm := all_push (l.removeListingSignup u s.name).signups roleIdx s
  refine ⟨?_, fun x hx => ?_⟩
  · have hnames : ((l.enterSignup u s roleIdx).names u).Perm
        ((s :: (l.removeListingSignup u s.name).signups.all).filterMap fun s => normalizePlayerName u s.name) := hperm.filterMap _
    rw [hnames.nodup_iff, filterMap_cons]
    cases hn : normalizePlayerName u s.name with
    | none => exact hrem.names
    | some n => exact nodup_cons.2 ⟨l.notMem_removeListingSignup hn, hrem.names⟩
  · rcases mem_cons.1 (hperm.mem_iff.1 hx) with rfl | hold
    · exact hs
    · exact hrem.lettered x hold

theorem Open.setListingSignupRole (p : ListedPlayer) (roleIdx : Nat) : (l.setListingSignupRole u p roleIdx).Open u w := by
  have hlettered : (⟨p.name, p.playerClass.name, p.level.toUInt32, true⟩ : ListingSignup).Lettered :=
    ⟨p.letters, letters_playerClass p.playerClass⟩
  exact h.enterSignup (.inl hlettered) roleIdx

theorem Open.confirm (confirmed : Text) : (l.confirm u w confirmed).Open u w := by
  unfold Listing.confirm
  split
  · rename_i name role rest heq
    dsimp only
    split_ifs
    · exact h
    · exact h
    cases hn : normalizePlayerName u name with
    | none => exact h
    | some n =>
      dsimp only
      cases hp : w.getPlayerByName u n with
      | none =>
        refine h.enterSignup (.inr ?_) _
        rw [normalizePlayerName_idem u hn]
        exact hp
      | some p => exact h.setListingSignupRole p _
  · exact h

theorem Open.pruneListingSignups : (l.pruneListingSignups u w).Open u w := by
  unfold Listing.pruneListingSignups
  split
  · exact h
  · exact h.filter _

theorem Open.confirmAll (confirmed : List Text) : (confirmed.foldl (Listing.confirm u w) l).Open u w := by
  induction confirmed generalizing l with
  | nil => exact h
  | cons c confirmed ih => exact ih (h.confirm c)

end

/-! What does not change. -/

/-- The same listing but for its signups. -/
def Alike (l l' : Listing) : Prop :=
  l'.id = l.id ∧ l'.creatorGuid = l.creatorGuid ∧ l'.creator = l.creator ∧ l'.title = l.title ∧ l'.description = l.description

theorem Alike.refl (l : Listing) : Alike l l := ⟨rfl, rfl, rfl, rfl, rfl⟩

theorem Alike.trans {l l'' : Listing} (h : Alike l l') (h' : Alike l' l'') : Alike l l'' :=
  ⟨h'.1.trans h.1, h'.2.1.trans h.2.1, h'.2.2.1.trans h.2.2.1, h'.2.2.2.1.trans h.2.2.2.1, h'.2.2.2.2.trans h.2.2.2.2⟩

theorem Alike.fits {l : Listing} (h : Alike l l') (hf : l.Fits cols) : l'.Fits cols := by
  obtain ⟨-, -, hcreator, htitle, hdescription⟩ := h
  exact ⟨hcreator ▸ hf.creator, htitle ▸ hf.title, hdescription ▸ hf.description⟩

theorem alike_removeListingSignup (l : Listing) (name : Text) : Alike l (l.removeListingSignup u name) := by
  unfold removeListingSignup
  split <;> exact ⟨rfl, rfl, rfl, rfl, rfl⟩

theorem alike_enterSignup (l : Listing) (s : ListingSignup) (roleIdx : Nat) : Alike l (l.enterSignup u s roleIdx) :=
  (l.alike_removeListingSignup s.name).trans ⟨rfl, rfl, rfl, rfl, rfl⟩

theorem alike_confirm (l : Listing) (confirmed : Text) : Alike l (l.confirm u w confirmed) := by
  unfold confirm
  split
  · dsimp only
    split_ifs
    · exact Alike.refl l
    · exact Alike.refl l
    split
    · exact Alike.refl l
    · split <;> exact l.alike_enterSignup _ _
  · exact Alike.refl l

theorem alike_confirmAll (l : Listing) (confirmed : List Text) : Alike l (confirmed.foldl (Listing.confirm u w) l) := by
  induction confirmed generalizing l with
  | nil => exact Alike.refl l
  | cons c confirmed ih => exact (l.alike_confirm c).trans (ih _)

theorem alike_pruneListingSignups (l : Listing) : Alike l (l.pruneListingSignups u w) := by
  unfold pruneListingSignups
  split <;> exact ⟨rfl, rfl, rfl, rfl, rfl⟩

/-! Pruning. -/

theorem belongs_player (h : belongs u w creator s = true) : ∃ p ∈ w.players, normalizePlayerName u s.name = some p.name ∧
      (p.guid = creator.guid ∨ ∃ g, creator.group = some g ∧ p.guid ∈ g.members) := by
  unfold belongs at h
  split at h
  · cases h
  rename_i p hp
  obtain ⟨n, hn, hget⟩ := Option.bind_eq_some_iff.1 hp
  unfold getPlayerByName at hget
  rw [normalizePlayerName_idem u hn] at hget
  have hname : p.name = n := by simpa using find?_some hget
  refine ⟨p, mem_of_find?_eq_some hget, by rw [hn, hname], ?_⟩
  rw [Bool.or_eq_true, decide_eq_true_eq, Option.any_eq_true] at h
  rcases h with heq | ⟨g, hg, hmem⟩
  · exact .inl heq
  · exact .inr ⟨g, hg, contains_iff_mem.1 hmem⟩

theorem getPlayer_of_mem {p : ListedPlayer} (hp : p ∈ w.players) : w.getPlayer p.guid = some p := by
  unfold getPlayer
  cases h : w.players.find? fun q => q.guid = p.guid with
  | none => exact absurd (decide_eq_true rfl) (find?_eq_none.1 h p hp)
  | some q =>
    have hguid : q.guid = p.guid := by simpa using find?_some h
    rw [inj_on_of_nodup_map w.guids (mem_of_find?_eq_some h) hp hguid]

/-- No more signups are left than there are players in the group, with the creator. -/
theorem length_pruned (h : l.Open u w) : (l.signups.all.filter (belongs u w creator)).length ≤ 41 := by
  have hlen : (l.signups.all.filter (belongs u w creator)).length =
      ((l.signups.all.filter (belongs u w creator)).filterMap fun s => normalizePlayerName u s.name).length := by
    rw [length_filterMap_eq_countP, countP_eq_length.2]
    intro s hs
    obtain ⟨p, -, hn, -⟩ := belongs_player (mem_filter.1 hs).2
    rw [hn]
    rfl
  have hnd : ((l.signups.all.filter (belongs u w creator)).filterMap fun s => normalizePlayerName u s.name).Nodup :=
    h.names.sublist (filter_sublist.filterMap _)
  have hsub : ((l.signups.all.filter (belongs u w creator)).filterMap fun s => normalizePlayerName u s.name) ⊆
      (creator.guid :: (creator.group.map members).getD []).filterMap fun guid => (w.getPlayer guid).map name := by
    intro n hn
    obtain ⟨s, hs, hnorm⟩ := mem_filterMap.1 hn
    obtain ⟨p, hp, hname, hin⟩ := belongs_player (mem_filter.1 hs).2
    refine mem_filterMap.2 ⟨p.guid, ?_, ?_⟩
    · rcases hin with heq | ⟨g, hg, hmem⟩
      · exact heq ▸ mem_cons_self
      · rw [hg]
        exact mem_cons_of_mem _ hmem
    · rw [getPlayer_of_mem hp]
      exact hname.symm.trans hnorm
  have hgroup : ((creator.group.map members).getD []).length ≤ 40 := by
    cases creator.group with
    | none => exact Nat.zero_le _
    | some g => exact g.size
  have hle := (subperm_of_subset hnd hsub).length_le
  have hmap := length_filterMap_le (fun guid => (w.getPlayer guid).map name)
    (creator.guid :: (creator.group.map members).getD [])
  rw [length_cons] at hmap
  omega

/-- A changed listing whose creator is in the world is sound once it is pruned and counted. -/
theorem Open.stored (h : l.Open u w) (hf : l.Fits cols) (hc : w.getPlayer l.creatorGuid = some creator) :
    ((l.pruneListingSignups u w).recountListing).Sound u cols := by
  have hopen := h.pruneListingSignups
  have hlen : (l.signups.all.filter (belongs u w creator)).length ≤ 41 := length_pruned h
  have hall : (l.pruneListingSignups u w).signups.all = l.signups.all.filter (belongs u w creator) := by
    unfold Listing.pruneListingSignups
    rw [hc]
    exact all_filter _ _
  have hbelongs : ∀ s ∈ (l.pruneListingSignups u w).signups.all, belongs u w creator s = true := by
    intro s hs
    rw [hall] at hs
    exact (mem_filter.1 hs).2
  have hfits := (l.alike_pruneListingSignups (u := u) (w := w)).fits hf
  refine ⟨⟨hfits.creator, hfits.title, hfits.description⟩, fun s hs => ?_, hopen.names, fun s hs => ?_, ?_⟩
  · obtain ⟨p, -, hn, -⟩ := belongs_player (hbelongs s hs)
    rw [hn]
    rfl
  · rcases hopen.lettered s hs with hl | hnone
    · exact hl
    have htrue := hbelongs s hs
    unfold belongs at htrue
    rw [hnone] at htrue
    cases htrue
  · -- every role is short enough for its count
    rw [← hall] at hlen
    unfold PerRole.all at hlen
    rw [length_append, length_append] at hlen
    have hcount : ∀ n, n ≤ 41 → (ofNat n).toNat = n := fun n hn => toNat_ofNat_of_lt' (lt_of_le_of_lt hn (by decide))
    unfold recountListing PerRole.map
    dsimp only
    rw [hcount _ (by omega), hcount _ (by omega), hcount _ (by omega)]

theorem Sound.decode_row (h : l.Sound u cols) : l.row.decode = l := by
  have htank : ∀ s ∈ l.signups.tank, s.Lettered := fun s hs =>
    h.lettered s (mem_append_left _ (mem_append_left _ hs))
  have hhealer : ∀ s ∈ l.signups.healer, s.Lettered := fun s hs =>
    h.lettered s (mem_append_left _ (mem_append_right _ hs))
  have hdamage : ∀ s ∈ l.signups.damage, s.Lettered := fun s hs => h.lettered s (mem_append_right _ hs)
  have hsignups : (l.signups.map serializeSignups).map deserializeSignups = l.signups := by
    unfold PerRole.map
    rw [deserialize_serialize htank, deserialize_serialize hhealer, deserialize_serialize hdamage]
  have hcounts : (l.signups.map fun role => ofNat role.length) = l.numConfirmed := by
    have hc := h.counts
    unfold PerRole.map at hc ⊢
    obtain ⟨h1, h2, h3⟩ := PerRole.mk.inj hc
    dsimp only
    rw [← h1, ← h2, ← h3]
    simp only [UInt8.ofNat_toNat]
  unfold ListingRow.decode row recountListing
  dsimp only
  rw [hsignups, hcounts]

end Listing

end ComfyCraft
