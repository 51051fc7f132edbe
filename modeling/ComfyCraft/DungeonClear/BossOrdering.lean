import Mathlib.Data.UInt

/-! The order in which the dungeon clear goes to its bosses: it holds on to the boss it has chosen, and once that one is
gone goes on from its order key. A boss is known by its entry. -/

namespace ComfyCraft.DcBossOrdering

open List Option List.Nodup

structure DungeonBossInfo where
  entry : UInt32
  encounterIndex : UInt32
  orderOverride : Int32
deriving DecidableEq

def BossOrderKey (b : DungeonBossInfo) : UInt32 := if 0 ≤ b.orderOverride then b.orderOverride.toUInt32 else b.encounterIndex

/-- The boss chosen before, with its order key where that is known. -/
structure Commitment where
  stickyEntry : UInt32
  stickyEncounterIndex : UInt32
  haveStickyIndex : Bool

def held (cands : List DungeonBossInfo) (c : Commitment) : Option DungeonBossInfo :=
  if c.stickyEntry ≠ 0 then cands.find? fun info => info.entry = c.stickyEntry else none

/-- The first candidate that shares the key of the boss that is gone, or the first after it. -/
def following (cands : List DungeonBossInfo) (c : Commitment) : Option DungeonBossInfo :=
  if c.haveStickyIndex then
    (cands.find? fun info => BossOrderKey info = c.stickyEncounterIndex).or
      (cands.find? fun info => c.stickyEncounterIndex < BossOrderKey info)
  else none

def PickTarget (cands : List DungeonBossInfo) (c : Commitment) : Option DungeonBossInfo :=
  ((held cands c).or (following cands c)).or cands.head?

/-- The order key is looked up in the list of all bosses, where the dead ones stay. -/
def resolve (bosses : List DungeonBossInfo) (stickyEntry : UInt32) : Commitment :=
  match if stickyEntry ≠ 0 then bosses.find? fun info => info.entry = stickyEntry else none with
  | some info => ⟨stickyEntry, BossOrderKey info, true⟩
  | none => ⟨stickyEntry, 0, false⟩

/-- The bosses picked where each is killed before the next pick. A pick is kept by its entry alone. -/
def clears (bosses : List DungeonBossInfo) : Nat → List DungeonBossInfo → Commitment → List DungeonBossInfo
  | 0, _, _ => []
  | n + 1, cands, c =>
    match PickTarget cands c with
    | none => []
    | some p => p :: clears bosses n (cands.erase p) (resolve bosses p.entry)

/-- Every pick takes one candidate away, so there are as many. -/
def visited (bosses cands : List DungeonBossInfo) (c : Commitment) : List DungeonBossInfo := clears bosses cands.length cands c

def picks (bosses : List DungeonBossInfo) (c : Commitment) : List (List DungeonBossInfo) → List (Option DungeonBossInfo)
  | [] => []
  | cands :: lists =>
    let pick := PickTarget cands c
    pick :: picks bosses (resolve bosses (pick.elim 0 DungeonBossInfo.entry)) lists

def Sorted (l : List DungeonBossInfo) : Prop := l.Pairwise fun a b => BossOrderKey a ≤ BossOrderKey b

def Distinct (l : List DungeonBossInfo) : Prop := (l.map DungeonBossInfo.entry).Nodup

/-- The keys go up from `k` on, and then once more through those that are below it. -/
def InOrderFrom (k : UInt32) (l : List DungeonBossInfo) : Prop :=
  ∃ ahead behind, l = ahead ++ behind ∧ (∀ b ∈ ahead, k ≤ BossOrderKey b) ∧ (∀ b ∈ behind, BossOrderKey b < k) ∧
    Sorted ahead ∧ Sorted behind

/-- The boss that is held comes first, then those of its key, and so on; with none held the order starts at the key of the
one that is gone, or at the lowest. -/
def ClearOrder (cands : List DungeonBossInfo) (c : Commitment) (l : List DungeonBossInfo) : Prop :=
  match held cands c with
  | some h => ∃ rest, l = h :: rest ∧ InOrderFrom (BossOrderKey h) rest
  | none => InOrderFrom (if c.haveStickyIndex then c.stickyEncounterIndex else 0) l

/-- The list of all bosses tells them apart by their entries, and has every candidate in it. -/
structure Roster (bosses cands : List DungeonBossInfo) : Prop where
  distinct : Distinct bosses
  entries : ∀ b ∈ bosses, b.entry ≠ 0
  known : ∀ b ∈ cands, b ∈ bosses

variable {bosses cands : List DungeonBossInfo} {c : Commitment} {p : DungeonBossInfo}

/-! ### One pick -/

theorem held_eq_none (h : ∀ b ∈ cands, b.entry ≠ c.stickyEntry) : held cands c = none := by
  unfold held
  split
  · exact find?_eq_none.2 fun b hb heq => h b hb (of_decide_eq_true heq)
  · rfl

theorem held_mem (h : held cands c = some p) : p ∈ cands := by
  unfold held at h
  split at h
  · exact mem_of_find?_eq_some h
  · cases h

@[simp] theorem resolve_stickyEntry (bosses : List DungeonBossInfo) (e : UInt32) : (resolve bosses e).stickyEntry = e := by
  unfold resolve
  split <;> rfl

variable {b : DungeonBossInfo} {lo hi : List DungeonBossInfo}

section

variable (h : Distinct cands)
include h

theorem Distinct.eq {a : DungeonBossInfo} (ha : a ∈ cands) (hb : b ∈ cands) (heq : a.entry = b.entry) : a = b :=
  inj_on_of_nodup_map h ha hb heq

theorem Distinct.erase (p : DungeonBossInfo) : Distinct (cands.erase p) := h.sublist (erase_sublist.map _)

/-- Nobody left has the entry of a boss that was taken away. -/
theorem Distinct.not_left (hp : p ∈ cands) (hb : b ∈ cands.erase p) : b.entry ≠ p.entry := by
  intro heq
  have hnodup : cands.Nodup := of_map _ h
  obtain ⟨hne, hmem⟩ := (mem_erase_iff hnodup).1 hb
  exact hne (h.eq hmem hp heq)

theorem find_entry (hp : p ∈ cands) : (cands.find? fun info => info.entry = p.entry) = some p := by
  have hsome : (cands.find? fun info => decide (info.entry = p.entry)).isSome = true := find?_isSome.2 ⟨p, hp, decide_eq_true rfl⟩
  obtain ⟨q, hq⟩ := isSome_iff_exists.1 hsome
  have heq : q.entry = p.entry := by simpa using find?_some hq
  rw [hq, h.eq (mem_of_find?_eq_some hq) hp heq]

/-- A boss that is committed to is picked again, whatever is in the list beside it. -/
theorem pick_held (hp : p ∈ cands) (hne : p.entry ≠ 0) (hc : c.stickyEntry = p.entry) : PickTarget cands c = some p := by
  have hheld : held cands c = some p := by rw [held, hc, if_pos hne, find_entry h hp]
  rw [PickTarget, hheld]
  rfl

end

/-- A pick is known by its entry, also once it is dead. -/
theorem Roster.resolve (h : Roster bosses cands) (hp : p ∈ cands) : resolve bosses p.entry = ⟨p.entry, BossOrderKey p, true⟩ := by
  rw [DcBossOrdering.resolve, if_pos (h.entries p (h.known p hp)), find_entry h.distinct (h.known p hp)]

theorem Roster.erase (h : Roster bosses cands) (p : DungeonBossInfo) : Roster bosses (cands.erase p) where
  distinct := h.distinct
  entries := h.entries
  known b hb := h.known b (mem_of_mem_erase hb)

/-- A sorted list falls into the candidates below a key and those from it on; the pick is the first of these, or else the
first of those. -/
theorem pick_following (hlo : ∀ b ∈ lo, BossOrderKey b < c.stickyEncounterIndex)
    (hhi : ∀ b ∈ hi, c.stickyEncounterIndex ≤ BossOrderKey b) (hsorted : Sorted hi)
    (hgone : held (lo ++ hi) c = none) (hhave : c.haveStickyIndex = true) :
    PickTarget (lo ++ hi) c = (hi ++ lo).head? := by
  have hnone : ∀ {f : DungeonBossInfo → Bool}, (∀ b ∈ lo, f b = false) → lo.find? f = none := fun h =>
    find?_eq_none.2 fun b hb hf => by rw [h b hb] at hf; cases hf
  have hlo1 := hnone (f := fun info => BossOrderKey info = c.stickyEncounterIndex) fun b hb =>
    decide_eq_false (UInt32.ne_of_lt (hlo b hb))
  have hlo2 := hnone (f := fun info => c.stickyEncounterIndex < BossOrderKey info) fun b hb =>
    decide_eq_false (UInt32.lt_asymm (hlo b hb))
  rw [PickTarget, hgone, none_or, following, if_pos hhave, find?_append, find?_append, hlo1, hlo2,
    none_or, none_or, head?_append]
  cases hi with
  | nil => simp
  | cons q hi =>
    have hq := hhi q mem_cons_self
    by_cases heq : BossOrderKey q = c.stickyEncounterIndex
    · have hfind : (q :: hi).find? (fun info => decide (BossOrderKey info = c.stickyEncounterIndex)) = some q := by simp [heq]
      rw [hfind]
      rfl
    -- none of the others can have the key either, for they come after this one
    have hlt : c.stickyEncounterIndex < BossOrderKey q := UInt32.lt_of_le_of_ne hq (Ne.symm heq)
    have hrest : (q :: hi).find? (fun info => BossOrderKey info = c.stickyEncounterIndex) = none := by
      refine find?_eq_none.2 fun b hb hf => ?_
      rcases mem_cons.1 hb with rfl | hb
      · exact heq (of_decide_eq_true hf)
      have hle := (pairwise_cons.1 hsorted).1 b hb
      rw [of_decide_eq_true hf] at hle
      exact UInt32.not_lt.2 hle hlt
    have hfind : (q :: hi).find? (fun info => decide (c.stickyEncounterIndex < BossOrderKey info)) = some q := by simp [hlt]
    rw [hrest, none_or, hfind]
    rfl

/-! ### A run -/

/-- From a key on, the candidates that are not below it come first, in their order, and the others after them. -/
theorem clears_split (hroster : Roster bosses (lo ++ hi))
    (hlo : ∀ b ∈ lo, BossOrderKey b < c.stickyEncounterIndex) (hhi : ∀ b ∈ hi, c.stickyEncounterIndex ≤ BossOrderKey b)
    (hsorted : Sorted (lo ++ hi)) (hdistinct : Distinct (lo ++ hi)) (hgone : held (lo ++ hi) c = none)
    (hhave : c.haveStickyIndex = true) :
    clears bosses (lo ++ hi).length (lo ++ hi) c = hi ++ lo := by
  generalize hn : (lo ++ hi).length = n
  induction n generalizing lo hi c with
  | zero =>
    have hnil := length_eq_zero_iff.1 hn
    obtain ⟨rfl, rfl⟩ := append_eq_nil_iff.1 hnil
    rfl
  | succ n ih =>
    obtain ⟨hslo, hshi, hcross⟩ := pairwise_append.1 hsorted
    rw [clears, pick_following hlo hhi hshi hgone hhave]
    cases hi with
    | cons p hi =>
      obtain ⟨hfirst, hshi'⟩ := pairwise_cons.1 hshi
      have hp : p ∈ lo ++ p :: hi := mem_append_right _ mem_cons_self
      have hnot : p ∉ lo := fun hmem => UInt32.not_lt.2 (hhi p mem_cons_self) (hlo p hmem)
      have herase : (lo ++ p :: hi).erase p = lo ++ hi := by rw [erase_append_right _ hnot, erase_cons_head]
      have hrun : clears bosses n (lo ++ hi) ⟨p.entry, BossOrderKey p, true⟩ = hi ++ lo := ih (by rw [← herase]; exact hroster.erase p)
        (fun b hb => UInt32.lt_of_lt_of_le (hlo b hb) (hhi p mem_cons_self)) hfirst
        (by rw [← herase]; exact hsorted.sublist erase_sublist) (by rw [← herase]; exact hdistinct.erase p)
        (held_eq_none fun b hb => hdistinct.not_left hp (by rw [herase]; exact hb)) rfl (by simp at hn ⊢; omega)
      simp only [cons_append, head?_cons, hroster.resolve hp, herase, hrun]
    | nil =>
      cases lo with
      | nil => simp at hn
      | cons p lo =>
        -- nothing is ahead any more: the run starts over at the first, and everything else is ahead of that one
        obtain ⟨hfirst, hslo'⟩ := pairwise_cons.1 hslo
        have hp : p ∈ (p :: lo) ++ [] := mem_append_left _ mem_cons_self
        have herase : ((p :: lo) ++ []).erase p = [] ++ lo := by rw [append_nil, erase_cons_head, nil_append]
        have hrun : clears bosses n ([] ++ lo) ⟨p.entry, BossOrderKey p, true⟩ = lo ++ [] := ih (by rw [← herase]; exact hroster.erase p)
          (fun b hb => absurd hb not_mem_nil) hfirst
          (by rw [← herase]; exact hsorted.sublist erase_sublist) (by rw [← herase]; exact hdistinct.erase p)
          (held_eq_none fun b hb => hdistinct.not_left hp (by rw [herase]; exact hb)) rfl (by simp at hn ⊢; omega)
        simp only [nil_append, head?_cons, hroster.resolve hp, herase]
        rw [nil_append, append_nil] at hrun
        rw [hrun]

theorem Sorted.lo_hi (h : Sorted cands) (k : UInt32) :
    ∃ lo hi, cands = lo ++ hi ∧ (∀ b ∈ lo, BossOrderKey b < k) ∧ ∀ b ∈ hi, k ≤ BossOrderKey b := by
  induction cands with
  | nil => exact ⟨[], [], rfl, fun b hb => absurd hb not_mem_nil, fun b hb => absurd hb not_mem_nil⟩
  | cons p cands ih =>
    obtain ⟨hfirst, hrest⟩ := pairwise_cons.1 h
    by_cases hlt : BossOrderKey p < k
    · obtain ⟨lo, hi, rfl, hlo, hhi⟩ := ih hrest
      refine ⟨p :: lo, hi, rfl, fun b hb => ?_, hhi⟩
      rcases mem_cons.1 hb with rfl | hb
      · exact hlt
      · exact hlo b hb
    · refine ⟨[], p :: cands, rfl, fun b hb => absurd hb not_mem_nil, fun b hb => ?_⟩
      rcases mem_cons.1 hb with rfl | hb
      · exact UInt32.not_lt.1 hlt
      · exact UInt32.le_trans (UInt32.not_lt.1 hlt) (hfirst b hb)

section

variable (hroster : Roster bosses cands)
include hroster

/-- A run from a boss that is gone goes up from its key and wraps around once. -/
theorem clears_in_order (hsorted : Sorted cands) (hdistinct : Distinct cands)
    (hgone : held cands c = none) (hhave : c.haveStickyIndex = true) :
    (visited bosses cands c).Perm cands ∧ InOrderFrom c.stickyEncounterIndex (visited bosses cands c) := by
  obtain ⟨lo, hi, rfl, hlo, hhi⟩ := hsorted.lo_hi c.stickyEncounterIndex
  obtain ⟨hslo, hshi, -⟩ := pairwise_append.1 hsorted
  unfold visited
  rw [clears_split hroster hlo hhi hsorted hdistinct hgone hhave]
  exact ⟨perm_append_comm, hi, lo, rfl, hhi, hlo, hshi, hslo⟩

theorem visited_of_pick (hp : p ∈ cands) (hpick : PickTarget cands c = some p) :
    visited bosses cands c = p :: visited bosses (cands.erase p) ⟨p.entry, BossOrderKey p, true⟩ := by
  have hlength : cands.length = (cands.erase p).length + 1 := by
    rw [length_erase_of_mem hp]
    have := length_pos_of_mem hp
    omega
  simp only [visited, hlength, clears, hpick, hroster.resolve hp]

theorem visited_held (hsorted : Sorted cands) (hdistinct : Distinct cands) (hheld : held cands c = some p) :
    (visited bosses cands c).Perm cands ∧ ∃ rest, visited bosses cands c = p :: rest ∧ InOrderFrom (BossOrderKey p) rest := by
  have hp : p ∈ cands := held_mem hheld
  have hpick : PickTarget cands c = some p := by
    rw [PickTarget, hheld]
    rfl
  obtain ⟨hperm, horder⟩ := clears_in_order (c := ⟨p.entry, BossOrderKey p, true⟩) (hroster.erase p)
    (hsorted.sublist erase_sublist) (hdistinct.erase p) (held_eq_none fun b hb => hdistinct.not_left hp hb) rfl
  rw [visited_of_pick hroster hp hpick]
  exact ⟨(hperm.cons p).trans (perm_cons_erase hp).symm, _, rfl, horder⟩

/-- With no key to go on from the order is that of the list. -/
theorem visited_fresh (hsorted : Sorted cands) (hdistinct : Distinct cands)
    (hheld : held cands c = none) (hhave : c.haveStickyIndex = false) : visited bosses cands c = cands := by
  cases cands with
  | nil => rfl
  | cons p cands =>
    have hp : p ∈ p :: cands := mem_cons_self
    have hpick : PickTarget (p :: cands) c = some p := by
      rw [PickTarget, hheld, following, hhave]
      rfl
    have hrest : (p :: cands).erase p = cands := erase_cons_head p cands
    have hroster' := hroster.erase p
    have hdistinct' := hdistinct.erase p
    have hgone : held ((p :: cands).erase p) ⟨p.entry, BossOrderKey p, true⟩ = none :=
      held_eq_none fun b hb => hdistinct.not_left hp hb
    rw [visited_of_pick hroster hp hpick, visited]
    rw [hrest] at hroster' hdistinct' hgone ⊢
    obtain ⟨hfirst, hsorted'⟩ := pairwise_cons.1 hsorted
    have hrun : clears bosses ([] ++ cands).length ([] ++ cands) ⟨p.entry, BossOrderKey p, true⟩ = cands ++ [] :=
      clears_split hroster' (fun b hb => absurd hb not_mem_nil) hfirst hsorted' hdistinct' hgone rfl
    rw [nil_append, append_nil] at hrun
    rw [hrun]

end

/-- While a boss stays in the lists it goes on being picked. -/
theorem picks_held (hne : p.entry ≠ 0) (hc : c.stickyEntry = p.entry) {lists : List (List DungeonBossInfo)}
    (hlists : ∀ l ∈ lists, Distinct l ∧ p ∈ l) : picks bosses c lists = lists.map fun _ => some p := by
  induction lists generalizing c with
  | nil => rfl
  | cons l lists ih =>
    obtain ⟨hl, hrest⟩ := forall_mem_cons.1 hlists
    rw [picks, pick_held hl.1 hl.2 hne hc]
    dsimp only [elim_some]
    rw [ih (resolve_stickyEntry bosses p.entry) hrest]
    rfl

/-- Where the entries tell the bosses apart, a run of kills goes to each candidate once: through the key it stands at, up
from there, and once more from the lowest; and a boss that is held is held as long as it is a candidate. -/
theorem PickTarget_run (hroster : Roster bosses cands) (hsorted : Sorted cands) (hdistinct : Distinct cands) :
    (visited bosses cands c).Perm cands ∧ ClearOrder cands c (visited bosses cands c) ∧
      ∀ p : DungeonBossInfo, p.entry ≠ 0 → c.stickyEntry = p.entry → ∀ lists : List (List DungeonBossInfo),
        (∀ l ∈ lists, Distinct l ∧ p ∈ l) → picks bosses c lists = lists.map fun _ => some p := by
  refine ⟨?_, ?_, fun p hne hc lists hlists => picks_held hne hc hlists⟩
  · cases hheld : held cands c with
    | some h => exact (visited_held hroster hsorted hdistinct hheld).1
    | none =>
      cases hhave : c.haveStickyIndex with
      | true => exact (clears_in_order hroster hsorted hdistinct hheld hhave).1
      | false => rw [visited_fresh hroster hsorted hdistinct hheld hhave]
  · cases hheld : held cands c with
    | some h =>
      obtain ⟨-, rest, heq, horder⟩ := visited_held hroster hsorted hdistinct hheld
      simp only [ClearOrder, hheld]
      exact ⟨rest, heq, horder⟩
    | none =>
      simp only [ClearOrder, hheld]
      cases hhave : c.haveStickyIndex with
      | true => exact (clears_in_order hroster hsorted hdistinct hheld hhave).2
      | false =>
        rw [visited_fresh hroster hsorted hdistinct hheld hhave]
        exact ⟨cands, [], (append_nil _).symm, fun b hb => Nat.zero_le _, fun b hb => absurd hb not_mem_nil, hsorted,
          List.Pairwise.nil⟩

def siblings : List DungeonBossInfo := [⟨10, 0, -1⟩, ⟨11, 0, -1⟩, ⟨20, 1, -1⟩]

theorem PickTarget_run_siblings : (visited siblings siblings ⟨11, 0, true⟩).Perm siblings ∧
      ClearOrder siblings ⟨11, 0, true⟩ (visited siblings siblings ⟨11, 0, true⟩) ∧
      ∀ p : DungeonBossInfo, p.entry ≠ 0 → (11 : UInt32) = p.entry → ∀ lists : List (List DungeonBossInfo),
        (∀ l ∈ lists, Distinct l ∧ p ∈ l) → picks siblings ⟨11, 0, true⟩ lists = lists.map fun _ => some p :=
  PickTarget_run ⟨by unfold Distinct; decide, by decide, fun _ hb => hb⟩ (by unfold Sorted; decide) (by unfold Distinct; decide)

def sharedEntry : List DungeonBossInfo := [⟨5, 0, -1⟩, ⟨6, 0, -1⟩, ⟨5, 1, -1⟩]

/-- The second anchor is taken for the first one, that was held, and goes before the sibling that is left. -/
theorem sharedEntry_skips :
    Sorted sharedEntry ∧ visited sharedEntry sharedEntry ⟨0, 0, false⟩ = [⟨5, 0, -1⟩, ⟨5, 1, -1⟩, ⟨6, 0, -1⟩] ∧
      ¬ ClearOrder sharedEntry ⟨0, 0, false⟩ (visited sharedEntry sharedEntry ⟨0, 0, false⟩) := by
  have hrun : visited sharedEntry sharedEntry ⟨0, 0, false⟩ = [⟨5, 0, -1⟩, ⟨5, 1, -1⟩, ⟨6, 0, -1⟩] := by decide
  refine ⟨by unfold Sorted; decide, hrun, fun h => ?_⟩
  rw [hrun] at h
  obtain ⟨ahead, behind, heq, -, hbehind, hsorted, -⟩ := h
  have hnil : behind = [] := eq_nil_iff_forall_not_mem.2 fun b hb => absurd (hbehind b hb) (not_lt.2 (Nat.zero_le _))
  rw [hnil, append_nil] at heq
  rw [← heq] at hsorted
  revert hsorted
  unfold Sorted
  decide

end ComfyCraft.DcBossOrdering
