import ComfyCraft.LFT.Guards

/-! One place for each player in the finder: one pending role check, or the queue with at most an offer. -/

namespace ComfyCraft

open List AList Runs Table Bool

namespace LFTManager

def inRolecheck (s : LFTManager) (guid : Nat) : Bool := s.rolechecks.entries.any fun e => guid ∈ e.2.members

def isFree (s : LFTManager) (guid : Nat) : Bool :=
  !s.inRolecheck guid && (s.queue.lookup guid).isNone && (s.playerOffers.lookup guid).isNone

/-- Those who get a place have none: the members of a role check that is to wait for answers, those who are enqueued at
once, and bots. -/
def placeGuards : Guards where
  pend s rolecheck := rolecheck.members.all s.isFree
  enqueue s rolecheck := rolecheck.members.all fun guid => !s.inRolecheck guid
  bot s guid _ := !s.inRolecheck guid
  remove _ _ := true

structure Placed (s : LFTManager) : Prop where
  once : ∀ guid k rolecheck k' rolecheck', s.rolechecks.lookup k = some rolecheck → s.rolechecks.lookup k' = some rolecheck' →
    guid ∈ rolecheck.members → guid ∈ rolecheck'.members → k = k'
  free : ∀ guid k rolecheck, s.rolechecks.lookup k = some rolecheck → guid ∈ rolecheck.members →
    s.queue.lookup guid = none ∧ s.playerOffers.lookup guid = none

/-- The player is in no role check, no offer and not in the queue. -/
structure Absent (s : LFTManager) (guid : Nat) : Prop where
  rolechecks : ∀ k rolecheck, s.rolechecks.lookup k = some rolecheck → guid ∉ rolecheck.members
  playerOffers : s.playerOffers.lookup guid = none
  offers : ∀ id o, s.offers.lookup id = some o → o.roles.lookup guid = none
  queue : s.queue.lookup guid = none

/-- A player has one place, and leaving it or being cleaned up the player has none. -/
structure OnePlace (s : LFTManager) : Prop extends Placed s where
  leave : ∀ (w : LFTWorld) (guid : Nat), (handleQueueLeave w s guid).Absent guid
  cleanup : ∀ guid, (s.cleanupPlayer guid).Absent guid

variable {s s' : LFTManager} {w : LFTWorld} {guid : Nat}

theorem inRolecheck_iff : s.inRolecheck guid = true ↔ ∃ k rolecheck, s.rolechecks.lookup k = some rolecheck ∧ guid ∈ rolecheck.members := by
  unfold inRolecheck
  rw [any_eq_true]
  constructor
  · rintro ⟨e, he, hmem⟩
    exact ⟨e.1, e.2, lookup_eq_some_iff.2 he, of_decide_eq_true hmem⟩
  · rintro ⟨k, rolecheck, hk, hmem⟩
    exact ⟨⟨k, rolecheck⟩, lookup_eq_some_iff.1 hk, decide_eq_true hmem⟩

theorem queue_none_iff : s.queue.lookup guid = none ↔ s.entry guid = none := by
  unfold entry
  rw [Option.map_eq_none_iff]

theorem isFree_iff : s.isFree guid = true ↔ s.inRolecheck guid = false ∧ s.entry guid = none ∧ s.playerOffers.lookup guid = none := by
  unfold isFree
  rw [and_eq_true, and_eq_true, not_eq_true', Option.isNone_iff_eq_none, Option.isNone_iff_eq_none, queue_none_iff]
  exact and_assoc

/-! What keeps the places apart. -/

/-- The role checks are some of those there were, and nobody in one of them gets another place. -/
theorem Placed.of_fewer (h : s.Placed) (hchecks : ∀ k rolecheck', s'.rolechecks.lookup k = some rolecheck' →
      ∃ rolecheck, s.rolechecks.lookup k = some rolecheck ∧ rolecheck'.members = rolecheck.members)
    (hfree : ∀ guid, s'.inRolecheck guid = true → s.entry guid = none → s.playerOffers.lookup guid = none →
      s'.entry guid = none ∧ s'.playerOffers.lookup guid = none) : s'.Placed := by
  refine ⟨fun guid k rolecheck k' rolecheck' hk hk' hg hg' => ?_, fun guid k rolecheck hk hg => ?_⟩
  · obtain ⟨old, hold, hmembers⟩ := hchecks k rolecheck hk
    obtain ⟨old', hold', hmembers'⟩ := hchecks k' rolecheck' hk'
    exact h.once guid k old k' old' hold hold' (hmembers ▸ hg) (hmembers' ▸ hg')
  · obtain ⟨old, hold, hmembers⟩ := hchecks k rolecheck hk
    obtain ⟨hqueue, hoffer⟩ := h.free guid k old hold (hmembers ▸ hg)
    rw [queue_none_iff] at hqueue ⊢
    exact hfree guid (inRolecheck_iff.2 ⟨k, rolecheck, hk, hg⟩) hqueue hoffer

theorem Placed.of_same_checks (h : s.Placed) (hchecks : s'.rolechecks = s.rolechecks)
    (hfree : ∀ guid, s.inRolecheck guid = true → s.entry guid = none → s.playerOffers.lookup guid = none →
      s'.entry guid = none ∧ s'.playerOffers.lookup guid = none) : s'.Placed := by
  refine h.of_fewer (fun k rolecheck' hk => ⟨rolecheck', by rw [← hchecks]; exact hk, rfl⟩) fun guid hg => hfree guid ?_
  unfold inRolecheck at hg ⊢
  rw [← hchecks]
  exact hg

/-- Members who are in no pending role check come into the queue. -/
theorem Placed.takeIn (h : s.Placed) (w : LFTWorld) {rolecheck : PendingRolecheck}
    (hmembers : (rolecheck.members.all fun guid => !s.inRolecheck guid) = true) : (takeIn w rolecheck s).Placed := by
  have honly := enqueueMembers_only w rolecheck s
  refine h.of_same_checks honly.rolechecks fun guid hg hqueue hoffer => ?_
  have hnot : guid ∉ rolecheck.members := by
    intro hmem
    have := all_eq_true.1 hmembers guid hmem
    rw [hg] at this
    cases this
  refine ⟨?_, ?_⟩
  · exact (enqueueMembers_entry w s fun hmem => absurd hmem hnot).trans hqueue
  change (enqueueMembers w rolecheck s).playerOffers.lookup guid = none
  rw [honly.playerOffers]
  exact hoffer

theorem places_keeps : Keeps placeGuards Placed where
  same hs h := h.of_same_checks hs.rolechecks fun guid _ hqueue hoffer =>
    ⟨(entry_of_queue hs.queue guid).trans hqueue, by rw [hs.playerOffers]; exact hoffer⟩
  checks hc h := h.of_fewer (fun k rolecheck' hk => by
      obtain ⟨rolecheck, hold, hmembers, -⟩ := hc.rolechecks k rolecheck' hk
      exact ⟨rolecheck, hold, hmembers⟩) fun guid _ hqueue hoffer =>
    ⟨(entry_of_queue hc.queue guid).trans hqueue, by rw [hc.playerOffers]; exact hoffer⟩
  offers _ h := h.of_same_checks rfl fun _ _ hqueue hoffer => ⟨hqueue, hoffer⟩
  removed _ hr h := h.of_same_checks hr.rolechecks fun guid _ hqueue hoffer =>
    ⟨by rw [hr.entries, hqueue, ite_self], by rw [hr.playerOffers]; exact hoffer⟩
  block _ hr h := h.of_same_checks hr.rolechecks fun guid _ hqueue hoffer =>
    ⟨by rw [hr.entries, hqueue, ite_self], by rw [hr.playerOffers]; exact hoffer⟩
  ended he _ h := h.of_same_checks he.rolechecks fun guid _ hqueue hoffer =>
    ⟨by rw [he.entries, hqueue, ite_self], by rw [he.playerOffers, hoffer, ite_self]⟩
  built hb h := h.of_same_checks hb.rolechecks fun guid _ hqueue hoffer => by
    refine ⟨(hb.entries guid).trans hqueue, ?_⟩
    rw [hb.playerOffers, if_neg]
    · exact hoffer
    intro hlisted
    obtain ⟨role, hrole⟩ := Option.isSome_iff_exists.1 hlisted
    obtain ⟨-, q, hq, -⟩ := hb.formed.listed guid role hrole
    rw [queue_none_iff.2 hqueue] at hq
    cases hq
  pend {s} w leader instances hok h := by
    have hall : ∀ guid ∈ (newRolecheck w s leader instances).members, s.isFree guid = true := all_eq_true.1 hok
    have hcases : ∀ k rolecheck, (s.rolechecks.insert leader (newRolecheck w s leader instances)).lookup k = some rolecheck →
        k = leader ∧ rolecheck = newRolecheck w s leader instances ∨ k ≠ leader ∧ s.rolechecks.lookup k = some rolecheck := by
      intro k rolecheck hk
      by_cases hkl : k = leader
      · rw [hkl, lookup_insert] at hk
        cases hk
        exact .inl ⟨hkl, rfl⟩
      · rw [lookup_insert_ne hkl] at hk
        exact .inr ⟨hkl, hk⟩
    -- nobody of the new role check is in an old one
    have hapart : ∀ guid k rolecheck, s.rolechecks.lookup k = some rolecheck → guid ∈ rolecheck.members →
        guid ∉ (newRolecheck w s leader instances).members := by
      intro guid k rolecheck hk hg hnew
      have hfree := (isFree_iff.1 (hall guid hnew)).1
      rw [inRolecheck_iff.2 ⟨k, rolecheck, hk, hg⟩] at hfree
      cases hfree
    refine ⟨fun guid k rolecheck k' rolecheck' hk hk' hg hg' => ?_, fun guid k rolecheck hk hg => ?_⟩
    · rcases hcases k rolecheck hk with ⟨rfl, rfl⟩ | ⟨-, hold⟩ <;> rcases hcases k' rolecheck' hk' with ⟨rfl, rfl⟩ | ⟨-, hold'⟩
      · rfl
      · exact absurd hg (hapart guid k' rolecheck' hold' hg')
      · exact absurd hg' (hapart guid k rolecheck hold hg)
      · exact h.once guid k rolecheck k' rolecheck' hold hold' hg hg'
    · rcases hcases k rolecheck hk with ⟨rfl, rfl⟩ | ⟨-, hk⟩
      · obtain ⟨-, hqueue, hoffer⟩ := isFree_iff.1 (hall guid hg)
        exact ⟨queue_none_iff.2 hqueue, hoffer⟩
      · exact h.free guid k rolecheck hk hg
  start w _ _ _ hok h := h.takeIn w hok
  finish {s} w guid roleMask k rolecheck _ _ _ hok h := by
    have herased : ({ s with rolechecks := s.rolechecks.erase k } : LFTManager).Placed :=
      h.of_fewer (fun k' rolecheck' hk => by
        obtain ⟨old, hold, hmembers, -⟩ := (Keeps.fewer_erase k s).rolechecks k' rolecheck' hk
        exact ⟨old, hold, hmembers⟩) fun _ _ hqueue hoffer => ⟨hqueue, hoffer⟩
    exact herased.takeIn w hok
  bot {s} w bot leader instances roleMask _ hok h := by
    have honly := enqueuePlayer_only w s bot leader instances roleMask
    refine h.of_same_checks honly.rolechecks fun guid hg hqueue hoffer => ⟨?_, by rw [honly.playerOffers]; exact hoffer⟩
    have hne : guid ≠ bot := by
      rintro rfl
      change (!s.inRolecheck guid) = true at hok
      rw [hg] at hok
      cases hok
    exact (enqueuePlayer_entry hne w s leader instances roleMask).trans hqueue
  realm {s} e h := by
    have hrealm : (s.realmStep e).Placed := by
      cases e <;> exact h.of_same_checks rfl fun _ _ hqueue hoffer => ⟨hqueue, hoffer⟩
    exact hrealm.of_same_checks rfl fun _ _ hqueue hoffer => ⟨hqueue, hoffer⟩

/-! Leaving. -/

theorem Coherent.not_listed (h : s.Coherent) (hnone : s.playerOffers.lookup guid = none) (id : Nat) (o : Offer)
    (ho : s.offers.lookup id = some o) : o.roles.lookup guid = none := by
  cases hrole : o.roles.lookup guid with
  | none => rfl
  | some role =>
    have hmapped := (h.mapped guid id).2 ⟨o, ho, by rw [hrole]; rfl⟩
    rw [hnone] at hmapped
    cases hmapped

theorem cancelOffer_leaver (h : s.Coherent) {id : Nat} (hid : s.playerOffers.lookup guid = some id) :
    (s.cancelOffer id true guid true).playerOffers.lookup guid = none ∧ (s.cancelOffer id true guid true).entry guid = none ∧
      (s.cancelOffer id true guid true).rolechecks = s.rolechecks := by
  obtain ⟨o, ho, hlisted⟩ := (h.mapped guid id).1 hid
  have hended := cancelOffer_ended ho true guid true
  refine ⟨?_, ?_, hended.rolechecks⟩
  · rw [hended.playerOffers, if_pos hlisted]
  rw [hended.entries, if_pos]
  refine ⟨hlisted, ?_⟩
  rw [Keeps.keeps_others]
  simp

theorem cleanupPlayer_absent (h : s.Coherent) (guid : Nat) : (s.cleanupPlayer guid).Absent guid := by
  have hcoherent := h.cleanupPlayer guid
  have herased : ({ s with queue := s.queue.erase guid } : LFTManager).Coherent := h.of_offers rfl rfl rfl
  have hgone : ({ s with queue := s.queue.erase guid } : LFTManager).entry guid = none := by
    rw [(Keeps.erased guid s).entries]
    simp
  have hplaces : (s.cleanupPlayer guid).playerOffers.lookup guid = none ∧ (s.cleanupPlayer guid).entry guid = none := by
    unfold cleanupPlayer
    dsimp only
    split
    · rename_i hnone
      exact ⟨hnone, hgone⟩
    · rename_i id hid
      obtain ⟨hoffer, hqueue, -⟩ := cancelOffer_leaver herased hid
      exact ⟨hoffer, hqueue⟩
  refine ⟨fun k rolecheck hk => ?_, hplaces.1, hcoherent.not_listed hplaces.1, queue_none_iff.2 hplaces.2⟩
  unfold cleanupPlayer cancelRolechecks at hk
  dsimp only at hk
  rw [lookup_keep, Option.filter_eq_some_iff] at hk
  exact of_decide_eq_true hk.2

/-- Making offers gives no place to a player who is not queued. -/
theorem Absent.tryMakeOffers (h : s.Absent guid) (w : LFTWorld) : (tryMakeOffers w s).Absent guid := by
  unfold LFTManager.tryMakeOffers
  generalize s.wanted = dungeons
  induction dungeons generalizing s with
  | nil => exact h
  | cons dungeon dungeons ih =>
    refine ih ?_
    rcases tryBuildOffer_cases w s dungeon with heq | ⟨roles, hb⟩
    · rw [heq]
      exact h
    have hnone : roles.lookup guid = none := by
      cases hrole : roles.lookup guid with
      | none => rfl
      | some role =>
        obtain ⟨-, q, hq, -⟩ := hb.formed.listed guid role hrole
        rw [h.queue] at hq
        cases hq
    refine ⟨fun k rolecheck hk => ?_, ?_, fun id o ho => ?_, ?_⟩
    · rw [hb.rolechecks] at hk
      exact h.rolechecks k rolecheck hk
    · rw [hb.playerOffers, hnone]
      exact h.playerOffers
    · rw [hb.offers] at ho
      by_cases hid : id = s.nextOfferId
      · rw [hid, lookup_insert] at ho
        cases ho
        exact hnone
      · rw [lookup_insert_ne hid] at ho
        exact h.offers id o ho
    · rw [queue_none_iff, hb.entries, ← queue_none_iff]
      exact h.queue

theorem handleQueueLeave_absent (h : s.Coherent) (hplaced : s.Placed) (w : LFTWorld) (guid : Nat) :
    (handleQueueLeave w s guid).Absent guid := by
  unfold handleQueueLeave
  cases hcheck : s.rolecheckOf guid with
  | some e =>
    have hfound := find?_some (show s.rolechecks.ordered.find? _ = some e from hcheck)
    have hmember : guid ∈ e.2.members := of_decide_eq_true hfound
    have hlookup : s.rolechecks.lookup e.1 = some e.2 := mem_ordered.1 (mem_of_find?_eq_some hcheck)
    obtain ⟨hqueue, hoffer⟩ := hplaced.free guid e.1 e.2 hlookup hmember
    refine ⟨fun k rolecheck hk hg => ?_, hoffer, h.not_listed hoffer, hqueue⟩
    dsimp only at hk
    by_cases hke : k = e.1
    · rw [hke, lookup_erase] at hk
      cases hk
    · rw [lookup_erase_ne hke] at hk
      exact hke (hplaced.once guid k rolecheck e.1 e.2 hk hlookup hg hmember)
  | none =>
    have hnot : ∀ k rolecheck, s.rolechecks.lookup k = some rolecheck → guid ∉ rolecheck.members := by
      intro k rolecheck hk hg
      have hfind := find?_eq_none.1 hcheck ⟨k, rolecheck⟩ (mem_ordered.2 hk)
      exact hfind (decide_eq_true hg)
    dsimp only
    cases hid : s.playerOffers.lookup guid with
    | some id =>
      obtain ⟨hoffer, hqueue, hchecks⟩ := cancelOffer_leaver h hid
      refine Absent.tryMakeOffers ⟨fun k rolecheck hk => ?_, hoffer, (h.cancelOffer id true guid true).not_listed hoffer,
        queue_none_iff.2 hqueue⟩ w
      rw [hchecks] at hk
      exact hnot k rolecheck hk
    | none =>
      dsimp only
      cases hq : s.queue.lookup guid with
      | none => exact ⟨hnot, hid, h.not_listed hid, hq⟩
      | some q =>
        refine ⟨hnot, hid, h.not_listed hid, ?_⟩
        dsimp only
        rw [lookup_keep, hq]
        simp

/-- In every run in which those who get a place in the finder have none, every player has one place at most, and none
after leaving. -/
theorem one_place {es : List LFTEvent} (h : Runs.Admitted LFTManager.step (fun s e => placeGuards.met s e = true) start es) :
    (Runs.run LFTManager.step start es).OnePlace := by
  have hnone : ∀ k, start.rolechecks.lookup k = none := fun k => lookup_empty k
  have hstart : start.Placed := by
    refine ⟨fun guid k rolecheck k' rolecheck' hk => ?_, fun guid k rolecheck hk => ?_⟩
    · rw [hnone k] at hk
      cases hk
    · rw [hnone k] at hk
      cases hk
  have hplaced : (run step start es).Placed :=
    invariant (I := Placed) (fun _ _ hs hok => places_keeps.step hok hs) hstart h
  have hcoherent : (run step start es).Coherent :=
    always (I := Coherent) (fun _ e hs => hs.step e) start_coherent es
  exact ⟨hplaced, handleQueueLeave_absent hcoherent hplaced, cleanupPlayer_absent hcoherent⟩

theorem one_place_party : (Runs.run LFTManager.step start
      [.realm (.enterWorld 1), .realm (.enterWorld 2), .realm (.create 0 1 false), .realm (.addMember 1 2),
        .queueJoin 1 ["wc"] "t" warriors, .rolecheckResponse 2 "d" warriors, .rolecheckResponse 1 "t" warriors,
        .queueLeave 2 warriors]).OnePlace :=
  one_place (by decide)

/-- The second player waits alone for answers, joins the party of the first, and is asked again. -/
theorem not_one_place : ¬ (Runs.run LFTManager.step start
      [.realm (.enterWorld 1), .realm (.enterWorld 2), .queueJoin 2 ["wc"] "d" warriors, .realm (.create 0 1 false),
        .realm (.addMember 1 2), .queueJoin 1 ["wc"] "t" warriors]).OnePlace := by
  intro h
  generalize hs : run step start _ = s at h
  have hboth : (s.rolechecks.lookup 1).any (fun r => 2 ∈ r.members) = true ∧ (s.rolechecks.lookup 2).any (fun r => 2 ∈ r.members) = true := by
    rw [← hs]
    decide
  obtain ⟨r, hr, hmem⟩ := (Option.any_eq_true _ _).1 hboth.1
  obtain ⟨r', hr', hmem'⟩ := (Option.any_eq_true _ _).1 hboth.2
  exact absurd (h.once 2 1 r 2 r' hr hr' (of_decide_eq_true hmem) (of_decide_eq_true hmem')) (by decide)

end LFTManager

end ComfyCraft
