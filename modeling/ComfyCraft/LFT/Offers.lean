import ComfyCraft.Lib.Runs
import ComfyCraft.LFT.Matcher

/-! The offers and the map from players to offers say the same, and every offer is one that was well made. -/

namespace ComfyCraft

open List AList

/-- Five players with a tank, a healer and three damage dealers, each in a role of the mask, and queued for the dungeon,
in the queue that the offer was built from; and nobody else accepts it. -/
structure Offer.Sound (o : Offer) : Prop where
  five : o.roles.keys.Nodup ∧ o.roles.keys.length = 5
  tank : roleTally lftRoleTank o.roles = 1
  healer : roleTally lftRoleHealer o.roles = 1
  damage : roleTally lftRoleDamage o.roles = 3
  queued : ∀ g role, o.roles.lookup g = some role → ∃ q, o.built.lookup g = some q ∧ q.roleMask &&& role ≠ 0 ∧ o.dungeon ∈ q.instances
  accepted : ∀ g ∈ o.accepted, (o.roles.lookup g).isSome = true

namespace LFTManager

/-- A player is mapped to an offer exactly when the offer exists and lists the player. -/
structure Coherent (s : LFTManager) : Prop where
  mapped : ∀ g id, s.playerOffers.lookup g = some id ↔ ∃ o, s.offers.lookup id = some o ∧ (o.roles.lookup g).isSome = true
  sound : ∀ id o, s.offers.lookup id = some o → o.Sound
  fresh : ∀ id o, s.offers.lookup id = some o → id < s.nextOfferId

variable {s s' : LFTManager} {w : LFTWorld} {id : Nat} {o : Offer}

theorem start_coherent : start.Coherent := by
  have hnone : ∀ {V : Type} (a : Nat), (∅ : Table Nat V).lookup a = none := fun a => lookup_empty a
  refine ⟨fun g id => ⟨fun h => ?_, ?_⟩, fun id o h => ?_, fun id o h => ?_⟩
  · rw [show start.playerOffers = ∅ from rfl, hnone] at h
    cases h
  · rintro ⟨o, h, -⟩
    rw [show start.offers = ∅ from rfl, hnone] at h
    cases h
  all_goals
    rw [show start.offers = ∅ from rfl, hnone] at h
    cases h

theorem Coherent.of_offers (h : s.Coherent) (hoffers : s'.offers = s.offers) (hplayer : s'.playerOffers = s.playerOffers)
    (hnext : s'.nextOfferId = s.nextOfferId) : s'.Coherent := by
  refine ⟨fun g id => ?_, fun id o ho => ?_, fun id o ho => ?_⟩
  · rw [hplayer, hoffers]
    exact h.mapped g id
  · rw [hoffers] at ho
    exact h.sound id o ho
  · rw [hoffers] at ho
    rw [hnext]
    exact h.fresh id o ho

theorem Coherent.queueOnly (h : s.Coherent) (hq : QueueOnly s s') : s'.Coherent :=
  h.of_offers hq.offers hq.playerOffers hq.nextOfferId

/-! An offer that is made, that ends, or that changes. -/

theorem Coherent.ended (h : s.Coherent) (ho : s.offers.lookup id = some o) {keep : Nat → Bool} (he : Ended id o keep s s') :
    s'.Coherent := by
  have hold : ∀ other o', s'.offers.lookup other = some o' → other ≠ id ∧ s.offers.lookup other = some o' := by
    intro other o' ho'
    rw [he.offers] at ho'
    by_cases heq : other = id
    · rw [heq, lookup_erase] at ho'
      cases ho'
    · rw [lookup_erase_ne heq] at ho'
      exact ⟨heq, ho'⟩
  refine ⟨fun g other => ?_, fun other o' ho' => h.sound other o' (hold other o' ho').2, fun other o' ho' => ?_⟩
  · rw [he.playerOffers]
    constructor
    · intro hg
      split_ifs at hg with hlisted
      obtain ⟨o', ho', hg'⟩ := (h.mapped g other).1 hg
      have hne : other ≠ id := by
        rintro rfl
        rw [ho] at ho'
        cases ho'
        exact hlisted hg'
      refine ⟨o', ?_, hg'⟩
      rw [he.offers, lookup_erase_ne hne]
      exact ho'
    · rintro ⟨o', ho', hg⟩
      obtain ⟨hne, ho'⟩ := hold other o' ho'
      have hmapped := (h.mapped g other).2 ⟨o', ho', hg⟩
      rw [if_neg]
      · exact hmapped
      intro hlisted
      have hid := (h.mapped g id).2 ⟨o, ho, hlisted⟩
      rw [hmapped] at hid
      cases hid
      exact hne rfl
  · rw [he.nextOfferId]
    exact h.fresh other o' (hold other o' ho').2

theorem Coherent.built (h : s.Coherent) {dungeon : String} {roles : Table Nat UInt8} (hb : Built dungeon roles s s') :
    s'.Coherent := by
  have hnone : s.offers.lookup s.nextOfferId = none := by
    cases hlookup : s.offers.lookup s.nextOfferId with
    | none => rfl
    | some o => exact absurd (h.fresh _ o hlookup) (Nat.lt_irrefl _)
  have hsound : (⟨s.nextOfferId, dungeon, roles, [], lftOfferTimeout, s.queue⟩ : Offer).Sound := by
    refine ⟨⟨roles.nodupKeys, ?_⟩, hb.formed.tank, hb.formed.healer, hb.formed.damage, fun g role hg => ?_, fun g hg => ?_⟩
    · change (roles.entries.map Sigma.fst).length = 5
      rw [length_map]
      exact hb.formed.five
    · obtain ⟨-, q, hq, hmask, hlisted, -⟩ := hb.formed.listed g role hg
      exact ⟨q, hq, hmask, hlisted⟩
    · exact (not_mem_nil hg).elim
  have hcases : ∀ other o', s'.offers.lookup other = some o' →
      other = s.nextOfferId ∧ o' = ⟨s.nextOfferId, dungeon, roles, [], lftOfferTimeout, s.queue⟩ ∨
        other ≠ s.nextOfferId ∧ s.offers.lookup other = some o' := by
    intro other o' ho'
    rw [hb.offers] at ho'
    by_cases heq : other = s.nextOfferId
    · rw [heq, lookup_insert] at ho'
      cases ho'
      exact .inl ⟨heq, rfl⟩
    · rw [lookup_insert_ne heq] at ho'
      exact .inr ⟨heq, ho'⟩
  have hnew : ∀ g, (roles.lookup g).isSome = true → s.playerOffers.lookup g = none := by
    intro g hg
    obtain ⟨role, hrole⟩ := Option.isSome_iff_exists.1 hg
    obtain ⟨-, -, -, -, -, hfree⟩ := hb.formed.listed g role hrole
    exact hfree
  refine ⟨fun g other => ?_, fun other o' ho' => ?_, fun other o' ho' => ?_⟩
  · rw [hb.playerOffers]
    constructor
    · intro hg
      split_ifs at hg with hlisted
      · cases hg
        refine ⟨⟨s.nextOfferId, dungeon, roles, [], lftOfferTimeout, s.queue⟩, ?_, hlisted⟩
        rw [hb.offers, lookup_insert]
      obtain ⟨o', ho', hg'⟩ := (h.mapped g other).1 hg
      have hne : other ≠ s.nextOfferId := by
        rintro rfl
        rw [hnone] at ho'
        cases ho'
      refine ⟨o', ?_, hg'⟩
      rw [hb.offers, lookup_insert_ne hne]
      exact ho'
    · rintro ⟨o', ho', hg⟩
      rcases hcases other o' ho' with ⟨rfl, rfl⟩ | ⟨hne, ho'⟩
      · exact if_pos hg
      have hmapped := (h.mapped g other).2 ⟨o', ho', hg⟩
      rw [if_neg]
      · exact hmapped
      intro hlisted
      rw [hnew g hlisted] at hmapped
      cases hmapped
  · rcases hcases other o' ho' with ⟨-, rfl⟩ | ⟨-, ho'⟩
    · exact hsound
    · exact h.sound other o' ho'
  · rw [hb.nextOfferId]
    rcases hcases other o' ho' with ⟨rfl, -⟩ | ⟨-, ho'⟩
    · exact Nat.lt_succ_self _
    · exact Nat.lt_succ_of_lt (h.fresh other o' ho')

theorem Coherent.replace (h : s.Coherent) (ho : s.offers.lookup id = some o) {o' : Offer} (hsound : o'.Sound)
    (hroles : o'.roles = o.roles) (hoffers : s'.offers = s.offers.insert id o') (hplayer : s'.playerOffers = s.playerOffers)
    (hnext : s'.nextOfferId = s.nextOfferId) : s'.Coherent := by
  have hlookup : ∀ other, s'.offers.lookup other = if other = id then some o' else s.offers.lookup other := by
    intro other
    rw [hoffers]
    split_ifs with heq
    · rw [heq, lookup_insert]
    · rw [lookup_insert_ne heq]
  refine ⟨fun g other => ?_, fun other x hx => ?_, fun other x hx => ?_⟩
  · rw [hplayer, h.mapped g other, hlookup]
    by_cases heq : other = id
    · subst heq
      rw [if_pos rfl, ho]
      constructor
      · rintro ⟨x, hx, hg⟩
        cases hx
        exact ⟨o', rfl, by rw [hroles]; exact hg⟩
      · rintro ⟨x, hx, hg⟩
        cases hx
        exact ⟨o, rfl, by rw [← hroles]; exact hg⟩
    · rw [if_neg heq]
  · rw [hlookup] at hx
    split_ifs at hx with heq
    · cases hx
      exact hsound
    · exact h.sound other x hx
  · rw [hlookup] at hx
    rw [hnext]
    split_ifs at hx with heq
    · rw [heq]
      exact h.fresh id o ho
    · exact h.fresh other x hx

/-! What each operation keeps. -/

theorem Coherent.foldl {α : Type} {f : LFTManager → α → LFTManager} (hf : ∀ s a, s.Coherent → (f s a).Coherent) (l : List α)
    (h : s.Coherent) : (l.foldl f s).Coherent := by
  induction l generalizing s with
  | nil => exact h
  | cons a l ih => exact ih (hf s a h)

section

variable (h : s.Coherent)
include h

theorem Coherent.tryMakeOffers (w : LFTWorld) : (tryMakeOffers w s).Coherent := by
  refine h.foldl (fun s dungeon hs => ?_) s.wanted
  rcases tryBuildOffer_cases w s dungeon with heq | ⟨roles, hb⟩
  · rw [heq]
    exact hs
  · exact hs.built hb

theorem Coherent.cancelOffer (id : Nat) (requeueAccepted : Bool) (removeGuid : Nat) (requeueOthers : Bool) :
    (s.cancelOffer id requeueAccepted removeGuid requeueOthers).Coherent := by
  cases ho : s.offers.lookup id with
  | none =>
    unfold LFTManager.cancelOffer
    rw [ho]
    exact h
  | some o => exact h.ended ho (cancelOffer_ended ho requeueAccepted removeGuid requeueOthers)

theorem Coherent.cleanupPlayer (guid : Nat) : (s.cleanupPlayer guid).Coherent := by
  have hqueue : ({ s with queue := s.queue.erase guid } : LFTManager).Coherent := h.of_offers rfl rfl rfl
  unfold LFTManager.cleanupPlayer
  dsimp only
  split
  · exact hqueue.of_offers rfl rfl rfl
  · exact (hqueue.cancelOffer _ true guid true).of_offers rfl rfl rfl

theorem Coherent.enqueueRolecheck (w : LFTWorld) (rolecheck : PendingRolecheck) :
    (enqueueRolecheck w rolecheck s).Coherent := by
  refine Coherent.tryMakeOffers ?_ w
  exact (h.queueOnly (enqueueMembers_only w rolecheck s)).of_offers rfl rfl rfl

theorem Coherent.startRolecheck (w : LFTWorld) (leader : Nat) (instances : List String) :
    (startRolecheck w s leader instances).Coherent := by
  unfold LFTManager.startRolecheck
  dsimp only
  split_ifs
  · exact h.enqueueRolecheck w _
  · exact h.of_offers rfl rfl rfl

theorem Coherent.handleOfferAccept (w : LFTWorld) (guid : Nat) : (handleOfferAccept w s guid).Coherent := by
  unfold LFTManager.handleOfferAccept
  cases hid : s.playerOffers.lookup guid with
  | none => exact h
  | some id =>
    obtain ⟨o, ho, hlisted⟩ := (h.mapped guid id).1 hid
    dsimp only
    rw [ho]
    dsimp only
    have hsound := h.sound id o ho
    have haccepted : ∀ g ∈ o.accepted.insert guid, (o.roles.lookup g).isSome = true := by
      intro g hg
      rcases mem_insert_iff.1 hg with rfl | hg
      · exact hlisted
      · exact hsound.accepted g hg
    have hroles : ∀ l : List Nat, (∀ g ∈ l, (o.roles.lookup g).isSome = true) →
        l.foldl (fun (roles : Table Nat UInt8) guid => if (roles.lookup guid).isNone then roles.insert guid 0 else roles) o.roles =
          o.roles := by
      intro l
      induction l with
      | nil => exact fun _ => rfl
      | cons g l ih =>
        intro hl
        have hg := hl g mem_cons_self
        rw [foldl_cons, if_neg (by rw [Option.isNone_iff_eq_none]; rintro hn; rw [hn] at hg; cases hg)]
        exact ih fun x hx => hl x (mem_cons_of_mem g hx)
    have haccept : o.accept guid = { o with accepted := o.accepted.insert guid } := by
      unfold Offer.accept
      rw [hroles _ haccepted]
    rw [haccept]
    have hsound' : ({ o with accepted := o.accepted.insert guid } : Offer).Sound :=
      ⟨hsound.five, hsound.tank, hsound.healer, hsound.damage, hsound.queued, haccepted⟩
    have hreplaced : ({ s with offers := s.offers.insert id { o with accepted := o.accepted.insert guid } } : LFTManager).Coherent :=
      h.replace ho hsound' rfl rfl rfl rfl
    split_ifs
    · exact hreplaced.ended (lookup_insert ..) (completeOffer_ended (lookup_insert ..) w)
    · exact hreplaced

theorem Coherent.updateBotFill (w : LFTWorld) (diff : Nat) : (updateBotFill w diff s).Coherent := by
  have haccept : (acceptOffersForFillBots w s).Coherent := by
    refine h.foldl (fun s id hs => ?_) _
    unfold acceptForBots
    split
    · exact hs
    refine hs.foldl (fun s e hs => ?_) _
    unfold acceptForBot
    split
    · exact hs
    split_ifs
    · exact hs
    · refine Coherent.handleOfferAccept ?_ w e.1
      exact hs.of_offers rfl rfl rfl
  unfold LFTManager.updateBotFill
  dsimp only
  split_ifs
  · exact haccept.queueOnly (dropUnneededFillBots_only _)
  · exact haccept.of_offers rfl rfl rfl
  refine Coherent.foldl (fun s entry hs => hs.queueOnly (fillInstanceWithBots_only w s entry.1 entry.2)) _ ?_
  refine Coherent.queueOnly ?_ (seedBotOnlyQueue_only w _)
  refine Coherent.queueOnly ?_ (dropUnneededFillBots_only _)
  exact Coherent.of_offers haccept rfl rfl rfl

theorem Coherent.updateOffers (diff : Nat) : (updateOffers diff s).Coherent := by
  refine h.foldl (fun s id hs => ?_) _
  unfold updateOffer
  cases ho : s.offers.lookup id with
  | none => exact hs
  | some o =>
    dsimp only
    split_ifs
    · exact hs.cancelOffer id true 0 false
    have hsound := hs.sound id o ho
    have hsound' : ({ o with timer := o.timer - diff } : Offer).Sound :=
      ⟨hsound.five, hsound.tank, hsound.healer, hsound.damage, hsound.queued, hsound.accepted⟩
    exact hs.replace ho hsound' rfl rfl rfl rfl

theorem Coherent.step (e : LFTEvent) : (s.step e).Coherent := by
  cases e with
  | queueJoin guid requested roles w =>
    unfold LFTManager.step handleQueueJoin
    dsimp only
    split_ifs
    · exact (h.cleanupPlayer guid).startRolecheck w guid _
    · exact h
  | meetingStone guid areaId w =>
    unfold LFTManager.step joinFromMeetingStone
    dsimp only
    split_ifs
    · exact h
    · exact (h.cleanupPlayer guid).startRolecheck w guid _
  | queueLeave guid w =>
    unfold LFTManager.step handleQueueLeave
    dsimp only
    split
    · exact h.of_offers rfl rfl rfl
    split
    · exact (h.cancelOffer _ true guid true).tryMakeOffers w
    split
    · exact h
    · exact h.of_offers rfl rfl rfl
  | rolecheckResponse guid roles w =>
    unfold LFTManager.step handleRolecheckResponse
    dsimp only
    split_ifs
    · exact h
    split
    · exact h
    split_ifs
    · refine Coherent.enqueueRolecheck ?_ w _
      exact h.of_offers rfl rfl rfl
    · exact h.of_offers rfl rfl rfl
  | offerAccept guid w => exact h.handleOfferAccept w guid
  | update diff w =>
    have hfill := h.updateBotFill w diff
    have hsweep : (LFTManager.updateBotFill w diff s).sweepAbsent.Coherent := hfill.of_offers rfl rfl rfl
    have hchecks : (updateRolechecks diff (LFTManager.updateBotFill w diff s).sweepAbsent).Coherent := hsweep.of_offers rfl rfl rfl
    exact (hchecks.updateOffers diff).tryMakeOffers w
  | logout guid => exact h.cleanupPlayer guid
  | realm e =>
    have hrealm : (s.realmStep e).Coherent := by
      cases e <;> exact h.of_offers rfl rfl rfl
    exact hrealm.of_offers rfl rfl rfl

end

/-- In every state that the finder can get into the offers and the map to them are coherent. -/
theorem offers_coherent (es : List LFTEvent) : (Runs.run LFTManager.step start es).Coherent :=
  Runs.always (I := Coherent) (fun _ e h => h.step e) start_coherent es

end LFTManager

end ComfyCraft
