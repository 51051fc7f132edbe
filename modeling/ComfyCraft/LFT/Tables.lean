import ComfyCraft.LFT.BotFill

/-! What each operation of the finder leaves as it was, and what it does to the offers and to the queue. -/

namespace ComfyCraft

open List Function AList PlayerGroups GroupRealm

/-! No change of a group takes a player into the world or out of it. -/

namespace GroupRealm

theorem inWorld_tell (w : GroupRealm) (guid : Nat) {f : PlayerGroups → PlayerGroups} (hf : ∀ p, (f p).inWorld = p.inWorld)
    (g : Nat) :
    ((w.tell guid f).players g).inWorld = (w.players g).inWorld := by
  unfold tell
  split_ifs
  · change (update w.players guid (f (w.players guid)) g).inWorld = _
    by_cases hg : g = guid
    · rw [hg, update_self, hf]
    · rw [update_of_ne hg]
  · rfl

theorem inWorld_join (p : PlayerGroups) (battleground : Bool) (id subGroup : Nat) :
    (p.join battleground id subGroup).inWorld = p.inWorld := by
  unfold join
  split_ifs
  · rfl
  · unfold setBattleGroundRaid setOriginalGroup
    cases p.group.group <;> rfl
  · rfl

theorem inWorld_leave (p : PlayerGroups) (battleground : Bool) (id : Nat) : (p.leave battleground id).inWorld = p.inWorld := by
  unfold leave
  split_ifs <;> rfl

theorem inWorld_addMember (w : GroupRealm) (id guid g : Nat) :
    (((w.addMember id guid).2).players g).inWorld = (w.players g).inWorld := by
  unfold addMember
  cases w.groups id with
  | none => rfl
  | some group =>
    dsimp only
    cases group.openSubGroup with
    | none => rfl
    | some subGroup =>
      dsimp only
      split_ifs
      · rfl
      · dsimp only
        refine inWorld_tell w guid (fun p => ?_) g
        split_ifs <;> rfl
      · rfl
      · exact inWorld_tell _ guid (fun p => inWorld_join p _ _ _) g

theorem inWorld_create (w : GroupRealm) (id guid : Nat) (battleground : Bool) (g : Nat) :
    (((w.create id guid battleground).2).players g).inWorld = (w.players g).inWorld := by
  unfold create
  dsimp only
  split_ifs
  all_goals first | exact inWorld_addMember _ id guid g | rfl

theorem inWorld_removeMember (w : GroupRealm) (id guid g : Nat) :
    ((w.removeMember id guid).players g).inWorld = (w.players g).inWorld := by
  have hdisband : ((w.disband id).players g).inWorld = (w.players g).inWorld := by
    unfold disband
    cases w.groups id with
    | none => rfl
    | some group =>
      dsimp only
      have hall : ∀ (slots : List MemberSlot) (w : GroupRealm),
          ((slots.foldl (fun w s => w.tell s.guid fun p => p.leave group.battleground id) w).players g).inWorld = (w.players g).inWorld := by
        intro slots
        induction slots with
        | nil => exact fun _ => rfl
        | cons s slots ih => exact fun w => (ih _).trans (inWorld_tell w s.guid (fun p => inWorld_leave p _ _) g)
      exact hall group.slots w
  unfold removeMember
  cases w.groups id with
  | none => rfl
  | some group =>
    dsimp only
    split_ifs
    · exact inWorld_tell w guid (fun p => inWorld_leave p _ _) g
    · exact hdisband

end GroupRealm

namespace LFTManager

variable {s s' s'' : LFTManager} {w : LFTWorld}

/-! What is the same. -/

/-- All but the queue, and what is read of groups and bots. -/
structure QueueOnly (s s' : LFTManager) : Prop where
  rolechecks : s'.rolechecks = s.rolechecks
  offers : s'.offers = s.offers
  playerOffers : s'.playerOffers = s.playerOffers
  nextOfferId : s'.nextOfferId = s.nextOfferId
  enqueued : s'.enqueued = s.enqueued
  online : ∀ g, s'.isInWorld g = s.isInWorld g

theorem QueueOnly.refl (s : LFTManager) : QueueOnly s s := ⟨rfl, rfl, rfl, rfl, rfl, fun _ => rfl⟩

theorem QueueOnly.trans (h : QueueOnly s s') (h' : QueueOnly s' s'') : QueueOnly s s'' :=
  ⟨h'.rolechecks.trans h.rolechecks, h'.offers.trans h.offers, h'.playerOffers.trans h.playerOffers,
    h'.nextOfferId.trans h.nextOfferId, h'.enqueued.trans h.enqueued, fun g => (h'.online g).trans (h.online g)⟩

theorem QueueOnly.foldl {α : Type} {f : LFTManager → α → LFTManager} (hf : ∀ s a, QueueOnly s (f s a)) (l : List α)
    (s : LFTManager) : QueueOnly s (l.foldl f s) := by
  induction l generalizing s with
  | nil => exact QueueOnly.refl s
  | cons a l ih => exact (hf s a).trans (ih _)

/-- And the queue too. -/
structure SameTables (s s' : LFTManager) : Prop extends QueueOnly s s' where
  queue : s'.queue = s.queue

theorem SameTables.refl (s : LFTManager) : SameTables s s := ⟨QueueOnly.refl s, rfl⟩

theorem SameTables.trans (h : SameTables s s') (h' : SameTables s' s'') : SameTables s s'' :=
  ⟨h.toQueueOnly.trans h'.toQueueOnly, h'.queue.trans h.queue⟩

/-! Adding players to a group, and finding a bot. -/

theorem openGroup_same (s : LFTManager) (leader : Nat) : SameTables s (s.openGroup leader).2 := by
  unfold openGroup
  split_ifs
  · exact SameTables.refl s
  split
  · exact SameTables.refl s
  · exact ⟨⟨rfl, rfl, rfl, rfl, rfl, inWorld_create _ _ _ _⟩, rfl⟩

theorem joinGroup_same (w : LFTWorld) (s : LFTManager) (id leader member : Nat) : SameTables s
    (joinGroup w s id leader member).2 := by
  have hids : SameTables s { s with lftGroupIds := s.lftGroupIds.insert id } := ⟨⟨rfl, rfl, rfl, rfl, rfl, fun _ => rfl⟩, rfl⟩
  unfold joinGroup
  dsimp only
  split
  · exact hids
  split_ifs
  all_goals first
    | exact hids
    | exact ⟨⟨rfl, rfl, rfl, rfl, rfl, inWorld_addMember _ _ _⟩, rfl⟩

theorem addPlayerToGroup_same (w : LFTWorld) (s : LFTManager) (group : Option Nat) (leader member : Nat) :
    SameTables s (addPlayerToGroup w s group leader member).2.2 := by
  unfold addPlayerToGroup
  split_ifs
  · exact SameTables.refl s
  cases group with
  | some id => exact joinGroup_same w s id leader member
  | none =>
    have hopen := openGroup_same s leader
    dsimp only
    split
    · exact hopen
    · exact hopen.trans (joinGroup_same w _ _ leader member)

theorem addPlayers_same (w : LFTWorld) (leader : Nat) (members : List Nat) (group : Option Nat) (s : LFTManager) :
    SameTables s (addPlayers w leader members group s).2 := by
  induction members generalizing group s with
  | nil => exact SameTables.refl s
  | cons member members ih =>
    unfold addPlayers
    have hone := addPlayerToGroup_same w s group leader member
    split
    · rename_i heq
      rw [heq] at hone
      exact hone
    · rename_i heq
      rw [heq] at hone
      exact hone.trans (ih _ _)

theorem takeFromBotOnlyGroup_same (w : LFTWorld) (s : LFTManager) (role : UInt8) (waiter : QueuedPlayer) (below : Nat) :
    SameTables s (takeFromBotOnlyGroup w s role waiter below).2 := by
  unfold takeFromBotOnlyGroup
  dsimp only
  split
  · exact SameTables.refl s
  split
  · exact SameTables.refl s
  · exact ⟨⟨rfl, rfl, rfl, rfl, rfl, inWorld_removeMember _ _ _⟩, rfl⟩

theorem takeBotAndRespecFor_same (w : LFTWorld) (role : UInt8) (waiter : QueuedPlayer) (below : Nat) (bots : List Nat)
    (s : LFTManager) : SameTables s (takeBotAndRespecFor w role waiter below bots s).2 := by
  induction bots generalizing s with
  | nil => exact SameTables.refl s
  | cons bot bots ih =>
    have hforced : ∀ role, SameTables s { s with forcedRole := Function.update s.forcedRole bot role } :=
      fun _ => ⟨⟨rfl, rfl, rfl, rfl, rfl, fun _ => rfl⟩, rfl⟩
    unfold takeBotAndRespecFor
    dsimp only
    split_ifs
    · exact hforced role
    · exact (hforced role).trans (ih _)
    · exact ih s

theorem findBot_same (w : LFTWorld) (s : LFTManager) (role : UInt8) (waiter : QueuedPlayer) :
    SameTables s (findBot w s role waiter).2 := by
  unfold findBot
  dsimp only
  generalize (if role = lftRoleHealer then w.levelBelowHealer else w.levelBelow) = below
  split
  · exact SameTables.refl s
  have htaken := takeFromBotOnlyGroup_same w s role waiter below
  split
  · rename_i heq
    rw [heq] at htaken
    exact htaken
  · rename_i heq
    rw [heq] at htaken
    split_ifs
    · exact htaken
    · exact htaken.trans (takeBotAndRespecFor_same w role waiter _ _ _)

/-! The queue. -/

theorem enqueuePlayer_only (w : LFTWorld) (s : LFTManager) (guid leader : Nat) (instances : List String) (roleMask : UInt8) :
    QueueOnly s (s.enqueuePlayer w guid leader instances roleMask) := by
  unfold enqueuePlayer
  split_ifs
  · exact ⟨rfl, rfl, rfl, rfl, rfl, fun _ => rfl⟩
  · exact QueueOnly.refl s

theorem enqueueMembers_only (w : LFTWorld) (rolecheck : PendingRolecheck) (s : LFTManager) :
    QueueOnly s (enqueueMembers w rolecheck s) := by
  refine QueueOnly.foldl (fun s guid => ?_) _ s
  split
  · exact QueueOnly.refl s
  · exact enqueuePlayer_only w s _ _ _ _

theorem dropFillBot_only (s : LFTManager) (guid : Nat) : QueueOnly s (s.dropFillBot guid) := by
  unfold dropFillBot
  split_ifs
  all_goals exact ⟨rfl, rfl, rfl, rfl, rfl, fun _ => rfl⟩

theorem dropUnneededFillBots_only (s : LFTManager) : QueueOnly s s.dropUnneededFillBots :=
  QueueOnly.foldl dropFillBot_only _ s

theorem seedBotOnlyQueue_only (w : LFTWorld) (s : LFTManager) : QueueOnly s (seedBotOnlyQueue w s) := by
  unfold seedBotOnlyQueue
  split
  · exact QueueOnly.refl s
  · exact enqueuePlayer_only w s _ _ _ _

theorem fillRoles_only (w : LFTWorld) (dungeon : String) (waiter : QueuedPlayer) (n inQueue : Nat) (count : RoleCount)
    (s : LFTManager) : QueueOnly s (fillRoles w dungeon waiter n inQueue count s) := by
  induction n generalizing inQueue count s with
  | zero => exact QueueOnly.refl s
  | succ n ih =>
    unfold fillRoles
    split_ifs
    · exact QueueOnly.refl s
    split
    · exact QueueOnly.refl s
    rename_i role _
    have hfound := (findBot_same w s role waiter).toQueueOnly
    split
    · rename_i heq
      rw [heq] at hfound
      split_ifs
      · exact hfound
      · exact hfound.trans (ih _ _ _)
    · rename_i bot s1 heq
      rw [heq] at hfound
      have henqueued := enqueuePlayer_only w s1 bot 0 [dungeon] role
      refine (hfound.trans (henqueued.trans ?_)).trans (ih _ _ _)
      exact ⟨rfl, rfl, rfl, rfl, rfl, fun _ => rfl⟩

theorem fillInstanceWithBots_only (w : LFTWorld) (s : LFTManager) (dungeon : String) (waiter : QueuedPlayer) :
    QueueOnly s (fillInstanceWithBots w s dungeon waiter) := fillRoles_only w dungeon waiter _ _ _ s

/-! Offers that end. -/

def entry (s : LFTManager) (guid : Nat) : Option QueuedPlayer :=
  (s.queue.lookup guid).map fun q => { q with assignedRole := 0 }

variable {guid id : Nat} {rolecheck : PendingRolecheck} {o : Offer} {keep : Nat → Bool}

theorem entry_isSome : (s.entry guid).isSome = (s.queue.lookup guid).isSome := by
  unfold entry
  rw [Option.isSome_map]

theorem entry_of_queue (h : s'.queue = s.queue) (guid : Nat) : s'.entry guid = s.entry guid := by
  unfold entry
  rw [h]

theorem enqueuePlayer_entry {g : Nat} (hne : g ≠ guid) (w : LFTWorld) (s : LFTManager) (leader : Nat) (instances : List String)
    (roleMask : UInt8) : (s.enqueuePlayer w guid leader instances roleMask).entry g = s.entry g := by
  unfold enqueuePlayer
  split_ifs
  · unfold entry
    rw [lookup_insert_ne hne]
  · rfl

/-- The player is in the queue under the leader. -/
def Under (s : LFTManager) (guid leader : Nat) : Prop := ∃ q, s.entry guid = some q ∧ q.queueLeaderGuid = leader

theorem enqueuePlayer_under (honline : s.isInWorld guid = true) (w : LFTWorld) (leader : Nat) (instances : List String)
    (roleMask : UInt8) : (s.enqueuePlayer w guid leader instances roleMask).Under guid leader := by
  unfold enqueuePlayer Under entry
  rw [if_pos honline, lookup_insert]
  exact ⟨_, rfl, rfl⟩

theorem enqueueMembers_entry (w : LFTWorld) (s : LFTManager)
    (h : guid ∈ rolecheck.members → s.isInWorld guid = false) : (enqueueMembers w rolecheck s).entry guid = s.entry guid := by
  unfold enqueueMembers
  generalize rolecheck.members = members at h
  induction members generalizing s with
  | nil => rfl
  | cons member members ih =>
    rw [foldl_cons]
    cases hresponse : rolecheck.responses.lookup member with
    | none => exact ih s fun hmem => h (mem_cons_of_mem member hmem)
    | some roleMask =>
      dsimp only
      have honline := (enqueuePlayer_only w s member rolecheck.leaderGuid rolecheck.instances roleMask).online
      rw [ih _ fun hmem => by rw [honline]; exact h (mem_cons_of_mem member hmem)]
      by_cases heq : guid = member
      · have hoffline := h (by rw [heq]; exact mem_cons_self)
        rw [heq] at hoffline
        unfold enqueuePlayer
        rw [if_neg (Bool.eq_false_iff.1 hoffline)]
      · exact enqueuePlayer_entry heq _ _ _ _ _

theorem enqueueMembers_under (w : LFTWorld) (s : LFTManager)
    (hmember : guid ∈ rolecheck.members) (honline : s.isInWorld guid = true)
    (hanswered : (rolecheck.responses.lookup guid).isSome = true) :
    (enqueueMembers w rolecheck s).Under guid rolecheck.leaderGuid := by
  have hfold : ∀ (members : List Nat) (s : LFTManager), s.isInWorld guid = true →
      guid ∈ members ∨ s.Under guid rolecheck.leaderGuid →
      (enqueueMembers w { rolecheck with members := members } s).Under guid rolecheck.leaderGuid := by
    intro members
    induction members with
    | nil =>
      rintro s - (hmem | hunder)
      · exact (not_mem_nil hmem).elim
      · exact hunder
    | cons member members ih =>
      intro s honline h
      have hrest : ∀ s' : LFTManager, s'.isInWorld guid = true → guid ∈ members ∨ s'.Under guid rolecheck.leaderGuid →
          (enqueueMembers w { rolecheck with members := members } s').Under guid rolecheck.leaderGuid := ih
      unfold enqueueMembers
      rw [foldl_cons]
      cases hresponse : rolecheck.responses.lookup member with
      | none =>
        refine hrest s honline (h.imp_left fun hmem => ?_)
        rcases mem_cons.1 hmem with rfl | hmem
        · rw [hresponse] at hanswered
          cases hanswered
        · exact hmem
      | some roleMask =>
        dsimp only
        have honline' := (enqueuePlayer_only w s member rolecheck.leaderGuid rolecheck.instances roleMask).online guid
        refine hrest _ (honline'.trans honline) ?_
        by_cases heq : guid = member
        · subst heq
          exact .inr (enqueuePlayer_under honline w _ _ _)
        · refine h.imp (fun hmem => (mem_cons.1 hmem).resolve_left heq) ?_
          rintro ⟨q, hq, hleader⟩
          exact ⟨q, (enqueuePlayer_entry heq w s _ _ _).trans hq, hleader⟩
  exact hfold rolecheck.members s honline (.inl hmember)

/-- An offer is gone; those of its players who are not to be kept are not queued any more. -/
structure Ended (id : Nat) (o : Offer) (keep : Nat → Bool) (s s' : LFTManager) : Prop where
  rolechecks : s'.rolechecks = s.rolechecks
  offers : s'.offers = s.offers.erase id
  playerOffers : ∀ g, s'.playerOffers.lookup g = if (o.roles.lookup g).isSome then none else s.playerOffers.lookup g
  nextOfferId : s'.nextOfferId = s.nextOfferId
  enqueued : s'.enqueued = s.enqueued
  online : ∀ g, s'.isInWorld g = s.isInWorld g
  entries : ∀ g, s'.entry g = if (o.roles.lookup g).isSome ∧ keep g = false then none else s.entry g

theorem Ended.of_same (h : SameTables s s') (h' : Ended id o keep s' s'') : Ended id o keep s s'' where
  rolechecks := h'.rolechecks.trans h.rolechecks
  offers := by rw [h'.offers, h.offers]
  playerOffers g := by rw [h'.playerOffers, h.playerOffers]
  nextOfferId := h'.nextOfferId.trans h.nextOfferId
  enqueued := h'.enqueued.trans h.enqueued
  online g := (h'.online g).trans (h.online g)
  entries g := by rw [h'.entries, entry_of_queue h.queue]

/-- What a fold over the players of an offer does that takes each player's offer away, and the queue entry of some. -/
theorem ended_foldl {f : LFTManager → Nat → LFTManager} (hrolechecks : ∀ s g, (f s g).rolechecks = s.rolechecks)
    (hoffers : ∀ s g, (f s g).offers = s.offers) (hnext : ∀ s g, (f s g).nextOfferId = s.nextOfferId)
    (henqueued : ∀ s g, (f s g).enqueued = s.enqueued) (honline : ∀ s g other, (f s g).isInWorld other = s.isInWorld other)
    (hplayerOffers : ∀ s g, (f s g).playerOffers = s.playerOffers.erase g)
    (hself : ∀ s g, (f s g).entry g = if keep g then s.entry g else none)
    (hother : ∀ s g other, other ≠ g → (f s g).entry other = s.entry other) (id : Nat) (o : Offer) (s : LFTManager) :
    Ended id o keep s
      { (o.roles.ordered.map Sigma.fst).foldl f s with offers := ((o.roles.ordered.map Sigma.fst).foldl f s).offers.erase id } := by
  have hfold : ∀ (l : List Nat) (s : LFTManager),
      (l.foldl f s).rolechecks = s.rolechecks ∧ (l.foldl f s).offers = s.offers ∧ (l.foldl f s).nextOfferId = s.nextOfferId ∧
        (l.foldl f s).enqueued = s.enqueued ∧ (∀ g, (l.foldl f s).isInWorld g = s.isInWorld g) ∧
        (∀ g, (l.foldl f s).playerOffers.lookup g = if g ∈ l then none else s.playerOffers.lookup g) ∧
        ∀ g, (l.foldl f s).entry g = if g ∈ l ∧ keep g = false then none else s.entry g := by
    intro l
    induction l with
    | nil => exact fun s => ⟨rfl, rfl, rfl, rfl, fun _ => rfl, fun _ => by simp, fun _ => by simp⟩
    | cons a l ih =>
      intro s
      obtain ⟨h1, h2, h3, h4, h5, h6, h7⟩ := ih (f s a)
      rw [foldl_cons]
      refine ⟨h1.trans (hrolechecks s a), h2.trans (hoffers s a), h3.trans (hnext s a), h4.trans (henqueued s a),
        fun g => (h5 g).trans (honline s a g), fun g => ?_, fun g => ?_⟩
      · rw [h6, hplayerOffers]
        by_cases hg : g = a
        · rw [hg, lookup_erase]
          simp
        · rw [lookup_erase_ne hg]
          simp [hg]
      · rw [h7]
        by_cases hg : g = a
        · rw [hg, hself]
          by_cases hk : keep a = true <;> simp [hk]
        · rw [hother s a g hg]
          simp [hg]
  obtain ⟨h1, h2, h3, h4, h5, h6, h7⟩ := hfold (o.roles.ordered.map Sigma.fst) s
  refine ⟨h1, by rw [h2], fun g => ?_, h3, h4, h5, fun g => ?_⟩
  · refine (h6 g).trans ?_
    simp only [Table.mem_ordered_keys]
  · refine (h7 g).trans ?_
    simp only [Table.mem_ordered_keys]

def keeps (o : Offer) (requeueAccepted : Bool) (removeGuid : Nat) (requeueOthers : Bool) (guid : Nat) : Bool :=
  requeueAccepted && guid ≠ removeGuid && (requeueOthers || guid ∈ o.accepted)

theorem cancelOffer_ended (h : s.offers.lookup id = some o) (requeueAccepted : Bool) (removeGuid : Nat) (requeueOthers : Bool) :
    Ended id o (keeps o requeueAccepted removeGuid requeueOthers) s (s.cancelOffer id requeueAccepted removeGuid requeueOthers) := by
  unfold cancelOffer
  rw [h]
  refine ended_foldl ?_ ?_ ?_ ?_ ?_ ?_ (fun s g => ?_) (fun s g other hne => ?_) id o s
  case refine_7 =>
    unfold cancelOne keeps
    cases hkeep : requeueAccepted && decide (g ≠ removeGuid) && (requeueOthers || decide (g ∈ o.accepted)) with
    | false =>
      unfold entry
      simp
    | true =>
      cases hq : s.queue.lookup g with
      | none =>
        unfold entry
        simp [hq]
      | some q =>
        unfold entry
        simp [hq]
  case refine_8 =>
    unfold cancelOne entry
    dsimp only
    generalize (requeueAccepted && decide (g ≠ removeGuid) && (requeueOthers || decide (g ∈ o.accepted))) = kept
    cases kept <;> cases s.queue.lookup g <;> simp [hne]
  all_goals
    intros
    unfold cancelOne
    dsimp only
    split <;> rfl

theorem release_ended (id : Nat) (o : Offer) (s : LFTManager) : Ended id o (fun _ => false) s
      { (o.roles.ordered.map Sigma.fst).foldl release s with
        offers := ((o.roles.ordered.map Sigma.fst).foldl release s).offers.erase id } := by
  refine ended_foldl (f := release) (fun _ _ => rfl) (fun _ _ => rfl) (fun _ _ => rfl) (fun _ _ => rfl) (fun _ _ _ => rfl) (fun _ _ => rfl)
    (fun s g => ?_) (fun s g other hne => ?_) id o s
  · unfold entry release
    simp
  · unfold entry release
    simp [hne]

/-- Whether it succeeds or not, `CompleteOffer` ends the offer. -/
theorem completeOffer_ended (h : s.offers.lookup id = some o) (w : LFTWorld) :
    Ended id o (fun _ => false) s (completeOffer w s id).2 := by
  unfold completeOffer
  rw [h]
  dsimp only
  have hsame := addPlayers_same w (s.offerLeader o) (o.roles.ordered.map Sigma.fst) none s
  split
  · rename_i s1 heq
    rw [heq] at hsame
    have hended := cancelOffer_ended (by rw [hsame.offers]; exact h) false 0 false
    exact Ended.of_same hsame hended
  · rename_i s1 heq
    rw [heq] at hsame
    exact Ended.of_same hsame (release_ended id o s1)

end LFTManager

end ComfyCraft
