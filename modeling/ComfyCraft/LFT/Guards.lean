import ComfyCraft.LFT.Offers

/-! Conditions on what the finder does in a step: before a role check is put among the pending ones or is enqueued, before
a bot is queued, and before players are taken out of the queue. A property that each of these keeps is kept by every
step in which they are met. -/

namespace ComfyCraft

open Option AList Table

namespace LFTManager

/-- Conditions on the state in which something is about to be done; a bot is queued under a leader, or under none. -/
structure Guards where
  pend : LFTManager → PendingRolecheck → Bool
  enqueue : LFTManager → PendingRolecheck → Bool
  bot : LFTManager → Nat → Nat → Bool
  remove : LFTManager → (Nat → Bool) → Bool

def along {α : Type} (f : LFTManager → α → LFTManager) (ok : LFTManager → α → Bool) : LFTManager → List α → Bool
  | _, [] => true
  | s, a :: as => ok s a && along f ok (f s a) as

theorem along_keeps {α : Type} {f : LFTManager → α → LFTManager} {ok : LFTManager → α → Bool} {P : LFTManager → Prop}
    (hf : ∀ s a, P s → ok s a = true → P (f s a)) {s : LFTManager} {as : List α} (h : P s) (hok : along f ok s as = true) :
    P (as.foldl f s) := by
  induction as generalizing s with
  | nil => exact h
  | cons a as ih =>
    obtain ⟨hfirst, hrest⟩ := (Bool.and_eq_true _ _).mp hok
    exact ih (hf s a h hfirst) hrest

namespace Guards

variable (G : Guards)

variable (w : LFTWorld) (s : LFTManager) (guid : Nat)

def started (instances : List String) : Bool :=
  let rolecheck := newRolecheck w (s.cleanupPlayer guid) guid instances
  G.remove s (fun g => g = guid) &&
    if rolecheck.isAnswered then G.enqueue (s.cleanupPlayer guid) rolecheck else G.pend (s.cleanupPlayer guid) rolecheck

def left : Bool :=
  match s.rolecheckOf guid, (s.playerOffers.lookup guid).bind s.offers.lookup with
  | none, some o => G.remove s fun g => (o.roles.lookup g).isSome && g = guid
  | _, _ => true

def responded (roles : String) : Bool :=
  let roleMask := parseRoleMask roles &&& allowedRoleMask (w.player guid).playerClass
  match s.rolecheckOf guid with
  | none => true
  | some e =>
    if roleMask ≠ 0 ∧ (e.2.respond guid roleMask).isAnswered then
      G.enqueue { s with rolechecks := s.rolechecks.erase e.1 } (e.2.respond guid roleMask)
    else true

def accepted : Bool :=
  match s.playerOffers.lookup guid with
  | none => true
  | some id =>
    match s.offers.lookup id with
    | none => true
    | some o =>
      if (o.accept guid).isAccepted then
        G.remove { s with offers := s.offers.insert id (o.accept guid) } fun g => ((o.accept guid).roles.lookup g).isSome
      else true

def acceptedForBot (id : Nat) (s : LFTManager) (e : Sigma fun _ : Nat => UInt8) : Bool :=
  match s.offers.lookup id with
  | none => true
  | some o => if e.1 ∈ o.accepted ∨ !s.isInWorld e.1 ∨ !(w.player e.1).aiControlled then true
    else G.accepted { s with forcedRole := Function.update s.forcedRole e.1 e.2 } e.1

def acceptedForBots (id : Nat) : Bool :=
  match s.offers.lookup id with
  | none => true
  | some o => along (acceptForBot w id) (G.acceptedForBot w id) s o.roles.ordered

def dropped : Bool :=
  if (s.playerOffers.lookup guid).isSome then true
  else if (s.queue.lookup guid).any fun q => q.instances.any s.realPlayerWaitsFor then true
  else G.remove s fun g => g = guid

def seeded : Bool := (seedBot w s).all fun found => G.bot s found.1 found.1

def filledRoles (w : LFTWorld) (dungeon : String) (waiter : QueuedPlayer) : Nat → Nat → RoleCount → LFTManager → Bool
  | 0, _, _, _ => true
  | n + 1, inQueue, count, s =>
    if 5 ≤ inQueue then true
    else
      match wantedRole count with
      | none => true
      | some role =>
        match findBot w s role waiter with
        | (none, s) => if role = lftRoleDamage then true else filledRoles w dungeon waiter n inQueue (count.add role) s
        | (some bot, s) =>
          let s' := s.enqueuePlayer w bot 0 [dungeon] role
          G.bot s bot 0 &&
            filledRoles w dungeon waiter n (inQueue + 1) (count.add role) { s' with fillBots := s'.fillBots.insert bot }

def filled (entry : String × QueuedPlayer) : Bool :=
  let (inQueue, count) := covered w s entry.1 entry.2
  G.filledRoles w entry.1 entry.2 (openRoles count) inQueue count s

def droppedUnneeded : Bool := along dropFillBot G.dropped s (s.fillBots.insertionSort (· ≤ ·))

def botsFilled (diff : Nat) (s : LFTManager) : Bool :=
  let s' := acceptOffersForFillBots w s
  along (acceptForBots w) (G.acceptedForBots w) s (s.offers.ordered.map Sigma.fst) &&
    if !w.botFill then G.droppedUnneeded s'
    else if diff < s'.botFillTimer then true
    else
      G.droppedUnneeded { s' with botFillTimer := 5000 } && G.seeded w s'.startFill &&
        along (fun s entry => fillInstanceWithBots w s entry.1 entry.2) (G.filled w) (seedBotOnlyQueue w s'.startFill)
          (pendingFills w (seedBotOnlyQueue w s'.startFill))

def expired (diff : Nat) (s : LFTManager) (id : Nat) : Bool :=
  match s.offers.lookup id with
  | none => true
  | some o => if o.timer ≤ diff then G.remove s fun g => (o.roles.lookup g).isSome && !keeps o true 0 false g else true

def updated (diff : Nat) (s : LFTManager) : Bool :=
  let filled := updateBotFill w diff s
  let checked := updateRolechecks diff filled.sweepAbsent
  G.botsFilled w diff s && G.remove filled (fun g => !filled.isInWorld g) &&
    along (updateOffer diff) (G.expired diff) checked (checked.offers.ordered.map Sigma.fst)

def met : LFTEvent → Bool
  | .queueJoin guid requested roles w =>
    if mayJoin w s guid requested roles then G.started w s guid (getSharedInstances requested) else true
  | .meetingStone guid areaId w =>
    if (stoneInstances w s guid areaId).isEmpty then true else G.started w s guid (stoneInstances w s guid areaId)
  | .queueLeave guid _ => G.left s guid
  | .rolecheckResponse guid roles w => G.responded w s guid roles
  | .offerAccept guid _ => G.accepted s guid
  | .update diff w => G.updated w diff s
  | .logout guid => G.remove s fun g => g = guid
  | .realm _ => true

end Guards

def warriors : LFTWorld where
  player _ := ⟨.warrior, 20, 0, false, true, false, false, false, none, fun _ => 5⟩
  players := []
  twoSide := false
  gameTime := 0
  now := 0
  botFill := false
  seedRuns := 0
  seedDungeons := []
  delay := 0
  levelBelow := 0
  levelAbove := 0
  levelBelowHealer := 0
  stones := []

/-! What is to be proved of a property. -/

/-- Queue entries of some players are taken away, and nothing else happens. -/
structure Removed (R : Nat → Bool) (s s' : LFTManager) : Prop extends QueueOnly s s' where
  entries : ∀ g, s'.entry g = if R g then none else s.entry g

/-- The role checks are some of those there were, up to answers and timers. -/
structure FewerChecks (s s' : LFTManager) : Prop where
  rolechecks : ∀ k rolecheck', s'.rolechecks.lookup k = some rolecheck' →
    ∃ rolecheck, s.rolechecks.lookup k = some rolecheck ∧ rolecheck'.members = rolecheck.members ∧
      ∀ g ∈ rolecheck'.responses, g ∈ rolecheck.responses ∨ g ∈ rolecheck.members
  queue : s'.queue = s.queue
  playerOffers : s'.playerOffers = s.playerOffers
  enqueued : s'.enqueued = s.enqueued
  realm : s'.realm = s.realm

/-- A property that everything keeps that a step is made of, under the conditions. -/
structure Keeps (G : Guards) (P : LFTManager → Prop) : Prop where
  same : ∀ {s s'}, SameTables s s' → P s → P s'
  checks : ∀ {s s'}, FewerChecks s s' → P s → P s'
  offers : ∀ {s} (offers : Table Nat Offer), P s → P { s with offers := offers }
  removed : ∀ {s s' R}, G.remove s R = true → Removed R s s' → P s → P s'
  block : ∀ {s s' guid q}, s.entry guid = some q →
    Removed (fun g => (s.entry g).any fun r => r.blockLeader g = q.blockLeader guid) s s' → P s → P s'
  ended : ∀ {s s' id o keep}, Ended id o keep s s' →
    (∀ g, (o.roles.lookup g).isSome = true → keep g = false → s.entry g = none) ∨
      G.remove s (fun g => (o.roles.lookup g).isSome && !keep g) = true → P s → P s'
  built : ∀ {s s' dungeon roles}, Built dungeon roles s s' → P s → P s'
  pend : ∀ {s} (w leader instances), G.pend s (newRolecheck w s leader instances) = true →
    P s → P { s with rolechecks := s.rolechecks.insert leader (newRolecheck w s leader instances) }
  start : ∀ {s} (w leader instances), (newRolecheck w s leader instances).isAnswered = true →
    G.enqueue s (newRolecheck w s leader instances) = true → P s → P (takeIn w (newRolecheck w s leader instances) s)
  finish : ∀ {s} (w guid roleMask) {k rolecheck}, s.rolechecks.lookup k = some rolecheck → guid ∈ rolecheck.members →
    (rolecheck.respond guid roleMask).isAnswered = true →
    G.enqueue { s with rolechecks := s.rolechecks.erase k } (rolecheck.respond guid roleMask) = true → P s →
    P (takeIn w (rolecheck.respond guid roleMask) { s with rolechecks := s.rolechecks.erase k })
  bot : ∀ {s} (w bot leader instances roleMask), leader = 0 ∨ leader = bot → G.bot s bot leader = true → P s →
    P (s.enqueuePlayer w bot leader instances roleMask)
  realm : ∀ {s} (e : GroupEvent), P s → P (s.realmStep e).trackPresence

variable {G : Guards} {P : LFTManager → Prop} {s : LFTManager}

namespace Keeps

theorem tryMakeOffers (K : Keeps G P) (w : LFTWorld) (h : P s) : P (tryMakeOffers w s) := by
  unfold LFTManager.tryMakeOffers
  generalize s.wanted = dungeons
  induction dungeons generalizing s with
  | nil => exact h
  | cons dungeon dungeons ih =>
    refine ih ?_
    rcases tryBuildOffer_cases w s dungeon with heq | ⟨roles, hb⟩
    · rw [heq]
      exact h
    · exact K.built hb h

theorem cancelOffer (K : Keeps G P) (id : Nat) (requeueAccepted : Bool) (removeGuid : Nat) (requeueOthers : Bool)
    (hkeep : ∀ o, s.offers.lookup id = some o →
      (∀ g, (o.roles.lookup g).isSome = true → keeps o requeueAccepted removeGuid requeueOthers g = false → s.entry g = none) ∨
        G.remove s (fun g => (o.roles.lookup g).isSome && !keeps o requeueAccepted removeGuid requeueOthers g) = true)
    (h : P s) : P (s.cancelOffer id requeueAccepted removeGuid requeueOthers) := by
  cases ho : s.offers.lookup id with
  | none =>
    unfold LFTManager.cancelOffer
    rw [ho]
    exact h
  | some o => exact K.ended (cancelOffer_ended ho _ _ _) (hkeep o ho) h

theorem erased (guid : Nat) (s : LFTManager) : Removed (fun g => g = guid) s { s with queue := s.queue.erase guid } := by
  refine ⟨⟨rfl, rfl, rfl, rfl, rfl, fun _ => rfl⟩, fun g => ?_⟩
  unfold entry
  by_cases hg : g = guid
  · rw [hg, lookup_erase]
    simp
  · rw [lookup_erase_ne hg]
    simp [hg]

theorem fewer_keep (p : Nat → PendingRolecheck → Bool) (s : LFTManager) :
    FewerChecks s { s with rolechecks := s.rolechecks.keep p } := by
  refine ⟨fun k rolecheck' hk => ?_, rfl, rfl, rfl, rfl⟩
  rw [lookup_keep, filter_eq_some_iff] at hk
  exact ⟨rolecheck', hk.1, rfl, fun _ hg => .inl hg⟩

theorem fewer_erase (k : Nat) (s : LFTManager) : FewerChecks s { s with rolechecks := s.rolechecks.erase k } := by
  refine ⟨fun k' rolecheck' hk => ?_, rfl, rfl, rfl, rfl⟩
  by_cases hkk : k' = k
  · rw [hkk, lookup_erase] at hk
    cases hk
  · rw [lookup_erase_ne hkk] at hk
    exact ⟨rolecheck', hk, rfl, fun _ hg => .inl hg⟩

theorem keeps_others (o : Offer) (guid g : Nat) : keeps o true guid true g = decide (g ≠ guid) := by
  unfold keeps
  simp

variable {guid diff : Nat} {instances : List String} {w : LFTWorld}

section

variable (K : Keeps G P)
include K

theorem cleanupPlayer (hok : G.remove s (fun g => g = guid) = true) (h : P s) : P (s.cleanupPlayer guid) := by
  have herased := K.removed hok (erased guid s) h
  have hgone : ({ s with queue := s.queue.erase guid } : LFTManager).entry guid = none := by
    rw [(erased guid s).entries]
    simp
  have hchecks : ∀ s : LFTManager, P s → P (s.cancelRolechecks guid) := fun s hs => K.checks (fewer_keep _ s) hs
  unfold LFTManager.cleanupPlayer
  refine hchecks _ ?_
  split
  · exact herased
  refine K.cancelOffer _ true guid true (fun o _ => .inl fun g _ hg => ?_) herased
  rw [keeps_others, decide_eq_false_iff_not, not_not] at hg
  rw [hg]
  exact hgone

theorem enqueueRolecheck_new (w : LFTWorld) {leader : Nat}
    (hanswered : (newRolecheck w s leader instances).isAnswered = true) (hok : G.enqueue s (newRolecheck w s leader instances) = true)
    (h : P s) : P (enqueueRolecheck w (newRolecheck w s leader instances) s) :=
  K.tryMakeOffers w (K.start w leader instances hanswered hok h)

theorem started (w : LFTWorld) (hok : G.started w s guid instances = true)
    (h : P s) : P (startRolecheck w (s.cleanupPlayer guid) guid instances) := by
  unfold Guards.started at hok
  rw [Bool.and_eq_true] at hok
  have hclean := K.cleanupPlayer hok.1 h
  have hok := hok.2
  unfold startRolecheck
  dsimp only
  split_ifs at hok ⊢ with hanswered
  · exact K.enqueueRolecheck_new w hanswered hok hclean
  · exact K.pend w guid instances hok hclean

theorem handleQueueLeave (w : LFTWorld) (hok : G.left s guid = true) (h : P s) : P (handleQueueLeave w s guid) := by
  unfold Guards.left at hok
  unfold LFTManager.handleQueueLeave
  cases hcheck : s.rolecheckOf guid with
  | some e =>
    exact K.checks (fewer_erase e.1 s) h
  | none =>
    rw [hcheck] at hok
    cases hid : s.playerOffers.lookup guid with
    | some id =>
      rw [hid, bind_some] at hok
      refine K.tryMakeOffers w (K.cancelOffer id true guid true (fun o ho => .inr ?_) h)
      rw [ho] at hok
      have hsame : (fun g => (o.roles.lookup g).isSome && !keeps o true guid true g) =
          fun g => (o.roles.lookup g).isSome && decide (g = guid) := by
        funext g
        rw [keeps_others]
        by_cases hg : g = guid <;> simp [hg]
      rw [hsame]
      exact hok
    | none =>
      cases hq : s.queue.lookup guid with
      | none => exact h
      | some q =>
        have hentry : s.entry guid = some { q with assignedRole := 0 } := by
          unfold entry
          rw [hq]
          rfl
        refine K.block hentry ⟨⟨rfl, rfl, rfl, rfl, rfl, fun _ => rfl⟩, fun g => ?_⟩ h
        unfold entry
        rw [lookup_keep]
        cases hg : s.queue.lookup g with
        | none => simp
        | some r =>
          have hleader : ∀ (r : QueuedPlayer) (g : Nat), ({ r with assignedRole := 0 } : QueuedPlayer).blockLeader g = r.blockLeader g :=
            fun _ _ => rfl
          by_cases hsame : r.blockLeader g = q.blockLeader guid
          · simp [hleader, hsame]
          · simp [hleader, hsame]

theorem handleRolecheckResponse {roles : String}
    (hok : G.responded w s guid roles = true) (h : P s) : P (handleRolecheckResponse w s guid roles) := by
  unfold Guards.responded at hok
  unfold LFTManager.handleRolecheckResponse
  generalize parseRoleMask roles &&& allowedRoleMask (w.player guid).playerClass = roleMask at hok ⊢
  by_cases hmask : roleMask = 0
  · rw [if_pos hmask]
    exact h
  rw [if_neg hmask]
  cases hcheck : s.rolecheckOf guid with
  | none => exact h
  | some e =>
    rw [hcheck] at hok
    dsimp only at hok ⊢
    have hmember : guid ∈ e.2.members := by
      have hfound := List.find?_some (show s.rolechecks.ordered.find? _ = some e from hcheck)
      exact of_decide_eq_true hfound
    have hlookup : s.rolechecks.lookup e.1 = some e.2 := mem_ordered.1 (List.mem_of_find?_eq_some hcheck)
    split_ifs with hanswered
    · rw [if_pos ⟨hmask, hanswered⟩] at hok
      exact K.tryMakeOffers w (K.finish w guid roleMask hlookup hmember hanswered hok h)
    have hfewer : FewerChecks s { s with rolechecks := s.rolechecks.insert e.1 (e.2.respond guid roleMask) } := by
      refine ⟨fun k rolecheck' hk => ?_, rfl, rfl, rfl, rfl⟩
      by_cases hke : k = e.1
      · rw [hke, lookup_insert] at hk
        cases hk
        rw [hke]
        refine ⟨e.2, hlookup, rfl, fun g hg => ?_⟩
        rcases (mem_insert _).1 hg with rfl | hg
        · exact .inr hmember
        · exact .inl hg
      · rw [lookup_insert_ne hke] at hk
        exact ⟨rolecheck', hk, rfl, fun _ hg => .inl hg⟩
    exact K.checks hfewer h

theorem handleOfferAccept (w : LFTWorld) (hok : G.accepted s guid = true) (h : P s) : P (handleOfferAccept w s guid) := by
  unfold Guards.accepted at hok
  unfold LFTManager.handleOfferAccept
  cases hid : s.playerOffers.lookup guid with
  | none => exact h
  | some id =>
    dsimp only
    cases ho : s.offers.lookup id with
    | none => exact h
    | some o =>
      rw [hid] at hok
      dsimp only at hok ⊢
      rw [ho] at hok
      dsimp only at hok
      split_ifs with haccepted
      · rw [if_pos haccepted] at hok
        refine K.ended (completeOffer_ended (lookup_insert ..) w) (.inr ?_) (K.offers (s.offers.insert id (o.accept guid)) h)
        simpa using hok
      · exact K.offers _ h

end

/-! The update. -/

section

variable (K : Keeps G P)
include K

theorem acceptOffersForFillBots
    (hok : along (acceptForBots w) (G.acceptedForBots w) s (s.offers.ordered.map Sigma.fst) = true) (h : P s) :
    P (acceptOffersForFillBots w s) := by
  refine along_keeps (fun s id hs hok => ?_) h hok
  unfold Guards.acceptedForBots at hok
  unfold acceptForBots
  cases ho : s.offers.lookup id with
  | none => exact hs
  | some o =>
    rw [ho] at hok
    refine along_keeps (fun s e hs hok => ?_) hs hok
    unfold Guards.acceptedForBot at hok
    unfold acceptForBot
    cases ho : s.offers.lookup id with
    | none => exact hs
    | some o =>
      rw [ho] at hok
      dsimp only at hok ⊢
      split_ifs at hok ⊢
      · exact hs
      have hforced : SameTables s { s with forcedRole := Function.update s.forcedRole e.1 e.2 } :=
        ⟨⟨rfl, rfl, rfl, rfl, rfl, fun _ => rfl⟩, rfl⟩
      exact K.handleOfferAccept w hok (K.same hforced hs)

theorem dropUnneededFillBots (hok : G.droppedUnneeded s = true) (h : P s) : P s.dropUnneededFillBots := by
  refine along_keeps (fun s guid hs hok => ?_) h hok
  unfold Guards.dropped at hok
  unfold dropFillBot
  split_ifs at hok ⊢
  · exact hs
  · exact hs
  all_goals exact K.removed hok ⟨⟨rfl, rfl, rfl, rfl, rfl, fun _ => rfl⟩, (erased guid s).entries⟩ hs

theorem seedBotOnlyQueue (hok : G.seeded w s = true) (h : P s) : P (seedBotOnlyQueue w s) := by
  unfold Guards.seeded at hok
  unfold LFTManager.seedBotOnlyQueue
  cases hseed : seedBot w s with
  | none => exact h
  | some found =>
    rw [hseed] at hok
    exact K.bot w found.1 found.1 _ _ (.inr rfl) hok h

theorem fillRoles {dungeon : String} {waiter : QueuedPlayer} {n inQueue : Nat} {count : RoleCount}
    (hok : G.filledRoles w dungeon waiter n inQueue count s = true) (h : P s) : P (fillRoles w dungeon waiter n inQueue count s) := by
  induction n generalizing inQueue count s with
  | zero => exact h
  | succ n ih =>
    unfold Guards.filledRoles at hok
    unfold LFTManager.fillRoles
    split_ifs at hok ⊢
    · exact h
    cases hrole : wantedRole count with
    | none => exact h
    | some role =>
      rw [hrole] at hok
      dsimp only at hok ⊢
      have hsame := findBot_same w s role waiter
      cases hfound : findBot w s role waiter with
      | mk found s1 =>
        rw [hfound] at hok hsame
        cases found with
        | none =>
          split_ifs at hok ⊢
          · exact K.same hsame h
          · exact ih hok (K.same hsame h)
        | some bot =>
          rw [Bool.and_eq_true] at hok
          have hqueued := K.bot w bot 0 [dungeon] role (.inl rfl) hok.1 (K.same hsame h)
          refine ih hok.2 (K.same ?_ hqueued)
          exact ⟨⟨rfl, rfl, rfl, rfl, rfl, fun _ => rfl⟩, rfl⟩

theorem updateBotFill (hok : G.botsFilled w diff s = true) (h : P s) : P (updateBotFill w diff s) := by
  unfold Guards.botsFilled at hok
  unfold LFTManager.updateBotFill
  dsimp only at hok ⊢
  rw [Bool.and_eq_true] at hok
  obtain ⟨haccept, hok⟩ := hok
  have h := K.acceptOffersForFillBots haccept h
  generalize LFTManager.acceptOffersForFillBots w s = s at h hok ⊢
  split_ifs at hok ⊢
  · exact K.dropUnneededFillBots hok h
  · refine K.same ?_ h
    exact ⟨⟨rfl, rfl, rfl, rfl, rfl, fun _ => rfl⟩, rfl⟩
  simp only [Bool.and_eq_true] at hok
  obtain ⟨⟨hdropped, hseeded⟩, hfilled⟩ := hok
  have htimer : SameTables s { s with botFillTimer := 5000 } := ⟨⟨rfl, rfl, rfl, rfl, rfl, fun _ => rfl⟩, rfl⟩
  have hstart : P s.startFill := K.dropUnneededFillBots hdropped (K.same htimer h)
  refine along_keeps (fun s entry hs hok => ?_) (K.seedBotOnlyQueue hseeded hstart) hfilled
  exact K.fillRoles hok hs

theorem updateOffers
    (hok : along (updateOffer diff) (G.expired diff) s (s.offers.ordered.map Sigma.fst) = true) (h : P s) : P (updateOffers diff s) := by
  refine along_keeps (fun s id hs hok => ?_) h hok
  unfold Guards.expired at hok
  unfold updateOffer
  cases ho : s.offers.lookup id with
  | none => exact hs
  | some o =>
    rw [ho] at hok
    dsimp only at hok ⊢
    split_ifs at hok ⊢
    · refine K.cancelOffer id true 0 false (fun o' ho' => .inr ?_) hs
      rw [ho] at ho'
      cases ho'
      exact hok
    · exact K.offers _ hs

end

theorem sweepAbsent_removed (s : LFTManager) : Removed (fun g => !s.isInWorld g) s s.sweepAbsent := by
  refine ⟨⟨rfl, rfl, rfl, rfl, rfl, fun _ => rfl⟩, fun g => ?_⟩
  unfold sweepAbsent entry
  rw [lookup_keep]
  cases s.queue.lookup g with
  | none => simp
  | some q => by_cases hg : s.isInWorld g = true <;> simp [hg]

theorem updateRolechecks_fewer (diff : Nat) (s : LFTManager) : FewerChecks s (updateRolechecks diff s) := by
  refine ⟨fun k rolecheck' hk => ?_, rfl, rfl, rfl, rfl⟩
  unfold updateRolechecks at hk
  rw [lookup_mapValues, map_eq_some_iff] at hk
  obtain ⟨rolecheck, hk, rfl⟩ := hk
  rw [lookup_keep, filter_eq_some_iff] at hk
  exact ⟨rolecheck, hk.1, rfl, fun _ hg => .inl hg⟩

theorem update (K : Keeps G P) (hok : G.updated w diff s = true) (h : P s) : P (update w diff s) := by
  unfold Guards.updated at hok
  simp only [Bool.and_eq_true] at hok
  obtain ⟨⟨hfilled, hswept⟩, hexpired⟩ := hok
  have hfill := K.updateBotFill hfilled h
  have hsweep : P (LFTManager.updateBotFill w diff s).sweepAbsent := K.removed hswept (sweepAbsent_removed _) hfill
  exact K.tryMakeOffers w (K.updateOffers hexpired (K.checks (updateRolechecks_fewer diff _) hsweep))

theorem step (K : Keeps G P) {e : LFTEvent} (hok : G.met s e = true) (h : P s) : P (s.step e) := by
  cases e with
  | queueJoin guid requested roles w =>
    unfold Guards.met at hok
    unfold LFTManager.step handleQueueJoin
    dsimp only at hok ⊢
    split_ifs at hok ⊢
    · exact K.started w hok h
    · exact h
  | meetingStone guid areaId w =>
    unfold Guards.met at hok
    unfold LFTManager.step joinFromMeetingStone
    dsimp only at hok ⊢
    split_ifs at hok ⊢
    · exact h
    · exact K.started w hok h
  | queueLeave guid w => exact K.handleQueueLeave w hok h
  | rolecheckResponse guid roles w => exact K.handleRolecheckResponse hok h
  | offerAccept guid w => exact K.handleOfferAccept w hok h
  | update diff w => exact K.update hok h
  | logout guid => exact K.cleanupPlayer hok h
  | realm e => exact K.realm e h

end Keeps

end LFTManager

end ComfyCraft
