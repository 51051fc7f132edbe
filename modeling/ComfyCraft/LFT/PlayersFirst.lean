import ComfyCraft.LFT.Guards

/-! Real players before fill bots. The matcher goes by queue order alone, so a bot is seated before a real player who could
take the role exactly where it stands before the player. -/

namespace ComfyCraft

open List Option AList Runs Table Nat RoleCount

def roleCap (role : UInt8) : Nat := if role = lftRoleDamage then 3 else 1

variable {roleMask : UInt8} {c : RoleCount}

theorem pickRole_open (h : pickRole roleMask c ≠ 0) : c.of (pickRole roleMask c) < roleCap (pickRole roleMask c) := by
  unfold pickRole at h ⊢
  split_ifs at h ⊢ with htank hhealer hdamage
  · exact htank.2
  · exact hhealer.2
  · exact hdamage.2
  · exact absurd rfl h

/-- A player finds no role where all the player's roles are taken. -/
theorem pickRole_zero {role : UInt8} (h : pickRole roleMask c = 0) (hrole : IsRole role)
    (hmask : roleMask &&& role ≠ 0) : roleCap role ≤ c.of role := by
  unfold pickRole at h
  split_ifs at h with htank hhealer hdamage
  · exact absurd h (by decide)
  · exact absurd h (by decide)
  · exact absurd h (by decide)
  rcases hrole with rfl | rfl | rfl
  · exact Nat.le_of_not_lt fun hlt => htank ⟨hmask, hlt⟩
  · exact Nat.le_of_not_lt fun hlt => hhealer ⟨hmask, hlt⟩
  · exact Nat.le_of_not_lt fun hlt => hdamage ⟨hmask, hlt⟩

namespace LFTManager

/-! ### One offer -/

/-- Somebody is queued for a dungeon, and has no offer. -/
def Waits (s : LFTManager) (dungeon : String) (guid : Nat) (q : QueuedPlayer) : Prop :=
  s.queue.lookup guid = some q ∧ s.playerOffers.lookup guid = none ∧ dungeon ∈ q.instances

/-- A real player, who queues alone, is left out of an offer that seats a fill bot in a role of the player. -/
structure Overlooked (w : LFTWorld) (s : LFTManager) (dungeon : String) (seed : QueuedPlayer) (roles : Table Nat UInt8)
    (bot player : Nat) : Prop where
  fill : bot ∈ s.fillBots
  real : player ∉ s.fillBots
  out : roles.lookup player = none
  seat : ∃ role q, roles.lookup bot = some role ∧ s.Waits dungeon player q ∧ canQueuedPlayersGroup w s seed q = true ∧
    s.block (q.blockLeader player) = [player] ∧ q.roleMask &&& role ≠ 0

/-- No offer that can be built for the dungeon seats a bot in the place of a real player. -/
def PlayersFirst (w : LFTWorld) (s : LFTManager) (dungeon : String) : Prop :=
  ∀ guid seed roles, s.queue.lookup guid = some seed → formed w s dungeon guid = some roles →
    ∀ bot player, ¬ Overlooked w s dungeon seed roles bot player

/-- No fill bot that waits stands in the queue, itself or somebody of its block, before a real player who waits alone for
the same dungeon, has a role of the bot, and may group with whom the bot may. -/
def InOrder (w : LFTWorld) (s : LFTManager) (dungeon : String) : Prop :=
  ∀ guid seed bot b player p role, s.Waits dungeon guid seed →
    bot ∈ s.fillBots → s.Waits dungeon bot b → canQueuedPlayersGroup w s seed b = true →
    player ∉ s.fillBots → s.Waits dungeon player p → canQueuedPlayersGroup w s seed p = true →
    s.block (p.blockLeader player) = [player] → IsRole role → b.roleMask &&& role ≠ 0 → p.roleMask &&& role ≠ 0 →
    ∀ before after, s.getQueueOrder = before ++ player :: after → ∀ other ∈ s.block (b.blockLeader bot), other ∉ before

variable {s : LFTManager} {w : LFTWorld} {dungeon : String} {seed : QueuedPlayer} {m m' b b' : Selection}

/-- What is selected later than `m`: who is selected stays, and a role is given only while it is open. -/
structure Further (m m' : Selection) : Prop where
  kept : ∀ g role, m.roles.lookup g = some role → m'.roles.lookup g = some role
  count : ∀ role, IsRole role → m.count.of role ≤ m'.count.of role
  opened : ∀ g role, m'.roles.lookup g = some role → m.roles.lookup g = some role ∨ IsRole role ∧ m.count.of role < roleCap role

theorem Further.refl (m : Selection) : Further m m := ⟨fun _ _ h => h, fun _ _ => le_refl _, fun _ _ h => .inl h⟩

theorem Further.trans {m₁ m₂ m₃ : Selection} (h : Further m₁ m₂) (h' : Further m₂ m₃) : Further m₁ m₃ where
  kept g role hg := h'.kept g role (h.kept g role hg)
  count role hrole := (h.count role hrole).trans (h'.count role hrole)
  opened g role hg := by
    rcases h'.opened g role hg with hold | ⟨hrole, hopen⟩
    · exact h.opened g role hold
    · exact .inr ⟨hrole, lt_of_le_of_lt (h.count role hrole) hopen⟩

variable {selected : Table Nat UInt8} {guid leader id : Nat} {w' : LFTWorld} {s₁ : LFTManager} {e : LFTEvent} {o : Offer}

theorem fitOne_fitted (h : fitOne w s dungeon seed selected b guid = some b') (hnew : b.roles.lookup guid = none) :
    Further b b' ∧ selected.lookup guid = none ∧ ∀ g, (b'.roles.lookup g).isSome = true → (b.roles.lookup g).isSome = true ∨
        g = guid ∧ ∃ q, s.Waits dungeon g q ∧ canQueuedPlayersGroup w s seed q = true := by
  unfold fitOne at h
  cases hq : s.queue.lookup guid with
  | none =>
    rw [hq] at h
    cases h
  | some q =>
    rw [hq] at h
    dsimp only at h
    split_ifs at h with hsuits hpick
    cases h
    unfold suits at hsuits
    simp only [Bool.not_eq_true', Bool.not_eq_false, Bool.and_eq_true, isNone_iff_eq_none, decide_eq_true_eq] at hsuits
    obtain ⟨⟨⟨hselected, hoffer⟩, hlisted⟩, hgroup⟩ := hsuits
    have hrole := (pickRole_ne_zero hpick).1
    refine ⟨⟨fun g role hg => ?_, fun role hother => ?_, fun g role hg => ?_⟩, hselected, fun g hg => ?_⟩
    · have hne : g ≠ guid := by
        rintro rfl
        rw [hnew] at hg
        cases hg
      dsimp only
      rw [lookup_insert_ne hne]
      exact hg
    · dsimp only
      rw [of_add _ hrole hother]
      exact le_add_right _ _
    · dsimp only at hg
      by_cases heq : g = guid
      · rw [heq, lookup_insert] at hg
        cases hg
        exact .inr ⟨hrole, pickRole_open hpick⟩
      · rw [lookup_insert_ne heq] at hg
        exact .inl hg
    · dsimp only at hg
      by_cases heq : g = guid
      · subst heq
        exact .inr ⟨rfl, q, ⟨hq, hoffer, hlisted⟩, hgroup⟩
      · rw [lookup_insert_ne heq] at hg
        exact .inl hg

theorem fitBlock_fitted {block : List Nat} (hblock : block.Nodup)
    (hnew : ∀ g ∈ block, b.roles.lookup g = none) (h : block.foldlM (fitOne w s dungeon seed selected) b = some b') :
    Further b b' ∧ ∀ g, (b'.roles.lookup g).isSome = true → (b.roles.lookup g).isSome = true ∨
      g ∈ block ∧ selected.lookup g = none ∧ ∃ q, s.Waits dungeon g q ∧ canQueuedPlayersGroup w s seed q = true := by
  induction block generalizing b with
  | nil =>
    cases h
    exact ⟨Further.refl _, fun g hg => .inl hg⟩
  | cons guid block ih =>
    rw [nodup_cons] at hblock
    rw [foldlM_cons] at h
    obtain ⟨b1, hb1, hrest⟩ := bind_eq_some_iff.1 h
    obtain ⟨hfirst, hselected, hfitted⟩ := fitOne_fitted hb1 (hnew guid mem_cons_self)
    have hnew' : ∀ g ∈ block, b1.roles.lookup g = none := by
      intro g hg
      by_contra hsome
      rcases hfitted g (isSome_iff_ne_none.2 hsome) with hold | ⟨rfl, -⟩
      · rw [hnew g (mem_cons_of_mem guid hg)] at hold
        cases hold
      · exact hblock.1 hg
    obtain ⟨hlater, hall⟩ := ih hblock.2 hnew' hrest
    refine ⟨hfirst.trans hlater, fun g hg => ?_⟩
    rcases hall g hg with hbefore | ⟨hmem, hwaits⟩
    · rcases hfitted g hbefore with hold | ⟨rfl, hwaits⟩
      · exact .inl hold
      · exact .inr ⟨mem_cons_self, hselected, hwaits⟩
    · exact .inr ⟨mem_cons_of_mem guid hmem, hwaits⟩

theorem mem_block {q : QueuedPlayer} (hq : s.queue.lookup guid = some q) (h : guid ∈ s.block leader) :
    q.blockLeader guid = leader := by
  have hleader := (mem_filter.1 h).2
  rw [hq] at hleader
  exact of_decide_eq_true hleader

theorem select_fitted (w : LFTWorld) (dungeon : String) (seed : QueuedPlayer) (m : Selection) {candidate : Nat}
    (hcandidate : candidate ∈ s.getQueueOrder) :
    Further m (select w s dungeon seed m candidate) ∧
      ∀ g, ((select w s dungeon seed m candidate).roles.lookup g).isSome = true → (m.roles.lookup g).isSome = true ∨
        ∃ q, s.Waits dungeon g q ∧ canQueuedPlayersGroup w s seed q = true ∧ candidate ∈ s.block (q.blockLeader g) := by
  have hsame : Further m m ∧ ∀ g, (m.roles.lookup g).isSome = true → (m.roles.lookup g).isSome = true ∨
      ∃ q, s.Waits dungeon g q ∧ canQueuedPlayersGroup w s seed q = true ∧ candidate ∈ s.block (q.blockLeader g) :=
    ⟨Further.refl m, fun g hg => .inl hg⟩
  unfold select
  split_ifs
  · exact hsame
  cases hq : s.queue.lookup candidate with
  | none => exact hsame
  | some q =>
    dsimp only
    split_ifs
    · exact hsame
    have hnone : ∀ g, (∅ : Table Nat UInt8).lookup g = none := fun g => lookup_empty g
    cases hfit : (s.block (q.blockLeader candidate)).foldlM (fitOne w s dungeon seed m.roles) ⟨∅, m.count⟩ with
    | none => exact hsame
    | some b =>
      dsimp only
      split_ifs
      · exact hsame
      obtain ⟨hfurther, hfitted⟩ := fitBlock_fitted (s.getQueueOrder_nodup.filter _) (fun g _ => hnone g) hfit
      have hnew : ∀ g, (b.roles.lookup g).isSome = true → g ∈ s.block (q.blockLeader candidate) ∧ m.roles.lookup g = none ∧
          ∃ r, s.Waits dungeon g r ∧ canQueuedPlayersGroup w s seed r = true := by
        intro g hg
        rcases hfitted g hg with hempty | hblock
        · rw [hnone g] at hempty
          cases hempty
        · exact hblock
      refine ⟨⟨fun g role hg => ?_, hfurther.count, fun g role hg => ?_⟩, fun g hg => ?_⟩
      · dsimp only
        rw [lookup_insertAll_other, hg]
        intro hmem
        have hout := (hnew g (mem_ordered_keys.1 hmem)).2.1
        rw [hg] at hout
        cases hout
      · rcases lookup_insertAll hg with hmem | hold
        · rcases hfurther.opened g role (mem_ordered.1 hmem) with hempty | hopen
          · rw [hnone g] at hempty
            cases hempty
          · exact .inr hopen
        · exact .inl hold
      · obtain ⟨role, hrole⟩ := isSome_iff_exists.1 hg
        rcases lookup_insertAll hrole with hmem | hold
        · obtain ⟨hblock, -, r, hwaits, hgroup⟩ := hnew g (by rw [mem_ordered.1 hmem]; rfl)
          refine .inr ⟨r, hwaits, hgroup, ?_⟩
          rw [mem_block hwaits.1 hblock]
          refine mem_filter.2 ⟨hcandidate, ?_⟩
          rw [hq]
          exact decide_eq_true rfl
        · exact .inl (by rw [hold]; rfl)

theorem selectAll_fitted (w : LFTWorld) (dungeon : String) (seed : QueuedPlayer) (m : Selection) {order : List Nat}
    (horder : ∀ g ∈ order, g ∈ s.getQueueOrder) :
    Further m (order.foldl (select w s dungeon seed) m) ∧
      ∀ g, ((order.foldl (select w s dungeon seed) m).roles.lookup g).isSome = true → (m.roles.lookup g).isSome = true ∨
        ∃ q, s.Waits dungeon g q ∧ canQueuedPlayersGroup w s seed q = true ∧
          ∃ candidate ∈ order, candidate ∈ s.block (q.blockLeader g) := by
  induction order generalizing m with
  | nil => exact ⟨Further.refl m, fun g hg => .inl hg⟩
  | cons candidate order ih =>
    obtain ⟨hfirst, hfitted⟩ := select_fitted w dungeon seed m (horder candidate mem_cons_self)
    obtain ⟨hlater, hall⟩ := ih (select w s dungeon seed m candidate) fun g hg => horder g (mem_cons_of_mem candidate hg)
    refine ⟨hfirst.trans hlater, fun g hg => ?_⟩
    rcases hall g hg with hbefore | ⟨q, hwaits, hgroup, other, hother, hblock⟩
    · rcases hfitted g hbefore with hold | ⟨q, hwaits, hgroup, hblock⟩
      · exact .inl hold
      · exact .inr ⟨q, hwaits, hgroup, candidate, mem_cons_self, hblock⟩
    · exact .inr ⟨q, hwaits, hgroup, other, mem_cons_of_mem candidate hother, hblock⟩

theorem selectAll_full (order : List Nat) (hfull : 5 ≤ m.roles.entries.length) : order.foldl (select w s dungeon seed) m = m := by
  induction order with
  | nil => rfl
  | cons candidate order ih =>
    have hfirst : select w s dungeon seed m candidate = m := if_pos hfull
    rw [foldl_cons, hfirst, ih]

/-- Who is alone in a block is selected where there is room, and a role of the player is open. -/
theorem select_alone {player : Nat} {p : QueuedPlayer} (hwaits : s.Waits dungeon player p)
    (hgroup : canQueuedPlayersGroup w s seed p = true) (hblock : s.block (p.blockLeader player) = [player])
    (hout : m.roles.lookup player = none) (hroom : ¬ 5 ≤ m.roles.entries.length) (hpick : pickRole p.roleMask m.count ≠ 0) :
    (select w s dungeon seed m player).roles.lookup player = some (pickRole p.roleMask m.count) := by
  obtain ⟨hq, hoffer, hlisted⟩ := hwaits
  have hsuits : suits w s dungeon seed m.roles player p = true := by
    unfold suits
    rw [hout, hoffer, hgroup, decide_eq_true hlisted]
    rfl
  have hone : fitOne w s dungeon seed m.roles ⟨∅, m.count⟩ player =
      some ⟨(∅ : Table Nat UInt8).insert player (pickRole p.roleMask m.count), m.count.add (pickRole p.roleMask m.count)⟩ := by
    unfold fitOne
    rw [hq]
    dsimp only
    rw [hsuits, if_neg (by decide), if_neg hpick]
  unfold select
  rw [if_neg hroom, hq]
  dsimp only
  rw [hsuits, if_neg (by decide), hblock, foldlM_cons, hone]
  dsimp only [bind_eq_bind, bind_some, foldlM_nil, pure]
  have hlength : ((∅ : Table Nat UInt8).insert player (pickRole p.roleMask m.count)).entries.length = 1 := rfl
  rw [if_neg (by rw [hlength]; omega)]
  exact lookup_insert m.roles

/-- An offer that is built in order leaves no real player out for a bot. -/
theorem InOrder.playersFirst (h : InOrder w s dungeon) : PlayersFirst w s dungeon := by
  rintro guid seed roles hseed hformed bot player ⟨hfill, hreal, hout, role, p, hbot, hp, hgroup, hblock, hmask⟩
  obtain ⟨hrole, b, hb, hbmask, -, -⟩ := (formed_some hformed).listed bot role hbot
  unfold formed at hformed
  rw [hseed] at hformed
  dsimp only at hformed
  split_ifs at hformed with hnone hdone
  cases hformed
  rw [not_or, Bool.not_eq_true, isSome_eq_false_iff, isNone_iff_eq_none, not_not] at hnone
  have hmem : player ∈ s.getQueueOrder := by
    have halone : player ∈ s.block (p.blockLeader player) := by
      rw [hblock]
      exact mem_singleton_self player
    exact (mem_filter.1 halone).1
  obtain ⟨before, after, horder⟩ := append_of_mem hmem
  have hbefore : ∀ g ∈ before, g ∈ s.getQueueOrder := by
    rw [horder]
    exact fun g hg => mem_append_left _ hg
  have hrest : ∀ g ∈ player :: after, g ∈ s.getQueueOrder := by
    rw [horder]
    exact fun g hg => mem_append_right before hg
  have hall := selectAll_fitted w dungeon seed ⟨∅, zero⟩ hbefore
  generalize hm : before.foldl (select w s dungeon seed) ⟨∅, zero⟩ = m at hall
  have hend : s.getQueueOrder.foldl (select w s dungeon seed) ⟨∅, zero⟩ =
      (player :: after).foldl (select w s dungeon seed) m := by
    rw [horder, foldl_append, hm]
  rw [hend] at hbot hout
  have hlater := (selectAll_fitted w dungeon seed m hrest).1
  -- the bot is not selected before the player's turn
  have hlate : m.roles.lookup bot = none := by
    by_contra hsome
    rcases hall.2 bot (isSome_iff_ne_none.2 hsome) with hempty | ⟨b', hb', hgroup', other, hother, hother'⟩
    · cases hempty
    cases hb.symm.trans hb'.1
    exact h guid seed bot b player p role ⟨hseed, hnone.1, hnone.2⟩ hfill hb' hgroup' hreal hp hgroup hblock hrole hbmask hmask
      before after horder other hother' hother
  have hopen : m.count.of role < roleCap role := by
    rcases hlater.opened bot role hbot with hold | ⟨-, hopen⟩
    · rw [hlate] at hold
      cases hold
    · exact hopen
  have houtside : m.roles.lookup player = none := by
    cases hlookup : m.roles.lookup player with
    | none => rfl
    | some r =>
      rw [hlater.kept player r hlookup] at hout
      cases hout
  have hroom : ¬ 5 ≤ m.roles.entries.length := by
    intro hfull
    rw [selectAll_full _ hfull, hlate] at hbot
    cases hbot
  have hpick : pickRole p.roleMask m.count ≠ 0 := by
    intro hzero
    have hle := pickRole_zero hzero hrole hmask
    omega
  have hchosen := select_alone hp hgroup hblock houtside hroom hpick
  have hkept := (selectAll_fitted w dungeon seed (select w s dungeon seed m player)
    fun g hg => hrest g (mem_cons_of_mem player hg)).1.kept player _ hchosen
  rw [foldl_cons, hkept] at hout
  cases hout

/-! ### Runs -/

def tries (w : LFTWorld) : List String → LFTManager → List (LFTWorld × LFTManager × String)
  | [], _ => []
  | dungeon :: dungeons, s => (w, s, dungeon) :: tries w dungeons (tryBuildOfferForInstance w s dungeon)

def answered (w : LFTWorld) (rolecheck : PendingRolecheck) (s : LFTManager) : Option (LFTWorld × LFTManager) :=
  if rolecheck.isAnswered then some (w, takeIn w rolecheck s) else none

/-- The finder as it is when an event comes to make offers, if it does. -/
def matching (s : LFTManager) : LFTEvent → Option (LFTWorld × LFTManager)
  | .queueJoin guid requested roles w =>
    if mayJoin w s guid requested roles then
      answered w (newRolecheck w (s.cleanupPlayer guid) guid (getSharedInstances requested)) (s.cleanupPlayer guid)
    else none
  | .meetingStone guid areaId w =>
    if (stoneInstances w s guid areaId).isEmpty then none
    else answered w (newRolecheck w (s.cleanupPlayer guid) guid (stoneInstances w s guid areaId)) (s.cleanupPlayer guid)
  | .queueLeave guid w =>
    match s.rolecheckOf guid, s.playerOffers.lookup guid with
    | none, some id => some (w, s.cancelOffer id true guid true)
    | _, _ => none
  | .rolecheckResponse guid roles w =>
    let roleMask := parseRoleMask roles &&& allowedRoleMask (w.player guid).playerClass
    if roleMask = 0 then none
    else
      match s.rolecheckOf guid with
      | none => none
      | some e => answered w (e.2.respond guid roleMask) { s with rolechecks := s.rolechecks.erase e.1 }
  | .update diff w => some (w, updateOffers diff (updateRolechecks diff (updateBotFill w diff s).sweepAbsent))
  | .offerAccept .. | .logout .. | .realm .. => none

def tried (s : LFTManager) (e : LFTEvent) : List (LFTWorld × LFTManager × String) :=
  match s.matching e with
  | none => []
  | some (w, s₁) => tries w s₁.wanted s₁

theorem startRolecheck_answered {instances : List String}
    (h : answered w (newRolecheck w s leader instances) s = some (w', s₁)) : startRolecheck w s leader instances = tryMakeOffers w' s₁ := by
  unfold answered at h
  split_ifs at h with hanswered
  cases h
  exact if_pos hanswered

theorem step_matching (h : s.matching e = some (w, s₁)) : s.step e = tryMakeOffers w s₁ := by
  cases e with
  | queueJoin guid requested roles w' =>
    unfold matching at h
    dsimp only at h
    split_ifs at h with hjoin
    exact (if_pos hjoin).trans (startRolecheck_answered h)
  | meetingStone guid areaId w' =>
    unfold matching at h
    dsimp only at h
    split_ifs at h with hempty
    exact (if_neg hempty).trans (startRolecheck_answered h)
  | queueLeave guid w' =>
    unfold matching at h
    unfold step handleQueueLeave
    dsimp only at h ⊢
    cases hcheck : s.rolecheckOf guid with
    | some e =>
      rw [hcheck] at h
      cases h
    | none =>
      rw [hcheck] at h
      cases hid : s.playerOffers.lookup guid with
      | none =>
        rw [hid] at h
        cases h
      | some id =>
        rw [hid] at h
        cases h
        rfl
  | rolecheckResponse guid roles w' =>
    unfold matching at h
    unfold step handleRolecheckResponse
    dsimp only at h ⊢
    split_ifs at h with hzero
    rw [if_neg hzero]
    cases hcheck : s.rolecheckOf guid with
    | none =>
      rw [hcheck] at h
      cases h
    | some e =>
      rw [hcheck] at h
      dsimp only at h ⊢
      unfold answered at h
      split_ifs at h with hanswered
      cases h
      exact if_pos hanswered
  | update diff w' =>
    cases h
    rfl
  | offerAccept | logout | realm => cases h

/-! The ids of offers. -/

theorem nextOfferId_foldl {α : Type} {f : LFTManager → α → LFTManager} (hf : ∀ s a, (f s a).nextOfferId = s.nextOfferId)
    (l : List α)
    (s : LFTManager) : (l.foldl f s).nextOfferId = s.nextOfferId := by
  induction l generalizing s with
  | nil => rfl
  | cons a l ih => exact (ih (f s a)).trans (hf s a)

theorem nextOfferId_cancelOffer (s : LFTManager) (id : Nat) (requeueAccepted : Bool) (removeGuid : Nat) (requeueOthers : Bool) :
    (s.cancelOffer id requeueAccepted removeGuid requeueOthers).nextOfferId = s.nextOfferId := by
  cases ho : s.offers.lookup id with
  | none =>
    unfold cancelOffer
    rw [ho]
  | some o => exact (cancelOffer_ended ho requeueAccepted removeGuid requeueOthers).nextOfferId

theorem nextOfferId_cleanupPlayer (s : LFTManager) (guid : Nat) : (s.cleanupPlayer guid).nextOfferId = s.nextOfferId := by
  unfold cleanupPlayer
  dsimp only
  cases s.playerOffers.lookup guid with
  | none => rfl
  | some id => exact nextOfferId_cancelOffer _ id true guid true

theorem nextOfferId_takeIn (w : LFTWorld) (rolecheck : PendingRolecheck) (s : LFTManager) :
    (takeIn w rolecheck s).nextOfferId = s.nextOfferId := (enqueueMembers_only w rolecheck s).nextOfferId

theorem nextOfferId_handleOfferAccept (w : LFTWorld) (s : LFTManager) (guid : Nat) :
    (handleOfferAccept w s guid).nextOfferId = s.nextOfferId := by
  unfold handleOfferAccept
  cases s.playerOffers.lookup guid with
  | none => rfl
  | some id =>
    dsimp only
    cases s.offers.lookup id with
    | none => rfl
    | some o =>
      dsimp only
      split_ifs
      · exact (completeOffer_ended (lookup_insert ..) w).nextOfferId
      · rfl

theorem nextOfferId_updateBotFill (w : LFTWorld) (diff : Nat) (s : LFTManager) :
    (updateBotFill w diff s).nextOfferId = s.nextOfferId := by
  have haccept : (acceptOffersForFillBots w s).nextOfferId = s.nextOfferId := by
    refine nextOfferId_foldl (fun s id => ?_) _ s
    unfold acceptForBots
    cases s.offers.lookup id with
    | none => rfl
    | some o =>
      refine nextOfferId_foldl (fun s e => ?_) _ s
      unfold acceptForBot
      cases s.offers.lookup id with
      | none => rfl
      | some o =>
        dsimp only
        split_ifs
        · rfl
        · exact nextOfferId_handleOfferAccept w _ e.1
  unfold updateBotFill
  dsimp only
  split_ifs
  · exact (dropUnneededFillBots_only _).nextOfferId.trans haccept
  · exact haccept
  refine (nextOfferId_foldl (fun s (entry : String × QueuedPlayer) => (fillInstanceWithBots_only w s entry.1 entry.2).nextOfferId) _
    _).trans ?_
  refine (seedBotOnlyQueue_only w _).nextOfferId.trans ?_
  exact (dropUnneededFillBots_only _).nextOfferId.trans haccept

theorem nextOfferId_updateOffers (diff : Nat) (s : LFTManager) : (updateOffers diff s).nextOfferId = s.nextOfferId := by
  refine nextOfferId_foldl (fun s id => ?_) _ s
  unfold updateOffer
  cases s.offers.lookup id with
  | none => rfl
  | some o =>
    dsimp only
    split_ifs
    · exact nextOfferId_cancelOffer s id true 0 false
    · rfl

theorem answered_ready {rolecheck : PendingRolecheck} (h : answered w rolecheck s = some (w', s₁))
    (hs : s.Coherent) : s₁.Coherent ∧ s₁.nextOfferId = s.nextOfferId := by
  unfold answered at h
  split_ifs at h
  cases h
  exact ⟨(hs.queueOnly (enqueueMembers_only w rolecheck s)).of_offers rfl rfl rfl, nextOfferId_takeIn w rolecheck s⟩

theorem matching_ready (h : s.matching e = some (w, s₁)) (hs : s.Coherent) : s₁.Coherent ∧ s₁.nextOfferId = s.nextOfferId := by
  cases e with
  | queueJoin guid requested roles w' =>
    unfold matching at h
    dsimp only at h
    split_ifs at h with hjoin
    obtain ⟨hcoherent, hnext⟩ := answered_ready h (hs.cleanupPlayer guid)
    exact ⟨hcoherent, hnext.trans (nextOfferId_cleanupPlayer s guid)⟩
  | meetingStone guid areaId w' =>
    unfold matching at h
    dsimp only at h
    split_ifs at h with hempty
    obtain ⟨hcoherent, hnext⟩ := answered_ready h (hs.cleanupPlayer guid)
    exact ⟨hcoherent, hnext.trans (nextOfferId_cleanupPlayer s guid)⟩
  | queueLeave guid w' =>
    unfold matching at h
    dsimp only at h
    split at h
    · cases h
      exact ⟨hs.cancelOffer _ true guid true, nextOfferId_cancelOffer s _ true guid true⟩
    · cases h
  | rolecheckResponse guid roles w' =>
    unfold matching at h
    dsimp only at h
    split_ifs at h
    cases hcheck : s.rolecheckOf guid with
    | none =>
      rw [hcheck] at h
      cases h
    | some e =>
      rw [hcheck] at h
      have hchecks : ({ s with rolechecks := s.rolechecks.erase e.1 } : LFTManager).Coherent := hs.of_offers rfl rfl rfl
      obtain ⟨hcoherent, hnext⟩ := answered_ready h hchecks
      exact ⟨hcoherent, hnext⟩
  | update diff w' =>
    cases h
    have hfill := hs.updateBotFill w diff
    have hsweep : (updateBotFill w diff s).sweepAbsent.Coherent := hfill.of_offers rfl rfl rfl
    have hchecks : (updateRolechecks diff (updateBotFill w diff s).sweepAbsent).Coherent := hsweep.of_offers rfl rfl rfl
    exact ⟨hchecks.updateOffers diff, (nextOfferId_updateOffers diff _).trans (nextOfferId_updateBotFill w diff s)⟩
  | offerAccept | logout | realm => cases h

/-- Where nothing is matched no offer is made. -/
theorem step_unmatched (h : s.matching e = none) : (s.step e).nextOfferId = s.nextOfferId := by
  have hstart : ∀ (s : LFTManager) (w : LFTWorld) (leader : Nat) (instances : List String),
      answered w (newRolecheck w s leader instances) s = none → (startRolecheck w s leader instances).nextOfferId = s.nextOfferId := by
    intro s w leader instances hnone
    unfold answered at hnone
    unfold startRolecheck
    dsimp only
    split_ifs at hnone with hanswered
    rw [if_neg hanswered]
  cases e with
  | queueJoin guid requested roles w' =>
    unfold matching at h
    unfold step handleQueueJoin
    dsimp only at h ⊢
    split_ifs at h ⊢
    · exact (hstart _ w' guid _ h).trans (nextOfferId_cleanupPlayer s guid)
    · rfl
  | meetingStone guid areaId w' =>
    unfold matching at h
    unfold step joinFromMeetingStone
    dsimp only at h ⊢
    split_ifs at h ⊢
    · rfl
    · exact (hstart _ w' guid _ h).trans (nextOfferId_cleanupPlayer s guid)
  | queueLeave guid w' =>
    unfold matching at h
    unfold step handleQueueLeave
    dsimp only at h ⊢
    cases hcheck : s.rolecheckOf guid with
    | some e => rfl
    | none =>
      rw [hcheck] at h
      cases hid : s.playerOffers.lookup guid with
      | some id =>
        rw [hid] at h
        cases h
      | none =>
        dsimp only
        cases s.queue.lookup guid <;> rfl
  | rolecheckResponse guid roles w' =>
    unfold matching at h
    unfold step handleRolecheckResponse
    dsimp only at h ⊢
    split_ifs at h ⊢
    · rfl
    cases hcheck : s.rolecheckOf guid with
    | none => rfl
    | some e =>
      rw [hcheck] at h
      dsimp only at h ⊢
      unfold answered at h
      split_ifs at h with hanswered
      rw [if_neg hanswered]
  | update diff w' => cases h
  | offerAccept guid w' => exact nextOfferId_handleOfferAccept w' s guid
  | logout guid => exact nextOfferId_cleanupPlayer s guid
  | realm e => cases e <;> rfl

/-! Where an offer comes from. -/

/-- An offer for a dungeon that formed around a player of the queue. -/
structure BuiltFrom (o : Offer) (w : LFTWorld) (s : LFTManager) (guid : Nat) : Prop where
  built : o.built = s.queue
  formed : LFTManager.formed w s o.dungeon guid = some o.roles

theorem tries_old (w : LFTWorld) (dungeons : List String) (s : LFTManager) (hid : id < s.nextOfferId) :
    (dungeons.foldl (tryBuildOfferForInstance w) s).offers.lookup id = s.offers.lookup id := by
  induction dungeons generalizing s with
  | nil => rfl
  | cons dungeon dungeons ih =>
    rw [foldl_cons]
    rcases tryBuildOffer_cases w s dungeon with hsame | ⟨roles, hbuilt⟩
    · rw [hsame]
      exact ih s hid
    · rw [ih _ (by rw [hbuilt.nextOfferId]; omega), hbuilt.offers, lookup_insert_ne (Nat.ne_of_lt hid)]

theorem tries_new (w : LFTWorld) (dungeons : List String) (s : LFTManager) (hs : s.Coherent)
    (ho : (dungeons.foldl (tryBuildOfferForInstance w) s).offers.lookup id = some o) (hid : s.nextOfferId ≤ id) :
    ∃ s₁ guid, (w, s₁, o.dungeon) ∈ tries w dungeons s ∧ BuiltFrom o w s₁ guid := by
  induction dungeons generalizing s with
  | nil => exact absurd (hs.fresh id o ho) (by omega)
  | cons dungeon dungeons ih =>
    rw [foldl_cons] at ho
    have hlater : (tryBuildOfferForInstance w s dungeon).Coherent → (tryBuildOfferForInstance w s dungeon).nextOfferId ≤ id →
        ∃ s₁ guid, (w, s₁, o.dungeon) ∈ tries w (dungeon :: dungeons) s ∧ BuiltFrom o w s₁ guid := by
      intro hcoherent hnext
      obtain ⟨s₁, guid, hmem, hfrom⟩ := ih _ hcoherent ho hnext
      exact ⟨s₁, guid, mem_cons_of_mem _ hmem, hfrom⟩
    rcases tryBuildOffer_formed w s dungeon with hsame | ⟨guid, roles, hformed, hbuilt⟩
    · rw [hsame] at hlater
      exact hlater hs hid
    by_cases heq : id = s.nextOfferId
    · rw [tries_old w dungeons _ (by rw [hbuilt.nextOfferId]; omega), hbuilt.offers, heq, lookup_insert] at ho
      cases ho
      exact ⟨s, guid, mem_cons_self, rfl, hformed⟩
    · exact hlater (hs.built hbuilt) (by rw [hbuilt.nextOfferId]; omega)

theorem offer_tried (hs : s.Coherent) (ho : (s.step e).offers.lookup id = some o)
    (hid : s.nextOfferId ≤ id) : ∃ w s₁ guid, (w, s₁, o.dungeon) ∈ s.tried e ∧ BuiltFrom o w s₁ guid := by
  cases hmatching : s.matching e with
  | none =>
    have hfresh := (hs.step e).fresh id o ho
    rw [step_unmatched hmatching] at hfresh
    omega
  | some found =>
    obtain ⟨w, s₁⟩ := found
    obtain ⟨hcoherent, hnext⟩ := matching_ready hmatching hs
    rw [step_matching hmatching] at ho
    obtain ⟨s₂, guid, hmem, hfrom⟩ := tries_new w s₁.wanted s₁ hcoherent ho (hnext ▸ hid)
    refine ⟨w, s₂, guid, ?_, hfrom⟩
    unfold tried
    rw [hmatching]
    exact hmem

/-- Every dungeon is tried in order. -/
def TriedInOrder (s : LFTManager) (e : LFTEvent) : Prop := ∀ b ∈ s.tried e, InOrder b.1 b.2.1 b.2.2

/-- A new offer is built from a queue in which nobody is overlooked for it. -/
def NobodyOverlooked (s : LFTManager) (e : LFTEvent) (o : Offer) : Prop :=
  ∃ w s₁ guid seed, (w, s₁, o.dungeon) ∈ s.tried e ∧ BuiltFrom o w s₁ guid ∧ s₁.queue.lookup guid = some seed ∧
    ∀ bot player, ¬ Overlooked w s₁ o.dungeon seed o.roles bot player

/-- In every run in which the offers are tried in order, no offer that is built leaves a real player out for a fill bot. -/
theorem real_players_first {es : List LFTEvent} (h : Runs.Admitted LFTManager.step TriedInOrder start es) {n : Nat} {e : LFTEvent}
    (he : es[n]? = some e) {id : Nat} {o : Offer} (hid : (Runs.run LFTManager.step start (es.take n)).nextOfferId ≤ id)
    (ho : (Runs.run LFTManager.step start (es.take (n + 1))).offers.lookup id = some o) :
    NobodyOverlooked (Runs.run LFTManager.step start (es.take n)) e o := by
  obtain ⟨hinorder, hstep⟩ := h.getElem? he
  rw [hstep] at ho
  obtain ⟨w, s₁, guid, hmem, hfrom⟩ := offer_tried (offers_coherent (es.take n)) ho hid
  cases hseed : s₁.queue.lookup guid with
  | none =>
    have hformed := hfrom.formed
    unfold formed at hformed
    rw [hseed] at hformed
    cases hformed
  | some seed =>
    exact ⟨w, s₁, guid, seed, hmem, hfrom, hseed, (hinorder _ hmem).playersFirst guid seed o.roles hseed hfrom.formed⟩

/-- Nobody is overlooked where one real player at most waits, and came first. -/
theorem inOrder_of_first
    (h : ∀ e ∈ s.queue.entries, e.1 ∉ s.fillBots → s.getQueueOrder.head? = some e.1) : InOrder w s dungeon := by
  intro guid seed bot b player p role hseed hbot hb hbgroup hplayer hp hpgroup hblock hrole hbmask hpmask before after horder other hother
  have hfirst := h ⟨player, p⟩ (lookup_eq_some_iff.1 hp.1) hplayer
  have hnodup := s.getQueueOrder_nodup
  rw [horder] at hfirst hnodup
  cases before with
  | nil => exact not_mem_nil
  | cons first before =>
    cases hfirst
    exact absurd (mem_append_right before mem_cons_self) (nodup_cons.1 hnodup).1

/-- A world with random bots, which are a warrior, a priest and mages; of the players 2 is a priest, and 9 is a warrior. -/
def fillers (bots : List Nat) : LFTWorld :=
  { warriors with
    player := fun guid =>
      { warriors.player guid with
        playerClass := if guid = 9 ∨ guid = 11 then .warrior else if guid = 2 ∨ guid = 12 then .priest else .mage
        aiControlled := 11 ≤ guid
        randomBot := 11 ≤ guid
        allowedRoles := fun _ => 7 }
    players := bots
    botFill := true }

def filledUp (bots : List Nat) : List LFTEvent :=
  ([1, 2, 9] ++ bots).map (fun guid => .realm (.enterWorld guid)) ++
    [.queueJoin 1 ["wc"] "d" (fillers bots), .rolecheckResponse 1 "d" (fillers bots), .update 1 (fillers bots)]

theorem real_players_first_filled : ∃ o, (Runs.run LFTManager.step start (filledUp [11, 12, 13, 14])).offers.lookup 1 = some o ∧
      NobodyOverlooked (Runs.run LFTManager.step start ((filledUp [11, 12, 13, 14]).take 9)) (.update 1 (fillers [11, 12, 13, 14])) o := by
  have hadmitted : Admitted step TriedInOrder start (filledUp [11, 12, 13, 14]) := by
    have hfirst : Admitted step (fun s e => ∀ b ∈ s.tried e, ∀ x ∈ b.2.1.queue.entries, x.1 ∉ b.2.1.fillBots →
        b.2.1.getQueueOrder.head? = some x.1) start (filledUp [11, 12, 13, 14]) := by
      decide +kernel
    exact hfirst.imp_mem fun s e _ h b hb => inOrder_of_first (h b hb)
  have hnext : (run step start ((filledUp [11, 12, 13, 14]).take 9)).nextOfferId ≤ 1 := by decide +kernel
  obtain ⟨o, ho⟩ : ∃ o, (run step start (filledUp [11, 12, 13, 14])).offers.lookup 1 = some o :=
    isSome_iff_exists.1 (by decide +kernel)
  exact ⟨o, ho, real_players_first hadmitted (n := 9) rfl hnext ho⟩

def tankTooLate : List LFTEvent :=
  filledUp [11, 13, 14] ++
    [.queueJoin 9 ["wc"] "t" (fillers [11, 13, 14]), .rolecheckResponse 9 "t" (fillers [11, 13, 14]),
      .queueJoin 2 ["wc"] "h" (fillers [11, 13, 14]), .rolecheckResponse 2 "h" (fillers [11, 13, 14])]

/-- The bot that came before the tank has the role. -/
theorem not_real_players_first : ¬ ∀ (es : List LFTEvent) (n : Nat) (e : LFTEvent) (id : Nat) (o : Offer), es[n]? = some e →
      (Runs.run LFTManager.step start (es.take n)).nextOfferId ≤ id →
        (Runs.run LFTManager.step start (es.take (n + 1))).offers.lookup id = some o →
          NobodyOverlooked (Runs.run LFTManager.step start (es.take n)) e o := by
  intro h
  have hoffer : ((run step start tankTooLate).offers.lookup 1).any
      (fun o => o.roles.lookup 9 = none ∧ o.roles.lookup 11 = some lftRoleTank) = true := by
    decide +kernel
  obtain ⟨o, ho, hroles⟩ := (any_eq_true _ _).1 hoffer
  obtain ⟨hout, hseat⟩ := of_decide_eq_true hroles
  obtain ⟨w, s₁, guid, seed, htried, -, hseed, hnobody⟩ :=
    h tankTooLate 12 (.rolecheckResponse 2 "h" (fillers [11, 13, 14])) 1 o rfl (by decide +kernel) ho
  have hwaits : ∀ b ∈ (Runs.run LFTManager.step start (tankTooLate.take 12)).tried (.rolecheckResponse 2 "h" (fillers [11, 13, 14])),
      11 ∈ b.2.1.fillBots ∧ 9 ∉ b.2.1.fillBots ∧ b.2.1.playerOffers.lookup 9 = none ∧ b.2.2 = "wc" ∧
        (b.2.1.queue.lookup 9).any (fun q => "wc" ∈ q.instances ∧ b.2.1.block (q.blockLeader 9) = [9] ∧ q.roleMask &&& lftRoleTank ≠ 0 ∧
          ∀ x ∈ b.2.1.queue.entries, canQueuedPlayersGroup b.1 b.2.1 x.2 q = true) = true := by
    decide +kernel
  obtain ⟨hbot, hreal, hfree, hdungeon, hq⟩ := hwaits _ htried
  dsimp only at hbot hreal hfree hdungeon hq
  obtain ⟨q, hlookup, hq⟩ := (any_eq_true _ _).1 hq
  obtain ⟨hlisted, hblock, hmask, hgroup⟩ := of_decide_eq_true hq
  rw [hdungeon] at hnobody
  exact hnobody 11 9 ⟨hbot, hreal, hout, lftRoleTank, q, hseat, ⟨hlookup, hfree, hlisted⟩,
    hgroup ⟨guid, seed⟩ (lookup_eq_some_iff.1 hseed), hblock, hmask⟩

end LFTManager

end ComfyCraft
