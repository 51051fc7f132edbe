import ComfyCraft.Battlegrounds.Coherent
import ComfyCraft.Battlegrounds.Handlers
import ComfyCraft.Lib.Runs

/-! The queue over every run: it stays in order as long as nobody joins who is queued already. -/

namespace ComfyCraft.BattleGroundMgr

open List State Nat

variable {q : Queue} {s : State} {conf : Conf} {w : World}

/-! ### The lists -/

namespace Queue

theorem Coherent.shuffleList (h : Coherent q) (w : World) (n : Nat) (b : BattleGroundBracketId) (j : Nat) :
    Coherent (shuffleList w n b q j) := by
  have hperm : (w.shuffle ((q.m_QueuedGroups b j).take n) ++ (q.m_QueuedGroups b j).drop n).Perm (q.m_QueuedGroups b j) := by
    have := (w.shuffle_perm ((q.m_QueuedGroups b j).take n)).append_right ((q.m_QueuedGroups b j).drop n)
    rwa [take_append_drop] at this
  have hmem : ∀ b' j' i, i ∈ (BattleGroundMgr.shuffleList w n b q j).m_QueuedGroups b' j' ↔ i ∈ q.m_QueuedGroups b' j' := by
    intro b' j' i
    unfold BattleGroundMgr.shuffleList
    rw [mem_setList]
    split
    · rename_i hplace
      rw [hplace.1, hplace.2, hperm.mem_iff]
    · rfl
  refine h.relisted (fun b' j' => ?_) (fun b' j' i hi => ⟨j', (hmem b' j' i).1 hi, .inl rfl⟩)
    (fun b' j' j'' i hi hi' => (h.unique b' j' b' j'' i ((hmem b' j' i).1 hi) ((hmem b' j'' i).1 hi')).2)
    (fun b' j' i hi => ⟨j', (hmem b' j' i).2 hi⟩)
  split
  · exact hperm.nodup_iff.2 (h.nodup b j)
  · exact h.nodup b' j'

theorem Coherent.demote (h : Coherent q) (conf : Conf) (now : UInt32) (mt : Match) (b : BattleGroundBracketId) (team : Team) :
    Coherent (demote conf now mt b q team) := by
  unfold BattleGroundMgr.demote
  cases hlist : q.m_QueuedGroups b team.index with
  | nil => exact h
  | cons id rest =>
    dsimp only
    cases hg : q.groups id with
    | none => exact h
    | some g =>
      dsimp only
      split
      · have hid : id ∈ q.m_QueuedGroups b team.index := by rw [hlist]; exact mem_cons_self
        have hnodup : (id :: rest).Nodup := hlist ▸ h.nodup b team.index
        have hnot : id ∉ rest := (nodup_cons.1 hnodup).1
        have hteam : team.index < 2 := by cases team <;> decide
        have hmem : ∀ b' j' i, i ∈ ((q.setList b (team.index + 2) (q.m_QueuedGroups b (team.index + 2) ++ [id])).setList b
            team.index rest).m_QueuedGroups b' j' ↔
              i ∈ q.m_QueuedGroups b' j' ∧ i ≠ id ∨ i = id ∧ b' = b ∧ j' = team.index + 2 := by
          intro b' j' i
          rw [mem_setList, mem_setList]
          by_cases hfrom : b' = b ∧ j' = team.index
          · obtain ⟨rfl, rfl⟩ := hfrom
            rw [if_pos ⟨rfl, rfl⟩, hlist, mem_cons]
            constructor
            · exact fun hi => .inl ⟨.inr hi, fun hcon => hnot (hcon ▸ hi)⟩
            · rintro (⟨hi, hne⟩ | ⟨_, _, hcon⟩)
              · exact hi.resolve_left hne
              · omega
          · rw [if_neg hfrom]
            have hold : id ∉ q.m_QueuedGroups b' j' := fun hcon => hfrom (h.unique b' j' b team.index id hcon hid)
            by_cases hto : b' = b ∧ j' = team.index + 2
            · obtain ⟨rfl, rfl⟩ := hto
              rw [if_pos ⟨rfl, rfl⟩, mem_append, mem_singleton]
              constructor
              · rintro (hi | rfl)
                · exact .inl ⟨hi, fun hcon => hold (hcon ▸ hi)⟩
                · exact .inr ⟨rfl, rfl, rfl⟩
              · exact fun hi => hi.imp (fun hi => hi.1) fun hi => hi.1
            · rw [if_neg hto]
              constructor
              · exact fun hi => .inl ⟨hi, fun hcon => hold (hcon ▸ hi)⟩
              · rintro (hi | ⟨_, hcon⟩)
                · exact hi.1
                · exact absurd hcon hto
        refine h.relisted (fun b' j' => ?_) (fun b' j' i hi => ?_) (fun b' j' j'' i hi hi' => ?_) (fun b' j' i hi => ?_)
        · split
          · exact (nodup_cons.1 hnodup).2
          unfold Queue.setList
          dsimp only
          split
          · refine List.Nodup.append (h.nodup _ _) (nodup_singleton _) ?_
            have hne : id ∉ q.m_QueuedGroups b (team.index + 2) := fun hcon => by
              have := (h.unique b (team.index + 2) b team.index id hcon hid).2
              omega
            simpa using hne
          · exact h.nodup b' j'
        · rcases (hmem b' j' i).1 hi with ⟨hi, _⟩ | ⟨rfl, rfl, rfl⟩
          · exact ⟨j', hi, .inl rfl⟩
          · exact ⟨team.index, hid, .inr ⟨rfl, hteam⟩⟩
        · rcases (hmem b' j' i).1 hi with ⟨hi, hne⟩ | ⟨rfl, rfl, rfl⟩ <;>
            rcases (hmem _ j'' _).1 hi' with ⟨hi', hne'⟩ | ⟨heq, _, rfl⟩
          · exact (h.unique b' j' b' j'' i hi hi').2
          · exact absurd heq hne
          · exact absurd rfl hne'
          · rfl
        · by_cases heq : i = id
          · subst heq
            obtain ⟨rfl, rfl⟩ := h.unique b' j' b team.index i hi hid
            exact ⟨team.index + 2, (hmem _ _ _).2 (.inr ⟨rfl, rfl, rfl⟩)⟩
          · exact ⟨j', (hmem _ _ _).2 (.inl ⟨hi, heq⟩)⟩
      · exact h

end Queue

/-! ### What leaves the queue alone -/

namespace State

@[simp] theorem updateBG_queue (s : State) (b : Nat) (f : BattleGround → BattleGround) : (s.updateBG b f).queue = s.queue := by
  unfold updateBG
  split <;> rfl

@[simp] theorem setPlayer_queue (s : State) (guid : Guid) (f : PlayerData → PlayerData) :
    (s.setPlayer guid f).queue = s.queue := rfl

@[simp] theorem addBattleGroundQueueId_queue (s : State) (guid : Guid) (hasFree : Bool) :
    (s.addBattleGroundQueueId guid hasFree).queue = s.queue := rfl

theorem invitePlayer_queue (s : State) (b : Nat) (team : Team) (guid : Guid) : (s.invitePlayer b team guid).queue = s.queue :=
  updateBG_queue ..

theorem foldl_queue {α : Type} {f : State → α → State} (hf : ∀ s a, (f s a).queue = s.queue) (l : List α) (s : State) :
    (l.foldl f s).queue = s.queue := by
  induction l generalizing s with
  | nil => rfl
  | cons a rest ih => rw [foldl_cons, ih, hf]

theorem removePlayerAtLeave_queue (s : State) (b : Nat) (guid : Guid) : (s.removePlayerAtLeave b guid).queue = s.queue := by
  unfold removePlayerAtLeave
  split
  · rfl
  rw [setPlayer_queue]
  split
  · rfl
  · dsimp only
    split <;> rfl

theorem leaveBattleground_queue (s : State) (guid : Guid) : (s.leaveBattleground guid).queue = s.queue := by
  unfold leaveBattleground
  split
  · rfl
  · exact removePlayerAtLeave_queue ..

theorem worldportAck_queue (s : State) (guid : Guid) : (s.worldportAck guid).queue = s.queue := by
  unfold worldportAck
  split
  · rfl
  dsimp only
  split
  · exact updateBG_queue ..
  · rfl

theorem battleGroundUpdate_queue (s : State) (b : Nat) (timeOver : Bool) : (s.battleGroundUpdate b timeOver).queue = s.queue := by
  unfold battleGroundUpdate
  split
  · rfl
  split
  · exact foldl_queue (fun s guid => removePlayerAtLeave_queue s b guid) _ _
  · split <;> rfl

/-! ### What keeps it in order -/

section

variable (h : s.queue.Coherent)
include h

theorem removePlayer_coherent (guid : Guid) (decrease : Bool) : (s.removePlayer guid decrease).queue.Coherent := by
  unfold removePlayer
  cases hq : s.queue.groupOf guid with
  | none => exact h
  | some found =>
    dsimp only
    split
    · rw [updateBG_queue]
      exact h.removePlayer hq
    · exact h.removePlayer hq

theorem leaveQueue_coherent (guid : Guid) : (s.leaveQueue guid).queue.Coherent :=
  removePlayer_coherent (s := s.removeBattleGroundQueueId guid) h guid true

theorem inviteGroupToBG_coherent (w : World) (b id : Nat) : (s.inviteGroupToBG w b id).queue.Coherent := by
  unfold inviteGroupToBG
  cases hg : s.queue.groups id with
  | none => exact h
  | some g =>
    dsimp only
    split
    · rw [foldl_queue fun s guid => invitePlayer_queue s b g.GroupTeam guid]
      exact h.setGroup hg rfl rfl
    · exact h

theorem inviteAllGroupsToBg_coherent (w : World) (b : Nat) (pools : Pools) :
    (s.inviteAllGroupsToBg w b pools).queue.Coherent := by
  unfold inviteAllGroupsToBg
  generalize (pools .ALLIANCE).SelectedGroups ++ (pools .HORDE).SelectedGroups = l
  induction l generalizing s with
  | nil => exact h
  | cons id rest ih => exact ih (inviteGroupToBG_coherent h w b id)

theorem fillOne_coherent (conf : Conf) (w : World) (bracket : BattleGroundBracketId) (b : Nat) :
    (s.fillOne conf w bracket b).queue.Coherent := by
  unfold fillOne
  cases s.m_BattleGrounds.lookup b with
  | none => exact h
  | some bg =>
    dsimp only
    split
    · split <;> exact inviteAllGroupsToBg_coherent h w b _
    · exact h

theorem startMatch_coherent (conf : Conf) (w : World) (bracket : BattleGroundBracketId) (pools : Pools) :
    (s.startMatch conf w bracket pools).queue.Coherent :=
  inviteAllGroupsToBg_coherent (s := s.createNewBattleGround conf w bracket) h w _ pools

end

theorem normalMatches_coherent (conf : Conf) (w : World) (mt : Match) (bracket : BattleGroundBracketId) (n : Nat)
    (h : s.queue.Coherent) (pools : Pools) : (normalMatches conf w mt bracket n s pools).queue.Coherent := by
  induction n generalizing s pools with
  | zero => exact h
  | succ n ih =>
    unfold normalMatches
    split
    · exact ih (startMatch_coherent h conf w bracket _) _
    · exact ih h _

theorem shuffleNormal_coherent (h : s.queue.Coherent) (w : World) (n : Team → Nat) (b : BattleGroundBracketId) :
    (s.shuffleNormal w n b).queue.Coherent := (h.shuffleList w _ b 2).shuffleList w _ b 3

theorem checkPremadeMatch_coherent (h : q.Coherent) (conf : Conf) (w : World) (mt : Match) (b : BattleGroundBracketId)
    (pools : Pools) :
    (checkPremadeMatch conf w mt b q pools).1.Coherent := by
  unfold checkPremadeMatch
  dsimp only
  split
  · exact h
  · exact (h.demote conf w.now mt b .ALLIANCE).demote conf w.now mt b .HORDE

theorem fillAll_coherent (h : s.queue.Coherent) (conf : Conf) (w : World) (bracket : BattleGroundBracketId) (l : List Nat) :
    (l.foldl (fun s b => s.fillOne conf w bracket b) s).queue.Coherent := by
  induction l generalizing s with
  | nil => exact h
  | cons b rest ih => exact ih (fillOne_coherent h conf w bracket b)

theorem fillRunning_coherent (h : s.queue.Coherent) (conf : Conf) (w : World) (b : BattleGroundBracketId) :
    (s.fillRunning conf w b).queue.Coherent := by
  unfold fillRunning
  split
  · exact fillAll_coherent (shuffleNormal_coherent h w _ b) conf w b _
  · exact fillAll_coherent h conf w b _

theorem newMatches_coherent (h : s.queue.Coherent) (conf : Conf) (w : World) (b : BattleGroundBracketId) :
    (s.newMatches conf w b).queue.Coherent := by
  unfold newMatches
  dsimp only
  generalize hs : (if conf.isAV && conf.avMinPlayersInQueue ≠ 0 && !conf.isTesting && (matchSettings conf s b).1 ≠ 0 then
    s.shuffleNormal w (fun _ => conf.avMinPlayersInQueue) b else s) = s₁
  have h₁ : s₁.queue.Coherent := by
    rw [← hs]
    split
    · exact shuffleNormal_coherent h w _ b
    · exact h
  have hq := checkPremadeMatch_coherent h₁ conf w (matchSettings conf s b).2 b Pools.init
  rcases hcheck : checkPremadeMatch conf w (matchSettings conf s b).2 b s₁.queue Pools.init with ⟨q, pools, found⟩
  rw [hcheck] at hq
  cases found with
  | true => exact normalMatches_coherent conf w _ b _ (startMatch_coherent (s := { s₁ with queue := q }) hq conf w b pools) _
  | false => exact normalMatches_coherent (s := { s₁ with queue := q }) conf w _ b _ hq _

theorem removeStale_coherent (w : World) (connected : Guid → Bool) (fuel : Nat) (h : s.queue.Coherent) :
    (removeStale w connected fuel s).queue.Coherent := by
  induction fuel generalizing s with
  | zero => exact h
  | succ fuel ih =>
    unfold removeStale
    split
    · exact h
    rename_i guid _
    refine ih (removePlayer_coherent ?_ guid true)
    split <;> exact h

section

variable (h : s.queue.Coherent)
include h

theorem update_coherent (conf : Conf) (w : World) (connected : Guid → Bool) (b : BattleGroundBracketId) :
    (s.update conf w connected b).queue.Coherent := by
  unfold update matchmake
  have h₁ := removeStale_coherent w connected s.queue.m_QueuedPlayers.entries.length h
  split
  · exact h₁
  · exact newMatches_coherent (fillRunning_coherent h₁ conf w b) conf w b

theorem handleBattleFieldPort_coherent (guid : Guid) (action : Bool) (checks : PortChecks) :
    (s.handleBattleFieldPort guid action checks).queue.Coherent := by
  unfold handleBattleFieldPort
  cases s.queue.groupOf guid with
  | none => exact h
  | some found =>
    dsimp only
    split
    · exact h
    · unfold portToBattleGround
      rw [setPlayer_queue, leaveBattleground_queue]
      exact removePlayer_coherent h guid false
    · exact leaveQueue_coherent h guid

theorem removeEvent_coherent (guid : Guid) (b : Nat) (removeTime : UInt32) :
    (s.removeEvent guid b removeTime).queue.Coherent := by
  unfold removeEvent
  split
  · exact h
  split
  · exact leaveQueue_coherent h guid
  · exact h

theorem logoutPlayer_coherent (guid : Guid) (now : UInt32) : (s.logoutPlayer guid now).queue.Coherent := by
  unfold logoutPlayer
  have h₁ : ((s.worldportAck guid).leaveBattleground guid).queue.Coherent := by
    rw [leaveBattleground_queue, worldportAck_queue]
    exact h
  dsimp only
  split
  · exact h₁.setOnline guid fun _ => rfl
  · exact h₁

theorem playerLoggedIn_coherent (conf : Conf) (guid : Guid) : (s.playerLoggedIn conf guid).queue.Coherent := by
  unfold playerLoggedIn
  split
  · exact h
  split
  · exact h
  · exact h.setOnline guid fun _ => rfl

end

end State

/-! ### Joins -/

def joined (conf : Conf) (s : State) : Event → List Guid
  | .handleBattlemasterJoin guid _ refused =>
    if refused || (s.players guid).bgInstanceID ≠ 0 || (s.players guid).bgQueueSlot.isSome then [] else [guid]
  | .handleBattlemasterJoinAsGroup guid grp joining refused =>
    if refused || (s.players guid).bgInstanceID ≠ 0 || conf.isAV then []
    else if (s.canJoinBattleGroundQueue conf grp 0 conf.m_MaxPlayersPerTeam.toNat joining.GroupTeam).isSome then []
    else (grp.members.map Member.guid).filter fun p => p ∉ State.excludedMembers grp joining.BracketId
  | .addToArenaQueue guid none _ _ refused _ => if refused then [] else [guid]
  | .addToArenaQueue _ (some grp) joining _ refused _ =>
    if refused then []
    else if (s.canJoinBattleGroundQueue conf grp 3 3 joining.GroupTeam).isSome then [] else grp.members.map Member.guid
  | _ => []

/-- Nobody joins who is queued already. -/
def NobodyRejoins (conf : Conf) (s : State) (e : Event) : Prop := ∀ p ∈ joined conf s e, s.queue.m_QueuedPlayers.lookup p = none

instance (conf : Conf) (s : State) (e : Event) : Decidable (NobodyRejoins conf s e) := List.decidableBAll _ _

theorem Group.joins_guids (grp : Group) : grp.joins.map Prod.fst = grp.members.map Member.guid := by
  rw [Group.joins, map_map]
  rfl

theorem addGroup_coherent (h : q.Coherent) (limit : Nat) (joining : Joining) (grp : Group) (excluded : List Guid)
    (hnew : ∀ p ∈ grp.members.map Member.guid, p ∉ excluded → q.m_QueuedPlayers.lookup p = none) :
    (q.addGroup limit joining grp.membersCount grp.joins excluded).Coherent := by
  refine h.addGroup limit _ joining excluded (by rw [grp.joins_guids]; exact grp.members_nodup) fun m hm hnot => ?_
  exact hnew m.1 (by rw [← grp.joins_guids]; exact mem_map_of_mem hm) hnot

theorem step_coherent (h : s.queue.Coherent) (e : Event) (hjoin : NobodyRejoins conf s e) : (step conf s e).queue.Coherent := by
  unfold NobodyRejoins at hjoin
  cases e with
  | handleBattlemasterJoin guid joining refused =>
    simp only [step, handleBattlemasterJoin, joined] at hjoin ⊢
    split
    · exact h
    rename_i hpass
    rw [if_neg hpass] at hjoin
    exact h.newGroup _ hjoin
  | handleBattlemasterJoinAsGroup guid grp joining refused =>
    simp only [step, handleBattlemasterJoinAsGroup, joined] at hjoin ⊢
    split
    · exact h
    rename_i hpass
    rw [if_neg hpass] at hjoin
    split
    · exact h
    rename_i herr
    rw [if_neg herr] at hjoin
    rw [foldl_queue fun s m => addBattleGroundQueueId_queue s _ _]
    exact addGroup_coherent h _ _ grp _ fun p hp hnot => hjoin p (mem_filter.2 ⟨hp, by simpa using hnot⟩)
  | addToArenaQueue guid grp joining queuedAsGroup refused hasFree =>
    cases grp with
    | none =>
      simp only [step, addToArenaQueue, joined] at hjoin ⊢
      split
      · exact h
      rename_i hpass
      rw [if_neg hpass] at hjoin
      exact h.newGroup _ hjoin
    | some grp =>
      simp only [step, addToArenaQueue, joined] at hjoin ⊢
      split
      · exact h
      rename_i hpass
      rw [if_neg hpass] at hjoin
      split
      · exact h
      rename_i herr
      rw [if_neg herr] at hjoin
      have hq := addGroup_coherent h conf.groupLimit { joining with isPremade := false, DesiredInstanceId := 0 } grp []
        fun p hp _ => hjoin p hp
      split
      · rw [foldl_queue fun s m => addBattleGroundQueueId_queue s _ _]
        exact hq
      · exact hq
  | handleBattleFieldPort guid action checks => exact handleBattleFieldPort_coherent h guid action checks
  | worldportAck guid =>
    simp only [step]
    rw [worldportAck_queue]
    exact h
  | leaveBattleground guid =>
    simp only [step]
    rw [leaveBattleground_queue]
    exact h
  | removeEvent guid b removeTime => exact removeEvent_coherent h guid b removeTime
  | giveLevel guid =>
    simp only [step, giveLevel]
    split
    · exact leaveQueue_coherent h guid
    · exact h
  | logoutPlayer guid now => exact logoutPlayer_coherent h guid now
  | playerLoggedIn guid => exact playerLoggedIn_coherent h conf guid
  | update w connected bracket => exact update_coherent h conf w connected bracket
  | startingEvent b =>
    simp only [step, setStatus, updateBG_queue]
    exact h
  | endBattleGround b =>
    simp only [step, endBattleGround, setStatus, updateBG_queue]
    exact h
  | battleGroundUpdate b timeOver =>
    simp only [step]
    rw [battleGroundUpdate_queue]
    exact h

theorem init_coherent : init.queue.Coherent := by
  refine ⟨fun b j id hid => ?_, fun b j b' j' id hid => ?_, fun _ _ => nodup_nil, fun b j id g p hid => ?_,
    fun p info hinfo => ?_, fun id g hg => ?_, fun _ _ => rfl⟩
  · cases hid
  · cases hid
  · cases hid
  · cases hinfo
  · cases hg

theorem run_coherent {es : List Event} (hes : Runs.Admitted (step conf) (NobodyRejoins conf) init es) :
    (Runs.run (step conf) init es).queue.Coherent :=
  Runs.invariant (I := fun s => s.queue.Coherent) (fun _ e h hjoin => step_coherent h e hjoin) init_coherent hes

namespace Queue

/-- The queue is in order: an entry names a group that has the player and is in one list once, a listed group has
players, all of them queued with it, and no player is in two groups. -/
structure InOrder (q : Queue) : Prop where
  entry : ∀ p info, q.m_QueuedPlayers.lookup p = some info → ∃ g, q.groups info.GroupInfo = some g ∧ p ∈ g.Players ∧
    ∃ b j, (q.m_QueuedGroups b j).count info.GroupInfo = 1 ∧
      ∀ b' j', info.GroupInfo ∈ q.m_QueuedGroups b' j' → b' = b ∧ j' = j
  group : ∀ b j id, id ∈ q.m_QueuedGroups b j → ∃ g, q.groups id = some g ∧ g.Players ≠ [] ∧
    ∀ p ∈ g.Players, ∃ info, q.m_QueuedPlayers.lookup p = some info ∧ info.GroupInfo = id
  apart : ∀ b j b' j' id id' g g' p, id ∈ q.m_QueuedGroups b j → id' ∈ q.m_QueuedGroups b' j' → q.groups id = some g →
    q.groups id' = some g' → p ∈ g.Players → p ∈ g'.Players → id = id'

theorem Coherent.inOrder (h : Coherent q) : InOrder q := by
  refine ⟨fun p info hinfo => ?_, fun b j id hid => ?_, fun b j b' j' id id' g g' p hid hid' hg hg' hp hp' => ?_⟩
  · obtain ⟨g, hg, hp, b, j, hplace⟩ := h.queued p info hinfo
    exact ⟨g, hg, hp, b, j, count_eq_one_of_mem (h.nodup b j) hplace, fun b' j' hmem => h.unique b' j' b j _ hmem hplace⟩
  · obtain ⟨g, hg, hne, _⟩ := h.listed b j id hid
    exact ⟨g, hg, hne, fun p hp => h.member b j id g p hid hg hp⟩
  obtain ⟨info, hinfo, rfl⟩ := h.member b j id g p hid hg hp
  obtain ⟨info', hinfo', rfl⟩ := h.member b' j' id' g' p hid' hg' hp'
  rw [hinfo] at hinfo'
  cases hinfo'
  rfl

/-- The player is in a listed group, with an entry that names it (`named`) or another. -/
structure Held (q : Queue) (p : Guid) (id : Nat) (named : Bool) : Prop where
  old : id < q.nextGroup
  listed : ∃ b j, id ∈ q.m_QueuedGroups b j
  group : ∃ g, q.groups id = some g ∧ p ∈ g.Players
  entry : ∃ info, q.m_QueuedPlayers.lookup p = some info ∧ (info.GroupInfo = id ↔ named = true)

variable {p : Guid} {id : Nat} {named : Bool}

theorem Coherent.held (h : Coherent q) {info : PlayerQueueInfo} (hinfo : q.m_QueuedPlayers.lookup p = some info) :
    Held q p info.GroupInfo true := by
  obtain ⟨g, hg, hp, b, j, hplace⟩ := h.queued p info hinfo
  refine ⟨Nat.lt_of_not_le fun hle => ?_, ⟨b, j, hplace⟩, ⟨g, hg, hp⟩, info, hinfo, by simp⟩
  rw [h.fresh _ hle] at hg
  cases hg

theorem Held.newGroup (named' : Bool) (h : Held q p id named) (joining : Joining) (players : List Guid)
    (hnamed' : named' = true ↔ named = true ∧ p ∉ players) : Held (q.newGroup joining players) p id named' := by
  obtain ⟨hgroups, hnext⟩ := newGroup_groups q joining players
  obtain ⟨info, hinfo, hnamed⟩ := h.entry
  obtain ⟨b, j, hplace⟩ := h.listed
  refine ⟨by rw [hnext]; exact lt_succ_of_lt h.old, ⟨b, j, mem_newGroup.2 (.inl hplace)⟩, ?_, ?_⟩
  · rw [hgroups, Function.update_of_ne (Nat.ne_of_lt h.old)]
    exact h.group
  · rw [newGroup_queued, lookup_entries, hnamed']
    by_cases hp : p ∈ players
    · exact ⟨_, if_pos hp, by simp [hp, ne_of_gt h.old]⟩
    · exact ⟨info, by rw [if_neg hp, hinfo], by simpa [hp] using hnamed⟩

theorem Held.addPlayers {named' : Bool} (joining : Joining) (members : List (Guid × Team))
    (h : Held q p id named) (hnamed' : named' = true ↔ named = true ∧ p ∉ members.map Prod.fst) :
    Held (members.foldl (fun q m => q.addPlayer { joining with GroupTeam := m.2, isPremade := false } m.1) q) p id named' := by
  induction members generalizing q named with
  | nil =>
    have heq : named' = named := Bool.eq_iff_iff.2 (by simpa using hnamed')
    exact heq ▸ h
  | cons m rest ih =>
    refine ih (h.newGroup (named && p ≠ m.1) _ [m.1] (by simp)) (hnamed'.trans ?_)
    simp [and_assoc]

theorem Held.addGroup (h : Held q p id true) (limit membersCount : Nat) (joining : Joining)
    {members : List (Guid × Team)} {excluded : List Guid} (hp : p ∈ members.map Prod.fst) (hnot : p ∉ excluded) :
    Held (q.addGroup limit joining membersCount members excluded) p id false := by
  have hjoins : p ∈ (members.filter fun m => m.1 ∉ excluded).map Prod.fst := by
    obtain ⟨m, hm, rfl⟩ := mem_map.1 hp
    exact mem_map_of_mem (mem_filter.2 ⟨hm, by simpa using hnot⟩)
  unfold Queue.addGroup
  split
  · have hempty : Held (q.newGroup joining []) p id true := h.newGroup true joining [] (by simp)
    exact hempty.addPlayers joining _ (iff_of_false Bool.false_ne_true fun hcon => hcon.2 hjoins)
  · exact h.newGroup false joining _ (iff_of_false Bool.false_ne_true fun hcon => hcon.2 hjoins)

/-- A group that still has a player whose entry names another is out of order. -/
theorem Held.not_inOrder (h : Held q p id false) : ¬ InOrder q := by
  intro horder
  obtain ⟨b, j, hplace⟩ := h.listed
  obtain ⟨g, hg, hp⟩ := h.group
  obtain ⟨info, hinfo, hnamed⟩ := h.entry
  obtain ⟨g', hg', _, hall⟩ := horder.group b j id hplace
  rw [hg] at hg'
  cases hg'
  obtain ⟨info', hinfo', hid⟩ := hall p hp
  rw [hinfo] at hinfo'
  cases hinfo'
  exact absurd (hnamed.1 hid) Bool.false_ne_true

end Queue

theorem rejoined_not_inOrder (h : s.queue.Coherent) {e : Event} {p : Guid} (hp : p ∈ joined conf s e) {info : PlayerQueueInfo}
    (hinfo : s.queue.m_QueuedPlayers.lookup p = some info) : ¬ (step conf s e).queue.InOrder := by
  have hheld := h.held hinfo
  cases e with
  | handleBattlemasterJoin guid joining refused =>
    simp only [step, handleBattlemasterJoin, joined] at hp ⊢
    split at hp
    · cases hp
    rename_i hpass
    rw [mem_singleton.1 hp] at hheld
    rw [if_neg hpass]
    exact (hheld.newGroup false _ [guid] (by simp)).not_inOrder
  | handleBattlemasterJoinAsGroup guid grp joining refused =>
    simp only [step, handleBattlemasterJoinAsGroup, joined] at hp ⊢
    split at hp
    · cases hp
    rename_i hpass
    split at hp
    · cases hp
    rename_i herr
    obtain ⟨hmem, hnot⟩ := mem_filter.1 hp
    rw [if_neg hpass, if_neg herr, foldl_queue fun s m => addBattleGroundQueueId_queue s _ _]
    exact (hheld.addGroup _ _ _ (by rw [grp.joins_guids]; exact hmem) (by simpa using hnot)).not_inOrder
  | addToArenaQueue guid grp joining queuedAsGroup refused hasFree =>
    cases grp with
    | none =>
      simp only [step, addToArenaQueue, joined] at hp ⊢
      split at hp
      · cases hp
      rename_i hpass
      rw [mem_singleton.1 hp] at hheld
      rw [if_neg hpass]
      exact (hheld.newGroup false _ [guid] (by simp)).not_inOrder
    | some grp =>
      simp only [step, addToArenaQueue, joined] at hp ⊢
      split at hp
      · cases hp
      rename_i hpass
      split at hp
      · cases hp
      rename_i herr
      have hout := (hheld.addGroup conf.groupLimit grp.membersCount { joining with isPremade := false, DesiredInstanceId := 0 }
        (by rw [grp.joins_guids]; exact hp) not_mem_nil).not_inOrder
      rw [if_neg hpass, if_neg herr]
      split
      · rw [foldl_queue fun s m => addBattleGroundQueueId_queue s _ _]
        exact hout
      · exact hout
  | _ => cases hp

/-- In a run in which nobody rejoins the queue is in order, and the next step leaves it so exactly when nobody
rejoins in it. -/
theorem queue_in_order (conf : Conf) (es : List Event) (hes : Runs.Admitted (step conf) (NobodyRejoins conf) init es) :
    (Runs.run (step conf) init es).queue.InOrder ∧
      ∀ e, (step conf (Runs.run (step conf) init es) e).queue.InOrder ↔ NobodyRejoins conf (Runs.run (step conf) init es) e := by
  have h := run_coherent hes
  refine ⟨h.inOrder, fun e => ⟨fun horder p hp => ?_, fun hjoin => (step_coherent h e hjoin).inOrder⟩⟩
  cases hlook : (Runs.run (step conf) init es).queue.m_QueuedPlayers.lookup p with
  | none => rfl
  | some info => exact absurd horder (rejoined_not_inOrder h hp hlook)

def arenaConf : Conf where
  groupLimit := 5
  premadeWaitForMatch := 0
  premadeQueueGroupMinSize := 5
  invitationType := 0
  randomize := false
  avMinPlayersInQueue := 0
  avInitialMaxPlayers := 0
  tagInBattlegrounds := false
  isTesting := false
  isAV := false
  isArena := true
  minPlayersPerTeam := 1
  m_MaxPlayersPerTeam := 3
  m_MaxPlayers := 6
  askedAtLogin := false

def asksArenaMaster (guid : Guid) : Event := .addToArenaQueue guid none ⟨.ALLIANCE, 0, 0, false, 0⟩ false false fun _ => true

theorem queue_in_order_two : (Runs.run (step arenaConf) init [asksArenaMaster 1, asksArenaMaster 2]).queue.InOrder :=
  (queue_in_order arenaConf [asksArenaMaster 1, asksArenaMaster 2] (by
    refine ⟨?_, ?_, trivial⟩
    · intro p _
      rfl
    · intro p hp
      cases mem_singleton.1 hp
      rfl)).1

/-- Asking twice is enough. -/
theorem queue_asked_twice : ¬ (Runs.run (step arenaConf) init [asksArenaMaster 1, asksArenaMaster 1]).queue.InOrder := by
  intro horder
  obtain ⟨g, hg, _, hall⟩ := horder.group 0 2 0 (by decide)
  have hp : (1 : Guid) ∈ g.Players := by
    cases hg
    decide
  obtain ⟨info, hinfo, hid⟩ := hall 1 hp
  cases hinfo
  cases hid

end ComfyCraft.BattleGroundMgr
