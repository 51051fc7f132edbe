import ComfyCraft.Battlegrounds.Invitations

/-! The invited counts over every run. -/

namespace ComfyCraft.BattleGroundMgr

open Runs Queue.Keeps List State

variable {q : Queue} {s : State} {conf : Conf} {w : World} {p guid : Guid}

/-! ### Joins and ports -/

namespace State

theorem Counted.newGroup (hq : s.queue.Coherent) (h : Counted s) (joining : Joining) {players : List Guid}
    (hnew : ∀ p ∈ players, s.queue.m_QueuedPlayers.lookup p = none) : Counted (s.addQueue (s.queue.newGroup joining players)) :=
  h.setQueue (h.oldGroup.newGroup h.started joining players) fun p hp =>
    Queue.Keeps.newGroup hq joining fun hmem => h.queued hp (hnew p hmem)

theorem Counted.addGroup (hq : s.queue.Coherent) (h : Counted s) (limit : Nat) (joining : Joining) (grp : Group) (excluded : List Guid)
    (hnew : ∀ p ∈ grp.members.map Member.guid, p ∉ excluded → s.queue.m_QueuedPlayers.lookup p = none) :
    Counted (s.addQueue (s.queue.addGroup limit joining grp.membersCount grp.joins excluded)) := by
  refine h.setQueue (h.oldGroup.addGroup h.started limit _ joining _ excluded) fun p hp => ?_
  refine Queue.Keeps.addGroup hq limit _ joining excluded (by rw [grp.joins_guids]; exact grp.members_nodup) (fun m hm hnot => ?_) (h.queued hp)
  exact hnew m.1 (by rw [← grp.joins_guids]; exact List.mem_map_of_mem hm) hnot

theorem Counted.addBattleGroundQueueIds {α : Type} (guid : α → Guid) (free : α → Bool) (l : List α) (h : Counted s) :
    Counted (l.foldl (fun s a => s.addBattleGroundQueueId (guid a) (free a)) s) := by
  induction l generalizing s with
  | nil => exact h
  | cons a rest ih => exact ih (h.setPlayer (guid a) fun _ => ⟨rfl, rfl⟩)

theorem portAction_enters {action : Bool} {checks : PortChecks} {g : GroupQueueInfo} (h : s.portAction guid action checks g = some true) :
    g.IsInvitedToBGInstanceGUID ≠ 0 ∧ (s.m_BattleGrounds.lookup g.IsInvitedToBGInstanceGUID).isSome = true := by
  unfold portAction at h
  split at h
  · cases h
  split at h
  · cases h
  split at h
  · cases h
  rename_i hne
  split at h
  · cases h
  · rename_i bg hb
    exact ⟨hne, by rw [hb]; rfl⟩

theorem handleBattleFieldPort_counted (hq : s.queue.Coherent) (h : Counted s) (guid : Guid) (action : Bool) (checks : PortChecks)
    (hguid : ∀ x enters, s.queue.groupOf guid = some x → s.portAction guid action checks x.2 = some enters →
      s.uncounted guid = false ∧ (enters = true → s.arriving.lookup guid = none)) :
    Counted (s.handleBattleFieldPort guid action checks) := by
  unfold handleBattleFieldPort
  cases hg : s.queue.groupOf guid with
  | none => exact h
  | some found =>
    obtain ⟨id, g⟩ := found
    dsimp only
    cases haction : s.portAction guid action checks g with
    | none => exact h
    | some enters =>
      obtain ⟨hcounted, hway⟩ := hguid (id, g) enters hg haction
      cases enters with
      | false => exact leaveQueue_counted hq h hcounted
      | true =>
        obtain ⟨hinv, hsome⟩ := portAction_enters haction
        refine portToBattleGround_counted hq h hg (fun hnone => ?_) (hway rfl)
        simp [uncounted, hnone, hg, hinv, hsome] at hcounted

theorem logoutPlayer_counted (h : Counted s) (guid : Guid) (now : UInt32)
    (hslot : s.arriving.lookup guid ≠ none → (s.players guid).bgQueueSlot = some (s.players guid).bgInstanceID) :
    Counted (s.logoutPlayer guid now) := by
  have hadded := worldportAck_counted h hslot
  have hway : (s.worldportAck guid).arriving.lookup guid = none := by
    unfold worldportAck
    cases hplace : s.arriving.lookup guid with
    | none => exact hplace
    | some place =>
      have herase : (s.arriving.erase guid).lookup guid = none := AList.lookup_erase _ _
      dsimp only
      split
      · unfold updateBG
        split
        · exact herase
        · exact herase
      · exact herase
  have hleft := (leaveBattleground_counted hadded fun _ => hway).1
  unfold logoutPlayer
  dsimp only
  split
  · have hnone := hleft.setPlayer guid (f := fun d => { d with bgQueueSlot := none }) fun _ => ⟨rfl, rfl⟩
    exact hnone.setQueue (hnone.oldGroup.setOnline guid _) fun p _ => setOnline _ guid p fun _ => rfl
  · exact hleft

theorem playerLoggedIn_counted (h : Counted s) (conf : Conf) (guid : Guid) : Counted (s.playerLoggedIn conf guid) := by
  unfold playerLoggedIn
  split
  · exact h
  split
  · exact h
  have honline : Counted (s.addQueue (s.queue.playerLoggedIn guid)) :=
    h.setQueue (h.oldGroup.setOnline guid _) fun p _ => setOnline _ guid p fun _ => rfl
  exact honline.setPlayer guid fun _ => ⟨rfl, rfl⟩

end State

/-! ### Steps -/

/-- Whether an event takes the player out of the queue. -/
def TakesOut (s : State) (p : Guid) : Event → Prop
  | .handleBattleFieldPort guid action checks =>
    p = guid ∧ ∃ x, s.queue.groupOf guid = some x ∧ (s.portAction guid action checks x.2).isSome = true
  | .removeEvent guid b removeTime =>
    p = guid ∧ (s.players guid).bgQueueSlot.isSome = true ∧ ∃ x, s.queue.groupOf guid = some x ∧
      x.2.IsInvitedToBGInstanceGUID = b ∧ x.2.RemoveInviteTime = removeTime
  | .giveLevel guid => p = guid ∧ (s.players guid).bgQueueSlot.isSome = true
  | .update w _ _ => s.isStale w p = true
  | _ => False

/-- A player who ports in is added to the battleground before anything else becomes of the player. -/
def AddedFirst (s : State) : Event → Prop
  | .handleBattleFieldPort guid action checks =>
    ∀ x, s.queue.groupOf guid = some x → s.portAction guid action checks x.2 = some true → s.arriving.lookup guid = none
  | .leaveBattleground guid => (s.players guid).bgInstanceID ≠ 0 → s.arriving.lookup guid = none
  | .worldportAck guid | .logoutPlayer guid _ =>
    s.arriving.lookup guid ≠ none → (s.players guid).bgQueueSlot = some (s.players guid).bgInstanceID
  | _ => True

/-- Nobody joins twice, nobody who was not counted leaves the queue, and who ports in is added first. -/
structure KeepsCount (conf : Conf) (s : State) (e : Event) : Prop where
  joins : NobodyRejoins conf s e
  leaves : ∀ p, TakesOut s p e → s.uncounted p = false
  added : AddedFirst s e
  fits : conf.InitialFits

theorem step_counted (hq : s.queue.Coherent) (h : s.Counted) (e : Event) (hok : KeepsCount conf s e) : (step conf s e).Counted := by
  obtain ⟨hjoin, hleaves, hadded, hfits⟩ := hok
  unfold NobodyRejoins at hjoin
  cases e with
  | handleBattlemasterJoin guid joining refused =>
    simp only [step, handleBattlemasterJoin, joined] at hjoin ⊢
    split
    · exact h
    rename_i hpass
    rw [if_neg hpass] at hjoin
    exact (h.newGroup hq _ hjoin).setPlayer guid fun _ => ⟨rfl, rfl⟩
  | handleBattlemasterJoinAsGroup guid grp joining refused =>
    simp only [step, handleBattlemasterJoinAsGroup, joined] at hjoin ⊢
    split
    · exact h
    rename_i hpass
    rw [if_neg hpass] at hjoin
    split
    · exact h
    rename_i herr
    rw [if_neg herr] at hjoin
    refine Counted.addBattleGroundQueueIds _ _ _ (h.addGroup hq _ _ grp _ fun p hp hnot => ?_)
    exact hjoin p (mem_filter.2 ⟨hp, by simpa using hnot⟩)
  | addToArenaQueue guid grp joining queuedAsGroup refused hasFree =>
    cases grp with
    | none =>
      simp only [step, addToArenaQueue, joined] at hjoin ⊢
      split
      · exact h
      rename_i hpass
      rw [if_neg hpass] at hjoin
      exact (h.newGroup hq _ hjoin).setPlayer guid fun _ => ⟨rfl, rfl⟩
    | some grp =>
      simp only [step, addToArenaQueue, joined] at hjoin ⊢
      split
      · exact h
      rename_i hpass
      rw [if_neg hpass] at hjoin
      split
      · exact h
      rename_i herr
      rw [if_neg herr] at hjoin
      have hall := h.addGroup hq conf.groupLimit { joining with isPremade := false, DesiredInstanceId := 0 } grp []
        fun p hp _ => hjoin p hp
      split
      · exact hall.addBattleGroundQueueIds _ _ _
      · exact hall.setPlayer guid fun _ => ⟨rfl, rfl⟩
  | handleBattleFieldPort guid action checks =>
    refine handleBattleFieldPort_counted hq h guid action checks fun x enters hx haction => ⟨hleaves guid ⟨rfl, x, hx, ?_⟩, ?_⟩
    · rw [haction]
      rfl
    · rintro rfl
      exact hadded x hx haction
  | worldportAck guid => exact worldportAck_counted h hadded
  | leaveBattleground guid => exact (leaveBattleground_counted h hadded).1
  | removeEvent guid b removeTime =>
    simp only [step, removeEvent]
    split
    · exact h
    rename_i id g hg
    split
    · rename_i hfires
      exact leaveQueue_counted hq h (hleaves guid ⟨rfl, hfires.1, _, hg, hfires.2⟩)
    · exact h
  | giveLevel guid =>
    simp only [step, giveLevel]
    split
    · rename_i hfires
      exact leaveQueue_counted hq h (hleaves guid ⟨rfl, hfires.1⟩)
    · exact h
  | logoutPlayer guid now => exact logoutPlayer_counted h guid now hadded
  | playerLoggedIn guid => exact playerLoggedIn_counted h conf guid
  | update w connected bracket => exact update_counted hq h hfits w connected bracket hleaves
  | startingEvent b => exact setStatus_counted h b _
  | endBattleGround b => exact endBattleGround_counted h b
  | battleGroundUpdate b timeOver => exact battleGroundUpdate_counted h b timeOver

theorem init_counted : init.Counted := by
  refine ⟨fun p place hp => ?_, fun b bg team hb => ?_, Nat.one_pos, fun id g hg => ?_, fun p place hp => ?_, fun b bg hb => ?_,
    fun p place hp => ?_, fun b bg p team hb => ?_⟩
  · cases hp
  · cases hb
  · cases hg
  · cases hp
  · cases hb
  · cases hp
  · cases hb

/-! ### Runs -/

/-- The counts are right in every state of a run in which nobody joins twice, nobody who was not counted leaves the
queue and who ports in is added before leaving. -/
theorem invited_count_right (conf : Conf) (es : List Event) (hes : Runs.Admitted (step conf) (KeepsCount conf) init es) (n : Nat) :
    (Runs.run (step conf) init (es.take n)).InvitedRight := by
  have hinv := invariant (I := fun s => s.queue.Coherent ∧ s.Counted)
    (fun s e h hok => ⟨step_coherent h.1 e hok.joins, step_counted h.1 h.2 e hok⟩) ⟨init_coherent, init_counted⟩ (hes.take n)
  exact hinv.2.right

/-- The settings of a small battleground: two players a team are enough, and five fit. -/
def smallConf : Conf := { arenaConf with isArena := false, minPlayersPerTeam := 2, m_MaxPlayersPerTeam := 5, m_MaxPlayers := 10 }

def worldWithout (away : List Guid) (now : UInt32) : World where
  findPlayer guid := if guid ∈ away then none else some ⟨true, false, false, false⟩
  now := now
  shuffle l := l
  shuffle_perm l := List.Perm.refl l
  clientInstanceID n := n
  beyondEmpty := true

def soldier (guid : Guid) (team : Team) : Member := ⟨guid, team, true, 0, true, true, false⟩

def joinsAsTwo (one two : Guid) (team : Team) (h : one ≠ two) : Event :=
  .handleBattlemasterJoinAsGroup one ⟨2, [soldier one team, soldier two team], by simpa [soldier] using h⟩ ⟨team, 0, 0, false, 0⟩ false

theorem State.queued_of_stale (h : s.isStale w p = true) : p ∈ s.queue.m_QueuedPlayers.entries.keys := by
  unfold isStale at h
  refine AList.lookup_isSome.1 ?_
  cases hinfo : s.queue.m_QueuedPlayers.lookup p with
  | none =>
    rw [hinfo] at h
    cases h
  | some info => rfl

/-- Four join as two groups and are invited. -/
theorem invited_count_right_four : (Runs.run (step smallConf) init ([joinsAsTwo 1 2 .ALLIANCE (by decide),
    joinsAsTwo 3 4 .HORDE (by decide), .update (worldWithout [] 0) (fun _ => true) 0].take 3)).InvitedRight := by
  have hfits : smallConf.InitialFits := fun hav => by cases hav
  refine invited_count_right smallConf [joinsAsTwo 1 2 .ALLIANCE (by decide), joinsAsTwo 3 4 .HORDE (by decide),
    .update (worldWithout [] 0) (fun _ => true) 0] ⟨⟨?_, fun p hp => hp.elim, trivial, hfits⟩,
      ⟨?_, fun p hp => hp.elim, trivial, hfits⟩, ⟨?_, fun p hp => ?_, trivial, hfits⟩, trivial⟩ 3
  · decide +kernel
  · decide +kernel
  · intro p hp
    cases hp
  have hall : ((run (step smallConf) init [joinsAsTwo 1 2 .ALLIANCE (by decide),
      joinsAsTwo 3 4 .HORDE (by decide)]).queue.m_QueuedPlayers.entries.keys.all fun p =>
      !(run (step smallConf) init [joinsAsTwo 1 2 .ALLIANCE (by decide),
        joinsAsTwo 3 4 .HORDE (by decide)]).uncounted p) = true := by decide +kernel
  exact (Bool.not_eq_true' _).mp (all_eq_true.1 hall p (queued_of_stale hp))

/-- A member who is away when the group is invited and is dropped from the queue takes the count of the other along,
and when the other declines the count wraps around. -/
theorem invited_count_wraps :
    let es := [joinsAsTwo 1 2 .ALLIANCE (by decide), joinsAsTwo 3 4 .HORDE (by decide), .logoutPlayer 2 0,
      .update (worldWithout [2] 1000) (fun guid => guid ≠ 2) 0, .update (worldWithout [2] 61000) (fun guid => guid ≠ 2) 0]
    ¬ (run (step smallConf) init es).InvitedRight ∧
      ((run (step smallConf) init (es ++ [.handleBattleFieldPort 1 false ⟨false, true, false, false⟩])).m_BattleGrounds.lookup 1).map
        BattleGround.m_InvitedAlliance = some 0xFFFFFFFF := by
  intro es
  refine ⟨fun hright => ?_, by decide +kernel⟩
  have hcounts : ((run (step smallConf) init es).m_BattleGrounds.lookup 1).map (fun bg =>
      (bg.getInvitedCount .ALLIANCE, (run (step smallConf) init es).holders 1 bg .ALLIANCE)) = some (0, 1) := by decide +kernel
  obtain ⟨bg, hb, heq⟩ := Option.map_eq_some_iff.1 hcounts
  have hcount := (hright 1 bg .ALLIANCE hb).1
  rw [(Prod.mk.inj heq).1, (Prod.mk.inj heq).2] at hcount
  cases hcount

end ComfyCraft.BattleGroundMgr
