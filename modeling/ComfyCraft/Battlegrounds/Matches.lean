import ComfyCraft.Battlegrounds.InvitedRuns

/-! What the pools hold when players go to a running battleground and when a new match is made. -/

namespace ComfyCraft.BattleGroundMgr

open SelectionPool List Prod Filling Nat List.Subperm GroupQueueInfo State

variable {q : Queue} {w : World} {team team' : Team} {room otherRoom desired inst differential : Nat} {pool other : SelectionPool}
  {l rest list : List Nat} {bg : BattleGround} {f f' : Filling} {size : Int}

/-! ### What the pools end with -/

/-- What is in a pool and what is left of its list are drawn from a list, each group no more often than it is there. -/
def Drawn (list : List Nat) (pool : SelectionPool) (rest : List Nat) : Prop := (pool.SelectedGroups ++ rest).Subperm list

theorem Drawn.fill (w : World) (desired inst : Nat) (h : Drawn list pool rest) :
    Drawn list (SelectionPool.fill q w desired inst pool rest).1 (SelectionPool.fill q w desired inst pool rest).2 := by
  induction rest generalizing pool with
  | nil => exact h
  | cons id rest ih =>
    have hadd : (pool.addGroup q w id desired inst).1.SelectedGroups = pool.SelectedGroups ++ [id] ∨
        (pool.addGroup q w id desired inst).1 = pool := by
      unfold addGroup
      cases q.groups id with
      | none => exact .inr rfl
      | some g =>
        dsimp only
        split
        · exact .inl rfl
        · exact .inr rfl
    obtain ⟨-, hfull⟩ := addGroup_length q w pool id desired inst
    unfold fill
    dsimp only
    split
    · refine ih ?_
      unfold Drawn
      rcases hadd with heq | heq
      · rw [heq, append_assoc]
        exact h
      · rw [heq]
        exact ((sublist_cons_self id rest).append_left _).subperm.trans h
    · rename_i hmore
      rw [hfull (by simpa using hmore)]
      exact h

theorem Drawn.kickGroup (hpool : pool.Of q team room) (h : Drawn list pool rest) (size : Int) :
    Drawn list (pool.kickGroup q size).1 rest := by
  rcases kickGroup_cases hpool size with ⟨-, heq⟩ | ⟨id, -, heq⟩
  · rw [heq]
    exact h
  · rw [heq]
    exact (erase_sublist.append_right rest).subperm.trans h

/-- Both sides draw from their lists. -/
structure Filling.Drawn (q : Queue) (bg : BattleGround) (f : Filling) : Prop where
  ali : BattleGroundMgr.Drawn (q.m_QueuedGroups bg.bracketId 2) f.ali f.aliRest
  horde : BattleGroundMgr.Drawn (q.m_QueuedGroups bg.bracketId 3) f.horde f.hordeRest

theorem balanceSide_drawn {otherList otherRest : List Nat} {free diff otherDiff : Int} (hpool : pool.Of q team room)
    (hother : other.Of q team' otherRoom) (h : Drawn list pool rest) (h' : Drawn otherList other otherRest) :
    let r := (balanceSide q w inst free diff otherDiff pool other rest).1
    Drawn list r.1 r.2.2 ∧ Drawn otherList r.2.1 otherRest := by
  have hkick := h.kickGroup hpool (otherDiff - diff)
  have hfill := hkick.fill (q := q) w (free - otherDiff).toNat inst
  have hkickOther := h'.kickGroup hother (otherDiff - diff)
  unfold balanceSide
  dsimp only
  split
  · split
    · split
      · exact ⟨hfill, h'⟩
      · exact ⟨hfill, hkickOther⟩
    · exact ⟨hfill, h'⟩
  · split
    · split
      · exact ⟨hkick, h'⟩
      · exact ⟨hkick, hkickOther⟩
    · exact ⟨hkick, h'⟩

theorem balanceStep_drawn (hof : f.Of q bg) (h : f.Drawn q bg) : (balanceStep q w bg f).1.Drawn q bg := by
  unfold balanceStep
  dsimp only
  split
  · obtain ⟨hali, hhorde⟩ := balanceSide_drawn hof.ali hof.horde h.ali h.horde
    exact ⟨hali, hhorde⟩
  · obtain ⟨hhorde, hali⟩ := balanceSide_drawn hof.horde hof.ali h.horde h.ali
    exact ⟨hali, hhorde⟩

def remaining (bg : BattleGround) (team : Team) (pool : SelectionPool) : Int := bg.getFreeSlotsForTeam team - pool.PlayerCount

/-- The remaining slots differ by little, or nobody is selected for the side with fewer. -/
def Balanced (bg : BattleGround) (differential : Nat) (ali horde : SelectionPool) : Prop :=
  (remaining bg .ALLIANCE ali - remaining bg .HORDE horde).natAbs ≤ max 1 differential ∨
    remaining bg .ALLIANCE ali ≤ remaining bg .HORDE horde ∧ ali.PlayerCount = 0 ∨
    remaining bg .HORDE horde ≤ remaining bg .ALLIANCE ali ∧ horde.PlayerCount = 0

/-- The loop breaks with an empty pool, no more than one slot above the other side. -/
theorem balanceSide_breaks {free diff otherDiff : Int} (h : (balanceSide q w inst free diff otherDiff pool other rest).2 = true) :
    (balanceSide q w inst free diff otherDiff pool other rest).1.1.PlayerCount = 0 ∧
      (balanceSide q w inst free diff otherDiff pool other rest).1.2.1 = other ∧ free ≤ otherDiff + 1 := by
  unfold balanceSide at h ⊢
  dsimp only at h ⊢
  generalize (if (pool.kickGroup q (otherDiff - diff)).2 then
    fill q w (free - otherDiff).toNat inst (pool.kickGroup q (otherDiff - diff)).1 rest
    else ((pool.kickGroup q (otherDiff - diff)).1, rest)) = drawn at h ⊢
  split at h
  · rename_i hzero
    split at h
    · rename_i hle
      rw [if_pos hzero, if_pos hle]
      exact ⟨hzero, rfl, hle⟩
    · cases h
  · cases h

theorem balanced_of_breaks (h : balanceStep q w bg f = (f', true)) (differential : Nat) : Balanced bg differential f'.ali f'.horde := by
  have hgap : ∀ {a b : Int}, a ≤ b + 1 → (a - b).natAbs ≤ max 1 differential ∨ a ≤ b := by
    intro a b hle
    by_cases hab : a ≤ b
    · exact .inr hab
    · exact .inl (by omega)
  unfold balanceStep at h
  dsimp only at h
  unfold Balanced remaining
  split at h
  · obtain ⟨hf, hbreaks⟩ := mk.inj h
    obtain ⟨hzero, hother, hle⟩ := balanceSide_breaks hbreaks
    rw [← hf]
    rw [hzero, hother, Int.natCast_zero, sub_zero]
    rcases hgap hle with hgap | hle
    · exact .inl hgap
    · exact .inr (.inl ⟨hle, rfl⟩)
  · obtain ⟨hf, hbreaks⟩ := mk.inj h
    obtain ⟨hzero, hother, hle⟩ := balanceSide_breaks hbreaks
    rw [← hf]
    rw [hzero, hother, Int.natCast_zero, sub_zero]
    rcases hgap hle with hgap | hle
    · exact .inl (by rw [← Int.natAbs_neg, neg_sub]; exact hgap)
    · exact .inr (.inr ⟨hle, rfl⟩)

/-- With enough fuel the loop ends as it should. -/
theorem balance_balanced (fuel : Nat) (hof : f.Of q bg) (h : f.Drawn q bg) (hfuel : f.measure ≤ fuel) :
    (balance q w bg differential fuel f).Drawn q bg ∧
      Balanced bg differential (balance q w bg differential fuel f).ali (balance q w bg differential fuel f).horde := by
  induction fuel generalizing f with
  | zero =>
    unfold Filling.measure at hfuel
    have hali : f.ali.SelectedGroups = [] := length_eq_zero_iff.1 (by omega)
    have hhorde : f.horde.SelectedGroups = [] := length_eq_zero_iff.1 (by omega)
    have hali : f.ali.PlayerCount = 0 := by rw [hof.ali.count, hali]; rfl
    have hhorde : f.horde.PlayerCount = 0 := by rw [hof.horde.count, hhorde]; rfl
    refine ⟨h, ?_⟩
    rcases le_total (remaining bg .ALLIANCE f.ali) (remaining bg .HORDE f.horde) with hle | hle
    · exact .inr (.inl ⟨hle, hali⟩)
    · exact .inr (.inr ⟨hle, hhorde⟩)
  | succ fuel ih =>
    have hstep := balanceStep_of (w := w) hof
    have hdrawn := balanceStep_drawn (w := w) hof h
    unfold balance
    dsimp only
    split
    · rename_i hloop
      split
      · rename_i f' hbreaks
        rw [hbreaks] at hdrawn
        exact ⟨hdrawn, balanced_of_breaks hbreaks differential⟩
      · rename_i f' hgoes
        rw [hgoes] at hstep hdrawn
        exact ih hstep hdrawn (by have := balanceStep_measure hof hloop.2 hgoes; omega)
    · rename_i hends
      refine ⟨h, ?_⟩
      by_cases hgap : differential < (remaining bg .ALLIANCE f.ali - remaining bg .HORDE f.horde).natAbs
      · -- nobody is selected at all
        obtain ⟨hhorde, hali⟩ := not_or.1 fun hsome => hends ⟨hgap, hsome⟩
        rcases le_total (remaining bg .ALLIANCE f.ali) (remaining bg .HORDE f.horde) with hle | hle
        · exact .inr (.inl ⟨hle, Nat.eq_zero_of_not_pos hali⟩)
        · exact .inr (.inr ⟨hle, Nat.eq_zero_of_not_pos hhorde⟩)
      · exact .inl (le_max_of_le_right (not_lt.1 hgap))

def Filling.start (q : Queue) (w : World) (bg : BattleGround) : Filling :=
  let ali := fill q w (bg.getFreeSlotsForTeam .ALLIANCE) bg.clientInstanceID SelectionPool.init (q.m_QueuedGroups bg.bracketId 2)
  let horde := fill q w (bg.getFreeSlotsForTeam .HORDE) bg.clientInstanceID SelectionPool.init (q.m_QueuedGroups bg.bracketId 3)
  ⟨ali.1, horde.1, ali.2, horde.2⟩

/-- Distinct groups of the side from its queue, with no more players than there are free slots. -/
structure Selected (q : Queue) (bg : BattleGround) (team : Team) (pool : SelectionPool) : Prop where
  nodup : pool.SelectedGroups.Nodup
  queued : ∀ i ∈ pool.SelectedGroups, i ∈ q.m_QueuedGroups bg.bracketId (team.index + 2)
  ofTeam : ∀ i ∈ pool.SelectedGroups, ∃ g, q.groups i = some g ∧ g.GroupTeam = team
  count : pool.PlayerCount = (pool.SelectedGroups.map (sizeOf q)).sum
  room : pool.PlayerCount ≤ bg.getFreeSlotsForTeam team

theorem Selected.of (hof : pool.Of q team (bg.getFreeSlotsForTeam team)) (hdrawn : Drawn (q.m_QueuedGroups bg.bracketId (team.index + 2)) pool rest)
    (hnodup : (q.m_QueuedGroups bg.bracketId (team.index + 2)).Nodup) : Selected q bg team pool where
  nodup :=
    let ⟨_, hperm, hsub⟩ := hdrawn
    (hperm.nodup_iff.1 (hnodup.sublist hsub)).of_append_left
  queued _ hid := hdrawn.subset (mem_append_left rest hid)
  ofTeam id hid :=
    let ⟨g, hg, hteam, _⟩ := hof.team id hid
    ⟨g, hg, hteam⟩
  count := hof.count
  room := hof.room

/-- A bracket's normal queues: each a list of distinct groups of its side. -/
structure Queue.Separate (q : Queue) (b : BattleGroundBracketId) : Prop where
  nodup : ∀ team : Team, (q.m_QueuedGroups b (team.index + 2)).Nodup
  ofTeam : ∀ team : Team, ∀ id ∈ q.m_QueuedGroups b (team.index + 2), ∃ g, q.groups id = some g ∧ g.GroupTeam = team

theorem Queue.Separate.init_fill {b : BattleGroundBracketId} (h : q.Separate b) (w : World) (room inst : Nat) (team : Team) :
    let r := fill q w room inst SelectionPool.init (q.m_QueuedGroups b (team.index + 2))
    r.1.Of q team room ∧ OfTeam q team r.2 ∧ Drawn (q.m_QueuedGroups b (team.index + 2)) r.1 r.2 := by
  have hlist : OfTeam q team (q.m_QueuedGroups b (team.index + 2)) := fun id hid =>
    let ⟨g, hg, hteam⟩ := h.ofTeam team id hid
    ⟨g, hg, hteam, b, _, hid⟩
  have hfill := Of.init.fill w inst (le_refl room) _ hlist
  exact ⟨hfill.1, hfill.2, Drawn.fill w room inst (refl _)⟩

/-- The loop ends, whatever the fuel beyond what is left to do, and both pools and their balance are right. -/
theorem fillPlayersToBG_selected (conf : Conf) (w : World) (hq : q.Separate bg.bracketId) :
    (∀ differential fuel, (Filling.start q w bg).measure ≤ fuel → balance q w bg differential fuel (Filling.start q w bg) =
        balance q w bg differential (Filling.start q w bg).measure (Filling.start q w bg)) ∧
      Selected q bg .ALLIANCE (fillPlayersToBG conf q w bg).1 ∧ Selected q bg .HORDE (fillPlayersToBG conf q w bg).2 ∧
      (conf.invitationType ≠ 0 →
        Balanced bg (if conf.isAV then 3 else 0) (fillPlayersToBG conf q w bg).1 (fillPlayersToBG conf q w bg).2) := by
  obtain ⟨hali, haliRest, haliDrawn⟩ := hq.init_fill w (bg.getFreeSlotsForTeam .ALLIANCE) bg.clientInstanceID .ALLIANCE
  obtain ⟨hhorde, hhordeRest, hhordeDrawn⟩ := hq.init_fill w (bg.getFreeSlotsForTeam .HORDE) bg.clientInstanceID .HORDE
  have hof : (start q w bg).Of q bg := ⟨hali, hhorde, haliRest, hhordeRest⟩
  have hdrawn : (start q w bg).Drawn q bg := ⟨haliDrawn, hhordeDrawn⟩
  refine ⟨fun differential fuel hfuel => ?_, ?_⟩
  · induction fuel, hfuel using le_induction with
    | base => rfl
    | succ fuel hfuel ih => exact (balance_fuel differential fuel hof hfuel).trans ih
  unfold fillPlayersToBG
  split
  · have hnone : ∀ team, Selected q bg team SelectionPool.init := fun team => ⟨nodup_nil, nofun, nofun, rfl, Nat.zero_le _⟩
    refine ⟨hnone _, hnone _, fun _ => ?_⟩
    rcases le_total (remaining bg .ALLIANCE SelectionPool.init) (remaining bg .HORDE SelectionPool.init) with hle | hle
    · exact .inr (.inl ⟨hle, rfl⟩)
    · exact .inr (.inr ⟨hle, rfl⟩)
  dsimp only
  split
  · rename_i hofcLike
    exact ⟨.of hali haliDrawn (hq.nodup _), .of hhorde hhordeDrawn (hq.nodup _), fun hbalancing => absurd hofcLike hbalancing⟩
  · have hend := balance_of (w := w) (if conf.isAV then 3 else 0) (start q w bg).measure hof
    obtain ⟨hdrawn', hbalanced⟩ := balance_balanced _ hof hdrawn (le_refl _)
    exact ⟨.of hend.ali hdrawn'.ali (hq.nodup _), .of hend.horde hdrawn'.horde (hq.nodup _), fun _ => hbalanced⟩

def threeGroups : Queue where
  m_QueuedPlayers := ∅
  groups id := if id = 0 then some ⟨[1, 2], .ALLIANCE, 0, 0, 0, 0, 0⟩ else if id = 1 then some ⟨[3], .ALLIANCE, 0, 0, 0, 0, 0⟩
    else if id = 2 then some ⟨[4], .HORDE, 0, 0, 0, 0, 0⟩ else none
  nextGroup := 3
  m_QueuedGroups b j := if b = 0 ∧ j = 2 then [0, 1] else if b = 0 ∧ j = 3 then [2] else []

theorem threeGroups_separate : threeGroups.Separate 0 where
  nodup team := by cases team <;> decide
  ofTeam team id hid := by
    cases team with
    | ALLIANCE =>
      change id ∈ [0, 1] at hid
      rcases mem_pair.1 hid with rfl | rfl
      · exact ⟨_, rfl, rfl⟩
      · exact ⟨_, rfl, rfl⟩
    | HORDE =>
      change id ∈ [2] at hid
      cases mem_singleton.1 hid
      exact ⟨_, rfl, rfl⟩

def plainWorld : World := ⟨fun _ => none, 0, id, fun _ => .refl _, id, false⟩

theorem fillPlayersToBG_threeGroups : Selected threeGroups ⟨0, 0, .WAIT_JOIN, 1, 2, 0, 0, ∅⟩ .ALLIANCE
    (fillPlayersToBG { arenaConf with isArena := false, invitationType := 1 } threeGroups plainWorld
      ⟨0, 0, .WAIT_JOIN, 1, 2, 0, 0, ∅⟩).1 :=
  (fillPlayersToBG_selected { arenaConf with isArena := false, invitationType := 1 } plainWorld threeGroups_separate).2.1

/-! ### New matches -/

structure Started where
  queue : Queue
  before : Pools
  pools : Pools

variable {conf : Conf} {mt : Match} {b : BattleGroundBracketId} {s : State} {pools : Pools} {m : Started}

namespace State

/-- The matches of `normalMatches`. -/
def startedNormal (conf : Conf) (w : World) (mt : Match) (b : BattleGroundBracketId) : Nat → State → Pools → List Started
  | 0, _, _ => []
  | n + 1, s, pools =>
    match checkNormalMatch conf w mt b s.queue pools with
    | (found, true) => ⟨s.queue, pools, found⟩ :: startedNormal conf w mt b n (s.startMatch conf w b found) Pools.init
    | (found, false) => startedNormal conf w mt b n s found

theorem normalMatches_eq (conf : Conf) (w : World) (mt : Match) (b : BattleGroundBracketId) (n : Nat) (s : State) (pools : Pools) :
    normalMatches conf w mt b n s pools =
      (startedNormal conf w mt b n s pools).foldl (fun s m => s.startMatch conf w b m.pools) s := by
  induction n generalizing s pools with
  | zero => rfl
  | succ n ih =>
    unfold normalMatches startedNormal
    rcases checkNormalMatch conf w mt b s.queue pools with ⟨found, ok⟩
    cases ok with
    | true => exact ih _ _
    | false => exact ih s found

/-- The matches of `newMatches`. -/
def startedNew (conf : Conf) (w : World) (b : BattleGroundBracketId) (s : State) : List Started :=
  let settings := matchSettings conf s b
  let s := if conf.isAV && conf.avMinPlayersInQueue ≠ 0 && !conf.isTesting && settings.1 ≠ 0 then
      s.shuffleNormal w (fun _ => conf.avMinPlayersInQueue) b
    else s
  match checkPremadeMatch conf w settings.2 b s.queue Pools.init with
  | (q, pools, true) => ⟨q, Pools.init, pools⟩ ::
      startedNormal conf w settings.2 b settings.1 (startMatch conf w b { s with queue := q } pools) Pools.init
  | (q, pools, false) => startedNormal conf w settings.2 b settings.1 { s with queue := q } pools

/-- The matches of `Update`. -/
def started (conf : Conf) (w : World) (connected : Guid → Bool) (b : BattleGroundBracketId) (s : State) : List (Match × Started) :=
  let s := removeStale w connected s.queue.m_QueuedPlayers.entries.length s
  if s.isAllQueuesEmpty w b then []
  else (startedNew conf w b (s.fillRunning conf w b)).map fun m => ((matchSettings conf (s.fillRunning conf w b) b).2, m)

end State

def playersOf (q : Queue) (pool : SelectionPool) : List Guid :=
  (pool.SelectedGroups.flatMap fun id => ((q.groups id).map GroupQueueInfo.Players).getD []).dedup

def Pools.Empty (pools : Pools) : Prop := ∀ team, (pools team).SelectedGroups = [] ∧ (pools team).PlayerCount = 0

theorem Pools.Empty.eq (h : pools.Empty) : pools = Pools.init := by
  funext team
  obtain ⟨hgroups, hcount⟩ := h team
  change pools team = ⟨[], 0⟩
  rw [← hgroups, ← hcount]

/-- Each side has distinct groups of its own that are not invited yet, with as many players as the match needs and takes. -/
structure Started.Proper (mt : Match) (m : Started) : Prop where
  nodup : ∀ team, (m.pools team).SelectedGroups.Nodup
  group : ∀ team, ∀ id ∈ (m.pools team).SelectedGroups,
    ∃ g, m.queue.groups id = some g ∧ g.GroupTeam = team ∧ g.IsInvitedToBGInstanceGUID = 0
  min : ∀ team, mt.minPlayers ≤ (playersOf m.queue (m.pools team)).length
  max : ∀ team, (playersOf m.queue (m.pools team)).length ≤ mt.maxPlayers

/-- A pool drawn from a list, of groups that are not invited. -/
structure Fresh (q : Queue) (list : List Nat) (pool : SelectionPool) (rest : List Nat) : Prop where
  drawn : Drawn list pool rest
  uninvited : ∀ id ∈ pool.SelectedGroups, isUninvited q id = true

theorem Fresh.dropped {id : Nat} (h : Fresh q list pool (id :: rest)) : Fresh q list pool rest :=
  ⟨((sublist_cons_self id rest).append_left _).subperm.trans h.drawn, h.uninvited⟩

theorem Fresh.addGroup {id : Nat} (h : Fresh q list pool (id :: rest)) (w : World) (desired inst : Nat) :
    Fresh q list (pool.addGroup q w id desired inst).1 rest := by
  unfold SelectionPool.addGroup
  cases hg : q.groups id with
  | none => exact h.dropped
  | some g =>
    dsimp only
    split
    · rename_i hfits
      refine ⟨?_, fun i hi => ?_⟩
      · unfold Drawn
        rw [append_assoc]
        exact h.drawn
      · rcases mem_append.1 hi with hi | hi
        · exact h.uninvited i hi
        · rw [mem_singleton.1 hi]
          simp [isUninvited, hg, hfits.1]
    · exact h.dropped

theorem Fresh.select (w : World) (mt : Match) (minSize : Nat) (h : Fresh q list pool rest) :
    Fresh q list (select q w mt minSize pool rest).1 (select q w mt minSize pool rest).2 := by
  induction rest generalizing pool with
  | nil => exact h
  | cons id rest ih =>
    unfold select
    dsimp only
    split
    · split
      · exact h.addGroup w mt.maxPlayers 0
      · exact ih (h.addGroup w mt.maxPlayers 0)
    · exact ih h.dropped

theorem Fresh.selectMore (w : World) (desired : Nat) (h : Fresh q list pool rest) :
    ∃ rest', Fresh q list (selectMore q w desired pool rest) rest' := by
  induction rest generalizing pool with
  | nil => exact ⟨[], h⟩
  | cons id rest ih =>
    unfold selectMore
    dsimp only
    split
    · split
      · exact ih (h.addGroup w desired 0)
      · exact ⟨rest, h.addGroup w desired 0⟩
    · exact ih h.dropped

/-- In distinct groups every player is there once. -/
theorem length_playersOf (hq : q.Coherent) (hof : pool.Of q team room) (hnodup : pool.SelectedGroups.Nodup) :
    (playersOf q pool).length = pool.PlayerCount := by
  have hplayers : (pool.SelectedGroups.flatMap fun id => ((q.groups id).map Players).getD []).Nodup := by
    refine nodup_flatMap.2 ⟨fun id hid => ?_, ?_⟩
    · obtain ⟨g, hg, -⟩ := hof.team id hid
      rw [hg]
      exact hq.once id g hg
    · refine hnodup.imp_of_mem fun {i j} hi hj hne => ?_
      obtain ⟨g, hg, -, bi, ji, hli⟩ := hof.team i hi
      obtain ⟨g', hg', -, bj, jj, hlj⟩ := hof.team j hj
      change (((q.groups i).map Players).getD []).Disjoint (((q.groups j).map Players).getD [])
      rw [hg, hg']
      intro p hp hp'
      obtain ⟨info, hinfo, rfl⟩ := hq.member bi ji i g p hli hg hp
      obtain ⟨info', hinfo', rfl⟩ := hq.member bj jj j g' p hlj hg' hp'
      cases hinfo.symm.trans hinfo'
      exact hne rfl
  unfold playersOf
  rw [hplayers.dedup, length_flatMap, hof.count]
  congr 1
  refine map_congr_left fun id hid => ?_
  obtain ⟨g, hg, -⟩ := hof.team id hid
  rw [sizeOf_eq hg, hg]
  rfl

/-- What makes a match of pools that were selected from a list. -/
theorem Started.Proper.of {before : Pools} (hq : q.Coherent) (hof : PoolsOf q mt pools) (htest : conf.isTesting = false)
    (henough : enough conf mt pools = true) (hfresh : ∀ team, ∃ list rest, list.Nodup ∧ Fresh q list (pools team) rest) :
    Started.Proper mt ⟨q, before, pools⟩ := by
  have hnodup : ∀ team, (pools team).SelectedGroups.Nodup := fun team => by
    obtain ⟨list, rest, hlist, ⟨_, hperm, hsub⟩, -⟩ := hfresh team
    exact (hperm.nodup_iff.1 (hlist.sublist hsub)).of_append_left
  have hmin : ∀ team, mt.minPlayers ≤ (pools team).PlayerCount := fun team => by
    unfold enough at henough
    rw [htest] at henough
    simp only [Bool.false_and, Bool.false_or, Bool.and_eq_true, decide_eq_true_eq] at henough
    cases team with
    | ALLIANCE => exact henough.1
    | HORDE => exact henough.2
  refine ⟨hnodup, fun team id hid => ?_, fun team => ?_, fun team => ?_⟩
  · obtain ⟨g, hg, hteam, -⟩ := (hof team).team id hid
    obtain ⟨list, rest, -, -, huninvited⟩ := hfresh team
    have hzero := huninvited id hid
    rw [isUninvited, hg] at hzero
    exact ⟨g, hg, hteam, by simpa using hzero⟩
  · change mt.minPlayers ≤ (playersOf q (pools team)).length
    rw [length_playersOf hq (hof team) (hnodup team)]
    exact hmin team
  · change (playersOf q (pools team)).length ≤ mt.maxPlayers
    rw [length_playersOf hq (hof team) (hnodup team)]
    exact (hof team).room

theorem Fresh.init (list : List Nat) : Fresh q list SelectionPool.init list := ⟨refl _, nofun⟩

end ComfyCraft.BattleGroundMgr
