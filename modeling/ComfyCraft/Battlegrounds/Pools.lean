import ComfyCraft.Battlegrounds.Update
import ComfyCraft.Battlegrounds.Coherent

/-! The selection pools: what a pool has taken is of its team, its count is that of its groups, and there is room for
them. The loop that balances two pools ends. -/

namespace ComfyCraft.BattleGroundMgr

open List Function Prod Nat

variable {q : Queue} {w : World} {team : Team} {room : Nat} {pool : SelectionPool}

/-- Groups of the team that are in the lists. -/
def OfTeam (q : Queue) (team : Team) (l : List Nat) : Prop :=
  ∀ id ∈ l, ∃ g, q.groups id = some g ∧ g.GroupTeam = team ∧ ∃ b j, id ∈ q.m_QueuedGroups b j

theorem Queue.Coherent.ofTeam (h : q.Coherent) (b : BattleGroundBracketId) {j : Nat} (hj : j = team.index ∨ j = team.index + 2) :
    OfTeam q team (q.m_QueuedGroups b j) := by
  intro id hid
  obtain ⟨g, hg, _, hplace⟩ := h.listed b j id hid
  refine ⟨g, hg, ?_, b, j, hid⟩
  cases hgt : g.GroupTeam <;> cases team <;> rw [hgt] at hplace <;> simp only [Team.index] at hj hplace <;> first | rfl | omega

theorem OfTeam.sublist {l l' : List Nat} (h : OfTeam q team l) (hl : l'.Sublist l) : OfTeam q team l' := fun id hid => h id
    (hl.subset hid)

namespace SelectionPool

structure Of (q : Queue) (team : Team) (room : Nat) (pool : SelectionPool) : Prop where
  team : OfTeam q team pool.SelectedGroups
  count : pool.PlayerCount = (pool.SelectedGroups.map (sizeOf q)).sum
  room : pool.PlayerCount ≤ room

theorem Of.init : Of q team room init := ⟨fun _ hid => (by cases hid), rfl, zero_le _⟩

variable {id desired : Nat}

theorem sizeOf_eq {g : GroupQueueInfo} (hg : q.groups id = some g) : sizeOf q id = g.Players.length := by
  simp [sizeOf, hg]

/-! ### Taking and kicking -/

theorem Of.addGroup (h : Of q team room pool) (hid : OfTeam q team [id]) {inst : Nat}
    (hdesired : desired ≤ room) : Of q team room (pool.addGroup q w id desired inst).1 := by
  obtain ⟨g, hg, hteam, hplace⟩ := hid id mem_cons_self
  simp only [SelectionPool.addGroup, hg]
  split
  · rename_i hfits
    refine ⟨fun i hi => ?_, ?_, le_trans hfits.2.2.1 hdesired⟩
    · rcases mem_append.1 hi with hi | hi
      · exact h.team i hi
      · exact hid i hi
    · simp [h.count, sizeOf_eq hg]
  · exact h

theorem groupToKick_mem (q : Queue) (size : Int) (first : Nat) (l : List Nat) : (groupToKick q size first l).1 ∈ first :: l := by
  unfold groupToKick
  generalize false = found
  induction l generalizing first found with
  | nil => exact mem_cons_self
  | cons id rest ih =>
    rw [foldl_cons]
    split
    · exact mem_cons_of_mem _ (ih id true)
    split
    · exact mem_cons_of_mem _ (ih id found)
    rcases mem_cons.1 (ih first found) with heq | hmem
    · exact mem_cons.2 (.inl heq)
    · exact mem_cons_of_mem _ (mem_cons_of_mem _ hmem)

theorem kickGroup_cases (h : Of q team room pool) (size : Int) : pool.PlayerCount = 0 ∧ pool.kickGroup q size = (pool, true) ∨
      ∃ id ∈ pool.SelectedGroups, (pool.kickGroup q size).1 = ⟨pool.SelectedGroups.erase id, pool.PlayerCount - sizeOf q id⟩ := by
  unfold kickGroup
  split
  · rename_i hempty
    exact .inl ⟨by rw [h.count, hempty]; rfl, rfl⟩
  rename_i first rest hsel
  by_cases hzero : pool.PlayerCount = 0
  · exact .inl ⟨hzero, if_pos hzero⟩
  rw [if_neg hzero]
  have hmem := groupToKick_mem q size first pool.SelectedGroups
  refine .inr ⟨_, ?_, rfl⟩
  rcases mem_cons.1 hmem with heq | hmem
  · rw [heq, hsel]
    exact mem_cons_self
  · exact hmem

theorem Of.kickGroup (h : Of q team room pool) (size : Int) : Of q team room (pool.kickGroup q size).1 := by
  rcases kickGroup_cases h size with ⟨_, heq⟩ | ⟨id, hid, heq⟩
  · rw [heq]
    exact h
  rw [heq]
  have hsum := ((perm_cons_erase hid).map (sizeOf q)).sum_eq
  rw [map_cons, sum_cons, ← h.count] at hsum
  have hcount : pool.PlayerCount - sizeOf q id = ((pool.SelectedGroups.erase id).map (sizeOf q)).sum := by omega
  exact ⟨fun i hi => h.team i (mem_of_mem_erase hi), hcount, le_trans (sub_le _ _) h.room⟩

/-! ### From the lists -/

theorem Of.fill (h : Of q team room pool) (w : World) (inst : Nat) (hdesired : desired ≤ room) (l : List Nat)
    (hl : OfTeam q team l) :
    Of q team room (SelectionPool.fill q w desired inst pool l).1 ∧
      OfTeam q team (SelectionPool.fill q w desired inst pool l).2 := by
  induction l generalizing pool with
  | nil => exact ⟨h, hl⟩
  | cons id rest ih =>
    have hadd : Of q team room (pool.addGroup q w id desired inst).1 := h.addGroup (hl.sublist (singleton_sublist.2 mem_cons_self)) hdesired
    unfold fill
    dsimp only
    split
    · exact ih hadd fun i hi => hl i (mem_cons_of_mem _ hi)
    · exact ⟨hadd, hl⟩

end SelectionPool

open SelectionPool

variable {mt : Match} {otherRoom : Nat} {other : SelectionPool} {team' : Team} {rest : List Nat} {bg : BattleGround}
  {f : Filling} {pools : Pools}

theorem select_of (w : World) (minSize : Nat) (hmax : mt.maxPlayers ≤ room) (l : List Nat) (hl : OfTeam q team l)
    (h : Of q team room pool) :
    Of q team room (select q w mt minSize pool l).1 ∧ OfTeam q team (select q w mt minSize pool l).2 := by
  induction l generalizing pool with
  | nil => exact ⟨h, hl⟩
  | cons id rest ih =>
    have hrest : OfTeam q team rest := fun i hi => hl i (mem_cons_of_mem _ hi)
    have hadd : Of q team room (pool.addGroup q w id mt.maxPlayers 0).1 := h.addGroup (hl.sublist (singleton_sublist.2 mem_cons_self)) hmax
    unfold select
    dsimp only
    split
    · split
      · exact ⟨hadd, hrest⟩
      · exact ih hrest hadd
    · exact ih hrest h

theorem selectMore_of {desired : Nat} (hdesired : desired ≤ room) (l : List Nat) (hl : OfTeam q team l) (h : Of q team room pool) :
    Of q team room (selectMore q w desired pool l) := by
  induction l generalizing pool with
  | nil => exact h
  | cons id rest ih =>
    have hrest : OfTeam q team rest := fun i hi => hl i (mem_cons_of_mem _ hi)
    have hadd : Of q team room (pool.addGroup q w id desired 0).1 := h.addGroup (hl.sublist (singleton_sublist.2 mem_cons_self)) hdesired
    unfold selectMore
    dsimp only
    split
    · split
      · exact ih hrest hadd
      · exact hadd
    · exact ih hrest h

/-- Both pools of a filling. -/
structure Filling.Of (q : Queue) (bg : BattleGround) (f : Filling) : Prop where
  ali : f.ali.Of q .ALLIANCE (bg.getFreeSlotsForTeam .ALLIANCE)
  horde : f.horde.Of q .HORDE (bg.getFreeSlotsForTeam .HORDE)
  aliRest : OfTeam q .ALLIANCE f.aliRest
  hordeRest : OfTeam q .HORDE f.hordeRest

theorem balanceSide_of (w : World) (inst : Nat) (diff : Int)
    (h : pool.Of q team room) (hother : other.Of q team' otherRoom) (hrest : OfTeam q team rest) :
    let r := (balanceSide q w inst room diff (otherRoom - other.PlayerCount) pool other rest).1
    r.1.Of q team room ∧ r.2.1.Of q team' otherRoom ∧ OfTeam q team r.2.2 := by
  have hkick := h.kickGroup ((otherRoom : Int) - other.PlayerCount - diff)
  have hdesired : ((room : Int) - (otherRoom - other.PlayerCount)).toNat ≤ room := by
    have := hother.room
    omega
  have hfill := hkick.fill w inst hdesired rest hrest
  unfold balanceSide
  dsimp only
  split
  · split
    · split
      · exact ⟨hfill.1, hother, hfill.2⟩
      · exact ⟨hfill.1, hother.kickGroup _, hfill.2⟩
    · exact ⟨hfill.1, hother, hfill.2⟩
  · split
    · split
      · exact ⟨hkick, hother, hrest⟩
      · exact ⟨hkick, hother.kickGroup _, hrest⟩
    · exact ⟨hkick, hother, hrest⟩

theorem balanceStep_of (h : f.Of q bg) : (balanceStep q w bg f).1.Of q bg := by
  unfold balanceStep
  dsimp only
  split
  · have hside := balanceSide_of w bg.clientInstanceID (bg.getFreeSlotsForTeam .ALLIANCE - f.ali.PlayerCount) h.ali h.horde h.aliRest
    exact ⟨hside.1, hside.2.1, hside.2.2, h.hordeRest⟩
  · have hside := balanceSide_of w bg.clientInstanceID (bg.getFreeSlotsForTeam .HORDE - f.horde.PlayerCount) h.horde h.ali h.hordeRest
    exact ⟨hside.2.1, hside.1, h.aliRest, hside.2.2⟩

theorem balance_of (differential fuel : Nat) (h : f.Of q bg) : (balance q w bg differential fuel f).Of q bg := by
  induction fuel generalizing f with
  | zero => exact h
  | succ fuel ih =>
    have hstep := balanceStep_of (w := w) h
    unfold balance
    dsimp only
    split
    · split
      · rename_i f' hbreaks
        rw [hbreaks] at hstep
        exact hstep
      · rename_i f' hmore
        rw [hmore] at hstep
        exact ih hstep
    · exact h

theorem fillPlayersToBG_of (hq : q.Coherent) (conf : Conf) (w : World) (bg : BattleGround) :
    (fillPlayersToBG conf q w bg).1.Of q .ALLIANCE (bg.getFreeSlotsForTeam .ALLIANCE) ∧
      (fillPlayersToBG conf q w bg).2.Of q .HORDE (bg.getFreeSlotsForTeam .HORDE) := by
  unfold fillPlayersToBG
  split
  · exact ⟨Of.init, Of.init⟩
  have hali := (@Of.init q .ALLIANCE (bg.getFreeSlotsForTeam .ALLIANCE)).fill w bg.clientInstanceID (le_refl _) _
    (hq.ofTeam bg.bracketId (j := 2) (.inr rfl))
  have hhorde := (@Of.init q .HORDE (bg.getFreeSlotsForTeam .HORDE)).fill w bg.clientInstanceID (le_refl _) _
    (hq.ofTeam bg.bracketId (j := 3) (.inr rfl))
  dsimp only
  split
  · exact ⟨hali.1, hhorde.1⟩
  · exact ⟨(balance_of _ _ ⟨hali.1, hhorde.1, hali.2, hhorde.2⟩).ali, (balance_of _ _ ⟨hali.1, hhorde.1, hali.2, hhorde.2⟩).horde⟩

/-! ### The balancing loop ends -/

theorem addGroup_length (q : Queue) (w : World) (pool : SelectionPool) (id desired inst : Nat) :
    (pool.addGroup q w id desired inst).1.SelectedGroups.length ≤ pool.SelectedGroups.length + 1 ∧
      ((pool.addGroup q w id desired inst).2 = false → (pool.addGroup q w id desired inst).1 = pool) := by
  unfold addGroup
  cases q.groups id with
  | none => exact ⟨le_succ _, fun _ => rfl⟩
  | some g =>
    dsimp only
    split
    · exact ⟨by simp, fun hcon => by cases hcon⟩
    · exact ⟨le_succ _, fun _ => rfl⟩

/-- At most one group is taken for each that leaves the list, and none when none leaves it. -/
theorem fill_length (q : Queue) (w : World) (desired inst : Nat) (l : List Nat) (pool : SelectionPool) :
    (fill q w desired inst pool l).1.SelectedGroups.length + (fill q w desired inst pool l).2.length ≤
        pool.SelectedGroups.length + l.length ∧
      ((fill q w desired inst pool l).2.length < l.length ∨
        (fill q w desired inst pool l).2.length = l.length ∧ (fill q w desired inst pool l).1 = pool) := by
  induction l generalizing pool with
  | nil => exact ⟨le_refl _, .inr ⟨rfl, rfl⟩⟩
  | cons id rest ih =>
    obtain ⟨hlen, hsame⟩ := addGroup_length q w pool id desired inst
    unfold fill
    dsimp only
    split
    · obtain ⟨hsum, hrest⟩ := ih (pool.addGroup q w id desired inst).1
      simp only [length_cons]
      exact ⟨by omega, .inl (by omega)⟩
    · rename_i hfull
      have hpool := hsame (by simpa using hfull)
      exact ⟨by rw [hpool], .inr ⟨rfl, hpool⟩⟩

theorem kickGroup_length (h : pool.Of q team room) (size : Int) : pool.PlayerCount = 0 ∧ pool.kickGroup q size = (pool, true) ∨
      (pool.kickGroup q size).1.SelectedGroups.length + 1 = pool.SelectedGroups.length := by
  rcases kickGroup_cases h size with hzero | ⟨id, hid, heq⟩
  · exact .inl hzero
  have hpos := length_pos_of_mem hid
  rw [heq, length_erase_of_mem hid]
  exact .inr (by omega)

/-- A turn that does not break leaves less to do. -/
theorem balanceSide_measure {inst : Nat} {free diff otherDiff : Int}
    (h : pool.Of q team room) (hother : other.Of q team' otherRoom) (hsome : 0 < pool.PlayerCount ∨ 0 < other.PlayerCount)
    (hgoes : (balanceSide q w inst free diff otherDiff pool other rest).2 = false) :
    let r := (balanceSide q w inst free diff otherDiff pool other rest).1
    2 * r.2.2.length + r.1.SelectedGroups.length + r.2.1.SelectedGroups.length <
      2 * rest.length + pool.SelectedGroups.length + other.SelectedGroups.length := by
  have hkick := kickGroup_length h (otherDiff - diff)
  have hkickOther := kickGroup_length hother (otherDiff - diff)
  obtain ⟨hsum, hrest⟩ := fill_length q w (free - otherDiff).toNat inst rest (pool.kickGroup q (otherDiff - diff)).1
  unfold balanceSide at hgoes ⊢
  dsimp only at hgoes ⊢
  rcases hkick with ⟨hzero, hkicked⟩ | hkicked
  · -- an empty pool: either its list gives something, or the other team loses a group
    rw [hkicked] at hsum hrest hgoes ⊢
    dsimp only at hsum hrest hgoes ⊢
    rw [if_pos rfl] at hgoes ⊢
    rcases hkickOther with ⟨hcon, _⟩ | hotherKicked
    · omega
    rcases hrest with hrest | ⟨hlen, hsame⟩
    · split
      · split
        · dsimp only
          omega
        · dsimp only
          omega
      · dsimp only
        omega
    · rw [hsame] at hgoes ⊢
      rw [if_pos hzero] at hgoes ⊢
      split
      · rename_i hbreaks
        rw [if_pos hbreaks] at hgoes
        cases hgoes
      · dsimp only
        omega
  · have hotherLe : (other.kickGroup q (otherDiff - diff)).1.SelectedGroups.length ≤ other.SelectedGroups.length := by
      rcases hkickOther with ⟨_, heq⟩ | hlen
      · rw [heq]
      · omega
    cases (pool.kickGroup q (otherDiff - diff)).2 with
    | true =>
      rw [if_pos rfl]
      split
      · split <;> (dsimp only; omega)
      · dsimp only
        omega
    | false =>
      rw [if_neg Bool.false_ne_true]
      split
      · split <;> (dsimp only; omega)
      · dsimp only
        omega

theorem balanceStep_measure {f' : Filling} (h : f.Of q bg)
    (hsome : 0 < f.horde.PlayerCount ∨ 0 < f.ali.PlayerCount) (hgoes : balanceStep q w bg f = (f', false)) :
    f'.measure < f.measure := by
  -- what a side leaves, with the other list as it was
  have hali : ∀ {l l' r a a' b b' : Nat}, 2 * r + a' + b' < 2 * l + a + b → 2 * (r + l') + a' + b' < 2 * (l + l') + a + b := by
    intro l l' r a a' b b' hlt
    omega
  have hhorde : ∀ {l l' r a a' b b' : Nat}, 2 * r + b' + a' < 2 * l + b + a → 2 * (l' + r) + a' + b' < 2 * (l' + l) + a + b := by
    intro l l' r a a' b b' hlt
    omega
  unfold balanceStep at hgoes
  dsimp only at hgoes
  split at hgoes
  · rw [← (mk.inj hgoes).1]
    exact hali (balanceSide_measure h.ali h.horde hsome.symm (mk.inj hgoes).2)
  · rw [← (mk.inj hgoes).1]
    exact hhorde (balanceSide_measure h.horde h.ali hsome (mk.inj hgoes).2)

theorem balance_fuel (differential fuel : Nat) (h : f.Of q bg) (hfuel : f.measure ≤ fuel) :
    balance q w bg differential (fuel + 1) f = balance q w bg differential fuel f := by
  induction fuel generalizing f with
  | zero =>
    unfold Filling.measure at hfuel
    have hali : f.ali.SelectedGroups = [] := length_eq_zero_iff.1 (by omega)
    have hhorde : f.horde.SelectedGroups = [] := length_eq_zero_iff.1 (by omega)
    have hali : f.ali.PlayerCount = 0 := by rw [h.ali.count, hali]; rfl
    have hhorde : f.horde.PlayerCount = 0 := by rw [h.horde.count, hhorde]; rfl
    simp [balance, hali, hhorde]
  | succ fuel ih =>
    rw [balance]
    conv_rhs => rw [balance]
    split
    · rename_i hloop
      rcases hstep : balanceStep q w bg f with ⟨f', breaks⟩
      cases breaks with
      | true => rfl
      | false =>
        have hof := balanceStep_of (w := w) h
        rw [hstep] at hof
        exact ih hof (by have := balanceStep_measure h hloop.2 hstep; omega)
    · rfl

/-! ### New matches -/

/-- The pools of a new match, for which a team may have as many players as the match allows. -/
def PoolsOf (q : Queue) (mt : Match) (pools : Pools) : Prop := ∀ team, (pools team).Of q team mt.maxPlayers

theorem PoolsOf.init : PoolsOf q mt Pools.init := fun _ => Of.init

theorem selectBoth_of (hq : q.Coherent) (h : PoolsOf q mt pools) (b : BattleGroundBracketId) (minSize : Nat) (team : Team) :
    ((select q w mt minSize (select q w mt minSize (pools team) (q.m_QueuedGroups b team.index)).1
      (q.m_QueuedGroups b (team.index + 2))).1).Of q team mt.maxPlayers :=
  (select_of w minSize (le_refl _) _ (hq.ofTeam b (.inr rfl))
    (select_of w minSize (le_refl _) _ (hq.ofTeam b (.inl rfl)) (h team)).1).1

theorem checkNormalMatch_of (hq : q.Coherent) (conf : Conf) (w : World) (b : BattleGroundBracketId)
    (h : PoolsOf q mt pools) : PoolsOf q mt (checkNormalMatch conf w mt b q pools).1 := by
  have hselected := fun team => select_of w 0 (le_refl mt.maxPlayers) _ (hq.ofTeam b (j := team.index + 2) (.inr rfl)) (h team)
  have hmore : ∀ j : Team, PoolsOf q mt (update
      (fun team => (select q w mt 0 (pools team) (q.m_QueuedGroups b (team.index + 2))).1) j
      (selectMore q w (select q w mt 0 (pools j.other) (q.m_QueuedGroups b (j.other.index + 2))).1.PlayerCount
        (select q w mt 0 (pools j) (q.m_QueuedGroups b (j.index + 2))).1
        (select q w mt 0 (pools j) (q.m_QueuedGroups b (j.index + 2))).2)) := by
    intro j team
    by_cases hteam : team = j
    · subst hteam
      rw [update_self]
      exact selectMore_of (hselected _).1.room _ (hselected team).2 (hselected team).1
    · rw [update_of_ne hteam]
      exact (hselected team).1
  unfold checkNormalMatch
  dsimp only
  split
  · split
    · exact hmore _
    · exact hmore _
  · exact fun team => (hselected team).1

end ComfyCraft.BattleGroundMgr
