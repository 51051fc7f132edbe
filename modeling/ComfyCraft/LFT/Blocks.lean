import ComfyCraft.LFT.Guards

/-! The players of a role check are queued together: those who stay in the world are in the queue under their leader all
together or not at all. -/

namespace ComfyCraft

open List Table Bool

namespace LFTManager

/-- The player is in the queue under the leader. -/
def QueuedUnder (s : LFTManager) (guid leader : Nat) : Prop := ∃ q, s.queue.lookup guid = some q ∧ q.queueLeaderGuid = leader

/-- Of the players of each role check that was enqueued those who are still in the world are in the queue under its leader
all or none; and whom an entry is queued under is queued. -/
structure Whole (s : LFTManager) : Prop where
  rolechecks : ∀ rolecheck ∈ s.enqueued, (∀ guid ∈ rolecheck.members, s.QueuedUnder guid rolecheck.leaderGuid) ∨
    ∀ guid ∈ rolecheck.members, ¬ s.QueuedUnder guid rolecheck.leaderGuid
  leaders : ∀ guid q, s.queue.lookup guid = some q → (s.queue.lookup (q.blockLeader guid)).isSome = true

/-- Taking some players out of the queue leaves no part of a block: of two who are queued under one leader and in the
world both go or both stay, and the leader only goes with all of them. -/
def removesWhole (s : LFTManager) (R : Nat → Bool) : Bool :=
  s.queue.entries.all fun e => s.queue.entries.all fun f =>
    if e.2.blockLeader e.1 = f.2.blockLeader f.1 ∧ R e.1 ∧ !R f.1 then
      e.1 ≠ e.2.blockLeader e.1 && !(s.isInWorld e.1 && s.isInWorld f.1)
    else true

/-- A leader that queues again does so with all who are left of each earlier party, or with none of them. -/
def requeuesWhole (s : LFTManager) (leader : Nat) (members : List Nat) : Bool :=
  s.enqueued.all fun rolecheck =>
    if rolecheck.leaderGuid = leader then
      (rolecheck.members.all fun guid => guid ∈ members) || rolecheck.members.all fun guid => guid ∉ members
    else true

/-- Players are taken out of the queue, or queued anew, as whole blocks; and a role check is enqueued with its leader in
the world and an answer of everybody in the world. -/
def blockGuards : Guards where
  pend _ _ := true
  enqueue s rolecheck :=
    let members := rolecheck.members.filter s.isInWorld
    s.removesWhole (fun guid => guid ∈ members) && s.requeuesWhole rolecheck.leaderGuid members && rolecheck.leaderGuid ≠ 0 &&
      (members.isEmpty || rolecheck.leaderGuid ∈ members) && members.all fun guid => (rolecheck.responses.lookup guid).isSome
  bot s guid leader := s.removesWhole (fun other => other ∈ [guid]) && s.requeuesWhole leader [guid]
  remove := removesWhole

/-! The invariant, on the entries of the queue. -/

structure Blocks (s : LFTManager) : Prop where
  rolechecks : ∀ rolecheck ∈ s.enqueued, (∀ guid ∈ rolecheck.members, s.Under guid rolecheck.leaderGuid) ∨
    ∀ guid ∈ rolecheck.members, ¬ s.Under guid rolecheck.leaderGuid
  heads : ∀ guid q, s.entry guid = some q → ∃ r, s.entry (q.blockLeader guid) = some r ∧
    r.blockLeader (q.blockLeader guid) = q.blockLeader guid
  online : ∀ rolecheck ∈ s.enqueued, ∀ guid ∈ rolecheck.members, s.isInWorld guid = true
  named : ∀ rolecheck ∈ s.enqueued, rolecheck.leaderGuid ≠ 0

variable {s s' : LFTManager} {w : LFTWorld} {guid : Nat} {R : Nat → Bool}

variable {q : QueuedPlayer} {leader : Nat}

theorem entry_some (h : s.queue.lookup guid = some q) : s.entry guid = some { q with assignedRole := 0 } := by
  unfold entry
  rw [h]
  rfl

theorem queue_some (h : s.entry guid = some q) :
    ∃ r, s.queue.lookup guid = some r ∧ r.queueLeaderGuid = q.queueLeaderGuid ∧ r.blockLeader guid = q.blockLeader guid := by
  obtain ⟨r, hr, rfl⟩ := Option.map_eq_some_iff.1 h
  exact ⟨r, hr, rfl, rfl⟩

theorem queuedUnder_iff : s.QueuedUnder guid leader ↔ s.Under guid leader := by
  constructor
  · rintro ⟨q, hq, hleader⟩
    exact ⟨_, entry_some hq, hleader⟩
  · rintro ⟨q, hq, hleader⟩
    obtain ⟨r, hr, hsame, -⟩ := queue_some hq
    exact ⟨r, hr, hsame.trans hleader⟩

theorem Blocks.whole (h : s.Blocks) : s.Whole := by
  refine ⟨fun rolecheck hmem => ?_, fun guid q hq => ?_⟩
  · simp only [queuedUnder_iff]
    exact h.rolechecks rolecheck hmem
  · obtain ⟨r, hr, -⟩ := h.heads guid _ (entry_some hq)
    rw [← entry_isSome]
    exact (congrArg Option.isSome hr).trans rfl

theorem blockLeader_of_named (h : q.queueLeaderGuid ≠ 0) : q.blockLeader guid = q.queueLeaderGuid := if_neg h

theorem removesWhole_apply (h : s.removesWhole R = true) {g g' : Nat} {q' : QueuedPlayer} (hq : s.entry g = some q)
    (hq' : s.entry g' = some q') (hsame : q.blockLeader g = q'.blockLeader g') (hR : R g = true) (hR' : R g' = false) :
    g ≠ q.blockLeader g ∧ ¬ (s.isInWorld g = true ∧ s.isInWorld g' = true) := by
  obtain ⟨r, hr, -, hleader⟩ := queue_some hq
  obtain ⟨r', hr', -, hleader'⟩ := queue_some hq'
  have hall := all_eq_true.1 h ⟨g, r⟩ (lookup_eq_some_iff.1 hr)
  have hone := all_eq_true.1 hall ⟨g', r'⟩ (lookup_eq_some_iff.1 hr')
  rw [if_pos ⟨by rw [hleader, hleader', hsame], hR, by rw [hR']; rfl⟩] at hone
  simp only [and_eq_true, decide_eq_true_eq, not_eq_true', ne_eq] at hone
  rw [← hleader]
  refine ⟨hone.1, fun hboth => ?_⟩
  have hnot := hone.2
  rw [hboth.1, hboth.2] at hnot
  cases hnot

theorem Blocks.remove (h : s.Blocks) (hwhole : s.removesWhole R = true)
    (hentries : ∀ g, s'.entry g = if R g then none else s.entry g)
    (henqueued : s'.enqueued = s.enqueued) (honline : ∀ g, s'.isInWorld g = s.isInWorld g) : s'.Blocks := by
  have hunder : ∀ {g leader}, s'.Under g leader ↔ s.Under g leader ∧ R g = false := by
    intro g leader
    unfold Under
    rw [hentries]
    by_cases hR : R g = true
    · simp [hR]
    · simp [eq_false_iff.2 hR]
  refine ⟨fun rolecheck hmem => ?_, fun g q hq => ?_, fun rolecheck hmem g hg => ?_, fun rolecheck hmem => ?_⟩
  · rw [henqueued] at hmem
    rcases h.rolechecks rolecheck hmem with hall | hnone
    · by_cases hsome : ∃ g ∈ rolecheck.members, R g = true
      · obtain ⟨g, hg, hRg⟩ := hsome
        refine .inr fun g' hg' hunder' => ?_
        obtain ⟨⟨q', hq', hleader'⟩, hR'⟩ := hunder.1 hunder'
        obtain ⟨q, hq, hleader⟩ := hall g hg
        have hnamed := h.named rolecheck hmem
        have hsame : q.blockLeader g = q'.blockLeader g' := by
          rw [blockLeader_of_named (by rw [hleader]; exact hnamed), blockLeader_of_named (by rw [hleader']; exact hnamed), hleader, hleader']
        exact (removesWhole_apply hwhole hq hq' hsame hRg hR').2 ⟨h.online rolecheck hmem g hg, h.online rolecheck hmem g' hg'⟩
      · refine .inl fun g hg => hunder.2 ⟨hall g hg, ?_⟩
        rw [eq_false_iff]
        exact fun hR => hsome ⟨g, hg, hR⟩
    · exact .inr fun g hg hunder' => hnone g hg (hunder.1 hunder').1
  · rw [hentries] at hq
    split_ifs at hq with hRg
    obtain ⟨r, hr, hhead⟩ := h.heads g q hq
    have hstays : R (q.blockLeader g) = false := by
      rw [eq_false_iff]
      intro hR
      exact (removesWhole_apply hwhole hr hq hhead hR (eq_false_iff.2 hRg)).1 hhead.symm
    refine ⟨r, ?_, hhead⟩
    rw [hentries, hstays]
    exact hr
  · rw [henqueued] at hmem
    rw [honline]
    exact h.online rolecheck hmem g hg
  · rw [henqueued] at hmem
    exact h.named rolecheck hmem

/-- Players in the world come into the queue under a leader who is one of them, or under none. -/
theorem Blocks.queue (h : s.Blocks) {members : List Nat} (hwhole : s.removesWhole (fun g => g ∈ members) = true)
    (hrequeue : s.requeuesWhole leader members = true) (hlead : ∀ g ∈ members, leader = 0 ∨ leader ∈ members)
    (hin : ∀ g ∈ members, s.isInWorld g = true) (hnew : ∀ g ∈ members, s'.Under g leader)
    (hold : ∀ g, g ∉ members → s'.entry g = s.entry g)
    (henqueued : ∀ rolecheck ∈ s'.enqueued, rolecheck ∈ s.enqueued ∨
      rolecheck.leaderGuid = leader ∧ leader ≠ 0 ∧ ∀ g ∈ rolecheck.members, g ∈ members)
    (honline : ∀ g, s'.isInWorld g = s.isInWorld g) : s'.Blocks := by
  have hunder : ∀ {g other}, g ∉ members → (s'.Under g other ↔ s.Under g other) := by
    intro g other hg
    unfold Under
    rw [hold g hg]
  refine ⟨fun rolecheck hmem => ?_, fun g q hq => ?_, fun rolecheck hmem g hg => ?_, fun rolecheck hmem => ?_⟩
  · rcases henqueued rolecheck hmem with hmem | ⟨hleader, -, hmembers⟩
    · by_cases hleader : rolecheck.leaderGuid = leader
      · have hone := all_eq_true.1 hrequeue rolecheck hmem
        rw [if_pos hleader, or_eq_true, all_eq_true, all_eq_true] at hone
        rcases hone with hin | hout
        · refine .inl fun g hg => ?_
          rw [hleader]
          exact hnew g (of_decide_eq_true (hin g hg))
        · exact (h.rolechecks rolecheck hmem).imp (fun hall g hg => (hunder (of_decide_eq_true (hout g hg))).2 (hall g hg))
            fun hnone g hg hg' => hnone g hg ((hunder (of_decide_eq_true (hout g hg))).1 hg')
      · have hgone : ∀ g ∈ members, ¬ s'.Under g rolecheck.leaderGuid := by
          rintro g hg ⟨q, hq, hq'⟩
          obtain ⟨r, hr, hr'⟩ := hnew g hg
          rw [hq] at hr
          cases hr
          exact hleader (hq'.symm.trans hr')
        rcases h.rolechecks rolecheck hmem with hall | hnone
        · by_cases hsome : ∃ g ∈ rolecheck.members, g ∈ members
          · -- all of them are queued anew
            obtain ⟨g, hg, hgm⟩ := hsome
            refine .inr fun g' hg' hunder' => ?_
            by_cases hgm' : g' ∈ members
            · exact hgone g' hgm' hunder'
            obtain ⟨q, hq, hq'⟩ := hall g hg
            obtain ⟨r, hr, hr'⟩ := hall g' hg'
            have hnamed := h.named rolecheck hmem
            have hsame : q.blockLeader g = r.blockLeader g' := by
              rw [blockLeader_of_named (by rw [hq']; exact hnamed), blockLeader_of_named (by rw [hr']; exact hnamed), hq', hr']
            exact (removesWhole_apply hwhole hq hr hsame (decide_eq_true hgm) (decide_eq_false hgm')).2
              ⟨h.online rolecheck hmem g hg, h.online rolecheck hmem g' hg'⟩
          · exact .inl fun g hg => (hunder fun hgm => hsome ⟨g, hg, hgm⟩).2 (hall g hg)
        · refine .inr fun g hg hunder' => ?_
          by_cases hgm : g ∈ members
          · exact hgone g hgm hunder'
          · exact hnone g hg ((hunder hgm).1 hunder')
    · refine .inl fun g hg => ?_
      rw [hleader]
      exact hnew g (hmembers g hg)
  · by_cases hgm : g ∈ members
    · obtain ⟨r, hr, hleader⟩ := hnew g hgm
      rw [hq] at hr
      cases hr
      rcases hlead g hgm with hzero | hlead
      · have hself : q.blockLeader g = g := if_pos (hleader.trans hzero)
        rw [hself]
        exact ⟨q, hq, hself⟩
      by_cases hzero : leader = 0
      · have hself : q.blockLeader g = g := if_pos (hleader.trans hzero)
        rw [hself]
        exact ⟨q, hq, hself⟩
      · obtain ⟨head, hhead, hheadLeader⟩ := hnew leader hlead
        have hq' : q.blockLeader g = leader := (blockLeader_of_named (by rw [hleader]; exact hzero)).trans hleader
        rw [hq']
        exact ⟨head, hhead, (blockLeader_of_named (by rw [hheadLeader]; exact hzero)).trans hheadLeader⟩
    · rw [hold g hgm] at hq
      obtain ⟨r, hr, hhead⟩ := h.heads g q hq
      have hstays : q.blockLeader g ∉ members := by
        intro hmem
        exact (removesWhole_apply hwhole hr hq hhead (decide_eq_true hmem) (decide_eq_false hgm)).1 hhead.symm
      exact ⟨r, (hold _ hstays).trans hr, hhead⟩
  · rw [honline]
    rcases henqueued rolecheck hmem with hmem | ⟨-, -, hmembers⟩
    · exact h.online rolecheck hmem g hg
    · exact hin g (hmembers g hg)
  · rcases henqueued rolecheck hmem with hmem | ⟨hleader, hzero, -⟩
    · exact h.named rolecheck hmem
    · rw [hleader]
      exact hzero

theorem Blocks.takeIn (h : s.Blocks) (w : LFTWorld) {rolecheck : PendingRolecheck} (hok : blockGuards.enqueue s rolecheck = true) :
    (takeIn w rolecheck s).Blocks := by
  have honly := enqueueMembers_only w rolecheck s
  unfold blockGuards at hok
  simp only [and_eq_true, or_eq_true, List.isEmpty_iff, decide_eq_true_eq, List.all_eq_true] at hok
  obtain ⟨⟨⟨⟨hwhole, hrequeue⟩, hzero⟩, hlead⟩, hanswered⟩ := hok
  refine h.queue hwhole hrequeue (fun g hg => Or.inr ?_) (fun g hg => (List.mem_filter.1 hg).2) (fun g hg => ?_) (fun g hg => ?_)
    (fun other hmem => ?_) honly.online
  · rcases hlead with hempty | hlead
    · rw [hempty] at hg
      exact (List.not_mem_nil hg).elim
    · exact hlead
  · obtain ⟨hmember, honline⟩ := List.mem_filter.1 hg
    exact enqueueMembers_under w s hmember honline (hanswered g hg)
  · exact enqueueMembers_entry w s fun hmember => eq_false_iff.2 fun honline => hg (mem_filter.2 ⟨hmember, honline⟩)
  · have hlog : (LFTManager.takeIn w rolecheck s).enqueued = (enqueueMembers w rolecheck s).enqueued ++
          [{ rolecheck with members := rolecheck.members.filter (enqueueMembers w rolecheck s).isInWorld }] := rfl
    rw [hlog, honly.enqueued, mem_append, mem_singleton] at hmem
    refine hmem.imp_right ?_
    rintro rfl
    refine ⟨rfl, hzero, fun g hg => ?_⟩
    obtain ⟨hmember, honline⟩ := mem_filter.1 hg
    rw [honly.online] at honline
    exact mem_filter.2 ⟨hmember, honline⟩

end LFTManager

end ComfyCraft
