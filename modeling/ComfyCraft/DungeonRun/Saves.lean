import ComfyCraft.DungeonRun.Model
import ComfyCraft.Lib.Runs

/-! The saves a run has queued, as an invariant of the store. What is saved at the last boss is a part of what is
saved at the full run: the kills and members are first parts of the later ones, and the columns the upsert
does not update have their last values already. -/

namespace ComfyCraft.DungeonRun

open List AList

theorem toNat_max (a b : UInt8) : (max a b).toNat = max a.toNat b.toNat := by
  have h : max a b = if a ≤ b then b else a := rfl
  rw [h]
  split_ifs with hle
  · rw [UInt8.le_iff_toNat_le] at hle; omega
  · rw [UInt8.le_iff_toNat_le] at hle; omega

theorem le_foldl_max (l : List UInt8) (a : UInt8) : a.toNat ≤ (l.foldl max a).toNat := by
  induction l generalizing a with
  | nil => exact le_rfl
  | cons b l ih =>
    have h := ih (max a b)
    rw [toNat_max] at h
    rw [foldl_cons]
    omega

/-- What does not change in a run once its last boss is dead, and what only grows. -/
structure Onward (run run' : Run) : Prop where
  id : run'.id = run.id
  wing : run'.wing = run.wing
  startTime : run'.startTime = run.startTime
  bossLevel : run'.bossLevel = run.bossLevel
  lastMaxLevel : run'.lastMaxLevel = run.lastMaxLevel
  kills : run.kills <+: run'.kills
  members : run.members <+: run'.members
  maxLevel : run.maxLevel.toNat ≤ run'.maxLevel.toNat

theorem Onward.same {run run' : Run} (h1 : run'.id = run.id) (h2 : run'.wing = run.wing) (h3 : run'.startTime = run.startTime)
    (h4 : run'.bossLevel = run.bossLevel) (h5 : run'.lastMaxLevel = run.lastMaxLevel) (h6 : run'.kills = run.kills)
    (h7 : run'.members = run.members) (h8 : run'.maxLevel = run.maxLevel) : Onward run run' :=
  ⟨h1, h2, h3, h4, h5, by rw [h6], by rw [h7], by rw [h8]⟩

theorem Onward.refl (run : Run) : Onward run run := Onward.same rfl rfl rfl rfl rfl rfl rfl rfl

theorem Onward.trans {a b c : Run} (h : Onward a b) (h' : Onward b c) : Onward a c where
  id := h'.id.trans h.id
  wing := h'.wing.trans h.wing
  startTime := h'.startTime.trans h.startTime
  bossLevel := h'.bossLevel.trans h.bossLevel
  lastMaxLevel := h'.lastMaxLevel.trans h.lastMaxLevel
  kills := h.kills.trans h'.kills
  members := h.members.trans h'.members
  maxLevel := h.maxLevel.trans h'.maxLevel

def lastTime (t : Lists) (mapId : UInt32) (run : Run) : Option UInt32 :=
  if lastKilled t mapId run then
    ((run.kills.filter fun k => k.slot ∈ t.lastSlots mapId run.wing).getLast?).map Kill.ms
  else none

def fullTime (run : Run) : Option UInt32 := if run.done then run.kills.getLast?.map Kill.ms else none

/-- The saves a run has queued so far. -/
inductive Saved (t : Lists) (mapId : UInt32) (run : Run) : Prop
  | none (h : run.saves = []) (hl : run.lastDone = false) (hd : run.done = false)
  | last (run₁ : Run) (ms : UInt32) (h : run.saves = [saveOf mapId run₁ ms 0]) (ho : Onward run₁ run)
      (hl : run.lastDone = true) (hd : run.done = false) (ht : lastTime t mapId run = some ms)
  | full (tx : SaveTx) (h : run.saves = [tx]) (hd : run.done = true)
  | both (run₁ : Run) (ms ms' : UInt32) (h : run.saves = [saveOf mapId run₁ ms 0, saveOf mapId run 0 ms'])
      (ho : run₁.id ≠ 0 → Onward run₁ run) (hd : run.done = true) (ht : lastTime t mapId run = some ms)
      (ht' : fullTime run = some ms')

structure Kept (t : Lists) (tablesPresent : Bool) (mapId : UInt32) (run : Run) : Prop where
  unknown : run.wingKnown = false → run.kills = []
  slots : (run.kills.map Kill.slot).Nodup
  entries : ∀ k ∈ run.kills, ∃ row, t.rowOf mapId k.entry = some row ∧ slotId row = k.slot
  last : run.lastDone = lastKilled t mapId run
  absent : tablesPresent = false → run.saves = []
  saved : tablesPresent = true → Saved t mapId run

section Enter

variable {t : Lists} {present : Bool} {mapId : UInt32} {run : Run}

theorem onward_enterRun (run : Run) (player : Entrant) : Onward run (enterRun run player) := by
  unfold enterRun
  split_ifs with h
  · refine ⟨rfl, rfl, rfl, rfl, rfl, prefix_refl _, ?_, ?_⟩
    · dsimp only
      split_ifs
      · exact prefix_refl _
      · exact prefix_append _ _
    · rw [toNat_max]
      omega
  · exact Onward.refl run

theorem enterRun_same (run : Run) (player : Entrant) :
    (enterRun run player).kills = run.kills ∧ (enterRun run player).wingKnown = run.wingKnown ∧
      (enterRun run player).lastDone = run.lastDone ∧ (enterRun run player).done = run.done ∧
      (enterRun run player).saves = run.saves ∧ (run.done = true → enterRun run player = run) := by
  unfold enterRun
  split_ifs with h
  · refine ⟨rfl, rfl, rfl, rfl, rfl, fun hd => ?_⟩
    rw [hd] at h
    simp at h
  · exact ⟨rfl, rfl, rfl, rfl, rfl, fun _ => rfl⟩

variable {run' : Run}

theorem lastKilled_congr {run : Run} (hk : run'.kills = run.kills) (hw : run'.wing = run.wing) :
    lastKilled t mapId run' = lastKilled t mapId run := by
  unfold lastKilled
  rw [hk, hw]

theorem lastTime_congr {run : Run} (hk : run'.kills = run.kills) (hw : run'.wing = run.wing) :
    lastTime t mapId run' = lastTime t mapId run := by
  unfold lastTime
  rw [lastKilled_congr hk hw, hk, hw]

theorem kept_enterRun (h : Kept t present mapId run) (player : Entrant) : Kept t present mapId (enterRun run player) := by
  have ho := onward_enterRun run player
  obtain ⟨hk, hw, hl, hd, hs, hdone⟩ := enterRun_same run player
  refine ⟨?_, ?_, ?_, ?_, ?_, ?_⟩
  · rw [hw, hk]; exact h.unknown
  · rw [hk]; exact h.slots
  · rw [hk]; exact h.entries
  · rw [hl, lastKilled_congr hk ho.wing]; exact h.last
  · rw [hs]; exact h.absent
  intro hp
  cases h.saved hp with
  | none h1 h2 h3 => exact .none (hs.trans h1) (hl.trans h2) (hd.trans h3)
  | last run₁ ms h1 h2 h3 h4 h5 =>
    exact .last run₁ ms (hs.trans h1) (h2.trans ho) (hl.trans h3) (hd.trans h4) ((lastTime_congr hk ho.wing).trans h5)
  | full tx h1 h2 => exact .full tx (hs.trans h1) (hd.trans h2)
  | both run₁ ms ms' h1 h2 h3 h4 h5 =>
    rw [hdone h3]
    exact .both run₁ ms ms' h1 h2 h3 h4 h5

theorem kept_freshRun (t : Lists) (present : Bool) (mapId now : UInt32) (time : Nat) (old : Bool) :
    Kept t present mapId (freshRun t mapId now time old) where
  unknown _ := rfl
  slots := nodup_nil
  entries k hk := by cases hk
  last := by
    unfold lastKilled freshRun
    simp only
    cases t.lastSlots mapId 0 <;> rfl
  absent _ := rfl
  saved _ := .none rfl rfl rfl

end Enter

section Kill

variable {t : Lists} {present : Bool} {mapId : UInt32} {run : Run} {row : DungeonBoss}

theorem lastKilled_nil (h : run.kills = []) : lastKilled t mapId run = false := by
  unfold lastKilled
  rw [h]
  cases t.lastSlots mapId run.wing <;> rfl

theorem lastKilled_iff : lastKilled t mapId run = true ↔
    t.lastSlots mapId run.wing ≠ [] ∧ ∀ s ∈ t.lastSlots mapId run.wing, ∃ k ∈ run.kills, k.slot = s := by
  unfold lastKilled
  simp

theorem kept_pickWing (h : Kept t present mapId run) (hd : run.done = false) (wing : UInt8) :
    Kept t present mapId (if run.wingKnown then run else { run with wing := wing, wingKnown := true }) := by
  split_ifs with hw
  · exact h
  have hk := h.unknown (by simpa using hw)
  have hl : run.lastDone = false := by rw [h.last]; exact lastKilled_nil hk
  refine ⟨fun hw' => (by cases hw'), h.slots, h.entries, ?_, h.absent, fun hp => ?_⟩
  · have hnil : lastKilled t mapId { run with wing := wing, wingKnown := true } = false := lastKilled_nil hk
    exact hl.trans hnil.symm
  cases h.saved hp with
  | none h1 h2 h3 => exact .none h1 h2 h3
  | last run₁ ms h1 h2 h3 h4 h5 => rw [hl] at h3; cases h3
  | full tx h1 h2 => rw [hd] at h2; cases h2
  | both run₁ ms ms' h1 h2 h3 h4 h5 => rw [hd] at h3; cases h3

variable {entry ms : UInt32} {level : UInt8} {levels : List UInt8}

theorem kills_addKill : (addKill t mapId run row entry level levels ms).kills = run.kills ++ [⟨entry, slotId row, ms⟩] := rfl

/-- Once the last boss is dead no further kill is of a slot of it. -/
theorem slot_not_last (hl : lastKilled t mapId run = true) (hnew : ∀ k ∈ run.kills, k.slot ≠ slotId row) :
    slotId row ∉ t.lastSlots mapId run.wing := by
  intro hs
  obtain ⟨k, hk, hks⟩ := (lastKilled_iff.1 hl).2 _ hs
  exact hnew k hk hks

theorem lastKilled_addKill (hl : lastKilled t mapId run = true) :
    lastKilled t mapId (addKill t mapId run row entry level levels ms) = true := by
  obtain ⟨h1, h2⟩ := lastKilled_iff.1 hl
  refine lastKilled_iff.2 ⟨h1, fun s hs => ?_⟩
  obtain ⟨k, hk, hks⟩ := h2 s hs
  exact ⟨k, mem_append_left _ hk, hks⟩

theorem onward_addKill (hs : slotId row ∉ t.lastSlots mapId run.wing) :
    Onward run (addKill t mapId run row entry level levels ms) where
  id := rfl
  wing := rfl
  startTime := rfl
  bossLevel := if_neg hs
  lastMaxLevel := rfl
  kills := prefix_append _ _
  members := prefix_refl _
  maxLevel := le_foldl_max _ _

theorem lastTime_addKill (hl : lastKilled t mapId run = true) (hs : slotId row ∉ t.lastSlots mapId run.wing) :
    lastTime t mapId (addKill t mapId run row entry level levels ms) = lastTime t mapId run := by
  unfold lastTime
  rw [lastKilled_addKill hl, hl, kills_addKill, filter_append]
  have hw : (addKill t mapId run row entry level levels ms).wing = run.wing := rfl
  rw [hw]
  simp [hs]

/-- The kill that leaves every slot of the last boss dead is one of them, and its time is the last-boss time. -/
theorem lastTime_now (hl : lastKilled t mapId run = false)
    (hn : lastKilled t mapId (addKill t mapId run row entry level levels ms) = true) :
    lastTime t mapId (addKill t mapId run row entry level levels ms) = some ms := by
  have hs : slotId row ∈ t.lastSlots mapId run.wing := by
    by_contra hs
    obtain ⟨h1, h2⟩ := lastKilled_iff.1 hn
    have : lastKilled t mapId run = true := by
      refine lastKilled_iff.2 ⟨h1, fun s hs' => ?_⟩
      obtain ⟨k, hk, hks⟩ := h2 s hs'
      rw [kills_addKill, mem_append, mem_singleton] at hk
      rcases hk with hk | rfl
      · exact ⟨k, hk, hks⟩
      have hslot : slotId row = s := hks
      rw [hslot] at hs
      exact absurd hs' hs
    rw [hl] at this
    cases this
  unfold lastTime
  rw [hn, kills_addKill, filter_append]
  have hw : (addKill t mapId run row entry level levels ms).wing = run.wing := rfl
  rw [hw]
  simp [hs]

/-- What `Save` does when the tables are there. -/
theorem save_present (lastRunId mapId : UInt32) (run : Run) (lastMs fullMs : UInt32) :
    ∃ id, (run.id ≠ 0 → id = run.id) ∧ (save true lastRunId mapId run lastMs fullMs).2 =
      { run with id := id, saves := run.saves ++ [saveOf mapId { run with id := id } lastMs fullMs] } := by
  unfold save
  by_cases hid : run.id = 0
  · refine ⟨lastRunId + 1, fun h => absurd hid h, ?_⟩
    simp [hid]
  · refine ⟨run.id, fun _ => rfl, ?_⟩
    simp [hid]

def ended (t : Lists) (mapId : UInt32) (run : Run) (row : DungeonBoss) : Run :=
  let run := if !run.lastDone && lastKilled t mapId run then { run with lastDone := true, lastMaxLevel := run.maxLevel } else run
  { run with done := !row.isOptional && t.slotCount mapId run.wing ≤ run.required }

theorem ended_same (t : Lists) (mapId : UInt32) (run : Run) (row : DungeonBoss) :
    (ended t mapId run row).kills = run.kills ∧ (ended t mapId run row).wing = run.wing ∧
      (ended t mapId run row).wingKnown = run.wingKnown ∧ (ended t mapId run row).saves = run.saves ∧
      (ended t mapId run row).lastDone = (run.lastDone || lastKilled t mapId run) ∧
      (run.lastDone = true → Onward run (ended t mapId run row)) := by
  unfold ended
  cases hl : run.lastDone <;> cases hk : lastKilled t mapId run
  · exact ⟨rfl, rfl, rfl, rfl, hl, fun h => (by cases h)⟩
  · exact ⟨rfl, rfl, rfl, rfl, rfl, fun h => (by cases h)⟩
  · exact ⟨rfl, rfl, rfl, rfl, hl, fun _ => Onward.same rfl rfl rfl rfl rfl rfl rfl rfl⟩
  · exact ⟨rfl, rfl, rfl, rfl, hl, fun _ => Onward.same rfl rfl rfl rfl rfl rfl rfl rfl⟩

theorem finishKill_eq (t : Lists) (present : Bool) (lastRunId mapId : UInt32) (run : Run) (row : DungeonBoss) (ms : UInt32) :
    finishKill t present lastRunId mapId run row ms =
      if (!run.lastDone && lastKilled t mapId run) || (ended t mapId run row).done then
        save present lastRunId mapId (ended t mapId run row) (if !run.lastDone && lastKilled t mapId run then ms else 0)
          (if (ended t mapId run row).done then ms else 0)
      else (lastRunId, ended t mapId run row) := rfl

theorem kept_finishKill (h : Kept t present mapId run) (hd : run.done = false) (hw : run.wingKnown = true)
    (hrow : t.rowOf mapId entry = some row) (hnew : ∀ k ∈ run.kills, k.slot ≠ slotId row) (lastRunId : UInt32) :
    Kept t present mapId (finishKill t present lastRunId mapId (addKill t mapId run row entry level levels ms) row ms).2 := by
  set run₂ := addKill t mapId run row entry level levels ms with hrun₂
  obtain ⟨hk, hwing, hwk, hs, hl, ho⟩ := ended_same t mapId run₂ row
  set run₃ := ended t mapId run₂ row with hrun₃
  have hkills : run₃.kills = run.kills ++ [⟨entry, slotId row, ms⟩] := hk
  have hslots : (run₃.kills.map Kill.slot).Nodup := by
    rw [hkills, map_append, nodup_append]
    refine ⟨h.slots, by simp, ?_⟩
    intro s hs' s' hs'' heq
    obtain ⟨k, hkm, rfl⟩ := mem_map.1 hs'
    simp only [map_cons, map_nil, mem_singleton] at hs''
    exact hnew k hkm (heq.trans hs'')
  have hentries : ∀ k ∈ run₃.kills, ∃ row, t.rowOf mapId k.entry = some row ∧ slotId row = k.slot := by
    intro k hkm
    rw [hkills, mem_append, mem_singleton] at hkm
    rcases hkm with hkm | rfl
    · exact h.entries k hkm
    · exact ⟨row, hrow, rfl⟩
  have hlast : run₃.lastDone = lastKilled t mapId run₃ := by
    rw [lastKilled_congr hk hwing, hl]
    cases hd₂ : run₂.lastDone with
    | false => rfl
    | true =>
      have hlk : lastKilled t mapId run = true := by rw [← h.last]; exact hd₂
      rw [lastKilled_addKill hlk]
      rfl
  have hknown : run₃.wingKnown = true := hwk.trans hw
  -- saving gives the run its id and a transaction more, and nothing else
  have hkeep : ∀ run' : Run, run'.kills = run₃.kills → run'.wing = run₃.wing → run'.wingKnown = run₃.wingKnown →
      run'.lastDone = run₃.lastDone → (present = false → run'.saves = []) → (present = true → Saved t mapId run') →
      Kept t present mapId run' := by
    intro run' e1 e2 e3 e4 ha hsv
    refine ⟨?_, ?_, ?_, ?_, ha, hsv⟩
    · intro hu; rw [e3, hknown] at hu; cases hu
    · rw [e1]; exact hslots
    · rw [e1]; exact hentries
    · rw [e4, lastKilled_congr e1 e2]; exact hlast
  rw [finishKill_eq]
  cases present with
  | false =>
    have hsame : (if (!run₂.lastDone && lastKilled t mapId run₂) || run₃.done then
        save false lastRunId mapId run₃ (if !run₂.lastDone && lastKilled t mapId run₂ then ms else 0) (if run₃.done then ms else 0)
        else (lastRunId, run₃)).2 = run₃ := by
      split_ifs <;> rfl
    rw [hsame]
    exact hkeep run₃ rfl rfl rfl rfl (fun _ => hs.trans (h.absent rfl)) fun hp => (by cases hp)
  | true =>
    cases hld : run.lastDone with
    | false =>
      have hsaves : run₃.saves = [] := by
        cases h.saved rfl with
        | none h1 h2 h3 => exact hs.trans h1
        | last run₁ ms h1 h2 h3 h4 h5 => rw [hld] at h3; cases h3
        | full tx h1 h2 => rw [hd] at h2; cases h2
        | both run₁ ms ms' h1 h2 h3 h4 h5 => rw [hd] at h3; cases h3
      have hlk : lastKilled t mapId run = false := h.last ▸ hld
      have hld₂ : run₂.lastDone = false := hld
      cases hnow : lastKilled t mapId run₂ with
      | false =>
        rw [hld₂]
        cases hfull : run₃.done with
        | false =>
          have hl₃ : run₃.lastDone = false := by rw [hl, hld₂, hnow]; rfl
          exact hkeep run₃ rfl rfl rfl rfl (fun hp => (by cases hp)) fun _ => .none hsaves hl₃ hfull
        | true =>
          obtain ⟨id, -, hsv⟩ := save_present lastRunId mapId run₃ 0 ms
          change Kept t true mapId (save true lastRunId mapId run₃ 0 ms).2
          rw [hsv, hsaves]
          exact hkeep _ rfl rfl rfl rfl (fun hp => (by cases hp)) fun _ => .full _ rfl hfull
      | true =>
        rw [hld₂]
        have ht : lastTime t mapId run₃ = some ms := (lastTime_congr hk hwing).trans (lastTime_now hlk hnow)
        have hl₃ : run₃.lastDone = true := by rw [hl, hld₂, hnow]; rfl
        cases hfull : run₃.done with
        | false =>
          obtain ⟨id, -, hsv⟩ := save_present lastRunId mapId run₃ ms 0
          change Kept t true mapId (save true lastRunId mapId run₃ ms 0).2
          rw [hsv, hsaves]
          refine hkeep _ rfl rfl rfl rfl (fun hp => (by cases hp)) fun _ => ?_
          exact .last { run₃ with id := id } ms rfl (Onward.same rfl rfl rfl rfl rfl rfl rfl rfl) hl₃ hfull ht
        | true =>
          obtain ⟨id, -, hsv⟩ := save_present lastRunId mapId run₃ ms ms
          change Kept t true mapId (save true lastRunId mapId run₃ ms ms).2
          rw [hsv, hsaves]
          exact hkeep _ rfl rfl rfl rfl (fun hp => (by cases hp)) fun _ => .full _ rfl hfull
    | true =>
      have hlk : lastKilled t mapId run = true := h.last ▸ hld
      have hld₂ : run₂.lastDone = true := hld
      have hslot := slot_not_last hlk hnew
      have hon : Onward run run₃ := (onward_addKill hslot).trans (ho hld)
      have ht : lastTime t mapId run₃ = lastTime t mapId run := (lastTime_congr hk hwing).trans (lastTime_addKill hlk hslot)
      have hl₃ : run₃.lastDone = true := by rw [hl, hld₂]; rfl
      rw [hld₂]
      cases h.saved rfl with
      | none h1 h2 h3 => rw [hld] at h2; cases h2
      | full tx h1 h2 => rw [hd] at h2; cases h2
      | both run₁ ms ms' h1 h2 h3 h4 h5 => rw [hd] at h3; cases h3
      | last run₁ ms₁ h1 h2 h3 h4 h5 =>
        have hsaves : run₃.saves = [saveOf mapId run₁ ms₁ 0] := hs.trans h1
        cases hfull : run₃.done with
        | false =>
          exact hkeep run₃ rfl rfl rfl rfl (fun hp => (by cases hp)) fun _ =>
            .last run₁ ms₁ hsaves (h2.trans hon) hl₃ hfull (ht.trans h5)
        | true =>
          obtain ⟨id, hid, hsv⟩ := save_present lastRunId mapId run₃ 0 ms
          change Kept t true mapId (save true lastRunId mapId run₃ 0 ms).2
          rw [hsv, hsaves]
          refine hkeep _ rfl rfl rfl rfl (fun hp => (by cases hp)) fun _ => ?_
          have hon₁ := h2.trans hon
          refine .both run₁ ms₁ ms rfl (fun h0 => ?_) hfull (ht.trans h5) ?_
          · have hid' : id = run₁.id := (hid fun h3 => h0 (hon₁.id.symm.trans h3)).trans hon₁.id
            exact ⟨hid', hon₁.wing, hon₁.startTime, hon₁.bossLevel, hon₁.lastMaxLevel, hon₁.kills, hon₁.members, hon₁.maxLevel⟩
          · unfold fullTime
            change (if run₃.done then run₃.kills.getLast?.map Kill.ms else none) = some ms
            rw [hfull, hkills]
            simp

theorem kept_killRun (h : Kept t present mapId run) (hrow : t.rowOf mapId entry = some row) (lastRunId now : UInt32) :
    Kept t present mapId (killRun t present lastRunId mapId run row entry level levels now).2 := by
  unfold killRun
  by_cases h1 : (run.untimed || run.done) = true
  · rw [if_pos h1]
    exact h
  rw [if_neg h1]
  have hd : run.done = false := by
    cases hd : run.done
    · rfl
    · rw [hd] at h1; simp at h1
  have hpick := kept_pickWing h hd row.wing
  have hdone : (if run.wingKnown then run else { run with wing := row.wing, wingKnown := true }).done = false := by
    split_ifs <;> exact hd
  have hknown : (if run.wingKnown then run else { run with wing := row.wing, wingKnown := true }).wingKnown = true := by
    split_ifs with hw
    · exact hw
    · rfl
  generalize (if run.wingKnown then run else { run with wing := row.wing, wingKnown := true }) = run₁ at hpick hdone hknown ⊢
  by_cases hwing : row.wing ≠ run₁.wing
  · simp only [if_pos hwing]
    exact hpick
  by_cases hslot : (run₁.kills.any fun k => k.slot = slotId row) = true
  · simp only [if_neg hwing, if_pos hslot]
    exact hpick
  · simp only [if_neg hwing, if_neg hslot]
    refine kept_finishKill hpick hdone hknown hrow (fun k hk heq => hslot ?_) lastRunId
    exact any_eq_true.2 ⟨k, hk, by simpa using heq⟩

end Kill

/-- Every run in memory is as its events made it. -/
def StoreKept (t : Lists) (s : Store) : Prop :=
  ∀ key run, s.runs.lookup key = some run → Kept t s.tablesPresent key.1 run

variable {t : Lists} {s : Store}

theorem storeKept_insert {s' : Store} {key : UInt32 × UInt32} {run : Run} (h : StoreKept t s)
    (hp : s'.tablesPresent = s.tablesPresent) (hs : s'.runs = s.runs.insert key run) (hk : Kept t s.tablesPresent key.1 run) :
    StoreKept t s' := by
  intro key' run' hl
  rw [hs] at hl
  rw [hp]
  by_cases hkey : key' = key
  · rw [hkey, lookup_insert] at hl
    cases hl
    exact hkey ▸ hk
  · rw [lookup_insert_ne hkey] at hl
    exact h key' run' hl

theorem storeKept_enter (h : StoreKept t s) (mapId instanceId : UInt32) (player : Entrant) (now : UInt32)
    (time : Nat) (old : Bool) : StoreKept t (onPlayerEnter t s mapId instanceId player now time old) := by
  unfold onPlayerEnter
  split_ifs with hb
  · exact h
  refine storeKept_insert h rfl rfl ?_
  cases hl : s.runs.lookup (mapId, instanceId) with
  | none => exact kept_enterRun (kept_freshRun t s.tablesPresent mapId now time old) player
  | some run => exact kept_enterRun (h _ run hl) player

theorem storeKept_killed (h : StoreKept t s) (mapId instanceId entry : UInt32) (level : UInt8)
    (levels : List UInt8) (now : UInt32) :
    StoreKept t (onCreatureKilled t s mapId instanceId entry level levels now) := by
  unfold onCreatureKilled
  cases hrow : t.rowOf mapId entry with
  | none => exact h
  | some row =>
    cases hl : s.runs.lookup (mapId, instanceId) with
    | none => exact h
    | some run => exact storeKept_insert h rfl rfl (kept_killRun (h _ run hl) hrow s.lastRunId now)

theorem storeKept_gone (h : StoreKept t s) (mapId instanceId : UInt32) : StoreKept t (onInstanceGone s mapId instanceId) := by
  intro key run hl
  unfold onInstanceGone at hl
  by_cases hkey : key = (mapId, instanceId)
  · rw [hkey, lookup_erase] at hl
    cases hl
  · rw [lookup_erase_ne hkey] at hl
    exact h key run hl

theorem storeKept_step (t : Lists) (s : Store) (e : Event) (h : StoreKept t s) : StoreKept t (step t s e) := by
  cases e with
  | enter mapId instanceId player now time old => exact storeKept_enter h mapId instanceId player now time old
  | killed mapId instanceId entry level levels now => exact storeKept_killed h mapId instanceId entry level levels now
  | gone mapId instanceId => exact storeKept_gone h mapId instanceId

theorem storeKept_run (t : Lists) (tablesPresent : Bool) (maxId : UInt32) (evs : List Event) :
    StoreKept t (Runs.run (step t) (load tablesPresent maxId) evs) :=
  Runs.always (storeKept_step t) (fun key run hl => (by cases hl)) evs

end ComfyCraft.DungeonRun
