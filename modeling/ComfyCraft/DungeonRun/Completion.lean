import ComfyCraft.DungeonRun.Saves
import ComfyCraft.DungeonRun.Slots

/-! The counts and the ends of a run against the creatures that have died in the instance since it began. Events carry
the time in full, of which the timer reads the low 32 bits. -/

namespace ComfyCraft.DungeonRun

open List UInt32 Option AList Runs Lists Nat Prod

/-! ### The clock -/

def msSince (began ms : Nat) : UInt32 := getMSTimeDiff (UInt32.ofNat began) (UInt32.ofNat ms)

/-- The 32 bits of the clock have not started over since the beginning, or the beginning is not too long ago for that. -/
def Timely (began ms : Nat) : Prop := began % 2 ^ 32 + (ms - began) < 2 ^ 32 ∨ ms - began ≤ 2 ^ 31

theorem toNat_msSince {began ms : Nat} (hle : began ≤ ms) (h : Timely began ms) :
    (msSince began ms).toNat = if began % 2 ^ 32 + (ms - began) < 2 ^ 32 then ms - began else ms - began - 1 := by
  have hmin : ∀ a b : UInt32, min a b = if a ≤ b then a else b := fun _ _ => rfl
  have hfull : (0xFFFFFFFF : UInt32).toNat = 2 ^ 32 - 1 := rfl
  have hbegan : (ofNat began).toNat = began % 2 ^ 32 := toNat_ofNat'
  have hms : (ofNat ms).toNat = ms % 2 ^ 32 := toNat_ofNat'
  unfold msSince getMSTimeDiff
  generalize ofNat began = a at hbegan ⊢
  generalize ofNat ms = b at hms ⊢
  unfold Timely at h
  have hsub : ∀ c d : UInt32, (c - d).toNat = (2 ^ 32 - d.toNat + c.toNat) % 2 ^ 32 := fun c d => UInt32.toNat_sub c d
  split_ifs with hwrap hin hin
  · rw [lt_iff_toNat_lt] at hwrap
    omega
  · rw [lt_iff_toNat_lt] at hwrap
    have hfirst : (0xFFFFFFFF - a + b).toNat = ms - began - 1 := by
      rw [UInt32.toNat_add, hsub, hfull]
      omega
    rw [hmin, if_pos, hfirst]
    rw [le_iff_toNat_le, hfirst, hsub]
    omega
  · rw [hsub]
    omega
  · rw [lt_iff_toNat_lt] at hwrap
    omega

theorem msSince_mono {began ms ms' : Nat} (hbegan : began ≤ ms) (hle : ms ≤ ms') (h : Timely began ms) (h' : Timely began ms') :
    msSince began ms ≤ msSince began ms' := by
  rw [le_iff_toNat_le, toNat_msSince hbegan h, toNat_msSince (hbegan.trans hle) h']
  split_ifs <;> omega

/-! ### A visit -/

/-- What happens in the instance while its run is in memory: the time of the first entry, whether the instance had kills from
before a restart then, and the creatures that have died since. -/
structure Visit where
  began : Nat
  old : Bool
  dead : List UInt32

structure Watch where
  store : Store
  clock : Nat
  visit : Option Visit

def stamped (ms : Nat) : Event → Event
  | .enter mapId instanceId player _ time old => .enter mapId instanceId player (UInt32.ofNat ms) time old
  | .killed mapId instanceId entry level present _ => .killed mapId instanceId entry level present (UInt32.ofNat ms)
  | .gone mapId instanceId => .gone mapId instanceId

def visitStep (t : Lists) (key : UInt32 × UInt32) (v : Option Visit) (ms : Nat) : Event → Option Visit
  | .enter mapId instanceId _ _ _ old => if (mapId, instanceId) = key ∧ t.hasBosses mapId then some (v.getD ⟨ms, old, []⟩) else v
  | .killed mapId instanceId entry _ _ _ =>
    if (mapId, instanceId) = key then v.map fun v => { v with dead := v.dead ++ [entry] } else v
  | .gone mapId instanceId => if (mapId, instanceId) = key then none else v

def watch (t : Lists) (key : UInt32 × UInt32) (w : Watch) (e : Nat × Event) : Watch :=
  ⟨step t w.store (stamped e.1 e.2), e.1, visitStep t key w.visit e.1 e.2⟩

def watchStart (tablesPresent : Bool) (maxId : UInt32) : Watch := ⟨load tablesPresent maxId, 0, none⟩

def wingOf (t : Lists) (mapId : UInt32) (dead : List UInt32) : UInt8 :=
  if t.isSplit mapId then ((dead.findSome? (t.rowOf mapId)).map DungeonBoss.wing).getD 0 else 0

/-- What the timer is to hold of a visit. -/
structure Complete (t : Lists) (mapId : UInt32) (v : Visit) (run : Run) : Prop where
  wing : run.wing = wingOf t mapId v.dead
  count : run.required.toNat = (t.requiredSlots mapId run.wing ∩ t.killedSlots mapId run.wing v.dead).card
  total : (t.slotCount mapId run.wing).toNat = (t.requiredSlots mapId run.wing).card
  bound : run.required ≤ t.slotCount mapId run.wing
  full : run.done = true ↔
    (t.requiredSlots mapId run.wing).Nonempty ∧ t.requiredSlots mapId run.wing ⊆ t.killedSlots mapId run.wing v.dead
  last : run.lastDone = true ↔
    (t.lastBossSlots mapId run.wing).Nonempty ∧ t.lastBossSlots mapId run.wing ⊆ t.killedSlots mapId run.wing v.dead
  times : (run.kills.map Kill.ms).Pairwise (· ≤ ·)

/-- The clock does not go back, and no creature dies too long after the beginning for 32 bits. -/
def timely (key : UInt32 × UInt32) (w : Watch) (e : Nat × Event) : Prop :=
  w.clock ≤ e.1 ∧ match e.2 with
    | .killed mapId instanceId _ _ _ _ => (mapId, instanceId) = key → ∀ v, w.visit = some v → Timely v.began e.1
    | _ => True

/-- No optional row of the run's wing is the first to fill a required slot. -/
def counted (t : Lists) (key : UInt32 × UInt32) (w : Watch) (e : Nat × Event) : Prop :=
  match e.2 with
  | .killed mapId instanceId entry _ _ _ => (mapId, instanceId) = key → ∀ v row, w.visit = some v → v.old = false →
      t.rowOf mapId entry = some row → row.wing = wingOf t mapId (v.dead ++ [entry]) → row.isOptional = true →
      row.slot ∈ t.requiredSlots mapId row.wing → row.slot ∈ t.killedSlots mapId row.wing v.dead
  | _ => True

/-! ### The run against the slots that have a kill -/

/-- What holds of a run where `dead` are the slots of its wing that have a kill. -/
structure Followed (t : Lists) (mapId : UInt32) (began clock : Nat) (dead : Finset Slot) (run : Run) : Prop where
  valid : ∀ s ∈ dead, s.Valid
  kills : ∀ k ∈ run.kills, ∃ s ∈ dead, s.id = k.slot
  seen : run.done = false → ∀ s ∈ dead, ∃ k ∈ run.kills, k.slot = s.id
  count : run.required.toNat = (t.requiredSlots mapId run.wing ∩ dead).card
  full : run.done = true ↔ (t.requiredSlots mapId run.wing).Nonempty ∧ t.requiredSlots mapId run.wing ⊆ dead
  last : run.lastDone = true ↔ (t.lastBossSlots mapId run.wing).Nonempty ∧ t.lastBossSlots mapId run.wing ⊆ dead
  sorted : (run.kills.map Kill.ms).Pairwise (· ≤ ·)
  timed : ∀ k ∈ run.kills, ∃ ms, began ≤ ms ∧ ms ≤ clock ∧ Timely began ms ∧ k.ms = msSince began ms

variable {t : Lists} {mapId : UInt32} {began clock : Nat} {dead : Finset Slot} {run : Run}

theorem Followed.later (h : Followed t mapId began clock dead run) {clock' : Nat} (hle : clock ≤ clock') :
    Followed t mapId began clock' dead run where
  valid := h.valid
  kills := h.kills
  seen := h.seen
  count := h.count
  full := h.full
  last := h.last
  sorted := h.sorted
  timed k hk := by
    obtain ⟨ms, hms, hclock, h1, h2⟩ := h.timed k hk
    exact ⟨ms, hms, hclock.trans hle, h1, h2⟩

theorem Followed.congr (h : Followed t mapId began clock dead run) {run' : Run} (hkills : run'.kills = run.kills) (hwing : run'.wing = run.wing)
    (hdone : run'.done = run.done) (hlast : run'.lastDone = run.lastDone) (hrequired : run'.required = run.required) :
    Followed t mapId began clock dead run' where
  valid := h.valid
  kills := by rw [hkills]; exact h.kills
  seen := by rw [hkills, hdone]; exact h.seen
  count := by rw [hrequired, hwing]; exact h.count
  full := by rw [hdone, hwing]; exact h.full
  last := by rw [hlast, hwing]; exact h.last
  sorted := by rw [hkills]; exact h.sorted
  timed := by rw [hkills]; exact h.timed

/-- No boss has died yet. -/
theorem followed_empty (hkills : run.kills = []) (hdone : run.done = false) (hlast : run.lastDone = false) (hrequired : run.required = 0) :
    Followed t mapId began clock ∅ run where
  valid s hs := absurd hs (Finset.notMem_empty s)
  kills k hk := by rw [hkills] at hk; cases hk
  seen _ s hs := absurd hs (Finset.notMem_empty s)
  count := by rw [hrequired, Finset.inter_empty]; rfl
  full := by
    rw [hdone]
    exact ⟨fun h => (by cases h), fun ⟨hne, hsub⟩ => by rw [Finset.subset_empty.1 hsub] at hne; exact absurd hne Finset.not_nonempty_empty⟩
  last := by
    rw [hlast]
    exact ⟨fun h => (by cases h), fun ⟨hne, hsub⟩ => by rw [Finset.subset_empty.1 hsub] at hne; exact absurd hne Finset.not_nonempty_empty⟩
  sorted := by rw [hkills]; exact List.Pairwise.nil
  timed k hk := by rw [hkills] at hk; cases hk

/-- After the full run no kill changes anything. -/
theorem Followed.over (h : Followed t mapId began clock dead run) (hsound : t.Sound mapId) (hdone : run.done = true) {dead' : Finset Slot}
    (hsub : dead ⊆ dead') (hvalid : ∀ s ∈ dead', s.Valid) : Followed t mapId began clock dead' run := by
  obtain ⟨hne, hall⟩ := h.full.1 hdone
  have hlastAll : t.lastBossSlots mapId run.wing ⊆ dead := hsound.last_required.trans hall
  refine ⟨hvalid, fun k hk => ?_, fun hopen => (by rw [hdone] at hopen; cases hopen), ?_, ?_, ?_, h.sorted, h.timed⟩
  · obtain ⟨s, hs, hslot⟩ := h.kills k hk
    exact ⟨s, hsub hs, hslot⟩
  · rw [h.count, Finset.inter_eq_left.2 hall, Finset.inter_eq_left.2 (hall.trans hsub)]
  · exact ⟨fun _ => ⟨hne, hall.trans hsub⟩, fun _ => hdone⟩
  · rw [h.last]
    exact ⟨fun ⟨h1, h2⟩ => ⟨h1, h2.trans hsub⟩, fun ⟨h1, _⟩ => ⟨h1, hlastAll⟩⟩

section Kill

variable {row : DungeonBoss} {entry ms : UInt32} {level : UInt8} {levels : List UInt8}

theorem finishKill_same (t : Lists) (present : Bool) (lastRunId mapId : UInt32) (run : Run) (row : DungeonBoss) (ms : UInt32) :
    (finishKill t present lastRunId mapId run row ms).2.kills = run.kills ∧
      (finishKill t present lastRunId mapId run row ms).2.wing = run.wing ∧
      (finishKill t present lastRunId mapId run row ms).2.required = run.required ∧
      (finishKill t present lastRunId mapId run row ms).2.done = (!row.isOptional && t.slotCount mapId run.wing ≤ run.required) ∧
      (finishKill t present lastRunId mapId run row ms).2.startMs = run.startMs ∧
      (finishKill t present lastRunId mapId run row ms).2.untimed = run.untimed ∧
      (finishKill t present lastRunId mapId run row ms).2.wingKnown = run.wingKnown ∧
      (run.lastDone = true → (finishKill t present lastRunId mapId run row ms).2.lastDone = true) := by
  unfold finishKill save
  cases hl : run.lastDone <;> cases hk : lastKilled t mapId run <;>
    cases hd : (!row.isOptional && decide (t.slotCount mapId run.wing ≤ run.required)) <;>
    cases present <;> by_cases hid : run.id = 0 <;> simp [hl, hd, hid]

/-- The list of the kills and the slots that have one, and what is said of the last boss by either. -/
theorem lastKilled_slots (hsound : t.Sound mapId) (hvalid : ∀ s ∈ dead, s.Valid) (hkills : ∀ k ∈ run.kills, ∃ s ∈ dead, s.id = k.slot)
    (hseen : ∀ s ∈ dead, ∃ k ∈ run.kills, k.slot = s.id) :
    lastKilled t mapId run = true ↔ (t.lastBossSlots mapId run.wing).Nonempty ∧ t.lastBossSlots mapId run.wing ⊆ dead := by
  have hlastValid : ∀ s ∈ t.lastBossSlots mapId run.wing, s.Valid := by
    intro s hs
    obtain ⟨row, hrow, -, rfl⟩ := mem_lastBossSlots.1 hs
    exact hsound.slot hrow
  rw [lastKilled_iff]
  refine and_congr ?_ ?_
  · constructor
    · intro hne
      obtain ⟨a, ha⟩ := exists_mem_of_ne_nil _ hne
      obtain ⟨s, hs, -⟩ := mem_lastSlots.1 ha
      exact ⟨s, hs⟩
    · rintro ⟨s, hs⟩ hnil
      have hmem := mem_lastSlots.2 ⟨s, hs, rfl⟩
      rw [hnil] at hmem
      cases hmem
  · constructor
    · intro hall s hs
      obtain ⟨k, hk, hslot⟩ := hall s.id (mem_lastSlots.2 ⟨s, hs, rfl⟩)
      obtain ⟨s', hs', hid⟩ := hkills k hk
      rw [← Slot.id_injective (hvalid s' hs') (hlastValid s hs) (hid.trans hslot)]
      exact hs'
    · intro hsub a ha
      obtain ⟨s, hs, rfl⟩ := mem_lastSlots.1 ha
      exact hseen s (hsub hs)

theorem Followed.fresh (h : Followed t mapId began clock dead run) (hsound : t.Sound mapId) (hopen : run.done = false)
    (hrow : row ∈ t.rows mapId run.wing) (hnew : ∀ k ∈ run.kills, k.slot ≠ slotId row)
    (hcounted : row.isOptional = true → row.slot ∈ t.requiredSlots mapId run.wing → row.slot ∈ dead)
    {now : Nat} (hbegan : began ≤ clock) (hclock : clock ≤ now) (htimely : Timely began now) {present : Bool} {lastRunId : UInt32} {run' : Run}
    (hrun' : run' = (finishKill t present lastRunId mapId
      (addKill t mapId run row entry level levels (msSince began now)) row (msSince began now)).2)
    (hlast : run'.lastDone = lastKilled t mapId run') :
    Followed t mapId began now (insert row.slot dead) run' := by
  obtain ⟨hkills, hwing, hrequired, hdone, -⟩ := finishKill_same t present lastRunId mapId
    (addKill t mapId run row entry level levels (msSince began now)) row (msSince began now)
  rw [← hrun'] at hkills hwing hrequired hdone
  rw [kills_addKill] at hkills
  have hwing' : run'.wing = run.wing := hwing
  have hfresh : row.slot ∉ dead := by
    intro hs
    obtain ⟨k, hk, hslot⟩ := h.seen hopen _ hs
    exact hnew k hk (hslot.trans (slotId_eq row).symm)
  have hvalid : ∀ s ∈ insert row.slot dead, s.Valid := by
    intro s hs
    rcases Finset.mem_insert.1 hs with rfl | hs
    · exact hsound.slot hrow
    · exact h.valid s hs
  have hkilled : ∀ k ∈ run'.kills, ∃ s ∈ insert row.slot dead, s.id = k.slot := by
    intro k hk
    rw [hkills, mem_append, mem_singleton] at hk
    rcases hk with hk | rfl
    · obtain ⟨s, hs, hslot⟩ := h.kills k hk
      exact ⟨s, Finset.mem_insert_of_mem hs, hslot⟩
    · exact ⟨row.slot, Finset.mem_insert_self _ _, (slotId_eq row).symm⟩
  have hseen : ∀ s ∈ insert row.slot dead, ∃ k ∈ run'.kills, k.slot = s.id := by
    intro s hs
    rw [hkills]
    rcases Finset.mem_insert.1 hs with rfl | hs
    · exact ⟨_, mem_append_right _ (mem_singleton.2 rfl), slotId_eq row⟩
    · obtain ⟨k, hk, hslot⟩ := h.seen hopen s hs
      exact ⟨k, mem_append_left _ hk, hslot⟩
  have hcard : run'.required.toNat = (t.requiredSlots mapId run.wing ∩ insert row.slot dead).card := by
    have hstep : run'.required = if row.isOptional then run.required else run.required + 1 := hrequired
    rw [hstep]
    cases hoptional : row.isOptional with
    | true =>
      have hnot : row.slot ∉ t.requiredSlots mapId run.wing := fun hmem => hfresh (hcounted hoptional hmem)
      rw [Finset.inter_insert_of_notMem hnot]
      exact h.count
    | false =>
      have hmem : row.slot ∈ t.requiredSlots mapId run.wing := mem_requiredSlots.2 ⟨row, hrow, hoptional, rfl⟩
      have hle : (t.requiredSlots mapId run.wing ∩ insert row.slot dead).card ≤ (t.requiredSlots mapId run.wing).card :=
        Finset.card_le_card Finset.inter_subset_left
      have hlt := (t.slotCount mapId run.wing).toNat_lt
      rw [hsound.toNat_slotCount] at hlt
      have hone : (t.requiredSlots mapId run.wing ∩ insert row.slot dead).card = run.required.toNat + 1 := by
        rw [Finset.inter_insert_of_mem hmem, Finset.card_insert_of_notMem fun hin => hfresh (Finset.mem_inter.1 hin).2, h.count]
      simp only [Bool.false_eq_true, if_false]
      rw [UInt32.toNat_add, UInt32.toNat_one, mod_eq_of_lt (by omega), hone]
  have hle : ∀ k ∈ run.kills, k.ms ≤ msSince began now := by
    intro k hk
    obtain ⟨ms, hms, hmsClock, htimely', heq⟩ := h.timed k hk
    rw [heq]
    exact msSince_mono hms (hmsClock.trans hclock) htimely' htimely
  refine ⟨hvalid, hkilled, fun _ => hseen, by rw [hwing']; exact hcard, ?_, ?_, ?_, ?_⟩
  · have hsubset : (t.requiredSlots mapId run.wing ⊆ insert row.slot dead) ↔
        (t.requiredSlots mapId run.wing).card ≤ (t.requiredSlots mapId run.wing ∩ insert row.slot dead).card := by
      rw [← Finset.inter_eq_left]
      exact ⟨fun heq => by rw [heq], fun hcards => Finset.eq_of_subset_of_card_le Finset.inter_subset_left hcards⟩
    have hdone' : run'.done = true ↔ row.isOptional = false ∧ t.requiredSlots mapId run.wing ⊆ insert row.slot dead := by
      rw [hdone, ← hrequired, Bool.and_eq_true, decide_eq_true_eq, le_iff_toNat_le, hcard, hsubset]
      exact and_congr (by simp) (by rw [← hsound.toNat_slotCount]; exact Iff.rfl)
    rw [hdone', hwing']
    refine ⟨fun ⟨hoptional, hsub⟩ => ⟨⟨row.slot, mem_requiredSlots.2 ⟨row, hrow, hoptional, rfl⟩⟩, hsub⟩, fun ⟨hne, hsub⟩ => ⟨?_, hsub⟩⟩
    -- the slot is a required one, as the others had their kills before
    by_contra hoptional
    have hnot : row.slot ∉ t.requiredSlots mapId run.wing := fun hmem => hfresh (hcounted (by simpa using hoptional) hmem)
    have hbefore := h.full.2 ⟨hne, (Finset.subset_insert_iff_of_notMem hnot).1 hsub⟩
    rw [hopen] at hbefore
    cases hbefore
  · rw [hlast]
    exact lastKilled_slots hsound hvalid hkilled hseen
  · rw [hkills, map_append, pairwise_append]
    refine ⟨h.sorted, pairwise_singleton _ _, fun a ha b hb => ?_⟩
    obtain ⟨k, hk, rfl⟩ := mem_map.1 ha
    rw [map_singleton, mem_singleton] at hb
    rw [hb]
    exact hle k hk
  · intro k hk
    rw [hkills, mem_append, mem_singleton] at hk
    rcases hk with hk | rfl
    · obtain ⟨ms, hms, hmsClock, h1, h2⟩ := h.timed k hk
      exact ⟨ms, hms, hmsClock.trans hclock, h1, h2⟩
    · exact ⟨now, hbegan.trans hclock, le_refl now, htimely, rfl⟩

end Kill

/-! ### The run against the visit -/

/-- The wing of a run and the slots of it, against the creatures that have died. -/
structure Tracked (t : Lists) (mapId : UInt32) (clock : Nat) (v : Visit) (run : Run) : Prop where
  began : v.began ≤ clock
  start : run.startMs = UInt32.ofNat v.began
  untimed : run.untimed = v.old
  wing : v.old = false → run.wing = wingOf t mapId v.dead
  unknown : v.old = false → run.wingKnown = false → t.isSplit mapId = true ∧ v.dead.findSome? (t.rowOf mapId) = none ∧ run.done = false ∧
    run.lastDone = false ∧ run.required = 0
  known : v.old = false → run.wingKnown = true → t.isSplit mapId = true → (v.dead.findSome? (t.rowOf mapId)).isSome = true
  followed : v.old = false → Followed t mapId v.began clock (t.killedSlots mapId run.wing v.dead) run

variable {v : Visit}

theorem Tracked.complete (h : Tracked t mapId clock v run) (hsound : t.Sound mapId) (hold : v.old = false) : Complete t mapId v run := by
  have hfollowed := h.followed hold
  refine ⟨h.wing hold, hfollowed.count, hsound.toNat_slotCount, ?_, hfollowed.full, hfollowed.last, hfollowed.sorted⟩
  rw [le_iff_toNat_le, hfollowed.count, hsound.toNat_slotCount]
  exact Finset.card_le_card Finset.inter_subset_left

theorem Tracked.later (h : Tracked t mapId clock v run) {clock' : Nat} (hle : clock ≤ clock') : Tracked t mapId clock' v run where
  began := h.began.trans hle
  start := h.start
  untimed := h.untimed
  wing := h.wing
  unknown := h.unknown
  known := h.known
  followed hold := (h.followed hold).later hle

theorem enterRun_fields (run : Run) (player : Entrant) :
    (enterRun run player).startMs = run.startMs ∧ (enterRun run player).untimed = run.untimed ∧
      (enterRun run player).required = run.required := by
  unfold enterRun
  split_ifs <;> exact ⟨rfl, rfl, rfl⟩

theorem Tracked.enter (h : Tracked t mapId clock v run) (player : Entrant) : Tracked t mapId clock v (enterRun run player) := by
  obtain ⟨hkills, hknown, hlast, hdone, -, -⟩ := enterRun_same run player
  obtain ⟨hstart, huntimed, hrequired⟩ := enterRun_fields run player
  have hwing := (onward_enterRun run player).wing
  refine ⟨h.began, hstart.trans h.start, huntimed.trans h.untimed, fun hold => hwing.trans (h.wing hold), ?_, ?_, ?_⟩
  · rw [hknown, hdone, hlast, hrequired]
    exact h.unknown
  · rw [hknown]
    exact h.known
  · intro hold
    rw [hwing]
    exact (h.followed hold).congr hkills hwing hdone hlast hrequired

theorem tracked_fresh (t : Lists) (mapId : UInt32) (ms time : Nat) (old : Bool) :
    Tracked t mapId ms ⟨ms, old, []⟩ (freshRun t mapId (UInt32.ofNat ms) time old) where
  began := le_refl ms
  start := rfl
  untimed := rfl
  wing _ := by unfold wingOf; split_ifs <;> rfl
  unknown _ hknown := by
    have hknown' : (!t.isSplit mapId) = false := hknown
    exact ⟨by simpa using hknown', rfl, rfl, rfl, rfl⟩
  known _ hknown hsplit := by
    have hknown' : (!t.isSplit mapId) = true := hknown
    rw [hsplit] at hknown'
    cases hknown'
  followed _ := by
    have hnone : t.killedSlots mapId (freshRun t mapId (ofNat ms) time old).wing [] = ∅ := by
      unfold killedSlots
      simp
    rw [hnone]
    exact followed_empty rfl rfl rfl rfl

section Death

variable {row : DungeonBoss} {entry : UInt32} {level : UInt8} {levels : List UInt8} {present : Bool}

theorem wingOf_append (hfound : (v.dead.findSome? (t.rowOf mapId)).isSome = true ∨ t.isSplit mapId = false ∨ t.rowOf mapId entry = none) :
    wingOf t mapId (v.dead ++ [entry]) = wingOf t mapId v.dead := by
  unfold wingOf
  rw [findSome?_append]
  rcases hfound with hfound | hfound | hfound
  · obtain ⟨first, hfirst⟩ := isSome_iff_exists.1 hfound
    rw [hfirst]
    rfl
  · rw [hfound]
    rfl
  · rw [findSome?_singleton, hfound, or_none]

theorem wingOf_first (hnone : v.dead.findSome? (t.rowOf mapId) = none) (hsplit : t.isSplit mapId = true) (hrow : t.rowOf mapId entry = some row) :
    wingOf t mapId (v.dead ++ [entry]) = row.wing := by
  unfold wingOf
  rw [findSome?_append, hnone, hsplit, findSome?_singleton, hrow]
  rfl

/-- Where no creature with a row has died, no slot has a kill. -/
theorem killedSlots_none (hsound : t.Sound mapId) (hnone : v.dead.findSome? (t.rowOf mapId) = none) (wing : UInt8) :
    t.killedSlots mapId wing v.dead = ∅ := by
  refine Finset.eq_empty_of_forall_notMem fun s hs => ?_
  obtain ⟨row, hrow, hdead, -⟩ := mem_killedSlots.1 hs
  have hnorow := findSome?_eq_none_iff.1 hnone row.entry hdead
  rw [hsound.rowOf_eq hrow] at hnorow
  cases hnorow

section

variable (h : Tracked t mapId clock v run)
include h

theorem Tracked.noRow (hsound : t.Sound mapId) (hrow : t.rowOf mapId entry = none) :
    Tracked t mapId clock { v with dead := v.dead ++ [entry] } run where
  began := h.began
  start := h.start
  untimed := h.untimed
  wing hold := (h.wing hold).trans (wingOf_append (.inr (.inr hrow))).symm
  unknown hold hknown := by
    obtain ⟨hsplit, hnone, hrest⟩ := h.unknown hold hknown
    refine ⟨hsplit, ?_, hrest⟩
    rw [findSome?_append, hnone, findSome?_singleton, hrow]
    rfl
  known hold hknown hsplit := by
    rw [findSome?_append, isSome_or, h.known hold hknown hsplit]
    rfl
  followed hold := by
    change Followed t mapId v.began clock (t.killedSlots mapId run.wing (v.dead ++ [entry])) run
    rw [hsound.killedSlots_other hrow]
    exact h.followed hold

theorem Tracked.dies (hrow : t.rowOf mapId entry = some row) {now : Nat} (hclock : clock ≤ now) {run' : Run}
    (hwing : run'.wing = wingOf t mapId (v.dead ++ [entry])) (hknown : run'.wingKnown = true) (hstart : run'.startMs = run.startMs)
    (huntimed : run'.untimed = run.untimed)
    (hfollowed : Followed t mapId v.began now (t.killedSlots mapId run'.wing (v.dead ++ [entry])) run') :
    Tracked t mapId now { v with dead := v.dead ++ [entry] } run' where
  began := h.began.trans hclock
  start := hstart.trans h.start
  untimed := huntimed.trans h.untimed
  wing _ := hwing
  unknown _ hunknown := by
    rw [hknown] at hunknown
    cases hunknown
  known _ _ _ := by
    rw [findSome?_append, isSome_or, findSome?_singleton, hrow]
    exact Bool.or_true _
  followed _ := hfollowed

/-- The wing of the first boss becomes the run's. -/
theorem Tracked.pickWing (hkept : Kept t present mapId run) (hsound : t.Sound mapId) (hold : v.old = false)
    (hrow : t.rowOf mapId entry = some row) :
    (if run.wingKnown then run else { run with wing := row.wing, wingKnown := true }).wing = wingOf t mapId (v.dead ++ [entry]) ∧
      Followed t mapId v.began clock
        (t.killedSlots mapId (if run.wingKnown then run else { run with wing := row.wing, wingKnown := true }).wing v.dead)
        (if run.wingKnown then run else { run with wing := row.wing, wingKnown := true }) := by
  cases hknown : run.wingKnown with
  | true =>
    refine ⟨(h.wing hold).trans (wingOf_append ?_).symm, h.followed hold⟩
    cases hsplit : t.isSplit mapId with
    | true => exact .inl (h.known hold hknown hsplit)
    | false => exact .inr (.inl rfl)
  | false =>
    obtain ⟨hsplit, hnone, hdone, hlast, hrequired⟩ := h.unknown hold hknown
    refine ⟨(wingOf_first hnone hsplit hrow).symm, ?_⟩
    rw [killedSlots_none hsound hnone]
    exact followed_empty (hkept.unknown hknown) hdone hlast hrequired

end

theorem valid_killedSlots (hsound : t.Sound mapId) {wing : UInt8} {entries : List UInt32} :
    ∀ s ∈ t.killedSlots mapId wing entries, s.Valid := by
  intro s hs
  obtain ⟨row, hrow, -, rfl⟩ := mem_killedSlots.1 hs
  exact hsound.slot hrow

theorem killRun_eq (t : Lists) (present : Bool) (lastRunId mapId : UInt32) (run : Run) (row : DungeonBoss) (entry : UInt32) (level : UInt8)
    (levels : List UInt8) (now : UInt32) {picked : Run}
    (hpicked : picked = if run.wingKnown then run else { run with wing := row.wing, wingKnown := true }) :
    killRun t present lastRunId mapId run row entry level levels now =
      if run.untimed || run.done then (lastRunId, run)
      else if row.wing ≠ picked.wing then (lastRunId, picked)
      else if picked.kills.any fun k => k.slot = slotId row then (lastRunId, picked)
      else finishKill t present lastRunId mapId
        (addKill t mapId picked row entry level levels (getMSTimeDiff picked.startMs now)) row (getMSTimeDiff picked.startMs now) := by
  subst hpicked
  rfl

theorem tracked_killRun (h : Tracked t mapId clock v run) (hkept : Kept t present mapId run) (hsound : t.Sound mapId)
    (hrow : t.rowOf mapId entry = some row) {now : Nat} (hclock : clock ≤ now) (htimely : Timely v.began now)
    (hcounted : v.old = false → row.wing = wingOf t mapId (v.dead ++ [entry]) → row.isOptional = true →
      row.slot ∈ t.requiredSlots mapId row.wing → row.slot ∈ t.killedSlots mapId row.wing v.dead) (lastRunId : UInt32) :
    Tracked t mapId now { v with dead := v.dead ++ [entry] }
      (killRun t present lastRunId mapId run row entry level levels (UInt32.ofNat now)).2 := by
  have hkeptAfter : Kept t present mapId (killRun t present lastRunId mapId run row entry level levels (ofNat now)).2 :=
    kept_killRun hkept hrow lastRunId (ofNat now)
  obtain ⟨picked, hpicked⟩ : ∃ picked, picked = if run.wingKnown then run else { run with wing := row.wing, wingKnown := true } := ⟨_, rfl⟩
  rw [killRun_eq t present lastRunId mapId run row entry level levels (ofNat now) hpicked] at hkeptAfter ⊢
  cases hold : v.old with
  | true =>
    rw [if_pos (by rw [h.untimed, hold]; rfl)]
    have hnever : ∀ P : Prop, v.old = false → P := fun P hfalse => absurd (hold.symm.trans hfalse) (by decide)
    rw [← hold]
    exact ⟨h.began.trans hclock, h.start, h.untimed, hnever _, hnever _, hnever _, hnever _⟩
  | false =>
    rw [← hold]
    obtain ⟨hwing, hfollowed⟩ := h.pickWing hkept hsound hold hrow
    rw [← hpicked] at hwing hfollowed
    cases hopen : run.done with
    | true =>
      have hknown : run.wingKnown = true := by
        by_contra hunknown
        have hdone := (h.unknown hold (by simpa using hunknown)).2.2.1
        rw [hopen] at hdone
        cases hdone
      have hsame : picked = run := hpicked.trans (if_pos hknown)
      rw [hsame] at hwing
      rw [if_pos (Bool.or_true _)]
      refine h.dies hrow hclock hwing hknown rfl rfl (((h.followed hold).over hsound hopen ?_ (valid_killedSlots hsound)).later hclock)
      intro s hs
      obtain ⟨row', hrow', hdead, hslot⟩ := mem_killedSlots.1 hs
      exact mem_killedSlots.2 ⟨row', hrow', mem_append_left _ hdead, hslot⟩
    | false =>
      have hsame : picked.startMs = run.startMs ∧ picked.untimed = run.untimed ∧ picked.done = run.done ∧ picked.wingKnown = true := by
        rw [hpicked]
        split_ifs with hknown
        · exact ⟨rfl, rfl, rfl, hknown⟩
        · exact ⟨rfl, rfl, rfl, rfl⟩
      obtain ⟨hstart, huntimed, hdone, hknown⟩ := hsame
      rw [hopen] at hdone hkeptAfter
      have hgo : (run.untimed || false) = true → False := by
        rw [h.untimed, hold]
        decide
      rw [if_neg hgo] at hkeptAfter ⊢
      by_cases hother : row.wing ≠ picked.wing
      · -- a boss of another wing
        rw [if_pos hother]
        refine h.dies hrow hclock hwing hknown hstart huntimed ?_
        rw [hsound.killedSlots_append hrow, if_neg hother]
        exact hfollowed.later hclock
      · have hsameWing : row.wing = picked.wing := by simpa using hother
        have hmem : row ∈ t.rows mapId picked.wing := hsameWing ▸ (rowOf_mem hrow).1
        rw [if_neg hother] at hkeptAfter ⊢
        by_cases hagain : (picked.kills.any fun k => k.slot = slotId row) = true
        · -- a slot that has a kill
          rw [if_pos hagain]
          refine h.dies hrow hclock hwing hknown hstart huntimed ?_
          obtain ⟨k, hk, hslot⟩ := any_eq_true.1 hagain
          obtain ⟨s, hs, hid⟩ := hfollowed.kills k hk
          have hslot' : k.slot = slotId row := by simpa using hslot
          have heq : s = row.slot := Slot.id_injective (hfollowed.valid s hs) (hsound.slot hmem)
            (hid.trans (hslot'.trans (slotId_eq row)))
          rw [hsound.killedSlots_append hrow, if_pos hsameWing, Finset.insert_eq_of_mem (heq ▸ hs)]
          exact hfollowed.later hclock
        · rw [if_neg hagain, hstart, h.start] at hkeptAfter ⊢
          obtain ⟨-, hwing', -, -, hstart', huntimed', hknown', -⟩ := finishKill_same t present lastRunId mapId
            (addKill t mapId picked row entry level levels (msSince v.began now)) row (msSince v.began now)
          refine h.dies hrow hclock (hwing'.trans hwing) (hknown'.trans hknown) (hstart'.trans hstart) (huntimed'.trans huntimed) ?_
          have hkilled : t.killedSlots mapId picked.wing (v.dead ++ [entry]) = insert row.slot (t.killedSlots mapId picked.wing v.dead) := by
            rw [hsound.killedSlots_append hrow, if_pos hsameWing]
          refine (congrArg (fun wing => Followed t mapId v.began now (t.killedSlots mapId wing (v.dead ++ [entry])) _) hwing').mpr ?_
          refine hkilled.symm ▸ hfollowed.fresh hsound hdone hmem (fun k hk heq => hagain ?_) (fun hoptional hrequired => ?_) h.began
            hclock htimely rfl hkeptAfter.last
          · exact any_eq_true.2 ⟨k, hk, by simpa using heq⟩
          · rw [← hsameWing] at hrequired ⊢
            exact hcounted hold (hsameWing.trans hwing) hoptional hrequired

end Death

/-! ### All instances -/

variable {key : UInt32 × UInt32} {w : Watch}

structure Watched (t : Lists) (key : UInt32 × UInt32) (w : Watch) : Prop where
  kept : StoreKept t w.store
  tracked : Option.Rel (Tracked t key.1 w.clock) w.visit (w.store.runs.lookup key)

theorem Watched.later (h : Watched t key w) {ms : Nat} (hle : w.clock ≤ ms) :
    Option.Rel (Tracked t key.1 ms) w.visit (w.store.runs.lookup key) := by
  have htracked := h.tracked
  generalize w.visit = visit at htracked ⊢
  generalize w.store.runs.lookup key = found at htracked ⊢
  cases htracked with
  | some htracked => exact .some (htracked.later hle)
  | none => exact .none

theorem watched_enter (h : Watched t key w) {mapId instanceId : UInt32} (player : Entrant) {ms : Nat} (time : Nat) (old : Bool)
    (hle : w.clock ≤ ms) :
    Option.Rel (Tracked t key.1 ms)
      (if (mapId, instanceId) = key ∧ t.hasBosses mapId then some (w.visit.getD ⟨ms, old, []⟩) else w.visit)
      ((onPlayerEnter t w.store mapId instanceId player (UInt32.ofNat ms) time old).runs.lookup key) := by
  have hlater := h.later hle
  unfold onPlayerEnter
  cases hb : t.hasBosses mapId with
  | false =>
    rw [if_neg (fun hboth => absurd hboth.2 (by decide))]
    exact hlater
  | true =>
    by_cases hkey : (mapId, instanceId) = key
    · rw [if_pos ⟨hkey, rfl⟩]
      subst hkey
      change Rel _ _ ((w.store.runs.insert _ _).lookup _)
      rw [lookup_insert]
      revert hlater
      cases w.store.runs.lookup (mapId, instanceId) <;> intro hlater
      · cases hvisit : w.visit with
        | none => exact .some ((tracked_fresh t mapId ms time old).enter player)
        | some v => rw [hvisit] at hlater; cases hlater
      · cases hvisit : w.visit with
        | none => rw [hvisit] at hlater; cases hlater
        | some v =>
          rw [hvisit] at hlater
          cases hlater with
          | some htracked => exact .some (htracked.enter player)
    · rw [if_neg fun hboth => hkey hboth.1]
      change Rel _ _ ((w.store.runs.insert _ _).lookup _)
      rw [lookup_insert_ne fun heq => hkey heq.symm]
      exact hlater

theorem watched_killed (h : Watched t key w) (hsound : t.Sound key.1) {mapId instanceId entry : UInt32} (level : UInt8) (levels : List UInt8)
    {ms : Nat} (hle : w.clock ≤ ms) (htimely : (mapId, instanceId) = key → ∀ v, w.visit = some v → Timely v.began ms)
    (hcounted : (mapId, instanceId) = key → ∀ v row, w.visit = some v → v.old = false → t.rowOf mapId entry = some row →
      row.wing = wingOf t mapId (v.dead ++ [entry]) → row.isOptional = true → row.slot ∈ t.requiredSlots mapId row.wing →
      row.slot ∈ t.killedSlots mapId row.wing v.dead) :
    Option.Rel (Tracked t key.1 ms)
      (if (mapId, instanceId) = key then w.visit.map fun v => { v with dead := v.dead ++ [entry] } else w.visit)
      ((onCreatureKilled t w.store mapId instanceId entry level levels (UInt32.ofNat ms)).runs.lookup key) := by
  have hlater := h.later hle
  split_ifs with hkey
  · subst hkey
    unfold onCreatureKilled
    cases hrow : t.rowOf mapId entry with
    | none =>
      revert hlater
      cases w.visit <;> intro hlater
      · exact hlater
      generalize w.store.runs.lookup (mapId, instanceId) = found at hlater ⊢
      cases hlater with
      | some htracked => exact .some (htracked.noRow hsound hrow)
    | some row =>
      cases hrun : w.store.runs.lookup (mapId, instanceId) with
      | none =>
        have hvisit : w.visit = none := by
          rw [hrun] at hlater
          generalize w.visit = visit at hlater ⊢
          cases hlater
          rfl
        rw [hvisit]
        rw [hrun]
        exact .none
      | some run =>
        cases hvisit : w.visit with
        | none =>
          rw [hrun, hvisit] at hlater
          cases hlater
        | some v =>
          have htracked := h.tracked
          rw [hrun, hvisit] at htracked
          cases htracked with
          | some htracked =>
            rw [lookup_insert]
            exact .some (tracked_killRun htracked (h.kept _ run hrun) hsound hrow hle (htimely rfl v hvisit)
              (fun hold => hcounted rfl v row hvisit hold hrow) w.store.lastRunId)
  · have hsame : (onCreatureKilled t w.store mapId instanceId entry level levels (ofNat ms)).runs.lookup key =
        w.store.runs.lookup key := by
      unfold onCreatureKilled
      split
      · rfl
      split
      · rfl
      · exact lookup_insert_ne fun heq => hkey heq.symm
    rw [hsame]
    exact hlater

theorem watched_step (hsound : t.Sound key.1) (w : Watch) (e : Nat × Event) (h : Watched t key w)
    (hok : timely key w e ∧ counted t key w e) : Watched t key (watch t key w e) := by
  obtain ⟨ms, e⟩ := e
  obtain ⟨⟨hle, htimely⟩, hcounted⟩ := hok
  refine ⟨storeKept_step t w.store (stamped ms e) h.kept, ?_⟩
  cases e with
  | enter mapId instanceId player now time old => exact watched_enter h player time old hle
  | killed mapId instanceId entry level levels now => exact watched_killed h hsound level levels hle htimely hcounted
  | gone mapId instanceId =>
    change Rel _ (if (mapId, instanceId) = key then none else w.visit) ((w.store.runs.erase (mapId, instanceId)).lookup key)
    split_ifs with hkey
    · rw [← hkey, lookup_erase]
      exact .none
    · rw [lookup_erase_ne fun heq => hkey heq.symm]
      exact h.later hle

/-- What has been declared of a run stays declared. -/
def Stays (run run' : Run) : Prop := (run.done = true → run'.done = true) ∧ (run.lastDone = true → run'.lastDone = true)

theorem stays_killRun (t : Lists) (present : Bool) (lastRunId mapId : UInt32) (run : Run) (row : DungeonBoss) (entry : UInt32) (level : UInt8)
    (levels : List UInt8) (now : UInt32) : Stays run (killRun t present lastRunId mapId run row entry level levels now).2 := by
  obtain ⟨picked, hpicked⟩ : ∃ picked, picked = if run.wingKnown then run else { run with wing := row.wing, wingKnown := true } := ⟨_, rfl⟩
  have hsame : Stays run picked := by
    rw [hpicked]
    split_ifs <;> exact ⟨fun h => h, fun h => h⟩
  rw [killRun_eq t present lastRunId mapId run row entry level levels now hpicked]
  split_ifs with hover hother hagain
  · exact ⟨fun h => h, fun h => h⟩
  · exact hsame
  · exact hsame
  refine ⟨fun hdone => absurd (by rw [hdone, Bool.or_true]) hover, fun hlast => ?_⟩
  exact (finishKill_same t present lastRunId mapId
    (addKill t mapId picked row entry level levels (getMSTimeDiff picked.startMs now)) row (getMSTimeDiff picked.startMs now)).2.2.2.2.2.2.2
    (hsame.2 hlast)

theorem stays_step (t : Lists) (s : Store) (e : Event) {run run' : Run} (hrun : s.runs.lookup key = some run)
    (hrun' : (step t s e).runs.lookup key = some run') : Stays run run' := by
  have hrefl : ∀ {run' : Run}, s.runs.lookup key = some run' → Stays run run' := by
    intro run' h
    rw [hrun] at h
    cases h
    exact ⟨fun h => h, fun h => h⟩
  cases e with
  | enter mapId instanceId player now time old =>
    change (onPlayerEnter t s mapId instanceId player now time old).runs.lookup key = some run' at hrun'
    unfold onPlayerEnter at hrun'
    split_ifs at hrun'
    · exact hrefl hrun'
    by_cases hkey : key = (mapId, instanceId)
    · rw [← hkey] at hrun'
      rw [lookup_insert, hrun] at hrun'
      cases hrun'
      obtain ⟨-, -, hlast, hdone, -, -⟩ := enterRun_same run player
      exact ⟨fun h => hdone.trans h, fun h => hlast.trans h⟩
    · rw [lookup_insert_ne hkey] at hrun'
      exact hrefl hrun'
  | killed mapId instanceId entry level levels now =>
    change (onCreatureKilled t s mapId instanceId entry level levels now).runs.lookup key = some run' at hrun'
    unfold onCreatureKilled at hrun'
    split at hrun'
    · exact hrefl hrun'
    rename_i row _
    split at hrun'
    · exact hrefl hrun'
    rename_i killed hkilled
    by_cases hkey : key = (mapId, instanceId)
    · rw [← hkey] at hrun' hkilled
      rw [hrun] at hkilled
      cases hkilled
      rw [lookup_insert] at hrun'
      cases hrun'
      exact stays_killRun t s.tablesPresent s.lastRunId mapId run row entry level levels now
    · rw [lookup_insert_ne hkey] at hrun'
      exact hrefl hrun'
  | gone mapId instanceId =>
    change (s.runs.erase (mapId, instanceId)).lookup key = some run' at hrun'
    by_cases hkey : key = (mapId, instanceId)
    · rw [hkey, lookup_erase] at hrun'
      cases hrun'
    · rw [lookup_erase_ne hkey] at hrun'
      exact hrefl hrun'

theorem watched_run (hsound : t.Sound key.1) (tablesPresent : Bool) (maxId : UInt32) {es : List (Nat × Event)}
    (hes : Runs.Admitted (watch t key) (fun w e => timely key w e ∧ counted t key w e) (watchStart tablesPresent maxId) es) :
    Watched t key (Runs.run (watch t key) (watchStart tablesPresent maxId) es) :=
  invariant (watched_step hsound) ⟨fun key run hl => (by cases hl), .none⟩ hes

/-- The count of the required kills, the full run and the last-boss time of a timed run are, after each event, those of the creatures that
have died since it began, and what has been declared stays declared. -/
theorem completion_run (hsound : t.Sound key.1) (tablesPresent : Bool) (maxId : UInt32) {es : List (Nat × Event)}
    (hes : Runs.Admitted (watch t key) (fun w e => timely key w e ∧ counted t key w e) (watchStart tablesPresent maxId) es) (n : Nat)
    {v : Visit} (hv : (Runs.run (watch t key) (watchStart tablesPresent maxId) (es.take n)).visit = some v) (hold : v.old = false) :
    ∃ run, (Runs.run (watch t key) (watchStart tablesPresent maxId) (es.take n)).store.runs.lookup key = some run ∧
      Complete t key.1 v run ∧
      ∀ run', (Runs.run (watch t key) (watchStart tablesPresent maxId) (es.take (n + 1))).store.runs.lookup key = some run' →
        Stays run run' := by
  have hwatched := watched_run hsound tablesPresent maxId (hes.take n)
  have htracked := hwatched.tracked
  rw [hv] at htracked
  cases hrun : (run (watch t key) (watchStart tablesPresent maxId) (es.take n)).store.runs.lookup key with
  | none =>
    rw [hrun] at htracked
    cases htracked
  | some run =>
    rw [hrun] at htracked
    cases htracked with
    | some htracked =>
      refine ⟨run, rfl, htracked.complete hsound hold, fun run' hrun' => ?_⟩
      cases he : es[n]? with
      | none =>
        rw [take_of_length_le (le_succ_of_le (getElem?_eq_none_iff.1 he)),
          ← take_of_length_le (getElem?_eq_none_iff.1 he), hrun] at hrun'
        cases hrun'
        exact ⟨fun h => h, fun h => h⟩
      | some e =>
        rw [(hes.getElem? he).2] at hrun'
        exact stays_step t _ (stamped e.1 e.2) hrun hrun'

/-- A map with a last boss (entry 1) and a group of two (entries 2 and 3), of which the first is optional where the group is mixed. -/
def grouped (mixed : Bool) : Lists where
  bosses := [⟨33, 0, 0, false, 1⟩, ⟨33, 0, 1, mixed, 2⟩, ⟨33, 0, 1, false, 3⟩]
  lastBosses := [⟨33, 0, 1⟩]
  wingMaps := []
  bossesByEntry entry := [⟨33, 0, 0, false, 1⟩, ⟨33, 0, 1, mixed, 2⟩, ⟨33, 0, 1, false, 3⟩].filter fun row => row.entry = entry
  bossesByEntry_perm _ := .refl _

theorem grouped_sound (mixed : Bool) : (grouped mixed).Sound 33 where
  entry := by cases mixed <;> decide
  unique := by cases mixed <;> decide
  last := by cases mixed <;> decide

/-- A player enters, then one of the group dies, then the last boss, then the other of the group. -/
def groupKilled : List (Nat × Event) :=
  [(5, .enter 33 7 ⟨4, "A", 1, 20, false, false⟩ 0 1000 false), (8, .killed 33 7 2 22 [20] 0), (9, .killed 33 7 1 22 [20] 0),
    (12, .killed 33 7 3 22 [21] 0)]

theorem groupKilled_timely (mixed : Bool) : Runs.Admitted (watch (grouped mixed) (33, 7)) (timely (33, 7)) (watchStart true 41) groupKilled := by
  have hsoon : ∀ ms, ms ≤ 12 → Timely 5 ms := fun ms hms => .inl (by omega)
  have hlater : 5 ≤ 8 ∧ 8 ≤ 9 ∧ 9 ≤ 12 := by decide
  refine ⟨⟨zero_le 5, trivial⟩, ⟨hlater.1, ?_⟩, ⟨hlater.2.1, ?_⟩, ⟨hlater.2.2, ?_⟩, trivial⟩ <;>
  · intro _ v hv
    cases hv
    exact hsoon _ (by decide)

theorem completion_run_grouped : ∃ v run, v.dead = [2, 1, 3] ∧
    (Runs.run (watch (grouped false) (33, 7)) (watchStart true 41) groupKilled).store.runs.lookup (33, 7) = some run ∧
    Complete (grouped false) 33 v run ∧ run.done = true ∧ run.required = 2 := by
  have hrequired : ∀ row, ∀ entry, (grouped false).rowOf 33 entry = some row → row.isOptional = false := by
    intro row entry hrow
    have hall : ∀ row ∈ (grouped false).bosses, row.isOptional = false := by decide
    exact hall row (mem_rows.1 (rowOf_mem hrow).1).1
  have hes : Admitted (watch (grouped false) (33, 7)) (fun w e => timely (33, 7) w e ∧ counted (grouped false) (33, 7) w e)
      (watchStart true 41) groupKilled := by
    refine (groupKilled_timely false).imp_mem fun w e _ htimely => ⟨htimely, ?_⟩
    obtain ⟨ms, e⟩ := e
    cases e with
    | killed mapId instanceId entry level levels now =>
      intro hkey v row _ _ hrow _ hoptional _
      cases hkey
      rw [hrequired row entry hrow] at hoptional
      cases hoptional
    | enter mapId instanceId player now time old => trivial
    | gone mapId instanceId => trivial
  obtain ⟨run, hrun, hcomplete, -⟩ := completion_run (grouped_sound false) true 41 hes 4 rfl rfl
  have hfields : ((Runs.run (watch (grouped false) (33, 7)) (watchStart true 41) (groupKilled.take 4)).store.runs.lookup (33, 7)).map
      (fun run => (run.done, run.required)) = some (true, 2) := by decide +kernel
  rw [hrun] at hfields
  have hpair := some.inj hfields
  exact ⟨_, run, rfl, hrun, hcomplete, congrArg fst hpair, congrArg snd hpair⟩

/-- An optional boss that fills the slot of a required one is not counted: the run does not end. -/
theorem grouped_never_ends :
    ¬ (∀ (t : Lists) (key : UInt32 × UInt32) (tablesPresent : Bool) (maxId : UInt32) (es : List (Nat × Event)), t.Sound key.1 →
        Runs.Admitted (watch t key) (timely key) (watchStart tablesPresent maxId) es →
        ∀ v, (Runs.run (watch t key) (watchStart tablesPresent maxId) es).visit = some v → v.old = false →
          ∃ run, (Runs.run (watch t key) (watchStart tablesPresent maxId) es).store.runs.lookup key = some run ∧ Complete t key.1 v run) ∧
      ((Runs.run (watch (grouped true) (33, 7)) (watchStart true 41) groupKilled).store.runs.lookup (33, 7)).map
        (fun run => (run.done, run.required)) = some (false, 1) := by
  have hfields : ((run (watch (grouped true) (33, 7)) (watchStart true 41) groupKilled).store.runs.lookup (33, 7)).map
      (fun run => (run.done, run.required)) = some (false, 1) := by decide +kernel
  refine ⟨fun hall => ?_, hfields⟩
  obtain ⟨run, hrun, hcomplete⟩ := hall (grouped true) (33, 7) true 41 groupKilled (grouped_sound true) (groupKilled_timely true) _ rfl rfl
  have hwing : run.wing = 0 := hcomplete.wing
  have hdone := hcomplete.full.2
  rw [hwing] at hdone
  rw [hrun] at hfields
  have hopen : run.done = false := congrArg fst (some.inj hfields)
  rw [hdone (by decide +kernel)] at hopen
  cases hopen

end ComfyCraft.DungeonRun
