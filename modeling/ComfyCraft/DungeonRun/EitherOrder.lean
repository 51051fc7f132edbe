import ComfyCraft.DungeonRun.Saves

/-! The two saves of a run may be executed in either order, and the tables then show the run. -/

namespace ComfyCraft.DungeonRun

open List Upsert

section Execute

variable {mapId : UInt32} {run₁ run : Run}

theorem msOrNull_zero : msOrNull 0 = none := rfl

theorem bosses_prefix (mapId : UInt32) (ho : Onward run₁ run) (a b c d : UInt32) :
    ∃ more, (saveOf mapId run a b).bosses = (saveOf mapId run₁ c d).bosses ++ more := by
  obtain ⟨more, hm⟩ := ho.kills
  refine ⟨more.map fun k => ((run.id, k.entry), k.ms), ?_⟩
  unfold saveOf
  rw [← hm, map_append, ho.id]

theorem members_prefix (mapId : UInt32) (ho : Onward run₁ run) (a b c d : UInt32) :
    ∃ more, (saveOf mapId run a b).members = (saveOf mapId run₁ c d).members ++ more := by
  obtain ⟨more, hm⟩ := ho.members
  refine ⟨(more.zipIdx run₁.members.length).map fun m => ((run.id, m.2), memberRow m.1), ?_⟩
  unfold saveOf
  rw [← hm, zipIdx_append, map_append, ho.id, zero_add]

theorem mergeRow_comm (ho : Onward run₁ run) (ms ms' : UInt32) :
    mergeRow (saveOf mapId run₁ ms 0).row (saveOf mapId run 0 ms').row =
      mergeRow (saveOf mapId run 0 ms').row (saveOf mapId run₁ ms 0).row := by
  unfold mergeRow saveOf
  simp only [msOrNull_zero, Option.or_none, Option.none_or, ho.wing, ho.startTime, ho.bossLevel, ho.lastMaxLevel]
  rw [max_comm run₁.members.length, max_comm run₁.maxLevel.toNat]

theorem mergeRow_swap (old : RunRow) (ms ms' : UInt32) :
    mergeRow (mergeRow old (saveOf mapId run₁ ms 0).row) (saveOf mapId run 0 ms').row =
      mergeRow (mergeRow old (saveOf mapId run 0 ms').row) (saveOf mapId run₁ ms 0).row := by
  unfold mergeRow saveOf
  simp only [msOrNull_zero, Option.or_none, max_assoc]
  rw [max_comm run₁.members.length, max_comm run₁.maxLevel.toNat]

/-- The two saves may change places, whatever the tables hold. -/
theorem execute_comm (ho : Onward run₁ run) (ms ms' : UInt32) (db : Tables) :
    execute (execute db (saveOf mapId run₁ ms 0)) (saveOf mapId run 0 ms') =
      execute (execute db (saveOf mapId run 0 ms')) (saveOf mapId run₁ ms 0) := by
  have hid : (saveOf mapId run₁ ms 0).id = (saveOf mapId run 0 ms').id := ho.id.symm
  unfold execute
  refine Tables.mk.injEq _ _ _ _ _ _ ▸ ⟨?_, ?_, ?_⟩
  · rw [hid]
    exact upsert_comm _ _ (mergeRow_comm ho ms ms') fun old => mergeRow_swap old ms ms'
  · apply insertIgnore_comm
    intro k r r' hr hr'
    obtain ⟨more, hm⟩ := bosses_prefix mapId ho 0 ms' ms 0
    rw [hm, brought_append, hr] at hr'
    exact Option.some.inj hr'
  · apply insertIgnore_comm
    intro k r r' hr hr'
    obtain ⟨more, hm⟩ := members_prefix mapId ho 0 ms' ms 0
    rw [hm, brought_append, hr] at hr'
    exact Option.some.inj hr'

end Execute

variable {t : Lists} {present : Bool} {mapId : UInt32} {run : Run}

theorem nodup_entries (h : Kept t present mapId run) : (run.kills.map Kill.entry).Nodup := by
  have hs := h.slots
  unfold List.Nodup at hs ⊢
  rw [pairwise_map] at hs ⊢
  refine hs.imp_of_mem fun {k k'} hk hk' hne heq => hne ?_
  obtain ⟨row, hrow, hslot⟩ := h.entries k hk
  obtain ⟨row', hrow', hslot'⟩ := h.entries k' hk'
  rw [heq, hrow'] at hrow
  cases hrow
  exact hslot.symm.trans hslot'

theorem brought_bosses (h : Kept t present mapId run) (a b entry ms : UInt32) :
    Upsert.brought (saveOf mapId run a b).bosses (run.id, entry) = some ms ↔ ∃ k ∈ run.kills, k.entry = entry ∧ k.ms = ms := by
  have hkeys : ((saveOf mapId run a b).bosses.map Prod.fst).Nodup := by
    have hn := (nodup_entries h).map (f := fun entry => (run.id, entry)) fun e e' he => (Prod.mk.inj he).2
    unfold saveOf
    rw [map_map]
    rw [map_map] at hn
    exact hn
  constructor
  · intro hb
    obtain ⟨k, hk, heq⟩ := mem_map.1 (brought_some hb)
    cases heq
    exact ⟨k, hk, rfl, rfl⟩
  · rintro ⟨k, hk, rfl, rfl⟩
    exact brought_of_mem hkeys (mem_map.2 ⟨k, hk, rfl⟩)

theorem brought_members (mapId : UInt32) (run : Run) (a b : UInt32) (slot : Nat) :
    Upsert.brought (saveOf mapId run a b).members (run.id, slot) = (run.members[slot]?).map memberRow := by
  have hkeys : ((saveOf mapId run a b).members.map Prod.fst).Nodup := by
    have hn : ((range' 0 run.members.length).map fun i => (run.id, i)).Nodup :=
      (nodup_range').map fun i i' hi => (Prod.mk.inj hi).2
    have hsnd : run.members.zipIdx.map Prod.snd = range' 0 run.members.length := by simp
    rw [← hsnd, map_map] at hn
    unfold saveOf
    rw [map_map]
    exact hn
  apply Option.ext
  intro r
  constructor
  · intro hb
    obtain ⟨⟨m, i⟩, hm, heq⟩ := mem_map.1 (brought_some hb)
    cases heq
    rw [mem_zipIdx_iff_getElem?.1 hm]
    rfl
  · intro hr
    obtain ⟨m, hm, rfl⟩ := Option.map_eq_some_iff.1 hr
    exact brought_of_mem hkeys (mem_map.2 ⟨(m, slot), mem_zipIdx_iff_getElem?.2 hm, rfl⟩)

/-- The tables hold nothing under a run id. -/
structure Fresh (db : Tables) (id : UInt32) : Prop where
  run : db.run id = none
  boss : ∀ entry, db.boss (id, entry) = none
  member : ∀ slot, db.member (id, slot) = none

/-- The tables show the run: its times, its kills and its members. A time of 0 ms is written like no time. -/
structure Shown (db : Tables) (t : Lists) (mapId : UInt32) (run : Run) : Prop where
  row : db.run run.id = some {
    map := mapId
    wing := run.wing
    startedAt := run.startTime % 2 ^ 32
    lastBossMs := (lastTime t mapId run).bind msOrNull
    fullMs := (fullTime run).bind msOrNull
    groupSize := run.members.length
    bossLevel := run.bossLevel.toNat
    lastMaxLevel := run.lastMaxLevel.toNat
    maxLevel := run.maxLevel.toNat }
  boss : ∀ entry ms, db.boss (run.id, entry) = some ms ↔ ∃ k ∈ run.kills, k.entry = entry ∧ k.ms = ms
  member : ∀ slot, db.member (run.id, slot) = (run.members[slot]?).map memberRow

theorem shown_saves {run₁ : Run} {ms ms' : UInt32}
    (h : Kept t present mapId run) (ho : Onward run₁ run) (ht : lastTime t mapId run = some ms) (ht' : fullTime run = some ms')
    {db : Tables} (hf : Fresh db run.id) :
    Shown (execute (execute db (saveOf mapId run₁ ms 0)) (saveOf mapId run 0 ms')) t mapId run where
  row := by
    have hid : (saveOf mapId run₁ ms 0).id = run.id := ho.id.symm
    have hid' : (saveOf mapId run 0 ms').id = run.id := rfl
    have hlen := ho.members.length_le
    have hlevel := ho.maxLevel
    unfold execute upsert
    simp only [hid, hid', Function.update_self, hf.run, ht, ht']
    unfold mergeRow saveOf
    simp only [msOrNull_zero, Option.map_none, Option.getD_none, Option.map_some, Option.getD_some, Option.or_none,
      Option.none_or, Option.bind_some, ho.wing, ho.startTime, ho.bossLevel, ho.lastMaxLevel, max_eq_right hlen,
      max_eq_right hlevel]
  boss entry ms₁ := by
    obtain ⟨more, hm⟩ := bosses_prefix mapId ho 0 ms' ms 0
    rw [← brought_bosses h 0 ms' entry ms₁]
    unfold execute
    dsimp only
    rw [insertIgnore_apply, insertIgnore_apply, hf.boss, Option.none_or, hm, brought_append]
    cases brought (saveOf mapId run₁ ms 0).bosses (run.id, entry) <;> rfl
  member slot := by
    obtain ⟨more, hm⟩ := members_prefix mapId ho 0 ms' ms 0
    rw [← brought_members mapId run 0 ms' slot]
    unfold execute
    dsimp only
    rw [insertIgnore_apply, insertIgnore_apply, hf.member, Option.none_or, hm, brought_append]
    cases brought (saveOf mapId run₁ ms 0).members (run.id, slot) <;> rfl

/-- A run saved at its last boss and again at the full run: the two transactions commute on any tables, and on
tables with nothing of the run either order leaves the run as it ended. -/
theorem saves_either_order (t : Lists) (tablesPresent : Bool) (maxId : UInt32) (evs : List Event) {key : UInt32 × UInt32}
    {run : Run} {a b : SaveTx} (hrun : (Runs.run (step t) (load tablesPresent maxId) evs).runs.lookup key = some run)
    (hsaves : run.saves = [a, b]) (hid : a.id ≠ 0) :
    (∀ db, execute (execute db a) b = execute (execute db b) a) ∧
      (∀ db, Fresh db run.id → Shown (execute (execute db a) b) t key.1 run) ∧
      (lastTime t key.1 run).isSome ∧ (fullTime run).isSome := by
  have hstore := storeKept_run t tablesPresent maxId evs
  have h := hstore key run hrun
  have hpresent : (Runs.run (step t) (load tablesPresent maxId) evs).tablesPresent = true := by
    by_contra hp
    rw [h.absent (by simpa using hp)] at hsaves
    cases hsaves
  cases h.saved hpresent with
  | none h1 h2 h3 => rw [hsaves] at h1; cases h1
  | last run₁ ms h1 h2 h3 h4 h5 => rw [hsaves] at h1; cases h1
  | full tx h1 h2 => rw [hsaves] at h1; cases h1
  | both run₁ ms ms' h1 h2 h3 h4 h5 =>
    rw [hsaves] at h1
    cases h1
    have ho := h2 hid
    refine ⟨fun db => execute_comm ho ms ms' db, fun db hf => shown_saves h ho h4 h5 hf, ?_, ?_⟩
    · rw [h4]; rfl
    · rw [h5]; rfl

/-- A map with a last boss (entry 1) and one more required boss (entry 2). -/
def twoBosses : Lists where
  bosses := [⟨33, 0, 0, false, 1⟩, ⟨33, 0, 0, false, 2⟩]
  lastBosses := [⟨33, 0, 1⟩]
  wingMaps := []
  bossesByEntry entry := [⟨33, 0, 0, false, 1⟩, ⟨33, 0, 0, false, 2⟩].filter fun row => row.entry = entry
  bossesByEntry_perm _ := .refl _

/-- A player enters at 5, the last boss dies at `first`, the other one at 9, when the player has gained a level. -/
def twoKills (first : UInt32) : List Event :=
  [.enter 33 7 ⟨4, "A", 1, 20, false, false⟩ 5 1000 false, .killed 33 7 1 22 [20] first, .killed 33 7 2 21 [21] 9]

def noRows : Tables := ⟨fun _ => none, fun _ => none, fun _ => none⟩

theorem saves_either_order_twoKills : ∃ run a b,
    (Runs.run (step twoBosses) (load true 41) (twoKills 8)).runs.lookup (33, 7) = some run ∧ run.saves = [a, b] ∧
      (∀ db, execute (execute db a) b = execute (execute db b) a) ∧ Shown (execute (execute noRows a) b) twoBosses 33 run ∧
      lastTime twoBosses 33 run = some 3 ∧ fullTime run = some 4 := by
  obtain ⟨run, a, b, hrun, hsaves, hid, h1, h2⟩ : ∃ run a b,
      (Runs.run (step twoBosses) (load true 41) (twoKills 8)).runs.lookup (33, 7) = some run ∧ run.saves = [a, b] ∧
        a.id ≠ 0 ∧ lastTime twoBosses 33 run = some 3 ∧ fullTime run = some 4 :=
    ⟨_, _, _, rfl, rfl, by decide +kernel, by decide +kernel, by decide +kernel⟩
  have h := saves_either_order twoBosses true 41 (twoKills 8) hrun hsaves hid
  exact ⟨run, a, b, hrun, hsaves, h.1, h.2.1 noRows ⟨rfl, fun _ => rfl, fun _ => rfl⟩, h1, h2⟩

/-- The last boss dies in the millisecond of the entry: its time is 0 and the saved row has none. -/
theorem saves_zero_lost : ∃ run a b,
    (Runs.run (step twoBosses) (load true 41) (twoKills 5)).runs.lookup (33, 7) = some run ∧ run.saves = [a, b] ∧
      lastTime twoBosses 33 run = some 0 ∧
      ((execute (execute noRows a) b).run run.id).map RunRow.lastBossMs = some none :=
  ⟨_, _, _, rfl, rfl, by decide +kernel, by decide +kernel⟩

end ComfyCraft.DungeonRun
