import ComfyCraft.Maps.ResetSchedule

/-! Runs of the scheduler of dungeon resets: a start, forced resets, the resets of instances that are scheduled and called off, and
the writes that wait; and what the table of the reset times says once they have run. -/

namespace ComfyCraft

open List Function Option Runs ResetTimeQueue ResetDeed List.Perm List.Pairwise ResetEventType Bool ResetConfig Loop
namespace DungeonResetScheduler

variable {c : ResetConfig} {s s' : DungeonResetScheduler}

/-! Forced resets. -/

variable {now resetTime : Nat} {e : Int × DungeonResetEvent} {mapid : UInt16} {q : ResetTimeQueue} {scheduled : List UInt16}
  {itr : Sigma fun _ : UInt16 => MapEntry} {late : UInt16 → Nat → Nat}

theorem forceEvent_normal (h : e.2.type = .normalDungeon) :
    forceEvent now s e = { s with resetTimeQueue := s.resetTimeQueue.enqueue e.1 e.2 } := if_pos h

theorem forceEvent_global (h : e.2.type ≠ .normalDungeon) : forceEvent now s e = { s with
      resetTimeByMapId := Function.update s.resetTimeByMapId e.2.mapid (now + 60)
      resetTimeQueue := s.resetTimeQueue.enqueue now { e.2 with type := .forcedInform1 }
      history := s.history ++ [.forced e.2.mapid (now + 60)] } := if_neg h

theorem force_other (now : Nat) (h : q.pending mapid = []) :
    (q.foldl (forceEvent now) s).resetTimeQueue.pending mapid = s.resetTimeQueue.pending mapid ∧
      (q.foldl (forceEvent now) s).resetTimeByMapId mapid = s.resetTimeByMapId mapid ∧
      (q.foldl (forceEvent now) s).history.filter (ResetDeed.about mapid) = s.history.filter (ResetDeed.about mapid) := by
  induction q generalizing s with
  | nil => exact ⟨rfl, rfl, rfl⟩
  | cons e q ih =>
    rw [foldl_cons]
    by_cases htype : e.2.type = .normalDungeon
    · rw [pending_cons_normal htype] at h
      rw [forceEvent_normal htype]
      obtain ⟨hpending, htime, hhistory⟩ := ih (s := { s with resetTimeQueue := s.resetTimeQueue.enqueue e.1 e.2 }) h
      exact ⟨hpending.trans (pending_enqueue_normal htype), htime, hhistory⟩
    · by_cases hmap : e.2.mapid = mapid
      · unfold pending at h
        rw [filter_cons_of_pos (by simp [htype, hmap])] at h
        cases h
      · rw [pending_cons_other hmap] at h
        obtain ⟨hpending, htime, hhistory⟩ := ih (s := forceEvent now s e) h
        rw [forceEvent_global htype] at hpending htime hhistory ⊢
        refine ⟨hpending.trans (pending_enqueue_other hmap), htime.trans (update_of_ne (Ne.symm hmap) _ _), hhistory.trans ?_⟩
        exact filter_about_append (decide_eq_false hmap)

theorem force_self (now : Nat) (h : q.pending mapid = [e]) (hnone : s.resetTimeQueue.pending mapid = []) :
    (q.foldl (forceEvent now) s).resetTimeQueue.pending mapid = [((now : Int), { e.2 with type := .forcedInform1 })] ∧
      (q.foldl (forceEvent now) s).resetTimeByMapId mapid = now + 60 ∧
      (q.foldl (forceEvent now) s).history.filter (ResetDeed.about mapid) =
        s.history.filter (ResetDeed.about mapid) ++ [.forced mapid (now + 60)] := by
  induction q generalizing s with
  | nil => cases h
  | cons first q ih =>
    rw [foldl_cons]
    by_cases htype : first.2.type = .normalDungeon
    · rw [pending_cons_normal htype] at h
      rw [forceEvent_normal htype]
      exact ih (s := { s with resetTimeQueue := s.resetTimeQueue.enqueue first.1 first.2 }) h ((pending_enqueue_normal htype).trans hnone)
    by_cases hmap : first.2.mapid = mapid
    · unfold pending at h
      rw [filter_cons_of_pos (by simp [htype, hmap])] at h
      obtain ⟨rfl, hrest⟩ := cons.inj h
      obtain ⟨hpending, htime, hhistory⟩ := force_other (s := forceEvent now s first) now hrest
      rw [forceEvent_global htype] at hpending htime hhistory ⊢
      subst hmap
      have hforced : (forced first.2.mapid (now + 60)).about first.2.mapid = true := decide_eq_true rfl
      refine ⟨hpending.trans (pending_enqueue_self (by simp) hnone), htime.trans (update_self _ _ _), hhistory.trans ?_⟩
      exact filter_about_append_self hforced
    · rw [pending_cons_other hmap] at h
      have hother := ih (s := forceEvent now s first) h
      rw [forceEvent_global htype] at hother ⊢
      have hforced : (forced first.2.mapid (now + 60)).about mapid = false := decide_eq_false hmap
      have hnone' : pending (s.resetTimeQueue.enqueue now { first.2 with type := .forcedInform1 }) mapid = [] := by
        rw [pending_enqueue_other (by exact hmap)]
        exact hnone
      obtain ⟨hpending, htime, hhistory⟩ := hother hnone'
      exact ⟨hpending, htime, hhistory.trans (congrArg (· ++ _) (filter_about_append hforced))⟩

/-- A forced reset puts every event back in, and only the global ones under another time. -/
theorem force_rest (now : Nat) (hs : s.resetTimeQueue.Pairwise fun a b => a.1 ≤ b.1) :
    (q.foldl (forceEvent now) s).resetTimeQueue.Pairwise (fun a b => a.1 ≤ b.1) ∧
      (q.foldl (forceEvent now) s).resetTimeQueue.normals.Perm (q.normals ++ s.resetTimeQueue.normals) ∧
      (∀ e ∈ (q.foldl (forceEvent now) s).resetTimeQueue, e.2.type ≠ .normalDungeon →
        e ∈ s.resetTimeQueue ∨ ∃ e' ∈ q, e'.2.type ≠ .normalDungeon ∧ e'.2.mapid = e.2.mapid) ∧
      (q.foldl (forceEvent now) s).instanceReset = s.instanceReset := by
  induction q generalizing s with
  | nil => exact ⟨hs, List.Perm.refl _, fun e he _ => .inl he, rfl⟩
  | cons first q ih =>
    rw [foldl_cons]
    by_cases htype : first.2.type = .normalDungeon
    · rw [forceEvent_normal htype]
      obtain ⟨hsorted, hperm, honly, htable⟩ := ih (s := { s with resetTimeQueue := s.resetTimeQueue.enqueue first.1 first.2 }) (sorted_enqueue hs)
      refine ⟨hsorted, ?_, fun e he hglobal => ?_, htable⟩
      · rw [normals_cons_normal htype]
        refine hperm.trans ((append_left _ ?_).trans perm_middle)
        have hinsert := (Multimap.insert_perm Prod.fst (first.1, first.2) s.resetTimeQueue).filter fun e => decide (e.2.type = .normalDungeon)
        rw [filter_cons_of_pos (by simp [htype])] at hinsert
        exact hinsert
      · rcases honly e he hglobal with he | ⟨e', he', hglobal', hmap⟩
        · rcases mem_enqueue.1 he with rfl | he
          · exact absurd htype hglobal
          · exact .inl he
        · exact .inr ⟨e', mem_cons_of_mem _ he', hglobal', hmap⟩
    · have hrest := ih (s := forceEvent now s first)
      rw [forceEvent_global htype] at hrest ⊢
      obtain ⟨hsorted, hperm, honly, htable⟩ := hrest (sorted_enqueue hs)
      refine ⟨hsorted, ?_, fun e he hglobal => ?_, htable⟩
      · rw [normals_cons_global htype]
        refine hperm.trans (append_left _ (of_eq ?_))
        exact normals_enqueue (by simp)
      · rcases honly e he hglobal with he | ⟨e', he', hglobal', hmap⟩
        · rcases mem_enqueue.1 he with rfl | he
          · exact .inr ⟨first, mem_cons_self, htype, rfl⟩
          · exact .inl he
        · exact .inr ⟨e', mem_cons_of_mem _ he', hglobal', hmap⟩

theorem Scheduled.resetAllRaid (h : Scheduled c s) (now : Nat) : Scheduled c (s.resetAllRaid now) := by
  obtain ⟨hsorted, -, honly, htable⟩ := force_rest (s := { s with resetTimeQueue := [] }) now (q := s.resetTimeQueue) nil
  refine ⟨hsorted, fun m hm => ?_, fun e he hglobal => ?_, fun m hm => ?_, fun m hm => ?_⟩
  · obtain ⟨type, -, hone⟩ := h.one m hm
    obtain ⟨hpending, htime, -⟩ := force_self (s := { s with resetTimeQueue := [] }) now hone rfl
    refine ⟨.forcedInform1, by decide, hpending.trans ?_⟩
    have htime' : ((s.resetAllRaid now).resetTimeByMapId m : Int) - delay .forcedInform1 = now := by
      rw [show (s.resetAllRaid now).resetTimeByMapId m = now + 60 from htime]
      change ((now + 60 : Nat) : Int) - ((60 : Nat) : Int) = now
      omega
    rw [htime']
  · rcases honly e he hglobal with he | ⟨e', he', hglobal', hmap⟩
    · cases he
    · exact hmap ▸ h.only e' he' hglobal'
  · rw [show (s.resetAllRaid now).instanceReset = s.instanceReset from htable]
    exact h.rowed m hm
  · obtain ⟨type, -, hone⟩ := h.one m hm
    obtain ⟨-, htime, hhistory⟩ := force_self (s := { s with resetTimeQueue := [] }) now hone rfl
    rw [show (s.resetAllRaid now).resetTimeByMapId m = now + 60 from htime,
      show (s.resetAllRaid now).history.filter (about m) = s.history.filter (about m) ++ [.forced m (now + 60)] from hhistory]
    exact Values.forced (h.values m hm) _

/-! Resets of instances that are scheduled and called off. -/

/-- Taking out an entry that a filter drops changes nothing of what it keeps. -/
theorem filter_eraseP {A : Type} {p f : A → Bool} {l : List A} (h : ∀ a ∈ l, p a = true → f a = false) :
    (l.eraseP p).filter f = l.filter f := by
  induction l with
  | nil => rfl
  | cons a l ih =>
    have ih := ih fun b hb => h b (mem_cons_of_mem _ hb)
    by_cases hp : p a = true
    · rw [eraseP_cons_of_pos hp, filter_cons_of_neg (by simp [h a mem_cons_self hp])]
    rw [eraseP_cons_of_neg hp]
    by_cases hf : f a = true
    · rw [filter_cons_of_pos hf, filter_cons_of_pos hf, ih]
    · rw [filter_cons_of_neg hf, filter_cons_of_neg hf, ih]

/-- Calling off takes out one entry for that instance, or none. -/
theorem scheduleReset_off (s : DungeonResetScheduler) (time : Int) (event : DungeonResetEvent) :
    ∃ p : Int × DungeonResetEvent → Bool, (∀ e, p e = true → e.2.same event = true) ∧
      s.scheduleReset false time event = { s with resetTimeQueue := s.resetTimeQueue.eraseP p } := by
  unfold scheduleReset
  rw [if_neg Bool.false_ne_true]
  split
  · exact ⟨_, fun e he => (Bool.and_eq_true _ _ ▸ he).2, rfl⟩
  · exact ⟨_, fun e he => he, rfl⟩

theorem Scheduled.instanceId_eq (h : Scheduled c s) (he : e ∈ s.resetTimeQueue)
    (htype : e.2.type ≠ .normalDungeon) : e.2.instanceId = 0 := by
  obtain ⟨type, -, hone⟩ := h.one e.2.mapid (h.only e he htype)
  have hmem : e ∈ s.resetTimeQueue.pending e.2.mapid := mem_filter.2 ⟨he, by simp [htype]⟩
  rw [hone] at hmem
  rw [mem_singleton.1 hmem]

theorem Scheduled.scheduleReset (h : Scheduled c s) (add : Bool) (time : Int) (mapid : UInt16) {instanceId : UInt32}
    (hinstance : instanceId ≠ 0) :
    Scheduled c (s.scheduleReset add time ⟨.normalDungeon, mapid, instanceId⟩) := by
  cases add with
  | true =>
    refine ⟨sorted_enqueue h.sorted, fun m hm => ?_, fun e he hglobal => ?_, h.rowed, h.values⟩
    · obtain ⟨type, htype, hone⟩ := h.one m hm
      exact ⟨type, htype, (pending_enqueue_normal rfl).trans hone⟩
    · rcases mem_enqueue.1 he with rfl | he
      · exact absurd rfl hglobal
      · exact h.only e he hglobal
  | false =>
    obtain ⟨p, hp, heq⟩ := scheduleReset_off s time ⟨.normalDungeon, mapid, instanceId⟩
    rw [heq]
    refine ⟨h.sorted.sublist eraseP_sublist, fun m hm => ?_, fun e he => h.only e (mem_of_mem_eraseP he), h.rowed, h.values⟩
    obtain ⟨type, htype, hone⟩ := h.one m hm
    refine ⟨type, htype, Eq.trans ?_ hone⟩
    refine filter_eraseP fun e he hsame => ?_
    by_contra hkept
    have hglobal : e.2.type ≠ .normalDungeon := by
      intro hnormal
      simp [hnormal] at hkept
    have hzero := h.instanceId_eq he hglobal
    have hinst : e.2.instanceId = instanceId := of_decide_eq_true (and_eq_true _ _ ▸ hp e hsame).2
    exact hinstance (hinst.symm.trans hzero)

/-! A waiting write. -/

theorem Scheduled.runWrite (h : Scheduled c s) (i : Nat) : Scheduled c (s.runWrite i) := by
  unfold DungeonResetScheduler.runWrite
  split
  · exact h
  · exact ⟨h.sorted, h.one, h.only, fun m hm => isSome_updateRow (h.rowed m hm), h.values⟩

theorem Scheduled.step (hc : c.Sane) (h : Scheduled c s) (e : ResetStep) : Scheduled c (s.step c e) := by
  cases e with
  | update now late => exact h.update hc now late
  | force now => exact h.resetAllRaid now
  | schedule add time mapid instanceId hinstance => exact h.scheduleReset add time mapid hinstance
  | write i => exact h.runWrite i

/-! The start. -/

/-- Before its event is scheduled a map has none, and its reset time is the one of its row. -/
structure Loaded (s : DungeonResetScheduler) (mapid : UInt16) : Prop where
  pending : s.resetTimeQueue.pending mapid = []
  time : s.resetTimeByMapId mapid = (s.instanceReset mapid).getD 0
  history : s.history.filter (ResetDeed.about mapid) = []

theorem loaded_loadResetTimes (c : ResetConfig) (rows : UInt16 → Option Nat) (mapid : UInt16) : Loaded
    (loadResetTimes c rows) mapid :=
  ⟨rfl, rfl, rfl⟩

/-- A start that has scheduled the maps of a list. -/
structure Starting (c : ResetConfig) (s : DungeonResetScheduler) (scheduled : List UInt16) : Prop where
  sorted : s.resetTimeQueue.Pairwise fun a b => a.1 ≤ b.1
  only : ∀ e ∈ s.resetTimeQueue, e.2.type ≠ .normalDungeon → c.Reset e.2.mapid
  loaded : ∀ mapid, mapid ∉ scheduled → Loaded s mapid
  one : ∀ mapid ∈ scheduled, c.Reset mapid → ∃ type, type ≠ .normalDungeon ∧
    s.resetTimeQueue.pending mapid = [((s.resetTimeByMapId mapid : Int) - type.delay, ⟨type, mapid, 0⟩)]
  rowed : ∀ mapid ∈ scheduled, c.Reset mapid → (s.instanceReset mapid).isSome = true
  values : ∀ mapid ∈ scheduled, c.Reset mapid → s.history.filter (ResetDeed.about mapid) = [.took mapid (s.resetTimeByMapId mapid)]

theorem Starting.after_instance (h : Starting c s scheduled) (row : Sigma fun _ : UInt32 => UInt16 × Nat) :
    Starting c (s.scheduleInstance row) scheduled := by
  unfold scheduleInstance
  split
  · exact h
  refine ⟨sorted_enqueue h.sorted, fun e he hglobal => ?_, fun m hm => ?_, fun m hm hreset => ?_, h.rowed, h.values⟩
  · rcases mem_enqueue.1 he with rfl | he
    · exact absurd rfl hglobal
    · exact h.only e he hglobal
  · obtain ⟨hpending, htime, hhistory⟩ := h.loaded m hm
    exact ⟨(pending_enqueue_normal rfl).trans hpending, htime, hhistory⟩
  · obtain ⟨type, htype, hone⟩ := h.one m hm hreset
    exact ⟨type, htype, (pending_enqueue_normal rfl).trans hone⟩

theorem initializeResetTime_table (c : ResetConfig) (now : Nat) {table : UInt16 → Option Nat} {t : Nat}
    (ht : t = (table itr.1).getD 0) :
    ((initializeResetTime c now itr (t, table)).2 itr.1).isSome = true ∧
      ∀ other, other ≠ itr.1 → (initializeResetTime c now itr (t, table)).2 other = table other := by
  unfold initializeResetTime
  split
  · refine ⟨?_, fun other hother => update_of_ne hother _ _⟩
    dsimp only
    rw [update_self]
    cases table itr.1 <;> rfl
  · next hzero =>
    refine ⟨?_, fun other _ => rfl⟩
    -- a time that is not 0 came out of the row
    cases hrow : table itr.1 with
    | none =>
      rw [hrow] at ht
      exact absurd ht hzero
    | some t' =>
      dsimp only
      rw [hrow]
      rfl

theorem renewResetTime_table (c : ResetConfig) (now : Nat) {r : Nat × (UInt16 → Option Nat)} (hr : (r.2 itr.1).isSome = true) :
    ((renewResetTime c now itr r).2 itr.1).isSome = true ∧ ∀ other, other ≠ itr.1 → (renewResetTime c now itr r).2 other = r.2 other := by
  unfold renewResetTime
  split
  · exact ⟨isSome_updateRow hr, fun other hother => update_of_ne hother _ _⟩
  · exact ⟨hr, fun other _ => rfl⟩

/-- A map without a global reset is passed over; another gets its reset time, its event and a row. -/
theorem Starting.after_map (h : Starting c s scheduled) (now : Nat)
    (hitr : c.maps.lookup itr.1 = some itr.2) (hnew : itr.1 ∉ scheduled) : Starting c (scheduleMap c now s itr) (itr.1 :: scheduled) := by
  obtain ⟨hpending, htime, hhistory⟩ := h.loaded itr.1 hnew
  unfold scheduleMap
  split_ifs with hreset
  · have hnone : ¬c.Reset itr.1 := by
      rintro ⟨e, he, hdungeon, hdelay⟩
      cases some.inj (hitr.symm.trans he)
      simp [hdungeon, hdelay] at hreset
    have hold : ∀ {m}, m ∈ itr.1 :: scheduled → c.Reset m → m ∈ scheduled := by
      intro m hm hmap
      exact (mem_cons.1 hm).resolve_left fun heq => hnone (heq ▸ hmap)
    exact ⟨h.sorted, h.only, fun m hm => h.loaded m fun hmem => hm (mem_cons_of_mem _ hmem), fun m hm hmap => h.one m (hold hm hmap) hmap,
      fun m hm hmap => h.rowed m (hold hm hmap) hmap, fun m hm hmap => h.values m (hold hm hmap) hmap⟩
  · have hmap : c.Reset itr.1 := ⟨itr.2, hitr, by simpa using hreset⟩
    have hinit := initializeResetTime_table c now htime
    have hrenew := renewResetTime_table c now hinit.1
    generalize renewResetTime c now itr (initializeResetTime c now itr (s.resetTimeByMapId itr.1, s.instanceReset)) = r at hrenew ⊢
    obtain ⟨t, table⟩ := r
    have htable : ∀ m, m ≠ itr.1 → table m = s.instanceReset m := fun m hm => (hrenew.2 m hm).trans (hinit.2 m hm)
    have htype := upcoming_ne t now
    have hother : ∀ m, m ≠ itr.1 → ((s.resetTimeQueue.enqueue (t - (upcoming t now).delay)
        ⟨upcoming t now, itr.1, 0⟩).pending m = s.resetTimeQueue.pending m ∧
        (s.history ++ [took itr.1 t]).filter (about m) = s.history.filter (about m)) := by
      intro m hm
      have htook : (ResetDeed.took itr.1 t).about m = false := decide_eq_false (Ne.symm hm)
      exact ⟨pending_enqueue_other (Ne.symm hm), filter_about_append htook⟩
    dsimp only
    refine ⟨sorted_enqueue h.sorted, fun e he hglobal => ?_, fun m hm => ?_, fun m hm hreset => ?_, fun m hm hreset => ?_, fun m hm hreset => ?_⟩
    · rcases mem_enqueue.1 he with rfl | he
      · exact hmap
      · exact h.only e he hglobal
    · obtain ⟨hne, hm⟩ := not_or.1 (mt mem_cons.2 hm)
      obtain ⟨hpending, htime, hhistory⟩ := h.loaded m hm
      refine ⟨(hother m hne).1.trans hpending, ?_, (hother m hne).2.trans hhistory⟩
      dsimp only
      rw [htable m hne, update_of_ne hne]
      exact htime
    · dsimp only
      by_cases hne : m = itr.1
      · subst hne
        rw [update_self]
        exact ⟨_, htype, pending_enqueue_self htype hpending⟩
      · obtain ⟨type, htype, hone⟩ := h.one m ((mem_cons.1 hm).resolve_left hne) hreset
        rw [update_of_ne hne]
        exact ⟨type, htype, (hother m hne).1.trans hone⟩
    · dsimp only
      by_cases hne : m = itr.1
      · exact hne ▸ hrenew.1
      · rw [htable m hne]
        exact h.rowed m ((mem_cons.1 hm).resolve_left hne) hreset
    · dsimp only
      by_cases hne : m = itr.1
      · subst hne
        have htook : (took itr.1 t).about itr.1 = true := decide_eq_true rfl
        rw [update_self, filter_about_append_self htook, hhistory]
        rfl
      · rw [update_of_ne hne, (hother m hne).2]
        exact h.values m ((mem_cons.1 hm).resolve_left hne) hreset

theorem Starting.after_maps {l : List (Sigma fun _ : UInt16 => MapEntry)} (now : Nat)
    (hl : ∀ itr ∈ l, c.maps.lookup itr.1 = some itr.2)
    (hnodup : (l.map Sigma.fst).Nodup) (hnew : ∀ itr ∈ l, itr.1 ∉ scheduled) (h : Starting c s scheduled) :
    ∃ scheduled', Starting c (l.foldl (scheduleMap c now) s) scheduled' ∧ ∀ m, m ∈ scheduled' ↔ m ∈ l.map Sigma.fst ∨ m ∈ scheduled := by
  induction l generalizing s scheduled with
  | nil => exact ⟨scheduled, h, fun m => by simp⟩
  | cons itr l ih =>
    rw [map_cons, nodup_cons] at hnodup
    have hhead := h.after_map now (hl itr mem_cons_self) (hnew itr mem_cons_self)
    have hnew' : ∀ itr' ∈ l, itr'.1 ∉ itr.1 :: scheduled := by
      intro itr' hmem hin
      rcases mem_cons.1 hin with heq | hin
      · exact hnodup.1 (heq ▸ mem_map_of_mem hmem)
      · exact hnew itr' (mem_cons_of_mem _ hmem) hin
    obtain ⟨scheduled', hstart, hmem⟩ := ih (fun i hi => hl i (mem_cons_of_mem _ hi)) hnodup.2 hnew' hhead
    refine ⟨scheduled', hstart, fun m => ?_⟩
    rw [hmem m, map_cons, mem_cons, mem_cons]
    tauto

theorem start_scheduled (c : ResetConfig) (rows : UInt16 → Option Nat) (instances : Table UInt32 (UInt16 × Nat)) (now : Nat) :
    Scheduled c (start c rows instances now) ∧
      ∀ m, c.Reset m → ∃ t, (start c rows instances now).history.filter (ResetDeed.about m) = [.took m t] := by
  have hload : Starting c (loadResetTimes c rows) [] :=
    ⟨nil, fun e he => absurd he not_mem_nil, fun m _ => loaded_loadResetTimes c rows m,
      fun m hm => absurd hm not_mem_nil, fun m hm => absurd hm not_mem_nil, fun m hm => absurd hm not_mem_nil⟩
  have hinstances : Starting c (instances.ordered.foldl scheduleInstance (loadResetTimes c rows)) [] :=
    foldlRecOn instances.ordered scheduleInstance (motive := fun s => Starting c s []) hload fun _ hs row _ => hs.after_instance row
  have hlookup : ∀ itr ∈ c.maps.ordered, c.maps.lookup itr.1 = some itr.2 :=
    fun itr hitr => Table.lookup_eq_some_iff.2 (c.maps.perm_ordered.mem_iff.1 hitr)
  obtain ⟨scheduled, hstart, hmem⟩ := hinstances.after_maps now hlookup c.maps.ordered_keys_nodup fun _ _ => not_mem_nil
  have hall : ∀ m, c.Reset m → m ∈ scheduled := by
    rintro m ⟨e, he, -⟩
    have hentry := c.maps.perm_ordered.mem_iff.2 (Table.lookup_eq_some_iff.1 he)
    exact (hmem m).2 (.inl (mem_map_of_mem hentry))
  refine ⟨⟨hstart.sorted, fun m hm => hstart.one m (hall m hm) hm, hstart.only, fun m hm => hstart.rowed m (hall m hm) hm, fun m hm => ?_⟩,
    fun m hm => ⟨_, hstart.values m (hall m hm) hm⟩⟩
  rw [show (start c rows instances now).history.filter (about m) = _ from hstart.values m (hall m hm) hm]
  exact Values.took _

/-! What the table says. -/

/-- The last that became of a map is that it was reset. -/
def JustReset (mapid : UInt16) (l : List ResetDeed) : Prop := ∃ l' t, l = l' ++ [.reset mapid, .took mapid t]

/-- A map that was just reset has its reset time in its row, and no write that waits brings another. -/
def Settled (s : DungeonResetScheduler) (mapid : UInt16) : Prop :=
  JustReset mapid (s.history.filter (ResetDeed.about mapid)) →
    s.instanceReset mapid = some (s.resetTimeByMapId mapid) ∧ ∀ w ∈ s.writes, w.1 = mapid → w.2 = s.resetTimeByMapId mapid

/-- A map that `Update` resets is reset on the day of its reset time, a minute later, or before; and an older write of its row that
still waits has the time that is next. -/
def Timely (c : ResetConfig) (s : DungeonResetScheduler) (now : Nat) (late : UInt16 → Nat → Nat) : Prop :=
  ∀ e ∈ s.resetTimeQueue, e.2.type ≠ .normalDungeon → (s.resetTimeByMapId e.2.mapid : Int) - e.2.type.last.delay < now →
    (max now (s.resetTimeByMapId e.2.mapid) + late e.2.mapid (s.resetTimeByMapId e.2.mapid) + MINUTE) / DAY =
      (s.resetTimeByMapId e.2.mapid + MINUTE) / DAY ∧
    ∀ w ∈ s.writes, w.1 = e.2.mapid → ∀ mapEntry ∈ c.maps.lookup e.2.mapid,
      w.2 = c.calculateNextResetTime mapEntry (s.resetTimeByMapId e.2.mapid)

def TimelyStep (c : ResetConfig) (s : DungeonResetScheduler) : ResetStep → Prop
  | .update now late => Timely c s now late
  | _ => True

instance Timely.decide (c : ResetConfig) (s : DungeonResetScheduler) (now : Nat) (late : UInt16 → Nat → Nat) : Decidable (Timely c s now late) := by
  unfold Timely
  infer_instance

instance TimelyStep.decide (c : ResetConfig) (s : DungeonResetScheduler) : ∀ e, Decidable (TimelyStep c s e)
  | .update now late => Timely.decide c s now late
  | .force _ => isTrue trivial
  | .schedule .. => isTrue trivial
  | .write _ => isTrue trivial

theorem timeLeft_of_le (h : now ≤ resetTime) (hsoon : (resetTime : Int) - MINUTE < now) :
    timeLeft resetTime now = resetTime - now := by
  unfold MINUTE at hsoon
  unfold timeLeft
  rw [Int.bmod_eq_of_le (by omega) (by omega)]
  omega

theorem timeLeft_of_lt (h : resetTime < now) (hday : (now + MINUTE) / DAY = (resetTime + MINUTE) / DAY) :
    timeLeft resetTime now = 0 := by
  unfold MINUTE DAY at hday
  unfold timeLeft
  rw [Int.bmod_eq_of_le (by omega) (by omega)]
  omega

/-- Handled in time, both computations of the next reset time agree. -/
theorem calculateNextResetTime_timely (c : ResetConfig) (e : MapEntry) {late : Nat} (hdue : (resetTime : Int) - MINUTE < now)
    (hday : (max now resetTime + late + MINUTE) / DAY = (resetTime + MINUTE) / DAY) :
    c.calculateNextResetTime e (now + late + timeLeft resetTime now) = c.calculateNextResetTime e resetTime := by
  have hsame : (now + late + timeLeft resetTime now + MINUTE) / DAY = (resetTime + MINUTE) / DAY := by
    rcases Nat.lt_or_ge resetTime now with hlt | hge
    · rw [max_eq_left hlt.le] at hday
      have hnow : (now + MINUTE) / DAY = (resetTime + MINUTE) / DAY := by
        unfold MINUTE DAY at hday ⊢
        omega
      rw [timeLeft_of_lt hlt hnow]
      exact hday
    · rw [max_eq_right hge] at hday
      rw [timeLeft_of_le hge hdue, ← hday]
      congr 1
      omega
  unfold calculateNextResetTime
  rw [hsame]

theorem Settled.congr (h : Settled s mapid) (hhistory : s'.history.filter (ResetDeed.about mapid) = s.history.filter
    (ResetDeed.about mapid))
    (htable : s'.instanceReset mapid = s.instanceReset mapid) (htime : s'.resetTimeByMapId mapid = s.resetTimeByMapId mapid)
    (hwrites : ∀ w ∈ s'.writes, w.1 = mapid → w ∈ s.writes) : Settled s' mapid := by
  intro hjust
  rw [hhistory] at hjust
  obtain ⟨hrow, hwaiting⟩ := h hjust
  rw [htable, htime]
  exact ⟨hrow, fun w hw hmap => hwaiting w (hwrites w hw hmap) hmap⟩

theorem settled_handled (h : Scheduled c s) (htimely : Timely c s now late)
    (hsettled : ∀ mapid, c.Reset mapid → Settled s mapid) (hs' : Handled c now late s s') (mapid : UInt16) (hmap : c.Reset mapid) :
    Settled s' mapid := by
  cases hs' with
  | normal hq hdue => exact (hsettled mapid hmap).congr (filter_about_append rfl) rfl rfl fun w hw _ => hw
  | warned hreset htype hlast hq hdue => exact (hsettled mapid hmap).congr (filter_about_append rfl) rfl rfl fun w hw _ => hw
  | @reset e type m rest he hdungeon hdelay htype hlast hq hdue =>
    by_cases hm : m = mapid
    · subst hm
      intro _
      have hmem := hq ▸ mem_cons_self
      obtain ⟨hday, hold⟩ := htimely _ hmem htype (by rw [last_eq hlast]; exact hdue)
      have hsoon : (s.resetTimeByMapId m : Int) - MINUTE < now := by
        have hle := last_delay_le type
        rw [last_eq hlast] at hle
        omega
      dsimp only
      rw [update_self]
      refine ⟨?_, fun w hw hwm => ?_⟩
      · obtain ⟨t, ht⟩ := isSome_iff_exists.1 (h.rowed m hmap)
        unfold updateRow
        rw [update_self, ht]
        rfl
      · rcases mem_append.1 hw with hw | hw
        · exact hold w hw hwm e he
        · rw [mem_singleton.1 hw]
          exact calculateNextResetTime_timely c e hsoon hday
    · have hwas : (reset m).about mapid = false := decide_eq_false hm
      have htook : (took m (c.calculateNextResetTime e (s.resetTimeByMapId m))).about mapid = false := decide_eq_false hm
      refine (hsettled mapid hmap).congr ((filter_about_append htook).trans (filter_about_append hwas))
        (update_of_ne (Ne.symm hm) _ _) (update_of_ne (Ne.symm hm) _ _) fun w hw hwm => ?_
      rcases mem_append.1 hw with hw | hw
      · exact hw
      · rw [mem_singleton.1 hw] at hwm
        exact absurd hwm hm

/-- A map that was reset in time is not reset again by the same `Update`. -/
theorem timely_handled (hc : c.Sane) (h : Scheduled c s) (htimely : Timely c s now late)
    (hs' : Handled c now late s s') : Timely c s' now late := by
  cases hs' with
  | normal hq hdue =>
    intro e he
    exact htimely e (hq ▸ mem_cons_of_mem _ he)
  | @warned type m rest hreset htype hlast hq hdue =>
    intro e he hglobal hsoon
    rcases mem_enqueue.1 he with rfl | he
    · dsimp only at hsoon ⊢
      rw [last_next hlast] at hsoon
      have hmem := hq ▸ mem_cons_self
      exact htimely _ hmem htype hsoon
    · exact htimely e (hq ▸ mem_cons_of_mem _ he) hglobal hsoon
  | @reset entry type m rest hentry hdungeon hdelay htype hlast hq hdue =>
    intro e he hglobal hsoon
    rcases mem_enqueue.1 he with rfl | he
    · exfalso
      have hmem := hq ▸ mem_cons_self
      obtain ⟨hday, -⟩ := htimely _ hmem htype (by rw [last_eq hlast]; exact hdue)
      have hnext := lt_calculateNextResetTime c (hc.days m entry hentry hdungeon) hdelay (s.resetTimeByMapId m)
      dsimp only at hsoon hday
      rw [upcoming_last, update_self] at hsoon
      change ((c.calculateNextResetTime entry (s.resetTimeByMapId m) : Nat) : Int) - ((60 : Nat) : Int) < now at hsoon
      unfold MINUTE DAY at hday hnext
      omega
    · have hne : e.2.mapid ≠ m := by
        intro heq
        obtain ⟨-, -, -, hnone⟩ := h.head hq htype
        have hmem : e ∈ rest.pending m := mem_filter.2 ⟨he, by simp [hglobal, heq]⟩
        rw [hnone] at hmem
        cases hmem
      dsimp only at hsoon ⊢
      rw [update_of_ne hne] at hsoon ⊢
      obtain ⟨hday, hold⟩ := htimely e (hq ▸ mem_cons_of_mem _ he) hglobal hsoon
      refine ⟨hday, fun w hw hwm => ?_⟩
      rcases mem_append.1 hw with hw | hw
      · exact hold w hw hwm
      · rw [mem_singleton.1 hw] at hwm
        exact absurd hwm.symm hne

theorem settled_update (hc : c.Sane) (h : Scheduled c s) (hsettled : ∀ mapid, c.Reset mapid → Settled s mapid)
    (htimely : Timely c s now late) (mapid : UInt16) (hmap : c.Reset mapid) :
    Settled (s.update c now late) mapid := by
  have hall : (Scheduled c (s.update c now late) ∧ Timely c (s.update c now late) now late) ∧
      ∀ mapid, c.Reset mapid → Settled (s.update c now late) mapid := by
    refine keeps (I := fun s => (Scheduled c s ∧ Timely c s now late) ∧ ∀ mapid, c.Reset mapid → Settled s mapid) ?_ ⟨⟨h, htimely⟩, hsettled⟩ _
    rintro s ⟨⟨hs, ht⟩, hset⟩ hdue
    have hhandled := hs.handled hc late hdue
    exact ⟨⟨hs.of_handled hhandled, timely_handled hc hs ht hhandled⟩, settled_handled hs ht hset hhandled⟩
  exact hall.2 mapid hmap

theorem settled_resetAllRaid (h : Scheduled c s) (now : Nat) (mapid : UInt16) (hmap : c.Reset mapid) : Settled
    (s.resetAllRaid now) mapid := by
  intro hjust
  obtain ⟨type, -, hone⟩ := h.one mapid hmap
  obtain ⟨-, -, hhistory⟩ := force_self (s := { s with resetTimeQueue := [] }) now hone rfl
  obtain ⟨l', t, hl⟩ := hjust
  rw [show (s.resetAllRaid now).history.filter (about mapid) = _ from hhistory,
    append_cons l' (reset mapid) [took mapid t]] at hl
  cases singleton_inj.1 (append_inj_right' hl rfl)

theorem settled_runWrite (i : Nat) (hsettled : Settled s mapid) : Settled (s.runWrite i) mapid := by
  unfold runWrite
  cases hi : s.writes[i]? with
  | none => exact hsettled
  | some w =>
    intro hjust
    obtain ⟨hrow, hwaiting⟩ := hsettled hjust
    refine ⟨?_, fun w hw hm => hwaiting w (mem_of_mem_eraseIdx hw) hm⟩
    dsimp only
    unfold updateRow
    by_cases hm : mapid = w.1
    · rw [hm, update_self, ← hm, hrow]
      exact congrArg some (hwaiting w (mem_of_getElem? hi) hm.symm)
    · rw [update_of_ne hm]
      exact hrow

theorem settled_step (hc : c.Sane) (h : Scheduled c s) (hsettled : ∀ mapid, c.Reset mapid → Settled s mapid) {e : ResetStep}
    (htimely : TimelyStep c s e) (mapid : UInt16) (hmap : c.Reset mapid) : Settled (s.step c e) mapid := by
  cases e with
  | update now late => exact settled_update hc h hsettled htimely mapid hmap
  | force now => exact settled_resetAllRaid h now mapid hmap
  | schedule add time m instanceId hinstance =>
    cases add with
    | true => exact (hsettled mapid hmap).congr rfl rfl rfl fun w hw _ => hw
    | false =>
      obtain ⟨p, -, heq⟩ := scheduleReset_off s time ⟨.normalDungeon, m, instanceId⟩
      change Settled (s.scheduleReset false time ⟨.normalDungeon, m, instanceId⟩) mapid
      rw [heq]
      exact (hsettled mapid hmap).congr rfl rfl rfl fun w hw _ => hw
  | write i => exact settled_runWrite i (hsettled mapid hmap)

/-! Whole runs. -/

/-- No instance loses its event but by its reset, or by being called off itself. -/
def Undropped (s : DungeonResetScheduler) : ResetStep → DungeonResetScheduler → Prop
  | .update now _, s' =>
    s'.resetTimeQueue.normals = s.resetTimeQueue.normals.filter (fun e => (now : Int) ≤ e.1) ∧
    s'.history.filterMap ResetDeed.instance? =
      s.history.filterMap ResetDeed.instance? ++ instancesOf (s.resetTimeQueue.normals.filter fun e => e.1 < (now : Int))
  | .force _, s' => s'.resetTimeQueue.normals.Perm s.resetTimeQueue.normals
  | .schedule _ _ mapid instanceId _, s' =>
    (s'.resetTimeQueue.filter fun e => !e.2.same ⟨.normalDungeon, mapid, instanceId⟩) =
      s.resetTimeQueue.filter fun e => !e.2.same ⟨.normalDungeon, mapid, instanceId⟩
  | .write _, s' => s'.resetTimeQueue = s.resetTimeQueue

theorem undropped_step (hc : c.Sane) (h : Scheduled c s) (e : ResetStep) : Undropped s e (s.step c e) := by
  cases e with
  | update now late => exact normals_update hc h now late
  | force now =>
    obtain ⟨-, hperm, -⟩ := force_rest (s := { s with resetTimeQueue := [] }) now (q := s.resetTimeQueue) nil
    exact hperm.trans (of_eq (append_nil _))
  | schedule add time mapid instanceId hinstance =>
    cases add with
    | true => exact Multimap.filter_insert_of_neg (by simp [DungeonResetEvent.same])
    | false =>
      obtain ⟨p, hp, heq⟩ := scheduleReset_off s time ⟨.normalDungeon, mapid, instanceId⟩
      change (s.scheduleReset false time ⟨.normalDungeon, mapid, instanceId⟩).resetTimeQueue.filter _ = _
      rw [heq]
      exact filter_eraseP fun e _ hsame => by rw [hp e hsame]; rfl
  | write i =>
    change (s.runWrite i).resetTimeQueue = s.resetTimeQueue
    unfold runWrite
    split <;> rfl

/-- Once the queued writes have run the rows are right, in every run that resets each map in time. All else holds of every run:
one pending event for each map, one reset for each reset time, an `Update` that ends, and no other event lost. -/
theorem raid_resets {c : ResetConfig} (hc : c.Sane) (rows : UInt16 → Option Nat) (instances : Table UInt32 (UInt16 × Nat))
    (now : Nat)
    (es : List ResetStep) :
    let s := run (step c) (start c rows instances now) es
    (∀ mapid, c.Reset mapid → ∃ type, type ≠ .normalDungeon ∧
      s.resetTimeQueue.pending mapid = [((s.resetTimeByMapId mapid : Int) - type.delay, ⟨type, mapid, 0⟩)]) ∧
    (∀ mapid, c.Reset mapid → Values mapid (s.history.filter (about mapid)) (s.resetTimeByMapId mapid)) ∧
    (∀ e, Undropped s e (s.step c e)) ∧
    (∀ now late, (∀ e ∈ (s.update c now late).resetTimeQueue, (now : Int) ≤ e.1) ∧
      ∀ fuel, s.overdue now ≤ fuel → run (due now) (handleFirst c now late) fuel s = s.update c now late) ∧
    (Admitted (step c) (TimelyStep c) (start c rows instances now) es → ∀ mapid, c.Reset mapid →
      JustReset mapid (s.history.filter (about mapid)) →
        s.instanceReset mapid = some (s.resetTimeByMapId mapid) ∧ ∀ w ∈ s.writes, w.1 = mapid → w.2 = s.resetTimeByMapId mapid) := by
  intro s
  obtain ⟨hstart, htook⟩ := start_scheduled c rows instances now
  have hs : Scheduled c s := always (I := Scheduled c) (fun _ e h => h.step hc e) hstart es
  refine ⟨hs.one, hs.values, undropped_step hc hs, fun now late => ⟨fun e he => ?_, fun fuel hfuel => ?_⟩, fun hes => ?_⟩
  · exact not_due (hs.update hc now late) (due_update hc hs now late) he
  · exact run_of_le (due_update hc hs now late) hfuel
  have hfirst : ∀ mapid, c.Reset mapid → Settled (start c rows instances now) mapid := by
    rintro mapid hmap ⟨l', t, hl⟩
    obtain ⟨t', ht'⟩ := htook mapid hmap
    have hlength := congrArg length (ht'.symm.trans hl)
    simp at hlength
  have hall := invariant (I := fun s => Scheduled c s ∧ ∀ mapid, c.Reset mapid → Settled s mapid)
    (fun s e h htimely => ⟨h.1.step hc e, settled_step hc h.1 h.2 htimely⟩) ⟨hstart, hfirst⟩ hes
  exact hall.2

end DungeonResetScheduler

namespace ResetSample

open DungeonResetScheduler

def config : ResetConfig := ⟨AList.insert 409 ⟨.raid, 7⟩ ∅, 4⟩

theorem config_sane : config.Sane where
  hour := by decide
  days mapid e he hdungeon := by
    by_cases hmap : mapid = 409
    · rw [hmap, show config.maps.lookup 409 = some ⟨.raid, 7⟩ from AList.lookup_insert _] at he
      cases some.inj he
      decide
    · rw [show config.maps.lookup mapid = none from AList.lookup_insert_ne hmap] at he
      cases he

/-- An `Update` in the last minute before the reset time, and the write. -/
def inTime : List ResetStep := [.update 619199 fun _ _ => 0, .write 0]

theorem reset_in_time :
    (Runs.run (step config) (start config (fun _ => none) ∅ 0) inTime).instanceReset 409 = some 1224000 := by
  have hall := (raid_resets config_sane (fun _ => none) ∅ 0 inTime).2.2.2.2 (by decide +kernel) 409 ⟨⟨.raid, 7⟩, by decide, by decide, by decide⟩
    ⟨[.took 409 619200], 1224000, by decide +kernel⟩
  exact hall.1.trans (by decide +kernel)

/-- Of a server whose `Update` comes a day late the row is a day off, and the next start reads it. -/
theorem reset_a_day_late :
    let s := run (step config) (start config (fun _ => none) ∅ 0) [.update 691200 fun _ _ => 0, .write 0]
    s.writes = [] ∧ s.history.filter (about 409) = [.took 409 619200, .reset 409, .took 409 1224000] ∧
      s.resetTimeByMapId 409 = 1224000 ∧ s.instanceReset 409 = some 1310400 := by
  decide +kernel

end ResetSample
end ComfyCraft
