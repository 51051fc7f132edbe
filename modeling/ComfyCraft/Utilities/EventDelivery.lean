import ComfyCraft.Lib.Runs
import ComfyCraft.Utilities.EventProcessor
import Mathlib.Data.List.Nodup
import Mathlib.Data.List.Pairwise

/-! What becomes of the events: they come in order, and each of them waits, is in the hands of one call, was released, or is
deleted, once. -/

namespace ComfyCraft

open List Function Option Bool List.Pairwise EventNode Multimap UInt64 Nat List.Subset ProcessorCall EventDeed

/-- Of two nodes that wait together this one comes first. -/
def EventNode.Before (n m : EventNode) : Prop := n.time < m.time ∨ n.time = m.time ∧ n.node < m.node

namespace EventProcessor

variable {p p' : EventProcessor} {event : Nat} {n : EventNode} {calls : List ProcessorCall}

/-! The order. -/

/-- The nodes are in order, and so are those that are executed: whoever was there already comes in order. -/
structure Ordered (p : EventProcessor) : Prop where
  sorted : p.events.Pairwise EventNode.Before
  distinct : (p.events.map EventNode.node).Nodup
  numbered : ∀ n ∈ p.events, n.node < p.nodes
  passed : ∀ n k, .executed n k ∈ p.history → k ≤ p.nodes ∧ ∀ m ∈ p.events, m.node < k → n.Before m
  ordered : p.history.Pairwise fun later earlier => ∀ n k n' k', later = .executed n k → earlier = .executed n' k' →
    n.node < k' → n'.Before n

theorem start_ordered : start.Ordered :=
  ⟨nil, nodup_nil, fun _ h => (not_mem_nil h).elim, fun _ _ h => (not_mem_nil h).elim, nil⟩

/-- Nothing but what is asked about the order changes. -/
theorem Ordered.of_eq (h : p.Ordered) (hevents : p'.events = p.events) (hnodes : p'.nodes = p.nodes)
    (hhistory : p'.history = p.history) :
    p'.Ordered := by
  obtain ⟨h1, h2, h3, h4, h5⟩ := h
  refine ⟨by rw [hevents]; exact h1, by rw [hevents]; exact h2, ?_, ?_, by rw [hhistory]; exact h5⟩
  · rw [hevents, hnodes]
    exact h3
  · rw [hevents, hnodes, hhistory]
    exact h4

theorem Ordered.fewer (h : p.Ordered) (hevents : p'.events.Sublist p.events) (hnodes : p'.nodes = p.nodes)
    (hhistory : p'.history = p.history) : p'.Ordered where
  sorted := h.sorted.sublist hevents
  distinct := h.distinct.sublist (hevents.map node)
  numbered n hn := by
    rw [hnodes]
    exact h.numbered n (hevents.subset hn)
  passed n k hk := by
    rw [hhistory] at hk
    rw [hnodes]
    exact ⟨(h.passed n k hk).1, fun m hm => (h.passed n k hk).2 m (hevents.subset hm)⟩
  ordered := by
    rw [hhistory]
    exact h.ordered

theorem Ordered.record (h : p.Ordered) {deed : EventDeed} (hdeed : ∀ n k, deed ≠ .executed n k) : (p.record deed).Ordered where
  sorted := h.sorted
  distinct := h.distinct
  numbered := h.numbered
  passed n k hk := by
    rcases mem_cons.1 hk with hk | hk
    · exact absurd hk.symm (hdeed n k)
    · exact h.passed n k hk
  ordered := pairwise_cons.2 ⟨fun _ _ n k _ _ heq => absurd heq (hdeed n k), h.ordered⟩

theorem events_delete (p : EventProcessor) (event : Nat) : (p.delete event).events = p.events := by
  unfold delete
  split_ifs <;> rfl

section

variable (h : p.Ordered)
include h

theorem Ordered.delete (event : Nat) : (p.delete event).Ordered := by
  unfold EventProcessor.delete
  split_ifs
  · exact h.of_eq rfl rfl rfl
  · exact h.record fun _ _ heq => by cases heq

theorem Ordered.execute {events : List EventNode} (hevents : p.events = n :: events) :
    (({ p with events := events } : EventProcessor).record (.executed n p.nodes)).Ordered := by
  have hsorted := h.sorted
  rw [hevents] at hsorted
  have hfewer : ({ p with events := events } : EventProcessor).Ordered :=
    h.fewer (by rw [hevents]; exact sublist_cons_self n events) rfl rfl
  have hmem : n ∈ p.events := by
    rw [hevents]
    exact mem_cons_self
  refine ⟨hfewer.sorted, hfewer.distinct, hfewer.numbered, fun m k hk => ?_, pairwise_cons.2 ⟨?_, h.ordered⟩⟩
  · rcases mem_cons.1 hk with heq | hk
    · cases heq
      exact ⟨le_rfl, fun m hm _ => rel_of_pairwise_cons hsorted hm⟩
    · exact hfewer.passed m k hk
  · rintro deed hdeed m k m' k' heq rfl hlt
    cases heq
    exact (h.passed m' k' hdeed).2 n hmem hlt

theorem Ordered.addEvent (event : Nat) (time : UInt64) : (p.addEvent event time).Ordered where
  sorted := by
    refine insert_sorted h.sorted (fun b c hbc => ?_) (fun b hb hle => ?_) fun b hb hlt => .inl (lt_iff_toNat_lt.2 hlt)
    · rcases hbc with hlt | ⟨heq, -⟩
      · exact le_of_lt (lt_iff_toNat_lt.1 hlt)
      · rw [heq]
    · rcases lt_or_eq_of_le hle with hlt | heq
      · exact .inl (lt_iff_toNat_lt.2 hlt)
      · exact .inr ⟨UInt64.toNat_inj.1 heq, h.numbered b hb⟩
  distinct := by
    have hperm := (insert_perm (fun n => n.time.toNat) ⟨time, event, p.nodes⟩ p.events).map node
    refine hperm.nodup_iff.2 (nodup_cons.2 ⟨fun hmem => ?_, h.distinct⟩)
    obtain ⟨m, hm, heq⟩ := mem_map.1 hmem
    exact absurd heq (Nat.ne_of_lt (h.numbered m hm))
  numbered m hm := by
    change m.node < p.nodes + 1
    rcases mem_insert.1 hm with rfl | hm
    · exact lt_succ_self _
    · exact lt_succ_of_lt (h.numbered m hm)
  passed m k hk := by
    obtain ⟨hle, hbefore⟩ := h.passed m k hk
    refine ⟨le_succ_of_le hle, fun m' hm' hlt => ?_⟩
    rcases mem_insert.1 hm' with rfl | hm'
    · exact absurd hlt (not_lt.2 hle)
    · exact hbefore m' hm' hlt
  ordered := h.ordered

theorem Ordered.updateNext (calls : List ProcessorCall) : (p.updateNext calls).Ordered := by
  unfold EventProcessor.updateNext
  split
  · exact h.of_eq rfl rfl rfl
  rename_i n events hevents
  have hfewer : ({ p with events := events } : EventProcessor).Ordered :=
    h.fewer (by rw [hevents]; exact sublist_cons_self n events) rfl rfl
  dsimp only
  split_ifs
  · exact h.of_eq rfl rfl rfl
  · exact h.of_eq rfl rfl rfl
  split
  · exact (h.execute hevents).of_eq rfl rfl rfl
  · exact (hfewer.record fun _ _ heq => by cases heq).of_eq rfl rfl rfl
  · exact hfewer.of_eq rfl rfl rfl

theorem Ordered.killNext (force : Bool) (itr : Nat) (calls : List ProcessorCall) : (p.killNext force itr calls).Ordered := by
  unfold EventProcessor.killNext
  split
  · exact h.of_eq rfl rfl rfl
  rename_i n _
  split_ifs
  · exact h.of_eq rfl rfl rfl
  · exact h.of_eq rfl rfl rfl
  · have hstate : (p.setAbortState n.event .aborted).Ordered := h.of_eq rfl rfl rfl
    exact (hstate.record fun _ _ heq => by cases heq).of_eq rfl rfl rfl

theorem Ordered.killPast (force deletable : Bool) (itr : Nat) (calls : List ProcessorCall) :
    (p.killPast force deletable itr calls).Ordered := by
  unfold EventProcessor.killPast
  split
  · exact h.of_eq rfl rfl rfl
  rename_i n _
  dsimp only
  split_ifs
  · exact h.of_eq rfl rfl rfl
  · exact h.of_eq rfl rfl rfl
  · exact (h.delete n.event).of_eq rfl rfl rfl
  have hdeleted : ((p.delete n.event).setCalls (.kill force (p.after itr) :: calls)).Ordered := (h.delete n.event).of_eq rfl rfl rfl
  refine hdeleted.fewer ?_ rfl rfl
  have hsame : ((p.delete n.event).setCalls (.kill force (p.after itr) :: calls)).events = p.events := events_delete p n.event
  rw [hsame]
  exact eraseP_sublist

end

/-! Where an event is. -/

def holds (event : Nat) : ProcessorCall → Bool
  | .executing other false => other = event
  | .aborting other | .checking other => other = event
  | _ => false

def forces : ProcessorCall → Bool
  | .kill true _ | .killAborting true _ | .killChecking true _ => true
  | _ => false

/-- Other calls can be made inside, and go on with the queue. -/
def waits : ProcessorCall → Bool
  | .executing _ _ | .aborting _ | .killAborting false _ => true
  | _ => false

def pointsTo : ProcessorCall → Option Nat
  | .kill _ itr => itr
  | .killAborting true itr | .killChecking _ itr => some itr
  | _ => none

/-- The nodes that are not behind a forced kill, which deletes the events and leaves the nodes until its end. -/
def live (p : EventProcessor) : List EventNode :=
  match p.calls with
  | .kill true none :: _ => []
  | .kill true (some itr) :: _ | .killAborting true itr :: _ | .killChecking true itr :: _ => p.events.dropWhile fun n => n.node ≠ itr
  | _ => p.events

def places (p : EventProcessor) (event : Nat) : Nat :=
  p.live.countP (fun n => n.event = event) + p.calls.countP (holds event) + p.released.count event + p.history.count (.deleted event)

/-- What a running call relies on. -/
def CallOk (p : EventProcessor) : ProcessorCall → Prop
  | .update => True
  | .executing event _ => ∃ n k, .executed n k ∈ p.history ∧ n.event = event
  | .aborting event => p.abortState event = .abortScheduled
  | .checking event => p.abortState event = .aborted
  | .kill _ _ => True
  | .killAborting _ itr | .killChecking _ itr => itr < p.nodes ∧ ∀ n ∈ p.events, n.node = itr → p.abortState n.event = .aborted

/-- Every event that was added is in one place, and is aborted once at most; nothing is done to one that is deleted. -/
structure Sound (p : EventProcessor) : Prop where
  ordered : p.Ordered
  sane : p.fault = false
  placed : ∀ event, p.places event = if event ∈ p.added then 1 else 0
  outer : ∀ call ∈ p.calls.tail, waits call = true
  points : ∀ call ∈ p.calls, ∀ itr, pointsTo call = some itr → ∃ n ∈ p.events, n.node = itr
  calls : ∀ call ∈ p.calls, p.CallOk call
  aborts : ∀ event, p.history.count (.aborted event) = (if p.abortState event = .aborted then 1 else 0) + p.calls.count (.aborting event)
  delivered : ∀ event, .deleted event ∈ p.history → .aborted event ∈ p.history ∨ ∃ n k, .executed n k ∈ p.history ∧ n.event = event
  lasts : p.history.Pairwise fun later earlier => ∀ event, earlier = .deleted event → later.event ≠ event

theorem live_eq (h : ∀ call, p.calls.head? = some call → forces call = false) : p.live = p.events := by
  unfold live
  split
  all_goals first
    | rfl
    | rename_i heq
      rw [heq] at h
      exact Bool.noConfusion (h _ rfl)

variable {call : ProcessorCall} {force : Bool} {itr : Nat} {time : UInt64}

theorem waits_not_forces (h : waits call = true) : forces call = false ∧ pointsTo call = none := by
  cases call with
  | killAborting force itr => cases force <;> first | exact ⟨rfl, rfl⟩ | cases h
  | executing event readded => exact ⟨rfl, rfl⟩
  | aborting event => exact ⟨rfl, rfl⟩
  | _ => cases h

theorem Sound.places_le (h : p.Sound) (event : Nat) : p.places event ≤ 1 := by
  rw [h.placed]
  split_ifs <;> decide

theorem Sound.alive_of_live (h : p.Sound) (hn : n ∈ p.live) : .deleted n.event ∉ p.history ∧ p.calls.countP
    (holds n.event) = 0 := by
  have hle := h.places_le n.event
  have hpos : 0 < p.live.countP fun m => m.event = n.event := countP_pos_iff.2 ⟨n, hn, by simp⟩
  unfold places at hle
  exact ⟨count_eq_zero.1 (by omega), by omega⟩

theorem Sound.alive_of_held (h : p.Sound) (hcall : call ∈ p.calls) (hheld : holds event call = true) :
    .deleted event ∉ p.history ∧ p.live.countP (fun n => n.event = event) = 0 ∧ p.released.count event = 0 ∧
      p.calls.countP (holds event) = 1 := by
  have hle := h.places_le event
  have hpos : 0 < p.calls.countP (holds event) := countP_pos_iff.2 ⟨call, hcall, hheld⟩
  unfold places at hle
  exact ⟨count_eq_zero.1 (by omega), by omega, by omega, by omega⟩

theorem CallOk.mono (h : p.CallOk call) (hhistory : ∀ deed ∈ p.history, deed ∈ p'.history) (hnodes : p.nodes ≤ p'.nodes)
    (hevents : ∀ m ∈ p'.events, m ∈ p.events ∨ p.nodes ≤ m.node) (haborted : ∀ e, p.abortState e = .aborted → p'.abortState e = .aborted)
    (hstate : ∀ e, call = .aborting e → p'.abortState e = p.abortState e) : p'.CallOk call := by
  cases call with
  | update => trivial
  | executing event readded =>
    obtain ⟨n, k, hmem, heq⟩ := h
    exact ⟨n, k, hhistory _ hmem, heq⟩
  | aborting event => exact (hstate event rfl).trans h
  | checking event => exact haborted event h
  | kill force itr => trivial
  | killAborting force itr | killChecking force itr =>
    refine ⟨lt_of_lt_of_le h.1 hnodes, fun m hm heq => ?_⟩
    rcases hevents m hm with hm | hm
    · exact haborted _ (h.2 m hm heq)
    · have := h.1
      omega

/-- Nothing is done, or something to an event that is not deleted; and one that is deleted was executed or aborted. -/
def Records (p p' : EventProcessor) : Prop :=
  p'.history = p.history ∨ ∃ deed, p'.history = deed :: p.history ∧ .deleted deed.event ∉ p.history ∧
    ∀ event, deed = .deleted event → .aborted event ∈ p.history ∨ ∃ n k, .executed n k ∈ p.history ∧ n.event = event

theorem Sound.records (h : p.Sound) (hr : Records p p') : p.history ⊆ p'.history ∧
    (∀ event, .deleted event ∈ p'.history → .aborted event ∈ p'.history ∨ ∃ n k, .executed n k ∈ p'.history ∧ n.event = event) ∧
    p'.history.Pairwise fun later earlier => ∀ event, earlier = .deleted event → later.event ≠ event := by
  rcases hr with heq | ⟨deed, heq, halive, hdelivered⟩
  · rw [heq]
    exact ⟨refl _, h.delivered, h.lasts⟩
  rw [heq]
  refine ⟨subset_cons_self deed p.history, fun event hevent => ?_, pairwise_cons.2 ⟨?_, h.lasts⟩⟩
  · have hbefore : .aborted event ∈ p.history ∨ ∃ n k, .executed n k ∈ p.history ∧ n.event = event := by
      rcases mem_cons.1 hevent with heq | hevent
      · exact hdelivered event heq.symm
      · exact h.delivered event hevent
    rcases hbefore with hmem | ⟨n, k, hmem, heq⟩
    · exact .inl (mem_cons_of_mem deed hmem)
    · exact .inr ⟨n, k, mem_cons_of_mem deed hmem, heq⟩
  · rintro earlier hearlier event rfl heq
    rw [heq] at halive
    exact halive hearlier

/-- The innermost call goes on to another point, or returns. -/
theorem Sound.goOn (h : p.Sound) (hcalls : p.calls = call :: calls) (ordered : p'.Ordered) (sane : p'.fault = false)
    (top : Option ProcessorCall) (htop : p'.calls = top.toList ++ calls) (hadded : p'.added = p.added)
    (hplaces : ∀ e, p'.live.countP (fun n => n.event = e) + top.toList.countP (holds e) + p'.released.count e +
        p'.history.count (.deleted e) =
      p.live.countP (fun n => n.event = e) + [call].countP (holds e) + p.released.count e + p.history.count (.deleted e))
    (points : ∀ itr, top.bind pointsTo = some itr → ∃ n ∈ p'.events, n.node = itr) (ok : ∀ call ∈ top, p'.CallOk call)
    (hnodes : p'.nodes = p.nodes) (hevents : p'.events ⊆ p.events) (hrecords : Records p p')
    (haborted : ∀ e, p.abortState e = .aborted → p'.abortState e = .aborted)
    (hstate : ∀ e, .aborting e ∈ calls → p'.abortState e = p.abortState e)
    (haborts : ∀ e, p'.history.count (.aborted e) + (if p.abortState e = .aborted then 1 else 0) + [call].count (.aborting e) =
      p.history.count (.aborted e) + (if p'.abortState e = .aborted then 1 else 0) + top.toList.count (.aborting e)) : p'.Sound := by
  have houter : ∀ c ∈ calls, waits c = true := by
    have := h.outer
    rw [hcalls] at this
    exact this
  obtain ⟨hhistory, hdelivered, hlasts⟩ := h.records hrecords
  refine ⟨ordered, sane, fun e => ?_, fun c hc => ?_, fun c hc itr hitr => ?_, fun c hc => ?_, fun e => ?_, hdelivered, hlasts⟩
  · have hplaced := h.placed e
    have hsame := hplaces e
    unfold places at hplaced ⊢
    rw [hcalls, ← singleton_append, countP_append] at hplaced
    rw [htop, countP_append, hadded, ← hplaced]
    omega
  · rw [htop] at hc
    cases top with
    | none => exact houter c (mem_of_mem_tail hc)
    | some c' => exact houter c hc
  · rw [htop, mem_append] at hc
    rcases hc with hc | hc
    · rw [mem_toList] at hc
      cases hc
      exact points itr hitr
    · rw [(waits_not_forces (houter c hc)).2] at hitr
      cases hitr
  · rw [htop, mem_append] at hc
    rcases hc with hc | hc
    · exact ok c (mem_toList.1 hc)
    refine (h.calls c (by rw [hcalls]; exact mem_cons_of_mem call hc)).mono hhistory (le_of_eq hnodes.symm)
      (fun m hm => .inl (hevents hm)) haborted fun e heq => ?_
    subst heq
    exact hstate e hc
  · have hcount := h.aborts e
    have hsame := haborts e
    rw [hcalls, ← singleton_append, count_append] at hcount
    rw [htop, count_append]
    omega

theorem Sound.rest_waits (h : p.Sound) (hcalls : p.calls = call :: calls) : ∀ c ∈ calls, waits c = true := by
  have := h.outer
  rw [hcalls] at this
  exact this

theorem live_rest (hcalls : p.calls = calls) (h : ∀ c ∈ calls, waits c = true) : p.live = p.events := by
  refine live_eq fun c hc => ?_
  rw [hcalls] at hc
  exact (waits_not_forces (h c (mem_of_mem_head? hc))).1

theorem live_cons (hcalls : p.calls = call :: calls) (h : forces call = false) : p.live = p.events := by
  refine live_eq fun c hc => ?_
  rw [hcalls] at hc
  cases hc
  exact h

/-! `Update`. -/

theorem Sound.updateNext (h : p.Sound) (hcalls : p.calls = .update :: calls) : (p.updateNext calls).Sound := by
  have hordered := h.ordered.updateNext calls
  have hlive : p.live = p.events := live_cons hcalls rfl
  have hrest := h.rest_waits hcalls
  have hreturns : (p.setCalls calls).Ordered → (p.setCalls calls).Sound := fun hordered => by
    refine h.goOn hcalls hordered h.sane none rfl rfl (fun e => ?_) (fun _ hitr => by cases hitr) (fun _ hc => by cases hc) rfl
      (refl _) (.inl rfl) (fun _ he => he) (fun _ _ => rfl) fun e => rfl
    rw [live_rest rfl hrest, hlive]
    rfl
  unfold EventProcessor.updateNext at hordered ⊢
  cases hevents : p.events with
  | nil =>
    rw [hevents] at hordered
    exact hreturns hordered
  | cons n events =>
    rw [hevents] at hordered
    dsimp only at hordered ⊢
    have hn : n ∈ p.live := by
      rw [hlive, hevents]
      exact mem_cons_self
    obtain ⟨halive, hfree⟩ := h.alive_of_live hn
    have hnot : p.isDeleted n.event = false := decide_eq_false halive
    by_cases hdue : p.time < n.time
    · rw [if_pos hdue] at hordered ⊢
      exact hreturns hordered
    rw [if_neg hdue, hnot] at hordered ⊢
    have htail : events ⊆ p.events := by
      rw [hevents]
      exact subset_cons_self n events
    -- the event goes from the queue into the hands of the call
    have hmoved : ∀ (p' : EventProcessor) (call : ProcessorCall), p'.calls = call :: calls → forces call = false →
        (∀ e, holds e call = decide (n.event = e)) → p'.events = events → p'.released = p.released →
        (∀ e, p'.history.count (.deleted e) = p.history.count (.deleted e)) →
        ∀ e, p'.live.countP (fun n => n.event = e) + [call].countP (holds e) + p'.released.count e + p'.history.count (.deleted e) =
          p.live.countP (fun n => n.event = e) + [update].countP (holds e) + p.released.count e +
            p.history.count (.deleted e) := by
      intro p' call hcall hforces hholds hevents' hreleased hhistory e
      have hupdate : holds e .update = false := rfl
      rw [live_cons hcall hforces, hevents', hlive, hevents, hreleased, hhistory]
      simp only [countP_cons, countP_nil, hholds, hupdate]
      simp only [false_eq_true, if_false]
      omega
    cases hstate : p.abortState n.event with
    | running =>
      rw [hstate] at hordered
      refine h.goOn hcalls hordered h.sane (some (.executing n.event false)) rfl rfl (hmoved _ _ rfl rfl (fun _ => rfl) rfl rfl fun e => ?_)
        (fun _ hitr => by cases hitr) (fun c hc => ?_) rfl htail (.inr ⟨_, rfl, halive, fun _ heq => by cases heq⟩) (fun _ he => he)
        (fun _ _ => rfl) fun e => ?_
      · exact count_cons_of_ne (fun heq => by cases heq)
      · cases hc
        exact ⟨n, p.nodes, mem_cons_self, rfl⟩
      · simp [record, setCalls]
    | abortScheduled =>
      rw [hstate] at hordered
      refine h.goOn hcalls hordered h.sane (some (.aborting n.event)) rfl rfl (hmoved _ _ rfl rfl (fun _ => rfl) rfl rfl fun e => ?_)
        (fun _ hitr => by cases hitr) (fun c hc => ?_) rfl htail (.inr ⟨_, rfl, halive, fun _ heq => by cases heq⟩) (fun _ he => he)
        (fun _ _ => rfl) fun e => ?_
      · exact count_cons_of_ne (fun heq => by cases heq)
      · cases hc
        exact hstate
      · simp [record, setCalls, count_cons]
        omega
    | aborted =>
      rw [hstate] at hordered
      refine h.goOn hcalls hordered h.sane (some (.checking n.event)) rfl rfl (hmoved _ _ rfl rfl (fun _ => rfl) rfl rfl fun e => rfl)
        (fun _ hitr => by cases hitr) (fun c hc => ?_) rfl htail (.inl rfl) (fun _ he => he) (fun _ _ => rfl) fun e => rfl
      cases hc
      exact hstate

theorem delete_eq (halive : .deleted event ∉ p.history) : p.delete event = p.record (.deleted event) := by
  unfold delete isDeleted
  rw [decide_eq_false halive]
  rfl

section

variable (h : p.Sound) (hcalls : p.calls = call :: calls) (hforces : forces call = false)
  (hholds : ∀ e, holds e call = decide (event = e)) (hcall : ∀ e, call ≠ .aborting e)
include h hcalls hforces hholds hcall

/-- `Update` deletes the event it has in its hands. -/
theorem Sound.deleteHeld (hdelivered : .aborted event ∈ p.history ∨ ∃ n k, .executed n k ∈ p.history ∧ n.event = event) :
    ((p.delete event).setCalls (.update :: calls)).Sound := by
  obtain ⟨halive, -⟩ := h.alive_of_held (by rw [hcalls]; exact mem_cons_self) (by rw [hholds event]; simp)
  have hordered : ((p.delete event).setCalls (.update :: calls)).Ordered := (h.ordered.delete event).of_eq rfl rfl rfl
  rw [delete_eq halive] at hordered ⊢
  refine h.goOn hcalls hordered h.sane (some .update) rfl rfl (fun e => ?_) (fun _ hitr => by cases hitr) (fun c hc => ?_) rfl
    (refl _) (.inr ⟨_, rfl, halive, fun e heq => ?_⟩) (fun _ he => he) (fun _ _ => rfl) fun e => ?_
  · have hlive : ((p.record (.deleted event)).setCalls (.update :: calls)).live = p.events := live_cons rfl rfl
    have hupdate : holds e .update = false := rfl
    rw [hlive, live_cons hcalls hforces]
    change _ + _ + p.released.count e + (deleted event :: p.history).count (.deleted e) = _
    simp only [toList_some, countP_cons, countP_nil, count_cons, hupdate, hholds]
    by_cases heq : event = e
    · simp [heq]
      omega
    · simp [heq]
  · cases hc
    trivial
  · cases heq
    exact hdelivered
  · change (deleted event :: p.history).count (.aborted e) + _ + _ = _
    rw [count_cons_of_ne (fun heq => by cases heq), count_singleton, beq_false_of_ne (hcall e)]
    rfl

theorem Sound.release : ({ p.setCalls (.update :: calls) with released := event :: p.released } : EventProcessor).Sound := by
  have hordered : ({ p.setCalls (.update :: calls) with released := event :: p.released } : EventProcessor).Ordered :=
    h.ordered.of_eq rfl rfl rfl
  refine h.goOn hcalls hordered h.sane (some .update) rfl rfl (fun e => ?_) (fun _ hitr => by cases hitr) (fun c hc => ?_) rfl
    (refl _) (.inl rfl) (fun _ he => he) (fun _ _ => rfl) fun e => ?_
  · rw [live_cons (show _ = update :: calls from rfl) rfl, live_cons hcalls hforces]
    change p.events.countP _ + _ + (event :: p.released).count e + p.history.count (.deleted e) = _
    have hupdate : holds e .update = false := rfl
    simp only [toList_some, countP_cons, countP_nil, hupdate, hholds]
    by_cases heq : event = e
    · simp [heq]
      omega
    · simp [heq]
  · cases hc
    trivial
  · rw [count_singleton, beq_false_of_ne (hcall e)]
    rfl

end

theorem Sound.executed (h : p.Sound) {readded : Bool} (hcalls : p.calls = .executing event readded :: calls) (done : Bool)
    (hok : (done && readded) = false) :
    (if done then (p.delete event).setCalls (.update :: calls)
      else ({ p.setCalls (.update :: calls) with
        released := if readded then p.released else event :: p.released } : EventProcessor)).Sound := by
  have hexecuted := h.calls (.executing event readded) (by rw [hcalls]; exact mem_cons_self)
  cases done with
  | true =>
    rw [Bool.true_and] at hok
    rw [hok] at hcalls
    exact h.deleteHeld hcalls rfl (fun _ => rfl) (fun _ heq => by cases heq) (.inr hexecuted)
  | false =>
    cases readded with
    | false => exact h.release hcalls rfl (fun _ => rfl) fun _ heq => by cases heq
    | true =>
      have hordered : (p.setCalls (.update :: calls)).Ordered := h.ordered.of_eq rfl rfl rfl
      refine h.goOn hcalls hordered h.sane (some .update) rfl rfl (fun e => ?_) (fun _ hitr => by cases hitr) (fun c hc => ?_) rfl
        (refl _) (.inl rfl) (fun _ he => he) (fun _ _ => rfl) fun e => rfl
      · rw [live_cons (show _ = update :: calls from rfl) rfl, live_cons hcalls rfl]
        rfl
      · cases hc
        trivial

theorem Sound.abortReturned (h : p.Sound) (hcalls : p.calls = .aborting event :: calls) :
    p.abortState event ≠ .aborted ∧ ((p.setAbortState event .aborted).setCalls (.checking event :: calls)).Sound := by
  have hmem : aborting event ∈ p.calls := by
    rw [hcalls]
    exact mem_cons_self
  have hscheduled : p.abortState event = .abortScheduled := h.calls _ hmem
  have hnot : p.abortState event ≠ .aborted := by
    rw [hscheduled]
    decide
  refine ⟨hnot, ?_⟩
  obtain ⟨-, -, -, honce⟩ := h.alive_of_held hmem (show holds event (.aborting event) = true by unfold holds; simp)
  have hself : ∀ e, ((p.setAbortState event .aborted).setCalls (.checking event :: calls)).abortState e =
      if e = event then .aborted else p.abortState e := fun e => update_apply _ _ _ _
  have hordered : ((p.setAbortState event .aborted).setCalls (.checking event :: calls)).Ordered := h.ordered.of_eq rfl rfl rfl
  refine h.goOn hcalls hordered h.sane (some (.checking event)) rfl rfl (fun e => ?_) (fun _ hitr => by cases hitr) (fun c hc => ?_) rfl
    (refl _) (.inl rfl) (fun e he => ?_) (fun e he => ?_) fun e => ?_
  · rw [live_cons hcalls rfl, live_cons (show _ = checking event :: calls from rfl) rfl]
    rfl
  · cases hc
    exact (hself event).trans (if_pos rfl)
  · rw [hself, he, ite_self]
  · rw [hself, if_neg]
    rintro rfl
    rw [hcalls] at honce
    have hpos : 0 < calls.countP (holds e) := countP_pos_iff.2 ⟨_, he, by unfold holds; simp⟩
    rw [countP_cons_of_pos (by unfold holds; simp)] at honce
    omega
  · rw [hself]
    by_cases heq : e = event
    · rw [heq, hscheduled, if_pos rfl]
      simp [setCalls, setAbortState]
    · rw [if_neg heq]
      have hne : aborting event ≠ .aborting e := fun h => heq (by cases h; rfl)
      simp [setCalls, setAbortState, hne]

/-! `KillAllEvents`. -/

/-- A node of the queue, with those before and behind it. -/
theorem Ordered.split (h : p.Ordered) (hn : n ∈ p.events) :
    ∃ pre post, p.events = pre ++ n :: post ∧ p.find n.node = some n ∧ (p.events.dropWhile fun m => m.node ≠ n.node) = n :: post ∧
      (p.events.eraseP fun m => m.node = n.node) = pre ++ post ∧ p.after n.node = post.head?.map EventNode.node ∧
      ∀ m ∈ post.head?, (p.events.dropWhile fun k => k.node ≠ m.node) = post := by
  obtain ⟨pre, post, heq⟩ := append_of_mem hn
  have hdistinct := h.distinct
  rw [heq, map_append, map_cons, nodup_append, nodup_cons] at hdistinct
  obtain ⟨-, ⟨hpost, -⟩, hpre⟩ := hdistinct
  have hne : ∀ k ∈ n :: post, ∀ m ∈ pre, m.node ≠ k.node := fun k hk m hm =>
    hpre _ (mem_map_of_mem hm) _ (map_cons ▸ mem_map_of_mem hk)
  have hself := hne n mem_cons_self
  have hdrop : (p.events.dropWhile fun m => m.node ≠ n.node) = n :: post := by
    rw [heq, dropWhile_append_of_pos fun m hm => by simpa using hself m hm]
    exact dropWhile_cons_of_neg (by simp)
  refine ⟨pre, post, heq, ?_, hdrop, ?_, ?_, fun m hm => ?_⟩
  · unfold find
    rw [heq, find?_append, find?_eq_none.2 fun m hm => by simpa using hself m hm]
    simp
  · rw [heq, eraseP_append_right _ fun m hm => by simpa using hself m hm, eraseP_cons_of_pos (by simp)]
  · unfold after
    rw [hdrop]
    rfl
  cases post with
  | nil => cases hm
  | cons k post =>
    cases hm
    have hbefore : ∀ x ∈ pre ++ [n], x.node ≠ m.node := by
      intro x hx
      rcases mem_append.1 hx with hx | hx
      · exact hne m (mem_cons_of_mem n mem_cons_self) x hx
      · rw [mem_singleton.1 hx]
        exact fun heq => hpost (heq ▸ mem_cons_self)
    rw [heq, append_cons, dropWhile_append_of_pos fun x hx => by simpa using hbefore x hx]
    exact dropWhile_cons_of_neg (by simp)

theorem Ordered.unique (h : p.Ordered) {m : EventNode} (hn : n ∈ p.events) (hm : m ∈ p.events) (heq : m.node = n.node) : m = n :=
  inj_on_of_nodup_map h.distinct hm hn heq

/-- `KillAllEvents` is at a node. -/
inductive Kills (force : Bool) (itr : Nat) : ProcessorCall → Prop
  | next : Kills force itr (.kill force (some itr))
  | aborting : Kills force itr (.killAborting force itr)
  | checking : Kills force itr (.killChecking force itr)

theorem live_kills (hcalls : p.calls = call :: calls) (hkills : Kills force itr call) :
    p.live = if force then p.events.dropWhile fun n => n.node ≠ itr else p.events := by
  unfold live
  rw [hcalls]
  cases hkills <;> cases force <;> rfl

theorem Sound.killEnd (h : p.Sound) (hcalls : p.calls = .kill force none :: calls) :
    ({ p.setCalls calls with events := if force then [] else p.events } : EventProcessor).Sound := by
  have hsub : (if force then [] else p.events).Sublist p.events := by
    split_ifs
    · exact nil_sublist _
    · exact List.Sublist.refl _
  have hordered : ({ p.setCalls calls with events := if force then [] else p.events } : EventProcessor).Ordered := h.ordered.fewer hsub rfl rfl
  refine h.goOn hcalls hordered h.sane none rfl rfl (fun e => ?_) (fun _ hitr => by cases hitr) (fun _ hc => by cases hc) rfl hsub.subset
    (.inl rfl) (fun _ he => he) (fun _ _ => rfl) fun _ => rfl
  have hlive : p.live = if force then [] else p.events := by
    unfold live
    rw [hcalls]
    cases force <;> rfl
  rw [live_rest rfl (h.rest_waits hcalls), hlive]
  rfl

theorem Sound.killNext (h : p.Sound) (hcalls : p.calls = .kill force (some itr) :: calls) :
    (p.killNext force itr calls).Sound := by
  have hordered := h.ordered.killNext force itr calls
  obtain ⟨n, hn, rfl⟩ := h.points _ (by rw [hcalls]; exact mem_cons_self) itr rfl
  obtain ⟨pre, post, heq, hfind, hdrop, -⟩ := h.ordered.split hn
  have hlive := live_kills hcalls .next
  have hmem : n ∈ p.live := by
    rw [hlive, hdrop]
    split_ifs
    · exact mem_cons_self
    · exact hn
  obtain ⟨halive, hfree⟩ := h.alive_of_live hmem
  unfold EventProcessor.killNext at hordered ⊢
  rw [hfind] at hordered ⊢
  have hnot : p.isDeleted n.event = false := decide_eq_false halive
  dsimp only at hordered ⊢
  rw [hnot, if_neg Bool.false_ne_true] at hordered ⊢
  have hlt := h.ordered.numbered n hn
  by_cases haborted : p.abortState n.event = .aborted
  · rw [if_pos haborted] at hordered ⊢
    refine h.goOn hcalls hordered h.sane (some (.killChecking force n.node)) rfl rfl (fun e => ?_) (fun itr hitr => ?_) (fun c hc => ?_) rfl
      (List.Subset.refl _) (.inl rfl) (fun _ he => he) (fun _ _ => rfl) fun _ => rfl
    · rw [hlive, live_kills (show _ = ProcessorCall.killChecking force n.node :: calls from rfl) .checking]
      rfl
    · cases hitr
      exact ⟨n, hn, rfl⟩
    · cases hc
      refine ⟨hlt, fun m hm hnode => ?_⟩
      rw [h.ordered.unique hn hm hnode]
      exact haborted
  · rw [if_neg haborted] at hordered ⊢
    have hself : ∀ e, (((p.setAbortState n.event .aborted).record (.aborted n.event)).setCalls
        (.killAborting force n.node :: calls)).abortState e = if e = n.event then .aborted else p.abortState e :=
      fun e => update_apply _ _ _ _
    refine h.goOn hcalls hordered h.sane (some (.killAborting force n.node)) rfl rfl (fun e => ?_) (fun itr hitr => ?_) (fun c hc => ?_) rfl
      (List.Subset.refl _) (.inr ⟨_, rfl, halive, fun _ heq => by cases heq⟩) (fun e he => ?_) (fun e he => ?_) fun e => ?_
    · rw [hlive, live_kills (show _ = ProcessorCall.killAborting force n.node :: calls from rfl) .aborting]
      change _ + _ + _ + (EventDeed.aborted n.event :: p.history).count (.deleted e) = _
      rw [count_cons_of_ne fun heq => by cases heq]
      rfl
    · cases force with
      | false => cases hitr
      | true =>
        cases hitr
        exact ⟨n, hn, rfl⟩
    · cases hc
      refine ⟨hlt, fun m hm hnode => ?_⟩
      rw [h.ordered.unique hn hm hnode]
      exact (hself n.event).trans (if_pos rfl)
    · rw [hself, he, ite_self]
    · rw [hself, if_neg]
      rintro rfl
      rw [hcalls] at hfree
      have hpos : 0 < (ProcessorCall.kill force (some n.node) :: calls).countP (holds n.event) :=
        countP_pos_iff.2 ⟨_, mem_cons_of_mem _ he, by unfold holds; simp⟩
      omega
    · rw [hself]
      by_cases heq : e = n.event
      · rw [heq, if_neg haborted, if_pos rfl]
        simp [setCalls, record, setAbortState]
      · rw [if_neg heq]
        have hne : EventDeed.aborted n.event ≠ .aborted e := fun h => heq (by cases h; rfl)
        simp [setCalls, record, setAbortState, hne]

theorem Sound.abortOfKill (h : p.Sound) (hcalls : p.calls = .killAborting force itr :: calls)
    (hfound : (p.find itr).isSome = true) : (p.setCalls (.killChecking force itr :: calls)).Sound := by
  have hordered : (p.setCalls (.killChecking force itr :: calls)).Ordered := h.ordered.of_eq rfl rfl rfl
  have hok := h.calls _ (show killAborting force itr ∈ p.calls by rw [hcalls]; exact mem_cons_self)
  refine h.goOn hcalls hordered h.sane (some (.killChecking force itr)) rfl rfl (fun e => ?_) (fun i hi => ?_) (fun c hc => ?_) rfl
    (refl _) (.inl rfl) (fun _ he => he) (fun _ _ => rfl) fun _ => rfl
  · rw [live_kills hcalls .aborting, live_kills (show _ = killChecking force itr :: calls from rfl) .checking]
    rfl
  · cases hi
    obtain ⟨n, hn⟩ := isSome_iff_exists.1 hfound
    unfold find at hn
    have hnode := find?_some hn
    exact ⟨n, mem_of_find?_eq_some hn, of_decide_eq_true hnode⟩
  · cases hc
    exact hok

theorem Sound.killPast (h : p.Sound) (hcalls : p.calls = .killChecking force itr :: calls) (deletable : Bool) :
    (p.killPast force deletable itr calls).Sound := by
  have hordered := h.ordered.killPast force deletable itr calls
  have hmem : ProcessorCall.killChecking force itr ∈ p.calls := by
    rw [hcalls]
    exact mem_cons_self
  obtain ⟨n, hn, rfl⟩ := h.points _ hmem itr rfl
  have haborted := (h.calls _ hmem).2 n hn rfl
  obtain ⟨pre, post, heq, hfind, hdrop, herase, hafter, hnext⟩ := h.ordered.split hn
  have hlive := live_kills hcalls .checking
  have hin : n ∈ p.live := by
    rw [hlive, hdrop]
    split_ifs
    · exact mem_cons_self
    · exact hn
  obtain ⟨halive, -⟩ := h.alive_of_live hin
  have hdelivered : .aborted n.event ∈ p.history := by
    have hcount := h.aborts n.event
    rw [if_pos haborted] at hcount
    exact count_pos_iff.1 (by omega)
  have hpoints : ∀ i, post.head?.map node = some i → ∃ m ∈ post, m.node = i := fun i hi => by
    obtain ⟨m, hm, rfl⟩ := Option.map_eq_some_iff.1 hi
    exact ⟨m, mem_of_mem_head? hm, rfl⟩
  have hpost : ∀ m ∈ post, m ∈ p.events := fun m hm => by
    rw [heq]
    exact mem_append_right _ (mem_cons_of_mem n hm)
  unfold killPast at hordered ⊢
  rw [hfind] at hordered ⊢
  have hnot : p.isDeleted n.event = false := decide_eq_false halive
  dsimp only at hordered ⊢
  rw [hnot, hafter, if_neg Bool.false_ne_true] at hordered ⊢
  by_cases hskip : (!force) = true ∧ (!deletable) = true
  · rw [if_pos hskip] at hordered ⊢
    obtain rfl : force = false := by simpa using hskip.1
    refine h.goOn hcalls hordered h.sane (some (.kill false (post.head?.map node))) rfl rfl (fun e => ?_) (fun i hi => ?_)
      (fun c hc => ?_) rfl (refl _) (.inl rfl) (fun _ he => he) (fun _ _ => rfl) fun _ => rfl
    · rw [hlive, live_cons (show _ = kill false (post.head?.map node) :: calls from rfl) rfl]
      rfl
    · obtain ⟨m, hm, hi⟩ := hpoints i hi
      exact ⟨m, hpost m hm, hi⟩
    · cases hc
      trivial
  · rw [if_neg hskip] at hordered ⊢
    rw [delete_eq halive] at hordered ⊢
    -- the event is deleted and its node is behind the iterator or gone
    have hdeleted : ∀ l : List EventNode, ∀ e, l.countP (fun m => decide (m.event = e)) + 0 + p.released.count e +
        (deleted n.event :: p.history).count (.deleted e) =
        (n :: l).countP (fun m => decide (m.event = e)) + 0 + p.released.count e + p.history.count (.deleted e) := by
      intro l e
      rw [countP_cons, count_cons]
      by_cases hne : n.event = e
      · simp [hne]
        omega
      · simp [hne]
    have haborts : ∀ e, (deleted n.event :: p.history).count (.aborted e) + (if p.abortState e = .aborted then 1 else 0) + 0 =
        p.history.count (.aborted e) + (if p.abortState e = .aborted then 1 else 0) + 0 := by
      intro e
      rw [count_cons_of_ne fun heq => by cases heq]
    cases force with
    | true =>
      rw [if_pos rfl] at hordered ⊢
      refine h.goOn hcalls hordered h.sane (some (.kill true (post.head?.map node))) rfl rfl (fun e => ?_) (fun i hi => ?_)
        (fun c hc => ?_) rfl (refl _) (.inr ⟨_, rfl, halive, fun e heq => ?_⟩) (fun _ he => he) (fun _ _ => rfl) fun e => ?_
      · have hlive' : ((p.record (.deleted n.event)).setCalls (.kill true (post.head?.map node) :: calls)).live = post := by
          unfold live
          cases hhead : post.head? with
          | none => exact (head?_eq_none_iff.1 hhead).symm
          | some m => exact hnext m hhead
        rw [hlive', hlive, if_pos rfl, hdrop]
        exact hdeleted post e
      · obtain ⟨m, hm, hi⟩ := hpoints i hi
        exact ⟨m, hpost m hm, hi⟩
      · cases hc
        trivial
      · cases heq
        exact .inl hdelivered
      · exact haborts e
    | false =>
      rw [if_neg Bool.false_ne_true] at hordered ⊢
      have hsub : p.events.eraseP (fun m => m.node = n.node) ⊆ p.events := eraseP_subset
      refine h.goOn hcalls hordered h.sane (some (.kill false (post.head?.map node))) rfl rfl (fun e => ?_) (fun i hi => ?_)
        (fun c hc => ?_) rfl hsub (.inr ⟨_, rfl, halive, fun e heq => ?_⟩) (fun _ he => he) (fun _ _ => rfl) fun e => ?_
      · have hbefore : p.live = pre ++ n :: post := hlive.trans heq
        rw [live_cons (show _ = kill false (post.head?.map node) :: calls from rfl) rfl, hbefore, perm_middle.countP_eq]
        change (p.events.eraseP fun m => m.node = n.node).countP _ + _ + _ + _ = _
        rw [herase]
        exact hdeleted (pre ++ post) e
      · obtain ⟨m, hm, hi⟩ := hpoints i hi
        refine ⟨m, ?_, hi⟩
        change m ∈ p.events.eraseP fun m => m.node = n.node
        rw [herase]
        exact mem_append_right pre hm
      · cases hc
        trivial
      · cases heq
        exact .inl hdelivered
      · exact haborts e

/-! Calls from outside. -/

theorem Sound.all_wait (h : p.Sound) (hout : p.isOutside = true)
    (hforced : p.forced.isNone = true) : ∀ c ∈ p.calls, waits c = true := by
  cases hcalls : p.calls with
  | nil => exact fun _ hc => (not_mem_nil hc).elim
  | cons call calls =>
    have hrest := h.rest_waits hcalls
    refine forall_mem_cons.2 ⟨?_, hrest⟩
    unfold isOutside at hout
    unfold forced at hforced
    rw [hcalls] at hout hforced
    cases call with
    | executing event readded => rfl
    | aborting event => rfl
    | killAborting force itr =>
      cases force with
      | false => rfl
      | true => cases hforced
    | update => cases hout
    | checking event => cases hout
    | kill force itr => cases hout
    | killChecking force itr => cases hout

theorem Sound.enter (h : p.Sound) (hwait : ∀ c ∈ p.calls, waits c = true) (time : UInt64)
    (hlive : (({ p with time := time } : EventProcessor).setCalls (call :: p.calls)).live = p.events) (hholds : ∀ e, holds e call = false)
    (hpoints : ∀ itr, pointsTo call = some itr → ∃ n ∈ p.events, n.node = itr) (hok : p.CallOk call) (hcall : ∀ e, call ≠ .aborting e) :
    (({ p with time := time } : EventProcessor).setCalls (call :: p.calls)).Sound := by
  have hok' : ∀ c, p.CallOk c → (({ p with time := time } : EventProcessor).setCalls (call :: p.calls)).CallOk c := fun c hc =>
    hc.mono (fun _ hd => hd) (le_refl _) (fun _ hm => .inl hm) (fun _ he => he) fun _ _ => rfl
  refine ⟨h.ordered.of_eq rfl rfl rfl, h.sane, fun e => ?_, hwait, fun c hc itr hitr => ?_, fun c hc => ?_, fun e => ?_, h.delivered, h.lasts⟩
  · have hplaced := h.placed e
    unfold places at hplaced ⊢
    rw [live_rest rfl hwait] at hplaced
    rw [hlive]
    change _ + (call :: p.calls).countP (holds e) + p.released.count e + p.history.count (.deleted e) = _
    rw [countP_cons_of_neg (by simp [hholds e])]
    exact hplaced
  · rcases mem_cons.1 hc with rfl | hc
    · exact hpoints itr hitr
    · exact h.points c hc itr hitr
  · rcases mem_cons.1 hc with rfl | hc
    · exact hok' _ hok
    · exact hok' c (h.calls c hc)
  · change _ = _ + (call :: p.calls).count (.aborting e)
    rw [count_cons_of_ne (hcall e)]
    exact h.aborts e

theorem Sound.scheduleAbort (h : p.Sound) (hrunning : p.abortState event = .running) :
    (p.setAbortState event .abortScheduled).Sound := by
  have hself : ∀ e, (p.setAbortState event .abortScheduled).abortState e = if e = event then .abortScheduled else p.abortState e :=
    fun e => update_apply _ _ _ _
  refine ⟨h.ordered.of_eq rfl rfl rfl, h.sane, h.placed, h.outer, h.points, fun c hc => ?_, fun e => ?_, h.delivered, h.lasts⟩
  · refine (h.calls c hc).mono (fun _ hd => hd) (le_refl _) (fun _ hm => .inl hm) (fun e he => ?_) fun e heq => ?_
    · rw [hself, if_neg]
      · exact he
      rintro rfl
      rw [hrunning] at he
      cases he
    · subst heq
      rw [hself, if_neg]
      rintro rfl
      have hscheduled : p.abortState e = .abortScheduled := h.calls _ hc
      rw [hrunning] at hscheduled
      cases hscheduled
  · have hcount := h.aborts e
    rw [hself]
    by_cases heq : e = event
    · rw [heq, hrunning] at hcount
      rw [if_pos heq, heq]
      exact hcount
    · rw [if_neg heq]
      exact hcount

/-! `AddEvent`. -/

theorem forces_readd (event : Nat) (call : ProcessorCall) : forces (readd event call) = forces call := by
  cases call <;> rfl

theorem waits_readd (event : Nat) (call : ProcessorCall) : waits (readd event call) = waits call := by
  cases call <;> rfl

theorem pointsTo_readd (event : Nat) (call : ProcessorCall) : pointsTo (readd event call) = pointsTo call := by
  cases call <;> rfl

/-- Who adds itself again is in the hands of the call no more. -/
theorem countP_readd (event e : Nat) (calls : List ProcessorCall) :
    (calls.map (readd event)).countP (holds e) + (if e = event then calls.count (.executing event false) else 0) = calls.countP (holds e) := by
  induction calls with
  | nil => simp
  | cons call calls ih =>
    have hone : (if holds e (readd event call) = true then 1 else 0) + (if e = event then if call = .executing event false then 1 else 0 else 0) =
        if holds e call = true then 1 else 0 := by
      cases call with
      | executing other readded =>
        cases readded with
        | true => simp [readd, holds]
        | false =>
          by_cases hother : other = event
          · simp [readd, holds, hother, eq_comm]
          · simp [readd, holds, hother]
      | _ => simp [readd, holds]
    rw [map_cons, countP_cons, countP_cons, count_cons]
    simp only [beq_iff_eq]
    split_ifs at hone ih ⊢ <;> omega

theorem count_aborting_readd (event e : Nat) (calls : List ProcessorCall) :
    (calls.map (readd event)).count (.aborting e) = calls.count (.aborting e) := by
  induction calls with
  | nil => rfl
  | cons call calls ih =>
    rw [map_cons, count_cons, count_cons, ih]
    congr 1
    cases call <;> simp [readd]

/-- A new node is in front of no forced kill. -/
theorem live_addEvent (h : p.Ordered) (hhead : ∀ call, p.calls.head? = some call → forces call = true →
      ∃ itr n, call = .killAborting true itr ∧ p.find itr = some n ∧ n.time ≤ time) (event e : Nat) :
    (p.addEvent event time).live.countP (fun n => n.event = e) =
      p.live.countP (fun n => n.event = e) + if event = e then 1 else 0 := by
  have hinsert : ∀ l : List EventNode, (insert (fun n => n.time.toNat) ⟨time, event, p.nodes⟩ l).countP (fun n => n.event = e) =
        l.countP (fun n => n.event = e) + if event = e then 1 else 0 := by
    intro l
    rw [(insert_perm _ _ l).countP_eq, countP_cons]
    simp
  cases hforces : (p.calls.head?.map forces).getD false with
  | false =>
    have hnone : ∀ call, p.calls.head? = some call → forces call = false := fun call hc => by
      rw [hc] at hforces
      exact hforces
    rw [live_eq hnone, live_eq fun call hc => ?_]
    · exact hinsert p.events
    change (p.calls.map (readd event)).head? = some call at hc
    rw [head?_map] at hc
    obtain ⟨c, hhead, rfl⟩ := map_eq_some_iff.1 hc
    rw [forces_readd]
    exact hnone c hhead
  | true =>
    cases hcalls : p.calls with
    | nil =>
      rw [hcalls] at hforces
      cases hforces
    | cons call calls =>
      rw [hcalls] at hforces hhead
      obtain ⟨itr, n, rfl, hfind, hle⟩ := hhead call rfl hforces
      unfold find at hfind
      have hn := mem_of_find?_eq_some hfind
      have hnode := find?_some hfind
      obtain rfl : n.node = itr := of_decide_eq_true hnode
      obtain ⟨pre, post, heq, -, hdrop, -⟩ := h.split hn
      have hsorted := h.sorted
      rw [heq, pairwise_append] at hsorted
      have hpre : ∀ b ∈ pre ++ [n], b.time.toNat ≤ time.toNat := by
        intro b hb
        refine le_trans ?_ (le_iff_toNat_le.1 hle)
        rcases mem_append.1 hb with hb | hb
        · rcases hsorted.2.2 b hb n mem_cons_self with hlt | ⟨htime, -⟩
          · exact le_of_lt (lt_iff_toNat_lt.1 hlt)
          · rw [htime]
        · rw [mem_singleton.1 hb]
      have hbehind : insert (fun n => n.time.toNat) ⟨time, event, p.nodes⟩ p.events =
          pre ++ n :: insert (fun n => n.time.toNat) ⟨time, event, p.nodes⟩ post := by
        rw [heq, append_cons, insert_append hpre, ← append_cons]
      have hdistinct := h.distinct
      rw [heq, map_append, map_cons, nodup_append] at hdistinct
      have hne : ∀ m ∈ pre, m.node ≠ n.node := fun m hm => hdistinct.2.2 _ (mem_map_of_mem hm) _ mem_cons_self
      have hbefore : p.live = n :: post := by
        rw [live_kills hcalls .aborting, if_pos rfl]
        exact hdrop
      have hafter : (p.addEvent event time).live = n :: insert (fun n => n.time.toNat) ⟨time, event, p.nodes⟩ post := by
        have hcalls' : (p.addEvent event time).calls = .killAborting true n.node :: calls.map (readd event) := by
          change p.calls.map (readd event) = _
          rw [hcalls]
          rfl
        rw [live_kills hcalls' .aborting, if_pos rfl]
        change (insert _ _ p.events).dropWhile _ = _
        rw [hbehind, dropWhile_append_of_pos fun m hm => by simpa using hne m hm]
        exact dropWhile_cons_of_neg (by simp)
      rw [hbefore, hafter, countP_cons, countP_cons, hinsert]
      omega

theorem Sound.addEvent (h : p.Sound) (hmay : event ∉ p.added ∨ event ∈ p.released ∨ .executing event false ∈ p.calls)
    (hhead : ∀ call, p.calls.head? = some call → forces call = true →
      ∃ itr n, call = .killAborting true itr ∧ p.find itr = some n ∧ n.time ≤ time) : (p.addEvent event time).Sound := by
  have hmem : ∀ m ∈ (p.addEvent event time).events, m ∈ p.events ∨ p.nodes ≤ m.node := fun m hm => by
    rcases mem_insert.1 hm with rfl | hm
    · exact .inr (le_refl _)
    · exact .inl hm
  refine ⟨h.ordered.addEvent event time, h.sane, fun e => ?_, fun c hc => ?_, fun c hc itr hitr => ?_, fun c hc => ?_, fun e => ?_,
    h.delivered, h.lasts⟩
  · have hplaced := h.placed e
    have hheld := countP_readd event e p.calls
    unfold places at hplaced ⊢
    rw [live_addEvent h.ordered hhead]
    change _ + (p.calls.map (readd event)).countP (holds e) + (p.released.erase event).count e + p.history.count (.deleted e) =
      if e ∈ p.added.insert event then 1 else 0
    rw [count_erase]
    by_cases heq : e = event
    · subst heq
      rw [if_pos rfl] at hheld
      rw [if_pos rfl, if_pos (by simp), if_pos (by simp)]
      split_ifs at hplaced with hadded
      · rcases hmay with hnew | hreleased | hexecuting
        · exact absurd hadded hnew
        · have := count_pos_iff.2 hreleased
          omega
        · have := count_pos_iff.2 hexecuting
          omega
      · omega
    · rw [if_neg heq] at hheld
      rw [if_neg (Ne.symm heq), if_neg (by simpa using Ne.symm heq)]
      have hiff : e ∈ p.added.insert event ↔ e ∈ p.added := by simp [heq]
      simp only [hiff]
      omega
  · change c ∈ (p.calls.map (readd event)).tail at hc
    rw [← map_tail] at hc
    obtain ⟨old, hold, rfl⟩ := mem_map.1 hc
    rw [waits_readd]
    exact h.outer old hold
  · obtain ⟨old, hold, rfl⟩ := mem_map.1 hc
    rw [pointsTo_readd] at hitr
    obtain ⟨n, hn, hnode⟩ := h.points old hold itr hitr
    exact ⟨n, mem_insert.2 (.inr hn), hnode⟩
  · obtain ⟨old, hold, rfl⟩ := mem_map.1 hc
    have hok : (p.addEvent event time).CallOk old :=
      (h.calls old hold).mono (fun _ hd => hd) (le_succ _) hmem (fun _ he => he) fun _ _ => rfl
    cases old <;> exact hok
  · change _ = _ + (p.calls.map (readd event)).count (.aborting e)
    rw [count_aborting_readd]
    exact h.aborts e

/-- One that cannot be deleted yet waits for the next tick. -/
theorem Sound.waitOn (h : p.Sound) (hcalls : p.calls = .checking event :: calls) (time : UInt64) :
    ((p.setCalls (.update :: calls)).addEvent event time).Sound := by
  obtain ⟨-, -, hreleased, -⟩ := h.alive_of_held (show checking event ∈ p.calls by rw [hcalls]; exact mem_cons_self)
    (show holds event (.checking event) = true by unfold holds; simp)
  -- as if it had been let go, and added again
  have hout := h.release hcalls rfl (fun _ => rfl) fun _ heq => by cases heq
  have hadded : (({ p.setCalls (.update :: calls) with released := event :: p.released } : EventProcessor).addEvent event time).Sound :=
    hout.addEvent (.inr (.inl mem_cons_self)) fun call hc hforces => by
      cases hc
      cases hforces
  have hsame : ({ p.setCalls (.update :: calls) with released := event :: p.released } : EventProcessor).addEvent event time =
      (p.setCalls (.update :: calls)).addEvent event time := by
    have herase : (event :: p.released).erase event = p.released.erase event := by
      rw [erase_cons_head, erase_of_not_mem (count_eq_zero.1 hreleased)]
    unfold EventProcessor.addEvent setCalls
    dsimp only
    rw [herase]
  exact hsame ▸ hadded

/-! Runs. -/

theorem forced_of_forces (h : p.isOutside = true) (hhead : p.calls.head? = some call) (hforces : forces call = true) :
    ∃ itr, call = .killAborting true itr ∧ p.forced = some itr := by
  unfold isOutside at h
  unfold forced
  cases hcalls : p.calls with
  | nil =>
    rw [hcalls] at hhead
    cases hhead
  | cons c calls =>
    rw [hcalls] at hhead h
    cases hhead
    cases call with
    | killAborting force itr =>
      cases force with
      | true => exact ⟨itr, rfl, rfl⟩
      | false => cases hforces
    | executing event readded => cases hforces
    | aborting event => cases hforces
    | update => cases h
    | checking event => cases h
    | kill force itr => cases h
    | killChecking force itr => cases h

theorem Sound.mayAdd (h : p.Sound) (hout : p.isOutside = true) (hmay : p.mayAdd event time = true) :
    p.isDeleted event = false ∧ (p.addEvent event time).Sound := by
  unfold EventProcessor.mayAdd at hmay
  rw [and_eq_true] at hmay
  have hwhere : event ∉ p.added ∨ event ∈ p.released ∨ .executing event false ∈ p.calls := by
    have := hmay.1
    simp only [or_eq_true, decide_eq_true_eq] at this
    tauto
  refine ⟨decide_eq_false ?_, h.addEvent hwhere fun call hhead hforces => ?_⟩
  · have hplaced := h.placed event
    have hle := h.places_le event
    unfold places at hplaced hle
    rcases hwhere with hnew | hreleased | hexecuting
    · rw [if_neg hnew] at hplaced
      exact count_eq_zero.1 (by omega)
    · have := count_pos_iff.2 hreleased
      exact count_eq_zero.1 (by omega)
    · exact (h.alive_of_held hexecuting (show holds event (.executing event false) = true by unfold holds; simp)).1
  · obtain ⟨itr, rfl, hforced⟩ := forced_of_forces hout hhead hforces
    obtain ⟨n, hn, hnode⟩ := h.points _ (mem_of_mem_head? hhead) itr rfl
    obtain ⟨-, -, -, hfind, -⟩ := h.ordered.split hn
    rw [hnode] at hfind
    have htime := hmay.2
    rw [hforced, bind_some, hfind, all_some] at htime
    exact ⟨itr, n, rfl, hfind, of_decide_eq_true htime⟩

theorem Sound.step (h : p.Sound) {e : ProcessorEvent} (hok : p.admits e = true) : (p.step e).Sound := by
  unfold EventProcessor.step
  rw [h.sane, if_neg Bool.false_ne_true]
  unfold admits at hok
  cases e with
  | addEvent event time =>
    unfold go
    dsimp only at hok ⊢
    split_ifs with hout hdeleted
    · rw [(h.mayAdd hout hok).1] at hdeleted
      cases hdeleted
    · exact (h.mayAdd hout hok).2
    · exact h
  | scheduleAbort event =>
    unfold go EventProcessor.scheduleAbort
    dsimp only at hok ⊢
    rw [Bool.and_eq_true, Bool.not_eq_true', decide_eq_true_eq] at hok
    rw [hok.1, hok.2]
    split_ifs with hout hfails
    · rcases hfails with hfails | hfails
      · cases hfails
      · exact absurd rfl hfails
    · exact h.scheduleAbort hok.2
    · exact h
  | update diff =>
    unfold go
    dsimp only at hok ⊢
    split_ifs with hout
    · exact h.enter (h.all_wait hout hok) _ (live_cons rfl rfl) (fun _ => rfl) (fun _ hitr => by cases hitr) trivial fun _ heq => by cases heq
    · exact h
  | killAllEvents force =>
    unfold go
    dsimp only at hok ⊢
    split_ifs with hout
    · refine h.enter (h.all_wait hout hok) p.time ?_ (fun _ => rfl) (fun itr hitr => ?_) trivial fun _ heq => by cases heq
      · cases force with
        | false => exact live_cons rfl rfl
        | true =>
          unfold live setCalls
          dsimp only
          cases p.events with
          | nil => rfl
          | cons n events => exact dropWhile_cons_of_neg (by simp)
      · obtain ⟨n, hn, hnode⟩ := Option.map_eq_some_iff.1 hitr
        exact ⟨n, mem_of_mem_head? hn, hnode⟩
    · exact h
  | next =>
    unfold go
    dsimp only
    split
    · rename_i hcalls
      exact h.updateNext hcalls
    · rename_i hcalls
      exact h.killNext hcalls
    · rename_i hcalls
      exact h.killEnd hcalls
    · exact h
  | executed done =>
    unfold go
    dsimp only at hok ⊢
    split
    · rename_i hcalls
      rw [hcalls] at hok
      exact h.executed hcalls done (by rw [Bool.not_eq_true'] at hok; exact hok)
    · exact h
  | aborted =>
    unfold go
    dsimp only at hok ⊢
    split
    · rename_i hcalls
      rw [if_neg (h.abortReturned hcalls).1]
      exact (h.abortReturned hcalls).2
    · rename_i hcalls
      rw [hcalls] at hok
      exact h.abortOfKill hcalls hok
    · exact h
  | deletable answer =>
    unfold go
    dsimp only
    split
    · rename_i event calls hcalls
      obtain ⟨halive, -⟩ := h.alive_of_held (show ProcessorCall.checking event ∈ p.calls by rw [hcalls]; exact mem_cons_self)
        (show holds event (.checking event) = true by unfold holds; simp)
      have hnot : p.isDeleted event = false := decide_eq_false halive
      rw [hnot, if_neg Bool.false_ne_true]
      split_ifs
      · refine h.deleteHeld hcalls rfl (fun _ => rfl) (fun _ heq => by cases heq) (.inl ?_)
        have haborted : p.abortState event = .aborted := h.calls (.checking event) (by rw [hcalls]; exact mem_cons_self)
        have hcount := h.aborts event
        rw [if_pos haborted] at hcount
        exact count_pos_iff.1 (by omega)
      · exact h.waitOn hcalls _
    · rename_i hcalls
      exact h.killPast hcalls answer
    · exact h

theorem start_sound : start.Sound where
  ordered := start_ordered
  sane := rfl
  placed _ := rfl
  outer _ hc := (not_mem_nil hc).elim
  points _ hc := (not_mem_nil hc).elim
  calls _ hc := (not_mem_nil hc).elim
  aborts _ := rfl
  delivered _ hd := (not_mem_nil hd).elim
  lasts := nil

/-- What the processor promises: no step goes through something that is gone, an event is aborted and deleted once at most, only
after it was executed or aborted, and nothing is done to it afterwards; while no call is running, every event that was added
waits, or was let go, or is deleted, only one of these; and of two executions the later one was of a node that comes later,
unless that node came in after the first. -/
structure Delivered (p : EventProcessor) : Prop where
  sane : p.fault = false
  aborted : ∀ event, p.history.count (.aborted event) ≤ 1
  deleted : ∀ event, p.history.count (.deleted event) ≤ 1
  delivered : ∀ event, .deleted event ∈ p.history → .aborted event ∈ p.history ∨ ∃ n k, .executed n k ∈ p.history ∧ n.event = event
  lasts : p.history.Pairwise fun later earlier => ∀ event, earlier = .deleted event → later.event ≠ event
  kept : p.calls = [] → ∀ event ∈ p.added,
    p.events.countP (fun n => n.event = event) + p.released.count event + p.history.count (.deleted event) = 1
  ordered : p.history.Pairwise fun later earlier => ∀ n k n' k', later = .executed n k → earlier = .executed n' k' →
    n.node < k' → n'.Before n

theorem Sound.promises (h : p.Sound) : p.Delivered := by
  refine ⟨h.sane, fun event => ?_, fun event => ?_, h.delivered, h.lasts, fun hcalls event hadded => ?_, h.ordered.ordered⟩
  · rw [h.aborts event]
    by_cases hmem : aborting event ∈ p.calls
    · have hscheduled : p.abortState event = .abortScheduled := h.calls _ hmem
      obtain ⟨-, -, -, honce⟩ := h.alive_of_held hmem (show holds event (.aborting event) = true by unfold holds; simp)
      have hle : p.calls.count (.aborting event) ≤ p.calls.countP (holds event) :=
        countP_mono_left fun c _ hc => by rw [beq_iff_eq.1 hc]; unfold holds; simp
      rw [hscheduled, if_neg (by decide)]
      omega
    · rw [count_eq_zero.2 hmem]
      split_ifs <;> decide
  · have hle := h.places_le event
    unfold places at hle
    omega
  · have hplaced := h.placed event
    unfold places at hplaced
    rw [if_pos hadded, live_rest hcalls (fun _ hc => (not_mem_nil hc).elim), hcalls] at hplaced
    exact hplaced

/-- In every run whose calls there is a promise for. -/
theorem events_delivered {es : List ProcessorEvent} (h : Runs.Admitted EventProcessor.step
    (fun p e => p.admits e = true) start es) :
    (Runs.run EventProcessor.step start es).Delivered :=
  (Runs.invariant (I := Sound) (fun _ _ hp hok => hp.step hok) start_sound h).promises

/-- Two events, of which the first schedules an abort of the second and adds itself again while it is executing; in the end all are
killed. -/
theorem events_delivered_killed : (Runs.run EventProcessor.step start
      [.addEvent 0 10, .addEvent 1 10, .update 10, .next, .scheduleAbort 1, .addEvent 0 12, .executed false, .next, .aborted,
        .deletable false, .next, .killAllEvents true, .next, .deletable true, .next, .aborted, .deletable false, .next]).Delivered :=
  events_delivered (by decide)

def executionTimes (p : EventProcessor) : List UInt64 :=
  p.history.filterMap fun deed => match deed with
    | .executed n _ => some n.time
    | _ => none

/-- An event that comes in for a time that has passed is executed after a later one; one whose `Execute` returns false is not deleted;
one that is added twice is used after it is deleted; so is one that is killed inside its `Abort` by another kill; and one that is
added behind a forced kill is lost. -/
theorem not_always_delivered : ¬ (Runs.run EventProcessor.step start
        [.addEvent 0 10, .update 10, .next, .addEvent 1 5, .executed true, .next, .executed true, .next]).executionTimes.Pairwise (· ≥ ·) ∧
      (Runs.run EventProcessor.step start [.addEvent 0 10, .update 10, .next, .executed false, .next]).history =
        [.executed ⟨10, 0, 0⟩ 1] ∧
      (Runs.run EventProcessor.step start [.addEvent 0 0, .addEvent 0 0, .update 0, .next, .executed true, .next]).fault = true ∧
      (Runs.run EventProcessor.step start
        [.addEvent 0 10, .killAllEvents false, .next, .killAllEvents false, .next, .deletable true, .next, .aborted,
          .deletable true]).fault = true ∧
      (Runs.run EventProcessor.step start
        [.addEvent 0 10, .killAllEvents true, .next, .addEvent 1 5, .aborted, .deletable true, .next]).history =
        [.deleted 0, .aborted 0] := by
  decide

end EventProcessor

end ComfyCraft
