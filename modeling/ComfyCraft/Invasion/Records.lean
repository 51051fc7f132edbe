import ComfyCraft.Invasion.Lifecycle

/-! The result rows. A match that reached the fight has one as soon as it is over, naming as its winner
one of the two sides or nobody, and no other invasion has any. A row that `Update` drops in the middle
of a fight, because its invader has gone from the world, has none. -/

namespace ComfyCraft.InvasionManager

open List Effect Invasion State

def Effect.records (k : Nat) : Effect → Nat
  | .record serial _ _ _ => if serial = k then 1 else 0
  | .teleport _ _ _ | .arrived _ _ _ | .resurrect _ _ | .respite _ _ | .fell _ => 0

def Effect.arrivals (k : Nat) : Effect → Nat
  | .arrived serial _ _ => if serial = k then 1 else 0
  | .teleport _ _ _ | .record _ _ _ _ | .resurrect _ _ | .respite _ _ | .fell _ => 0

def recorded (k : Nat) (fx : List Effect) : Nat := (fx.map (Effect.records k)).sum

def reached (k : Nat) (fx : List Effect) : Nat := (fx.map (Effect.arrivals k)).sum

@[simp] theorem recorded_append (k : Nat) (a b : List Effect) : recorded k (a ++ b) = recorded k a + recorded k b := by
  simp [recorded]

@[simp] theorem reached_append (k : Nat) (a b : List Effect) : reached k (a ++ b) = reached k a + reached k b := by
  simp [reached]

@[simp] theorem recorded_cons (k : Nat) (x : Effect) (fx : List Effect) : recorded k (x :: fx) = x.records k + recorded k fx := by
  simp [recorded]

@[simp] theorem reached_cons (k : Nat) (x : Effect) (fx : List Effect) : reached k (x :: fx) = x.arrivals k + reached k fx := by
  simp [reached]

@[simp] theorem recorded_nil (k : Nat) : recorded k [] = 0 := rfl

@[simp] theorem reached_nil (k : Nat) : reached k [] = 0 := rfl

@[simp] theorem counts_fell (k : Nat) (l : List Nat) : recorded k (l.map .fell) = 0 ∧ reached k (l.map .fell) = 0 := by
  induction l with
  | nil => exact ⟨rfl, rfl⟩
  | cons a l ih => simpa [records, arrivals] using ih

@[simp] theorem counts_respite (env : Env) (k d : Nat) : recorded k (grantRespite env d) = 0 ∧ reached k
    (grantRespite env d) = 0 := by
  unfold grantRespite
  split_ifs
  · exact ⟨rfl, rfl⟩
  · exact ⟨rfl, rfl⟩

theorem counts_match (inv : Invasion) (winner : Option Nat) (k : Nat) :
    recorded k (inv.recordMatch winner) = (if inv.serial = k ∧ inv.phase = .fighting then 1 else 0) ∧
      reached k (inv.recordMatch winner) = 0 := by
  unfold recordMatch
  by_cases hp : inv.phase = .fighting
  · rw [if_neg (not_not.2 hp)]
    simp [records, arrivals, hp]
  · rw [if_pos hp]
    simp [hp]

theorem counts_conclude (env : Env) (inv : Invasion) (delayMs : UInt32) (winner : Option Nat) (k : Nat) :
    recorded k (inv.conclude env delayMs winner).2 = (if inv.serial = k ∧ inv.phase = .fighting then 1 else 0) ∧
      reached k (inv.conclude env delayMs winner).2 = 0 := by
  obtain ⟨h1, h2⟩ := counts_match inv winner k
  unfold conclude
  rw [recorded_append, reached_append, h1, h2]
  split_ifs <;> simp

theorem counts_arrive (env : Env) (inv : Invasion) (defender : Player) (k : Nat) :
    recorded k (inv.arrive env defender).2 = 0 ∧ reached k (inv.arrive env defender).2 = if inv.serial = k then 1 else 0 := by
  unfold arrive
  rw [recorded_append, reached_append, (counts_respite env k inv.defender).1, (counts_respite env k inv.defender).2]
  simp [records, arrivals]

variable {env : Env} {h : Hook} {a : Invasion} {o : Option Invasion} {es : List Effect} {k : Nat}

/-- A change books nothing under another row's number. -/
theorem change_elsewhere (hc : Change env h a o es) (hk : a.serial ≠ k) : recorded k es = 0 ∧ reached k es = 0 := by
  cases hc with
  | keep => exact ⟨rfl, rfl⟩
  | tick => exact ⟨rfl, rfl⟩
  | cold => exact ⟨rfl, rfl⟩
  | gone => exact ⟨rfl, rfl⟩
  | arrive inv' defender hphase hinv =>
    have hs : inv'.serial ≠ k := by
      rw [hinv]
      exact hk
    obtain ⟨h1, h2⟩ := counts_arrive env inv' defender k
    exact ⟨h1, h2.trans (if_neg hs)⟩
  | conclude inv' delayMs winner fell hinv hphase hreviving hwinner =>
    have hs : inv'.serial ≠ k := by
      rw [hinv]
      exact hk
    obtain ⟨h1, h2⟩ := counts_conclude env inv' delayMs winner k
    rw [recorded_append, reached_append, h1, h2, (counts_fell k fell).1, (counts_fell k fell).2, if_neg fun hand => hs hand.1]
    exact ⟨rfl, rfl⟩
  | logout player hhook hinvader =>
    obtain ⟨h1, h2⟩ := counts_match a none k
    rw [recorded_cons, reached_cons, h1, h2, if_neg fun hand => hk hand.1]
    exact ⟨rfl, rfl⟩
  | home => exact ⟨rfl, rfl⟩
  | homeDead => exact ⟨rfl, rfl⟩
  | wake => exact ⟨rfl, rfl⟩

/-- The row is in the fight after the change. -/
def Fights (o : Option Invasion) : Prop := ∃ b ∈ o, b.phase = .fighting

/-- What a change books under its row's number, unless it drops a fight whose invader is gone. -/
theorem change_books (hc : Change env h a o es) (hgone : (∃ diff, h = .update diff) → a.phase = .fighting →
      ∃ p ∈ env.findPlayerNotInWorld a.invader, p.inWorld = true ∨ p.beingTeleported = true) :
    (recorded a.serial es = 0 ∧ reached a.serial es = 0 ∧ (Fights o ↔ a.phase = .fighting)) ∨
      (a.phase = .stalking ∧ recorded a.serial es = 0 ∧ reached a.serial es = 1 ∧ Fights o ∧
        .arrived a.serial a.invader a.defender ∈ es) ∨
      (a.phase = .fighting ∧ recorded a.serial es = 1 ∧ reached a.serial es = 0 ∧ ¬ Fights o) := by
  cases hc with
  | keep => exact .inl ⟨rfl, rfl, by simp [Fights]⟩
  | tick => exact .inl ⟨rfl, rfl, by simp [Fights]⟩
  | cold hphase => exact .inl ⟨rfl, rfl, by simp [Fights, hphase]⟩
  | home hphase => exact .inl ⟨rfl, rfl, by simp [Fights, hphase]⟩
  | homeDead timer diff invader hphase => exact .inl ⟨rfl, rfl, by simp [Fights, hphase]⟩
  | wake hphase => exact .inl ⟨rfl, rfl, by simp [Fights, hphase]⟩
  | gone diff hhook hleft =>
    have hnot : a.phase ≠ .fighting := by
      intro hp
      obtain ⟨p, hp1, hp2⟩ := hgone ⟨diff, hhook⟩ hp
      obtain ⟨hw, ht⟩ := hleft p hp1
      rw [hw, ht] at hp2
      simp at hp2
    exact .inl ⟨rfl, rfl, by simp [Fights, hnot]⟩
  | arrive inv' defender hphase hinv =>
    have hs : inv'.serial = a.serial ∧ inv'.invader = a.invader ∧ inv'.defender = a.defender := by
      rw [hinv]
      exact ⟨rfl, rfl, rfl⟩
    obtain ⟨h1, h2⟩ := counts_arrive env inv' defender a.serial
    refine .inr (.inl ⟨hphase, h1, h2.trans (if_pos hs.1), ⟨_, rfl, rfl⟩, ?_⟩)
    rw [← hs.1, ← hs.2.1, ← hs.2.2]
    simp [arrive]
  | conclude inv' delayMs winner fell hinv hphase hreviving hwinner =>
    have hs : inv'.serial = a.serial ∧ inv'.phase = a.phase := by
      rw [hinv]
      exact ⟨rfl, rfl⟩
    have hout : ¬ Fights (some (inv'.conclude env delayMs winner).1) := by simp [Fights, conclude]
    obtain ⟨h1, h2⟩ := counts_conclude env inv' delayMs winner a.serial
    rw [recorded_append, reached_append, h1, h2, (counts_fell a.serial fell).1, (counts_fell a.serial fell).2, hs.2]
    by_cases hp : a.phase = .fighting
    · exact .inr (.inr ⟨hp, by simp [hs.1, hp], rfl, hout⟩)
    · exact .inl ⟨by simp [hp], rfl, by simp [hp, hout]⟩
  | logout player hhook hinvader =>
    obtain ⟨h1, h2⟩ := counts_match a none a.serial
    rw [recorded_cons, reached_cons, h1, h2]
    by_cases hp : a.phase = .fighting
    · exact .inr (.inr ⟨hp, by simp [records, hp], rfl, by simp [Fights]⟩)
    · exact .inl ⟨by simp [records, hp], rfl, by simp [Fights, hp]⟩

/-- A result row names the sides of the fight it is about. -/
theorem change_names (hc : Change env h a o es) {i d : Nat} {w : Option Nat} (hm : .record k i d w ∈ es) :
    a.phase = .fighting ∧ k = a.serial ∧ i = a.invader ∧ d = a.defender ∧ ∀ g ∈ w, g = i ∨ g = d := by
  cases hc with
  | keep => cases hm
  | tick => cases hm
  | cold => cases hm
  | gone => cases hm
  | home => simp at hm
  | homeDead => simp at hm
  | wake => simp at hm
  | arrive inv' defender hphase hinv =>
    unfold arrive at hm
    rcases mem_append.1 hm with hm | hm
    · simp at hm
    · cases mem_grantRespite hm
  | conclude inv' delayMs winner fell hinv hphase hreviving hwinner =>
    rcases mem_append.1 hm with hm | hm
    · unfold conclude at hm
      rcases mem_append.1 hm with hm | hm
      · obtain ⟨hp, heq⟩ := mem_recordMatch hm
        rw [hinv] at hp heq
        cases heq
        exact ⟨hp, rfl, rfl, rfl, hwinner⟩
      · split_ifs at hm
        · cases mem_grantRespite hm
        · cases hm
    · simp at hm
  | logout player hhook hinvader =>
    rcases mem_cons.1 hm with heq | hm
    · cases heq
    obtain ⟨hp, heq⟩ := mem_recordMatch hm
    cases heq
    exact ⟨hp, rfl, rfl, rfl, fun g hg => by cases hg⟩

/-- A row is on the hunt after a change only if it was before; in the fight, it was or has just arrived. -/
theorem change_phase {b : Invasion} (hc : Change env h a (some b) es) : (b.phase = .stalking → a.phase = .stalking) ∧
      (b.phase = .fighting → a.phase = .fighting ∨ a.phase = .stalking ∧ .arrived b.serial b.invader b.defender ∈ es) := by
  cases hc with
  | keep => exact ⟨fun h => h, .inl⟩
  | tick => exact ⟨fun h => h, .inl⟩
  | arrive inv' defender hphase hinv => exact ⟨fun h => (by cases h), fun _ => .inr ⟨hphase, by simp [arrive]⟩⟩
  | conclude => exact ⟨fun h => (by cases h), fun h => (by cases h)⟩
  | homeDead => exact ⟨fun h => (by cases h), fun h => (by cases h)⟩

namespace State

/-- The row with that number is in the fight. -/
def Fighting (s : State) (k : Nat) : Prop := ∃ inv ∈ s.invasions, inv.serial = k ∧ inv.phase = .fighting

instance (s : State) (k : Nat) : Decidable (s.Fighting k) := inferInstanceAs (Decidable (∃ inv ∈ s.invasions, _))

/-- The books: a match that has been reached has a result row or is still fought. -/
structure Booked (s : State) : Prop where
  count : ∀ k, reached k s.log = recorded k s.log + if s.Fighting k then 1 else 0
  once : ∀ k, reached k s.log ≤ 1
  stalking : ∀ inv ∈ s.invasions, inv.phase = .stalking → reached inv.serial s.log = 0
  coming : ∀ k, s.next ≤ k → reached k s.log = 0
  arrived : ∀ inv ∈ s.invasions, inv.phase = .fighting → .arrived inv.serial inv.invader inv.defender ∈ s.log
  named : ∀ k i d w, .record k i d w ∈ s.log → .arrived k i d ∈ s.log ∧ ∀ g ∈ w, g = i ∨ g = d

theorem booked_init : init.Booked where
  count _ := by simp [init, Fighting]
  once _ := Nat.zero_le _
  stalking _ h := (not_mem_nil h).elim
  coming _ _ := rfl
  arrived _ h := (not_mem_nil h).elim
  named _ _ _ _ h := (not_mem_nil h).elim

/-- No fight is dropped because `Update` finds its invader gone. -/
def Attended (s : State) (e : Env × Hook) : Prop :=
  match e.2 with
  | .update _ =>
    ∀ inv ∈ s.invasions, inv.phase = .fighting →
      ∃ p ∈ e.1.findPlayerNotInWorld inv.invader, p.inWorld = true ∨ p.beingTeleported = true
  | _ => True

instance Attended.decide (s : State) : ∀ e : Env × Hook, Decidable (s.Attended e)
  | (_, .update _) => by
    delta Attended
    dsimp only
    infer_instance
  | (_, .canBeginInvasion _) | (_, .beginInvasion _ _) | (_, .withdraw _) | (_, .playerDeath _ _) | (_, .playerLogout _)
  | (_, .releaseSpirit _) => isTrue trivial

variable {s : State} {e : Env × Hook}

theorem Attended.found (h : s.Attended e) (hup : ∃ diff, e.2 = .update diff) {inv : Invasion}
    (hinv : inv ∈ s.invasions) (hp : inv.phase = .fighting) :
    ∃ p ∈ e.1.findPlayerNotInWorld inv.invader, p.inWorld = true ∨ p.beingTeleported = true := by
  obtain ⟨diff, hdiff⟩ := hup
  unfold Attended at h
  rw [hdiff] at h
  exact h inv hinv hp

theorem local_recorded (env : Env) (h : Hook) (k : Nat) : Edited.Local (Change env h) Invasion.serial k (Effect.records k) :=
  fun _ _ _ hc hk => (change_elsewhere hc hk).1

theorem local_reached (env : Env) (h : Hook) (k : Nat) : Edited.Local (Change env h) Invasion.serial k (Effect.arrivals k) :=
  fun _ _ _ hc hk => (change_elsewhere hc hk).2

/-- The books of one number over a step that edits rows. -/
theorem Booked.edits {s' : State} (hb : s.Booked) (ha : s.Apart) {fx : List Effect} (he : Edits s s' e fx)
    (hatt : s.Attended e) (k : Nat) :
    (reached k s'.log = recorded k s'.log + if s'.Fighting k then 1 else 0) ∧ reached k s'.log ≤ 1 := by
  have hcount := hb.count k
  have honce := hb.once k
  rw [he.log, recorded_append, reached_append]
  by_cases hrow : ∃ a ∈ s.invasions, a.serial = k
  · obtain ⟨a, hmem, hk⟩ := hrow
    obtain ⟨o, es, hc, -, hsum, hiff⟩ := he.rows.focus (fun _ _ _ hc => hc.same.1) ha.serials hmem hk
    have h1 : recorded k fx = recorded k es := hsum _ (local_recorded _ _ k)
    have h2 : reached k fx = reached k es := hsum _ (local_reached _ _ k)
    have hbefore : s.Fighting k ↔ a.phase = .fighting := by
      constructor
      · rintro ⟨b, hb', hbk, hp⟩
        rwa [ha.eq_of_serial hmem hb' (hk.trans hbk.symm)]
      · exact fun hp => ⟨a, hmem, hk, hp⟩
    have hafter : s'.Fighting k ↔ Fights o := by
      constructor
      · rintro ⟨b, hb', hbk, hp⟩
        exact ⟨b, (hiff b).1 ⟨hb', hbk⟩, hp⟩
      · rintro ⟨b, ho, hp⟩
        obtain ⟨hb', hbk⟩ := (hiff b).2 ho
        exact ⟨b, hb', hbk, hp⟩
    rw [h1, h2]
    subst hk
    rcases change_books hc fun hup => hatt.found hup hmem with ⟨r0, a0, hsame⟩ | ⟨hp, r0, a1, hf, -⟩ | ⟨hp, r1, a0, hf⟩
    · rw [r0, a0, if_congr (hafter.trans (hsame.trans hbefore.symm)) rfl rfl]
      omega
    · have hz := hb.stalking a hmem hp
      have hnf : ¬ s.Fighting a.serial := by
        rw [hbefore, hp]
        simp
      rw [if_neg hnf] at hcount
      rw [r0, a1, if_pos (hafter.2 hf)]
      omega
    · rw [if_pos (hbefore.2 hp)] at hcount
      rw [r1, a0, if_neg fun hh => hf (hafter.1 hh)]
      omega
  · have hno : ∀ a ∈ s.invasions, a.serial ≠ k := fun a hmem hk => hrow ⟨a, hmem, hk⟩
    have h1 : recorded k fx = 0 := he.rows.sum_zero (local_recorded _ _ k) hno
    have h2 : reached k fx = 0 := he.rows.sum_zero (local_reached _ _ k) hno
    have hbefore : ¬ s.Fighting k := fun ⟨a, hmem, hk, _⟩ => hno a hmem hk
    have hafter : ¬ s'.Fighting k := by
      rintro ⟨b, hb', hbk, -⟩
      obtain ⟨a, hmem, es, hc, -⟩ := he.rows.mem_new hb'
      exact hno a hmem (hc.same.1.symm.trans hbk)
    rw [if_neg hbefore] at hcount
    rw [h1, h2, if_neg hafter]
    omega

theorem Booked.step (hb : s.Booked) (ha : s.Apart) (hatt : s.Attended e) : (s.step e).Booked := by
  rcases s.step_cases e with hq | ⟨inv, hbeg⟩ | ⟨fx, he⟩
  · have hf : ∀ k, (s.step e).Fighting k ↔ s.Fighting k := by
      intro k
      unfold Fighting
      rw [hq.rows]
    refine ⟨?_, ?_, ?_, ?_, ?_, ?_⟩
    · intro k
      rw [hq.log, if_congr (hf k) rfl rfl]
      exact hb.count k
    · rw [hq.log]
      exact hb.once
    · rw [hq.log, hq.rows]
      exact hb.stalking
    · rw [hq.log, hq.next]
      exact hb.coming
    · rw [hq.log, hq.rows]
      exact hb.arrived
    · rw [hq.log]
      exact hb.named
  · have hf : ∀ k, (s.step e).Fighting k ↔ s.Fighting k := by
      intro k
      unfold Fighting
      rw [hbeg.rows]
      simp [or_and_right, exists_or, hbeg.stalking]
    refine ⟨?_, ?_, ?_, ?_, ?_, ?_⟩
    · intro k
      rw [hbeg.log, if_congr (hf k) rfl rfl]
      exact hb.count k
    · rw [hbeg.log]
      exact hb.once
    · rw [hbeg.log, hbeg.rows]
      intro x hx hp
      rcases mem_append.1 hx with hold | hnew
      · exact hb.stalking x hold hp
      · rw [mem_singleton.1 hnew, hbeg.serial]
        exact hb.coming _ (le_refl _)
    · rw [hbeg.log, hbeg.next]
      exact fun k hk => hb.coming k (Nat.le_of_succ_le hk)
    · rw [hbeg.log, hbeg.rows]
      intro x hx hp
      rcases mem_append.1 hx with hold | hnew
      · exact hb.arrived x hold hp
      · rw [mem_singleton.1 hnew, hbeg.stalking] at hp
        cases hp
    · rw [hbeg.log]
      exact hb.named
  · refine ⟨fun k => (hb.edits ha he hatt k).1, fun k => (hb.edits ha he hatt k).2, ?_, ?_, ?_, ?_⟩
    · intro x hx hp
      obtain ⟨a, hmem, es', hc', -⟩ := he.rows.mem_new hx
      have hk : a.serial = x.serial := hc'.same.1.symm
      obtain ⟨o, es, hc, -, hsum, hiff⟩ := he.rows.focus (fun _ _ _ hc => hc.same.1) ha.serials hmem hk
      have ho : o = some x := (hiff x).1 ⟨hx, rfl⟩
      subst ho
      have hpa := (change_phase hc).1 hp
      have hz := hb.stalking a hmem hpa
      have hfx : reached x.serial fx = reached x.serial es := hsum _ (local_reached _ _ _)
      rw [he.log, reached_append, hfx, ← hk, hz]
      rcases change_books hc fun hup => hatt.found hup hmem with ⟨-, a0, -⟩ | ⟨-, -, -, ⟨b, hb', hbf⟩, -⟩ | ⟨hpf, -⟩
      · rw [a0]
      · cases hb'
        rw [hp] at hbf
        cases hbf
      · rw [hpa] at hpf
        cases hpf
    · intro k hk
      rw [he.next] at hk
      have hno : ∀ a ∈ s.invasions, a.serial ≠ k := fun a hmem => Nat.ne_of_lt (lt_of_lt_of_le (ha.bound a hmem) hk)
      have hfx : reached k fx = 0 := he.rows.sum_zero (local_reached _ _ k) hno
      rw [he.log, reached_append, hb.coming k hk, hfx]
    · intro x hx hp
      obtain ⟨a, hmem, es, hc, hsub⟩ := he.rows.mem_new hx
      rw [he.log]
      rcases (change_phase hc).2 hp with hpa | ⟨-, harr⟩
      · have hold := hb.arrived a hmem hpa
        rw [hc.same.1, hc.same.2.1, hc.same.2.2.1]
        exact mem_append_left _ hold
      · exact mem_append_right _ (hsub harr)
    · intro k i d w hm
      rw [he.log] at hm ⊢
      rcases mem_append.1 hm with hold | hnew
      · obtain ⟨h1, h2⟩ := hb.named k i d w hold
        exact ⟨mem_append_left _ h1, h2⟩
      · obtain ⟨a, hmem, o, es, hc, -, hes⟩ := he.rows.mem_log hnew
        obtain ⟨hp, rfl, rfl, rfl, hw⟩ := change_names hc hes
        exact ⟨mem_append_left _ (hb.arrived a hmem hp), hw⟩

end State

end ComfyCraft.InvasionManager
