import ComfyCraft.Invasion.Records

/-! The respite. A defender whose fight is over is not picked again before the respite has run out, and
one who was hunted in vain has none. The time counts from the end of the fight where the end goes through
`Conclude`: an invader who logs out in the fight leaves the defender the one stamped on arrival. -/

namespace ComfyCraft.InvasionManager

open List Option Invasion State Table Nat Sample

variable {env : Env} {h : Hook} {a : Invasion} {o : Option Invasion} {es : List Effect}

/-- A respite is stamped for the defender of a row that arrives or stops fighting, from now on. -/
theorem change_respite (hc : Change env h a o es) {d u : Nat} (hm : .respite d u ∈ es) :
    d = a.defender ∧ u = env.now + env.cfg.respiteSeconds.toNat ∧ (a.phase = .fighting ∨ Fights o) := by
  cases hc with
  | keep => cases hm
  | tick => cases hm
  | cold => cases hm
  | gone => cases hm
  | home => simp at hm
  | homeDead => simp at hm
  | wake => simp at hm
  | arrive inv' defender hphase hinv =>
    have hd : inv'.defender = a.defender := by rw [hinv]
    unfold arrive at hm
    rcases mem_append.1 hm with hm | hm
    · simp at hm
    · cases mem_grantRespite hm
      exact ⟨hd, rfl, .inr ⟨_, rfl, rfl⟩⟩
  | conclude inv' delayMs winner fell hinv hphase hreviving hwinner =>
    have hs : inv'.defender = a.defender ∧ inv'.phase = a.phase := by
      rw [hinv]
      exact ⟨rfl, rfl⟩
    rcases mem_append.1 hm with hm | hm
    · unfold conclude at hm
      rcases mem_append.1 hm with hm | hm
      · cases (mem_recordMatch hm).2
      split_ifs at hm with hp
      · cases mem_grantRespite hm
        exact ⟨hs.1, rfl, .inl (hs.2.symm.trans hp)⟩
      · cases hm
    · simp at hm
  | logout player hhook hinvader =>
    rcases mem_cons.1 hm with heq | hm
    · cases heq
    · cases (mem_recordMatch hm).2

/-- What the end of a fight stamps, if it is not its invader who has left. -/
theorem change_ends (hc : Change env h a o es) (hp : a.phase = .fighting) (hends : ¬ Fights o)
    (hgone : (∃ diff, h = .update diff) → ∃ p ∈ env.findPlayerNotInWorld a.invader, p.inWorld = true ∨ p.beingTeleported = true) :
    h = .playerLogout a.invader ∨ grantRespite env a.defender ⊆ es := by
  cases hc with
  | keep => exact absurd ⟨a, rfl, hp⟩ hends
  | tick => exact absurd ⟨_, rfl, hp⟩ hends
  | arrive => exact absurd ⟨_, rfl, rfl⟩ hends
  | cold hphase =>
    rw [hp] at hphase
    cases hphase
  | home hphase =>
    rw [hp] at hphase
    cases hphase
  | homeDead timer diff invader hphase =>
    rw [hp] at hphase
    cases hphase
  | wake hphase =>
    rw [hp] at hphase
    cases hphase
  | logout player hhook hinvader => exact .inl (hhook.trans (congrArg Hook.playerLogout hinvader.symm))
  | gone diff hhook hleft =>
    obtain ⟨p, hp1, hp2⟩ := hgone ⟨diff, hhook⟩
    obtain ⟨hw, ht⟩ := hleft p hp1
    rw [hw, ht] at hp2
    simp at hp2
  | conclude inv' delayMs winner fell hinv hphase hreviving hwinner =>
    right
    have hs : inv'.defender = a.defender ∧ inv'.phase = a.phase := by
      rw [hinv]
      exact ⟨rfl, rfl⟩
    unfold conclude
    rw [if_pos (hs.2.trans hp), hs.1]
    exact fun x hx => mem_append_left _ (mem_append_right _ hx)

namespace State

variable {fx : List Effect} {t : Table Nat Nat} {d u k i j : Nat} {s : State} {env : Env} {e : Env × Hook}
  {as : List (Env × Hook)}

/-- The stamps of other defenders leave a respite alone. -/
theorem lookup_stamps (h : ∀ u, .respite d u ∉ fx) : (fx.foldl stamp t).lookup d = t.lookup d := by
  induction fx generalizing t with
  | nil => rfl
  | cons x fx ih =>
    rw [foldl_cons, ih fun u hm => h u (mem_cons_of_mem _ hm)]
    cases x with
    | respite d' u =>
      have hne : d ≠ d' := by
        rintro rfl
        exact h u mem_cons_self
      exact AList.lookup_insert_ne hne
    | teleport => rfl
    | arrived => rfl
    | resurrect => rfl
    | record => rfl
    | fell => rfl

/-- Where every stamp of a defender says the same time, that is their respite. -/
theorem lookup_stamped (hall : ∀ u', .respite d u' ∈ fx → u' = u)
    (hm : .respite d u ∈ fx) : (fx.foldl stamp t).lookup d = some u := by
  induction fx generalizing t with
  | nil => cases hm
  | cons x fx ih =>
    have hrest : ∀ u', .respite d u' ∈ fx → u' = u := fun u' h => hall u' (mem_cons_of_mem _ h)
    rw [foldl_cons]
    by_cases hlater : .respite d u ∈ fx
    · exact ih hrest hlater
    rcases mem_cons.1 hm with rfl | hin
    · have hnone : ∀ u', .respite d u' ∉ fx := fun u' h => hlater (hrest u' h ▸ h)
      rw [lookup_stamps hnone]
      exact AList.lookup_insert _
    · exact absurd hin hlater

/-- A row of this defender is on the hunt or in the fight. -/
def Pressed (s : State) (d : Nat) : Prop := ∃ inv ∈ s.invasions, inv.defender = d ∧ (inv.phase = .stalking ∨ inv.phase = .fighting)

/-- Until that time the defender is not picked, or it is over. -/
def Covered (s : State) (d u : Nat) : Prop := u ≤ s.clock ∨ (∃ t, s.respite.lookup d = some t ∧ u ≤ t) ∧ ¬ s.Pressed d

/-- The step starts a hunt of this defender. -/
def Picks (s : State) (e : Env × Hook) (d : Nat) : Prop := ∃ inv ∈ (s.step e).invasions, inv.serial = s.next ∧ inv.defender = d

/-- The step ends a fight of this defender. -/
def Ends (s : State) (e : Env × Hook) (d : Nat) : Prop :=
  ∃ inv ∈ s.invasions, inv.defender = d ∧ inv.phase = .fighting ∧ ¬ (s.step e).Fighting inv.serial

theorem hasRespite_false : s.hasRespite env d = false ↔ ∀ t, s.respite.lookup d = some t → t ≤ env.now := by
  unfold hasRespite
  rw [← Bool.not_eq_true, Option.any_eq_true]
  simp

theorem prune_hasRespite {env' : Env} (hlater : env.now ≤ env'.now) :
    (s.prune env).hasRespite env' d = s.hasRespite env' d := by
  rw [Bool.eq_iff_iff, ← not_iff_not, Bool.not_eq_true, Bool.not_eq_true, hasRespite_false, hasRespite_false]
  unfold prune
  rw [lookup_keep]
  constructor
  · intro h t ht
    by_cases hold : env.now < t
    · exact h t (by rw [ht]; simp [hold])
    · exact (not_lt.1 hold).trans hlater
  · intro h t ht
    exact h t (filter_eq_some_iff.1 ht).1

/-- Only a new hunt has a new number. -/
theorem Apart.picks (ha : s.Apart) (hp : s.Picks e d) : ∃ inv, Begins s (s.step e) e inv ∧ inv.defender = d := by
  obtain ⟨x, hx, hk, hd⟩ := hp
  rcases s.step_cases e with hq | ⟨inv, hb⟩ | ⟨fx, he⟩
  · rw [hq.rows] at hx
    exact absurd hk (Nat.ne_of_lt (ha.bound x hx))
  · rw [hb.rows] at hx
    rcases mem_append.1 hx with hold | hnew
    · exact absurd hk (Nat.ne_of_lt (ha.bound x hold))
    · rw [mem_singleton.1 hnew] at hd
      exact ⟨inv, hb, hd⟩
  · obtain ⟨a, hmem, es, hc, -⟩ := he.rows.mem_new hx
    rw [hc.same.1] at hk
    exact absurd hk (Nat.ne_of_lt (ha.bound a hmem))

theorem Covered.picked (hcov : s.Covered d u) (ha : s.Apart) (hclock : s.clock ≤ e.1.now) (hp : s.Picks e d) : u ≤ e.1.now := by
  rcases hcov with hover | ⟨⟨t, ht, hut⟩, -⟩
  · exact hover.trans hclock
  obtain ⟨inv, hb, hd⟩ := ha.picks hp
  have hfree := hb.pickable
  rw [prune_hasRespite (le_refl _), hasRespite_false, hd] at hfree
  exact hut.trans (hfree t ht)

theorem Covered.step (hcov : s.Covered d u) (hclock : s.clock ≤ e.1.now) : (s.step e).Covered d u := by
  rcases hcov with hover | ⟨⟨t, ht, hut⟩, hidle⟩
  · exact .inl (hover.trans hclock)
  -- forgotten respites have run out
  have hpruned : u ≤ e.1.now ∨ ∃ t, (s.prune e.1).respite.lookup d = some t ∧ u ≤ t := by
    by_cases hold : e.1.now < t
    · right
      refine ⟨t, ?_, hut⟩
      unfold prune
      rw [lookup_keep, ht]
      simp [hold]
    · exact .inl (hut.trans (not_lt.1 hold))
  rcases s.step_cases e with hq | ⟨inv, hb⟩ | ⟨fx, he⟩
  · have hidle' : ¬ (s.step e).Pressed d := by
      unfold Pressed
      rw [hq.rows]
      exact hidle
    rcases hq.respite with hsame | hforgot
    · rw [← hsame] at ht
      exact .inr ⟨⟨t, ht, hut⟩, hidle'⟩
    · rw [← hforgot] at hpruned
      exact hpruned.imp (fun h => h) fun h => ⟨h, hidle'⟩
  · by_cases hd : inv.defender = d
    · have hfree := hb.pickable
      rw [prune_hasRespite (le_refl _), hasRespite_false, hd] at hfree
      exact .inl (hut.trans (hfree t ht))
    rw [← hb.respite] at hpruned
    refine hpruned.imp (fun h => h) fun h => ⟨h, ?_⟩
    rintro ⟨x, hx, hxd, hp⟩
    rw [hb.rows] at hx
    rcases mem_append.1 hx with hold | hnew
    · exact hidle ⟨x, hold, hxd, hp⟩
    · exact hd (mem_singleton.1 hnew ▸ hxd)
  · have hidle' : ¬ (s.step e).Pressed d := by
      rintro ⟨x, hx, hxd, hp⟩
      obtain ⟨a, hmem, es, hc, -⟩ := he.rows.mem_new hx
      refine hidle ⟨a, hmem, hc.same.2.2.1.symm.trans hxd, ?_⟩
      rcases hp with hs | hf
      · exact .inl ((change_phase hc).1 hs)
      · exact ((change_phase hc).2 hf).elim .inr fun h => .inl h.1
    refine .inr ⟨⟨t, ?_, hut⟩, hidle'⟩
    rw [he.respite, lookup_stamps, ht]
    intro u' hm
    obtain ⟨a, hmem, o, es, hc, -, hes⟩ := he.rows.mem_log hm
    obtain ⟨hd, -, hp⟩ := change_respite hc hes
    refine hidle ⟨a, hmem, hd.symm, ?_⟩
    rcases hp with hf | ⟨b, rfl, hf⟩
    · exact .inr hf
    · exact ((change_phase hc).2 hf).elim .inr fun h => .inl h.1

/-- The defender's respite already lasts that long. -/
def Lasting (s : State) (d u : Nat) : Prop := ∃ t ∈ s.respite.lookup d, u ≤ t

/-- The steps after which the records are right: the clock does not go back, `Update` finds the invader of
every fight, and an invader logs out of a fight only where that takes nothing from the respite. -/
def Fair (s : State) (e : Env × Hook) : Prop :=
  s.clock ≤ e.1.now ∧ s.Attended e ∧
    match e.2 with
    | .playerLogout player =>
      ∀ inv ∈ s.invasions, inv.invader = player → inv.phase = .fighting →
        e.1.cfg.respiteSeconds = 0 ∨ s.Lasting inv.defender (e.1.now + e.1.cfg.respiteSeconds.toNat)
    | _ => True

instance Lasting.decide (s : State) (d u : Nat) : Decidable (s.Lasting d u) := inferInstanceAs (Decidable (∃ t ∈ s.respite.lookup d, u ≤ t))

instance Fair.decide (s : State) : ∀ e : Env × Hook, Decidable (s.Fair e)
  | (_, .playerLogout _) | (_, .canBeginInvasion _) | (_, .beginInvasion _ _) | (_, .withdraw _) | (_, .playerDeath _ _) | (_, .update _)
  | (_, .releaseSpirit _) => by
    delta Fair
    dsimp only
    infer_instance

theorem Fair.logout (h : s.Fair e) {inv : Invasion} (hinv : inv ∈ s.invasions) (hp : inv.phase = .fighting)
    (hout : e.2 = .playerLogout inv.invader) :
    e.1.cfg.respiteSeconds = 0 ∨ s.Lasting inv.defender (e.1.now + e.1.cfg.respiteSeconds.toNat) := by
  obtain ⟨-, -, h3⟩ := h
  rw [hout] at h3
  exact h3 inv hinv rfl hp

theorem Apart.ends (ha : s.Apart) (hfair : s.Fair e) (hends : s.Ends e d) :
    (s.step e).Covered d (e.1.now + e.1.cfg.respiteSeconds.toNat) := by
  obtain ⟨a, hmem, hd, hp, hover⟩ := hends
  by_cases hzero : e.1.cfg.respiteSeconds = 0
  · rw [hzero]
    exact .inl (le_refl _)
  rcases s.step_cases e with hq | ⟨inv, hb⟩ | ⟨fx, he⟩
  · exact absurd ⟨a, hq.rows ▸ hmem, rfl, hp⟩ hover
  · exact absurd ⟨a, hb.rows ▸ mem_append_left _ hmem, rfl, hp⟩ hover
  obtain ⟨o, es, hc, hsub, -, hiff⟩ := he.rows.focus (fun _ _ _ hc => hc.same.1) ha.serials hmem rfl
  have hout : ¬ Fights o := by
    rintro ⟨b, ho, hf⟩
    obtain ⟨hb, hk⟩ := (hiff b).2 ho
    exact hover ⟨b, hb, hk, hf⟩
  -- nobody else is after this defender
  have halone : ∀ x ∈ s.invasions, x.defender = d → x = a := by
    intro x hx hxd
    exact eq_of_shared ha.sides hx hmem (by simp) (show x.defender ∈ [a.invader, a.defender] by simp [hxd, hd])
  have hidle : ¬ (s.step e).Pressed d := by
    rintro ⟨x, hx, hxd, hxp⟩
    obtain ⟨y, hy, es', hc', -⟩ := he.rows.mem_new hx
    have hya : y = a := halone y hy (hc'.same.2.2.1.symm.trans hxd)
    subst hya
    have ho : o = some x := (hiff x).1 ⟨hx, hc'.same.1⟩
    rcases hxp with hs | hf
    · have hst := (change_phase hc').1 hs
      rw [hp] at hst
      cases hst
    · exact hout ⟨x, ho, hf⟩
  refine .inr ⟨?_, hidle⟩
  -- every stamp of this defender in the step is from now on
  have hstamps : ∀ u, .respite d u ∈ fx → u = e.1.now + e.1.cfg.respiteSeconds.toNat := by
    intro u hm
    obtain ⟨x, -, o', es', hc', -, hes⟩ := he.rows.mem_log hm
    exact (change_respite hc' hes).2.1
  rw [he.respite]
  rcases change_ends hc hp hout fun hup => hfair.2.1.found hup hmem hp with hlog | hgrant
  · rcases hfair.logout hmem hp hlog with h0 | ⟨t, ht, hle⟩
    · exact absurd h0 hzero
    rw [hd] at ht
    by_cases hmark : ∃ u, .respite d u ∈ fx
    · obtain ⟨u, hu⟩ := hmark
      have heq := hstamps u hu
      subst heq
      exact ⟨_, lookup_stamped hstamps hu, le_refl _⟩
    · exact ⟨t, (lookup_stamps fun u hu => hmark ⟨u, hu⟩).trans ht, hle⟩
  · have hu : .respite d (e.1.now + e.1.cfg.respiteSeconds.toNat) ∈ fx := by
      apply hsub
      apply hgrant
      unfold grantRespite
      rw [if_neg hzero, hd]
      exact mem_cons_self
    exact ⟨_, lookup_stamped hstamps hu, le_refl _⟩

/-- A step in which no fight of the defender begins or ends leaves their respite as it is. -/
theorem step_hasRespite (hbefore : ∀ inv ∈ s.invasions, inv.defender = d → inv.phase ≠ .fighting)
    (hafter : ∀ inv ∈ (s.step e).invasions, inv.defender = d → inv.phase ≠ .fighting) (hlater : e.1.now ≤ env.now) :
    (s.step e).hasRespite env d = s.hasRespite env d := by
  rcases s.step_cases e with hq | ⟨inv, hb⟩ | ⟨fx, he⟩
  · unfold hasRespite
    rcases hq.respite with hsame | hforgot
    · rw [hsame]
    · rw [hforgot]
      exact prune_hasRespite hlater
  · unfold hasRespite
    rw [hb.respite]
    exact prune_hasRespite hlater
  · unfold hasRespite
    rw [he.respite, lookup_stamps]
    intro u hm
    obtain ⟨a, hmem, o, es, hc, hin, hes⟩ := he.rows.mem_log hm
    obtain ⟨hd, -, hp⟩ := change_respite hc hes
    rcases hp with hf | ⟨b, rfl, hf⟩
    · exact hbefore a hmem hd.symm hf
    · exact hafter b (hin b rfl) (hc.same.2.2.1.trans hd.symm) hf

theorem step_log (s : State) (e : Env × Hook) : ∃ fx, (s.step e).log = s.log ++ fx := by
  rcases s.step_cases e with hq | ⟨inv, hb⟩ | ⟨fx, he⟩
  · exact ⟨[], by rw [hq.log, append_nil]⟩
  · exact ⟨[], by rw [hb.log, append_nil]⟩
  · exact ⟨fx, he.log⟩

/-- The hunt with that number is of this defender, who has no respite from here on. -/
structure Spared (s : State) (k d : Nat) : Prop where
  free : ∀ env : Env, s.clock ≤ env.now → s.hasRespite env d = false
  defender : ∀ inv ∈ s.invasions, inv.serial = k → inv.defender = d
  bound : k < s.next

theorem Apart.spared_picks (ha : s.Apart) (hp : s.Picks e d) : (s.step e).Spared s.next d ∧ s.next ∈ (s.step e).serials := by
  obtain ⟨inv, hb, hd⟩ := ha.picks hp
  refine ⟨⟨?_, ?_, ?_⟩, ?_⟩
  · intro env hlater
    have hfree := hb.pickable
    rw [prune_hasRespite (le_refl _), hasRespite_false, hd] at hfree
    rw [hasRespite_false, hb.respite]
    intro t ht
    unfold prune at ht
    rw [lookup_keep] at ht
    exact (hfree t (filter_eq_some_iff.1 ht).1).trans hlater
  · rw [hb.rows]
    intro x hx hk
    rcases mem_append.1 hx with hold | hnew
    · exact absurd hk (Nat.ne_of_lt (ha.bound x hold))
    · rw [mem_singleton.1 hnew, hd]
  · rw [hb.next]
    exact lt_succ_self _
  · unfold State.serials
    rw [hb.rows, map_append, ← hb.serial]
    simp

/-- Of a defender who is in a row, there is no other row after a step either. -/
theorem Apart.row_after (ha : s.Apart) (e : Env × Hook) {a : Invasion} (hmem : a ∈ s.invasions) {x : Invasion}
    (hx : x ∈ (s.step e).invasions) (hside : a.defender = x.invader ∨ a.defender = x.defender) : x.serial = a.serial := by
  have hone : ∀ y ∈ s.invasions, a.defender = y.invader ∨ a.defender = y.defender → y = a := by
    intro y hy hyd
    have hyd' : a.defender ∈ [y.invader, y.defender] := by simpa using hyd
    exact eq_of_shared ha.sides hy hmem hyd' (by simp)
  rcases s.step_cases e with hq | ⟨inv, hb⟩ | ⟨fx, he⟩
  · rw [hq.rows] at hx
    rw [hone x hx hside]
  · rw [hb.rows] at hx
    rcases mem_append.1 hx with hold | hnew
    · rw [hone x hold hside]
    have hin : a.defender ∈ s.sides := mem_flatMap.2 ⟨a, hmem, by simp⟩
    obtain ⟨h1, h2⟩ := hb.free
    rw [mem_singleton.1 hnew] at hside
    rcases hside with h | h
    · rw [← h] at h1
      exact absurd hin (isInvolved_false.1 h1)
    · rw [← h] at h2
      exact absurd hin (isInvolved_false.1 h2)
  · obtain ⟨y, hy, es, hc, -⟩ := he.rows.mem_new hx
    rw [hc.same.2.1, hc.same.2.2.1] at hside
    rw [hc.same.1, hone y hy hside]

theorem Spared.step (hs : s.Spared k d) (ha : s.Apart) (hb : s.Booked)
    (hclock : s.clock ≤ e.1.now) (hb' : (s.step e).Booked) (hrow : k ∈ s.serials) (hnever : reached k (s.step e).log = 0) :
    (s.step e).Spared k d := by
  obtain ⟨a, hmem, hk⟩ := mem_map.1 hrow
  have hd : a.defender = d := hs.defender a hmem hk
  have hbefore : reached k s.log = 0 := by
    obtain ⟨fx, hfx⟩ := s.step_log e
    rw [hfx, reached_append] at hnever
    omega
  have hpeace : ∀ {t : State}, t.Booked → reached k t.log = 0 → ¬ t.Fighting k := by
    intro t ht hzero hf
    have hcount := ht.count k
    rw [hzero, if_pos hf] at hcount
    omega
  have hafter : ∀ x ∈ (s.step e).invasions, x.defender = d → x.serial = k := by
    intro x hx hxd
    rw [ha.row_after e hmem hx (.inr (hd.trans hxd.symm)), hk]
  refine ⟨?_, ?_, ?_⟩
  · intro env hlater
    rw [step_hasRespite ?_ ?_ hlater]
    · exact hs.free env (hclock.trans hlater)
    · intro x hx hxd hf
      have hxa : x = a := eq_of_shared ha.sides hx hmem (by simp) (show x.defender ∈ [a.invader, a.defender] by simp [hxd, hd])
      exact hpeace hb hbefore ⟨x, hx, hxa ▸ hk, hf⟩
    · intro x hx hxd hf
      exact hpeace hb' hnever ⟨x, hx, hafter x hx hxd, hf⟩
  · intro x hx hxk
    rcases s.step_cases e with hq | ⟨inv, hbeg⟩ | ⟨fx, he⟩
    · rw [hq.rows] at hx
      exact hs.defender x hx hxk
    · rw [hbeg.rows] at hx
      rcases mem_append.1 hx with hold | hnew
      · exact hs.defender x hold hxk
      · rw [mem_singleton.1 hnew, hbeg.serial] at hxk
        exact absurd hxk.symm (Nat.ne_of_lt hs.bound)
    · obtain ⟨y, hy, es, hc, -⟩ := he.rows.mem_new hx
      rw [hc.same.2.2.1]
      exact hs.defender y hy (hc.same.1.symm.trans hxk)
  · have hle : s.next ≤ (s.step e).next := by
      rcases s.step_cases e with hq | ⟨inv, hbeg⟩ | ⟨fx, he⟩
      · rw [hq.next]
      · rw [hbeg.next]
        exact le_succ _
      · rw [he.next]
    exact lt_of_lt_of_le hs.bound hle

def after (as : List (Env × Hook)) (n : Nat) : State := Runs.run step init (as.take n)

/-- What a run keeps: nobody is on two sides; a match that has reached the fight has one result row once
it is over; the defender of a fight that is over has their respite; a hunt in vain takes nothing. -/
structure Records (as : List (Env × Hook)) : Prop where
  sides : ∀ n, (after as n).sides.Nodup
  one : ∀ n k, recorded k (after as n).log = if 0 < reached k (after as n).log ∧ ¬ (after as n).Fighting k then 1 else 0
  named : ∀ n k i d w, .record k i d w ∈ (after as n).log → .arrived k i d ∈ (after as n).log ∧ ∀ g ∈ w, g = i ∨ g = d
  respite : ∀ i j ei ej d, i < j → as[i]? = some ei → as[j]? = some ej → (after as i).Ends ei d → (after as j).Picks ej d →
    ei.1.now + ei.1.cfg.respiteSeconds.toNat ≤ ej.1.now
  vain : ∀ i j e d, i < j → j ≤ as.length → as[i]? = some e → (after as i).Picks e d →
    (∀ m, i < m → m < j → (after as i).next ∈ (after as m).serials) → reached (after as i).next (after as j).log = 0 →
    (∀ env : Env, (after as j).clock ≤ env.now → (after as j).hasRespite env d = false) ∧
      ((after as i).next ∉ (after as j).serials → (after as j).isInvolved d = false)

section

variable (has : Runs.Admitted step Fair init as)
include has

/-- What holds in every state of a fair run. -/
theorem after_kept (n : Nat) : (after as n).Apart ∧ (after as n).Booked :=
  Runs.invariant (I := fun s => s.Apart ∧ s.Booked) (fun _ e h hfair => ⟨h.1.step e, h.2.step h.1 hfair.2.1⟩)
    ⟨apart_init, booked_init⟩ (has.take n)

theorem after_step {n : Nat} (hn : n < as.length) :
    ∃ e, as[n]? = some e ∧ (after as n).Fair e ∧ after as (n + 1) = (after as n).step e := by
  have he : as[n]? = some as[n] := getElem?_eq_getElem hn
  obtain ⟨hfair, hnext⟩ := has.getElem? he
  exact ⟨_, he, hfair, hnext⟩

/-- From an ended fight on, its defender stays covered. -/
theorem after_covered (hij : i ≤ j) (hj : j ≤ as.length) (hcov : (after as i).Covered d u) : (after as j).Covered d u := by
  induction j, hij using le_induction with
  | base => exact hcov
  | succ m him ih =>
    obtain ⟨e, -, hfair, hnext⟩ := after_step has (lt_of_succ_le hj)
    rw [hnext]
    exact (ih (le_of_succ_le hj)).step hfair.1

/-- While a hunt is on, its defender stays without a respite. -/
theorem after_spared (hij : i ≤ j)
    (hj : j ≤ as.length) (hs : (after as i).Spared k d) (hrow : ∀ m, i ≤ m → m < j → k ∈ (after as m).serials)
    (hnever : reached k (after as j).log = 0) : (after as j).Spared k d := by
  induction j, hij using le_induction with
  | base => exact hs
  | succ m him ih =>
    obtain ⟨e, -, hfair, hnext⟩ := after_step has (lt_of_succ_le hj)
    have hbefore : reached k (after as m).log = 0 := by
      obtain ⟨fx, hfx⟩ := (after as m).step_log e
      rw [hnext, hfx, reached_append] at hnever
      omega
    have hm := ih (le_of_succ_le hj) (fun l h1 h2 => hrow l h1 (lt_succ_of_lt h2)) hbefore
    obtain ⟨ha, hb⟩ := after_kept has m
    have hb' := (after_kept has (m + 1)).2
    rw [hnext] at hnever hb' ⊢
    exact hm.step ha hb hfair.1 hb' (hrow m him (lt_succ_self m)) hnever

end

/-- In every run of the hooks from an empty manager whose steps are all fair, the records are right. -/
theorem invasion_records {as : List (Env × Hook)} (has : Runs.Admitted step Fair init as) : Records as := by
  refine ⟨?_, ?_, ?_, ?_, ?_⟩
  · exact fun n => (after_kept has n).1.sides
  · intro n k
    have hcount := (after_kept has n).2.count k
    have honce := (after_kept has n).2.once k
    split_ifs at hcount with hf
    · rw [if_neg fun h => h.2 hf]
      omega
    · by_cases hpos : 0 < reached k (after as n).log
      · rw [if_pos ⟨hpos, hf⟩]
        omega
      · rw [if_neg fun h => hpos h.1]
        omega
  · exact fun n => (after_kept has n).2.named
  · intro i j ei ej d hij hi hj hends hpicks
    have hjlen : j < as.length := (List.getElem?_eq_some_iff.1 hj).1
    obtain ⟨hfair, hnext⟩ := has.getElem? hi
    have hcov := (after_kept has i).1.ends hfair hends
    have hcov' : (after as (i + 1)).Covered d (ei.1.now + ei.1.cfg.respiteSeconds.toNat) := by
      unfold after
      rw [hnext]
      exact hcov
    obtain ⟨hfair', -⟩ := has.getElem? hj
    exact (after_covered has hij (le_of_lt hjlen) hcov').picked (after_kept has j).1 hfair'.1 hpicks
  · intro i j e d hij hj hi hpicks hrow hnever
    obtain ⟨hfair, hnext⟩ := has.getElem? hi
    obtain ⟨hs, hin⟩ := (after_kept has i).1.spared_picks hpicks
    have hstart : (after as (i + 1)).Spared (after as i).next d := by
      unfold after
      rw [hnext]
      exact hs
    refine ⟨(after_spared has hij hj hstart (fun m h1 h2 => hrow m h1 h2) hnever).free, ?_⟩
    intro hgone
    rcases Nat.eq_or_lt_of_le hij with heq | hlt
    · subst heq
      unfold after at hgone
      rw [hnext] at hgone
      exact absurd hin hgone
    -- the step before dropped the row
    obtain ⟨m, rfl⟩ : ∃ m, j = m + 1 := ⟨j - 1, by omega⟩
    have him : i < m := by omega
    have hm := after_spared has him (le_of_succ_le hj) hstart (fun l h1 h2 => hrow l h1 (lt_succ_of_lt h2))
    obtain ⟨a, hmem, hk⟩ := mem_map.1 (hrow m him (lt_succ_self m))
    obtain ⟨e', -, -, hnext'⟩ := after_step has (lt_of_succ_le hj)
    have hzero : reached (after as i).next (after as m).log = 0 := by
      obtain ⟨fx, hfx⟩ := (after as m).step_log e'
      rw [hnext', hfx, reached_append] at hnever
      omega
    have hd := (hm hzero).defender a hmem hk
    rw [hnext'] at hgone ⊢
    rw [isInvolved_false]
    intro hside
    obtain ⟨x, hx, hxd⟩ := mem_flatMap.1 hside
    have hxk := (after_kept has m).1.row_after e' hmem hx (by rw [hd]; simpa using hxd)
    exact hgone (mem_map.2 ⟨x, hx, hxk.trans hk⟩)

end State

namespace Sample

/-- The invader logs out in the fight, comes back and hunts the same defender within the respite. -/
def flight : List (Env × Hook) :=
  [(world 100 true, .beginInvasion 1 0), (world 110 true, .update 5000), (world 400 true, .playerLogout 1),
    (world 420 true, .beginInvasion 1 0)]

def gone (now : Nat) : Env := { world now true with findPlayerNotInWorld := fun guid => if guid = 1 then none else (world now true).findPlayerNotInWorld guid }

def crash : List (Env × Hook) := [(world 100 true, .beginInvasion 1 0), (world 110 true, .update 5000), (gone 120, .update 1000)]

def again : List (Env × Hook) := fight ++ [(world 411 true, .beginInvasion 1 0)]

end Sample

/-- A defender is picked again twenty seconds after the fight, and a fight has no result row. -/
theorem records_broken : ¬ State.Records Sample.flight ∧ ¬ State.Records Sample.crash := by
  constructor
  · intro h
    have hend : (after flight 2).Ends (world 400 true, .playerLogout 1) 2 := by
      have hbefore : ∃ inv ∈ (after flight 2).invasions, inv.defender = 2 ∧ inv.phase = .fighting := by decide +kernel
      have hafter : ∀ k, ¬ ((after flight 2).step (world 400 true, .playerLogout 1)).Fighting k := by
        have hnone : ((after flight 2).step (world 400 true, .playerLogout 1)).invasions.length = 0 := by decide +kernel
        rintro k ⟨inv, hinv, -⟩
        rw [length_eq_zero_iff.1 hnone] at hinv
        cases hinv
      obtain ⟨inv, hinv, hd, hp⟩ := hbefore
      exact ⟨inv, hinv, hd, hp, hafter _⟩
    have hpick : (after flight 3).Picks (world 420 true, .beginInvasion 1 0) 2 := by
      unfold Picks
      decide +kernel
    exact absurd (h.respite 2 3 _ _ 2 (by decide) rfl rfl hend hpick) (by decide)
  · intro h
    have hone := h.one 3 0
    have hreached : 0 < reached 0 (after crash 3).log ∧ ¬ (after crash 3).Fighting 0 := by decide +kernel
    have hnone : recorded 0 (after crash 3).log = 0 := by decide +kernel
    rw [if_pos hreached, hnone] at hone
    cases hone

theorem invasion_records_again : State.Records Sample.again ∧ recorded 0 (State.after Sample.again 6).log = 1 ∧
      (State.after Sample.again 5).Picks (Sample.world 411 true, .beginInvasion 1 0) 2 := by
  have hadm : Runs.Admitted step Fair .init again := by decide +kernel
  refine ⟨invasion_records hadm, by decide +kernel, ?_⟩
  unfold Picks
  decide +kernel

end ComfyCraft.InvasionManager
