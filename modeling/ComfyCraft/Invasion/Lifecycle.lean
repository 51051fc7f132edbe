import ComfyCraft.Invasion.Hooks

/-! The life of an invasion: its phase goes forward, an invader who was brought to the defender is taken
back to the spot the sigil was used from, nobody moves a defender, and only an invader who died in a
match that reached the fight is woken. Two kinds of step break it: a defender who logs out while the
invader is about to wake, and a ride home for an invader who fell before there was any fight. -/

namespace ComfyCraft.InvasionManager

open List Runs Prod Invasion State Nat Effect

/-- A row keeps its number, its sides and its origin. -/
theorem Change.same {env : Env} {h : Hook} {inv inv' : Invasion} {es : List Effect} (hc : Change env h inv (some inv') es) :
    inv'.serial = inv.serial ∧ inv'.invader = inv.invader ∧ inv'.defender = inv.defender ∧ inv'.origin = inv.origin := by
  cases hc with
  | keep => exact ⟨rfl, rfl, rfl, rfl⟩
  | tick => exact ⟨rfl, rfl, rfl, rfl⟩
  | arrive inv' defender hphase hinv =>
    rw [hinv]
    exact ⟨rfl, rfl, rfl, rfl⟩
  | conclude inv' delayMs winner fell hinv hphase hreviving hwinner =>
    rw [hinv]
    exact ⟨rfl, rfl, rfl, rfl⟩
  | homeDead => exact ⟨rfl, rfl, rfl, rfl⟩

namespace State

def sides (s : State) : List Nat := s.invasions.flatMap fun inv => [inv.invader, inv.defender]

def serials (s : State) : List Nat := s.invasions.map Invasion.serial

/-- Rows are told apart by their number, and no player is on two sides. -/
structure Apart (s : State) : Prop where
  serials : s.serials.Nodup
  bound : ∀ inv ∈ s.invasions, inv.serial < s.next
  sides : s.sides.Nodup

theorem apart_init : init.Apart := ⟨nodup_nil, fun _ h => (not_mem_nil h).elim, nodup_nil⟩

variable {guid : Nat} {inv a b : Invasion} {s : State} {e : Env × Hook} {es : List Effect} {env : Env} {x : Effect}
  {winner : Option Nat}

theorem involves_iff : inv.involves guid = true ↔ guid ∈ [inv.invader, inv.defender] := by
  unfold involves
  rw [Bool.or_eq_true, decide_eq_true_iff, decide_eq_true_iff, mem_cons, mem_singleton]
  exact or_congr eq_comm eq_comm

theorem isInvolved_false : s.isInvolved guid = false ↔ guid ∉ s.sides := by
  unfold isInvolved sides
  rw [← Bool.not_eq_true, any_eq_true, mem_flatMap, not_iff_not]
  exact exists_congr fun inv => and_congr_right fun _ => involves_iff

theorem Apart.step (h : s.Apart) (e : Env × Hook) : (s.step e).Apart := by
  rcases s.step_cases e with hq | ⟨inv, hb⟩ | ⟨fx, he⟩
  · have hsame : (s.step e).serials = s.serials ∧ (s.step e).sides = s.sides := by
      unfold State.serials State.sides
      rw [hq.rows]
      exact ⟨rfl, rfl⟩
    refine ⟨hsame.1 ▸ h.serials, ?_, hsame.2 ▸ h.sides⟩
    rw [hq.rows, hq.next]
    exact h.bound
  · refine ⟨?_, ?_, ?_⟩
    · unfold State.serials
      rw [hb.rows, map_append, nodup_append]
      refine ⟨h.serials, by simp, ?_⟩
      intro a ha b hb' hab
      obtain ⟨x, hx, rfl⟩ := mem_map.1 ha
      simp only [map_cons, map_nil, mem_singleton] at hb'
      have hlt := h.bound x hx
      rw [hab, hb', hb.serial] at hlt
      exact absurd hlt (lt_irrefl _)
    · rw [hb.rows, hb.next]
      intro x hx
      rcases mem_append.1 hx with hold | hnew
      · exact lt_succ_of_lt (h.bound x hold)
      · rw [mem_singleton.1 hnew, hb.serial]
        exact lt_succ_self _
    · have hfree := hb.free
      rw [isInvolved_false, isInvolved_false] at hfree
      unfold State.sides
      rw [hb.rows, flatMap_append, nodup_append]
      refine ⟨h.sides, by simpa using hb.apart, ?_⟩
      intro a ha b hb' hab
      simp only [flatMap_cons, flatMap_nil, append_nil, mem_cons, not_mem_nil, or_false] at hb'
      subst hab
      rcases hb' with rfl | rfl
      · exact hfree.1 ha
      · exact hfree.2 ha
  · refine ⟨?_, ?_, ?_⟩
    · have hsub := he.rows.sublist (f := fun inv => [inv.serial]) fun a b es hc => by rw [hc.same.1]
      have hmap : ∀ l : List Invasion, l.flatMap (fun inv => [inv.serial]) = l.map serial := fun l =>
        flatMap_singleton' l |> fun _ => by rw [map_eq_flatMap]
      rw [hmap, hmap] at hsub
      exact h.serials.sublist hsub
    · intro x hx
      obtain ⟨a, ha, es, hc, -⟩ := he.rows.mem_new hx
      rw [hc.same.1, he.next]
      exact h.bound a ha
    · exact h.sides.sublist (he.rows.sublist fun a b es hc => by rw [hc.same.2.1, hc.same.2.2.1])

theorem Apart.eq_of_serial (h : s.Apart) (ha : a ∈ s.invasions) (hb : b ∈ s.invasions) (hab : a.serial = b.serial) : a = b :=
  inj_on_of_nodup_map h.serials ha hb hab

theorem Apart.not_defender (h : s.Apart) (ha : a ∈ s.invasions) (hb : b ∈ s.invasions) : a.invader ≠ b.defender := by
  intro heq
  have hab : a = b := eq_of_shared h.sides ha hb mem_cons_self (by simp [heq])
  subst hab
  obtain ⟨hown, -⟩ := nodup_flatMap.1 h.sides
  have hne := hown a ha
  rw [heq] at hne
  simp at hne

/-- The steps that break nothing: no defender logs out while the invader is about to wake, and nobody
who fell before the fight is found dead at the end of the ride home. -/
def Rides (s : State) (e : Env × Hook) : Prop :=
  match e.2 with
  | .playerLogout player => ∀ inv ∈ s.invasions, inv.defender = player → inv.phase ≠ .reviving
  | .update diff =>
    ∀ inv ∈ s.invasions, inv.phase = .leaving → inv.fought = false → inv.timer ≤ diff →
      ∀ p ∈ e.1.findPlayerNotInWorld inv.invader, p.inWorld = true → p.alive = true
  | _ => True

instance Rides.decide (s : State) : ∀ e : Env × Hook, Decidable (s.Rides e)
  | (_, .playerLogout _) | (_, .update _) => by
    delta Rides
    dsimp only
    infer_instance
  | (_, .canBeginInvasion _) | (_, .beginInvasion _ _) | (_, .withdraw _) | (_, .playerDeath _ _) | (_, .releaseSpirit _) => isTrue trivial

/-- What a row's phase says of what has happened. -/
structure Told (s : State) : Prop where
  stalking : ∀ inv ∈ s.invasions, inv.phase = .stalking → inv.fought = false
  reviving : ∀ inv ∈ s.invasions, inv.phase = .reviving →
    inv.fought = true ∧ inv.died = true ∧ .teleport inv.serial inv.invader inv.origin ∈ s.log

theorem told_init : init.Told := ⟨fun _ h => (not_mem_nil h).elim, fun _ h => (not_mem_nil h).elim⟩

theorem Told.step (h : s.Told) (hfit : s.Rides e) : (s.step e).Told := by
  rcases s.step_cases e with hq | ⟨inv, hb⟩ | ⟨fx, he⟩
  · refine ⟨?_, ?_⟩
    · rw [hq.rows]
      exact h.stalking
    · rw [hq.rows, hq.log]
      exact h.reviving
  · refine ⟨?_, ?_⟩
    · rw [hb.rows]
      intro x hx hp
      rcases mem_append.1 hx with hold | hnew
      · exact h.stalking x hold hp
      · rw [mem_singleton.1 hnew]
        exact hb.fresh
    · rw [hb.rows, hb.log]
      intro x hx hp
      rcases mem_append.1 hx with hold | hnew
      · exact h.reviving x hold hp
      · rw [mem_singleton.1 hnew, hb.stalking] at hp
        cases hp
  · refine ⟨?_, ?_⟩
    · intro x hx hp
      obtain ⟨a, ha, es, hc, -⟩ := he.rows.mem_new hx
      cases hc with
      | keep => exact h.stalking _ ha hp
      | tick => exact h.stalking a ha hp
      | arrive => cases hp
      | conclude => cases hp
      | homeDead => cases hp
    · intro x hx hp
      obtain ⟨a, ha, es, hc, hsub⟩ := he.rows.mem_new hx
      rw [he.log]
      have hold : a.phase = .reviving →
          a.fought = true ∧ a.died = true ∧ teleport a.serial a.invader a.origin ∈ s.log ++ fx := by
        intro hpa
        obtain ⟨h1, h2, h3⟩ := h.reviving a ha hpa
        exact ⟨h1, h2, mem_append_left _ h3⟩
      cases hc with
      | keep => exact hold hp
      | tick => exact hold hp
      | arrive => cases hp
      | conclude => cases hp
      | homeDead timer diff invader hphase hhook htimer hfound hin hdead =>
        refine ⟨?_, rfl, mem_append_right _ (hsub mem_cons_self)⟩
        by_contra hnf
        unfold Rides at hfit
        rw [hhook] at hfit
        have halive := hfit a ha hphase (by simpa using hnf) htimer invader hfound hin
        rw [hdead] at halive
        cases halive

/-- What a step of the manager keeps. -/
structure Lifecycle (s : State) (e : Env × Hook) (s' : State) : Prop where
  forward : ∀ inv ∈ s.invasions, ∀ inv' ∈ s'.invasions, inv'.serial = inv.serial → inv.phase.rank ≤ inv'.phase.rank
  /-- The sides and the origin stay what they were when the hunt began. -/
  stored : ∀ inv ∈ s.invasions, ∀ inv' ∈ s'.invasions, inv'.serial = inv.serial →
    inv'.invader = inv.invader ∧ inv'.defender = inv.defender ∧ inv'.origin = inv.origin
  setOut : ∀ inv' ∈ s'.invasions, (∀ inv ∈ s.invasions, inv.serial ≠ inv'.serial) →
    inv'.phase = .stalking ∧ ∃ p, e.1.findPlayerNotInWorld inv'.invader = some p ∧ inv'.origin = p.location
  /-- Whoever was brought to the defender is taken back before the row is dropped, unless they have left
  the world without a logout. -/
  broughtHome : ∀ inv ∈ s.invasions, inv.fought = true → (∀ inv' ∈ s'.invasions, inv'.serial ≠ inv.serial) →
    .teleport inv.serial inv.invader inv.origin ∈ s'.log ∨
      ((∃ diff, e.2 = .update diff) ∧
        ∀ p ∈ e.1.findPlayerNotInWorld inv.invader, p.inWorld = false ∧ p.beingTeleported = false)
  unmoved : ∀ k guid dest, .teleport k guid dest ∈ s'.log.drop s.log.length → ∀ inv ∈ s.invasions, guid ≠ inv.defender
  resurrected : ∀ k guid, .resurrect k guid ∈ s'.log.drop s.log.length →
    ∃ inv ∈ s.invasions, inv.serial = k ∧ inv.invader = guid ∧ inv.fought = true ∧ inv.died = true

/-- Rows that are all still there, in a step that does nothing besides. -/
theorem lifecycle_kept {s' : State} (ha : s.Apart) (hlog : s'.log = s.log) (hrows : ∀ inv ∈ s.invasions, inv ∈ s'.invasions)
    (hnew : ∀ inv' ∈ s'.invasions, inv' ∈ s.invasions ∨ (∀ inv ∈ s.invasions, inv.serial ≠ inv'.serial) ∧
      inv'.phase = .stalking ∧ ∃ p, e.1.findPlayerNotInWorld inv'.invader = some p ∧ inv'.origin = p.location) :
    Lifecycle s e s' := by
  have hold : ∀ inv ∈ s.invasions, ∀ inv' ∈ s'.invasions, inv'.serial = inv.serial → inv' = inv := by
    intro inv hinv inv' hinv' heq
    rcases hnew inv' hinv' with hin | ⟨hne, -⟩
    · exact ha.eq_of_serial hin hinv heq
    · exact absurd heq.symm (hne inv hinv)
  refine ⟨?_, ?_, ?_, ?_, ?_, ?_⟩
  · intro inv hinv inv' hinv' heq
    rw [hold inv hinv inv' hinv' heq]
  · intro inv hinv inv' hinv' heq
    rw [hold inv hinv inv' hinv' heq]
    exact ⟨rfl, rfl, rfl⟩
  · intro inv' hinv' hne
    rcases hnew inv' hinv' with hin | ⟨-, hfresh⟩
    · exact absurd rfl (hne inv' hin)
    · exact hfresh
  · intro inv hinv _ hgone
    exact absurd rfl (hgone inv (hrows inv hinv))
  · intro k guid dest hfx
    rw [hlog, drop_length] at hfx
    cases hfx
  · intro k guid hfx
    rw [hlog, drop_length] at hfx
    cases hfx

/-- The phase of a row that is kept goes forward, but for a defender's logout from the last one. -/
theorem change_forward (hfit : s.Rides e) (ha : a ∈ s.invasions)
    (hc : Change e.1 e.2 a (some b) es) : a.phase.rank ≤ b.phase.rank := by
  cases hc with
  | keep => exact le_refl _
  | tick => exact le_refl _
  | arrive inv' defender hphase hinv =>
    rw [hphase]
    exact zero_le _
  | conclude inv' delayMs winner fell hinv hphase hreviving hwinner =>
    cases hp : a.phase with
    | stalking => exact zero_le _
    | fighting => exact le_succ 1
    | leaving => exact absurd hp hphase
    | reviving =>
      obtain ⟨player, hhook, hd⟩ := hreviving hp
      unfold Rides at hfit
      rw [hhook] at hfit
      exact absurd hp (hfit a ha hd)
  | homeDead timer diff invader hphase =>
    rw [hphase]
    exact le_succ 2

/-- A row that was brought to the fight is dropped on the way home, or with its invader. -/
theorem change_dropped (ht : s.Told) (ha : a ∈ s.invasions) (hc : Change e.1 e.2 a none es) (hf : a.fought = true) :
    Effect.teleport a.serial a.invader a.origin ∈ s.log ++ es ∨ ((∃ diff, e.2 = .update diff) ∧
        ∀ p ∈ e.1.findPlayerNotInWorld a.invader, p.inWorld = false ∧ p.beingTeleported = false) := by
  cases hc with
  | cold hphase =>
    rw [ht.stalking a ha hphase] at hf
    cases hf
  | logout => exact .inl (mem_append_right _ mem_cons_self)
  | gone diff hhook hgone => exact .inr ⟨⟨diff, hhook⟩, hgone⟩
  | home => exact .inl (mem_append_right _ mem_cons_self)
  | wake hphase => exact .inl (mem_append_left _ (ht.reviving a ha hphase).2.2)

theorem mem_grantRespite {defender : Nat} (h : x ∈ grantRespite env defender) :
    x = .respite defender (env.now + env.cfg.respiteSeconds.toNat) := by
  unfold grantRespite at h
  split_ifs at h
  · cases h
  · exact mem_singleton.1 h

theorem mem_recordMatch (h : x ∈ inv.recordMatch winner) :
    inv.phase = .fighting ∧ x = .record inv.serial inv.invader inv.defender winner := by
  unfold recordMatch at h
  split_ifs at h with hp
  · cases h
  · exact ⟨not_not.1 hp, mem_singleton.1 h⟩

theorem mem_conclude {delayMs : UInt32} (h : x ∈ (inv.conclude env delayMs winner).2) :
    x = .record inv.serial inv.invader inv.defender winner ∨
      x = .respite inv.defender (env.now + env.cfg.respiteSeconds.toNat) := by
  unfold conclude at h
  rcases mem_append.1 h with hr | hg
  · exact .inl (mem_recordMatch hr).2
  split_ifs at hg
  · exact .inr (mem_grantRespite hg)
  · cases hg

theorem moves_home : (∀ k guid dest, .teleport k guid dest ∈ [Effect.teleport a.serial a.invader a.origin] → guid = a.invader) ∧
      ∀ k guid, .resurrect k guid ∈ [Effect.teleport a.serial a.invader a.origin] →
        a.serial = k ∧ a.invader = guid ∧ a.phase = .reviving := by
  constructor
  · intro k guid dest hm
    cases mem_singleton.1 hm
    rfl
  · intro k guid hm
    cases mem_singleton.1 hm

/-- Only the invader of a row is moved, and only one who is about to wake is resurrected. -/
theorem change_moves {h : Hook} {o : Option Invasion} (hc : Change env h a o es) :
    (∀ k guid dest, .teleport k guid dest ∈ es → guid = a.invader) ∧
      ∀ k guid, .resurrect k guid ∈ es → a.serial = k ∧ a.invader = guid ∧ a.phase = .reviving := by
  cases hc with
  | keep => exact ⟨fun _ _ _ hm => (not_mem_nil hm).elim, fun _ _ hm => (not_mem_nil hm).elim⟩
  | tick => exact ⟨fun _ _ _ hm => (not_mem_nil hm).elim, fun _ _ hm => (not_mem_nil hm).elim⟩
  | cold => exact ⟨fun _ _ _ hm => (not_mem_nil hm).elim, fun _ _ hm => (not_mem_nil hm).elim⟩
  | gone => exact ⟨fun _ _ _ hm => (not_mem_nil hm).elim, fun _ _ hm => (not_mem_nil hm).elim⟩
  | arrive inv' defender hphase hinv =>
    unfold arrive
    constructor
    · intro k guid dest hm
      rcases mem_append.1 hm with hm | hm
      · simp only [mem_cons, teleport.injEq, reduceCtorEq, not_mem_nil, or_false] at hm
        rw [hm.2.1, hinv]
      · cases mem_grantRespite hm
    · intro k guid hm
      rcases mem_append.1 hm with hm | hm
      · simp at hm
      · cases mem_grantRespite hm
  | conclude inv' delayMs winner fell hinv hphase hreviving hwinner =>
    constructor
    · intro k guid dest hm
      rcases mem_append.1 hm with hm | hm
      · rcases mem_conclude hm with heq | heq <;> cases heq
      · simp at hm
    · intro k guid hm
      rcases mem_append.1 hm with hm | hm
      · rcases mem_conclude hm with heq | heq <;> cases heq
      · simp at hm
  | logout player hhook hinvader =>
    constructor
    · intro k guid dest hm
      rcases mem_cons.1 hm with heq | hm
      · cases heq
        rfl
      · cases (mem_recordMatch hm).2
    · intro k guid hm
      rcases mem_cons.1 hm with heq | hm
      · cases heq
      · cases (mem_recordMatch hm).2
  | home hphase => exact moves_home
  | homeDead timer diff invader hphase => exact moves_home
  | wake hphase =>
    constructor
    · intro k guid dest hm
      cases mem_singleton.1 hm
    · intro k guid hm
      cases mem_singleton.1 hm
      exact ⟨rfl, rfl, hphase⟩

theorem lifecycle_step (ha : s.Apart) (ht : s.Told) (hfit : s.Rides e) : Lifecycle s e (s.step e) := by
  rcases s.step_cases e with hq | ⟨inv, hb⟩ | ⟨fx, he⟩
  · apply lifecycle_kept ha hq.log
    · rw [hq.rows]
      exact fun inv hinv => hinv
    · rw [hq.rows]
      exact fun inv' hinv' => .inl hinv'
  · apply lifecycle_kept ha hb.log
    · rw [hb.rows]
      exact fun x hx => mem_append_left _ hx
    rw [hb.rows]
    intro x hx
    rcases mem_append.1 hx with hold | hnew
    · exact .inl hold
    rw [mem_singleton.1 hnew]
    refine .inr ⟨fun y hy => ?_, hb.stalking, hb.origin⟩
    rw [hb.serial]
    exact Nat.ne_of_lt (ha.bound y hy)
  · have hdrop : (s.step e).log.drop s.log.length = fx := by rw [he.log, drop_left]
    -- the row a kept row comes from is the one with its number
    have hfrom : ∀ inv ∈ s.invasions, ∀ inv' ∈ (s.step e).invasions, inv'.serial = inv.serial →
        ∃ es, Change e.1 e.2 inv (some inv') es := by
      intro inv hinv inv' hinv' heq
      obtain ⟨x, hx, es, hc, -⟩ := he.rows.mem_new hinv'
      have hxi : x = inv := ha.eq_of_serial hx hinv (hc.same.1.symm.trans heq)
      exact ⟨es, hxi ▸ hc⟩
    refine ⟨?_, ?_, ?_, ?_, ?_, ?_⟩
    · intro inv hinv inv' hinv' heq
      obtain ⟨es, hc⟩ := hfrom inv hinv inv' hinv' heq
      exact change_forward hfit hinv hc
    · intro inv hinv inv' hinv' heq
      obtain ⟨es, hc⟩ := hfrom inv hinv inv' hinv' heq
      exact hc.same.2
    · intro inv' hinv' hne
      obtain ⟨x, hx, es, hc, -⟩ := he.rows.mem_new hinv'
      exact absurd hc.same.1.symm (hne x hx)
    · intro inv hinv hf hgone
      obtain ⟨o, es, hc, hin, hsub⟩ := he.rows.mem_old hinv
      cases o with
      | some inv' => exact absurd hc.same.1 (hgone inv' (hin inv' rfl))
      | none =>
        rcases change_dropped ht hinv hc hf with hhome | hleft
        · left
          rw [he.log]
          exact (mem_append.1 hhome).elim (mem_append_left _) fun hes => mem_append_right _ (hsub hes)
        · exact .inr hleft
    · intro k guid dest hfx inv hinv
      rw [hdrop] at hfx
      obtain ⟨x, hx, o, es, hc, -, hes⟩ := he.rows.mem_log hfx
      rw [(change_moves hc).1 k guid dest hes]
      exact ha.not_defender hx hinv
    · intro k guid hfx
      rw [hdrop] at hfx
      obtain ⟨x, hx, o, es, hc, -, hes⟩ := he.rows.mem_log hfx
      obtain ⟨hk, hg, hp⟩ := (change_moves hc).2 k guid hes
      obtain ⟨hf, hd, -⟩ := ht.reviving x hx hp
      exact ⟨x, hx, hk, hg, hf, hd⟩

/-- In every run of the hooks from an empty manager whose steps all fit, every step keeps the life of an
invasion in order. -/
theorem invasion_lifecycle {as : List (Env × Hook)} (has : Runs.Admitted step Rides init as) {n : Nat} {e : Env × Hook}
    (he : as[n]? = some e) :
    Lifecycle (Runs.run step init (as.take n)) e (Runs.run step init (as.take (n + 1))) := by
  obtain ⟨hfit, hnext⟩ := has.getElem? he
  have hinv : (run step init (as.take n)).Apart ∧ (run step init (as.take n)).Told :=
    invariant (I := fun s => s.Apart ∧ s.Told) (fun s e h hf => ⟨h.1.step e, h.2.step hf⟩) ⟨apart_init, told_init⟩ (has.take n)
  rw [hnext]
  exact lifecycle_step hinv.1 hinv.2 hfit

end State

/-! Two players within a level of each other, on two maps. The first hunts the second. -/

namespace Sample

def town : WorldLocation := ⟨0, 1, 2, 3, 0⟩

def field : WorldLocation := ⟨1, 50, 60, 0, 0⟩

def player (spot : WorldLocation) (account : Nat) (alive : Bool) : Player where
  inWorld := true
  alive := alive
  beingTeleported := false
  taxiFlying := false
  onTransport := false
  gameMaster := false
  bot := false
  hardcore := false
  inBattleGround := false
  hasMap := true
  instanceable := false
  inCombat := false
  pvp := true
  level := 20
  group := none
  account := some account
  location := spot
  closePoint _ := field
  distance _ := 5

def cfg : Config where
  enable := true
  minLevel := 10
  levelRange := 3
  warnSeconds := 5
  durationSeconds := 300
  returnSeconds := 10
  deathLingerSeconds := 20
  reviveSeconds := 2
  respiteSeconds := 300
  arriveDistance := 10

def world (now : Nat) (alive : Bool) : Env where
  now := now
  cfg := cfg
  online := [1, 2]
  findPlayerNotInWorld guid := if guid = 1 then some (player town 1 alive) else if guid = 2 then some (player field 2 true) else none

/-- The invader is killed by a wolf while the defender is being warned. -/
def early : List (Env × Hook) :=
  [(world 100 true, .beginInvasion 1 0), (world 102 false, .playerDeath 1 none), (world 120 false, .update 10000),
    (world 130 false, .update 10000)]

/-- The invader falls in the fight; the defender logs out while he is about to wake. -/
def late : List (Env × Hook) :=
  [(world 100 true, .beginInvasion 1 0), (world 110 true, .update 5000), (world 111 false, .playerDeath 1 (some 2)),
    (world 131 false, .update 20000), (world 132 false, .playerLogout 2)]

def fight : List (Env × Hook) :=
  [(world 100 true, .beginInvasion 1 0), (world 110 true, .update 5000), (world 111 false, .playerDeath 1 (some 2)),
    (world 131 false, .update 20000), (world 140 false, .update 2000)]

end Sample

/-- Somebody who never fought is woken, and a phase goes back from waking to leaving. -/
theorem lifecycle_broken : (∃ e, Sample.early[3]? = some e ∧
      ¬ State.Lifecycle (Runs.run State.step .init (Sample.early.take 3)) e (Runs.run State.step .init (Sample.early.take 4))) ∧
    ∃ e, Sample.late[4]? = some e ∧
      ¬ State.Lifecycle (Runs.run State.step .init (Sample.late.take 4)) e (Runs.run State.step .init (Sample.late.take 5)) := by
  constructor
  · refine ⟨_, rfl, fun h => ?_⟩
    have hwoken : resurrect 0 1 ∈ (run step .init (Sample.early.take 4)).log.drop
        (run step .init (Sample.early.take 3)).log.length := by decide +kernel
    have hnever : ∀ inv ∈ (run step .init (Sample.early.take 3)).invasions, inv.fought = false := by decide +kernel
    obtain ⟨inv, hinv, -, -, hf, -⟩ := h.resurrected 0 1 hwoken
    rw [hnever inv hinv] at hf
    cases hf
  · refine ⟨_, rfl, fun h => ?_⟩
    have hbefore : (run step .init (Sample.late.take 4)).invasions.map (fun inv => (inv.serial, inv.phase.rank)) = [(0, 3)] := by
      decide +kernel
    have hafter : (run step .init (Sample.late.take 5)).invasions.map (fun inv => (inv.serial, inv.phase.rank)) = [(0, 2)] := by
      decide +kernel
    obtain ⟨a, ha, heqa⟩ := mem_map.1 (hbefore ▸ mem_cons_self)
    obtain ⟨b, hb, heqb⟩ := mem_map.1 (hafter ▸ mem_cons_self)
    have hle := h.forward a ha b hb ((congrArg fst heqb).trans (congrArg fst heqa).symm)
    rw [show a.phase.rank = 3 from congrArg snd heqa, show b.phase.rank = 2 from congrArg snd heqb] at hle
    exact absurd hle (by decide)

theorem invasion_lifecycle_fight : ∃ e, Sample.fight[4]? = some e ∧
      State.Lifecycle (Runs.run State.step .init (Sample.fight.take 4)) e (Runs.run State.step .init (Sample.fight.take 5)) ∧
      .resurrect 0 1 ∈ (Runs.run State.step .init Sample.fight).log := by
  have hadm : Admitted step Rides .init Sample.fight := by decide +kernel
  exact ⟨_, rfl, invasion_lifecycle hadm rfl, by decide +kernel⟩

end ComfyCraft.InvasionManager
