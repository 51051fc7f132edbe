import ComfyCraft.Lib.Runs
import ComfyCraft.Invasion.Model

/-! The invasion manager as a state machine: its rows, the respite map, the defenders waiting to release
over their bodies, and one step for each hook. Every hook but a new hunt edits rows, each in one of a
few ways: `Change` is all that can happen to a row. -/

namespace ComfyCraft.InvasionManager

open List Bool Invasion

structure State where
  invasions : List Invasion
  respite : Table Nat Nat
  revives : List Nat
  next : Nat
  log : List Effect
  clock : Nat

def State.init : State := ⟨[], ∅, [], 0, [], 0⟩

inductive Hook
  | canBeginInvasion (invader : Nat)
  | beginInvasion (invader : Nat) (roll : Nat)
  | withdraw (invader : Nat)
  | playerDeath (victim : Nat) (killer : Option Nat)
  | playerLogout (player : Nat)
  | releaseSpirit (player : Nat)
  | update (diff : UInt32)

namespace State

variable (s : State) (env : Env) (guid : Nat) (invader : Player)

def isInvolved : Bool := s.invasions.any (Invasion.involves guid)

def hasRespite (defender : Nat) : Bool := (s.respite.lookup defender).any fun t => env.now < t

/-- `CanInvadeFrom`. -/
def canInvadeFrom : Bool :=
  env.cfg.enable && env.cfg.minLevel ≤ invader.level && !s.isInvolved guid && !invader.inCombat &&
    !(env.online.any fun m => m ≠ guid && (env.findPlayerNotInWorld m).any fun p => p.group.isSome && p.group = invader.group && p.bot) &&
    !invader.hardcore && !invader.gameMaster && isAvailableForInvasion invader

def prune : State := { s with respite := s.respite.keep fun _ t => env.now < t }

def candidates : List Nat :=
  env.online.filter fun target =>
    ((env.findPlayerNotInWorld target).any fun p => isValidDefender env.cfg guid invader target p) &&
      !s.isInvolved target && !s.hasRespite env target

/-- `PickDefender`: one of the candidates at random. -/
def pickDefender (roll : Nat) : Option Nat :=
  (s.candidates env guid invader)[roll % (s.candidates env guid invader).length]?

def hunt (defender : Nat) : Invasion where
  serial := s.next
  invader := guid
  defender := defender
  origin := invader.location
  phase := .stalking
  timer := secondsConfig env.cfg.warnSeconds
  arena := ⟨0, 0, 0, 0, 0⟩
  outInvader := 0
  outDefender := 0
  fought := false
  died := false

def beginInvasion (roll : Nat) : State :=
  let s := s.prune env
  if !s.canInvadeFrom env guid invader then s
  else
    match s.pickDefender env guid invader roll with
    | none => s
    | some defender => { s with invasions := s.invasions ++ [s.hunt env guid invader defender], next := s.next + 1 }

def note : Effect → State
  | .respite defender t => { s with respite := s.respite.insert defender t }
  | .fell guid => { s with revives := s.revives ++ [guid] }
  | .teleport _ _ _ | .arrived _ _ _ | .resurrect _ _ | .record _ _ _ _ => s

def edit (r : List Invasion × List Effect) : State :=
  r.2.foldl note { s with invasions := r.1, log := s.log ++ r.2 }

/-- `UpdateRevives`. -/
def updateRevives : State :=
  { s with revives := s.revives.filter fun guid => (env.findPlayer guid).any fun p => !p.alive }

def call : Hook → State
  | .canBeginInvasion _ => s.prune env
  | .beginInvasion guid roll =>
    match env.findPlayerNotInWorld guid with
    | none => s
    | some invader => s.beginInvasion env guid invader roll
  | .withdraw guid => s.edit (editFirst (fun inv => inv.invader = guid) (Invasion.withdraw env) s.invasions)
  | .playerDeath victim killer =>
    s.edit (editFirst (Invasion.involves victim) (fun inv => inv.onPlayerDeath env victim killer) s.invasions)
  | .playerLogout player =>
    s.edit (editFirst (Invasion.involves player) (fun inv => inv.onPlayerLogout env player) s.invasions)
  | .releaseSpirit player => { s with revives := s.revives.erase player }
  | .update diff =>
    let s := s.updateRevives env
    s.edit (s.invasions.flatMap fun inv => (inv.update env diff).1.toList, s.invasions.flatMap fun inv => (inv.update env diff).2)

def step (e : Env × Hook) : State := { s.call e.1 e.2 with clock := e.1.now }

end State

/-- All that can happen to a row, in the world it happens in. -/
inductive Change (env : Env) (h : Hook) (inv : Invasion) : Option Invasion → List Effect → Prop
  | keep : Change env h inv (some inv) []
  | tick (timer outInvader outDefender : UInt32) :
      Change env h inv (some { inv with timer := timer, outInvader := outInvader, outDefender := outDefender }) []
  | arrive (inv' : Invasion) (defender : Player) (hphase : inv.phase = .stalking)
      (hinv : inv' = { inv with timer := inv'.timer }) :
      Change env h inv (some (inv'.arrive env defender).1) (inv'.arrive env defender).2
  | conclude (inv' : Invasion) (delayMs : UInt32) (winner : Option Nat) (fell : List Nat)
      (hinv : inv' = { inv with timer := inv'.timer, outInvader := inv'.outInvader, outDefender := inv'.outDefender })
      (hphase : inv.phase ≠ .leaving)
      (hreviving : inv.phase = .reviving → ∃ player, h = .playerLogout player ∧ inv.defender = player)
      (hwinner : ∀ guid ∈ winner, guid = inv.invader ∨ guid = inv.defender) :
      Change env h inv (some (inv'.conclude env delayMs winner).1) ((inv'.conclude env delayMs winner).2 ++ fell.map .fell)
  | cold (hphase : inv.phase = .stalking) : Change env h inv none []
  | logout (player : Nat) (hhook : h = .playerLogout player) (hinvader : inv.invader = player) :
      Change env h inv none (.teleport inv.serial inv.invader inv.origin :: inv.recordMatch none)
  | gone (diff : UInt32) (hhook : h = .update diff)
      (hgone : ∀ p ∈ env.findPlayerNotInWorld inv.invader, p.inWorld = false ∧ p.beingTeleported = false) : Change env h inv none []
  | home (hphase : inv.phase = .leaving) : Change env h inv none [.teleport inv.serial inv.invader inv.origin]
  | homeDead (timer : UInt32) (diff : UInt32) (invader : Player) (hphase : inv.phase = .leaving) (hhook : h = .update diff)
      (htimer : inv.timer ≤ diff) (hfound : env.findPlayerNotInWorld inv.invader = some invader) (hin : invader.inWorld = true)
      (hdead : invader.alive = false) :
      Change env h inv (some { inv with phase := .reviving, timer := timer, died := true }) [.teleport inv.serial inv.invader inv.origin]
  | wake (hphase : inv.phase = .reviving) : Change env h inv none [.resurrect inv.serial inv.invader]

namespace Invasion

variable {env : Env} {h : Hook}

variable {inv : Invasion}

/-- Concluding a row whose clocks have moved. -/
theorem conclude_change {inv' : Invasion} {delayMs : UInt32} {winner : Option Nat}
    (hinv : inv' = { inv with timer := inv'.timer, outInvader := inv'.outInvader, outDefender := inv'.outDefender })
    (hphase : inv.phase ≠ .leaving) (hreviving : inv.phase = .reviving → ∃ player, h = .playerLogout player ∧ inv.defender = player)
    (hwinner : ∀ guid ∈ winner, guid = inv.invader ∨ guid = inv.defender) :
    Change env h inv (some (inv'.conclude env delayMs winner).1) (inv'.conclude env delayMs winner).2 := by
  have hc : Change env h inv (some (inv'.conclude env delayMs winner).1)
      ((inv'.conclude env delayMs winner).2 ++ ([] : List Nat).map .fell) :=
    .conclude inv' delayMs winner [] hinv hphase hreviving hwinner
  rwa [map_nil, append_nil] at hc

theorem withdraw_change (inv : Invasion) : Change env h inv (inv.withdraw env).1 (inv.withdraw env).2 := by
  unfold withdraw
  split
  · rename_i hp
    exact .cold hp
  · rename_i hp
    exact conclude_change rfl (by simp [hp]) (by simp [hp]) (by simp)
  · exact .keep
  · exact .keep

theorem onPlayerDeath_change (inv : Invasion) (victim : Nat) (killer : Option Nat) :
    Change env h inv (inv.onPlayerDeath env victim killer).1 (inv.onPlayerDeath env victim killer).2 := by
  unfold onPlayerDeath
  split
  · rename_i hp
    exact conclude_change rfl (by simp [hp]) (by simp [hp]) (by simp)
  · exact .keep
  · exact .keep
  rename_i hp
  -- whoever falls, the winner is the other side or nobody
  have hwinner : ∀ b : Prop, [Decidable b] → ∀ guid ∈ (if b then some (if inv.invader = victim then inv.defender else inv.invader) else none),
      guid = inv.invader ∨ guid = inv.defender := by
    intro b _ guid hg
    split_ifs at hg with hb hv
    · cases hg
      exact .inr rfl
    · cases hg
      exact .inl rfl
    · cases hg
  by_cases hv : inv.invader = victim
  · rw [if_pos hv]
    exact conclude_change rfl (by simp [hp]) (by simp [hp]) (hwinner _)
  · rw [if_neg hv]
    exact Change.conclude inv 0 _ [victim] rfl (by simp [hp]) (by simp [hp]) (hwinner _)

theorem onPlayerLogout_change {player : Nat} (hside : inv.involves player = true) :
    Change env (.playerLogout player) inv (inv.onPlayerLogout env player).1 (inv.onPlayerLogout env player).2 := by
  unfold onPlayerLogout
  split_ifs with hi hl
  · exact .logout player rfl hi
  · have hd : inv.defender = player := by simpa [involves, hi] using hside
    exact conclude_change rfl hl (fun _ => ⟨player, rfl, hd⟩) (by simp)
  · exact .keep

theorem arenaForfeit_cases (env : Env) (inv : Invasion) (invader defender : Option Player) (diff : UInt32) :
    (∃ a b, inv.arenaForfeit env invader defender diff = ({ inv with outInvader := a, outDefender := b }, none)) ∨
      ∃ a b winner, (winner = inv.defender ∨ winner = inv.invader) ∧ inv.arenaForfeit env invader defender diff =
          ((({ inv with outInvader := a, outDefender := b } : Invasion).conclude env 0 (some winner)).1,
            some (({ inv with outInvader := a, outDefender := b } : Invasion).conclude env 0 (some winner)).2) := by
  unfold arenaForfeit
  dsimp only
  split_ifs
  · exact .inr ⟨_, inv.outDefender, inv.defender, .inl rfl, rfl⟩
  · exact .inr ⟨_, _, inv.invader, .inr rfl, rfl⟩
  · exact .inl ⟨_, _, rfl⟩

theorem updatePhase_change {invader : Player} {diff timer : UInt32} (htimer : timer = 0 → inv.timer ≤ diff)
    (hfound : env.findPlayerNotInWorld inv.invader = some invader) (hin : invader.inWorld = true) :
    Change env (.update diff) inv (({ inv with timer := timer } : Invasion).updatePhase env invader diff).1
      (({ inv with timer := timer } : Invasion).updatePhase env invader diff).2 := by
  set run : Invasion := { inv with timer := timer } with hrun
  have hticked : ∀ a b : UInt32, Change env (.update diff) inv (some { run with outInvader := a, outDefender := b }) [] :=
    fun a b => .tick _ a b
  have htick : Change env (.update diff) inv (some run) [] := hticked run.outInvader run.outDefender
  unfold updatePhase
  dsimp only
  split
  · rename_i hp
    split_ifs
    · exact htick
    split
    · exact .cold hp
    rename_i d _
    split_ifs
    · exact .cold hp
    · exact .arrive run d hp rfl
  · rename_i hp
    have hfight : inv.phase = .fighting := hp
    split_ifs with hdef
    · exact conclude_change rfl (by simp [hfight]) (by simp [hfight]) (by simp)
    rcases arenaForfeit_cases env run (some invader) (env.findPlayer run.defender) diff with
      ⟨a, b, heq⟩ | ⟨a, b, winner, hw, heq⟩
    · rw [heq]
      dsimp only
      split_ifs
      · exact conclude_change rfl (by simp [hfight]) (by simp [hfight]) (by simp)
      · exact hticked a b
    · rw [heq]
      apply conclude_change rfl (by simp [hfight]) (by simp [hfight])
      intro guid hg
      cases hg
      exact hw.symm
  · rename_i hp
    split_ifs with hleft halive
    · exact htick
    · exact .home hp
    · exact .homeDead _ diff invader hp rfl (htimer (not_not.1 hleft)) hfound hin (by simpa using halive)
  · rename_i hp
    split_ifs
    · exact htick
    · exact .wake hp

/-- One turn of `Update`. -/
theorem update_change (inv : Invasion) (diff : UInt32) :
    Change env (.update diff) inv (inv.update env diff).1 (inv.update env diff).2 := by
  unfold update
  split
  · rename_i hnone
    exact .gone diff rfl (by simp [hnone])
  rename_i invader hfound
  by_cases hgone : (!invader.inWorld && !invader.beingTeleported) = true
  · rw [if_pos hgone]
    simp only [Bool.and_eq_true, Bool.not_eq_true'] at hgone
    refine .gone diff rfl ?_
    intro p hp
    rw [hfound] at hp
    cases hp
    exact hgone
  rw [if_neg hgone]
  by_cases hscreen : (!invader.inWorld) = true
  · rw [if_pos hscreen]
    exact .keep
  rw [if_neg hscreen]
  apply updatePhase_change _ hfound (by simpa using hscreen)
  -- a clock that is run down had no more left than the tick
  intro hzero
  by_contra hlt
  rw [UInt32.not_le] at hlt
  rw [if_pos hlt] at hzero
  have hsub := congrArg UInt32.toNat hzero
  rw [UInt32.toNat_sub_of_le _ _ (UInt32.le_of_lt hlt)] at hsub
  have hlt' := UInt32.lt_iff_toNat_lt.1 hlt
  have h0 : (0 : UInt32).toNat = 0 := rfl
  omega

end Invasion

namespace State

def stamp (t : Table Nat Nat) : Effect → Table Nat Nat
  | .respite defender until_ => t.insert defender until_
  | .teleport _ _ _ | .arrived _ _ _ | .resurrect _ _ | .record _ _ _ _ | .fell _ => t

theorem foldl_note (s : State) (fx : List Effect) :
    (fx.foldl note s).invasions = s.invasions ∧ (fx.foldl note s).next = s.next ∧ (fx.foldl note s).log = s.log ∧
      (fx.foldl note s).respite = fx.foldl stamp s.respite := by
  induction fx generalizing s with
  | nil => exact ⟨rfl, rfl, rfl, rfl⟩
  | cons e fx ih =>
    obtain ⟨h1, h2, h3, h4⟩ := ih (s.note e)
    rw [foldl_cons, foldl_cons]
    cases e <;> exact ⟨h1, h2, h3, h4⟩

/-- A step that edits rows: each as the hook may, with everything it did in the log. -/
structure Edits (s s' : State) (e : Env × Hook) (fx : List Effect) : Prop where
  rows : Edited (Change e.1 e.2) s.invasions s'.invasions fx
  next : s'.next = s.next
  log : s'.log = s.log ++ fx
  respite : s'.respite = fx.foldl stamp s.respite

/-- A step that starts a hunt of a defender with no respite, neither side being in an invasion. -/
structure Begins (s s' : State) (e : Env × Hook) (inv : Invasion) : Prop where
  rows : s'.invasions = s.invasions ++ [inv]
  serial : inv.serial = s.next
  next : s'.next = s.next + 1
  log : s'.log = s.log
  respite : s'.respite = (s.prune e.1).respite
  stalking : inv.phase = .stalking
  fresh : inv.fought = false
  free : s.isInvolved inv.invader = false ∧ s.isInvolved inv.defender = false
  apart : inv.invader ≠ inv.defender
  pickable : (s.prune e.1).hasRespite e.1 inv.defender = false
  origin : ∃ p, e.1.findPlayerNotInWorld inv.invader = some p ∧ inv.origin = p.location

/-- A step that leaves rows and log as they are; it may forget respites that have run out. -/
structure Quiet (s s' : State) (e : Env × Hook) : Prop where
  rows : s'.invasions = s.invasions
  next : s'.next = s.next
  log : s'.log = s.log
  respite : s'.respite = s.respite ∨ s'.respite = (s.prune e.1).respite

theorem edits_edit {s : State} {e : Env × Hook} {r : List Invasion × List Effect}
    (hr : Edited (Change e.1 e.2) s.invasions r.1 r.2) : Edits s { s.edit r with clock := e.1.now } e r.2 := by
  obtain ⟨h1, h2, h3, h4⟩ := foldl_note { s with invasions := r.1, log := s.log ++ r.2 } r.2
  refine ⟨?_, h2, h3, h4⟩
  have hrows : (s.edit r).invasions = r.1 := h1
  rw [← hrows] at hr
  exact hr

theorem isValidDefender_ne {cfg : Config} {invader target : Nat} {inv tgt : Player}
    (h : isValidDefender cfg invader inv target tgt = true) : target ≠ invader := by
  rintro rfl
  simp [isValidDefender] at h

theorem beginInvasion_cases (s : State) (e : Env × Hook) {guid : Nat} {invader : Player} (roll : Nat)
    (hfound : e.1.findPlayerNotInWorld guid = some invader) :
    Quiet s { s.beginInvasion e.1 guid invader roll with clock := e.1.now } e ∨
      ∃ inv, Begins s { s.beginInvasion e.1 guid invader roll with clock := e.1.now } e inv := by
  unfold beginInvasion
  by_cases hcan : (!(s.prune e.1).canInvadeFrom e.1 guid invader) = true
  · rw [if_pos hcan]
    exact .inl ⟨rfl, rfl, rfl, .inr rfl⟩
  rw [if_neg hcan]
  split
  · exact .inl ⟨rfl, rfl, rfl, .inr rfl⟩
  rename_i defender hpick
  right
  have hmem : defender ∈ (s.prune e.1).candidates e.1 guid invader := mem_of_getElem? hpick
  obtain ⟨-, hcand⟩ := mem_filter.1 hmem
  simp only [and_eq_true, not_eq_true', Option.any_eq_true] at hcand
  obtain ⟨⟨⟨p, -, hvalid⟩, hfree⟩, hrespite⟩ := hcand
  have hself : s.isInvolved guid = false := by
    have hnot : (s.prune e.1).canInvadeFrom e.1 guid invader = true := by simpa using hcan
    unfold canInvadeFrom at hnot
    simp only [and_eq_true, not_eq_true'] at hnot
    exact hnot.1.1.1.1.1.2
  exact ⟨(s.prune e.1).hunt e.1 guid invader defender, rfl, rfl, rfl, rfl, rfl, rfl, rfl, ⟨hself, hfree⟩,
    Ne.symm (isValidDefender_ne hvalid), hrespite, invader, hfound, rfl⟩

theorem step_cases (s : State) (e : Env × Hook) :
    Quiet s (s.step e) e ∨ (∃ inv, Begins s (s.step e) e inv) ∨ ∃ fx, Edits s (s.step e) e fx := by
  obtain ⟨env, hook⟩ := e
  have hedit : ∀ {p : Invasion → Bool} {f : Invasion → Option Invasion × List Effect},
      (∀ inv ∈ s.invasions, p inv = true → Change env hook inv (f inv).1 (f inv).2) →
      Edits s { s.edit (editFirst p f s.invasions) with clock := env.now } (env, hook) (editFirst p f s.invasions).2 := by
    intro p f hf
    have hrows : Edited (Change (env, hook).1 (env, hook).2) s.invasions (editFirst p f s.invasions).1 (editFirst p f s.invasions).2 :=
      Edited.of_editFirst (fun _ => .keep) hf
    exact edits_edit hrows
  cases hook with
  | canBeginInvasion invader => exact .inl ⟨rfl, rfl, rfl, .inr rfl⟩
  | beginInvasion guid roll =>
    unfold step call
    dsimp only
    split
    · exact .inl ⟨rfl, rfl, rfl, .inl rfl⟩
    rename_i invader hfound
    rcases beginInvasion_cases s (env, .beginInvasion guid roll) roll hfound with hq | hb
    · exact .inl hq
    · exact .inr (.inl hb)
  | withdraw guid => exact .inr (.inr ⟨_, hedit fun inv _ _ => inv.withdraw_change⟩)
  | playerDeath victim killer => exact .inr (.inr ⟨_, hedit fun inv _ _ => inv.onPlayerDeath_change victim killer⟩)
  | playerLogout player => exact .inr (.inr ⟨_, hedit fun inv _ hside => onPlayerLogout_change hside⟩)
  | releaseSpirit player => exact .inl ⟨rfl, rfl, rfl, .inl rfl⟩
  | update diff =>
    right; right
    have hrows : Edited (Change env (.update diff)) s.invasions (s.invasions.flatMap fun inv => (inv.update env diff).1.toList)
        (s.invasions.flatMap fun inv => (inv.update env diff).2) :=
      Edited.map (fun inv => inv.update env diff) s.invasions fun inv _ => inv.update_change diff
    have hedit := edits_edit (s := s.updateRevives env) (e := (env, .update diff))
      (r := (s.invasions.flatMap fun inv => (update env diff inv).1.toList,
        s.invasions.flatMap fun inv => (update env diff inv).2)) hrows
    exact ⟨_, hedit.rows, hedit.next, hedit.log, hedit.respite⟩

end State

end ComfyCraft.InvasionManager
