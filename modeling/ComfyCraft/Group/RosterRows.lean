import ComfyCraft.Group.RosterKept
import ComfyCraft.Group.Tables

/-! The groups and their rows under several database workers. Creation writes its rows at once; everything
else is queued without a serial id, and a member's row is found by the member alone. -/

namespace ComfyCraft

open List Function GroupView Group MemberSlot GroupStmt

namespace Group

variable (g : Group) (id : Nat)

/-- The insert of `_addMember`, where it adds a slot. -/
def insertStmts (id guid : Nat) : List GroupStmt :=
  match g.openSubGroup with
  | none => []
  | some subGroup => if guid = 0 ∨ g.isMember guid ∨ g.isFull then [] else [.insertMember ⟨id, guid, false, subGroup⟩]

def setLeaderOps (id guid : Nat) : List (Bool × List GroupStmt) := if g.isMember guid then [(true, [.updateGroup id])] else []

def chooseLeaderOps (players : Nat → PlayerGroups) (offline : Bool) : List (Bool × List GroupStmt) :=
  if g.slots.length < g.membersMinCount then []
  else
    match g.chosen id players with
    | some guid => g.setLeaderOps id guid
    | none =>
      if offline then []
      else
        match g.slots.head? with
        | some s => g.setLeaderOps id s.guid
        | none => []

def removeMemberOps (players : Nat → PlayerGroups) (guid : Nat) : List (Bool × List GroupStmt) :=
  let g' := match g.slot guid with
    | some s => ({ g with slots := g.slots.eraseP fun t => t.guid = guid } : Group).counterDecrease s.group
    | none => g
  (false, [.deleteMember guid]) :: if g'.leader = guid then g'.chooseLeaderOps id players false else []

/-- `_setMainTank` and `_setMainAssistant`; who holds the other office loses it first. -/
def mainOps (id guid holder other : Nat) : List (Bool × List GroupStmt) :=
  if holder = guid then []
  else if guid ≠ 0 ∧ !g.isMember guid then []
  else if guid ≠ 0 ∧ other = guid then [(false, [.updateGroup id]), (false, [.updateGroup id])]
  else [(false, [.updateGroup id])]

def disbandOps : List (Bool × List GroupStmt) := [(true, [.deleteGroup id, .deleteMembersOf id])]

end Group

def GroupEvent.group : GroupEvent → Option Nat
  | .create id _ _ | .addMember id _ | .removeMember id _ | .disband id | .convertToRaid id | .changeMembersGroup id _ _
  | .swapMembersGroup id _ _ | .changeLeader id _ | .leaderInactive id | .setAssistant id _ _ | .setMainTank id _
  | .setMainAssistant id _ | .rejoinBattleground id _ => some id
  | .login _ _ | .enterWorld _ | .leaveWorld _ | .logout _ => none

namespace GroupRealm

variable (w : GroupRealm)

/-- A battleground's group is not stored. -/
def stored (id : Nat) (f : Group → List (Bool × List GroupStmt)) : List (Bool × List GroupStmt) :=
  match w.groups id with
  | none => []
  | some g => if g.battleground then [] else f g

def ops : GroupEvent → List (Bool × List GroupStmt)
  | .addMember id guid => w.stored id fun g => (g.insertStmts id guid).map fun s => (false, [s])
  | .removeMember id guid =>
    w.stored id fun g =>
      if g.membersMinCount < g.slots.length then
        g.removeMemberOps id (w.tell guid fun p => p.leave g.battleground id).players guid
      else Group.disbandOps id
  | .disband id => w.stored id fun _ => Group.disbandOps id
  | .convertToRaid id => w.stored id fun _ => [(false, [.updateGroup id])]
  | .changeMembersGroup id guid subGroup =>
    w.stored id fun g =>
      if !g.raid ∨ 8 ≤ subGroup ∨ (g.subGroupsCounts.any fun counts => 5 ≤ counts subGroup) then []
      else if g.memberGroup guid = subGroup ∨ 8 ≤ g.memberGroup guid then []
      else [(false, [.updateSubgroup guid subGroup])]
  | .swapMembersGroup id guid swapGuid =>
    w.stored id fun g =>
      if !g.raid ∨ g.memberGroup guid = g.memberGroup swapGuid ∨ 8 ≤ g.memberGroup guid ∨ 8 ≤ g.memberGroup swapGuid then []
      else [(false, [.updateSubgroup guid (g.memberGroup swapGuid)]), (false, [.updateSubgroup swapGuid (g.memberGroup guid)])]
  | .changeLeader id guid => w.stored id fun g => g.setLeaderOps id guid
  | .leaderInactive id => w.stored id fun g => g.chooseLeaderOps id w.players true
  | .setAssistant id guid state =>
    w.stored id fun g => if g.raid ∧ g.isMember guid then [(false, [.updateAssistant guid state])] else []
  | .setMainTank id guid => w.stored id fun g => if g.raid then g.mainOps id guid g.mainTank g.mainAssistant else []
  | .setMainAssistant id guid => w.stored id fun g => if g.raid then g.mainOps id guid g.mainAssistant g.mainTank else []
  | .create _ _ _ | .rejoinBattleground _ _ | .login _ _ | .enterWorld _ | .leaveWorld _ | .logout _ => []

/-- What an event executes at once: the transaction of `Create`, with the leader's own insert in it. -/
def direct : GroupEvent → List GroupStmt
  | .create id guid battleground =>
    if (w.groups id).isSome ∨ battleground ∨ guid = 0 then []
    else [.deleteGroup id, .deleteMembersOf id, .insertGroup id] ++ (⟨false, false, [], none, guid, 0, 0⟩ : Group).insertStmts id guid
  | _ => []

def rowOf (id : Nat) (s : MemberSlot) : GroupMemberRow := ⟨id, s.guid, s.assistant, s.group⟩

/-- The rows of a group: none without one, and none for a battleground's. -/
def rowsOf (id guid : Nat) : Option Group → Option GroupMemberRow
  | none => none
  | some g => if g.battleground then none else (g.slot guid).map (rowOf id)

def storedGroup : Option Group → Bool
  | none => false
  | some g => !g.battleground

def view : GroupView := ⟨fun id => storedGroup (w.groups id), fun k => rowsOf k.1 k.2 (w.groups k.1)⟩

end GroupRealm

structure GroupServer (n : Nat) where
  realm : GroupRealm
  db : Database n Unit GroupStmt
  tables : GroupTables

inductive GroupAction (n : Nat)
  | event (e : GroupEvent)
  | thread (a : ThreadAction n)

namespace GroupServer

variable {n : Nat}

def started (realm : GroupRealm) (tables : GroupTables) (n : Nat) : GroupServer n := ⟨realm, Database.start n Unit GroupStmt, tables⟩

def step (s : GroupServer n) : GroupAction n → GroupServer n
  | .event e =>
    if s.db.up then
      ⟨s.realm.step e, s.db.queueAll (s.realm.ops e), (s.realm.direct e).foldl GroupTables.execute s.tables⟩
    else s
  | .thread a => { s with db := (s.db.thread a).1, tables := (s.db.thread a).2.foldl GroupTables.execute s.tables }

end GroupServer

def GroupStmt.named : GroupStmt → Option Nat
  | .deleteMember guid | .updateSubgroup guid _ | .updateAssistant guid _ => some guid
  | .insertGroup _ | .deleteGroup _ | .updateGroup _ | .insertMember _ | .deleteMembersOf _ => none

/-- Whoever the statements of an event name is in no other stored group than its own. -/
def GroupRealm.Alone (w : GroupRealm) (e : GroupEvent) : Prop :=
  ∀ op ∈ w.ops e, ∀ s ∈ op.2, ∀ guid ∈ s.named, ∀ id, e.group ≠ some id → w.view.members (id, guid) = none

def GroupServer.InOrder {n : Nat} (s : GroupServer n) : GroupAction n → Prop
  | .event e =>
    s.realm.Alone e ∧ (∀ b ∈ s.db.pendingStatements, Database.Apart GroupStmt.Commutes (s.realm.direct e) b) ∧
      (n ≤ 1 ∨ (s.db.pendingStatements ++ (s.realm.ops e).map Prod.snd).Pairwise (Database.Apart GroupStmt.Commutes))
  | .thread _ => True

namespace GroupView

theorem act_updateGroup (v : GroupView) (id : Nat) : v.act (.updateGroup id) = v := rfl

def carryOut (v : GroupView) (ops : List (Bool × List GroupStmt)) : GroupView :=
  (ops.map Prod.snd).foldl (fun v ss => ss.foldl act v) v

/-- Operations that only write other columns. -/
def Idle (ops : List (Bool × List GroupStmt)) : Prop := ∀ op ∈ ops, ∀ s ∈ op.2, ∃ id, s = .updateGroup id

theorem foldl_idle {ss : List GroupStmt} (h : ∀ s ∈ ss, ∃ id, s = .updateGroup id) (v : GroupView) : ss.foldl act v = v := by
  induction ss with
  | nil => rfl
  | cons s ss ih =>
    obtain ⟨id, rfl⟩ := h s mem_cons_self
    rw [foldl_cons, act_updateGroup]
    exact ih fun t ht => h t (mem_cons_of_mem _ ht)

theorem carryOut_idle {ops : List (Bool × List GroupStmt)} (h : Idle ops) (v : GroupView) : v.carryOut ops = v := by
  unfold carryOut
  induction ops with
  | nil => rfl
  | cons op ops ih =>
    rw [map_cons, foldl_cons, foldl_idle (h op mem_cons_self)]
    exact ih fun p hp => h p (mem_cons_of_mem _ hp)

end GroupView

namespace Group

variable (g : Group) (id guid : Nat)

theorem idle_setLeader : GroupView.Idle (g.setLeaderOps id guid) := by
  unfold setLeaderOps
  split_ifs
  · simp [Idle]
  · simp [Idle]

theorem idle_chooseLeader (players : Nat → PlayerGroups) (offline : Bool) :
    GroupView.Idle (g.chooseLeaderOps id players offline) := by
  have hnil : Idle [] := fun _ h => (not_mem_nil h).elim
  unfold chooseLeaderOps
  split_ifs
  · exact hnil
  · split
    · exact g.idle_setLeader id _
    · exact hnil
  · split
    · exact g.idle_setLeader id _
    split
    · exact g.idle_setLeader id _
    · exact hnil

theorem idle_main (id guid holder other : Nat) : GroupView.Idle (g.mainOps id guid holder other) := by
  unfold mainOps
  split_ifs <;> simp [Idle]

def shape : Bool × List MemberSlot := (g.battleground, g.slots)

theorem shape_setLeader : (g.setLeader guid).shape = g.shape := by
  unfold setLeader
  split_ifs <;> rfl

theorem shape_chooseLeader (players : Nat → PlayerGroups) (offline : Bool) :
    (g.chooseLeader id players offline).shape = g.shape := by
  unfold chooseLeader
  split_ifs
  · rfl
  · split
    · exact g.shape_setLeader _
    · rfl
  · split
    · exact g.shape_setLeader _
    split
    · exact g.shape_setLeader _
    · rfl

theorem shape_setMainTank : (g.setMainTank guid).shape = g.shape := by
  unfold setMainTank
  split_ifs <;> rfl

theorem shape_setMainAssistant : (g.setMainAssistant guid).shape = g.shape := by
  unfold setMainAssistant
  split_ifs <;> rfl

theorem slot_none {g : Group} {guid : Nat} (h : g.slot guid = none) : ∀ s ∈ g.slots, s.guid ≠ guid := by
  unfold slot at h
  simpa using h

theorem shape_removeMember (players : Nat → PlayerGroups) (guid : Nat) :
    (g.removeMember id players guid).shape = (g.battleground, g.slots.eraseP fun t => t.guid = guid) := by
  have hchoose : ∀ g' : Group, (if g'.leader = guid then g'.chooseLeader id players false else g').shape = g'.shape := by
    intro g'
    split_ifs
    · exact g'.shape_chooseLeader id players false
    · rfl
  unfold removeMember
  rw [hchoose]
  cases h : g.slot guid with
  | none =>
    have hsame : g.slots.eraseP (fun t => t.guid = guid) = g.slots := by
      apply eraseP_of_forall_not
      intro t ht
      simpa using slot_none h t ht
    rw [hsame]
    rfl
  | some s => rfl

end Group

def slotIn (slots : List MemberSlot) (guid : Nat) : Option MemberSlot := slots.find? fun s => s.guid = guid

theorem slotIn_append (slots : List MemberSlot) (s : MemberSlot) (guid : Nat) :
    slotIn (slots ++ [s]) guid = (slotIn slots guid).or (if s.guid = guid then some s else none) := by
  unfold slotIn
  rw [find?_append, find?_singleton]
  simp

theorem slotIn_map {f : MemberSlot → MemberSlot} (hf : ∀ s, (f s).guid = s.guid) (slots : List MemberSlot) (guid : Nat) :
    slotIn (slots.map f) guid = (slotIn slots guid).map f := by
  unfold slotIn
  rw [find?_map]
  simp [comp_def, hf]

variable {slots : List MemberSlot}

theorem slotIn_guid {guid : Nat} {s : MemberSlot} (h : slotIn slots guid = some s) : s.guid = guid := by
  simpa using find?_some h

theorem slotIn_erase (hlisted : (slots.map MemberSlot.guid).Nodup) (guid other : Nat) :
    slotIn (slots.eraseP fun t => t.guid = guid) other = if other = guid then none else slotIn slots other := by
  unfold slotIn
  induction slots with
  | nil => simp
  | cons s slots ih =>
    rw [map_cons, nodup_cons] at hlisted
    have hnone : s.guid = guid → ∀ t ∈ slots, t.guid ≠ guid := by
      intro hs t ht heq
      exact hlisted.1 (hs.trans heq.symm ▸ mem_map_of_mem ht)
    by_cases hs : s.guid = guid
    · rw [eraseP_cons_of_pos (by simpa using hs)]
      split_ifs with ho
      · rw [find?_eq_none]
        intro t ht
        simpa [ho] using hnone hs t ht
      · rw [find?_cons_of_neg (by simpa [hs] using Ne.symm ho)]
    · rw [eraseP_cons_of_neg (by simpa using hs), find?_cons, find?_cons, ih hlisted.2]
      by_cases ho : other = guid
      · simp [ho, hs]
      · simp [ho]

namespace GroupRealm

variable {w w' : GroupRealm}

/-- No group lists a member twice. -/
def Listed (w : GroupRealm) : Prop := ∀ id g, w.groups id = some g → (g.slots.map MemberSlot.guid).Nodup

variable {id guid subGroup : Nat} {o : Option Group} {g g' : Group} {ops : List (Bool × List GroupStmt)}
  {f : MemberSlot → MemberSlot} {u : GroupMemberRow → GroupMemberRow}

theorem view_update (h : w'.groups = Function.update w.groups id o) :
    w'.view = ⟨Function.update w.view.groups id (storedGroup o), fun k => if k.1 = id then rowsOf k.1 k.2 o else w.view.members k⟩ := by
  apply GroupView.ext
  · funext i
    unfold view
    dsimp only
    rw [h]
    by_cases hi : i = id
    · rw [hi, update_self, update_self]
    · rw [update_of_ne hi, update_of_ne hi]
  · funext k
    unfold view
    dsimp only
    rw [h]
    split_ifs with hk
    · rw [hk, update_self]
    · rw [update_of_ne hk]

theorem listed_update (hw : w.Listed) (h : w'.groups = Function.update w.groups id o)
    (ho : ∀ g ∈ o, (g.slots.map MemberSlot.guid).Nodup) : w'.Listed := by
  intro i g hg
  rw [h] at hg
  by_cases hi : i = id
  · rw [hi, update_self] at hg
    exact ho g hg
  · rw [update_of_ne hi] at hg
    exact hw i g hg

theorem rowsOf_congr (h : g'.shape = g.shape) :
    storedGroup (some g') = storedGroup (some g) ∧ ∀ id guid, rowsOf id guid (some g') = rowsOf id guid (some g) := by
  obtain ⟨hbg, hslots⟩ := Prod.mk.injEq .. ▸ h
  unfold storedGroup rowsOf slot
  dsimp only
  rw [hbg, hslots]
  exact ⟨rfl, fun _ _ => rfl⟩

theorem view_self (hg : w.groups id = some g) (h : w'.groups = Function.update w.groups id (some g'))
    (hshape : g'.shape = g.shape) : w'.view = w.view := by
  obtain ⟨h1, h2⟩ := rowsOf_congr hshape
  rw [view_update h, h1]
  apply GroupView.ext
  · change update w.view.groups id (storedGroup (some g)) = w.view.groups
    rw [← hg]
    exact update_eq_self id w.view.groups
  · funext k
    dsimp only
    split_ifs with hk
    · rw [h2, ← hg, ← hk]
      rfl
    · rfl

/-- What becomes of a battleground's group is not seen in the tables. -/
theorem view_hidden (hg : ∀ g ∈ w.groups id, g.battleground = true)
    (h : w'.groups = Function.update w.groups id o) (ho : ∀ g ∈ o, g.battleground = true) : w'.view = w.view := by
  have hnone : ∀ o : Option Group, (∀ g ∈ o, g.battleground = true) → storedGroup o = false ∧ ∀ id guid, rowsOf id guid o = none := by
    intro o ho
    cases o with
    | none => exact ⟨rfl, fun _ _ => rfl⟩
    | some g =>
      unfold storedGroup rowsOf
      dsimp only
      rw [ho g rfl]
      exact ⟨rfl, fun _ _ => rfl⟩
  rw [view_update h, (hnone o ho).1]
  apply GroupView.ext
  · change update w.view.groups id false = w.view.groups
    rw [← (hnone _ hg).1]
    exact update_eq_self id w.view.groups
  · funext k
    dsimp only
    split_ifs with hk
    · rw [(hnone o ho).2]
      exact ((hnone _ hg).2 id k.2 ▸ hk ▸ rfl)
    · rfl

/-- The statements of an event take what the tables should say before it to what they should say after it. -/
structure Follows (w : GroupRealm) (direct : List GroupStmt) (ops : List (Bool × List GroupStmt)) (w' : GroupRealm) : Prop where
  view : (direct.foldl GroupView.act w.view).carryOut ops = w'.view
  listed : w'.Listed

theorem follows_groups (hw : w.Listed) (hops : GroupView.Idle ops) (h : w'.groups = w.groups) : Follows w [] ops w' := by
  refine ⟨?_, fun id g hg => hw id g (h ▸ hg)⟩
  rw [foldl_nil, carryOut_idle hops]
  unfold view
  rw [h]

/-- An event that leaves the slots of its group as they are. -/
theorem follows_shape (hw : w.Listed) (hops : GroupView.Idle ops)
    (hg : w.groups id = some g) (h : w'.groups = Function.update w.groups id (some g')) (hshape : g'.shape = g.shape) :
    Follows w [] ops w' := by
  refine ⟨?_, listed_update hw h ?_⟩
  · rw [foldl_nil, carryOut_idle hops, view_self hg h hshape]
  intro g'' hg''
  cases hg''
  rw [show g'.slots = g.slots from congrArg Prod.snd hshape]
  exact hw id g hg

/-- An event that changes a stored group: the rows of the others stay, those of its own are as its slots. -/
theorem follows_change (hw : w.Listed) {direct : List GroupStmt}
    (h : w'.groups = Function.update w.groups id o) (ho : ∀ g ∈ o, (g.slots.map MemberSlot.guid).Nodup)
    (hgroups : ((direct.foldl GroupView.act w.view).carryOut ops).groups = Function.update w.view.groups id (storedGroup o))
    (hmembers : ∀ k, ((direct.foldl GroupView.act w.view).carryOut ops).members k =
      if k.1 = id then rowsOf k.1 k.2 o else w.view.members k) : Follows w direct ops w' := by
  refine ⟨?_, listed_update hw h ho⟩
  rw [view_update h]
  exact GroupView.ext hgroups (funext hmembers)

theorem stored_of (hg : w.groups id = some g) (f : Group → List (Bool × List GroupStmt)) :
    w.stored id f = if g.battleground then [] else f g := by
  unfold stored
  rw [hg]

theorem stored_none (hg : w.groups id = none) (f : Group → List (Bool × List GroupStmt)) : w.stored id f = [] := by
  unfold stored
  rw [hg]

theorem idle_nil : GroupView.Idle [] := fun _ h => (not_mem_nil h).elim

section

variable (hg : w.groups id = some g) (hbg : g.battleground = false)
include hg hbg

theorem view_members (guid : Nat) : w.view.members (id, guid) = (slotIn g.slots guid).map (rowOf id) := by
  unfold view rowsOf
  dsimp only
  rw [hg]
  dsimp only
  rw [hbg]
  rfl

theorem view_groups : w.view.groups id = true := by
  unfold view storedGroup
  dsimp only
  rw [hg]
  dsimp only
  rw [hbg]
  rfl

theorem groups_kept
    (hbg' : g'.battleground = false) : w.view.groups = Function.update w.view.groups id (storedGroup (some g')) := by
  have htrue : storedGroup (some g') = w.view.groups id := by
    rw [view_groups hg hbg]
    unfold storedGroup
    dsimp only
    rw [hbg']
    rfl
  rw [htrue, update_eq_self]

end

theorem nodup_addSlot (hg : (g.slots.map MemberSlot.guid).Nodup) (hnew : g.isMember guid = false) (subGroup : Nat) :
    ((g.addSlot guid subGroup).slots.map MemberSlot.guid).Nodup := by
  have hslots : (g.addSlot guid subGroup).slots = g.slots ++ [⟨guid, subGroup, false⟩] := rfl
  rw [hslots, map_append, nodup_append]
  refine ⟨hg, by simp, ?_⟩
  intro a ha b hb hab
  obtain ⟨s, hs, rfl⟩ := mem_map.1 ha
  simp only [map_cons, map_nil, mem_singleton] at hb
  have hin : g.isMember guid = true := isMember_iff.2 ⟨s, hs, hab.trans hb⟩
  rw [hnew] at hin
  cases hin

/-- What `AddMember` makes of the group and of its rows. -/
theorem addMember_rows (hg : w.groups id = some g) (guid : Nat) :
    ((w.addMember id guid).2.groups = w.groups ∧ g.insertStmts id guid = [] ∧ ((w.addMember id guid).1 = true → g.isMember guid = true)) ∨
      ∃ subGroup, (w.addMember id guid).2.groups = Function.update w.groups id (some (g.addSlot guid subGroup)) ∧
        g.insertStmts id guid = [.insertMember ⟨id, guid, false, subGroup⟩] ∧ g.isMember guid = false ∧ (w.addMember id guid).1 = true := by
  unfold addMember insertStmts
  rw [hg]
  dsimp only
  cases hopen : g.openSubGroup with
  | none => exact .inl ⟨rfl, rfl, fun h => by cases h⟩
  | some subGroup =>
    dsimp only
    by_cases hzero : guid = 0
    · rw [if_pos hzero, if_pos (.inl hzero)]
      exact .inl ⟨rfl, rfl, fun h => by cases h⟩
    by_cases hmember : g.isMember guid = true
    · rw [if_neg hzero, if_pos hmember, if_pos (.inr (.inl hmember))]
      exact .inl ⟨groups_tell _ _ _, rfl, fun _ => hmember⟩
    by_cases hfull : g.isFull = true
    · rw [if_neg hzero, if_neg hmember, if_pos hfull, if_pos (.inr (.inr hfull))]
      exact .inl ⟨rfl, rfl, fun h => by cases h⟩
    · rw [if_neg hzero, if_neg hmember, if_neg hfull, if_neg (by tauto)]
      exact .inr ⟨subGroup, groups_tell _ _ _, rfl, Bool.eq_false_iff.2 hmember, rfl⟩

theorem rows_addSlot (hbg : g.battleground = false) (hnew : g.isMember guid = false) (other : Nat) :
    rowsOf id other (some (g.addSlot guid subGroup)) =
      if other = guid then some ⟨id, guid, false, subGroup⟩ else (slotIn g.slots other).map (rowOf id) := by
  have hrows : rowsOf id other (some (g.addSlot guid subGroup)) = (slotIn (g.slots ++ [⟨guid, subGroup, false⟩]) other).map (rowOf id) := by
    unfold rowsOf
    dsimp only
    rw [show (g.addSlot guid subGroup).battleground = false from hbg]
    rfl
  rw [hrows, slotIn_append]
  by_cases ho : other = guid
  · have hnone : slotIn g.slots guid = none := by
      unfold isMember slot at hnew
      simpa [slotIn] using hnew
    simp [ho, hnone, rowOf]
  · have hne : ¬ guid = other := fun h => ho h.symm
    simp [ho, hne]

theorem follows_addMember (hw : w.Listed) (id guid : Nat) : Follows w [] (w.ops (.addMember id guid)) (w.step
    (.addMember id guid)) := by
  change Follows w [] (w.stored id fun g => (g.insertStmts id guid).map fun s => (false, [s])) (w.addMember id guid).2
  cases hg : w.groups id with
  | none =>
    rw [stored_none hg]
    apply follows_groups hw idle_nil
    unfold addMember
    rw [hg]
  | some g =>
    rw [stored_of hg]
    rcases addMember_rows hg guid with ⟨hsame, hnone, -⟩ | ⟨subGroup, hnext, hinsert, hnew, -⟩
    · rw [hnone]
      refine follows_groups hw ?_ hsame
      split_ifs
      · exact idle_nil
      · exact idle_nil
    · have hnodup : ∀ g' ∈ some (g.addSlot guid subGroup), (g'.slots.map MemberSlot.guid).Nodup := by
        intro g' hg'
        cases hg'
        exact nodup_addSlot (hw id g hg) hnew subGroup
      by_cases hbg : g.battleground = true
      · rw [if_pos hbg]
        refine ⟨?_, listed_update hw hnext hnodup⟩
        rw [foldl_nil, carryOut_idle idle_nil]
        refine (view_hidden ?_ hnext ?_).symm
        · intro g' hg'
          rw [hg] at hg'
          cases hg'
          exact hbg
        · intro g' hg'
          cases hg'
          exact hbg
      · have hstored : g.battleground = false := Bool.eq_false_iff.2 hbg
        rw [if_neg hbg, hinsert]
        apply follows_change hw hnext hnodup
        · exact groups_kept hg hstored hstored
        intro k
        change (if k = (id, guid) then some ((w.view.members k).getD _) else w.view.members k) = _
        by_cases hk : k.1 = id
        · obtain ⟨k1, k2⟩ := k
          subst hk
          rw [if_pos rfl, rows_addSlot hstored hnew, view_members hg hstored]
          by_cases hk2 : k2 = guid
          · subst hk2
            have hnone : slotIn g.slots k2 = none := by
              unfold isMember slot at hnew
              simpa [slotIn] using hnew
            simp [hnone]
          · have hne : (k1, k2) ≠ (k1, guid) := fun h => hk2 (congrArg Prod.snd h)
            rw [if_neg hne, if_neg hk2]
        · have hne : k ≠ (id, guid) := fun h => hk (congrArg Prod.fst h)
          rw [if_neg hk, if_neg hne]

theorem follows_create (hw : w.Listed) (id guid : Nat) (battleground : Bool) :
    Follows w (w.direct (.create id guid battleground)) (w.ops (.create id guid battleground)) (w.step (.create id guid battleground)) := by
  change Follows w (if (w.groups id).isSome = true ∨ battleground = true ∨ guid = 0 then []
      else [.deleteGroup id, .deleteMembersOf id, .insertGroup id] ++ (⟨false, false, [], none, guid, 0, 0⟩ : Group).insertStmts id guid)
    [] (if (w.groups id).isSome then w else (w.create id guid battleground).2)
  by_cases hsome : (w.groups id).isSome = true
  · rw [if_pos (.inl hsome), if_pos hsome]
    exact follows_groups hw idle_nil rfl
  rw [if_neg hsome]
  have hnone : w.groups id = none := by simpa using hsome
  unfold create
  dsimp only
  generalize hg0 : (if battleground = true then (⟨battleground, battleground, [], none, guid, 0, 0⟩ : Group).initRaidSubGroupsCounter
      else ⟨battleground, battleground, [], none, guid, 0, 0⟩) = g
  have hslots : g.slots = [] ∧ g.battleground = battleground := by
    rw [← hg0]
    split_ifs
    · exact ⟨rfl, rfl⟩
    · exact ⟨rfl, rfl⟩
  have hempty : g.isMember guid = false := by
    unfold isMember slot
    rw [hslots.1]
    rfl
  have hg : (w.setGroup id g).groups id = some g := update_self ..
  rcases addMember_rows hg guid with ⟨-, hinsert, hmember⟩ | ⟨subGroup, hnext, hinsert, hnew, hdone⟩
  · have hfail : ((w.setGroup id g).addMember id guid).1 = false := by
      rw [← Bool.not_eq_true]
      intro h
      have hin := hmember h
      rw [hempty] at hin
      cases hin
    have hdirect : (w.groups id).isSome = true ∨ battleground = true ∨ guid = 0 := by
      by_contra hcon
      obtain ⟨-, hbg, hzero⟩ := by simpa only [not_or] using hcon
      rw [if_neg hbg, Bool.eq_false_iff.2 hbg] at hg0
      rw [← hg0] at hinsert
      unfold insertStmts at hinsert
      simp [openSubGroup, isMember, slot, isFull, hzero] at hinsert
    rw [if_pos hdirect, hfail]
    exact follows_groups hw idle_nil rfl
  · have hgroups : (if ((w.setGroup id g).addMember id guid).1 = true then (true, ((w.setGroup id g).addMember id guid).2) else (false, w)).2.groups =
        update w.groups id (some (g.addSlot guid subGroup)) := by
      rw [if_pos hdone]
      exact hnext.trans (update_idem ..)
    have hnodup : ∀ g' ∈ some (g.addSlot guid subGroup), (g'.slots.map MemberSlot.guid).Nodup := by
      intro g' hg'
      cases hg'
      exact nodup_addSlot (by rw [hslots.1]; exact nodup_nil) hnew subGroup
    by_cases hbg : battleground = true
    · rw [if_pos (.inr (.inl hbg))]
      refine ⟨?_, listed_update hw hgroups hnodup⟩
      refine (view_hidden ?_ hgroups ?_).symm
      · intro g' hg'
        rw [hnone] at hg'
        cases hg'
      · intro g' hg'
        cases hg'
        exact hslots.2.trans hbg
    · have hstored : g.battleground = false := hslots.2.trans (Bool.eq_false_iff.2 hbg)
      have hzero : guid ≠ 0 := by
        intro h0
        unfold insertStmts at hinsert
        split at hinsert
        · cases hinsert
        · rw [if_pos (.inl h0)] at hinsert
          cases hinsert
      have hfirst : (⟨false, false, [], none, guid, 0, 0⟩ : Group) = g := by
        rw [← hg0, if_neg hbg, Bool.eq_false_iff.2 hbg]
      rw [if_neg (by simp [hnone, hbg, hzero]), hfirst, hinsert]
      apply follows_change hw hgroups hnodup
      · funext i
        change ((w.view.groups i && decide (i ≠ id)) || decide (i = id)) = _
        by_cases hi : i = id
        · subst hi
          rw [update_self]
          unfold storedGroup
          dsimp only
          rw [show (g.addSlot guid subGroup).battleground = false from hstored]
          simp
        · rw [update_of_ne hi]
          simp [hi]
      · intro k
        change (if k = (id, guid) then some ((if k.1 = id then none else w.view.members k).getD _)
          else if k.1 = id then none else w.view.members k) = _
        by_cases hk : k.1 = id
        · obtain ⟨k1, k2⟩ := k
          subst hk
          rw [if_pos rfl, if_pos rfl, rows_addSlot hstored hnew, hslots.1]
          by_cases hk2 : k2 = guid
          · subst hk2
            simp
          · have hne : (k1, k2) ≠ (k1, guid) := fun h => hk2 (congrArg Prod.snd h)
            rw [if_neg hne, if_neg hk2]
            rfl
        · have hne : k ≠ (id, guid) := fun h => hk (congrArg Prod.fst h)
          rw [if_neg hk, if_neg hne, if_neg hk]

theorem groups_disband : (w.disband id).groups = Function.update w.groups id none := by
  unfold disband
  cases hg : w.groups id with
  | none =>
    dsimp only
    rw [← hg, update_eq_self]
  | some g =>
    dsimp only
    rw [groups_leaveAll]

theorem follows_disband (hw : w.Listed) (id : Nat) : Follows w [] (Group.disbandOps id) (w.disband id) := by
  apply follows_change hw groups_disband (fun g h => by cases h)
  · funext i
    change (w.view.groups i && decide (i ≠ id)) = _
    by_cases hi : i = id
    · subst hi
      rw [update_self]
      simp [storedGroup]
    · rw [update_of_ne hi]
      simp [hi]
  · intro k
    rfl

theorem follows_disband_hidden (hw : w.Listed) (hg : ∀ g ∈ w.groups id, g.battleground = true) : Follows w [] []
    (w.disband id) := by
  refine ⟨(view_hidden hg groups_disband fun g h => by cases h).symm, listed_update hw groups_disband fun g h => by cases h⟩

theorem battleground_of (hg : w.groups id = some g) (hbg : g.battleground = true) :
    ∀ g' ∈ w.groups id, g'.battleground = true := by
  intro g' hg'
  rw [hg] at hg'
  cases hg'
  exact hbg

/-- An event that writes something into slots of a stored group, with the updates of their rows. -/
theorem follows_map (hw : w.Listed) (hg : w.groups id = some g)
    (hbg : g.battleground = false) (h : w'.groups = Function.update w.groups id (some g'))
    (hf : ∀ s, (f s).guid = s.guid) (hshape : g'.shape = (g.battleground, g.slots.map f))
    (hgroups : (w.view.carryOut ops).groups = w.view.groups)
    (hin : ∀ guid, (w.view.carryOut ops).members (id, guid) = ((slotIn g.slots guid).map f).map (rowOf id))
    (hout : ∀ k, k.1 ≠ id → (w.view.carryOut ops).members k = w.view.members k) : Follows w [] ops w' := by
  have hbg' : g'.battleground = false := (congrArg Prod.fst hshape).trans hbg
  have hslots : g'.slots = g.slots.map f := congrArg Prod.snd hshape
  apply follows_change hw h
  · intro g'' hg''
    cases hg''
    rw [hslots, map_map]
    have hsame : guid ∘ f = guid := funext hf
    rw [hsame]
    exact hw id g hg
  · rw [foldl_nil, hgroups]
    exact groups_kept hg hbg hbg'
  · intro k
    rw [foldl_nil]
    split_ifs with hk
    · obtain ⟨k1, k2⟩ := k
      subst hk
      rw [hin, ← slotIn_map hf]
      unfold rowsOf
      dsimp only
      rw [hbg', ← hslots]
      rfl
    · exact hout k hk

/-- The same for a battleground's group, which writes nothing. -/
theorem follows_hidden (hw : w.Listed) (hg : w.groups id = some g) (hbg : g.battleground = true)
    (h : w'.groups = Function.update w.groups id (some g')) (hbg' : g'.battleground = true)
    (hnodup : (g'.slots.map MemberSlot.guid).Nodup) : Follows w [] [] w' := by
  refine ⟨(view_hidden (battleground_of hg hbg) h ?_).symm, listed_update hw h ?_⟩
  · intro g'' hg''
    cases hg''
    exact hbg'
  · intro g'' hg''
    cases hg''
    exact hnodup

theorem follows_removeMember (hw : w.Listed) (halone : w.Alone (.removeMember id guid)) :
    Follows w [] (w.ops (.removeMember id guid)) (w.step (.removeMember id guid)) := by
  have hops : w.ops (.removeMember id guid) = w.stored id fun g =>
      if g.membersMinCount < g.slots.length then g.removeMemberOps id (w.tell guid fun p => p.leave g.battleground id).players guid
      else disbandOps id := rfl
  change Follows w [] (w.ops (.removeMember id guid)) (w.removeMember id guid)
  unfold removeMember
  cases hg : w.groups id with
  | none =>
    rw [hops, stored_none hg]
    exact follows_groups hw idle_nil rfl
  | some g =>
    rw [stored_of hg] at hops
    dsimp only
    split_ifs with hmin
    · set w₁ := w.tell guid fun p => p.leave g.battleground id with hw₁
      have hshape := g.shape_removeMember id w₁.players guid
      have hslots : (g.removeMember id w₁.players guid).slots = g.slots.eraseP fun t => t.guid = guid := congrArg Prod.snd hshape
      have hgroups : (w₁.setGroup id (g.removeMember id w₁.players guid)).groups =
          update w.groups id (some (g.removeMember id w₁.players guid)) := by
        change update w₁.groups id _ = _
        rw [hw₁, groups_tell]
      have hnodup : ((g.removeMember id w₁.players guid).slots.map MemberSlot.guid).Nodup := by
        rw [hslots]
        exact (hw id g hg).sublist (eraseP_sublist.map _)
      by_cases hbg : g.battleground = true
      · rw [hops, if_pos hbg]
        exact follows_hidden hw hg hbg hgroups ((congrArg Prod.fst hshape).trans hbg) hnodup
      have hstored : g.battleground = false := Bool.eq_false_iff.2 hbg
      have hbg' : (g.removeMember id w₁.players guid).battleground = false := (congrArg Prod.fst hshape).trans hstored
      rw [if_neg hbg, if_pos hmin] at hops
      have hothers : ∀ other, other ≠ id → w.view.members (other, guid) = none := by
        intro other hne
        have hin : (false, [deleteMember guid]) ∈ w.ops (.removeMember id guid) := by
          rw [hops]
          exact mem_cons_self
        exact halone _ hin _ mem_cons_self guid rfl other fun h => hne (Option.some.inj h).symm
      have hcarry : w.view.carryOut (w.ops (.removeMember id guid)) = w.view.act (.deleteMember guid) := by
        have hidle : Idle (w.ops (.removeMember id guid)).tail := by
          rw [hops]
          unfold removeMemberOps
          rw [tail_cons]
          split_ifs
          · exact idle_chooseLeader _ id _ false
          · exact idle_nil
        rw [hops] at hidle ⊢
        exact carryOut_idle hidle (w.view.act (.deleteMember guid))
      apply follows_change hw hgroups
      · intro g' hg'
        cases hg'
        exact hnodup
      · rw [foldl_nil, hcarry]
        exact groups_kept hg hstored hbg'
      intro k
      rw [foldl_nil, hcarry]
      change (if k.2 = guid then none else w.view.members k) = _
      obtain ⟨k1, k2⟩ := k
      by_cases hk : k1 = id
      · subst hk
        rw [if_pos rfl, view_members hg hstored]
        unfold rowsOf
        dsimp only
        rw [hbg']
        change _ = (slotIn (g.removeMember k1 w₁.players guid).slots k2).map (rowOf k1)
        rw [hslots, slotIn_erase (hw k1 g hg)]
        split_ifs <;> rfl
      · rw [if_neg hk]
        dsimp only
        split_ifs with hk2
        · rw [hk2, hothers k1 hk]
        · rfl
    · by_cases hbg : g.battleground = true
      · rw [hops, if_pos hbg]
        exact follows_disband_hidden hw (battleground_of hg hbg)
      · rw [hops, if_neg hbg, if_neg hmin]
        exact follows_disband hw id

def writeSlot (guid : Nat) (f : MemberSlot → MemberSlot) (s : MemberSlot) : MemberSlot := if s.guid = guid then f s else s

theorem writeSlot_guid (hf : ∀ s, (f s).guid = s.guid) (s : MemberSlot) : (writeSlot guid f s).guid = s.guid := by
  unfold writeSlot
  split_ifs
  · exact hf s
  · rfl

theorem update_row {slots : List MemberSlot} {other : Nat} (hu : ∀ s, u (rowOf id s) = rowOf id (f s)) :
    (if other = guid then ((slotIn slots other).map (rowOf id)).map u else (slotIn slots other).map (rowOf id)) =
      ((slotIn slots other).map (writeSlot guid f)).map (rowOf id) := by
  cases h : slotIn slots other with
  | none => simp
  | some s =>
    have hs : s.guid = other := slotIn_guid h
    unfold writeSlot
    by_cases ho : other = guid
    · simp [hs, ho, hu]
    · simp [hs, ho]

section

variable (hw : w.Listed)
include hw

/-- A member of a stored group gets another subgroup, or becomes an assistant or is one no longer. -/
theorem follows_write (hg : w.groups id = some g) (hbg : g.battleground = false)
    (h : w'.groups = Function.update w.groups id (some g'))
    (hf : ∀ s, (f s).guid = s.guid) (hu : ∀ s, u (rowOf id s) = rowOf id (f s))
    (hshape : g'.shape = (g.battleground, g.slots.map (writeSlot guid f))) {stmt : GroupStmt} (hstmt : ∀ v : GroupView,
      (v.act stmt).groups = v.groups ∧ ∀ k, (v.act stmt).members k = if k.2 = guid then (v.members k).map u else v.members k)
    (halone : ∀ other, other ≠ id → w.view.members (other, guid) = none) : Follows w [] [(false, [stmt])] w' := by
  obtain ⟨hgroups, hmembers⟩ := hstmt w.view
  have hcarry : w.view.carryOut [(false, [stmt])] = w.view.act stmt := rfl
  apply follows_map hw hg hbg h (writeSlot_guid hf) hshape
  · rw [hcarry, hgroups]
  · intro other
    rw [hcarry, hmembers, view_members hg hbg]
    exact update_row hu
  · intro k hk
    rw [hcarry, hmembers]
    split_ifs with hk2
    · rw [show k = (k.1, guid) from Prod.ext rfl hk2, halone k.1 hk]
      rfl
    · rfl

theorem follows_changeMembersGroup (halone : w.Alone (.changeMembersGroup id guid subGroup)) :
    Follows w [] (w.ops (.changeMembersGroup id guid subGroup)) (w.step (.changeMembersGroup id guid subGroup)) := by
  have hops : w.ops (.changeMembersGroup id guid subGroup) = w.stored id fun g =>
      if !g.raid ∨ 8 ≤ subGroup ∨ (g.subGroupsCounts.any fun counts => 5 ≤ counts subGroup) then []
      else if g.memberGroup guid = subGroup ∨ 8 ≤ g.memberGroup guid then [] else [(false, [.updateSubgroup guid subGroup])] := rfl
  change Follows w [] _ (w.changeMembersGroup id guid subGroup)
  unfold changeMembersGroup
  cases hg : w.groups id with
  | none =>
    rw [hops, stored_none hg]
    exact follows_groups hw idle_nil rfl
  | some g =>
    rw [stored_of hg] at hops
    dsimp only
    by_cases hguard : !g.raid ∨ 8 ≤ subGroup ∨ (g.subGroupsCounts.any fun counts => 5 ≤ counts subGroup)
    · rw [if_pos hguard, hops, if_pos hguard, ite_self]
      exact follows_groups hw idle_nil rfl
    rw [if_neg hguard] at hops ⊢
    by_cases hsame : g.memberGroup guid = subGroup ∨ 8 ≤ g.memberGroup guid
    · rw [if_pos hsame, hops, if_pos hsame, ite_self]
      exact follows_groups hw idle_nil rfl
    rw [if_neg hsame] at hops ⊢
    generalize (if (w.players guid).inWorld = true ∧ (w.players guid).group.group ≠ some id then (w.players guid).originalGroup.subGroup
      else g.memberGroup guid) = prevSubGroup
    set g' := (g.setMembersGroup guid subGroup).counterDecrease prevSubGroup with hg'
    have hgroups : ((w.setGroup id g').tell guid fun p => p.setSubGroup id subGroup).groups = update w.groups id (some g') :=
      groups_tell _ _ _
    have hshape : g'.shape = (g.battleground, g.slots.map (writeSlot guid fun s => { s with group := subGroup })) := rfl
    by_cases hbg : g.battleground = true
    · rw [hops, if_pos hbg]
      refine follows_hidden hw hg hbg hgroups hbg ?_
      rw [show g'.slots = setSlotGroup guid subGroup g.slots from rfl, setSlotGroup_guids]
      exact hw id g hg
    · rw [if_neg hbg] at hops
      rw [hops]
      refine follows_write hw hg (Bool.eq_false_iff.2 hbg) hgroups (f := fun s => { s with group := subGroup })
        (u := fun r => { r with subgroup := subGroup }) (fun _ => rfl) (fun _ => rfl) hshape (fun v => ⟨rfl, fun _ => rfl⟩) ?_
      intro other hne
      have hin : (false, [updateSubgroup guid subGroup]) ∈ w.ops (.changeMembersGroup id guid subGroup) := by
        rw [hops]
        exact mem_cons_self
      exact halone _ hin _ mem_cons_self guid rfl other fun h => hne (Option.some.inj h).symm

theorem follows_setAssistant {state : Bool} (halone : w.Alone (.setAssistant id guid state)) :
    Follows w [] (w.ops (.setAssistant id guid state)) (w.step (.setAssistant id guid state)) := by
  have hops : w.ops (.setAssistant id guid state) = w.stored id fun g =>
      if g.raid ∧ g.isMember guid then [(false, [.updateAssistant guid state])] else [] := rfl
  change Follows w [] _ (w.onGroup id fun g =>
    if g.raid then { g with slots := g.slots.map fun s => if s.guid = guid then { s with assistant := state } else s } else g)
  unfold onGroup
  cases hg : w.groups id with
  | none =>
    rw [hops, stored_none hg]
    exact follows_groups hw idle_nil rfl
  | some g =>
    rw [stored_of hg] at hops
    dsimp only
    split_ifs with hraid
    · set g' : Group := { g with slots := g.slots.map fun s => if s.guid = guid then { s with assistant := state } else s } with hg'
      have hgroups : (w.setGroup id g').groups = update w.groups id (some g') := rfl
      have hshape : g'.shape = (g.battleground, g.slots.map (writeSlot guid fun s => { s with assistant := state })) := rfl
      by_cases hbg : g.battleground = true
      · rw [hops, if_pos hbg]
        refine follows_hidden hw hg hbg hgroups hbg ?_
        have hguids : g'.slots.map MemberSlot.guid = g.slots.map MemberSlot.guid := by
          rw [show g'.slots = g.slots.map (writeSlot guid fun s => { s with assistant := state }) from rfl, map_map]
          exact map_congr_left fun s _ => writeSlot_guid (f := fun s => { s with assistant := state }) (fun _ => rfl) s
        rw [hguids]
        exact hw id g hg
      · rw [if_neg hbg] at hops
        by_cases hmember : g.isMember guid = true
        · rw [if_pos ⟨hraid, hmember⟩] at hops
          rw [hops]
          refine follows_write hw hg (Bool.eq_false_iff.2 hbg) hgroups (f := fun s => { s with assistant := state })
            (u := fun r => { r with assistant := state }) (fun _ => rfl) (fun _ => rfl) hshape (fun v => ⟨rfl, fun _ => rfl⟩) ?_
          intro other hne
          have hin : (false, [updateAssistant guid state]) ∈ w.ops (.setAssistant id guid state) := by
            rw [hops]
            exact mem_cons_self
          exact halone _ hin _ mem_cons_self guid rfl other fun h => hne (Option.some.inj h).symm
        · rw [if_neg fun h => hmember h.2] at hops
          rw [hops]
          -- nobody has that guid, and no slot is written
          have hsame : g.slots.map (writeSlot guid fun s => { s with assistant := state }) = g.slots := by
            refine (map_congr_left (g := fun s => s) ?_).trans (map_id' _)
            intro s hs
            exact if_neg fun heq => hmember (isMember_iff.2 ⟨s, hs, heq⟩)
          exact follows_shape hw idle_nil hg hgroups (hshape.trans (by rw [hsame]; rfl))
    · rw [hops]
      rw [if_neg fun h : g.raid = true ∧ g.isMember guid = true => hraid h.1, ite_self]
      refine follows_groups hw idle_nil ?_
      change update w.groups id (some g) = w.groups
      rw [← hg, update_eq_self]

theorem follows_swapMembersGroup {swapGuid : Nat} (halone : w.Alone (.swapMembersGroup id guid swapGuid)) :
    Follows w [] (w.ops (.swapMembersGroup id guid swapGuid)) (w.step (.swapMembersGroup id guid swapGuid)) := by
  have hops : w.ops (.swapMembersGroup id guid swapGuid) = w.stored id fun g =>
      if !g.raid ∨ g.memberGroup guid = g.memberGroup swapGuid ∨ 8 ≤ g.memberGroup guid ∨ 8 ≤ g.memberGroup swapGuid then []
      else [(false, [.updateSubgroup guid (g.memberGroup swapGuid)]), (false, [.updateSubgroup swapGuid (g.memberGroup guid)])] := rfl
  change Follows w [] _ (w.swapMembersGroup id guid swapGuid)
  unfold swapMembersGroup
  cases hg : w.groups id with
  | none =>
    rw [hops, stored_none hg]
    exact follows_groups hw idle_nil rfl
  | some g =>
    rw [stored_of hg] at hops
    dsimp only
    by_cases hguard : !g.raid ∨ g.memberGroup guid = g.memberGroup swapGuid ∨ 8 ≤ g.memberGroup guid ∨ 8 ≤ g.memberGroup swapGuid
    · rw [if_pos hguard, hops, if_pos hguard, ite_self]
      exact follows_groups hw idle_nil rfl
    rw [if_neg hguard] at hops ⊢
    set g' := g.swapMembersGroup guid swapGuid with hg'
    have hgroups : (((w.setGroup id g').tell guid fun p => p.setSubGroup id (g.memberGroup swapGuid)).tell swapGuid
        fun p => p.setSubGroup id (g.memberGroup guid)).groups = update w.groups id (some g') := by
      rw [groups_tell, groups_tell]
      rfl
    by_cases hbg : g.battleground = true
    · rw [hops, if_pos hbg]
      refine follows_hidden hw hg hbg hgroups hbg ?_
      rw [show g'.slots = setSlotGroup guid (g.memberGroup swapGuid) (setSlotGroup swapGuid (g.memberGroup guid) g.slots) from rfl,
        setSlotGroup_guids, setSlotGroup_guids]
      exact hw id g hg
    rw [if_neg hbg] at hops
    have hstored : g.battleground = false := Bool.eq_false_iff.2 hbg
    have hnamed : ∀ who ∈ [guid, swapGuid], ∀ other, other ≠ id → w.view.members (other, who) = none := by
      intro who hwho other hne
      have hin : ∃ s, s.named = some who ∧ (false, [s]) ∈ w.ops (.swapMembersGroup id guid swapGuid) := by
        rw [hops]
        rcases mem_cons.1 hwho with rfl | hwho
        · exact ⟨_, rfl, mem_cons_self⟩
        · rw [mem_singleton.1 hwho]
          exact ⟨_, rfl, mem_cons_of_mem _ mem_cons_self⟩
      obtain ⟨s, hs, hin⟩ := hin
      exact halone _ hin s mem_cons_self who hs other fun h => hne (Option.some.inj h).symm
    have hne : guid ≠ swapGuid := by
      rintro rfl
      exact hguard (.inr (.inl rfl))
    set first : MemberSlot → MemberSlot := fun s => { s with group := g.memberGroup swapGuid } with hfirst
    set second : MemberSlot → MemberSlot := fun s => { s with group := g.memberGroup guid } with hsecond
    have hguid : ∀ s, (writeSlot guid first (writeSlot swapGuid second s)).guid = s.guid := by
      intro s
      rw [writeSlot_guid (f := first) fun _ => rfl, writeSlot_guid (f := second) fun _ => rfl]
    have hshape : g'.shape = (g.battleground, g.slots.map fun s => writeSlot guid first (writeSlot swapGuid second s)) := by
      have hslots : g'.slots = (g.slots.map (writeSlot swapGuid second)).map (writeSlot guid first) := rfl
      rw [map_map] at hslots
      exact Prod.ext rfl hslots
    rw [hops]
    refine follows_map hw hg hstored hgroups hguid hshape rfl ?_ ?_
    · intro other
      change (if other = swapGuid then (if other = guid then (w.view.members (id, other)).map _ else w.view.members (id, other)).map _
        else if other = guid then (w.view.members (id, other)).map _ else w.view.members (id, other)) = _
      rw [view_members hg hstored]
      cases h : slotIn g.slots other with
      | none => simp
      | some s =>
        have hs : s.guid = other := slotIn_guid h
        unfold writeSlot
        by_cases h1 : other = guid
        · have h2 : ¬ guid = swapGuid := hne
          simp [hs, h1, h2, hfirst, rowOf]
        · by_cases h2 : other = swapGuid
          · have h3 : ¬ swapGuid = guid := fun heq => hne heq.symm
            simp [hs, h2, h3, hsecond, rowOf]
          · simp [hs, h1, h2]
    · intro k hk
      change (if k.2 = swapGuid then (if k.2 = guid then (w.view.members k).map _ else w.view.members k).map _
        else if k.2 = guid then (w.view.members k).map _ else w.view.members k) = _
      by_cases h1 : k.2 = guid
      · have hnone : w.view.members k = none := by
          rw [show k = (k.1, guid) from Prod.ext rfl h1]
          exact hnamed guid mem_cons_self k.1 hk
        rw [hnone]
        split_ifs <;> rfl
      · rw [if_neg h1]
        split_ifs with h2
        · have hnone : w.view.members k = none := by
            rw [show k = (k.1, swapGuid) from Prod.ext rfl h2]
            exact hnamed swapGuid (mem_cons_of_mem _ mem_cons_self) k.1 hk
          rw [hnone]
          rfl
        · rfl

theorem follows_office {f : Group → Group} {ops : Group → List (Bool × List GroupStmt)}
    (hshape : ∀ g, (f g).shape = g.shape) (hops : ∀ g, GroupView.Idle (ops g)) : Follows w [] (w.stored id ops) (w.onGroup id f) := by
  unfold onGroup
  cases hg : w.groups id with
  | none =>
    rw [stored_none hg]
    exact follows_groups hw idle_nil rfl
  | some g =>
    rw [stored_of hg]
    refine follows_shape hw ?_ hg rfl (hshape g)
    split_ifs
    · exact idle_nil
    · exact hops g

/-- The statements of an event lead from the rows as they should be to the rows as they should be. -/
theorem follows_step {e : GroupEvent} (halone : w.Alone e) : Follows w (w.direct e) (w.ops e) (w.step e) := by
  cases e with
  | create id guid battleground => exact follows_create hw id guid battleground
  | addMember id guid => exact follows_addMember hw id guid
  | removeMember id guid => exact follows_removeMember hw halone
  | disband id =>
    change Follows w [] (w.stored id fun _ => disbandOps id) (w.disband id)
    cases hg : w.groups id with
    | none =>
      rw [stored_none hg]
      have hsame : w.disband id = w := by
        unfold disband
        rw [hg]
      rw [hsame]
      exact follows_groups hw idle_nil rfl
    | some g =>
      rw [stored_of hg]
      split_ifs with hbg
      · exact follows_disband_hidden hw (battleground_of hg hbg)
      · exact follows_disband hw id
  | convertToRaid id =>
    refine follows_office hw (fun g => rfl) fun g => ?_
    simp [Idle]
  | changeMembersGroup id guid subGroup => exact follows_changeMembersGroup hw halone
  | swapMembersGroup id guid swapGuid => exact follows_swapMembersGroup hw halone
  | changeLeader id guid => exact follows_office hw (fun g => g.shape_setLeader guid) fun g => g.idle_setLeader id guid
  | leaderInactive id =>
    exact follows_office hw (fun g => g.shape_chooseLeader id w.players true) fun g => g.idle_chooseLeader id w.players true
  | setAssistant id guid state => exact follows_setAssistant hw halone
  | setMainTank id guid =>
    refine follows_office hw (fun g => ?_) fun g => ?_
    · split_ifs
      · exact g.shape_setMainTank guid
      · rfl
    · split_ifs
      · exact g.idle_main id guid _ _
      · exact idle_nil
  | setMainAssistant id guid =>
    refine follows_office hw (fun g => ?_) fun g => ?_
    · split_ifs
      · exact g.shape_setMainAssistant guid
      · rfl
    · split_ifs
      · exact g.idle_main id guid _ _
      · exact idle_nil
  | rejoinBattleground id guid =>
    refine follows_groups hw idle_nil ?_
    simp only [step]
    cases w.groups id with
    | none => rfl
    | some g =>
      dsimp only
      split_ifs
      · exact groups_tell _ _ _
      · rfl
  | login guid id => exact follows_groups hw idle_nil rfl
  | enterWorld guid => exact follows_groups hw idle_nil rfl
  | leaveWorld guid => exact follows_groups hw idle_nil rfl
  | logout guid => exact follows_groups hw idle_nil rfl

end

end GroupRealm

end ComfyCraft
