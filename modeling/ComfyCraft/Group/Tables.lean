import ComfyCraft.Database.Settle
import ComfyCraft.Group.Roster
import ComfyCraft.Lib.Rows

/-! The rows of the groups: what a group writes on each event, at once or through the queue, and what the
statements do to the tables. A deletion or an update of a member names the member only, whatever group the
row is of. Of a row of `groups` only its id is kept here; the columns that say more are left out. -/

namespace ComfyCraft

open Rows

structure GroupMemberRow where
  groupId : Nat
  memberGuid : Nat
  assistant : Bool
  subgroup : Nat
deriving DecidableEq

inductive GroupStmt
  | insertGroup (groupId : Nat)
  | deleteGroup (groupId : Nat)
  /-- An update of columns of `groups` that are left out. -/
  | updateGroup (groupId : Nat)
  | insertMember (row : GroupMemberRow)
  | deleteMembersOf (groupId : Nat)
  | deleteMember (memberGuid : Nat)
  | updateSubgroup (memberGuid subgroup : Nat)
  | updateAssistant (memberGuid : Nat) (assistant : Bool)
deriving DecidableEq

/-- `groups` and `group_member`. -/
structure GroupTables where
  groups : Rows Nat Nat id
  members : Rows GroupMemberRow (Nat × Nat) fun r => (r.groupId, r.memberGuid)

namespace GroupTables

def empty : GroupTables := ⟨Rows.empty, Rows.empty⟩

def execute (t : GroupTables) : GroupStmt → GroupTables
  | .insertGroup id => { t with groups := (t.groups.insert id).getD t.groups }
  | .deleteGroup id => { t with groups := t.groups.deleteWhere fun r => r = id }
  | .updateGroup _ => t
  | .insertMember row => { t with members := (t.members.insert row).getD t.members }
  | .deleteMembersOf id => { t with members := t.members.deleteWhere fun r => r.groupId = id }
  | .deleteMember guid => { t with members := t.members.deleteWhere fun r => r.memberGuid = guid }
  | .updateSubgroup guid subgroup =>
    { t with members := (t.members.updateWhere (fun r => r.memberGuid = guid) fun r => { r with subgroup := subgroup }).getD t.members }
  | .updateAssistant guid assistant =>
    { t with members := (t.members.updateWhere (fun r => r.memberGuid = guid) fun r => { r with assistant := assistant }).getD t.members }

end GroupTables

@[ext] structure GroupView where
  groups : Nat → Bool
  members : Nat × Nat → Option GroupMemberRow

namespace GroupView

def cell (k : Nat × Nat) (r : Option GroupMemberRow) : GroupStmt → Option GroupMemberRow
  | .insertGroup _ | .deleteGroup _ | .updateGroup _ => r
  | .insertMember row => if k = (row.groupId, row.memberGuid) then some (r.getD row) else r
  | .deleteMembersOf id => if k.1 = id then none else r
  | .deleteMember guid => if k.2 = guid then none else r
  | .updateSubgroup guid subgroup => if k.2 = guid then r.map fun r => { r with subgroup := subgroup } else r
  | .updateAssistant guid assistant => if k.2 = guid then r.map fun r => { r with assistant := assistant } else r

def present (id : Nat) (b : Bool) : GroupStmt → Bool
  | .insertGroup id' => b || id = id'
  | .deleteGroup id' => b && id ≠ id'
  | .updateGroup _ | .insertMember _ | .deleteMembersOf _ | .deleteMember _ | .updateSubgroup _ _ | .updateAssistant _ _ => b

def act (v : GroupView) (s : GroupStmt) : GroupView := ⟨fun id => present id (v.groups id) s, fun k => cell k (v.members k) s⟩

end GroupView

def GroupTables.view (t : GroupTables) : GroupView := ⟨fun id => (t.groups.lookup id).isSome, t.members.lookup⟩

namespace GroupTables

/-- A table's row is under its own key, so a statement does under each key what it says. -/
theorem view_execute (t : GroupTables) (s : GroupStmt) : (t.execute s).view = t.view.act s := by
  have hkey : ∀ {k : Nat × Nat} {r : GroupMemberRow}, t.members.lookup k = some r → (r.groupId, r.memberGuid) = k :=
    fun h => (lookup_eq_some.1 h).2
  have hdelete : ∀ (p : GroupMemberRow → Bool) (q : Nat × Nat → Prop) [DecidablePred q],
      (∀ r, p r = true ↔ q (r.groupId, r.memberGuid)) → ∀ k, (t.members.deleteWhere p).lookup k = if q k then none else t.members.lookup k := by
    intro p q _ hpq k
    rw [lookup_deleteWhere]
    cases h : t.members.lookup k with
    | none => simp
    | some r =>
      have hk := hpq r
      rw [hkey h] at hk
      by_cases hq : q k
      · simp [hq, hk.2 hq]
      have hp : p r = false := by
        rw [← Bool.not_eq_true, hk]
        exact hq
      simp [hq, hp]
  have hupdate : ∀ (guid : Nat) (f : GroupMemberRow → GroupMemberRow),
      (∀ r, (f r).groupId = r.groupId ∧ (f r).memberGuid = r.memberGuid) → ∀ k,
      ((t.members.updateWhere (fun r => r.memberGuid = guid) f).getD t.members).lookup k =
        if k.2 = guid then (t.members.lookup k).map f else t.members.lookup k := by
    intro guid f hf k
    rw [lookup_updateWhere fun r _ => by rw [(hf r).1, (hf r).2]]
    cases h : t.members.lookup k with
    | none => simp
    | some r =>
      have hk : r.memberGuid = k.2 := congrArg Prod.snd (hkey h)
      by_cases hg : k.2 = guid
      · simp [hk, hg]
      · simp [hk, hg]
  apply GroupView.ext
  · funext id
    cases s with
    | insertGroup id' =>
      change (((t.groups.insert id').getD t.groups).lookup id).isSome = ((t.groups.lookup id).isSome || decide (id = id'))
      rw [lookup_insert]
      by_cases hid : id = id' <;> simp [hid]
    | deleteGroup id' =>
      change ((t.groups.deleteWhere fun r => r = id').lookup id).isSome = ((t.groups.lookup id).isSome && decide (id ≠ id'))
      rw [lookup_deleteWhere]
      cases h : t.groups.lookup id with
      | none => simp
      | some r =>
        have hr : r = id := (lookup_eq_some.1 h).2
        by_cases hid : id = id' <;> simp [hr, hid]
    | updateGroup => rfl
    | insertMember => rfl
    | deleteMembersOf => rfl
    | deleteMember => rfl
    | updateSubgroup => rfl
    | updateAssistant => rfl
  · funext k
    cases s with
    | insertGroup => rfl
    | deleteGroup => rfl
    | updateGroup => rfl
    | insertMember row => exact lookup_insert t.members row k
    | deleteMembersOf id => exact hdelete _ (fun k => k.1 = id) (fun r => by simp) k
    | deleteMember guid => exact hdelete _ (fun k => k.2 = guid) (fun r => by simp) k
    | updateSubgroup guid subgroup => exact hupdate guid (fun r => { r with subgroup := subgroup }) (fun r => ⟨rfl, rfl⟩) k
    | updateAssistant guid assistant => exact hupdate guid (fun r => { r with assistant := assistant }) (fun r => ⟨rfl, rfl⟩) k

theorem view_foldl (t : GroupTables) (ss : List GroupStmt) : (ss.foldl execute t).view = ss.foldl GroupView.act t.view := by
  induction ss generalizing t with
  | nil => rfl
  | cons s ss ih => rw [List.foldl_cons, List.foldl_cons, ih, view_execute]

end GroupTables

namespace GroupStmt

/-- The two statements may be executed in either order. -/
def Commutes : GroupStmt → GroupStmt → Prop
  | insertGroup id, deleteGroup id' | deleteGroup id, insertGroup id' => id ≠ id'
  | insertMember row, insertMember row' => (row.groupId, row.memberGuid) = (row'.groupId, row'.memberGuid) → row = row'
  | insertMember row, deleteMembersOf id | deleteMembersOf id, insertMember row => row.groupId ≠ id
  | insertMember row, deleteMember guid | deleteMember guid, insertMember row => row.memberGuid ≠ guid
  | insertMember row, updateSubgroup guid subgroup | updateSubgroup guid subgroup, insertMember row =>
    row.memberGuid = guid → row.subgroup = subgroup
  | insertMember row, updateAssistant guid assistant | updateAssistant guid assistant, insertMember row =>
    row.memberGuid = guid → row.assistant = assistant
  | updateSubgroup guid subgroup, updateSubgroup guid' subgroup' => guid = guid' → subgroup = subgroup'
  | updateAssistant guid assistant, updateAssistant guid' assistant' => guid = guid' → assistant = assistant'
  | _, _ => True

instance Commutes.decide : DecidableRel Commutes := by
  intro s t
  unfold Commutes
  split <;> infer_instance

instance : Std.Symm Commutes where
  symm s t h := by
    cases s <;> cases t <;> first | exact h | exact h.symm | exact fun heq => (h heq.symm).symm

variable {s t : GroupStmt}

theorem Commutes.present (h : s.Commutes t) (id : Nat) (b : Bool) :
    GroupView.present id (GroupView.present id b s) t = GroupView.present id (GroupView.present id b t) s := by
  cases s <;> cases t <;> grind [GroupView.present, Commutes]

/-- A row that an update would leave as it is may be put in before or after it. -/
theorem insert_map {k : Nat × Nat} {row : GroupMemberRow} {guid : Nat} {f : GroupMemberRow → GroupMemberRow}
    (hf : row.memberGuid = guid → f row = row) (r : Option GroupMemberRow) :
    (if k.2 = guid then (if k = (row.groupId, row.memberGuid) then some (r.getD row) else r).map f
      else if k = (row.groupId, row.memberGuid) then some (r.getD row) else r) =
    if k = (row.groupId, row.memberGuid) then some ((if k.2 = guid then r.map f else r).getD row)
      else if k.2 = guid then r.map f else r := by
  by_cases hk : k = (row.groupId, row.memberGuid)
  · subst hk
    by_cases hg : row.memberGuid = guid
    · cases r with
      | none => simp [hg, hf hg]
      | some r => simp [hg]
    · simp [hg]
  · simp [hk]

theorem Commutes.cell (h : s.Commutes t) (k : Nat × Nat) (r : Option GroupMemberRow) :
    GroupView.cell k (GroupView.cell k r s) t = GroupView.cell k (GroupView.cell k r t) s := by
  have hsub : ∀ {row : GroupMemberRow} {guid subgroup : Nat}, (row.memberGuid = guid → row.subgroup = subgroup) →
      row.memberGuid = guid → ({ row with subgroup := subgroup } : GroupMemberRow) = row := fun h hg => by rw [← h hg]
  have hassist : ∀ {row : GroupMemberRow} {guid : Nat} {assistant : Bool}, (row.memberGuid = guid → row.assistant = assistant) →
      row.memberGuid = guid → ({ row with assistant := assistant } : GroupMemberRow) = row := fun h hg => by rw [← h hg]
  have hboth : ∀ (guid subgroup guid' : Nat) (assistant : Bool),
      GroupView.cell k (GroupView.cell k r (.updateSubgroup guid subgroup)) (.updateAssistant guid' assistant) =
        GroupView.cell k (GroupView.cell k r (.updateAssistant guid' assistant)) (.updateSubgroup guid subgroup) := by
    intro guid subgroup guid' assistant
    dsimp only [GroupView.cell]
    split_ifs <;> cases r <;> rfl
  cases s with
  | insertMember row =>
    cases t with
    | updateSubgroup guid subgroup => exact insert_map (hsub h) r
    | updateAssistant guid assistant => exact insert_map (hassist h) r
    | _ => grind [GroupView.cell, Commutes]
  | updateSubgroup guid subgroup =>
    cases t with
    | insertMember row => exact (insert_map (hsub h) r).symm
    | updateAssistant guid' assistant => exact hboth guid subgroup guid' assistant
    | _ => grind [GroupView.cell, Commutes]
  | updateAssistant guid assistant =>
    cases t with
    | insertMember row => exact (insert_map (hassist h) r).symm
    | updateSubgroup guid' subgroup => exact (hboth guid' subgroup guid assistant).symm
    | _ => grind [GroupView.cell, Commutes]
  | _ => cases t <;> grind [GroupView.cell, Commutes]

theorem Commutes.act (s t : GroupStmt) (h : s.Commutes t) (v : GroupView) : (v.act s).act t = (v.act t).act s :=
  GroupView.ext (funext fun id => h.present id _) (funext fun k => h.cell k _)

end GroupStmt

end ComfyCraft
