import ComfyCraft.Lib.Labels
import ComfyCraft.Housing.GroupEdits

/-! Groups of furniture. A group is nothing but a number on its pieces; that the classes it makes are a partition of the
pieces of a house, and that joining and leaving change exactly the classes they name, depends on a number being left for a
new group. -/

namespace ComfyCraft

open List HouseObject Labels Except

variable {om : ObjectMgr} {F : Type} {sv : Server F}

namespace HouseMgr

variable {s s' : HouseMgr sv}

/-- `GroupMembers` of one piece contains the other. -/
def Grouped (s : HouseMgr sv) (a b : UInt32) : Prop := ∃ o, s.objects.lookup a = some o ∧ b ∈ (s.groupMembers o).map HouseObject.guid

/-- A group joined with another: the two classes are one, and all else is as it was. -/
structure Merged (s s' : HouseMgr sv) (guid withGuid : UInt32) : Prop where
  classes : ∀ id house, s.getHouseById id = some house → ∀ a ∈ house.objects, ∀ b ∈ house.objects,
    (s'.Grouped a b ↔ s.Grouped a b ∨ (s.Grouped guid a ∨ s.Grouped withGuid a) ∧ (s.Grouped guid b ∨ s.Grouped withGuid b))
  others : ∀ x, ¬s.Grouped guid x → ¬s.Grouped withGuid x → s'.objects.lookup x = s.objects.lookup x
  houses : s'.houses = s.houses

/-- A piece that has left its group: it is alone, a group of one that is left has no number either, and all else is as it was. -/
structure Left (s s' : HouseMgr sv) (guid : UInt32) : Prop where
  classes : ∀ id house, s.getHouseById id = some house → ∀ a ∈ house.objects, ∀ b ∈ house.objects,
    (s'.Grouped a b ↔ a = b ∨ a ≠ guid ∧ b ≠ guid ∧ s.Grouped a b)
  alone : ∀ o, s'.objects.lookup guid = some o → o.groupNo = 0
  dissolved : ∀ x, s.Grouped guid x → (∀ y, s.Grouped guid y → y = guid ∨ y = x) → ∀ o, s'.objects.lookup x = some o → o.groupNo = 0
  others : ∀ x, x ≠ guid → (s.Grouped guid x → ∃ y, s.Grouped guid y ∧ y ≠ guid ∧ y ≠ x) →
    s'.objects.lookup x = s.objects.lookup x
  houses : s'.houses = s.houses

/-- Groups are a partition of the pieces of every house, which joining and leaving change as they should, and a new number
is on no piece. -/
structure GroupsPartition (s : HouseMgr sv) : Prop where
  equivalence : ∀ id house, s.getHouseById id = some house → Equivalence fun a b : { guid // guid ∈ house.objects } => s.Grouped a b
  join : ∀ p guid withGuid s', s.joinGroup p guid withGuid = (.ok (), s') → Merged s s' guid withGuid
  leave : ∀ p guid objectLabel s', s.leaveGroup p guid objectLabel = (.ok (), s') → Left s s' guid
  fresh : ∀ id house, s.getHouseById id = some house → ∀ o ∈ s.piecesOf house, o.groupNo ≠ s.allocateGroupNo house

def groupOf (s : HouseMgr sv) (guid : UInt32) : Option UInt32 :=
  (s.objects.lookup guid).bind fun o => if o.groupNo = 0 ∨ isHouseFabric o then none else some o.groupNo

variable {guid a b id : UInt32} {o : HouseObject F} {house : House F}

theorem groupOf_some {k : UInt32} :
    s.groupOf guid = some k ↔ ∃ o, s.objects.lookup guid = some o ∧ o.groupNo = k ∧ k ≠ 0 ∧ isHouseFabric o = false := by
  unfold groupOf
  rw [Option.bind_eq_some_iff]
  constructor
  · rintro ⟨o, ho, hk⟩
    split_ifs at hk with hnone
    obtain ⟨hzero, hfabric⟩ := not_or.1 hnone
    have hno : o.groupNo = k := Option.some.inj hk
    exact ⟨o, ho, hno, hno ▸ hzero, Bool.not_eq_true _ ▸ hfabric⟩
  · rintro ⟨o, ho, rfl, hzero, hfabric⟩
    refine ⟨o, ho, if_neg ?_⟩
    rw [hfabric]
    exact fun h => h.elim hzero (by simp)

section

variable (hs : s.Keyed) (ho : s.objects.lookup a = some o) (hhouse : s.getHouseById o.houseId = some house)
include hs ho hhouse

/-- The guids `GroupMembers` comes to. -/
theorem guids_groupMembers : (s.groupMembers o).map HouseObject.guid =
      a :: house.objects.filter fun guid => decide (guid ≠ a) && (s.groupOf a).isSome && decide (s.groupOf guid = s.groupOf a) := by
  have hguid : o.guid = a := hs.objects a o ho
  have hmembers : ∀ l : List UInt32, (l.filterMap fun guid =>
      (s.objects.lookup guid).filter fun m => m.groupNo = o.groupNo && !isHouseFabric m).map guid =
        l.filter fun guid => ((s.objects.lookup guid).filter fun m => m.groupNo = o.groupNo && !isHouseFabric m).isSome := by
    intro l
    induction l with
    | nil => rfl
    | cons guid l ih =>
      rw [filterMap_cons, filter_cons]
      cases hm : (s.objects.lookup guid).filter fun m => m.groupNo = o.groupNo && !isHouseFabric m with
      | none => exact ih
      | some m =>
        rw [Option.isSome_some, if_pos rfl, map_cons, ih, hs.objects guid m (Option.filter_eq_some_iff.1 hm).1]
  unfold groupMembers
  rw [hguid, ho]
  rw [map_cons, hguid, hhouse]
  dsimp only
  congr 1
  by_cases hnone : o.groupNo = 0 ∨ isHouseFabric o = true
  · have hgroup : s.groupOf a = none := by
      unfold groupOf
      rw [ho, Option.bind_some, if_pos hnone]
    rw [if_pos hnone, hgroup]
    simp
  · have hgroup : s.groupOf a = some o.groupNo := by
      unfold groupOf
      rw [ho, Option.bind_some, if_neg hnone]
    obtain ⟨hzero, -⟩ := not_or.1 hnone
    rw [if_neg hnone, hmembers, filter_filter, hgroup]
    refine filter_congr fun guid _ => ?_
    have hiff : ((s.objects.lookup guid).filter fun m => m.groupNo = o.groupNo && !isHouseFabric m).isSome = true ↔
        s.groupOf guid = some o.groupNo := by
      rw [groupOf_some, Option.isSome_iff_exists]
      simp only [Option.filter_eq_some_iff, Bool.and_eq_true, decide_eq_true_eq, Bool.not_eq_true']
      exact ⟨fun ⟨m, hm, hno, hf⟩ => ⟨m, hm, hno, hzero, hf⟩, fun ⟨m, hm, hno, _, hf⟩ => ⟨m, hm, hno, hf⟩⟩
    rw [Bool.eq_iff_iff]
    simp only [Bool.and_eq_true, hiff, decide_eq_true_eq, Option.isSome_some, and_true]
    exact And.comm

theorem grouped_iff : s.Grouped a b ↔ b = a ∨ b ∈ house.objects ∧ ∃ k, s.groupOf a = some k ∧ s.groupOf b = some k := by
  have hmem : b ∈ (s.groupMembers o).map guid ↔ b = a ∨ b ∈ house.objects ∧ ∃ k, s.groupOf a = some k ∧ s.groupOf b = some k := by
    rw [guids_groupMembers hs ho hhouse, mem_cons, mem_filter]
    simp only [Bool.and_eq_true, decide_eq_true_eq, Option.isSome_iff_exists]
    constructor
    · rintro (hba | ⟨hb, ⟨-, k, hk⟩, heq⟩)
      · exact .inl hba
      · exact .inr ⟨hb, k, hk, heq.trans hk⟩
    · rintro (hba | ⟨hb, k, hk, hk'⟩)
      · exact .inl hba
      by_cases hba : b = a
      · exact .inl hba
      · exact .inr ⟨hb, ⟨hba, k, hk⟩, hk'.trans hk.symm⟩
  unfold Grouped
  constructor
  · rintro ⟨o', ho', hb⟩
    rw [Option.some.inj (ho'.symm.trans ho)] at hb
    exact hmem.1 hb
  · exact fun h => ⟨o, ho, hmem.2 h⟩

end

theorem Orderly.piece (h : Orderly True s) (hhouse : s.getHouseById id = some house)
    (ha : a ∈ house.objects) : ∃ o, s.objects.lookup a = some o ∧ o.houseId = id :=
  (h.pieces trivial).listed id house.objects a (congrArg (Option.map House.objects) hhouse) ha

/-- Among the pieces of a house, being in one group is carrying one number. -/
theorem grouped_iff_same (h : Orderly True s) (hhouse : s.getHouseById id = some house)
    (ha : a ∈ house.objects) (hb : b ∈ house.objects) : s.Grouped a b ↔ Labels.Same s.groupOf a b := by
  obtain ⟨o, ho, rfl⟩ := h.piece hhouse ha
  rw [grouped_iff h.toKeyed ho hhouse]
  constructor
  · rintro (rfl | ⟨-, hk⟩)
    · exact .inl rfl
    · exact .inr hk
  · rintro (rfl | hk)
    · exact .inl rfl
    · exact .inr ⟨hb, hk⟩

theorem grouped_equivalence (h : Orderly True s) (hhouse : s.getHouseById id = some house) :
    Equivalence fun a b : { guid // guid ∈ house.objects } => s.Grouped a b := by
  have hiff : ∀ a b : { guid // guid ∈ house.objects }, s.Grouped a b ↔ Same s.groupOf a b := fun a b =>
    grouped_iff_same h hhouse a.2 b.2
  have hsame := same_equivalence s.groupOf
  exact ⟨fun a => (hiff a a).2 (hsame.refl _), fun {a b} hab => (hiff b a).2 (hsame.symm ((hiff a b).1 hab)),
    fun {a b c} hab hbc => (hiff a c).2 (hsame.trans ((hiff a b).1 hab) ((hiff b c).1 hbc))⟩

/-! Writing numbers. -/

theorem run_setGroupNo (no : UInt32) (guids : List UInt32) (s : HouseMgr sv) :
    (∀ x, (Runs.run (setGroupNo no) s guids).objects.lookup x =
      (s.objects.lookup x).map fun o => if x ∈ guids then { o with groupNo := no } else o) ∧
    (Runs.run (setGroupNo no) s guids).houses = s.houses := by
  induction guids generalizing s with
  | nil => exact ⟨fun x => by simp [Runs.run], rfl⟩
  | cons guid guids ih =>
    obtain ⟨hobjects, hhouses⟩ := ih (setGroupNo no s guid)
    have hhead : (∀ x, (setGroupNo no s guid).objects.lookup x =
        (s.objects.lookup x).map fun o => if x = guid then { o with groupNo := no } else o) ∧
        (setGroupNo no s guid).houses = s.houses := by
      unfold setGroupNo
      cases ho : s.objects.lookup guid with
      | none =>
        refine ⟨fun x => ?_, rfl⟩
        by_cases hx : x = guid
        · rw [hx, ho]
          rfl
        · simp [hx]
      | some o =>
        refine ⟨fun x => ?_, rfl⟩
        by_cases hx : x = guid
        · rw [hx, AList.lookup_insert, ho, Option.map_some, if_pos rfl]
        · simp [AList.lookup_insert_ne hx, hx]
    refine ⟨fun x => ?_, hhouses.trans hhead.2⟩
    have hstep : (Runs.run (setGroupNo no) s (guid :: guids)).objects.lookup x = _ := hobjects x
    rw [hstep, hhead.1 x, Option.map_map]
    congr 1
    funext o
    rw [Function.comp_apply]
    by_cases hx : x = guid <;> by_cases hxs : x ∈ guids <;> simp [hx, hxs, mem_cons]

def joinTarget (s : HouseMgr sv) (house : House F) (o with_ : HouseObject F) : UInt32 :=
  if 1 < (s.groupMembers with_).length then with_.groupNo
  else if 1 < (s.groupMembers o).length then o.groupNo
  else s.allocateGroupNo house

/-- What a join that is not refused has found and done. -/
structure Joins (s s' : HouseMgr sv) (p : Visitor F) (guid withGuid : UInt32) (house : House F) (o with_ : HouseObject F) : Prop where
  piece : s.resolve p guid = .ok (house, o)
  other : s.resolve p withGuid = .ok (house, with_)
  apart : ¬s.Grouped guid withGuid
  objects : ∀ x, s'.objects.lookup x = (s.objects.lookup x).map fun y =>
    if x ∈ (s.groupMembers o ++ s.groupMembers with_).map HouseObject.guid then { y with groupNo := s.joinTarget house o with_ } else y
  houses : s'.houses = s.houses

theorem joinGroup_ok (hs : s.Keyed) {p : Visitor F} {withGuid : UInt32} (h : s.joinGroup p guid withGuid = (.ok (), s')) :
    ∃ house o with_, Joins s s' p guid withGuid house o with_ := by
  unfold joinGroup at h
  split at h
  · cases h
  split at h
  · cases h
  next house' o ho =>
  split at h
  · cases h
  next house with_ hwith =>
  dsimp only at h
  obtain ⟨howner, hlookup, -, -⟩ := resolve_ok ho
  obtain ⟨howner', hlookup', -, -⟩ := resolve_ok hwith
  have hhouse : house' = house := ok.inj (howner.symm.trans howner')
  subst hhouse
  generalize htarget : (if 1 < (s.groupMembers with_).length then with_.groupNo
    else if 1 < (s.groupMembers o).length then o.groupNo else s.allocateGroupNo house') = target at h
  split_ifs at h with happart hroom
  · cases h
  · cases h
  obtain ⟨hobjects, hhouses⟩ := run_setGroupNo target
    (((s.groupMembers o ++ s.groupMembers with_).filter fun m => m.groupNo ≠ target).map HouseObject.guid) s
  cases h
  refine ⟨house', o, with_, ho, hwith, ?_, fun x => ?_, hhouses⟩
  · rintro ⟨o', ho', hmem⟩
    rw [Option.some.inj (ho'.symm.trans hlookup), ← hs.objects withGuid with_ hlookup'] at hmem
    exact happart hmem
  rw [hobjects]
  cases hx : s.objects.lookup x with
  | none => rfl
  | some y =>
    have hy : y.guid = x := hs.objects x y hx
    unfold joinTarget
    rw [htarget, Option.map_some, Option.map_some]
    by_cases hin : x ∈ (s.groupMembers o ++ s.groupMembers with_).map HouseObject.guid
    · -- a member that is not written has the number already
      by_cases hno : y.groupNo = target
      · have hsame : ({ y with groupNo := target } : HouseObject F) = y := by rw [← hno]
        rw [if_pos hin, hsame, ite_self]
      have hchange : x ∈ (((s.groupMembers o ++ s.groupMembers with_).filter fun m => m.groupNo ≠ target).map
          HouseObject.guid) := by
        obtain ⟨m, hm, hmx⟩ := mem_map.1 hin
        have hlook : s.objects.lookup m.guid = some m := by
          rcases mem_append.1 hm with hm | hm
          · exact mem_groupMembers hs hm
          · exact mem_groupMembers hs hm
        rw [hmx, hx] at hlook
        have heq : y = m := Option.some.inj hlook
        exact mem_map.2 ⟨y, mem_filter.2 ⟨heq ▸ hm, by simpa using hno⟩, hy⟩
      rw [if_pos hin, if_pos hchange]
    · have hchange : x ∉ (((s.groupMembers o ++ s.groupMembers with_).filter fun m => m.groupNo ≠ target).map
          HouseObject.guid) := by
        intro hmem
        obtain ⟨m, hm, hmx⟩ := mem_map.1 hmem
        exact hin (mem_map.2 ⟨m, (mem_filter.1 hm).1, hmx⟩)
      rw [if_neg hin, if_neg hchange]

/-- A piece whose group has another member carries its number. -/
theorem group_of_two (hs : s.Keyed) (ho : s.objects.lookup a = some o)
    (hhouse : s.getHouseById o.houseId = some house) (hlen : 1 < (s.groupMembers o).length) : s.groupOf a = some o.groupNo := by
  cases hk : s.groupOf a with
  | none =>
    have hguids := congrArg length (guids_groupMembers hs ho hhouse)
    rw [hk, length_map] at hguids
    simp only [Option.isSome_none, Bool.and_false, Bool.false_and, filter_false, length_cons, length_nil] at hguids
    omega
  | some k =>
    obtain ⟨o', ho', hno, -⟩ := groupOf_some.1 hk
    rw [← hno, Option.some.inj (ho.symm.trans ho')]

def highestGroupNo (s : HouseMgr sv) (house : House F) : UInt32 := highest ((s.piecesOf house).map HouseObject.groupNo)

def LAST_GROUP_NO : UInt32 := 0xFFFFFFFF

theorem allocateGroupNo_toNat (h : s.highestGroupNo house ≠ LAST_GROUP_NO) :
    (s.allocateGroupNo house).toNat = (s.highestGroupNo house).toNat + 1 := by
  have hlt := UInt32.toNat_lt_size (s.highestGroupNo house)
  have hne : (s.highestGroupNo house).toNat ≠ 4294967295 := fun he => h (UInt32.toNat_inj.1 he)
  change (s.highestGroupNo house).toNat < 4294967296 at hlt
  change (s.highestGroupNo house + 1).toNat = _
  rw [UInt32.toNat_add]
  exact Nat.mod_eq_of_lt (by change (s.highestGroupNo house).toNat + 1 < 2 ^ 32; omega)

theorem groupNo_ne_allocated (h : s.highestGroupNo house ≠ LAST_GROUP_NO) (ho : o ∈ s.piecesOf house) :
    o.groupNo ≠ s.allocateGroupNo house := by
  intro heq
  have hle : o.groupNo.toNat ≤ (s.highestGroupNo house).toNat := UInt32.le_iff_toNat_le.1 (le_highest (mem_map_of_mem ho))
  have hno := allocateGroupNo_toNat h
  rw [← heq] at hno
  omega

/-- Which numbers a join can give: the one of a group that is there, or a new one while there is one left. -/
def NumberLeft (s : HouseMgr sv) (house : House F) (o with_ : HouseObject F) : Prop :=
  1 < (s.groupMembers with_).length ∨ 1 < (s.groupMembers o).length ∨ s.highestGroupNo house ≠ LAST_GROUP_NO

section

variable {p : Visitor F} {guid withGuid : UInt32} {house : House F} {o with_ : HouseObject F}

def joined (s : HouseMgr sv) (guid withGuid : UInt32) : Set UInt32 := {x | s.Grouped guid x ∨ s.Grouped withGuid x}

theorem Joins.found (hs : s.Keyed) (hj : Joins s s' p guid withGuid house o with_) :
    s.getHouseById house.id = some house ∧ s.objects.lookup guid = some o ∧ o.houseId = house.id ∧ isHouseFabric o = false ∧
      s.objects.lookup withGuid = some with_ ∧ with_.houseId = house.id ∧ isHouseFabric with_ = false := by
  obtain ⟨howner, ho, hhome, hfabric⟩ := resolve_ok hj.piece
  obtain ⟨-, hwith, hhome', hfabric'⟩ := resolve_ok hj.other
  exact ⟨getHouseById_of_at hs (checkOwner_ok howner), ho, hhome, hfabric, hwith, hhome', hfabric'⟩

theorem Joins.mem_joined (hs : s.Keyed) (hj : Joins s s' p guid withGuid house o with_) (x : UInt32) :
    x ∈ (s.groupMembers o ++ s.groupMembers with_).map HouseObject.guid ↔ x ∈ joined s guid withGuid := by
  obtain ⟨-, ho, -, -, hwith, -, -⟩ := hj.found hs
  rw [map_append, mem_append]
  unfold joined Grouped
  constructor
  · rintro (hx | hx)
    · exact .inl ⟨o, ho, hx⟩
    · exact .inr ⟨with_, hwith, hx⟩
  · rintro (⟨o', ho', hx⟩ | ⟨o', ho', hx⟩)
    · exact .inl (Option.some.inj (ho'.symm.trans ho) ▸ hx)
    · exact .inr (Option.some.inj (ho'.symm.trans hwith) ▸ hx)

variable {x a : UInt32} {y : HouseObject F}

theorem Joins.lookup_joined (hs : s.Keyed) (hj : Joins s s' p guid withGuid house o with_) (hx : x ∈ joined s guid withGuid) :
    s'.objects.lookup x = (s.objects.lookup x).map fun y => { y with groupNo := s.joinTarget house o with_ } := by
  have hmem := (hj.mem_joined hs x).2 hx
  rw [hj.objects]
  simp only [hmem, if_true]

theorem Joins.lookup_others (hs : s.Keyed) (hj : Joins s s' p guid withGuid house o with_)
    (hx : x ∉ joined s guid withGuid) : s'.objects.lookup x = s.objects.lookup x := by
  have hmem : x ∉ (s.groupMembers o ++ s.groupMembers with_).map HouseObject.guid := fun hmem => hx ((hj.mem_joined hs x).1 hmem)
  rw [hj.objects]
  simp only [hmem, if_false, Option.map_id']

section

variable (h : Orderly True s)
include h

/-- A piece of a class is in the house that the class is in, and not fabric of it. -/
theorem member_at_home {g : UInt32} (hy : s.objects.lookup g = some y)
    (hhouse : s.getHouseById y.houseId = some house) (hfabric : isHouseFabric y = false) (hx : s.Grouped g x) :
    ∃ z, s.objects.lookup x = some z ∧ z.houseId = y.houseId ∧ isHouseFabric z = false := by
  rcases (grouped_iff h.toKeyed hy hhouse).1 hx with rfl | ⟨hmem, k, -, hk⟩
  · exact ⟨y, hy, rfl, hfabric⟩
  obtain ⟨z, hz, hhome⟩ := h.piece hhouse hmem
  obtain ⟨z', hz', -, -, hf⟩ := groupOf_some.1 hk
  rw [Option.some.inj (hz'.symm.trans hz)] at hf
  exact ⟨z, hz, hhome, hf⟩

theorem Joins.joined_home (hj : Joins s s' p guid withGuid house o with_)
    (hx : x ∈ joined s guid withGuid) : ∃ z, s.objects.lookup x = some z ∧ z.houseId = house.id ∧ isHouseFabric z = false := by
  obtain ⟨hhouse, ho, hhome, hfabric, hwith, hhome', hfabric'⟩ := hj.found h.toKeyed
  rcases hx with hx | hx
  · obtain ⟨z, hz, hzhome, hf⟩ := member_at_home h ho (hhome ▸ hhouse) hfabric hx
    exact ⟨z, hz, hzhome.trans hhome, hf⟩
  · obtain ⟨z, hz, hzhome, hf⟩ := member_at_home h hwith (hhome' ▸ hhouse) hfabric' hx
    exact ⟨z, hz, hzhome.trans hhome', hf⟩

theorem Joins.groupOf_joined (hj : Joins s s' p guid withGuid house o with_) (hx : x ∈ joined s guid withGuid) :
    s'.groupOf x = if s.joinTarget house o with_ = 0 then none else some (s.joinTarget house o with_) := by
  obtain ⟨z, hz, -, hf⟩ := hj.joined_home h hx
  unfold groupOf
  rw [hj.lookup_joined h.toKeyed hx, hz, Option.map_some, Option.bind_some]
  have hfabric : isHouseFabric { z with groupNo := s.joinTarget house o with_ } = false := hf
  simp only [hfabric, Bool.false_eq_true, or_false]

theorem Joins.groupOf_others (hj : Joins s s' p guid withGuid house o with_)
    (hx : x ∉ joined s guid withGuid) : s'.groupOf x = s.groupOf x := by
  unfold groupOf
  rw [hj.lookup_others h.toKeyed hx]

/-- The number the join gives is on no piece of the house that it does not join. -/
theorem Joins.target_free (hj : Joins s s' p guid withGuid house o with_) (hleft : NumberLeft s house o with_) :
    s.joinTarget house o with_ ≠ 0 ∧
      ∀ x ∈ house.objects, x ∉ joined s guid withGuid → s.groupOf x ≠ some (s.joinTarget house o with_) := by
  obtain ⟨hhouse, ho, hhome, -, hwith, hhome', -⟩ := hj.found h.toKeyed
  have hclass : ∀ {g : UInt32} {y : HouseObject F}, s.objects.lookup g = some y → y.houseId = house.id →
      1 < (s.groupMembers y).length → (∀ x, s.Grouped g x → x ∈ joined s guid withGuid) →
      y.groupNo ≠ 0 ∧ ∀ x ∈ house.objects, x ∉ joined s guid withGuid → s.groupOf x ≠ some y.groupNo := by
    intro g y hy hyhome hlen hin
    have hyhouse : s.getHouseById y.houseId = some house := hyhome ▸ hhouse
    have hk := group_of_two h.toKeyed hy hyhouse hlen
    obtain ⟨-, -, -, hzero, -⟩ := groupOf_some.1 hk
    exact ⟨hzero, fun x hx hout hsame => hout (hin x ((grouped_iff h.toKeyed hy hyhouse).2 (.inr ⟨hx, _, hk, hsame⟩)))⟩
  unfold joinTarget
  split_ifs with htheirs hmine
  · exact hclass hwith hhome' htheirs fun x hx => .inr hx
  · exact hclass ho hhome hmine fun x hx => .inl hx
  have hlast := (hleft.resolve_left htheirs).resolve_left hmine
  refine ⟨fun hzero => ?_, fun x hx _ hsame => ?_⟩
  · have hno := allocateGroupNo_toNat hlast
    rw [hzero] at hno
    cases hno
  · obtain ⟨z, hz, hno, -⟩ := groupOf_some.1 hsame
    exact groupNo_ne_allocated hlast (mem_filterMap.2 ⟨x, hx, hz⟩) hno

/-- What has to be shown of a join is only about its own house. -/
theorem Joins.merged_of (h' : Orderly True s') (hj : Joins s s' p guid withGuid house o with_)
    (hhome : ∀ a ∈ house.objects, ∀ b ∈ house.objects, (Labels.Same s'.groupOf a b ↔
      Labels.Same s.groupOf a b ∨ a ∈ joined s guid withGuid ∧ b ∈ joined s guid withGuid)) : Merged s s' guid withGuid where
  classes := by
    intro id other hother a ha b hb
    have hother' : s'.getHouseById id = some other := by
      unfold getHouseById at hother ⊢
      rw [hj.houses, hother]
    rw [grouped_iff_same h' hother' ha hb, grouped_iff_same h hother ha hb]
    by_cases hid : id = house.id
    · rw [hid, (hj.found h.toKeyed).1] at hother
      cases hother
      exact hhome a ha b hb
    -- the two classes are in another house
    have hout : ∀ x ∈ other.objects, x ∉ joined s guid withGuid := by
      intro x hx hmem
      obtain ⟨z, hz, hzhome, -⟩ := hj.joined_home h hmem
      obtain ⟨z', hz', hzhome'⟩ := h.piece hother hx
      rw [Option.some.inj (hz'.symm.trans hz)] at hzhome'
      exact hid (hzhome'.symm.trans hzhome)
    unfold Same
    rw [hj.groupOf_others h (hout a ha), hj.groupOf_others h (hout b hb)]
    exact ⟨.inl, fun hor => hor.resolve_right fun hboth => hout a ha hboth.1⟩
  others := fun x hx hx' => hj.lookup_others h.toKeyed fun hmem => hmem.elim hx hx'
  houses := hj.houses

theorem Joins.joined_whole (hj : Joins s s' p guid withGuid house o with_) {y : UInt32}
    (hy : y ∈ house.objects) (hxy : Labels.Same s.groupOf x y) (hx : x ∈ joined s guid withGuid) : y ∈ joined s guid withGuid := by
  obtain ⟨hhouse, ho, hhome, -, hwith, hhome', -⟩ := hj.found h.toKeyed
  rcases hxy with rfl | ⟨k, hkx, hky⟩
  · exact hx
  have hone : ∀ {g : UInt32} {z : HouseObject F}, s.objects.lookup g = some z → z.houseId = house.id →
      s.Grouped g x → s.Grouped g y := by
    intro g z hz hzhome hgx
    have hzhouse : s.getHouseById z.houseId = some house := hzhome ▸ hhouse
    rcases (grouped_iff h.toKeyed hz hzhouse).1 hgx with rfl | ⟨-, k', hkg, hkx'⟩
    · exact (grouped_iff h.toKeyed hz hzhouse).2 (.inr ⟨hy, k, hkx, hky⟩)
    · have hkk : k' = k := Option.some.inj (hkx'.symm.trans hkx)
      exact (grouped_iff h.toKeyed hz hzhouse).2 (.inr ⟨hy, k, hkk ▸ hkg, hky⟩)
  rcases hx with hx | hx
  · exact .inl (hone ho hhome hx)
  · exact .inr (hone hwith hhome' hx)

theorem Joins.merged (h' : Orderly True s') (hj : Joins s s' p guid withGuid house o with_)
    (hleft : NumberLeft s house o with_) : Merged s s' guid withGuid := by
  obtain ⟨hzero, hfree⟩ := hj.target_free h hleft
  refine hj.merged_of h h' fun a ha b hb => ?_
  refine same_merged (k := s.joinTarget house o with_) (fun x hx => ?_) (fun x hx => hj.groupOf_others h hx) (fun hsame => ?_)
    (hfree a ha) (hfree b hb)
  · rw [hj.groupOf_joined h hx, if_neg hzero]
  · exact ⟨hj.joined_whole h hb hsame, hj.joined_whole h ha ((same_equivalence s.groupOf).symm hsame)⟩

end

theorem grouped_self (hs : s.Keyed) (hy : s.objects.lookup a = some y) : s.Grouped a a := by
  refine ⟨y, hy, ?_⟩
  unfold groupMembers
  rw [hs.objects a y hy, hy]
  exact mem_cons.2 (.inl (hs.objects a y hy).symm)

theorem grouped_alone (hs : s.Keyed) (hy : s.objects.lookup a = some y)
    (hhouse : s.getHouseById y.houseId = some house) (hlen : ¬1 < (s.groupMembers y).length) (hx : s.Grouped a x) : x = a := by
  obtain ⟨y', hy', hmem⟩ := hx
  have hlength := congrArg length (guids_groupMembers hs hy hhouse)
  rw [length_map, length_cons] at hlength
  rw [Option.some.inj (hy'.symm.trans hy), guids_groupMembers hs hy hhouse] at hmem
  generalize (house.objects.filter fun g => decide (g ≠ a) && (s.groupOf a).isSome && decide (s.groupOf g = s.groupOf a)) = rest
    at hlength hmem
  have hrest : rest = [] := length_eq_zero_iff.1 (by omega)
  rw [hrest] at hmem
  exact mem_singleton.1 hmem

theorem joinTarget_zero (hleft : ¬NumberLeft s house o with_) : s.joinTarget house o with_ = 0 := by
  obtain ⟨htheirs, hrest⟩ := not_or.1 hleft
  obtain ⟨hmine, hlast⟩ := not_or.1 hrest
  unfold joinTarget
  rw [if_neg htheirs, if_neg hmine]
  change s.highestGroupNo house + 1 = 0
  rw [not_not.1 hlast]
  rfl

section

variable (h : Orderly True s) (h' : Orderly True s') (hj : Joins s s' p guid withGuid house o with_)
  (hleft : ¬NumberLeft s house o with_)
include h h' hj hleft

/-- A piece that its house does not list cannot be missed there. -/
theorem Joins.merged_unlisted (hunlisted : ¬(guid ∈ house.objects ∧ withGuid ∈ house.objects)) : Merged s s' guid withGuid := by
  obtain ⟨hhouse, ho, hhome, -, hwith, hhome', -⟩ := hj.found h.toKeyed
  obtain ⟨htheirs, hrest⟩ := not_or.1 hleft
  have halone : ∀ x ∈ joined s guid withGuid, x = guid ∨ x = withGuid := by
    rintro x (hx | hx)
    · exact .inl (grouped_alone h.toKeyed ho (hhome ▸ hhouse) (not_or.1 hrest).1 hx)
    · exact .inr (grouped_alone h.toKeyed hwith (hhome' ▸ hhouse) htheirs hx)
  have hone : ∀ a ∈ house.objects, ∀ b ∈ house.objects, a ∈ joined s guid withGuid → b ∈ joined s guid withGuid → a = b := by
    intro a ha b hb hja hjb
    rcases halone a hja with rfl | rfl <;> rcases halone b hjb with rfl | rfl
    · rfl
    · exact absurd ⟨ha, hb⟩ hunlisted
    · exact absurd ⟨hb, ha⟩ hunlisted
    · rfl
  refine hj.merged_of h h' fun a ha b hb => ?_
  have hin : ∀ x ∈ joined s guid withGuid, s'.groupOf x = none := by
    intro x hx
    rw [hj.groupOf_joined h hx, if_pos (joinTarget_zero hleft)]
  rw [same_released hin fun x hx => hj.groupOf_others h hx]
  constructor
  · rintro (rfl | ⟨-, -, hsame⟩)
    · exact .inl (.inl rfl)
    · exact .inl hsame
  · rintro (hsame | ⟨hja, hjb⟩)
    · by_cases hab : a = b
      · exact .inl hab
      refine .inr ⟨fun hja => hab ?_, fun hjb => hab ?_, hsame⟩
      · exact hone a ha b hb hja (hj.joined_whole h hb hsame hja)
      · exact hone a ha b hb (hj.joined_whole h ha ((same_equivalence s.groupOf).symm hsame) hjb) hjb
    · exact .inl (hone a ha b hb hja hjb)

/-- Two pieces that are alone, in a house that has used the last number, are not joined. -/
theorem Joins.not_merged (hguid : guid ∈ house.objects) (hwithGuid : withGuid ∈ house.objects) :
    ¬Merged s s' guid withGuid := by
  intro hmerged
  obtain ⟨hhouse, ho, -, -, hwith, -, -⟩ := hj.found h.toKeyed
  have hself := grouped_self h.toKeyed ho
  have hself' := grouped_self h.toKeyed hwith
  have hnone : s'.groupOf guid = none := by
    rw [hj.groupOf_joined h (.inl hself), if_pos (joinTarget_zero hleft)]
  have hhouse' : s'.getHouseById house.id = some house := by
    unfold getHouseById at hhouse ⊢
    rw [hj.houses, hhouse]
  have hgrouped := (hmerged.classes house.id house hhouse guid hguid withGuid hwithGuid).2 (.inr ⟨.inl hself, .inr hself'⟩)
  rcases (grouped_iff_same h' hhouse' hguid hwithGuid).1 hgrouped with heq | ⟨k, hk, -⟩
  · exact hj.apart (heq ▸ hself)
  · rw [hnone] at hk
    cases hk

end

end

variable {p : Visitor F} {guid : UInt32}

/-- Two pieces that are alone are joined, whatever number that gives them. -/
theorem joinGroup_alone (hs : s.Keyed) {withGuid : UInt32} {house : House F} {o with_ : HouseObject F}
    (ho : s.resolve p guid = .ok (house, o)) (hwith : s.resolve p withGuid = .ok (house, with_)) (hne : guid ≠ withGuid)
    (hmine : ¬1 < (s.groupMembers o).length) (htheirs : ¬1 < (s.groupMembers with_).length) :
    ∃ s', s.joinGroup p guid withGuid = (.ok (), s') := by
  obtain ⟨howner, hlookup, hhome, -⟩ := resolve_ok ho
  obtain ⟨-, hlookup', -, -⟩ := resolve_ok hwith
  have hhouse : s.getHouseById o.houseId = some house := hhome ▸ getHouseById_of_at hs (checkOwner_ok howner)
  have happart : with_.guid ∉ (s.groupMembers o).map HouseObject.guid := by
    intro hmem
    rw [hs.objects withGuid with_ hlookup'] at hmem
    exact hne (grouped_alone hs hlookup hhouse hmine ⟨o, hlookup, hmem⟩).symm
  have hroom : ¬HOUSE_GROUP_MAX < (s.groupMembers o).length + (s.groupMembers with_).length := by
    unfold HOUSE_GROUP_MAX
    omega
  unfold joinGroup
  rw [if_neg hne, ho, hwith]
  dsimp only
  rw [if_neg happart, if_neg hroom]
  exact ⟨_, rfl⟩

/-! Leaving. -/

def released (s : HouseMgr sv) (o : HouseObject F) : List UInt32 :=
  ((s.groupMembers o).take (if (s.groupMembers o).length = 2 then 2 else 1)).map HouseObject.guid

structure Leaves (s s' : HouseMgr sv) (p : Visitor F) (guid : UInt32) (house : House F) (o : HouseObject F) : Prop where
  piece : s.resolve p guid = .ok (house, o)
  two : 2 ≤ (s.groupMembers o).length
  objects : ∀ x, s'.objects.lookup x = (s.objects.lookup x).map fun y => if x ∈ s.released o then { y with groupNo := 0 } else y
  houses : s'.houses = s.houses

theorem leaveGroup_ok {objectLabel : UInt32 → String}
    (h : s.leaveGroup p guid objectLabel = (.ok (), s')) : ∃ house o, Leaves s s' p guid house o := by
  unfold leaveGroup at h
  split at h
  · cases h
  next house o ho =>
  by_cases htwo : (s.groupMembers o).length < 2
  · rw [if_pos htwo] at h
    cases h
  · rw [if_neg htwo] at h
    obtain ⟨hobjects, hhouses⟩ := run_setGroupNo 0 (s.released o) s
    cases h
    exact ⟨house, o, ho, Nat.le_of_not_lt htwo, hobjects, hhouses⟩

section

variable {p : Visitor F} {guid : UInt32} {house : House F} {o : HouseObject F}

variable {x : UInt32}

theorem Leaves.lookup_released (hl : Leaves s s' p guid house o) (hx : x ∈ s.released o) :
    s'.objects.lookup x = (s.objects.lookup x).map fun y => { y with groupNo := 0 } := by
  rw [hl.objects]
  simp only [hx, if_true]

theorem Leaves.lookup_others (hl : Leaves s s' p guid house o) (hx : x ∉ s.released o) :
    s'.objects.lookup x = s.objects.lookup x := by
  rw [hl.objects]
  simp only [hx, if_false, Option.map_id']

/-- The piece goes, and the last other one with it. -/
theorem Leaves.mem_released (h : Orderly True s) (hl : Leaves s s' p guid house o) (x : UInt32) :
    x ∈ s.released o ↔ x = guid ∨ s.Grouped guid x ∧ ∀ y, s.Grouped guid y → y = guid ∨ y = x := by
  obtain ⟨howner, ho, hhome, -⟩ := resolve_ok hl.piece
  have hhouse : s.getHouseById o.houseId = some house := hhome ▸ getHouseById_of_at h.toKeyed (checkOwner_ok howner)
  have hgrouped : ∀ y, s.Grouped guid y ↔ y ∈ (s.groupMembers o).map HouseObject.guid := by
    intro y
    constructor
    · rintro ⟨o', ho', hy⟩
      rwa [Option.some.inj (ho'.symm.trans ho)] at hy
    · exact fun hy => ⟨o, ho, hy⟩
  have htwo := hl.two
  have hguids := guids_groupMembers h.toKeyed ho hhouse
  have hlen := congrArg length hguids
  have hnodup : ((s.groupMembers o).map HouseObject.guid).Nodup := by
    rw [hguids, nodup_cons]
    refine ⟨fun hmem => ?_, ((h.pieces trivial).once o.houseId house.objects (congrArg (Option.map House.objects) hhouse)).filter _⟩
    simp only [mem_filter, ne_eq, not_true_eq_false, decide_false, Bool.false_and, Bool.false_eq_true, and_false] at hmem
  simp only [hgrouped]
  unfold released
  rw [map_take]
  generalize (house.objects.filter fun g => decide (g ≠ guid) && (s.groupOf guid).isSome && decide (s.groupOf g = s.groupOf guid)) =
    rest at hguids hlen
  rw [hguids] at hnodup
  rw [length_map, length_cons] at hlen
  rw [hguids]
  by_cases hpair : (s.groupMembers o).length = 2
  · rw [if_pos hpair]
    obtain ⟨z, rfl⟩ := length_eq_one_iff.1 (by omega : rest.length = 1)
    simp only [take_succ_cons, take_zero, mem_cons, not_mem_nil, or_false]
    constructor
    · rintro (rfl | rfl)
      · exact .inl rfl
      · exact .inr ⟨.inr rfl, fun y hy => hy⟩
    · rintro (rfl | ⟨hx, -⟩)
      · exact .inl rfl
      · exact hx
  · -- there are two others, so no class is left with one
    rw [if_neg hpair]
    obtain ⟨z, z', rest', rfl⟩ : ∃ z z' rest', rest = z :: z' :: rest' := by
      rcases rest with _ | ⟨z, _ | ⟨z', rest'⟩⟩
      · simp only [length_nil] at hlen
        omega
      · simp only [length_cons, length_nil] at hlen
        omega
      · exact ⟨z, z', rest', rfl⟩
    simp only [nodup_cons, mem_cons, not_or] at hnodup
    simp only [take_succ_cons, take_zero, mem_cons, not_mem_nil, or_false]
    constructor
    · exact .inl
    · rintro (rfl | ⟨-, hall⟩)
      · rfl
      rcases hall z (.inr (.inl rfl)) with hz | hz
      · exact absurd hz.symm hnodup.1.1
      rcases hall z' (.inr (.inr (.inl rfl))) with hz' | hz'
      · exact absurd hz'.symm hnodup.1.2.1
      · exact absurd (hz.trans hz'.symm) hnodup.2.1.1

theorem Leaves.left (h : Orderly True s) (h' : Orderly True s') (hl : Leaves s s' p guid house o) : Left s s' guid where
  classes := by
    intro id other hother a ha b hb
    have hother' : s'.getHouseById id = some other := by
      unfold getHouseById at hother ⊢
      rw [hl.houses, hother]
    have hin : ∀ x ∈ {x | x ∈ s.released o}, s'.groupOf x = none := by
      intro x hx
      unfold groupOf
      rw [hl.lookup_released hx]
      cases s.objects.lookup x <;> simp
    have hout : ∀ x ∉ {x | x ∈ s.released o}, s'.groupOf x = s.groupOf x := by
      intro x hx
      unfold groupOf
      rw [hl.lookup_others hx]
    rw [grouped_iff_same h' hother' ha hb, same_released hin hout, grouped_iff_same h hother ha hb]
    obtain ⟨howner, ho, hhome, -⟩ := resolve_ok hl.piece
    have hhouse : s.getHouseById o.houseId = some house := hhome ▸ getHouseById_of_at h.toKeyed (checkOwner_ok howner)
    -- the other one that is released with the piece is alone then
    have hlast : ∀ {x y : UInt32}, x ∈ other.objects → y ∈ other.objects → y ≠ guid → Same s.groupOf x y → x ≠ y → x ≠ guid →
        x ∉ s.released o := by
      intro x y hx hy hyg hsame hne hxg hmem
      rcases (hl.mem_released h x).1 hmem with heq | ⟨hgx, hall⟩
      · exact hxg heq
      rcases (grouped_iff h.toKeyed ho hhouse).1 hgx with heq | ⟨hxhouse, k, hk, hkx⟩
      · exact hxg heq
      obtain ⟨z, hz, hzhome⟩ := h.piece hhouse hxhouse
      obtain ⟨z', hz', hzhome'⟩ := h.piece hother hx
      rw [Option.some.inj (hz'.symm.trans hz)] at hzhome'
      have hid : o.houseId = id := hzhome.symm.trans hzhome'
      rw [← hid, hhouse] at hother
      cases hother
      rcases hsame with heq | ⟨k', hkx', hky⟩
      · exact hne heq
      have hkk : k' = k := Option.some.inj (hkx'.symm.trans hkx)
      rcases hall y ((grouped_iff h.toKeyed ho hhouse).2 (.inr ⟨hy, k, hk, hkk ▸ hky⟩)) with hyg' | hyx
      · exact hyg hyg'
      · exact hne hyx.symm
    constructor
    · rintro (heq | ⟨hra, hrb, hsame⟩)
      · exact .inl heq
      · exact .inr ⟨fun hag => hra ((hl.mem_released h a).2 (.inl hag)), fun hbg => hrb ((hl.mem_released h b).2 (.inl hbg)), hsame⟩
    · rintro (heq | ⟨hag, hbg, hsame⟩)
      · exact .inl heq
      by_cases hab : a = b
      · exact .inl hab
      · exact .inr ⟨hlast ha hb hbg hsame hab hag,
          hlast hb ha hag ((same_equivalence s.groupOf).symm hsame) (Ne.symm hab) hbg, hsame⟩
  alone := by
    intro y hy
    rw [hl.lookup_released ((hl.mem_released h guid).2 (.inl rfl))] at hy
    obtain ⟨-, -, rfl⟩ := Option.map_eq_some_iff.1 hy
    rfl
  dissolved := by
    intro x hx hall y hy
    rw [hl.lookup_released ((hl.mem_released h x).2 (.inr ⟨hx, hall⟩))] at hy
    obtain ⟨-, -, rfl⟩ := Option.map_eq_some_iff.1 hy
    rfl
  others := by
    intro x hx hthird
    refine hl.lookup_others fun hmem => ?_
    rcases (hl.mem_released h x).1 hmem with heq | ⟨hgx, hall⟩
    · exact hx heq
    · obtain ⟨y, hy, hyg, hyx⟩ := hthird hgx
      exact (hall y hy).elim hyg hyx
  houses := hl.houses

end

/-- A number is left wherever one is needed: for two pieces that can be joined, and so that 0 is not given out to a house
where pieces have none. -/
structure NumbersLeft (s : HouseMgr sv) : Prop where
  join : ∀ p guid withGuid house o with_, s.resolve p guid = .ok (house, o) → s.resolve p withGuid = .ok (house, with_) →
    guid ≠ withGuid → guid ∈ house.objects → withGuid ∈ house.objects → s.NumberLeft house o with_
  fresh : ∀ id house, s.getHouseById id = some house → s.highestGroupNo house = LAST_GROUP_NO →
    ∀ o ∈ s.piecesOf house, o.groupNo ≠ 0

theorem join_merges_iff (h : Orderly True s) :
    (∀ p guid withGuid s', s.joinGroup p guid withGuid = (.ok (), s') → Merged s s' guid withGuid) ↔
      ∀ p guid withGuid house o with_, s.resolve p guid = .ok (house, o) → s.resolve p withGuid = .ok (house, with_) →
        guid ≠ withGuid → guid ∈ house.objects → withGuid ∈ house.objects → s.NumberLeft house o with_ := by
  have horderly : ∀ {p guid withGuid s'}, s.joinGroup p guid withGuid = (.ok (), s') → Orderly True s' := by
    intro p guid withGuid s' hok
    have hmoves := moves_joinGroup (m := ⟨True, True, False, False⟩) trivial h.toKeyed p guid withGuid
    rw [hok] at hmoves
    exact h.moved hmoves
  constructor
  · intro hmerges p guid withGuid house o with_ ho hwith hne hguid hwithGuid
    by_contra hleft
    obtain ⟨htheirs, hrest⟩ := not_or.1 hleft
    obtain ⟨s', hok⟩ := joinGroup_alone h.toKeyed ho hwith hne (not_or.1 hrest).1 htheirs
    obtain ⟨house', o', with', hj⟩ := joinGroup_ok h.toKeyed hok
    have hsame := ok.inj (hj.piece.symm.trans ho)
    have hsame' := ok.inj (hj.other.symm.trans hwith)
    cases hsame
    cases hsame'
    exact hj.not_merged h (horderly hok) hleft hguid hwithGuid (hmerges p guid withGuid s' hok)
  · intro hleft p guid withGuid s' hok
    obtain ⟨house, o, with_, hj⟩ := joinGroup_ok h.toKeyed hok
    have hne : guid ≠ withGuid := by
      rintro rfl
      exact hj.apart (grouped_self h.toKeyed (hj.found h.toKeyed).2.1)
    by_cases hnumber : s.NumberLeft house o with_
    · exact hj.merged h (horderly hok) hnumber
    · exact hj.merged_unlisted h (horderly hok) hnumber fun hlisted =>
        hnumber (hleft p guid withGuid house o with_ hj.piece hj.other hne hlisted.1 hlisted.2)

theorem groups_partition_iff (h : Orderly True s) : GroupsPartition s ↔ NumbersLeft s := by
  have hfresh : (∀ id house, s.getHouseById id = some house → ∀ o ∈ s.piecesOf house, o.groupNo ≠ s.allocateGroupNo house) ↔
      ∀ id house, s.getHouseById id = some house → s.highestGroupNo house = LAST_GROUP_NO → ∀ o ∈ s.piecesOf house, o.groupNo ≠ 0 := by
    constructor
    · intro hnew id house hhouse hlast o ho hzero
      apply hnew id house hhouse o ho
      rw [hzero]
      change 0 = s.highestGroupNo house + 1
      rw [hlast]
      rfl
    · intro hzero id house hhouse o ho hsame
      by_cases hlast : s.highestGroupNo house = LAST_GROUP_NO
      · apply hzero id house hhouse hlast o ho
        rw [hsame]
        change s.highestGroupNo house + 1 = 0
        rw [hlast]
        rfl
      · exact groupNo_ne_allocated hlast ho hsame
  constructor
  · exact fun hp => ⟨(join_merges_iff h).1 hp.join, hfresh.1 hp.fresh⟩
  · intro hn
    refine ⟨fun id house hhouse => grouped_equivalence h hhouse, (join_merges_iff h).2 hn.join, fun p guid label s' hok => ?_,
      hfresh.2 hn.fresh⟩
    obtain ⟨house, o, hl⟩ := leaveGroup_ok hok
    have hmoves := moves_leaveGroup (m := ⟨True, True, False, False⟩) trivial h.toKeyed p guid label
    rw [hok] at hmoves
    exact hl.left h (h.moved hmoves)

/-- After a start on tables whose guids can be counted past, and whatever happened then, the groups are a partition that
joining and leaving change as they should exactly when a number is left wherever one is needed. -/
theorem groups_partition_run_iff {db : HouseTables sv} (hcountable : Countable db) (named : UInt32 → Bool)
    (shelves : List StorageRow) (es : List (HouseEvent om F)) :
    GroupsPartition (Runs.run step (start db named shelves) es) ↔ NumbersLeft (Runs.run step (start db named shelves) es) :=
  groups_partition_iff (run_orderly (fun _ => hcountable) named shelves es)

end HouseMgr

namespace HouseSample

open HouseMgr

def numberedObjects : Rows (HouseObject Int) UInt32 HouseObject.guid :=
  ⟨[{ piece 8000000 0 .player with groupNo := 4294967295 }, piece 8000001 0 .player, piece 8000002 0 .player], by decide⟩

def numberedDb : HouseTables server :=
  { mgr.db with
    house := ⟨[⟨1, 1, 1, 0, 0, noExit server⟩], by decide⟩
    houseObject := numberedObjects }

def numbered : HouseMgr server := start numberedDb (fun id => id = 1) []

theorem numberedDb_countable : Countable numberedDb := ⟨by decide, by decide⟩

theorem numbered_partition_iff : GroupsPartition (Runs.run step numbered [.request player owner (.join 8000000 8000001)]) ↔
      NumbersLeft (Runs.run step numbered [.request player owner (.join 8000000 8000001)]) :=
  groups_partition_run_iff numberedDb_countable _ [] _

def unjoined : HouseMgr server := (numbered.joinGroup owner 8000001 8000002).2

theorem unjoined_alone : ¬unjoined.Grouped 8000001 8000002 := by
  rintro ⟨o, ho, hmem⟩
  have hlookup : unjoined.objects.lookup 8000001 = some (piece 8000001 0 .player) := by rfl
  rw [hlookup] at ho
  cases ho
  exact absurd hmem (by decide +kernel)

/-- The join is not refused, and the two pieces are not in one group. -/
theorem numbered_not_partition : ¬GroupsPartition numbered := by
  intro h
  have hself : ∀ guid, guid = 8000001 ∨ guid = 8000002 → numbered.Grouped guid guid := by
    rintro guid (rfl | rfl)
    · exact ⟨piece 8000001 0 .player, rfl, by decide +kernel⟩
    · exact ⟨piece 8000002 0 .player, rfl, by decide +kernel⟩
  have hmerged := h.join owner 8000001 8000002 unjoined rfl
  exact unjoined_alone ((hmerged.classes 1 _ rfl 8000001 (by decide +kernel) 8000002 (by decide +kernel)).2
    (.inr ⟨.inl (hself _ (.inl rfl)), .inr (hself _ (.inr rfl))⟩))

end HouseSample

end ComfyCraft
