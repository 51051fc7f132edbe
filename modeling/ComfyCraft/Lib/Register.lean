import Mathlib.Data.List.Nodup
import Mathlib.Logic.Relation

/-! A register of things under keys that count up. Each thing is at home in one place, each place lists the keys of what
is at home in it, and a thing has a row that is written with it. An act adds, takes away or changes one thing, or opens
or closes a place; what one act keeps holds after any number of them. -/

@[ext] structure Register (K H V R : Type) where
  next : Nat
  things : K → Option V
  lists : H → Option (List K)
  rows : K → Option R

namespace Register

open List Function Option

variable {K H V R : Type}

def present (r : Register K H V R) (place : H) : List V := ((r.lists place).getD []).filterMap r.things

/-- What the things of a register are like: the number of a key, where a thing and a row are at home, what is true of a
thing that is new, and what a change leaves alone. -/
structure Kind (K H V R : Type) where
  number : K → Nat
  home : V → H
  rowHome : R → H
  made : Register K H V R → K → V → R → Prop
  kept : V → V → Prop
  made_home : ∀ r k v row, made r k v row → rowHome row = home v
  kept_refl : ∀ v, kept v v
  kept_trans : ∀ v v' v'', kept v v' → kept v' v'' → kept v v''
  kept_home : ∀ v v', kept v v' → home v' = home v

variable {κ : Kind K H V R} {r : Register K H V R}

/-- What a place lists is there and at home in it, once, and the counter is past every key. -/
structure Sound (κ : Kind K H V R) (r : Register K H V R) : Prop where
  listed : ∀ h l k, r.lists h = some l → k ∈ l → ∃ v, r.things k = some v ∧ κ.home v = h
  once : ∀ h l, r.lists h = some l → l.Nodup
  below : ∀ k v, r.things k = some v → κ.number k < r.next

variable {k : K} {v : V} {P : K → V → Prop}

theorem Sound.fresh (h : Sound κ r) (hnew : r.next ≤ κ.number k) : r.things k = none := by
  cases hk : r.things k with
  | none => rfl
  | some v => exact absurd (h.below k v hk) (Nat.not_lt.2 hnew)

theorem Sound.not_listed (h : Sound κ r) (hnone : r.things k = none) {place : H} {l : List K} (hl : r.lists place = some l) :
    k ∉ l := by
  intro hk
  obtain ⟨v, hv, -⟩ := h.listed place l k hl hk
  rw [hnone] at hv
  cases hv

variable [DecidableEq K] [DecidableEq H]

/-- A new thing; a row that is there already stays. -/
def add (r : Register K H V R) (place : H) (k : K) (v : V) (row : R) (next : Nat) : Register K H V R where
  next := next
  things := Function.update r.things k (some v)
  lists h := if h = place then (r.lists h).map (· ++ [k]) else r.lists h
  rows := Function.update r.rows k ((r.rows k).or (some row))

def remove (r : Register K H V R) (place : H) (k : K) : Register K H V R where
  next := r.next
  things := Function.update r.things k none
  lists h := if h = place then (r.lists h).map (List.filter (· ≠ k)) else r.lists h
  rows := Function.update r.rows k none

def edit (r : Register K H V R) (k : K) (v : V) (f : R → R) : Register K H V R :=
  { r with things := Function.update r.things k (some v), rows := Function.update r.rows k ((r.rows k).map f) }

def openAt (r : Register K H V R) (place : H) : Register K H V R := { r with lists := Function.update r.lists place (some []) }

def closeAt (r : Register K H V R) (place : H) : Register K H V R := { r with lists := Function.update r.lists place none }

/-- What can happen to a register. Where it is tidy, a thing is taken out of the list of the place it is at home in; where
it is strict, a place is opened only where there is none, and closed only when nothing is at home in it. -/
inductive Act (κ : Kind K H V R) (tidy strict : Prop) : Register K H V R → Register K H V R → Prop
  | spend {r : Register K H V R} {next : Nat} (hnext : r.next ≤ next) : Act κ tidy strict r { r with next := next }
  | add {r : Register K H V R} {k : K} {v : V} {row : R} {next : Nat} (hnew : r.next ≤ κ.number k) (hnext : κ.number k < next)
      (hmade : κ.made r k v row) (hplace : (r.lists (κ.home v)).isSome = true) : Act κ tidy strict r (r.add (κ.home v) k v row next)
  | remove {r : Register K H V R} {place : H} {k : K} {v : V} (hv : r.things k = some v) (hhome : tidy → κ.home v = place) :
      Act κ tidy strict r (r.remove place k)
  | edit {r : Register K H V R} {k : K} {v v' : V} {f : R → R} (hv : r.things k = some v) (hkept : κ.kept v v')
      (hrow : ∀ row, κ.rowHome (f row) = κ.rowHome row) : Act κ tidy strict r (r.edit k v' f)
  | openAt {r : Register K H V R} {place : H} (hnew : strict → r.lists place = none) : Act κ tidy strict r (r.openAt place)
  | closeAt {r : Register K H V R} {place : H} (hgone : strict → ∀ k v, r.things k = some v → κ.home v ≠ place) :
      Act κ tidy strict r (r.closeAt place)

/-- Any number of acts. -/
def Acts (κ : Kind K H V R) (tidy strict : Prop) : Register K H V R → Register K H V R → Prop := Relation.ReflTransGen (Act κ tidy strict)

variable {tidy strict : Prop} {r' r'' : Register K H V R}

theorem Acts.refl (r : Register K H V R) : Acts κ tidy strict r r := Relation.ReflTransGen.refl

theorem Acts.same (h : r' = r) : Acts κ tidy strict r r' := by
  rw [h]
  exact Acts.refl r

theorem Act.acts (h : Act κ tidy strict r r') : Acts κ tidy strict r r' := Relation.ReflTransGen.single h

theorem Acts.trans (h : Acts κ tidy strict r r')
    (h' : Acts κ tidy strict r' r'') : Acts κ tidy strict r r'' := Relation.ReflTransGen.trans h h'

theorem Acts.keeps {I : Register K H V R → Prop} (hstep : ∀ r r', I r → Act κ tidy strict r r' → I r')
    (h : Acts κ tidy strict r r') (hr : I r) :
    I r' := by
  induction h with
  | refl => exact hr
  | tail _ hact ih => exact hstep _ _ ih hact

/-! The lists. -/

theorem Sound.add (h : Sound κ r) {row : R} {next : Nat} (hnone : r.things k = none) (hnext : r.next ≤ next)
    (hk : κ.number k < next) : Sound κ (r.add (κ.home v) k v row next) where
  listed := by
    intro place l k' hl hk'
    have hold : ∀ l, r.lists place = some l → k' ∈ l → ∃ x, update r.things k (some v) k' = some x ∧ κ.home x = place := by
      intro l hl hk'
      obtain ⟨x, hx, hhome⟩ := h.listed place l k' hl hk'
      have hne : k' ≠ k := fun he => h.not_listed hnone hl (he ▸ hk')
      exact ⟨x, by rw [update_of_ne hne, hx], hhome⟩
    simp only [Register.add] at hl ⊢
    split_ifs at hl with hplace
    · obtain ⟨old, hlist, rfl⟩ := map_eq_some_iff.1 hl
      rcases mem_append.1 hk' with hmem | hlast
      · exact hold old hlist hmem
      · rw [mem_singleton.1 hlast, update_self]
        exact ⟨v, rfl, hplace.symm⟩
    · exact hold l hl hk'
  once := by
    intro place l hl
    simp only [Register.add] at hl
    split_ifs at hl with hplace
    · obtain ⟨old, hlist, rfl⟩ := map_eq_some_iff.1 hl
      exact nodup_append.2 ⟨h.once place old hlist, nodup_singleton k,
        fun a ha b hb he => h.not_listed hnone hlist (mem_singleton.1 hb ▸ he ▸ ha)⟩
    · exact h.once place l hl
  below := by
    intro k' x hx
    simp only [Register.add] at hx ⊢
    by_cases hkk : k' = k
    · rw [hkk]
      exact hk
    · rw [update_of_ne hkk] at hx
      exact Nat.lt_of_lt_of_le (h.below k' x hx) hnext

theorem Sound.remove (h : Sound κ r) (hv : r.things k = some v) : Sound κ (r.remove (κ.home v) k) where
  listed := by
    intro place l k' hl hk'
    simp only [Register.remove] at hl ⊢
    split_ifs at hl with hplace
    · obtain ⟨old, hlist, rfl⟩ := map_eq_some_iff.1 hl
      obtain ⟨hmem, hne⟩ := mem_filter.1 hk'
      rw [update_of_ne (of_decide_eq_true hne)]
      exact h.listed place old k' hlist hmem
    · obtain ⟨x, hx, hhome⟩ := h.listed place l k' hl hk'
      have hne : k' ≠ k := by
        rintro rfl
        rw [hv] at hx
        exact hplace (hhome.symm.trans (congrArg κ.home (some.inj hx.symm)))
      rw [update_of_ne hne]
      exact ⟨x, hx, hhome⟩
  once := by
    intro place l hl
    simp only [Register.remove] at hl
    split_ifs at hl with hplace
    · obtain ⟨old, hlist, rfl⟩ := map_eq_some_iff.1 hl
      exact (h.once place old hlist).filter _
    · exact h.once place l hl
  below := by
    intro k' x hx
    simp only [Register.remove] at hx
    by_cases hkk : k' = k
    · rw [hkk, update_self] at hx
      cases hx
    · rw [update_of_ne hkk] at hx
      exact h.below k' x hx

omit [DecidableEq H] in
theorem Sound.edit (h : Sound κ r) {v' : V} {f : R → R} (hv : r.things k = some v) (hhome : κ.home v' = κ.home v) :
    Sound κ (r.edit k v' f) where
  listed := by
    intro place l k' hl hk'
    obtain ⟨x, hx, hplace⟩ := h.listed place l k' hl hk'
    simp only [Register.edit]
    by_cases hkk : k' = k
    · rw [hkk, hv] at hx
      rw [hkk, update_self]
      refine ⟨v', rfl, ?_⟩
      rw [hhome, some.inj hx, hplace]
    · rw [update_of_ne hkk]
      exact ⟨x, hx, hplace⟩
  once := h.once
  below := by
    intro k' x hx
    simp only [Register.edit] at hx ⊢
    by_cases hkk : k' = k
    · rw [hkk]
      exact h.below k v hv
    · rw [update_of_ne hkk] at hx
      exact h.below k' x hx

omit [DecidableEq K] in
theorem Sound.openAt (h : Sound κ r) (place : H) : Sound κ (r.openAt place) where
  listed := by
    intro place' l k hl hk
    simp only [Register.openAt] at hl ⊢
    by_cases hp : place' = place
    · rw [hp, update_self] at hl
      rw [← some.inj hl] at hk
      cases hk
    · rw [update_of_ne hp] at hl
      exact h.listed place' l k hl hk
  once := by
    intro place' l hl
    simp only [Register.openAt] at hl
    by_cases hp : place' = place
    · rw [hp, update_self] at hl
      rw [← some.inj hl]
      exact nodup_nil
    · rw [update_of_ne hp] at hl
      exact h.once place' l hl
  below := h.below

omit [DecidableEq K] in
theorem Sound.closeAt (h : Sound κ r) (place : H) : Sound κ (r.closeAt place) := by
  have hlists : ∀ place' l, (r.closeAt place).lists place' = some l → r.lists place' = some l := by
    intro place' l hl
    simp only [Register.closeAt] at hl
    by_cases hp : place' = place
    · rw [hp, update_self] at hl
      cases hl
    · rwa [update_of_ne hp] at hl
  exact ⟨fun place' l k hl hk => h.listed place' l k (hlists place' l hl) hk, fun place' l hl => h.once place' l (hlists place' l hl),
    h.below⟩

theorem Act.sound (htidy : tidy) (h : Act κ tidy strict r r') (hr : Sound κ r) : Sound κ r' := by
  cases h with
  | spend hnext => exact ⟨hr.listed, hr.once, fun k v hv => Nat.lt_of_lt_of_le (hr.below k v hv) hnext⟩
  | add hnew hnext => exact hr.add (hr.fresh hnew) (Nat.le_trans hnew (Nat.le_of_lt hnext)) hnext
  | remove hv hhome => exact hhome htidy ▸ hr.remove hv
  | edit hv hkept => exact hr.edit hv (κ.kept_home _ _ hkept)
  | openAt => exact hr.openAt _
  | closeAt => exact hr.closeAt _

theorem Acts.sound (htidy : tidy) (h : Acts κ tidy strict r r') (hr : Sound κ r) : Sound κ r' :=
  h.keeps (fun _ _ hr hact => hact.sound htidy hr) hr

/-! What is true of every thing. -/

section

variable (hmade : ∀ r k v row, (∀ k v, r.things k = some v → P k v) → κ.made r k v row → P k v)
  (hkept : ∀ k v v', κ.kept v v' → P k v → P k v')
include hmade hkept

theorem Act.each (h : Act κ tidy strict r r') (hr : ∀ k v, r.things k = some v → P k v) :
    ∀ k v, r'.things k = some v → P k v := by
  intro k x hx
  cases h with
  | spend => exact hr k x hx
  | @add k' v row next hnew hnext hm =>
    simp only [Register.add] at hx
    by_cases hkk : k = k'
    · rw [hkk, update_self] at hx
      rw [hkk, ← some.inj hx]
      exact hmade _ k' v row hr hm
    · rw [update_of_ne hkk] at hx
      exact hr k x hx
  | @remove place k' v hv =>
    simp only [Register.remove] at hx
    by_cases hkk : k = k'
    · rw [hkk, update_self] at hx
      cases hx
    · rw [update_of_ne hkk] at hx
      exact hr k x hx
  | @edit k' v v' f hv hk =>
    simp only [Register.edit] at hx
    by_cases hkk : k = k'
    · rw [hkk, update_self] at hx
      rw [hkk, ← some.inj hx]
      exact hkept k' v v' hk (hr k' v hv)
    · rw [update_of_ne hkk] at hx
      exact hr k x hx
  | openAt => exact hr k x hx
  | closeAt => exact hr k x hx

theorem Acts.each (h : Acts κ tidy strict r r') (hr : ∀ k v, r.things k = some v → P k v) :
    ∀ k v, r'.things k = some v → P k v :=
  h.keeps (I := fun r => ∀ k v, r.things k = some v → P k v) (fun _ _ hr hact => hact.each hmade hkept hr) hr

end

/-! What lasts. -/

/-- The counter does not go back, and what is under a number from before was there before and is the same. -/
structure Lasts (κ : Kind K H V R) (r r' : Register K H V R) : Prop where
  next : r.next ≤ r'.next
  things : ∀ k v', κ.number k < r.next → r'.things k = some v' → ∃ v, r.things k = some v ∧ κ.kept v v'

theorem Act.lasts (h : Act κ tidy strict r r') : Lasts κ r r' := by
  have hsame : ∀ k v', r.things k = some v' → ∃ v, r.things k = some v ∧ κ.kept v v' := fun k v' hv => ⟨v', hv, κ.kept_refl v'⟩
  cases h with
  | spend hnext => exact ⟨hnext, fun k v' _ => hsame k v'⟩
  | @add k' v row next hnew hnext =>
    refine ⟨Nat.le_trans hnew (Nat.le_of_lt hnext), fun k v' hk hv => hsame k v' ?_⟩
    have hne : k ≠ k' := fun he => Nat.not_lt.2 hnew (he ▸ hk)
    simp only [Register.add] at hv
    rwa [update_of_ne hne] at hv
  | @remove place k' =>
    refine ⟨Nat.le_refl _, fun k v' _ hv => hsame k v' ?_⟩
    simp only [Register.remove] at hv
    by_cases hkk : k = k'
    · rw [hkk, update_self] at hv
      cases hv
    · rwa [update_of_ne hkk] at hv
  | @edit k' v v' f hv hk =>
    refine ⟨Nat.le_refl _, fun k x _ hx => ?_⟩
    simp only [Register.edit] at hx
    by_cases hkk : k = k'
    · rw [hkk, update_self] at hx
      exact ⟨v, hkk ▸ hv, some.inj hx ▸ hk⟩
    · rw [update_of_ne hkk] at hx
      exact hsame k x hx
  | openAt => exact ⟨Nat.le_refl _, fun k v' _ => hsame k v'⟩
  | closeAt => exact ⟨Nat.le_refl _, fun k v' _ => hsame k v'⟩

theorem Acts.lasts (h : Acts κ tidy strict r r') : Lasts κ r r' := by
  refine h.keeps (fun s s' hs hact => ?_) ⟨Nat.le_refl _, fun k v hk hv => ⟨v, hv, κ.kept_refl v⟩⟩
  have hlast := hact.lasts
  refine ⟨Nat.le_trans hs.next hlast.next, fun k v'' hk hv => ?_⟩
  obtain ⟨v', hv', hkept'⟩ := hlast.things k v'' (Nat.lt_of_lt_of_le hk hs.next) hv
  obtain ⟨v, hv, hkept⟩ := hs.things k v' hk hv'
  exact ⟨v, hv, κ.kept_trans _ _ _ hkept hkept'⟩

/-! The rows. -/

/-- Everything has a row. -/
def Rowed (r : Register K H V R) : Prop := ∀ k, (r.things k).isSome = true → (r.rows k).isSome = true

theorem Act.rowed (h : Act κ tidy strict r r') (hr : r.Rowed) : r'.Rowed := by
  intro k hk
  cases h with
  | spend => exact hr k hk
  | @add k' =>
    simp only [Register.add] at hk ⊢
    by_cases hkk : k = k'
    · rw [hkk, update_self, isSome_or, isSome_some, Bool.or_true]
    · rw [update_of_ne hkk] at hk ⊢
      exact hr k hk
  | @remove place k' =>
    simp only [Register.remove] at hk ⊢
    by_cases hkk : k = k'
    · rw [hkk, update_self] at hk
      cases hk
    · rw [update_of_ne hkk] at hk ⊢
      exact hr k hk
  | @edit k' v v' f hv =>
    simp only [Register.edit] at hk ⊢
    by_cases hkk : k = k'
    · rw [hkk, update_self, isSome_map]
      exact hr k' (by rw [hv]; rfl)
    · rw [update_of_ne hkk] at hk ⊢
      exact hr k hk
  | openAt => exact hr k hk
  | closeAt => exact hr k hk

theorem Acts.rowed (h : Acts κ tidy strict r r') (hr : r.Rowed) : r'.Rowed := h.keeps (fun _ _ hr hact => hact.rowed hr) hr

/-- A test that every new key passes holds of the keys of all rows. -/
theorem Act.rowKeys {P : K → Prop} (hmade : ∀ r k v row, κ.made r k v row → P k) (h : Act κ tidy strict r r')
    (hr : ∀ k, (r.rows k).isSome = true → P k) : ∀ k, (r'.rows k).isSome = true → P k := by
  intro k hk
  cases h with
  | spend => exact hr k hk
  | @add k' v row next hnew hnext hm =>
    by_cases hkk : k = k'
    · exact hkk ▸ hmade _ k' v row hm
    · simp only [Register.add, update_of_ne hkk] at hk
      exact hr k hk
  | @remove place k' =>
    simp only [Register.remove] at hk
    by_cases hkk : k = k'
    · rw [hkk, update_self] at hk
      cases hk
    · rw [update_of_ne hkk] at hk
      exact hr k hk
  | @edit k' =>
    simp only [Register.edit] at hk
    by_cases hkk : k = k'
    · rw [hkk, update_self, isSome_map] at hk
      exact hr k (hkk ▸ hk)
    · rw [update_of_ne hkk] at hk
      exact hr k hk
  | openAt => exact hr k hk
  | closeAt => exact hr k hk

theorem Acts.rowKeys {P : K → Prop} (hmade : ∀ r k v row, κ.made r k v row → P k) (h : Acts κ tidy strict r r')
    (hr : ∀ k, (r.rows k).isSome = true → P k) : ∀ k, (r'.rows k).isSome = true → P k :=
  h.keeps (I := fun r => ∀ k, (r.rows k).isSome = true → P k) (fun _ _ hr hact => hact.rowKeys hmade hr) hr

end Register
