import Mathlib.Data.List.AList
import Mathlib.Data.List.Sort
import Mathlib.Algebra.BigOperators.Group.List.Basic
import Mathlib.Tactic.Ring

/-! Keyed tables: Mathlib's association lists with constant value type, so that the keys of a table
are distinct by construction. The tally of a table is the sum of a weight over its rows; the
lemmas say what one insertion, one removal and one filter do to it. -/

abbrev Table (K V : Type) := AList (fun _ : K => V)

namespace Table

open List Function AList

variable {K V : Type}

variable (w : K → V → Nat)

def tally (t : Table K V) : Nat := (t.entries.map fun e => w e.1 e.2).sum

def keep (p : K → V → Bool) (t : Table K V) : Table K V where
  entries := t.entries.filter fun e => p e.1 e.2
  nodupKeys := t.nodupKeys.sublist List.filter_sublist

def mapValues (f : V → V) (t : Table K V) : Table K V where
  entries := t.entries.map fun e => ⟨e.1, f e.2⟩
  nodupKeys := by
    have hkeys : (t.entries.map fun e => (⟨e.1, f e.2⟩ : Sigma fun _ : K => V)).keys = t.entries.keys := by
      unfold List.keys
      rw [List.map_map]
      rfl
    unfold List.NodupKeys
    rw [hkeys]
    exact t.nodupKeys

def ordered [LE K] [DecidableLE K] (t : Table K V) : List (Sigma fun _ : K => V) := t.entries.insertionSort fun a b => a.1 ≤ b.1

theorem tally_keep (p : K → V → Bool) (t : Table K V) :
    tally w (t.keep p) = tally (fun k v => if p k v then w k v else 0) t := by
  have hsum : ∀ l : List (Sigma fun _ : K => V), ((l.filter fun e => p e.1 e.2).map fun e => w e.1 e.2).sum =
        (l.map fun e => if p e.1 e.2 then w e.1 e.2 else 0).sum := by
    intro l
    induction l with
    | nil => rfl
    | cons e l ih => by_cases hp : p e.1 e.2 <;> simp [hp, ih]
  exact hsum t.entries

theorem perm_ordered [LE K] [DecidableLE K] (t : Table K V) : t.ordered.Perm t.entries := perm_insertionSort _ _

theorem ordered_keys_nodup [LE K] [DecidableLE K] (t : Table K V) : (t.ordered.map Sigma.fst).Nodup :=
  (t.perm_ordered.map Sigma.fst).nodup_iff.2 t.nodupKeys

theorem sum_ordered [LE K] [DecidableLE K] (t : Table K V) : (t.ordered.map fun e => w e.1 e.2).sum = tally w t :=
  (t.perm_ordered.map _).sum_eq

variable [DecidableEq K]

variable {t : Table K V} {a : K} {b : V} {p : K → V → Bool}

theorem lookup_eq_some_iff : t.lookup a = some b ↔ (⟨a, b⟩ : Sigma fun _ : K => V) ∈ t.entries :=
  mem_lookup_iff

theorem lookup_insert_fun (t : Table K V) (a : K) (b : V) : (t.insert a b).lookup = Function.update t.lookup a (some b) := by
  funext k
  by_cases hk : k = a
  · rw [hk, lookup_insert, update_self]
  · rw [lookup_insert_ne hk, update_of_ne hk]

theorem lookup_erase_fun (t : Table K V) (a : K) : (t.erase a).lookup = Function.update t.lookup a none := by
  funext k
  by_cases hk : k = a
  · rw [hk, lookup_erase, update_self]
  · rw [lookup_erase_ne hk, update_of_ne hk]

theorem lookup_mapValues (f : V → V) (t : Table K V) (a : K) : (t.mapValues f).lookup a = (t.lookup a).map f := by
  apply Option.ext
  intro b
  rw [lookup_eq_some_iff, Option.map_eq_some_iff]
  constructor
  · intro hb
    obtain ⟨e, he, heq⟩ := mem_map.1 hb
    cases heq
    exact ⟨e.2, lookup_eq_some_iff.2 he, rfl⟩
  · rintro ⟨v, hv, rfl⟩
    exact mem_map.2 ⟨⟨a, v⟩, lookup_eq_some_iff.1 hv, rfl⟩

theorem tally_erase (h : t.lookup a = some b) : w a b + tally w (t.erase a) = tally w t := by
  have hk : a ∈ t.entries.keys := lookup_isSome.1 (by rw [h]; rfl)
  obtain ⟨b', l₁, l₂, hn, hl, he⟩ := exists_of_kerase hk
  have hb : b' = b := by
    have hm : (⟨a, b'⟩ : Sigma fun _ : K => V) ∈ t.entries := by rw [hl]; simp
    rw [lookup_eq_some_iff.2 hm] at h
    exact Option.some.inj h
  subst hb
  have he' : (t.erase a).entries = l₁ ++ l₂ := he
  unfold tally
  rw [he', hl]
  simp only [map_append, map_cons, sum_append, sum_cons]
  omega

theorem erase_of_lookup_none (h : t.lookup a = none) : t.erase a = t := by
  have hk : a ∉ t.entries.keys := lookup_eq_none.1 h
  exact ext (kerase_of_notMem_keys hk)

theorem tally_insert_erase (t : Table K V) (a : K) (b : V) :
    tally w (t.insert a b) = w a b + tally w (t.erase a) := by
  unfold tally
  rw [entries_insert]
  rfl

theorem tally_insert_new (b : V) (h : t.lookup a = none) : tally w (t.insert a b) = w a b + tally w t := by
  rw [tally_insert_erase, erase_of_lookup_none h]

theorem tally_insert_over {b' : V} (b : V) (h : t.lookup a = some b') :
    tally w (t.insert a b) + w a b' = w a b + tally w t := by
  have := tally_erase w h
  rw [tally_insert_erase]
  omega

theorem tally_le_of_lookup (h : t.lookup a = some b) : w a b ≤ tally w t := by
  have := tally_erase w h
  omega

theorem tally_congr {w w' : K → V → Nat} (h : ∀ k v, t.lookup k = some v → w k v = w' k v) : tally w t = tally w' t := by
  unfold tally
  congr 1
  apply map_congr_left
  intro e he
  exact h e.1 e.2 (lookup_eq_some_iff.2 he)

theorem tally_keep_all (h : ∀ k v, t.lookup k = some v → p k v = true) : tally w (t.keep p) = tally w t := by
  rw [tally_keep]
  exact tally_congr fun k v hk => by simp [h k v hk]

theorem lookup_keep : (t.keep p).lookup a = (t.lookup a).filter fun v => p a v := by
  apply Option.ext
  intro b
  rw [Option.filter_eq_some_iff, lookup_eq_some_iff, lookup_eq_some_iff]
  simp [keep]

/-! Rows in order. -/

section
variable [LE K] [DecidableLE K]

variable {t : Table K V}

theorem mem_ordered {e : Sigma fun _ : K => V} : e ∈ t.ordered ↔ t.lookup e.1 = some e.2 := by
  rw [t.perm_ordered.mem_iff, lookup_eq_some_iff]

theorem mem_ordered_keys {a : K} : a ∈ t.ordered.map Sigma.fst ↔ (t.lookup a).isSome = true := by
  rw [mem_map, Option.isSome_iff_exists]
  constructor
  · rintro ⟨e, he, rfl⟩
    exact ⟨e.2, mem_ordered.1 he⟩
  · rintro ⟨b, hb⟩
    exact ⟨⟨a, b⟩, mem_ordered.2 hb, rfl⟩

end

variable {l : List (Sigma fun _ : K => V)} {t : Table K V} {a : K}

theorem tally_insertAll (w : K → V → Nat) (hl : (l.map Sigma.fst).Nodup) (hnew : ∀ e ∈ l, t.lookup e.1 = none) :
    tally w (l.foldl (fun t e => t.insert e.1 e.2) t) = tally w t + (l.map fun e => w e.1 e.2).sum := by
  induction l generalizing t with
  | nil => rfl
  | cons e l ih =>
    rw [map_cons, nodup_cons] at hl
    have hrest : ∀ x ∈ l, (t.insert e.1 e.2).lookup x.1 = none := by
      intro x hx
      have hne : x.1 ≠ e.1 := fun heq => hl.1 (heq ▸ mem_map_of_mem hx)
      rw [lookup_insert_ne hne]
      exact hnew x (mem_cons_of_mem e hx)
    rw [foldl_cons, ih hl.2 hrest, tally_insert_new w e.2 (hnew e mem_cons_self), map_cons, sum_cons]
    omega

theorem lookup_insertAll {b : V}
    (h : (l.foldl (fun t e => t.insert e.1 e.2) t).lookup a = some b) : ⟨a, b⟩ ∈ l ∨ t.lookup a = some b := by
  induction l generalizing t with
  | nil => exact .inr h
  | cons e l ih =>
    rcases ih h with hmem | hold
    · exact .inl (mem_cons_of_mem e hmem)
    by_cases ha : a = e.1
    · subst ha
      rw [lookup_insert] at hold
      cases hold
      exact .inl mem_cons_self
    · rw [lookup_insert_ne ha] at hold
      exact .inr hold

theorem lookup_insertAll_other (h : a ∉ l.map Sigma.fst) : (l.foldl (fun t e => t.insert e.1 e.2) t).lookup a = t.lookup a := by
  induction l generalizing t with
  | nil => rfl
  | cons e l ih =>
    rw [map_cons, mem_cons, not_or] at h
    rw [foldl_cons, ih h.2, lookup_insert_ne h.1]

end Table

/-! The order in which a hash table is walked. A table says nothing about it, so a walk is any
reordering of its rows. -/

structure Walk (K V : Type) where
  order : List (Sigma fun _ : K => V) → List (Sigma fun _ : K => V)
  perm : ∀ l, (order l).Perm l

namespace Walk

variable {K V : Type}

def plain : Walk K V := ⟨id, fun _ => List.Perm.refl _⟩

def rows (w : Walk K V) (t : Table K V) : List (Sigma fun _ : K => V) := w.order t.entries

theorem mem_rows [DecidableEq K] (w : Walk K V) {t : Table K V} {e : Sigma fun _ : K => V} :
    e ∈ w.rows t ↔ t.lookup e.1 = some e.2 := by
  unfold rows
  rw [(w.perm t.entries).mem_iff, Table.lookup_eq_some_iff]

end Walk

namespace Table

variable {K V : Type}

def mapRows (f : K → V → V) (t : Table K V) : Table K V where
  entries := t.entries.map fun e => ⟨e.1, f e.1 e.2⟩
  nodupKeys := by
    have hkeys : (t.entries.map fun e => (⟨e.1, f e.1 e.2⟩ : Sigma fun _ : K => V)).keys = t.entries.keys := by
      unfold List.keys
      rw [List.map_map]
      rfl
    unfold List.NodupKeys
    rw [hkeys]
    exact t.nodupKeys

theorem lookup_mapRows [DecidableEq K] (f : K → V → V) (t : Table K V) (a : K) :
    (t.mapRows f).lookup a = (t.lookup a).map (f a) := by
  apply Option.ext
  intro b
  rw [lookup_eq_some_iff, Option.map_eq_some_iff]
  constructor
  · intro hb
    obtain ⟨e, he, heq⟩ := List.mem_map.1 hb
    cases heq
    exact ⟨e.2, lookup_eq_some_iff.2 he, rfl⟩
  · rintro ⟨v, hv, rfl⟩
    exact List.mem_map.2 ⟨⟨a, v⟩, lookup_eq_some_iff.1 hv, rfl⟩

end Table
