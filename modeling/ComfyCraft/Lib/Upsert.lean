import Mathlib.Data.List.Basic

/-! Writes to a table with a unique key that meet a row under their key: an insert that is ignored then
(`INSERT IGNORE`) and an insert that merges its row into the old one (`ON DUPLICATE KEY UPDATE`). Two such
writes may change places when the rows they bring agree. -/

namespace Upsert

open List Function

variable {K R : Type} [DecidableEq K]

def insertIgnore (t : K → Option R) (rows : List (K × R)) : K → Option R :=
  rows.foldl (fun t r => if (t r.1).isSome then t else Function.update t r.1 (some r.2)) t

def upsert (merge : R → R → R) (t : K → Option R) (k : K) (r : R) : K → Option R :=
  Function.update t k (some (((t k).map fun old => merge old r).getD r))

def brought (rows : List (K × R)) (k : K) : Option R := (rows.find? fun r => r.1 = k).map Prod.snd

theorem insertIgnore_apply (t : K → Option R) (rows : List (K × R)) (k : K) :
    insertIgnore t rows k = (t k).or (brought rows k) := by
  unfold insertIgnore
  induction rows generalizing t with
  | nil => simp [brought]
  | cons r rows ih =>
    rw [foldl_cons, ih]
    by_cases hk : r.1 = k
    · subst hk
      cases h : t r.1 <;> simp [brought, h]
    have hb : brought (r :: rows) k = brought rows k := by simp [brought, hk]
    rw [hb]
    split_ifs with hs
    · rfl
    · rw [update_of_ne fun h => hk h.symm]

variable {rows : List (K × R)} {k : K} {r : R}

/-- Inserts that bring the same row wherever both bring one may change places. -/
theorem insertIgnore_comm {rows' : List (K × R)} (t : K → Option R)
    (h : ∀ k r r', brought rows k = some r → brought rows' k = some r' → r = r') :
    insertIgnore (insertIgnore t rows) rows' = insertIgnore (insertIgnore t rows') rows := by
  funext k
  simp only [insertIgnore_apply, Option.or_assoc]
  congr 1
  cases ha : brought rows k with
  | none => simp
  | some r =>
    cases hb : brought rows' k with
    | none => rfl
    | some r' => rw [h k r r' ha hb]

theorem brought_append (rows rows' : List (K × R)) (k : K) :
    brought (rows ++ rows') k = (brought rows k).or (brought rows' k) := by
  unfold brought
  rw [find?_append]
  cases rows.find? fun r => r.1 = k <;> rfl

theorem brought_some (h : brought rows k = some r) : (k, r) ∈ rows := by
  obtain ⟨⟨k', r'⟩, hf, hr⟩ := Option.map_eq_some_iff.1 h
  have hk : k' = k := by simpa using find?_some hf
  cases hr
  rw [← hk]
  exact mem_of_find?_eq_some hf

theorem brought_of_mem (hn : (rows.map Prod.fst).Nodup) (h : (k, r) ∈ rows) : brought rows k = some r := by
  induction rows with
  | nil => cases h
  | cons x rows ih =>
    rw [map_cons, nodup_cons] at hn
    rcases mem_cons.1 h with rfl | h
    · simp [brought]
    have hne : x.1 ≠ k := fun hk => hn.1 (hk ▸ mem_map_of_mem (f := Prod.fst) h)
    have hb : brought (x :: rows) k = brought rows k := by simp [brought, hne]
    rw [hb]
    exact ih hn.2 h

/-- Two upserts of one key may change places when neither row is lost in the other and the order in which
they are merged into an old row does not matter. -/
theorem upsert_comm {merge : R → R → R} {a b : R} (t : K → Option R) (k : K) (hab : merge a b = merge b a)
    (hold : ∀ old, merge (merge old a) b = merge (merge old b) a) :
    upsert merge (upsert merge t k a) k b = upsert merge (upsert merge t k b) k a := by
  unfold upsert
  rw [update_idem, update_idem, update_self, update_self]
  cases t k with
  | none => simp [hab]
  | some old => simp [hold]

end Upsert
