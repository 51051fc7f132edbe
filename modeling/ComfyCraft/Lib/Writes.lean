import Mathlib.Data.List.Pairwise
import Mathlib.Data.List.Perm.Basic

/-! Updates that write fixed values under fixed keys. Updates that have no key in common may change places,
and a whole list of such updates may be made in any order. -/

namespace Writes

open List Function

variable {K V : Type} [DecidableEq K]

/-- The values written, `none` for a removal, one after the other. -/
def write (m : K → Option V) (ws : List (K × Option V)) : K → Option V :=
  ws.foldl (fun m w => Function.update m w.1 w.2) m

def keys (ws : List (K × Option V)) : List K := ws.map Prod.fst

def Apart (ws ws' : List (K × Option V)) : Prop := ∀ k ∈ keys ws, k ∉ keys ws'

instance (ws ws' : List (K × Option V)) : Decidable (Apart ws ws') := inferInstanceAs (Decidable (∀ k ∈ keys ws, k ∉ keys ws'))

theorem write_append (m : K → Option V) (ws ws' : List (K × Option V)) : write m (ws ++ ws') = write (write m ws) ws' :=
  foldl_append

instance : Std.Symm (Apart : List (K × Option V) → List (K × Option V) → Prop) := ⟨fun _ _ h k hk hk' => h k hk' hk⟩

variable {ws : List (K × Option V)} {k : K}

theorem write_of_notMem {m : K → Option V} (h : k ∉ keys ws) : write m ws k = m k := by
  induction ws generalizing m with
  | nil => rfl
  | cons w ws ih =>
    have hk : k ≠ w.1 := fun heq => h (by rw [heq]; exact mem_cons_self)
    have hrest : k ∉ keys ws := fun hin => h (mem_cons_of_mem _ hin)
    exact (ih hrest).trans (update_of_ne hk _ _)

/-- What is written under a key does not depend on what was there. -/
theorem write_of_mem (m m' : K → Option V) (h : k ∈ keys ws) : write m ws k = write m' ws k := by
  induction ws generalizing m m' with
  | nil => cases h
  | cons w ws ih =>
    by_cases hrest : k ∈ keys ws
    · exact ih _ _ hrest
    rcases mem_cons.1 h with hk | hk
    · change write (update m w.1 w.2) ws k = write (update m' w.1 w.2) ws k
      rw [write_of_notMem hrest, write_of_notMem hrest, hk, update_self, update_self]
    · exact absurd hk hrest

theorem write_comm {ws' : List (K × Option V)} (h : Apart ws ws') (m : K → Option V) :
    write (write m ws) ws' = write (write m ws') ws := by
  funext k
  by_cases hk : k ∈ keys ws
  · rw [write_of_notMem (h k hk)]
    exact write_of_mem _ _ hk
  · rw [write_of_notMem (m := write m ws') hk]
    by_cases hk' : k ∈ keys ws'
    · exact write_of_mem _ _ hk'
    · rw [write_of_notMem hk', write_of_notMem hk', write_of_notMem hk]

theorem foldl_write_perm {l l' : List (List (K × Option V))} (hl : l.Pairwise Apart) (hp : l.Perm l') (m : K → Option V) :
    l.foldl write m = l'.foldl write m := by
  apply hp.foldl_eq'
  intro ws hws ws' hws' m
  rcases eq_or_ne ws ws' with rfl | hne
  · rfl
  · exact write_comm (hl.forall hws hws' hne) m

end Writes
