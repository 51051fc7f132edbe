import Mathlib.Order.Basic

/-! Runs of a deterministic step function, the condition that every step of a run is one a guard
admits, and the two induction rules used everywhere: an invariant that every admitted step
keeps holds along the run, and a quantity that no admitted step changes is the same at its end. -/

namespace Runs

variable {σ α β : Type} (step : σ → α → σ) (ok : σ → α → Prop)

def run (s : σ) : List α → σ
  | [] => s
  | a :: as => run (step s a) as

/-- Every step of the run from `s` is admitted in the state it is taken in. -/
def Admitted (s : σ) : List α → Prop
  | [] => True
  | a :: as => ok s a ∧ Admitted (step s a) as

instance Admitted.decide [∀ s a, Decidable (ok s a)] : ∀ (s : σ) (as : List α), Decidable (Admitted step ok s as)
  | _, [] => isTrue trivial
  | s, a :: as =>
    have := Admitted.decide (step s a) as
    inferInstanceAs (Decidable (ok s a ∧ Admitted step ok (step s a) as))

theorem run_append (s : σ) (as bs : List α) : run step s (as ++ bs) = run step (run step s as) bs := by
  induction as generalizing s with
  | nil => rfl
  | cons a as ih => exact ih _

variable {s : σ} {as : List α} {I : σ → Prop} {ok' : σ → α → Prop}

theorem admitted_append {bs : List α} :
    Admitted step ok s (as ++ bs) ↔ Admitted step ok s as ∧ Admitted step ok (run step s as) bs := by
  induction as generalizing s with
  | nil => exact ⟨fun h => ⟨trivial, h⟩, fun h => h.2⟩
  | cons a as ih =>
    constructor
    · rintro ⟨h1, h2⟩
      exact ⟨⟨h1, (ih.1 h2).1⟩, (ih.1 h2).2⟩
    · rintro ⟨⟨h1, h2⟩, h3⟩
      exact ⟨h1, ih.2 ⟨h2, h3⟩⟩

variable {step ok}

theorem invariant (hstep : ∀ s a, I s → ok s a → I (step s a))
    (hs : I s) (has : Admitted step ok s as) : I (run step s as) := by
  induction as generalizing s with
  | nil => exact hs
  | cons a as ih => exact ih (hstep s a hs has.1) has.2

theorem constant {f : σ → β} (hstep : ∀ s a, ok s a → f (step s a) = f s)
    (has : Admitted step ok s as) : f (run step s as) = f s := by
  induction as generalizing s with
  | nil => rfl
  | cons a as ih => exact (ih has.2).trans (hstep s a has.1)

theorem Admitted.imp_mem (h : ∀ s, ∀ a ∈ as, ok s a → ok' s a) (has : Admitted step ok s as) : Admitted step ok' s as := by
  induction as generalizing s with
  | nil => trivial
  | cons a as ih =>
    exact ⟨h s a List.mem_cons_self has.1, ih (fun s b hb => h s b (List.mem_cons_of_mem _ hb)) has.2⟩

theorem Admitted.of_invariant (hstep : ∀ s a, I s → ok s a → I (step s a) ∧ ok' s a) (hs : I s)
    (has : Admitted step ok s as) : Admitted step ok' s as := by
  induction as generalizing s with
  | nil => trivial
  | cons a as ih =>
    obtain ⟨hinv, hok⟩ := hstep s a hs has.1
    exact ⟨hok, ih hinv has.2⟩

theorem Admitted.take (has : Admitted step ok s as) (n : Nat) : Admitted step ok s (as.take n) := by
  rw [← List.take_append_drop n as] at has
  exact ((admitted_append step ok).1 has).1

theorem Admitted.getElem? (has : Admitted step ok s as) {n : Nat} {a : α} (ha : as[n]? = some a) :
    ok (run step s (as.take n)) a ∧ run step s (as.take (n + 1)) = step (run step s (as.take n)) a := by
  induction as generalizing s n with
  | nil => cases ha
  | cons b as ih =>
    cases n with
    | zero => cases ha; exact ⟨has.1, rfl⟩
    | succ n => exact ih has.2 ha

theorem admitted_iff_getElem? : Admitted step ok s as ↔ ∀ (n : Nat) a, as[n]? = some a → ok (run step s (as.take n)) a := by
  constructor
  · intro has n a ha
    exact (has.getElem? ha).1
  · intro h
    induction as generalizing s with
    | nil => trivial
    | cons a as ih => exact ⟨h 0 a rfl, ih fun n b hb => h (n + 1) b hb⟩

theorem admitted_of_forall (h : ∀ s a, ok s a) (s : σ) (as : List α) : Admitted step ok s as := by
  induction as generalizing s with
  | nil => trivial
  | cons a as ih => exact ⟨h s a, ih _⟩

/-- An invariant that every step keeps, with no guard. -/
theorem always (hstep : ∀ s a, I s → I (step s a)) (hs : I s) (as : List α) : I (run step s as) := by
  induction as generalizing s with
  | nil => exact hs
  | cons a as ih => exact ih (hstep s a hs)

end Runs

/-! Loops that run while a test holds. A loop is given fuel; where each turn brings a measure down, as much fuel as the measure is
enough, and more makes no difference. -/

namespace Loop

variable {σ : Type} (test : σ → Bool) (body : σ → σ)

def run : Nat → σ → σ
  | 0, s => s
  | fuel + 1, s => if test s then run fuel (body s) else s

variable {test body} {I : σ → Prop} {s : σ}

theorem keeps (hbody : ∀ s, I s → test s = true → I (body s)) (hs : I s) (fuel : Nat) : I (run test body fuel s) := by
  induction fuel generalizing s with
  | zero => exact hs
  | succ fuel ih =>
    unfold run
    split_ifs with h
    · exact ih (hbody s hs h)
    · exact hs

/-- A loop that has come to its end does no more. -/
theorem run_of_ended (h : test s = false) (fuel : Nat) : run test body fuel s = s := by
  cases fuel with
  | zero => rfl
  | succ fuel =>
    unfold run
    rw [h]
    rfl

variable {m : σ → Nat}

/-- A measure that every turn brings down is enough fuel. -/
theorem ends (hbody : ∀ s, I s → test s = true → I (body s)) (hless : ∀ s, I s → test s = true → m (body s) < m s) (hs : I s)
    {fuel : Nat} (hfuel : m s ≤ fuel) : test (run test body fuel s) = false := by
  induction fuel generalizing s with
  | zero =>
    by_contra h
    have hlt := hless s hs (Bool.not_eq_false _ ▸ h)
    omega
  | succ fuel ih =>
    unfold run
    split_ifs with h
    · exact ih (hbody s hs h) (by have hlt := hless s hs h; omega)
    · exact Bool.not_eq_true _ ▸ h

/-- More fuel than a loop needs makes no difference. -/
theorem run_of_le {fuel more : Nat} (h : test (run test body fuel s) = false) (hle : fuel ≤ more) :
    run test body more s = run test body fuel s := by
  induction fuel generalizing s more with
  | zero => exact run_of_ended h more
  | succ fuel ih =>
    obtain ⟨more, rfl⟩ : ∃ n, more = n + 1 := ⟨more - 1, by omega⟩
    unfold run at h ⊢
    split_ifs at h ⊢ with htest
    · exact ih h (Nat.le_of_succ_le_succ hle)
    · rfl

end Loop
