import ComfyCraft.Database.Attempts

/-! Whole executions of `SqlTransaction::Execute`, with their attempts, and connections that execute one
transaction after the other. -/

namespace ComfyCraft

open List Nat
namespace SqlTransaction

variable {S : Type}

/-- What is asked of `Execute` on a list of statements. -/
structure Right (queue : List S) (r : Executed S) : Prop where
  reported : r.returned = true ↔ queue = [] ∨ ∃ t ∈ r.tries, Whole queue t
  once : r.tries.Pairwise fun t u => ¬ (Whole queue t ∧ Whole queue u)
  unchanged : ∀ t ∈ r.tries, ¬ Whole queue t → t.after.stored = t.before.stored
  bounded : r.tries.length ≤ maxAttempts

theorem executeLeft_length (queue : List S) (pattern : Nat → Answers) (left : Nat) :
    ∀ c, (executeLeft queue pattern left c).tries.length ≤ left := by
  induction left with
  | zero => intro c; exact le_refl 0
  | succ left ih =>
    intro c
    simp only [executeLeft]
    split
    · exact succ_le_succ (zero_le left)
    · exact succ_le_succ (zero_le left)
    · exact succ_le_succ (ih _)

variable {queue : List S} {c : MySQLConnection S}

/-- An execution that returns `true` and leaves what it did not commit unchanged has a whole attempt. -/
theorem executeLeft_whole (hq : queue ≠ []) (pattern : Nat → Answers) (left : Nat) :
    ∀ c, c.Clean → (executeLeft queue pattern left c).returned = true →
      (∀ t ∈ (executeLeft queue pattern left c).tries, ¬ Whole queue t → t.after.stored = t.before.stored) →
      ∃ t ∈ (executeLeft queue pattern left c).tries, Whole queue t := by
  induction left with
  | zero => intro c _ h; cases h
  | succ left ih =>
    intro c hc
    simp only [executeLeft]
    generalize pattern (maxAttempts - left) = a
    obtain ⟨xs, ws, hk, hw, hor, hcom⟩ := attempt_leaves hq a hc
    split
    · rename_i ho
      intro _ hu
      refine ⟨_, mem_singleton_self _, ?_⟩
      by_contra hne
      have h := hu _ (mem_singleton_self _) hne
      rw [attempt_before, MySQLConnection.stored, hk, hw, hc.stored, append_assoc, append_left_eq_self, append_eq_nil_iff] at h
      exact hcom ho h.1
    · intro h
      cases h
    · intro h hu
      by_cases hwhole : Whole queue (attempt queue a c)
      · exact ⟨_, mem_cons_self, hwhole⟩
      have hsame := hu _ mem_cons_self hwhole
      rw [attempt_before] at hsame
      obtain ⟨t, ht, htw⟩ := ih _ (attempt_clean hq a hc (.inr hsame)) h (fun t ht => hu t (mem_cons_of_mem _ ht))
      exact ⟨t, mem_cons_of_mem _ ht, htw⟩

theorem executeLeft_right_iff (hq : queue ≠ []) (pattern : Nat → Answers) (left : Nat) : ∀ c, c.Clean →
      let r := executeLeft queue pattern left c
      ((r.returned = true ↔ ∃ t ∈ r.tries, Whole queue t) ∧ (r.tries.Pairwise fun t u => ¬ (Whole queue t ∧ Whole queue u)) ∧
        ∀ t ∈ r.tries, ¬ Whole queue t → t.after.stored = t.before.stored) ↔
      ∀ t ∈ r.tries, Sound queue.length t.answers t.before := by
  induction left with
  | zero => intro c hc; simp [executeLeft]
  | succ left ih =>
    intro c hc
    have hgen := rightTry_iff hq (pattern (maxAttempts - left)) hc
    simp only [executeLeft]
    generalize pattern (maxAttempts - left) = a at hgen
    have hone : ∀ x : Bool, ((x = true ↔ ∃ t ∈ [attempt queue a c], Whole queue t) ∧
        ([attempt queue a c].Pairwise fun t u => ¬ (Whole queue t ∧ Whole queue u)) ∧
        ∀ t ∈ [attempt queue a c], ¬ Whole queue t → t.after.stored = t.before.stored) ↔
        ((x = true ↔ Whole queue (attempt queue a c)) ∧ (¬ Whole queue (attempt queue a c) →
            (attempt queue a c).after.stored = (attempt queue a c).before.stored)) := by
      intro x
      simp
    split
    · rename_i ho
      rw [hone]
      simp only [forall_mem_singleton, attempt_answers, attempt_before, ← hgen, RightTry, ho, true_iff]
    · rename_i ho
      rw [hone]
      simp only [forall_mem_singleton, attempt_answers, attempt_before, ← hgen, RightTry, ho, reduceCtorEq]
    · rename_i ho
      have hrest := ih (attempt queue a c).after
      have hlast := executeLeft_whole hq pattern left (attempt queue a c).after
      generalize executeLeft queue pattern left (attempt queue a c).after = rest at hrest hlast
      simp only [forall_mem_cons, attempt_answers, attempt_before]
      rw [← hgen, RightTry, ho, attempt_before]
      constructor
      · intro ⟨hrep, honce, hun⟩
        rw [pairwise_cons] at honce
        have hnot : ¬ Whole queue (attempt queue a c) := by
          intro hwhole
          have hret := hrep.mpr ⟨_, mem_cons_self, hwhole⟩
          obtain ⟨t, ht, htw⟩ := hlast (attempt_clean hq a hc (.inl hwhole)) hret hun.2
          exact honce.1 t ht ⟨hwhole, htw⟩
        refine ⟨⟨⟨fun h => (by cases h), fun h => absurd h hnot⟩, hun.1⟩, ?_⟩
        refine (hrest (attempt_clean hq a hc (.inr (hun.1 hnot)))).mp ⟨?_, honce.2, hun.2⟩
        rw [hrep, exists_mem_cons_iff]
        exact or_iff_right hnot
      · intro ⟨⟨hwhole, hun⟩, hall⟩
        have hnot : ¬ Whole queue (attempt queue a c) := fun h => by cases hwhole.mpr h
        obtain ⟨hrep, honce, hun'⟩ := (hrest (attempt_clean hq a hc (.inr (hun hnot)))).mpr hall
        refine ⟨?_, pairwise_cons.mpr ⟨fun t _ h => hnot h.1, honce⟩, hun, hun'⟩
        rw [hrep, exists_mem_cons_iff]
        exact (or_iff_right hnot).symm

theorem execute_right_iff (queue : List S) (pattern : Nat → Answers) (hc : c.Clean) : Right queue (execute queue pattern c) ↔
      ∀ t ∈ (execute queue pattern c).tries, Sound queue.length t.answers t.before := by
  rw [execute]
  split
  · rename_i hq
    have hnone : ∀ t ∈ (⟨true, []⟩ : Executed S).tries, Sound queue.length t.answers t.before := by simp
    refine ⟨fun _ => hnone, fun _ => ⟨?_, List.Pairwise.nil, ?_, zero_le _⟩⟩
    · simp [hq]
    · simp
  · rename_i hq
    refine Iff.trans ?_ (executeLeft_right_iff hq pattern maxAttempts c hc)
    constructor
    · intro h
      exact ⟨by rw [h.reported, or_iff_right hq], h.once, h.unchanged⟩
    · intro ⟨hrep, honce, hun⟩
      exact ⟨by rw [hrep, or_iff_right hq], honce, hun, executeLeft_length queue pattern _ c⟩

structure Job (S : Type) where
  queue : List S
  pattern : Nat → Answers

def Executed.leaves (r : Executed S) (c : MySQLConnection S) : MySQLConnection S :=
  (r.tries.getLast?.map Try.after).getD c

def executeAll : List (Job S) → MySQLConnection S → List (Job S × Executed S)
  | [], _ => []
  | job :: jobs, c =>
    let r := execute job.queue job.pattern c
    (job, r) :: executeAll jobs (r.leaves c)

theorem executeLeft_leaves_clean (hq : queue ≠ []) (pattern : Nat → Answers) (left : Nat) : ∀ c, c.Clean →
      (∀ t ∈ (executeLeft queue pattern left c).tries, Sound queue.length t.answers t.before) →
      ((executeLeft queue pattern left c).leaves c).Clean := by
  induction left with
  | zero => intro c hc _; exact hc
  | succ left ih =>
    intro c hc
    simp only [executeLeft]
    generalize pattern (maxAttempts - left) = a
    have hclean : Sound queue.length a c → (attempt queue a c).after.Clean := by
      intro h
      rw [← rightTry_iff hq a hc, RightTry, attempt_before] at h
      exact attempt_clean hq a hc (or_iff_not_imp_left.mpr h.2)
    split
    · intro h
      have := h _ (mem_singleton_self _)
      rw [attempt_answers, attempt_before] at this
      exact hclean this
    · intro h
      have := h _ (mem_singleton_self _)
      rw [attempt_answers, attempt_before] at this
      exact hclean this
    · intro h
      have hfirst := h _ mem_cons_self
      rw [attempt_answers, attempt_before] at hfirst
      have hrest := ih _ (hclean hfirst) (fun t ht => h t (mem_cons_of_mem _ ht))
      generalize executeLeft queue pattern left (attempt queue a c).after = rest at hrest
      rw [Executed.leaves] at hrest ⊢
      rw [getLast?_cons]
      cases hl : rest.tries.getLast? with
      | none => rw [hl] at hrest; exact hrest
      | some t => rw [hl] at hrest; exact hrest

theorem execute_leaves_clean (queue : List S) (pattern : Nat → Answers) (hc : c.Clean)
    (h : ∀ t ∈ (execute queue pattern c).tries, Sound queue.length t.answers t.before) :
    ((execute queue pattern c).leaves c).Clean := by
  rw [execute] at h ⊢
  split_ifs at h ⊢ with hq
  · exact hc
  · exact executeLeft_leaves_clean hq pattern maxAttempts c hc h

theorem executeAll_iff (jobs : List (Job S)) : ∀ c : MySQLConnection S, c.Clean →
    ((∀ x ∈ executeAll jobs c, Right x.1.queue x.2) ↔
      ∀ x ∈ executeAll jobs c, ∀ t ∈ x.2.tries, Sound x.1.queue.length t.answers t.before) := by
  induction jobs with
  | nil => intro c _; simp [executeAll]
  | cons job jobs ih =>
    intro c hc
    have hhead := execute_right_iff job.queue job.pattern hc
    simp only [executeAll, forall_mem_cons]
    rw [hhead]
    refine and_congr_right fun hs => ?_
    exact ih _ (execute_leaves_clean job.queue job.pattern hc hs)

/-- Every transaction that a connection executes, from its opening on, is right exactly when every attempt
made at one is sound. -/
theorem transactions_right_iff (jobs : List (Job S)) (kept : List S) (errNo : UInt32) :
    (∀ x ∈ executeAll jobs ⟨kept, none, errNo⟩, Right x.1.queue x.2) ↔
      ∀ x ∈ executeAll jobs ⟨kept, none, errNo⟩, ∀ t ∈ x.2.tries, Sound x.1.queue.length t.answers t.before :=
  executeAll_iff jobs ⟨kept, none, errNo⟩ rfl

end SqlTransaction

namespace TransactionSample

/-- The server has closed the idle connection; the first statement opens it again, the second is refused as
the row exists already. -/
def idle : Answers where
  start := .error serverGoneError
  sent := fun n => if n = 0 then .reopened .done else .error 1062
  commit := .done
  rollback := .done

/-- The first statement stays though the transaction is reported as failed and rolled back. -/
theorem idle_not_right : ¬ SqlTransaction.Right ["DELETE", "INSERT"]
    (SqlTransaction.execute ["DELETE", "INSERT"] (fun _ => idle) ⟨[], none, 0⟩) := by
  intro h
  have hmem : SqlTransaction.attempt ["DELETE", "INSERT"] idle ⟨[], none, 0⟩ ∈
      (SqlTransaction.execute ["DELETE", "INSERT"] (fun _ => idle) ⟨[], none, 0⟩).tries :=
    mem_singleton_self _
  have hnot : ¬ SqlTransaction.Whole ["DELETE", "INSERT"] (SqlTransaction.attempt ["DELETE", "INSERT"] idle ⟨[], none, 0⟩) := by
    have : (SqlTransaction.attempt ["DELETE", "INSERT"] idle ⟨[], none, 0⟩).after.kept ≠ ["DELETE", "INSERT"] := by decide
    exact this
  have hsame : (SqlTransaction.attempt ["DELETE", "INSERT"] idle ⟨[], none, 0⟩).after.stored ≠ [] := by
    decide
  exact hsame (h.unchanged _ hmem hnot)

end TransactionSample
end ComfyCraft
