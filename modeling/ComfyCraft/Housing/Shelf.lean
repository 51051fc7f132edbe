import ComfyCraft.Lib.Writes
import ComfyCraft.Housing.Storage

/-! What the requests of the furniture storage do to the shelves is what their statements, executed in the
order they are queued, do to the rows. -/

namespace ComfyCraft

open List Function Option AList Prod Writes StorageStmt Bool

variable {om : ObjectMgr} {F : Type} {sv : Server F}

abbrev Square := UInt32 × UInt32

def StorageStmt.writes : StorageStmt → List (Square × Option UInt32)
  | .replace row => [((row.account, row.slot), some row.itemEntry)]
  | .insert row => [((row.account, row.slot), some row.itemEntry)]
  | .delete account squares => squares.map fun slot => ((account, slot), none)

def opWrites (stmts : List StorageStmt) : List (Square × Option UInt32) := stmts.flatMap StorageStmt.writes

def entryAt (t : StorageRows) (k : Square) : Option UInt32 :=
  (t.rows.find? fun r => r.account = k.1 && r.slot = k.2).map StorageRow.itemEntry

/-- An operation on the rows, which takes effect as a whole or not at all. -/
def carryOut (t : StorageRows) (stmts : List StorageStmt) : StorageRows := Transaction.commit t (stmts.map StorageStmt.execute)

/-- The operation never fails, whatever rows it finds. -/
def Sound (stmts : List StorageStmt) : Prop := ∀ t, entryAt (carryOut t stmts) = Writes.write (entryAt t) (opWrites stmts)

variable {t : StorageRows}

theorem entryAt_eq_none {k : Square} (h : entryAt t k = none) : ∀ r ∈ t.rows, (r.account, r.slot) ≠ k := by
  intro r hr heq
  unfold entryAt at h
  rw [map_eq_none_iff, find?_eq_none] at h
  exact h r hr (by simp [← heq])

theorem write_delete (m : Square → Option UInt32) (account : UInt32) (squares : List UInt32) (k : Square) :
    Writes.write m (StorageStmt.delete account squares).writes k = if k.1 = account ∧ k.2 ∈ squares then none else m k := by
  induction squares generalizing m with
  | nil => simp [write, writes]
  | cons slot squares ih =>
    refine (ih (update m (account, slot) none)).trans ?_
    by_cases hk : k = (account, slot)
    · simp [hk]
    rw [update_of_ne hk]
    have hne : k.1 = account → k.2 ≠ slot := fun h1 h2 => hk (Prod.ext h1 h2)
    by_cases ha : k.1 = account
    · simp [ha, hne ha]
    · simp [ha]

theorem entryAt_delete (t : StorageRows) (account : UInt32) (squares : List UInt32) :
    entryAt (t.deleteWhere fun r => r.account = account && squares.contains r.slot) =
      Writes.write (entryAt t) (StorageStmt.delete account squares).writes := by
  funext k
  rw [write_delete]
  unfold entryAt
  rw [Rows.rows_deleteWhere, find?_filter]
  split_ifs with hk
  · rw [map_eq_none_iff, find?_eq_none]
    intro r _ hr
    simp only [and_eq_true, decide_eq_true_eq, not_eq_true', and_eq_false_iff] at hr
    obtain ⟨hout, h1, h2⟩ := hr
    simp [h1, h2, hk.1, hk.2] at hout
  · congr 2
    funext r
    by_cases h1 : r.account = k.1
    · by_cases h2 : r.slot = k.2
      · have : ¬ (r.account = account ∧ r.slot ∈ squares) := by rw [h1, h2]; exact hk
        by_cases ha : r.account = account
        · simp_all
        · simp [ha, h2]
      · simp [h2]
    · simp [h1]

theorem entryAt_insert (row : StorageRow) (h : entryAt t (row.account, row.slot) = none) :
    ∃ t', t.insert row = some t' ∧ entryAt t' = Writes.write (entryAt t) (StorageStmt.insert row).writes := by
  obtain ⟨t', ht', hrows⟩ := Rows.insert_isSome (t := t) (r := row) (entryAt_eq_none h)
  refine ⟨t', ht', ?_⟩
  funext k
  change _ = update (entryAt t) (row.account, row.slot) (some row.itemEntry) k
  by_cases hk : k = (row.account, row.slot)
  · subst hk
    rw [update_self]
    unfold entryAt at h ⊢
    rw [map_eq_none_iff] at h
    rw [hrows, find?_append, h]
    simp
  · rw [update_of_ne hk]
    have hne : ¬ (row.account = k.1 ∧ row.slot = k.2) := fun hc => hk (Prod.ext hc.1.symm hc.2.symm)
    unfold entryAt
    rw [hrows, find?_append]
    have hlast : [row].find? (fun r => r.account = k.1 && r.slot = k.2) = none := by
      rw [find?_singleton]
      simp [hne]
    rw [hlast, or_none]

theorem sound_delete (account : UInt32) (squares : List UInt32) : Sound [.delete account squares] := by
  intro t
  change entryAt (t.deleteWhere _) = _
  rw [entryAt_delete]
  simp [opWrites]

theorem sound_replace (row : StorageRow) : Sound [.replace row] := by
  intro t
  have hnone : entryAt (t.deleteWhere fun r => r.account = row.account && [row.slot].contains r.slot) (row.account, row.slot) = none := by
    rw [entryAt_delete, write_delete]
    simp
  obtain ⟨t', ht', hentry⟩ := entryAt_insert row hnone
  have hsame : (t.deleteWhere fun r => r.account = row.account && r.slot = row.slot) =
      t.deleteWhere fun r => r.account = row.account && [row.slot].contains r.slot := by
    congr 1
    funext r
    simp
  have hexecute : execute (.replace row) t = some t' := (congrArg (Rows.insert · row) hsame).trans ht'
  have hcarry : carryOut t [.replace row] = t' := by
    unfold carryOut Transaction.commit
    simp [Transaction.execute, hexecute]
  rw [hcarry, hentry, entryAt_delete]
  funext k
  change update (write (entryAt t) (delete row.account [row.slot]).writes) (row.account, row.slot) (some row.itemEntry) k =
    update (entryAt t) (row.account, row.slot) (some row.itemEntry) k
  by_cases hk : k = (row.account, row.slot)
  · rw [hk, update_self, update_self]
  rw [update_of_ne hk, update_of_ne hk, write_delete]
  have hne : ¬ (k.1 = row.account ∧ k.2 = row.slot) := fun hc => hk (Prod.ext hc.1 hc.2)
  simp [hne]

/-- The transaction of a move: two squares are cleared, and what goes into each of them is put in. -/
theorem sound_move {account from_ to_ : UInt32} (moving : UInt32) (displaced : Option UInt32) (hne : from_ ≠ to_) :
    Sound (HouseMgr.moveStmts account from_ to_ moving displaced) := by
  intro t
  set cleared : StorageRows := t.deleteWhere fun r => r.account = account && [from_, to_].contains r.slot with hcleared
  have hentry : entryAt cleared = write (entryAt t) (delete account [from_, to_]).writes := entryAt_delete t _ _
  have hto : entryAt cleared (account, to_) = none := by rw [hentry, write_delete]; simp
  obtain ⟨t₁, ht₁, hentry₁⟩ := entryAt_insert ⟨account, to_, moving⟩ hto
  cases displaced with
  | none =>
    have hcarry : carryOut t [.delete account [from_, to_], .insert ⟨account, to_, moving⟩] = t₁ := by
      change ((cleared.insert ⟨account, to_, moving⟩).bind some).getD t = t₁
      rw [ht₁]
      rfl
    change entryAt (carryOut t [.delete account [from_, to_], .insert ⟨account, to_, moving⟩]) = _
    rw [hcarry, hentry₁, hentry, ← write_append]
    rfl
  | some displaced =>
    have hfrom : entryAt t₁ (account, from_) = none := by
      rw [hentry₁, hentry]
      change update (write (entryAt t) (delete account [from_, to_]).writes) (account, to_) (some moving)
        (account, from_) = none
      rw [update_of_ne (fun h => hne (mk.inj h).2), write_delete]
      simp
    obtain ⟨t₂, ht₂, hentry₂⟩ := entryAt_insert ⟨account, from_, displaced⟩ hfrom
    have hcarry : carryOut t [.delete account [from_, to_], .insert ⟨account, to_, moving⟩, .insert ⟨account, from_, displaced⟩] =
        t₂ := by
      change ((cleared.insert ⟨account, to_, moving⟩).bind fun t => (t.insert ⟨account, from_, displaced⟩).bind some).getD t = t₂
      rw [ht₁]
      change ((t₁.insert ⟨account, from_, displaced⟩).bind some).getD t = t₂
      rw [ht₂]
      rfl
    change entryAt (carryOut t [.delete account [from_, to_], .insert ⟨account, to_, moving⟩,
      .insert ⟨account, from_, displaced⟩]) = _
    rw [hcarry, hentry₂, hentry₁, hentry, ← write_append, ← write_append]
    rfl

namespace HouseMgr

variable (w : HouseWorld om sv) (s : HouseMgr sv) (p : Visitor F)

def shelves (k : Square) : Option UInt32 := (s.shelf k.1).lookup k.2

/-- The operations queued between two states, which bring the shelves from the one to the other. -/
structure Queues (s s' : HouseMgr sv) (ops : List (Bool × List StorageStmt)) : Prop where
  queued : s'.db.storageOps = s.db.storageOps ++ ops
  sound : ∀ op ∈ ops, Sound op.2
  shelves : s'.shelves = (ops.map fun op => opWrites op.2).foldl Writes.write s.shelves

theorem Queues.refl : Queues s s [] := ⟨(append_nil _).symm, by simp, rfl⟩

theorem Queues.trans {s₁ s₂ s₃ : HouseMgr sv} {ops ops' : List (Bool × List StorageStmt)} (h : Queues s₁ s₂ ops)
    (h' : Queues s₂ s₃ ops') : Queues s₁ s₃ (ops ++ ops') where
  queued := by rw [h'.queued, h.queued, append_assoc]
  sound := by
    intro op hop
    rcases mem_append.1 hop with hop | hop
    · exact h.sound op hop
    · exact h'.sound op hop
  shelves := by rw [map_append, foldl_append, ← h.shelves, h'.shelves]

theorem shelf_insert (accountId : UInt32) (shelf : Table UInt32 UInt32) (a : UInt32) :
    HouseMgr.shelf { s with storage := s.storage.insert accountId shelf } a = if a = accountId then shelf else s.shelf a := by
  unfold HouseMgr.shelf
  split_ifs with h
  · rw [h, lookup_insert]; rfl
  · rw [lookup_insert_ne h]

theorem queues_putOnShelf (accountId slot itemEntry : UInt32) :
    ∃ ops, Queues s (s.putOnShelf accountId slot itemEntry) ops := by
  refine ⟨[(false, [.replace ⟨accountId, slot, itemEntry⟩])], rfl, ?_, ?_⟩
  · intro op hop
    rw [mem_singleton.1 hop]
    exact sound_replace _
  funext k
  change (HouseMgr.shelf { s with storage := s.storage.insert accountId ((s.shelf accountId).insert slot itemEntry) } k.1).lookup k.2 =
    update s.shelves (accountId, slot) (some itemEntry) k
  rw [shelf_insert]
  by_cases hk : k = (accountId, slot)
  · rw [hk, if_pos rfl, lookup_insert, update_self]
  rw [update_of_ne hk]
  split_ifs with ha
  · have hslot : k.2 ≠ slot := fun hs => hk (Prod.ext ha hs)
    rw [lookup_insert_ne hslot, ← ha]
    rfl
  · rfl

variable {accountId : UInt32} {shelf : Table UInt32 UInt32}

theorem queues_takeOff (slot : UInt32) (h : s.storage.lookup accountId = some shelf) :
    ∃ ops, Queues s (queueStorage { s with storage := s.storage.insert accountId (shelf.erase slot) } false
      [.delete accountId [slot]]) ops := by
  refine ⟨[(false, [.delete accountId [slot]])], rfl, ?_, ?_⟩
  · intro op hop
    rw [mem_singleton.1 hop]
    exact sound_delete _ _
  funext k
  have hshelf : s.shelf accountId = shelf := by unfold HouseMgr.shelf; rw [h]; rfl
  change (HouseMgr.shelf { s with storage := s.storage.insert accountId (shelf.erase slot) } k.1).lookup k.2 =
    update s.shelves (accountId, slot) none k
  rw [shelf_insert]
  by_cases hk : k = (accountId, slot)
  · rw [hk, if_pos rfl, lookup_erase, update_self]
  rw [update_of_ne hk]
  split_ifs with ha
  · have hslot : k.2 ≠ slot := fun hs => hk (Prod.ext ha hs)
    rw [lookup_erase_ne hslot, ← hshelf, ← ha]
    rfl
  · rfl

/-- A move puts into its two squares what the shelf had in the other one. -/
theorem queues_move {from_ to_ : UInt32} {shelf' : Table UInt32 UInt32} (moving : UInt32)
    (displaced : Option UInt32) (hne : from_ ≠ to_) (h : s.storage.lookup accountId = some shelf)
    (hshelf' : ∀ slot, shelf'.lookup slot = if slot = from_ then displaced else shelf.lookup slot) :
    ∃ ops, Queues s (queueStorage { s with storage := s.storage.insert accountId (shelf'.insert to_ moving) } true
        (moveStmts accountId from_ to_ moving displaced)) ops := by
  refine ⟨[(true, moveStmts accountId from_ to_ moving displaced)], rfl, ?_, ?_⟩
  · intro op hop
    rw [mem_singleton.1 hop]
    exact sound_move moving displaced hne
  funext k
  have hshelf : s.shelf accountId = shelf := by unfold HouseMgr.shelf; rw [h]; rfl
  have hwrites : write s.shelves (opWrites (moveStmts accountId from_ to_ moving displaced)) k =
      if k = (accountId, to_) then some moving else if k = (accountId, from_) then displaced else s.shelves k := by
    have hpair : ((accountId, from_) : Square) ≠ (accountId, to_) := fun hc => hne (Prod.mk.inj hc).2
    cases displaced with
    | none =>
      change update (update (update s.shelves (accountId, from_) none) (accountId, to_) none)
        (accountId, to_) (some moving) k = _
      split_ifs with h1 h2
      · rw [h1, update_self]
      · rw [update_of_ne h1, update_of_ne h1, h2, update_self]
      · rw [update_of_ne h1, update_of_ne h1, update_of_ne h2]
    | some displaced =>
      change update (update (update (update s.shelves (accountId, from_) none) (accountId, to_) none)
        (accountId, to_) (some moving)) (accountId, from_) (some displaced) k = _
      split_ifs with h1 h2
      · rw [h1, update_of_ne hpair.symm, update_self]
      · rw [h2, update_self]
      · rw [update_of_ne h2, update_of_ne h1, update_of_ne h1, update_of_ne h2]
  refine Eq.trans ?_ hwrites.symm
  change (HouseMgr.shelf { s with storage := s.storage.insert accountId (shelf'.insert to_ moving) } k.1).lookup k.2 = _
  rw [shelf_insert]
  by_cases ha : k.1 = accountId
  · have hkey : ∀ slot, k = (accountId, slot) ↔ k.2 = slot := fun slot => ⟨fun hk => by rw [hk], fun hk => Prod.ext ha hk⟩
    have hold : s.shelves k = shelf.lookup k.2 := by unfold shelves; rw [ha, hshelf]
    rw [if_pos ha, hold]
    simp only [hkey]
    split_ifs with h1 h2
    · rw [h1, lookup_insert]
    · rw [lookup_insert_ne h1, hshelf', if_pos h2]
    · rw [lookup_insert_ne h1, hshelf', if_neg h2]
  · have hkey : ∀ slot, k ≠ (accountId, slot) := fun slot hk => ha (by rw [hk])
    rw [if_neg ha, if_neg (hkey _), if_neg (hkey _)]
    rfl

theorem queues_storageDeposit (itemEntry slot : UInt32) :
    ∃ ops, Queues w.mgr (storageDeposit w p itemEntry slot).2.mgr ops := by
  unfold storageDeposit
  cases w.mgr.storageAllowed p with
  | error e => exact ⟨[], Queues.refl _⟩
  | ok u =>
    simp only
    split_ifs
    · exact ⟨[], Queues.refl _⟩
    · exact ⟨[], Queues.refl _⟩
    · exact ⟨[], Queues.refl _⟩
    · split
      · exact ⟨[], Queues.refl _⟩
      · exact queues_putOnShelf _ _ _ _
    · exact ⟨[], Queues.refl _⟩
    · exact queues_putOnShelf _ _ _ _

theorem queues_depositKind (itemEntry : UInt32) (have_ : Nat) (w : HouseWorld om sv) :
    ∃ ops, Queues w.mgr (depositKind p itemEntry have_ w).2.2.mgr ops := by
  induction have_ generalizing w with
  | zero => exact ⟨[], Queues.refl _⟩
  | succ have_ ih =>
    obtain ⟨ops, hops⟩ := queues_storageDeposit w p itemEntry 0
    unfold depositKind
    rcases hd : storageDeposit w p itemEntry 0 with ⟨reply, w'⟩
    rw [hd] at hops
    cases reply with
    | error e => exact ⟨ops, hops⟩
    | ok u =>
      obtain ⟨ops', hops'⟩ := ih w'
      exact ⟨ops ++ ops', hops.trans hops'⟩

theorem queues_depositKinds (entries : List UInt32) (w : HouseWorld om sv) :
    ∃ ops, Queues w.mgr (depositKinds p entries w).2.2.mgr ops := by
  induction entries generalizing w with
  | nil => exact ⟨[], Queues.refl _⟩
  | cons entry entries ih =>
    obtain ⟨ops, hops⟩ := queues_depositKind p entry (w.player.getItemCount entry false).toNat w
    unfold depositKinds
    rcases hd : depositKind p entry (w.player.getItemCount entry false).toNat w with ⟨moved, full, w'⟩
    rw [hd] at hops
    cases full with
    | true => exact ⟨ops, hops⟩
    | false =>
      obtain ⟨ops', hops'⟩ := ih w'
      exact ⟨ops ++ ops', hops.trans hops'⟩

theorem queues_storageDepositAll :
    ∃ ops, Queues w.mgr (storageDepositAll w p).2.2.mgr ops := by
  unfold storageDepositAll
  cases w.mgr.storageAllowed p with
  | error e => exact ⟨[], Queues.refl _⟩
  | ok u =>
    obtain ⟨ops, hops⟩ := queues_depositKinds p (sv.furnitureItems.map fst ++ sv.critterItems.map fst) w
    rcases hd : depositKinds p (sv.furnitureItems.map fst ++ sv.critterItems.map fst) w with ⟨moved, full, w'⟩
    rw [hd] at hops
    by_cases hm : moved = 0
    · simp only [hm, if_true]
      exact ⟨ops, hops⟩
    · simp only [hm, if_false]
      exact ⟨ops, hops⟩

theorem queues_storageWithdraw (slot : UInt32) :
    ∃ ops, Queues w.mgr (storageWithdraw w p slot).2.mgr ops := by
  unfold storageWithdraw
  cases w.mgr.storageAllowed p with
  | error e => exact ⟨[], Queues.refl _⟩
  | ok u =>
    simp only
    cases hs : w.mgr.storage.lookup p.accountId with
    | none => exact ⟨[], Queues.refl _⟩
    | some shelf =>
      simp only
      cases shelf.lookup slot with
      | none => exact ⟨[], Queues.refl _⟩
      | some itemEntry =>
        simp only
        cases giveItem w.player itemEntry with
        | error e => exact ⟨[], Queues.refl _⟩
        | ok player => exact queues_takeOff w.mgr slot hs

theorem queues_storageMove (from_ to_ : UInt32) :
    ∃ ops, Queues s (s.storageMove p from_ to_).2 ops := by
  unfold storageMove
  cases s.storageAllowed p with
  | error e => exact ⟨[], Queues.refl _⟩
  | ok u =>
    simp only
    split_ifs with h1 h2
    · exact ⟨[], Queues.refl _⟩
    · exact ⟨[], Queues.refl _⟩
    cases hs : s.storage.lookup p.accountId with
    | none => exact ⟨[], Queues.refl _⟩
    | some shelf =>
      simp only
      cases hfrom : shelf.lookup from_ with
      | none => exact ⟨[], Queues.refl _⟩
      | some moving =>
        apply queues_move s moving (shelf.lookup to_) h2 hs
        intro slot
        cases shelf.lookup to_ with
        | none =>
          split_ifs with h3
          · rw [h3]; exact lookup_erase _ _
          · exact lookup_erase_ne h3
        | some displaced =>
          split_ifs with h3
          · rw [h3]; exact lookup_insert _
          · exact lookup_insert_ne h3

end HouseMgr

end ComfyCraft
