import ComfyCraft.GuildBank.Realm
import ComfyCraft.GuildBank.Replay

/-! Persistence. A bank whose rows in `guild_bank` are those of its items keeps that up to the queue
through every run of item messages, so that after a save the rows are those of its items again. -/

namespace ComfyCraft

open List Runs BankItem BankRow World BankStore

variable {om : ObjectMgr} {ι : Type}

def ownRows (b : GuildBank om) (db : CharacterDatabase) : List BankRow :=
  db.guildBank.part (ownRow b.guildid b.bInfernoBank)

/-- One row for each item, with the item's columns, and no other row of this guild and bank kind. -/
def InStep (b : GuildBank om) (db : CharacterDatabase) : Prop := (b.bItems.map BankItem.row).Perm (ownRows b db)

namespace BankStore

variable {s : BankStore om}

theorem synced_of_perm (hq : s.queue = []) (h : (s.items.map BankItem.row).Perm (s.rows.part s.own)) : Synced List.Perm s := by
  have howns : ∀ it ∈ s.items, s.Owns it := by
    intro it hit
    have hrow : it.row ∈ s.rows.part s.own := h.subset (mem_map.2 ⟨it, hit, rfl⟩)
    obtain ⟨h1, h2⟩ := ownRow_iff.1 (Rows.mem_part.1 hrow).2
    exact ⟨h1, h2⟩
  refine ⟨⟨howns, by rw [hq]; simp⟩, ?_, s.rows, ?_, h⟩
  · have hkeys : ((s.items.map row).map key).Nodup :=
      ((h.map key).nodup_iff).2 (s.rows.unique.sublist (filter_sublist.map _))
    have hkey : (s.items.map row).map key = (s.items.map BankItem.guid).map fun g => (s.guildid, g, s.inferno) := by
      rw [map_map, map_map]
      apply map_congr_left
      intro it hit
      simp [row, key, (howns it hit).guildid, (howns it hit).inferno]
    rw [hkey] at hkeys
    exact hkeys.of_map
  · rw [hq]
    exact ⟨rfl, rfl⟩

theorem Synced.saved {R : List BankRow → List BankRow → Prop} (h : Synced R s)
    (hlock : s.locked = true → s.queue = []) : R (s.save.items.map BankItem.row) (s.save.rows.part s.own) := by
  obtain ⟨t, ht, hr⟩ := h.table
  rcases save_cases s with hs | hs
  · have hexec := ht.execute
    rw [hs.idle.elim hlock id] at hexec
    cases hexec
    rw [hs.rows, hs.items]
    exact hr
  · rw [hs.rows, hs.items, ht.commit, map_map]
    exact hr

/-- The edit's statement goes through, touches no other bank and removes nothing that is still there. -/
def Writes (s : BankStore om) (e : Edit om) : Prop := s.Written e ∧ ∀ it, e ≠ .enqueue it

theorem synced_editAll {es : List (Edit om)} (h : Synced List.Perm s) (hg : World.AllGenuine s es)
    (hw : Runs.Admitted edit Writes s es) : Synced List.Perm (World.editAll s es) := by
  induction es generalizing s with
  | nil => exact h
  | cons e es ih =>
    have hnext : Synced List.Perm (s.edit e) :=
      h.edit follows_perm hg.1 hw.1.1 fun it he => absurd he (hw.1.2 it)
    exact ih hnext hg.2 hw.2

end BankStore

namespace Realm

def store (s : Realm om ι) : BankStore om := s.bank.store s.db

def saveToDB (s : Realm om ι) : Realm om ι :=
  { s with bank := (s.bank.saveToDB s.db).1, db := (s.bank.saveToDB s.db).2 }

def messageEdits (s : Realm om ι) (m : ItemMessage ι) : List (Edit om) :=
  World.messageEdits m.ctx (s.seenBy m.who) m.text m.commands m.params

theorem store_handle [DecidableEq ι] (s : Realm om ι) (m : ItemMessage ι) :
    (s.handle m).store = World.editAll s.store (s.messageEdits m) :=
  World.store_handle m.ctx (s.seenBy m.who) m.text m.commands m.params

/-- No message completes a swap, changes an item whose guid is also on a row of the guild's other bank,
or hands out a guid the column has no room for. -/
def Persists (s : Realm om ι) (m : ItemMessage ι) : Prop := Runs.Admitted BankStore.edit BankStore.Writes s.store (s.messageEdits m)

/-- What a run keeps: the queue leads to the rows of the items, and a locked bank has queued nothing. -/
structure Kept (s : Realm om ι) : Prop where
  synced : BankStore.Synced List.Perm s.store
  idle : s.store.locked = true → s.store.queue = []

theorem kept_handle [DecidableEq ι] {s : Realm om ι} {m : ItemMessage ι} (h : s.Kept) (hp : s.Persists m) : (s.handle m).Kept := by
  refine ⟨?_, ?_⟩
  · rw [store_handle]
    exact synced_editAll h.synced (genuine_message m.ctx (w := s.seenBy m.who) m.text m.commands m.params h.synced.owns) hp
  intro hlock
  have hlocked : s.store.locked = true := by
    rw [store_handle] at hlock
    exact (constant (f := locked) (fun s e _ => locked_edit s e)
      (admitted_of_forall (fun _ _ => trivial : ∀ (_ : BankStore om) (_ : Edit om), True) s.store _)).symm.trans hlock
  have hnone : s.messageEdits m = [] := by
    unfold messageEdits World.messageEdits
    rw [if_pos (by
      have : (s.seenBy m.who).bank.bSaveLock = true := hlocked
      simp [this])]
  rw [store_handle, hnone]
  exact h.idle hlocked

/-- From rows that are those of the items, every run of item messages and the save after it lead to rows
that are those of the items, if no step of the run goes wrong. -/
theorem rows_after_save [DecidableEq ι] {s : Realm om ι} {ms : List (ItemMessage ι)} (hq : s.bank.bItemUpdateQueue = [])
    (hrows : InStep s.bank s.db) (hp : Runs.Admitted handle Persists s ms) :
    InStep ((Runs.run handle s ms).saveToDB).bank ((Runs.run handle s ms).saveToDB).db := by
  have hstart : s.Kept := ⟨synced_of_perm hq hrows, fun _ => hq⟩
  have hend : (run handle s ms).Kept := invariant (I := Kept) (fun s m h hp => kept_handle h hp) hstart hp
  have hsaved := hend.synced.saved hend.idle
  generalize run handle s ms = s' at hsaved
  have hstore : s'.saveToDB.store = s'.store.save := store_save s'.bank s'.db
  rw [← hstore] at hsaved
  have hown : s'.saveToDB.store.own = s'.store.own := by
    rw [hstore]
    exact own_edit s'.store .save
  rw [← hown] at hsaved
  exact hsaved

/-- A player with the sword's bank; the rows of the bank are those of its items. -/
def swordSample : Realm Sample.objectMgr Unit := ⟨fun _ => Sample.player, Sample.swordBank, Sample.swordDb⟩

/-- The sword is moved, three pieces of ore are deposited where it was, and the bank is saved. -/
theorem rows_after_save_sample : InStep ((Runs.run handle swordSample [sampleMessage "MoveItem:1:1:2" .moveItem [1, 1, 2],
        sampleMessage "DepositItem:0:1:1:1:3" .depositItem [0, 1, 1, 1, 3]]).saveToDB).bank
      ((Runs.run handle swordSample [sampleMessage "MoveItem:1:1:2" .moveItem [1, 1, 2],
        sampleMessage "DepositItem:0:1:1:1:3" .depositItem [0, 1, 1, 1, 3]]).saveToDB).db := by
  have hmove : Persists swordSample (sampleMessage "MoveItem:1:1:2" .moveItem [1, 1, 2]) := by
    refine ⟨⟨?_, fun it he => by cases he⟩, trivial⟩
    intro r hr
    cases hr
  have hdeposit : Persists (swordSample.handle (sampleMessage "MoveItem:1:1:2" .moveItem [1, 1, 2]))
      (sampleMessage "DepositItem:0:1:1:1:3" .depositItem [0, 1, 1, 1, 3]) := by
    refine ⟨⟨?_, fun it he => by cases he⟩, ⟨trivial, fun it he => by cases he⟩, trivial⟩
    intro x hx
    rcases mem_singleton.1 hx with rfl
    decide
  exact rows_after_save rfl (List.Perm.refl _) ⟨hmove, hdeposit, trivial⟩

/-- The sword is swapped for the ore: the save that writes the ore over the sword's row is followed by
one that deletes it. -/
theorem swap_loses_row :
    ¬ InStep ((swordSample.handle (sampleMessage "DepositItem:0:1:1:1:5" .depositItem [0, 1, 1, 1, 5])).saveToDB).bank
      ((swordSample.handle (sampleMessage "DepositItem:0:1:1:1:5" .depositItem [0, 1, 1, 1, 5])).saveToDB).db := by
  unfold InStep
  decide +kernel

end Realm

end ComfyCraft
