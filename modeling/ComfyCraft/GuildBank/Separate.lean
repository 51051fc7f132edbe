import ComfyCraft.GuildBank.Persist

/-! The two banks of a guild. They share `guild_bank`, and each hands out guids of its own. The statements
of a save keep to the rows of the bank that is saved, but for one case: the update of an item
whose own row is gone and whose guid is on a row of the other bank. -/

namespace ComfyCraft

open List Runs Rows World Transaction BankStore

variable {om : ObjectMgr} {ι : Type}

namespace BankItem

/-- If the entry is an update and a row that is not the bank's own answers to it, the bank's own row
does too; then the two would get one key, and the statement fails. -/
def Safe (own : BankRow → Bool) (it : BankItem om) (t : BankTable) : Prop :=
  it.state = .changed → (∃ r ∈ t.rest own, r.guildid = it.guildid ∧ r.guid = it.guid) →
    ∃ r ∈ t.part own, r.guid = it.guid

theorem rest_stmt {it : BankItem om} {t t' : BankTable} (hs : it.Safe it.own t) (h : it.stmt t = some t') :
    t'.rest it.own = t.rest it.own := by
  unfold stmt at h
  cases hstate : it.state with
  | unchanged => rw [hstate] at h; cases h; rfl
  | new =>
    rw [hstate] at h
    simp only at h
    unfold addToDB at h
    split_ifs at h
    exact (part_insert h it.own_row).2
  | removed =>
    rw [hstate] at h
    cases h
    refine (part_deleteWhere _ fun r _ hp => ?_).2
    rw [Bool.and_eq_true, Bool.and_eq_true, decide_eq_true_eq, decide_eq_true_eq, decide_eq_true_eq] at hp
    exact ownRow_iff.2 ⟨hp.1.1, hp.2⟩
  | changed =>
    rw [hstate] at h
    have hclear : ∀ r ∈ t.rest it.own, ¬ (r.guildid = it.guildid ∧ r.guid = it.guid) := by
      intro r hr hkey
      obtain ⟨q, hq, hguid⟩ := hs hstate ⟨r, hr, hkey⟩
      obtain ⟨hr, hrown⟩ := mem_rest.1 hr
      obtain ⟨hq, hqown⟩ := mem_part.1 hq
      have hne : r ≠ q := by
        rintro rfl
        exact absurd (hrown.symm.trans hqown) (by decide)
      -- both rows become the item's, which the unique key forbids
      have hnd := t'.unique
      rw [updateWhere_some h, map_map] at hnd
      apply hne
      refine inj_on_of_nodup_map hnd hr hq ?_
      simp [hkey.1, hkey.2, hguid, (ownRow_iff.1 hqown).1]
    exact (part_updateWhere h fun r hr hp => ⟨own_of_clear hr hclear hp, it.own_row⟩).2

end BankItem

/-- Every entry of the queue is safe in the table it finds. -/
def SafeFrom (own : BankRow → Bool) : BankTable → List (BankItem om) → Prop
  | _, [] => True
  | t, it :: queue => it.Safe own t ∧ ∀ t', it.stmt t = some t' → SafeFrom own t' queue

theorem rest_execute {own : BankRow → Bool} {t t' : BankTable} {queue : List (BankItem om)} (ho : ∀ it ∈ queue, it.own = own)
    (hs : SafeFrom own t queue) (h : Transaction.execute (queue.map BankItem.stmt) t = some t') : t'.rest own = t.rest own := by
  induction queue generalizing t with
  | nil => cases h; rfl
  | cons it queue ih =>
    obtain ⟨t1, h1, h2⟩ := Option.bind_eq_some_iff.1 h
    have hit := ho it mem_cons_self
    have hfirst : t1.rest own = t.rest own := by
      have hsafe := hs.1
      rw [← hit] at hsafe ⊢
      exact BankItem.rest_stmt hsafe h1
    exact (ih (fun x hx => ho x (mem_cons_of_mem _ hx)) (hs.2 t1 h1) h2).trans hfirst

namespace BankStore

/-- A save whose entries are all safe; every other edit writes nothing. -/
def SafeEdit (s : BankStore om) (e : Edit om) : Prop := e = .save → s.locked = false → SafeFrom s.own s.rows s.queue

variable {s : BankStore om}

theorem rest_edit {e : Edit om} (h : s.OwnsAll) (hs : s.SafeEdit e) : (s.edit e).rows.rest s.own = s.rows.rest s.own := by
  cases e with
  | save =>
    rw [edit_save]
    rcases save_cases s with hidle | hsaved
    · rw [hidle.rows]
    rw [hsaved.rows]
    unfold commit
    cases hexec : execute (s.queue.map BankItem.stmt) s.rows with
    | none => rfl
    | some t => exact rest_execute (fun it hit => (h.queue it hit).own_eq) (hs rfl hsaved.locked) hexec
  | _ => rfl

theorem rest_editAll {es : List (Edit om)} (h : s.OwnsAll) (hg : World.AllGenuine s es)
    (hs : Runs.Admitted edit SafeEdit s es) : (World.editAll s es).rows.rest s.own = s.rows.rest s.own := by
  induction es generalizing s with
  | nil => rfl
  | cons e es ih =>
    have hrest := ih (h.edit hg.1) hg.2 hs.2
    rw [own_edit] at hrest
    exact hrest.trans (rest_edit h hs.1)

end BankStore

structure Guild (om : ObjectMgr) (ι : Type) where
  players : ι → Player om
  bank : Bool → GuildBank om
  db : CharacterDatabase

inductive GuildStep (ι : Type)
  | message (inferno : Bool) (m : ItemMessage ι)
  | save (inferno : Bool)

namespace GuildStep

def inferno : GuildStep ι → Bool
  | message k _ => k
  | save k => k

end GuildStep

namespace Guild

def realm (s : Guild om ι) (k : Bool) : Realm om ι := ⟨s.players, s.bank k, s.db⟩

def put (s : Guild om ι) (k : Bool) (r : Realm om ι) : Guild om ι := ⟨r.players, Function.update s.bank k r.bank, r.db⟩

def store (s : Guild om ι) (k : Bool) : BankStore om := (s.bank k).store s.db

def edits (s : Guild om ι) : GuildStep ι → List (Edit om)
  | .message k m => (s.realm k).messageEdits m
  | .save _ => [.save]

/-- The banks carry the guild's id and their kind, and so do the items they hold or have queued. -/
structure Banks (guildid : UInt32) (s : Guild om ι) : Prop where
  guildid : ∀ k, (s.bank k).guildid = guildid
  inferno : ∀ k, (s.bank k).bInfernoBank = k
  owns : ∀ k, (s.store k).OwnsAll

/-- No save that the step makes updates an item whose own row is gone while the other bank has its guid. -/
def Safe (s : Guild om ι) (a : GuildStep ι) : Prop :=
  Runs.Admitted BankStore.edit BankStore.SafeEdit (s.store a.inferno) (s.edits a)

@[simp] theorem store_put_self (s : Guild om ι) (k : Bool) (r : Realm om ι) : (s.put k r).store k = r.store := by
  unfold put store Realm.store
  simp

variable {g : UInt32} {s : Guild om ι}

theorem genuine_edits (h : Banks g s) (a : GuildStep ι) : World.AllGenuine (s.store a.inferno) (s.edits a) := by
  cases a with
  | message k m => exact genuine_message m.ctx (w := (s.realm k).seenBy m.who) m.text m.commands m.params (h.owns k)
  | save k => exact ⟨trivial, trivial⟩

theorem own_store (h : Banks g s) (k : Bool) : (s.store k).own = ownRow g k := by
  have h1 : (s.store k).guildid = g := h.guildid k
  have h2 : (s.store k).inferno = k := h.inferno k
  unfold own
  rw [h1, h2]

theorem key_editAll (s : BankStore om) (es : List (Edit om)) :
    (World.editAll s es).guildid = s.guildid ∧ (World.editAll s es).inferno = s.inferno := by
  induction es generalizing s with
  | nil => exact ⟨rfl, rfl⟩
  | cons e es ih =>
    obtain ⟨h1, h2⟩ := ih (s.edit e)
    exact ⟨h1.trans (guildid_edit s e), h2.trans (inferno_edit s e)⟩

variable [DecidableEq ι]

def step (s : Guild om ι) : GuildStep ι → Guild om ι
  | .message k m => s.put k ((s.realm k).handle m)
  | .save k => s.put k (s.realm k).saveToDB

theorem store_step (s : Guild om ι) (a : GuildStep ι) :
    (s.step a).store a.inferno = World.editAll (s.store a.inferno) (s.edits a) := by
  cases a with
  | message k m => exact (store_put_self s k _).trans (Realm.store_handle (s.realm k) m)
  | save k => exact (store_put_self s k _).trans (store_save (s.bank k) s.db)

theorem bank_step_ne (s : Guild om ι) (a : GuildStep ι) {k : Bool} (hk : k ≠ a.inferno) : (s.step a).bank k = s.bank k := by
  cases a <;> exact Function.update_of_ne hk _ _

theorem banks_step (h : Banks g s) (a : GuildStep ι) : Banks g (s.step a) := by
  obtain ⟨hid, hkind⟩ := key_editAll (s.store a.inferno) (s.edits a)
  rw [← store_step] at hid hkind
  refine ⟨fun k => ?_, fun k => ?_, fun k => ?_⟩
  · by_cases hk : k = a.inferno
    · subst hk; exact hid.trans (h.guildid _)
    · rw [bank_step_ne s a hk]; exact h.guildid k
  · by_cases hk : k = a.inferno
    · subst hk; exact hkind.trans (h.inferno _)
    · rw [bank_step_ne s a hk]; exact h.inferno k
  by_cases hk : k = a.inferno
  · subst hk
    rw [store_step]
    exact (genuine_edits h a).ownsAll (h.owns _)
  · have ho := h.owns k
    unfold store at ho ⊢
    rw [bank_step_ne s a hk]
    exact ⟨fun it hit => ⟨(ho.items it hit).1, (ho.items it hit).2⟩, fun it hit => ⟨(ho.queue it hit).1, (ho.queue it hit).2⟩⟩

/-- In a run whose saves are safe, no step inserts, changes or deletes a row that does not belong to the
bank it acts on, whatever guids the two banks have handed out. -/
theorem other_rows_kept {g : UInt32} {s : Guild om ι} {as : List (GuildStep ι)} (hb : Banks g s)
    (hs : Runs.Admitted step Safe s as) {n : Nat} {a : GuildStep ι} (ha : as[n]? = some a) :
    (Runs.run step s (as.take (n + 1))).db.guildBank.rest (ownRow g a.inferno) =
      (Runs.run step s (as.take n)).db.guildBank.rest (ownRow g a.inferno) := by
  obtain ⟨hsafe, hnext⟩ := hs.getElem? ha
  have hbanks : Banks g (run step s (as.take n)) :=
    invariant (I := Banks g) (fun s a h _ => banks_step h a) hb (hs.take n)
  rw [hnext, ← own_store hbanks a.inferno]
  generalize run step s (as.take n) = s' at hsafe hbanks
  have hrest := rest_editAll (hbanks.owns a.inferno) (genuine_edits hbanks a) hsafe
  rw [← store_step] at hrest
  exact hrest

/-- Five pieces of ore in the first slot of the inferno bank, under the guid the sword has in the other. -/
def infernoOre : BankItem Sample.objectMgr :=
  { Sample.bankSword with itemTemplate := 1, count := 5, maxStackSize := 20, maxStackSize_eq := rfl, isInferno := true }

def sample : Guild Sample.objectMgr Unit where
  players _ := Sample.player
  bank k := if k then { Sample.bank with bInfernoBank := true, bItems := [infernoOre] } else Sample.swordBank
  db := { Sample.db with guildBank := ⟨[Sample.bankSword.row, infernoOre.row], by decide⟩ }

theorem banks_sample : Banks 1 sample := by
  refine ⟨fun k => by cases k <;> rfl, fun k => by cases k <;> rfl, fun k => ?_⟩
  cases k
  all_goals
    refine ⟨fun it hit => ?_, fun it hit => absurd hit not_mem_nil⟩
    rcases mem_singleton.1 hit with rfl
    exact ⟨rfl, rfl⟩

def sampleStep (text : String) (cmd : Command) (params : List Int) : GuildStep Unit :=
  .message false (Realm.sampleMessage text cmd params)

/-- Three pieces of ore are deposited in the normal bank, which saves it. -/
theorem other_rows_kept_sample :
    (Runs.run step sample ([sampleStep "DepositItem:0:1:1:2:3" .depositItem [0, 1, 1, 2, 3]].take 1)).db.guildBank.rest
        (ownRow 1 (sampleStep "DepositItem:0:1:1:2:3" .depositItem [0, 1, 1, 2, 3]).inferno) =
      (Runs.run step sample ([sampleStep "DepositItem:0:1:1:2:3" .depositItem [0, 1, 1, 2, 3]].take 0)).db.guildBank.rest
        (ownRow 1 (sampleStep "DepositItem:0:1:1:2:3" .depositItem [0, 1, 1, 2, 3]).inferno) := by
  have hsafe : Safe sample (sampleStep "DepositItem:0:1:1:2:3" .depositItem [0, 1, 1, 2, 3]) :=
    ⟨(by intro he; cases he), fun _ _ => ⟨(by intro hstate; cases hstate), fun _ _ => trivial⟩, trivial⟩
  have hrun : Runs.Admitted step Safe sample [sampleStep "DepositItem:0:1:1:2:3" .depositItem [0, 1, 1, 2, 3]] :=
    ⟨hsafe, trivial⟩
  exact other_rows_kept banks_sample hrun rfl

/-- The sword is swapped for ore, which deletes its row; when what lies there now is moved and saved, the
update finds the inferno bank's row only and makes it one of the normal bank. -/
theorem save_takes_other_row : ¬ (Runs.run step sample [sampleStep "DepositItem:0:1:1:1:5" .depositItem [0, 1, 1, 1, 5],
        sampleStep "MoveItem:1:1:2" .moveItem [1, 1, 2], .save false]).db.guildBank.rest (ownRow 1 false) =
      (Runs.run step sample [sampleStep "DepositItem:0:1:1:1:5" .depositItem [0, 1, 1, 1, 5],
        sampleStep "MoveItem:1:1:2" .moveItem [1, 1, 2]]).db.guildBank.rest (ownRow 1 false) := by
  decide +kernel

end Guild

end ComfyCraft
