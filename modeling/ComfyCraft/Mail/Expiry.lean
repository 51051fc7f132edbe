import ComfyCraft.Lib.Rows

/-! The expiry of mail: a query finds the mails that are past their time, those without items are deleted at once, and for each of
the others a second query asks for the item, after which the mail is deleted or goes back to the sender. -/

namespace ComfyCraft

open List RowEdits

namespace OldMails

def mailNormal : Nat := 0

def mailCheckMaskReturned : Nat := 0x02

def mailCheckMaskCodPayment : Nat := 0x08

def day : Nat := 86400

/-! The tables, with the columns that the expiry reads or writes. -/

structure MailRow where
  id : Nat
  messageType : Nat
  sender : Nat
  receiver : Nat
  itemTextId : Nat
  hasItems : Bool
  expireTime : Nat
  deliverTime : Nat
  money : Nat
  cod : Nat
  checked : Nat
  isDeleted : Bool
deriving DecidableEq

structure MailItemRow where
  mailId : Nat
  itemGuid : Nat
  receiver : Nat
deriving DecidableEq

structure ItemInstanceRow where
  guid : Nat
  ownerGuid : Nat
deriving DecidableEq

structure ItemTextRow where
  id : Nat
  text : String
deriving DecidableEq

structure CharacterDatabase where
  mail : List MailRow
  mailItems : List MailItemRow
  itemInstance : List ItemInstanceRow
  itemText : List ItemTextRow

inductive MailStatement
  | deleteBlankMails (basetime : Nat)
  | deleteItemInstance (guid : Nat)
  | deleteMailItems (mailId : Nat)
  | deleteItemText (id : Nat)
  | setDeleted (id : Nat)
  | returnMail (sender receiver expireTime deliverTime checked id : Nat)
  | setMailItemReceiver (receiver itemGuid : Nat)
  | setItemOwner (ownerGuid guid : Nat)
deriving DecidableEq

/-- A mail without item and without body that is past its time. -/
def MailRow.isBlank (basetime : Nat) (r : MailRow) : Bool := r.expireTime < basetime && !r.hasItems && r.itemTextId = 0

namespace MailStatement

def onMail (st : MailStatement) (r : MailRow) : Option MailRow :=
  match st with
  | deleteBlankMails basetime => some (if r.isBlank basetime then { r with isDeleted := true } else r)
  | setDeleted id => some (if r.id = id then { r with isDeleted := true } else r)
  | returnMail sender receiver expireTime deliverTime checked id =>
    some (if r.id = id then { r with sender, receiver, expireTime, deliverTime, cod := 0, checked } else r)
  | _ => some r

def onMailItem (st : MailStatement) (r : MailItemRow) : Option MailItemRow :=
  match st with
  | deleteMailItems mailId => if r.mailId = mailId then none else some r
  | setMailItemReceiver receiver itemGuid => some (if r.itemGuid = itemGuid then { r with receiver } else r)
  | _ => some r

def onItemInstance (st : MailStatement) (r : ItemInstanceRow) : Option ItemInstanceRow :=
  match st with
  | deleteItemInstance guid => if r.guid = guid then none else some r
  | setItemOwner ownerGuid guid => some (if r.guid = guid then { r with ownerGuid } else r)
  | _ => some r

def onItemText (st : MailStatement) (r : ItemTextRow) : Option ItemTextRow :=
  match st with
  | deleteItemText id => if r.id = id then none else some r
  | _ => some r

end MailStatement

namespace CharacterDatabase

def execute (db : CharacterDatabase) (statements : List MailStatement) : CharacterDatabase where
  mail := RowEdits.run MailStatement.onMail statements db.mail
  mailItems := RowEdits.run MailStatement.onMailItem statements db.mailItems
  itemInstance := RowEdits.run MailStatement.onItemInstance statements db.itemInstance
  itemText := RowEdits.run MailStatement.onItemText statements db.itemText

/-- The answer of the second query; 0 where there is none. -/
def itemOf (db : CharacterDatabase) (mailId : Nat) : Nat := ((db.mailItems.find? fun r => r.mailId = mailId).map MailItemRow.itemGuid).getD 0

/-- The keys of the tables are unique; an item is in one mail, and a mail holds one item. -/
structure Valid (db : CharacterDatabase) : Prop where
  mail : (db.mail.map MailRow.id).Nodup
  oneItem : (db.mailItems.map MailItemRow.mailId).Nodup
  oneMail : (db.mailItems.map MailItemRow.itemGuid).Nodup

end CharacterDatabase

/-! What is read of a mail. -/

structure Mail where
  messageID : Nat
  messageType : Nat
  sender : Nat
  receiverGuid : Nat
  itemTextId : Nat
  expireTime : Nat
  deliverTime : Nat
  cod : Nat
  checked : Nat

/-- A new mail object takes its fields from the row but for the text id, which stays what the object happens to hold. -/
def fetchOldMail (held : Nat) (r : MailRow) : Mail where
  messageID := r.id
  messageType := r.messageType
  sender := r.sender
  receiverGuid := r.receiver
  itemTextId := held
  expireTime := r.expireTime
  deliverTime := 0
  cod := r.cod
  checked := r.checked

/-- The base time is set, and is read, only where there is somebody to return to. -/
structure SingleMailReturner where
  returnToLowGuid : Nat
  basetime : Nat
  messageID : Nat
  receiverGuid : Nat
  itemTextId : Nat
deriving DecidableEq

/-- `SingleMailReturner::Callback`, with the item that the query answers. -/
def SingleMailReturner.callback (r : SingleMailReturner) (online : Bool) (itemGuid : Nat) : List MailStatement :=
  if online then []
  else if r.returnToLowGuid = 0 then
    (if itemGuid ≠ 0 then [.deleteItemInstance itemGuid, .deleteMailItems r.messageID] else []) ++
      (if r.itemTextId ≠ 0 then [.deleteItemText r.itemTextId] else []) ++ [.setDeleted r.messageID]
  else
    .returnMail r.receiverGuid r.returnToLowGuid (r.basetime + 30 * day) r.basetime mailCheckMaskReturned r.messageID ::
      (if itemGuid ≠ 0 then [.setMailItemReceiver r.returnToLowGuid itemGuid, .setItemOwner r.returnToLowGuid itemGuid] else [])

/-- One round of `OldMailsReturner::Callback`: the statements, and the returner that asks for the item. -/
def oldMail (serverUp : Bool) (basetime : Nat) (online : Nat → Bool) (m : Mail) (hasItems : Bool) :
    List MailStatement × Option SingleMailReturner :=
  if serverUp && online m.receiverGuid then ([], none)
  else if hasItems then
    ([], some
      { returnToLowGuid :=
          if m.messageType ≠ mailNormal ∨ m.checked &&& (mailCheckMaskCodPayment ||| mailCheckMaskReturned) ≠ 0 then 0 else m.sender
        basetime, messageID := m.messageID, receiverGuid := m.receiverGuid, itemTextId := m.itemTextId })
  else ((if m.itemTextId ≠ 0 then [.deleteItemText m.itemTextId] else []) ++ [.setDeleted m.messageID], none)

/-! A whole expiry. -/

/-- `ReturnOrDeleteOldMails` on a database: the rows that the query found, in its order, who is online when they are looked at and
when the item of a mail has been asked for, what new mail objects hold, and the order in which the second answers come. -/
structure Expiry where
  db : CharacterDatabase
  valid : db.Valid
  serverUp : Bool
  basetime : Nat
  found : List MailRow
  found_ids : (found.map MailRow.id).Nodup
  found_sub : ∀ r ∈ found, r ∈ db.mail ∧ r.expireTime < basetime ∧ r.isDeleted = false
  found_few : found.length ≤ if serverUp then 300 else 1000
  online : Nat → Bool
  onlineThen : Nat → Nat → Bool
  held : Nat → Nat
  order : List SingleMailReturner
  order_perm : order.Perm (found.filterMap fun r => (oldMail serverUp basetime online (fetchOldMail (held r.id) r) r.hasItems).2)

namespace Expiry

def round (x : Expiry) (r : MailRow) : List MailStatement × Option SingleMailReturner :=
  oldMail x.serverUp x.basetime x.online (fetchOldMail (x.held r.id) r) r.hasItems

def firstStatements (x : Expiry) : List MailStatement :=
  (if x.serverUp then [] else [.deleteBlankMails x.basetime]) ++ x.found.flatMap fun r => (x.round r).1

def single (x : Expiry) (db : CharacterDatabase) (r : SingleMailReturner) : CharacterDatabase :=
  db.execute (r.callback (x.onlineThen r.messageID r.receiverGuid) (db.itemOf r.messageID))

def result (x : Expiry) : CharacterDatabase := x.order.foldl x.single (x.db.execute x.firstStatements)

variable {x : Expiry} {e r : MailRow} {st : MailStatement}

/-! What is done for one mail. -/

def skips (x : Expiry) (r : MailRow) : Bool := x.serverUp && x.online r.receiver

def reads (x : Expiry) (r : MailRow) : Bool := x.onlineThen r.id r.receiver

/-- A player wrote the mail; the payment for a mail that is cash on delivery is none that a player writes. -/
def PlayerSent (r : MailRow) : Prop := r.messageType = mailNormal ∧ r.sender ≠ 0 ∧ r.checked &&& mailCheckMaskCodPayment = 0

def WasReturned (r : MailRow) : Prop := r.checked &&& mailCheckMaskReturned ≠ 0

/-- A mail that a player sent with an item, which was not returned before, and whose receiver is offline. -/
def Returns (x : Expiry) (r : MailRow) : Prop :=
  r.hasItems = true ∧ PlayerSent r ∧ ¬ WasReturned r ∧ x.skips r = false ∧ x.reads r = false

/-- Any other mail, unless its receiver is found online. -/
def Drops (x : Expiry) (r : MailRow) : Prop :=
  x.skips r = false ∧ (r.hasItems = false ∨ x.reads r = false ∧ ¬ (PlayerSent r ∧ ¬ WasReturned r))

def later (x : Expiry) (s : SingleMailReturner) : List MailStatement :=
  s.callback (x.onlineThen s.messageID s.receiverGuid) (x.db.itemOf s.messageID)

def own (x : Expiry) (r : MailRow) : List MailStatement := (x.round r).1 ++ ((x.round r).2.map x.later).getD []

/-- Which they are. -/
inductive Owned (x : Expiry) (r : MailRow) : MailStatement → Prop
  | returnMail (h : x.Returns r) : Owned x r (.returnMail r.receiver r.sender (x.basetime + 30 * day) x.basetime mailCheckMaskReturned r.id)
  | itemReceiver (h : x.Returns r) (hitem : x.db.itemOf r.id ≠ 0) : Owned x r (.setMailItemReceiver r.sender (x.db.itemOf r.id))
  | itemOwner (h : x.Returns r) (hitem : x.db.itemOf r.id ≠ 0) : Owned x r (.setItemOwner r.sender (x.db.itemOf r.id))
  | item (h : x.Drops r) (hitem : x.db.itemOf r.id ≠ 0) (hitems : r.hasItems = true) : Owned x r (.deleteItemInstance (x.db.itemOf r.id))
  | mailItems (h : x.Drops r) (hitem : x.db.itemOf r.id ≠ 0) (hitems : r.hasItems = true) : Owned x r (.deleteMailItems r.id)
  | text (h : x.Drops r) (hheld : x.held r.id ≠ 0) : Owned x r (.deleteItemText (x.held r.id))
  | flag (h : x.Drops r) : Owned x r (.setDeleted r.id)

theorem returnTo_eq (r : MailRow) [Decidable (PlayerSent r ∧ ¬ WasReturned r)] :
    (if r.messageType ≠ mailNormal ∨ r.checked &&& (mailCheckMaskCodPayment ||| mailCheckMaskReturned) ≠ 0 then 0 else r.sender) =
      if PlayerSent r ∧ ¬ WasReturned r then r.sender else 0 := by
  have hmask : r.checked &&& (mailCheckMaskCodPayment ||| mailCheckMaskReturned) = 0 ↔
      r.checked &&& mailCheckMaskCodPayment = 0 ∧ ¬ WasReturned r := by
    rw [Nat.and_or_distrib_left, Nat.or_eq_zero_iff]
    exact and_congr_right fun _ => not_not.symm
  by_cases hnormal : r.messageType ≠ mailNormal ∨ r.checked &&& (mailCheckMaskCodPayment ||| mailCheckMaskReturned) ≠ 0
  · rw [if_pos hnormal, if_neg]
    rintro ⟨⟨htype, -, hpayment⟩, hreturned⟩
    exact hnormal.elim (fun h => h htype) fun h => h (hmask.2 ⟨hpayment, hreturned⟩)
  rw [if_neg hnormal]
  obtain ⟨htype, hchecked⟩ := not_or.1 hnormal
  obtain ⟨hpayment, hreturned⟩ := hmask.1 (not_not.1 hchecked)
  split_ifs with hsent
  · rfl
  · by_contra hsender
    exact hsent ⟨⟨not_not.1 htype, hsender, hpayment⟩, hreturned⟩

open Classical in
theorem own_eq (x : Expiry) (r : MailRow) : x.own r =
      if x.Returns r then
        .returnMail r.receiver r.sender (x.basetime + 30 * day) x.basetime mailCheckMaskReturned r.id ::
          (if x.db.itemOf r.id ≠ 0 then [.setMailItemReceiver r.sender (x.db.itemOf r.id), .setItemOwner r.sender (x.db.itemOf r.id)]
            else [])
      else if x.Drops r then
        (if r.hasItems = true ∧ x.db.itemOf r.id ≠ 0 then [.deleteItemInstance (x.db.itemOf r.id), .deleteMailItems r.id] else []) ++
          (if x.held r.id ≠ 0 then [.deleteItemText (x.held r.id)] else []) ++ [.setDeleted r.id]
      else [] := by
  unfold own round oldMail fetchOldMail
  dsimp only
  rw [returnTo_eq]
  cases hskip : x.serverUp && x.online r.receiver with
  | true =>
    have hreturns : ¬ x.Returns r := fun h => absurd (h.2.2.2.1.symm.trans hskip) Bool.false_ne_true
    have hdrops : ¬ x.Drops r := fun h => absurd (h.1.symm.trans hskip) Bool.false_ne_true
    rw [if_neg hreturns, if_neg hdrops]
    rfl
  | false =>
    rw [if_neg Bool.false_ne_true]
    cases hitems : r.hasItems with
    | false =>
      have hreturns : ¬ x.Returns r := fun h => absurd (hitems.symm.trans h.1) Bool.false_ne_true
      have hdrops : x.Drops r := ⟨hskip, .inl hitems⟩
      rw [if_neg hreturns, if_pos hdrops]
      exact append_nil _
    | true =>
      rw [if_pos rfl]
      dsimp only [Option.map_some, Option.getD_some, nil_append]
      unfold later SingleMailReturner.callback
      dsimp only
      cases hread : x.onlineThen r.id r.receiver with
      | true =>
        have hreturns : ¬ x.Returns r := fun h => absurd (h.2.2.2.2.symm.trans hread) Bool.false_ne_true
        have hdrops : ¬ x.Drops r := by
          rintro ⟨-, h | ⟨h, -⟩⟩
          · exact absurd (h.symm.trans hitems) Bool.false_ne_true
          · exact absurd (h.symm.trans hread) Bool.false_ne_true
        rw [if_neg hreturns, if_neg hdrops]
        rfl
      | false =>
        rw [if_neg Bool.false_ne_true]
        by_cases hsent : PlayerSent r ∧ ¬ WasReturned r
        · have hreturns : x.Returns r := ⟨hitems, hsent.1, hsent.2, hskip, hread⟩
          rw [if_pos hsent, if_neg hsent.1.2.1, if_pos hreturns]
        · have hreturns : ¬ x.Returns r := fun h => hsent ⟨h.2.1, h.2.2.1⟩
          have hdrops : x.Drops r := ⟨hskip, .inr ⟨hread, hsent⟩⟩
          rw [if_neg hsent, if_pos rfl, if_neg hreturns, if_pos hdrops]
          simp only [true_and]

theorem mem_own : st ∈ x.own r ↔ x.Owned r st := by
  rw [own_eq]
  constructor
  · intro h
    split_ifs at h with hreturns hitem hdrops hdelete hheld hheld
    all_goals simp only [cons_append, nil_append, mem_cons, mem_nil_iff, or_false] at h
    · rcases h with rfl | rfl | rfl
      · exact .returnMail hreturns
      · exact .itemReceiver hreturns hitem
      · exact .itemOwner hreturns hitem
    · subst h
      exact .returnMail hreturns
    · rcases h with rfl | rfl | rfl | rfl
      · exact .item hdrops hdelete.2 hdelete.1
      · exact .mailItems hdrops hdelete.2 hdelete.1
      · exact .text hdrops hheld
      · exact .flag hdrops
    · rcases h with rfl | rfl | rfl
      · exact .item hdrops hdelete.2 hdelete.1
      · exact .mailItems hdrops hdelete.2 hdelete.1
      · exact .flag hdrops
    · rcases h with rfl | rfl
      · exact .text hdrops hheld
      · exact .flag hdrops
    · subst h
      exact .flag hdrops
  · have happart : x.Drops r → ¬ x.Returns r := fun hd hr => by
      rcases hd.2 with hitems | ⟨-, hnot⟩
      · exact absurd hr.1 (by rw [hitems]; exact Bool.false_ne_true)
      · exact hnot ⟨hr.2.1, hr.2.2.1⟩
    intro h
    cases h with
    | returnMail h => simp [h]
    | itemReceiver h hitem => simp [h, hitem]
    | itemOwner h hitem => simp [h, hitem]
    | item h hitem hitems => simp [happart h, h, hitem, hitems]
    | mailItems h hitem hitems => simp [happart h, h, hitem, hitems]
    | text h hheld => simp [happart h, h, hheld]
    | flag h => simp [happart h, h]

/-! All that is executed. -/

def statements (x : Expiry) : List MailStatement := x.firstStatements ++ x.order.flatMap x.later

theorem execute_append (db : CharacterDatabase) (l l' : List MailStatement) : (db.execute l).execute l' = db.execute (l ++ l') := by
  unfold CharacterDatabase.execute run
  simp only [foldl_append]

variable {i i' : MailItemRow} {mailId : Nat} {s : SingleMailReturner}

theorem onMailItem_some (h : st.onMailItem i = some i') : i'.mailId = i.mailId ∧ i'.itemGuid = i.itemGuid := by
  unfold MailStatement.onMailItem at h
  split at h
  · split_ifs at h
    cases h
    exact ⟨rfl, rfl⟩
  · cases h
    split_ifs <;> exact ⟨rfl, rfl⟩
  · cases h
    exact ⟨rfl, rfl⟩

theorem itemOf_execute (db : CharacterDatabase) {l : List MailStatement} (h : .deleteMailItems mailId ∉ l) :
    (db.execute l).itemOf mailId = db.itemOf mailId := by
  unfold CharacterDatabase.itemOf CharacterDatabase.execute
  dsimp only
  rw [find_run]
  · intro st _ r r' hr
    obtain ⟨hmail, hguid⟩ := onMailItem_some hr
    exact ⟨by rw [hmail], hguid⟩
  intro st hst r hr
  rw [decide_eq_true_eq] at hr
  unfold MailStatement.onMailItem
  split
  · rw [if_neg]
    · exact Option.some_ne_none r
    · rintro rfl
      exact h (hr ▸ hst)
  · exact Option.some_ne_none _
  · exact Option.some_ne_none _

theorem round_later (h : (x.round r).2 = some s) : s.messageID = r.id := by
  unfold round oldMail at h
  split_ifs at h <;> cases h <;> rfl

theorem order_ids (x : Expiry) : (x.order.map SingleMailReturner.messageID).Nodup := by
  have hsub : ∀ l : List MailRow, ((l.filterMap fun r => (x.round r).2).map SingleMailReturner.messageID).Sublist (l.map MailRow.id) := by
    intro l
    induction l with
    | nil => exact List.Sublist.slnil
    | cons r l ih =>
      cases hr : (x.round r).2 with
      | none =>
        simp only [filterMap_cons, hr, map_cons]
        exact ih.cons _
      | some s =>
        simp only [filterMap_cons, hr, map_cons, round_later hr]
        exact ih.cons_cons _
  exact (x.order_perm.map _).nodup_iff.2 (x.found_ids.sublist (hsub x.found))

theorem later_deletes (h : .deleteMailItems mailId ∈ x.later s) : mailId = s.messageID := by
  unfold later SingleMailReturner.callback at h
  split_ifs at h <;> simp at h
  all_goals exact h

theorem first_keeps_items (mailId : Nat) : .deleteMailItems mailId ∉ x.firstStatements := by
  unfold firstStatements
  rw [mem_append, mem_flatMap, not_or]
  constructor
  · split_ifs <;> simp
  · rintro ⟨r, -, hr⟩
    unfold round oldMail at hr
    split_ifs at hr <;> simp at hr

/-- The answers come in any order: each callback sees the item that the mail had before. -/
theorem result_eq (x : Expiry) : x.result = x.db.execute x.statements := by
  have hall : ∀ (order : List SingleMailReturner) (l : List MailStatement), (order.map SingleMailReturner.messageID).Nodup →
      (∀ s ∈ order, .deleteMailItems s.messageID ∉ l) → order.foldl x.single (x.db.execute l) = x.db.execute (l ++ order.flatMap x.later) := by
    intro order
    induction order with
    | nil =>
      intro l _ _
      rw [flatMap_nil, append_nil]
      rfl
    | cons s order ih =>
      intro l hids hl
      rw [map_cons, nodup_cons] at hids
      have hsingle : x.single (x.db.execute l) s = x.db.execute (l ++ x.later s) := by
        unfold single
        rw [itemOf_execute _ (hl s mem_cons_self), execute_append]
        rfl
      rw [foldl_cons, hsingle, ih _ hids.2, flatMap_cons, append_assoc]
      intro s' hs' hmem
      rcases mem_append.1 hmem with hold | hnew
      · exact hl s' (mem_cons_of_mem s hs') hold
      · exact hids.1 (later_deletes hnew ▸ mem_map_of_mem hs')
  exact hall x.order x.firstStatements x.order_ids fun s _ => first_keeps_items s.messageID

theorem mem_statements :
    st ∈ x.statements ↔ x.serverUp = false ∧ st = .deleteBlankMails x.basetime ∨ ∃ e ∈ x.found, x.Owned e st := by
  have hlater : (∃ s ∈ x.order, st ∈ x.later s) ↔ ∃ e ∈ x.found, st ∈ ((x.round e).2.map x.later).getD [] := by
    constructor
    · rintro ⟨s, hs, hst⟩
      obtain ⟨e, he, hround⟩ := mem_filterMap.1 (x.order_perm.mem_iff.1 hs)
      refine ⟨e, he, ?_⟩
      rw [round, hround]
      exact hst
    · rintro ⟨e, he, hst⟩
      cases hround : (x.round e).2 with
      | none =>
        rw [hround] at hst
        cases hst
      | some s =>
        rw [hround] at hst
        exact ⟨s, x.order_perm.mem_iff.2 (mem_filterMap.2 ⟨e, he, hround⟩), hst⟩
  have hblank : st ∈ (if x.serverUp = true then [] else [MailStatement.deleteBlankMails x.basetime]) ↔
      x.serverUp = false ∧ st = .deleteBlankMails x.basetime := by
    cases x.serverUp <;> simp
  simp only [← mem_own, own, mem_append, statements, firstStatements, mem_flatMap, hlater, hblank, and_or_left, exists_or,
    or_assoc]

theorem forall_statements {P : MailStatement → Prop} (hblank : x.serverUp = false → P (.deleteBlankMails x.basetime))
    (hown : ∀ e ∈ x.found, ∀ st, x.Owned e st → P st) : ∀ st ∈ x.statements, P st := by
  intro st hst
  rcases mem_statements.1 hst with ⟨hup, rfl⟩ | ⟨e, he, howned⟩
  · exact hblank hup
  · exact hown e he st howned

theorem mem_of_owned (hr : r ∈ x.found) (h : x.Owned r st) : st ∈ x.statements := mem_statements.2 (.inr ⟨r, hr, h⟩)

/-! What the expiry does to the tables. -/

def selectedIds (x : Expiry) : List Nat :=
  x.found.map MailRow.id ++ (x.db.mail.filter fun r => !x.serverUp && r.isBlank x.basetime).map MailRow.id

def selectedItems (x : Expiry) : List Nat := (x.db.mailItems.filter fun r => r.mailId ∈ x.selectedIds).map MailItemRow.itemGuid

theorem mem_selectedIds (he : e ∈ x.found) : e.id ∈ x.selectedIds := mem_append_left _ (mem_map_of_mem he)

theorem blank_selected (hr : r ∈ x.db.mail) (hup : x.serverUp = false)
    (hblank : r.isBlank x.basetime = true) : r.id ∈ x.selectedIds := by
  refine mem_append_right _ (mem_map_of_mem (mem_filter.2 ⟨hr, ?_⟩))
  rw [hup, hblank]
  rfl

theorem eq_of_itemGuid (hi : i ∈ x.db.mailItems) (hi' : i' ∈ x.db.mailItems) (h : i.itemGuid = i'.itemGuid) : i = i' :=
  inj_on_of_nodup_map x.valid.oneMail hi hi' h

theorem itemOf_mem (h : x.db.itemOf mailId ≠ 0) :
    ∃ i ∈ x.db.mailItems, i.mailId = mailId ∧ i.itemGuid = x.db.itemOf mailId := by
  unfold CharacterDatabase.itemOf at h ⊢
  cases hfind : x.db.mailItems.find? fun r => r.mailId = mailId with
  | none =>
    rw [hfind] at h
    exact absurd rfl h
  | some i => exact ⟨i, mem_of_find?_eq_some hfind, by simpa using find?_some hfind, rfl⟩

theorem itemOf_eq (hi : i ∈ x.db.mailItems) : x.db.itemOf i.mailId = i.itemGuid := by
  unfold CharacterDatabase.itemOf
  cases hfind : x.db.mailItems.find? fun r => r.mailId = i.mailId with
  | none => exact absurd (decide_eq_true rfl) (find?_eq_none.1 hfind i hi)
  | some i' =>
    have heq : i' = i :=
      inj_on_of_nodup_map x.valid.oneItem (mem_of_find?_eq_some hfind) hi (by simpa using find?_some hfind)
    rw [heq]
    rfl

/-- A statement that is about another mail, or only about items and texts. -/
theorem Owned.onMail (h : x.Owned e st) (hne : r.id ≠ e.id) : st.onMail r = some r := by
  cases h with
  | returnMail | flag => exact congrArg some (if_neg hne)
  | _ => rfl

theorem mail_frame (x : Expiry) :
    (x.result.mail.filter fun r => r.id ∉ x.selectedIds) = x.db.mail.filter fun r => r.id ∉ x.selectedIds := by
  rw [result_eq]
  refine filter_run (fun st _ r r' hr => ?_) fun r hr hout => forall_statements (fun hup => ?_) fun e he st howned => ?_
  · unfold MailStatement.onMail at hr
    split at hr <;> cases hr
    · split_ifs <;> rfl
    · split_ifs <;> rfl
    · split_ifs <;> rfl
    · rfl
  · exact congrArg some (if_neg fun hblank => of_decide_eq_true hout (blank_selected hr hup hblank))
  · exact howned.onMail fun heq => of_decide_eq_true hout (heq ▸ mem_selectedIds he)

theorem mailItems_frame (x : Expiry) :
    (x.result.mailItems.filter fun i => i.mailId ∉ x.selectedIds) = x.db.mailItems.filter fun i => i.mailId ∉ x.selectedIds := by
  rw [result_eq]
  refine filter_run (fun st _ r r' hr => ?_) fun i hi hout => forall_statements (fun _ => rfl) fun e he st howned => ?_
  · rw [(onMailItem_some hr).1]
  rw [decide_eq_true_eq] at hout
  cases howned with
  | mailItems => exact if_neg fun heq : i.mailId = e.id => hout (heq ▸ mem_selectedIds he)
  | itemReceiver _ hitem =>
    refine congrArg some (if_neg fun heq => hout ?_)
    obtain ⟨i', hi', hmail, hguid⟩ := itemOf_mem hitem
    rw [eq_of_itemGuid hi hi' (heq.trans hguid.symm), hmail]
    exact mem_selectedIds he
  | _ => rfl

theorem itemInstance_frame (x : Expiry) :
    (x.result.itemInstance.filter fun o => o.guid ∉ x.selectedItems) = x.db.itemInstance.filter fun o => o.guid ∉ x.selectedItems := by
  have hselected : ∀ e ∈ x.found, x.db.itemOf e.id ≠ 0 → x.db.itemOf e.id ∈ x.selectedItems := by
    intro e he hitem
    obtain ⟨i, hi, hmail, hguid⟩ := itemOf_mem hitem
    rw [← hguid]
    exact mem_map_of_mem (mem_filter.2 ⟨hi, decide_eq_true (hmail ▸ mem_selectedIds he)⟩)
  rw [result_eq]
  refine filter_run (fun st _ r r' hr => ?_) fun o ho hout => forall_statements (fun _ => rfl) fun e he st howned => ?_
  · unfold MailStatement.onItemInstance at hr
    split at hr
    · split_ifs at hr
      cases hr
      rfl
    · cases hr
      split_ifs <;> rfl
    · cases hr
      rfl
  · rw [decide_eq_true_eq] at hout
    have hother : x.db.itemOf e.id ≠ 0 → o.guid ≠ x.db.itemOf e.id := fun hne heq => hout (heq ▸ hselected e he hne)
    cases howned with
    | item _ hitem => exact if_neg (hother hitem)
    | itemOwner _ hitem => exact congrArg some (if_neg (hother hitem))
    | _ => rfl

theorem onItemText_cases (st : MailStatement) (t : ItemTextRow) :
    st.onItemText t = some t ∨ st.onItemText t = none ∧ st = .deleteItemText t.id := by
  unfold MailStatement.onItemText
  split
  · split_ifs with heq
    · exact .inr ⟨rfl, heq ▸ rfl⟩
    · exact .inl rfl
  · exact .inl rfl

/-- A text stays unless some mail that is dropped held its id. -/
theorem mem_itemText {t : ItemTextRow} :
    t ∈ x.result.itemText ↔ t ∈ x.db.itemText ∧ ∀ e ∈ x.found, x.Drops e → x.held e.id ≠ 0 → x.held e.id ≠ t.id := by
  rw [result_eq]
  have hdelete : .deleteItemText t.id ∈ x.statements ↔ ∃ e ∈ x.found, x.Drops e ∧ x.held e.id ≠ 0 ∧ x.held e.id = t.id := by
    rw [mem_statements]
    constructor
    · rintro (⟨-, h⟩ | ⟨e, he, howned⟩)
      · cases h
      generalize hst : MailStatement.deleteItemText t.id = st at howned
      cases howned with
      | text hdrops hheld => exact ⟨e, he, hdrops, hheld, (MailStatement.deleteItemText.inj hst).symm⟩
      | _ => cases hst
    · rintro ⟨e, he, hdrops, hheld, heq⟩
      exact .inr ⟨e, he, heq ▸ .text hdrops hheld⟩
  refine mem_run.trans ⟨?_, fun ⟨ht, hkeep⟩ => ⟨t, ht, through_left fun st hst => ?_⟩⟩
  · rintro ⟨t', ht', hthrough⟩
    have hsame : t = t' := by
      refine through_kept (p := fun t => t) (fun st _ t t' h => ?_) hthrough
      rcases onItemText_cases st t with hkeep | ⟨hgone, -⟩
      · exact (Option.some.inj (hkeep.symm.trans h)).symm
      · rw [hgone] at h
        cases h
    subst hsame
    refine ⟨ht', fun e he hdrops hheld heq => ?_⟩
    rw [through_gone (fun st _ => (onItemText_cases st t).imp_right fun h => h.1)
      ⟨_, hdelete.2 ⟨e, he, hdrops, hheld, heq⟩, if_pos rfl⟩] at hthrough
    cases hthrough
  · rcases onItemText_cases st t with hsame | ⟨-, rfl⟩
    · exact hsame
    · obtain ⟨e, he, hdrops, hheld, heq⟩ := hdelete.1 hst
      exact absurd heq (hkeep e he hdrops hheld)

/-! What becomes of a mail. -/

def givenBack (x : Expiry) (r : MailRow) : MailRow :=
  { r with
    sender := r.receiver
    receiver := r.sender
    expireTime := x.basetime + 30 * day
    deliverTime := x.basetime
    cod := 0
    checked := mailCheckMaskReturned }

def flagged (r : MailRow) : MailRow := { r with isDeleted := true }

open Classical in
noncomputable def fate (x : Expiry) (r : MailRow) : MailRow :=
  if r ∈ x.found ∧ x.Returns r then x.givenBack r
  else if r ∈ x.found ∧ x.Drops r ∨ x.serverUp = false ∧ r.isBlank x.basetime = true then flagged r
  else r

theorem eq_of_id (he : e ∈ x.db.mail) (hr : r ∈ x.db.mail) (h : e.id = r.id) : e = r := inj_on_of_nodup_map x.valid.mail he hr h

theorem Returns.not_drops (h : x.Returns r) : ¬ x.Drops r := by
  rintro ⟨-, hitems | ⟨-, hnot⟩⟩
  · exact absurd (hitems.symm.trans h.1) Bool.false_ne_true
  · exact hnot ⟨h.2.1, h.2.2.1⟩

theorem Returns.not_blank (h : x.Returns r) : ¬ r.isBlank x.basetime = true := by
  unfold MailRow.isBlank
  rw [h.1]
  simp

theorem mail_fate (hr : r ∈ x.db.mail) : RowEdits.through MailStatement.onMail x.statements r = some (x.fate r) := by
  have hown : ∀ e ∈ x.found, r.id = e.id → e = r := fun e he heq => eq_of_id (x.found_sub e he).1 hr heq.symm
  unfold fate
  split_ifs with hreturns hdrops
  · obtain ⟨hfound, hreturns⟩ := hreturns
    refine through_settled (forall_statements (fun _ => ?_) fun e he st howned => ?_)
      ⟨_, mem_of_owned hfound (.returnMail hreturns), congrArg some (if_pos rfl)⟩
    · have hblank : ¬ (x.givenBack r).isBlank x.basetime = true := by
        unfold MailRow.isBlank givenBack
        simp [hreturns.1]
      exact ⟨congrArg some (if_neg hblank), .inl (congrArg some (if_neg hreturns.not_blank))⟩
    · by_cases hid : r.id = e.id
      · cases hown e he hid
        cases howned with
        | returnMail => exact ⟨congrArg some (if_pos rfl), .inr (congrArg some (if_pos rfl))⟩
        | flag hdrops => exact absurd hdrops hreturns.not_drops
        | _ => exact ⟨rfl, .inl rfl⟩
      · exact ⟨howned.onMail hid, .inl (howned.onMail hid)⟩
  · have hsome : ∃ st ∈ x.statements, st.onMail r = some (flagged r) := by
      rcases hdrops with ⟨hfound, hdrops⟩ | ⟨hup, hblank⟩
      · exact ⟨_, mem_of_owned hfound (.flag hdrops), congrArg some (if_pos rfl)⟩
      · exact ⟨_, mem_statements.2 (.inl ⟨hup, rfl⟩), congrArg some (if_pos hblank)⟩
    refine through_settled (forall_statements (fun _ => ?_) fun e he st howned => ?_) hsome
    · unfold MailStatement.onMail
      dsimp only
      constructor
      · split_ifs <;> rfl
      · split_ifs
        · exact .inr rfl
        · exact .inl rfl
    · by_cases hid : r.id = e.id
      · cases hown e he hid
        cases howned with
        | returnMail h => exact absurd ⟨he, h⟩ hreturns
        | flag => exact ⟨congrArg some (if_pos rfl), .inr (congrArg some (if_pos rfl))⟩
        | _ => exact ⟨rfl, .inl rfl⟩
      · exact ⟨howned.onMail hid, .inl (howned.onMail hid)⟩
  · refine through_left (forall_statements (fun hup => ?_) fun e he st howned => ?_)
    · exact congrArg some (if_neg fun hblank => hdrops (.inr ⟨hup, hblank⟩))
    by_cases hid : r.id = e.id
    · cases hown e he hid
      cases howned with
      | returnMail h => exact absurd ⟨he, h⟩ hreturns
      | flag h => exact absurd (.inl ⟨he, h⟩) hdrops
      | _ => rfl
    · exact howned.onMail hid

theorem fate_id (x : Expiry) (r : MailRow) : (x.fate r).id = r.id := by
  unfold fate
  split_ifs <;> rfl

theorem mem_mail {r' : MailRow} (hr : r ∈ x.db.mail) (hid : r'.id = r.id) : r' ∈ x.result.mail ↔ r' = x.fate r := by
  rw [result_eq]
  refine mem_run.trans ⟨?_, fun h => ⟨r, hr, h ▸ mail_fate hr⟩⟩
  rintro ⟨r₀, hr₀, hthrough⟩
  rw [mail_fate hr₀] at hthrough
  cases hthrough
  rw [eq_of_id hr₀ hr ((x.fate_id r₀).symm.trans hid)]

/-- The mail and its item are the sender's. -/
structure GivenBack (x : Expiry) (r : MailRow) : Prop where
  mail : x.givenBack r ∈ x.result.mail
  item : ∀ i ∈ x.db.mailItems, i.mailId = r.id → i.itemGuid ≠ 0 → { i with receiver := r.sender } ∈ x.result.mailItems ∧
    ∀ o ∈ x.db.itemInstance, o.guid = i.itemGuid → { o with ownerGuid := r.sender } ∈ x.result.itemInstance

theorem Returns.item (h : x.Returns r) (hr : r ∈ x.found) (hi : i ∈ x.db.mailItems) (hmail : i.mailId = r.id)
    (hguid : i.itemGuid ≠ 0) : { i with receiver := r.sender } ∈ x.result.mailItems ∧
      ∀ o ∈ x.db.itemInstance, o.guid = i.itemGuid → { o with ownerGuid := r.sender } ∈ x.result.itemInstance := by
  have hitem : x.db.itemOf r.id = i.itemGuid := hmail ▸ itemOf_eq hi
  have hown : ∀ e ∈ x.found, e.id = i.mailId → e = r :=
    fun e he heq => eq_of_id (x.found_sub e he).1 (x.found_sub r hr).1 (heq.trans hmail)
  have hother : ∀ e ∈ x.found, x.db.itemOf e.id ≠ 0 → i.itemGuid = x.db.itemOf e.id → e = r := by
    intro e he hne heq
    obtain ⟨i', hi', hmail', hguid'⟩ := itemOf_mem hne
    exact hown e he (by rw [eq_of_itemGuid hi hi' (heq.trans hguid'.symm), hmail'])
  rw [result_eq]
  have hreceiver : x.Owned r (.setMailItemReceiver r.sender i.itemGuid) := hitem ▸ .itemReceiver h (hitem ▸ hguid)
  have howner : x.Owned r (.setItemOwner r.sender i.itemGuid) := hitem ▸ .itemOwner h (hitem ▸ hguid)
  constructor
  · refine mem_run.2 ⟨i, hi, through_settled
      (forall_statements (fun _ => ⟨rfl, .inl rfl⟩) fun e he st howned => ?_) ⟨_, mem_of_owned hr hreceiver, congrArg some (if_pos rfl)⟩⟩
    cases howned with
    | mailItems hdrops =>
      have hne : i.mailId ≠ e.id := fun heq => h.not_drops (hown e he heq.symm ▸ hdrops)
      exact ⟨if_neg hne, .inl (if_neg hne)⟩
    | itemReceiver _ hne =>
      by_cases heq : i.itemGuid = x.db.itemOf e.id
      · cases hother e he hne heq
        exact ⟨congrArg some (if_pos heq), .inr (congrArg some (if_pos heq))⟩
      · exact ⟨congrArg some (if_neg heq), .inl (congrArg some (if_neg heq))⟩
    | _ => exact ⟨rfl, .inl rfl⟩
  · intro o ho hog
    refine mem_run.2 ⟨o, ho, through_settled
      (forall_statements (fun _ => ⟨rfl, .inl rfl⟩) fun e he st howned => ?_) ⟨_, mem_of_owned hr howner, congrArg some (if_pos hog)⟩⟩
    cases howned with
    | item hdrops hitem =>
      have hne : o.guid ≠ x.db.itemOf e.id := fun heq => h.not_drops (hother e he hitem (hog.symm.trans heq) ▸ hdrops)
      exact ⟨if_neg hne, .inl (if_neg hne)⟩
    | itemOwner _ hne =>
      by_cases heq : o.guid = x.db.itemOf e.id
      · cases hother e he hne (hog.symm.trans heq)
        exact ⟨congrArg some (if_pos heq), .inr (congrArg some (if_pos heq))⟩
      · exact ⟨congrArg some (if_neg heq), .inl (congrArg some (if_neg heq))⟩
    | _ => exact ⟨rfl, .inl rfl⟩

theorem givenBack_iff (hr : r ∈ x.db.mail) (hselected : r.id ∈ x.selectedIds) : x.GivenBack r ↔ r ∈ x.found ∧ x.Returns r := by
  constructor
  · intro h
    have hfate := (mem_mail hr (rfl : (x.givenBack r).id = r.id)).1 h.mail
    by_contra hnot
    have htime : r.expireTime < x.basetime := by
      rcases mem_append.1 hselected with hfound | hblank
      · obtain ⟨e, he, hid⟩ := mem_map.1 hfound
        exact eq_of_id (x.found_sub e he).1 hr hid ▸ (x.found_sub e he).2.1
      obtain ⟨e, he, hid⟩ := mem_map.1 hblank
      obtain ⟨hmem, hexpired⟩ := mem_filter.1 he
      rw [eq_of_id hmem hr hid] at hexpired
      unfold MailRow.isBlank at hexpired
      simp only [Bool.and_eq_true, decide_eq_true_eq] at hexpired
      exact hexpired.2.1.1
    have hexpire := congrArg MailRow.expireTime hfate
    unfold fate at hexpire
    rw [if_neg hnot] at hexpire
    have hlate : x.basetime + 30 * day = r.expireTime := by
      rw [show (x.givenBack r).expireTime = x.basetime + 30 * day from rfl] at hexpire
      split_ifs at hexpire <;> exact hexpire
    omega
  · rintro ⟨hfound, hreturns⟩
    exact ⟨(mem_mail hr (rfl : (x.givenBack r).id = r.id)).2 (by unfold fate; rw [if_pos ⟨hfound, hreturns⟩]),
      fun i hi hmail hguid => hreturns.item hfound hi hmail hguid⟩

/-- The expiry touches only the mails it is about: nothing else changes in the four tables, only texts of deleted mails are
deleted, and those mails go back that are to. -/
structure Proper (x : Expiry) : Prop where
  mail : (x.result.mail.filter fun r => r.id ∉ x.selectedIds) = x.db.mail.filter fun r => r.id ∉ x.selectedIds
  mailItems : (x.result.mailItems.filter fun i => i.mailId ∉ x.selectedIds) = x.db.mailItems.filter fun i => i.mailId ∉ x.selectedIds
  itemInstance : (x.result.itemInstance.filter fun o => o.guid ∉ x.selectedItems) =
    x.db.itemInstance.filter fun o => o.guid ∉ x.selectedItems
  itemText : ∀ t ∈ x.result.itemText, t ∈ x.db.itemText
  bodies : ∀ t ∈ x.db.itemText, t ∉ x.result.itemText →
    ∃ r ∈ x.db.mail, r.id ∈ x.selectedIds ∧ r.isDeleted = false ∧ flagged r ∈ x.result.mail ∧ r.itemTextId = t.id
  returned : ∀ r ∈ x.db.mail, r.id ∈ x.selectedIds → (x.GivenBack r ↔ r ∈ x.found ∧ x.Returns r)

/-- What the mail object of a mail that is dropped holds is no text id but of the body of a mail that is dropped. -/
def HeldBodies (x : Expiry) : Prop :=
  ∀ e ∈ x.found, x.Drops e → x.held e.id ≠ 0 → ∀ t ∈ x.db.itemText, t.id = x.held e.id → ∃ r ∈ x.found, x.Drops r ∧ r.itemTextId = t.id

theorem expiry_proper_iff (x : Expiry) : x.Proper ↔ x.HeldBodies := by
  constructor
  · intro h e he hdrops hheld t ht hid
    have hgone : t ∉ x.result.itemText := fun hmem => (mem_itemText.1 hmem).2 e he hdrops hheld hid.symm
    obtain ⟨r, hr, -, hnew, hflagged, hbody⟩ := h.bodies t ht hgone
    have hfate := (mem_mail hr (rfl : (flagged r).id = r.id)).1 hflagged
    have hdeleted : (x.fate r).isDeleted = true := hfate ▸ rfl
    unfold fate at hdeleted
    split_ifs at hdeleted with hreturns hreason
    · exact absurd (hnew.symm.trans hdeleted) Bool.false_ne_true
    · rcases hreason with ⟨hfound, hdrops'⟩ | ⟨-, hblank⟩
      · exact ⟨r, hfound, hdrops', hbody⟩
      unfold MailRow.isBlank at hblank
      simp only [Bool.and_eq_true, decide_eq_true_eq] at hblank
      exact absurd (hid.symm.trans (hbody.symm.trans hblank.2)) hheld
    · exact absurd (hnew.symm.trans hdeleted) Bool.false_ne_true
  · intro h
    refine ⟨x.mail_frame, x.mailItems_frame, x.itemInstance_frame, fun t ht => (mem_itemText.1 ht).1, fun t ht hgone => ?_,
      fun r hr hselected => givenBack_iff hr hselected⟩
    have hex : ∃ e ∈ x.found, x.Drops e ∧ x.held e.id ≠ 0 ∧ x.held e.id = t.id := by
      by_contra hno
      exact hgone (mem_itemText.2 ⟨ht, fun e he hdrops hheld heq => hno ⟨e, he, hdrops, hheld, heq⟩⟩)
    obtain ⟨e, he, hdrops, hheld, hid⟩ := hex
    obtain ⟨r, hr, hdrops', hbody⟩ := h e he hdrops hheld t ht hid.symm
    have hmem := x.found_sub r hr
    refine ⟨r, hmem.1, mem_selectedIds hr, hmem.2.2, (mem_mail hmem.1 (rfl : (flagged r).id = r.id)).2 ?_, hbody⟩
    unfold fate
    rw [if_neg fun hreturns => hreturns.2.not_drops hdrops', if_pos (.inl ⟨hr, hdrops'⟩)]

/-- One auction note has expired; its mail object happens to hold the text id of another mail. -/
def strayText : Expiry where
  db :=
    { mail := [⟨1, 2, 5, 7, 0, false, 10, 0, 0, 0, 0, false⟩, ⟨2, 0, 8, 9, 3, false, 1000, 0, 0, 0, 0, false⟩]
      mailItems := []
      itemInstance := []
      itemText := [⟨3, "letter"⟩] }
  valid := ⟨by decide, by decide, by decide⟩
  serverUp := true
  basetime := 100
  found := [⟨1, 2, 5, 7, 0, false, 10, 0, 0, 0, 0, false⟩]
  found_ids := by decide
  found_sub := by decide
  found_few := by decide
  online _ := false
  onlineThen _ _ := false
  held _ := 3
  order := []
  order_perm := by decide

/-- The letter is lost. -/
theorem strayText_not_proper : ¬ strayText.Proper := by
  intro h
  obtain ⟨r, hr, hselected, -, -, hbody⟩ := h.bodies ⟨3, "letter"⟩ (by decide) (by decide)
  revert r
  decide

end Expiry

end OldMails

end ComfyCraft
