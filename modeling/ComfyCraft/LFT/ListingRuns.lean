import ComfyCraft.LFT.ListingsKept

/-! The listings and their table over whole runs. As any request finds them, every listing is sound and no
creator has two, and the table, with what is queued, has the row of each and no other, as long as the
columns keep every text they are given. -/

namespace ComfyCraft

open List AList Table ListingStmt Listing Sigma

variable {u : Utf8} {cols : ListingColumns} {w : ListingWorld}

/-- Listings under their ids, one for each creator. -/
structure Listed (u : Utf8) (cols : ListingColumns) (L : Table UInt32 Listing) : Prop where
  keyed : ∀ id l, L.lookup id = some l → l.id = id
  creators : ∀ id id' l l', L.lookup id = some l → L.lookup id' = some l' → l.creatorGuid = l'.creatorGuid → id = id'
  sound : ∀ id l, L.lookup id = some l → l.Sound u cols

variable {L L' : Table UInt32 Listing}

theorem Listed.part (h : Listed u cols L) (hpart : ∀ id l, L'.lookup id = some l → L.lookup id = some l) : Listed u cols L' :=
  ⟨fun id l hl => h.keyed id l (hpart id l hl),
    fun id id' l l' hl hl' heq => h.creators id id' l l' (hpart id l hl) (hpart id' l' hl') heq,
    fun id l hl => h.sound id l (hpart id l hl)⟩

theorem Listed.insert (h : Listed u cols L) {l : Listing} (hl : l.Sound u cols)
    (hcreator : ∀ id l', L.lookup id = some l' → l'.creatorGuid = l.creatorGuid → id = l.id) : Listed u cols (L.insert l.id l) := by
  have hcases : ∀ id x, (L.insert l.id l).lookup id = some x → (id = l.id ∧ x = l) ∨ L.lookup id = some x := by
    intro id x hx
    by_cases hid : id = l.id
    · rw [hid, lookup_insert] at hx
      exact .inl ⟨hid, (Option.some.inj hx).symm⟩
    · rw [lookup_insert_ne hid] at hx
      exact .inr hx
  refine ⟨fun id x hx => ?_, fun id id' x x' hx hx' heq => ?_, fun id x hx => ?_⟩
  · rcases hcases id x hx with ⟨hid, rfl⟩ | hold
    · exact hid.symm
    · exact h.keyed id x hold
  · rcases hcases id x hx with ⟨hid, rfl⟩ | hold <;> rcases hcases id' x' hx' with ⟨hid', rfl⟩ | hold'
    · exact hid.trans hid'.symm
    · exact hid.trans (hcreator id' x' hold' heq.symm).symm
    · exact (hcreator id x hold heq).trans hid'.symm
    · exact h.creators id id' x x' hold hold' heq
  · rcases hcases id x hx with ⟨-, rfl⟩ | hold
    · exact hl
    · exact h.sound id x hold

namespace LFTListings

variable {s : LFTListings}

/-- The table, with what is queued, has the row of every listing and no other. -/
def Rows (cols : ListingColumns) (s : LFTListings) (L : Table UInt32 Listing) : Prop :=
  ∀ id, (s.settled cols).lookup id = (L.lookup id).map Listing.row

/-! Statements. -/

theorem settled_append (s : LFTListings) (stmt : ListingStmt) :
    ({ s with queue := s.queue ++ [stmt] } : LFTListings).settled cols = stmt.execute cols (s.settled cols) := by
  unfold settled
  exact foldl_append

theorem lookup_delete (t : Table UInt32 ListingRow) (id x : UInt32) :
    ((ListingStmt.delete id).execute cols t).lookup x = if x = id then none else t.lookup x := by
  unfold execute
  dsimp only
  split_ifs with hx
  · rw [hx, lookup_erase]
  · rw [lookup_erase_ne hx]

variable {l : Listing} {guid : UInt32} {player : ListedPlayer} {fields : List Text}

/-- A listing whose texts fit gets its own row, unless another creator's is there. -/
theorem lookup_save (t : Table UInt32 ListingRow) (hf : l.Fits cols)
    (hold : ∀ r, t.lookup l.id = some r → r.creatorGuid = l.creatorGuid) (x : UInt32) :
    ((ListingStmt.save l.row).execute cols t).lookup x = if x = l.id then some l.row else t.lookup x := by
  have hstored : l.row.stored cols = some l.row := by
    unfold ListingRow.stored row
    dsimp only
    rw [hf.creator, hf.title, hf.description]
  have hinsert : (save l.row).execute cols t = t.insert l.id l.row := by
    unfold execute
    dsimp only
    rw [hstored]
    dsimp only
    cases ht : t.lookup l.row.id with
    | none => rfl
    | some old =>
      dsimp only
      rw [hold old ht]
      rfl
  rw [hinsert]
  split_ifs with hx
  · rw [hx, lookup_insert]
  · rw [lookup_insert_ne hx]

theorem Rows.delete (h : Rows cols s L) (id : UInt32) : Rows cols (s.deleteListingFromDB id) (L.erase id) := by
  intro x
  rw [deleteListingFromDB, settled_append, lookup_delete]
  split_ifs with hx
  · rw [hx, lookup_erase]
    rfl
  · rw [lookup_erase_ne hx]
    exact h x

theorem Rows.save (h : Rows cols s L) (hf : l.Fits cols)
    (hcreator : ∀ l', L.lookup l.id = some l' → l'.creatorGuid = l.creatorGuid) : Rows cols (s.saveListingToDB l) (L.insert l.id l) := by
  intro x
  have hold : ∀ r, (s.settled cols).lookup l.id = some r → r.creatorGuid = l.creatorGuid := by
    intro r hr
    rw [h l.id] at hr
    obtain ⟨l', hl', rfl⟩ := Option.map_eq_some_iff.1 hr
    exact hcreator l' hl'
  rw [saveListingToDB, settled_append, lookup_save _ hf hold]
  split_ifs with hx
  · rw [hx, lookup_insert]
    rfl
  · rw [lookup_insert_ne hx]
    exact h x

/-! Loading. -/

def present (w : ListingWorld) (L : Table UInt32 Listing) (id : UInt32) : Option Listing :=
  (L.lookup id).filter fun l => (w.getPlayer l.creatorGuid).isSome

theorem loadRow_spec (hL : Listed u cols L) {r : ListingRow} (hl : L.lookup r.id = some l) (hr : r = l.row)
    (s : LFTListings) (id : UInt32) :
    (s.loadRow w r).listings.lookup id = (if id = r.id then (present w L id).or (s.listings.lookup id) else s.listings.lookup id) ∧
      ((s.loadRow w r).settled cols).lookup id =
        (if id = r.id ∧ present w L id = none then none else (s.settled cols).lookup id) := by
  have hcreator : r.creatorGuid = l.creatorGuid := by rw [hr]; rfl
  have hdecode : r.decode = l := by rw [hr]; exact (hL.sound r.id l hl).decode_row
  unfold loadRow
  rw [hcreator]
  by_cases hon : (w.getPlayer l.creatorGuid).isSome = true
  · have hpresent : present w L r.id = some l := by
      unfold present
      rw [hl, Option.filter_some, if_pos hon]
    rw [if_neg (by simp [Option.isSome_iff_ne_none.1 hon])]
    dsimp only
    constructor
    · split_ifs with hid
      · rw [hid, lookup_insert, hpresent, hdecode]
        rfl
      · rw [lookup_insert_ne hid]
    · rw [if_neg]
      · rfl
      rintro ⟨hid, hnone⟩
      rw [hid, hpresent] at hnone
      cases hnone
  · have hpresent : present w L r.id = none := by
      unfold present
      rw [hl, Option.filter_some, if_neg hon]
    rw [if_pos (by simpa using hon)]
    constructor
    · split_ifs with hid
      · rw [hid, hpresent]
        rfl
      · rfl
    · rw [deleteListingFromDB, settled_append, lookup_delete]
      by_cases hid : id = r.id
      · rw [if_pos hid, if_pos ⟨hid, hid ▸ hpresent⟩]
      · rw [if_neg hid, if_neg fun h => hid h.1]

theorem loadRows_spec (hL : Listed u cols L) {rs : List ListingRow} (hrs : ∀ r ∈ rs, ∃ l, L.lookup r.id = some l ∧ r = l.row)
    (s : LFTListings) (id : UInt32) :
    (rs.foldl (loadRow w) s).listings.lookup id =
        (if id ∈ rs.map ListingRow.id then (present w L id).or (s.listings.lookup id) else s.listings.lookup id) ∧
      ((rs.foldl (loadRow w) s).settled cols).lookup id =
        (if id ∈ rs.map ListingRow.id ∧ present w L id = none then none else (s.settled cols).lookup id) := by
  induction rs generalizing s with
  | nil => exact ⟨by simp, by simp⟩
  | cons r rs ih =>
    obtain ⟨l, hl, hr⟩ := hrs r mem_cons_self
    obtain ⟨hlist, hset⟩ := loadRow_spec (w := w) hL hl hr s id
    obtain ⟨hlist', hset'⟩ := ih (fun x hx => hrs x (mem_cons_of_mem r hx)) (s.loadRow w r)
    rw [foldl_cons, hlist', hset', hlist, hset, map_cons]
    simp only [mem_cons]
    by_cases hid : id = r.id <;> by_cases hmem : id ∈ rs.map ListingRow.id
    · cases present w L id <;> simp [hid]
    · cases present w L id <;> simp [hid]
    · simp [hid]
    · simp [hid]

/-! ### The invariant -/

/-- The listings are in memory, or still in the table only. -/
structure Kept (u : Utf8) (cols : ListingColumns) (s : LFTListings) : Prop where
  loaded : s.listingsLoaded = true → Listed u cols s.listings ∧ Rows cols s s.listings
  unloaded : s.listingsLoaded = false → s.queue = [] ∧ ∃ L, Listed u cols L ∧ Rows cols s L

theorem listed_empty : Listed u cols ∅ := by
  refine ⟨fun id l hl => ?_, fun id id' l l' hl _ _ => ?_, fun id l hl => ?_⟩
  · cases hl
  · cases hl
  · cases hl

theorem kept_started : Kept u cols (started ∅) :=
  ⟨fun h => (Bool.false_ne_true h).elim, fun _ => ⟨rfl, ∅, listed_empty, fun _ => rfl⟩⟩

/-- Every request begins by loading the listings, if that has not been done. -/
theorem Kept.ensure (h : Kept u cols s) (w : ListingWorld) :
    (s.ensureListingsLoaded w).listingsLoaded = true ∧ Listed u cols (s.ensureListingsLoaded w).listings ∧
      Rows cols (s.ensureListingsLoaded w) (s.ensureListingsLoaded w).listings := by
  unfold ensureListingsLoaded
  cases hloaded : s.listingsLoaded with
  | true => exact ⟨hloaded, h.loaded hloaded⟩
  | false =>
    obtain ⟨hqueue, L, hL, hrows⟩ := h.unloaded hloaded
    have hdb : ∀ id, s.db.lookup id = (L.lookup id).map row := by
      intro id
      have hrow := hrows id
      unfold settled at hrow
      rw [hqueue] at hrow
      exact hrow
    have hrs : ∀ r ∈ s.db.ordered.map snd, ∃ l, L.lookup r.id = some l ∧ r = l.row := by
      intro r hr
      obtain ⟨e, he, rfl⟩ := mem_map.1 hr
      have hlook := mem_ordered.1 he
      rw [hdb] at hlook
      obtain ⟨l, hl, heq⟩ := Option.map_eq_some_iff.1 hlook
      have hid : e.2.id = e.1 := by
        rw [← heq]
        exact hL.keyed e.1 l hl
      exact ⟨l, by rw [hid]; exact hl, heq.symm⟩
    have hall : ∀ id l, L.lookup id = some l → id ∈ (s.db.ordered.map snd).map ListingRow.id := by
      intro id l hl
      rw [map_map]
      refine mem_map.2 ⟨⟨id, l.row⟩, mem_ordered.2 ?_, hL.keyed id l hl⟩
      rw [hdb, hl]
      rfl
    have hspec := loadRows_spec (w := w) hL hrs { s with listings := ∅, nextListingId := 1 }
    have hlist : ∀ id, (s.loadListingsFromDB w).listings.lookup id = present w L id := by
      intro id
      rw [loadListingsFromDB, (hspec id).1]
      split_ifs with hid
      · exact Option.or_none
      cases hl : L.lookup id with
      | none => unfold present; rw [hl]; rfl
      | some l => exact absurd (hall id l hl) hid
    have hpart : ∀ id l, (s.loadListingsFromDB w).listings.lookup id = some l → L.lookup id = some l := by
      intro id l hl
      rw [hlist] at hl
      exact (Option.filter_eq_some_iff.1 hl).1
    refine ⟨rfl, hL.part hpart, fun id => ?_⟩
    have hset : ((s.loadListingsFromDB w).settled cols).lookup id = ((s.loadListingsFromDB w).listings.lookup id).map row := by
      rw [hlist, loadListingsFromDB, (hspec id).2]
      have hbefore : (({ s with listings := ∅, nextListingId := 1 } : LFTListings).settled cols).lookup id =
          (L.lookup id).map row := hrows id
      rw [hbefore]
      cases hl : L.lookup id with
      | none =>
        have hnone : present w L id = none := by unfold present; rw [hl]; rfl
        rw [hnone]
        split_ifs <;> rfl
      | some l =>
        have hmem := hall id l hl
        cases hp : present w L id with
        | none => rw [if_pos ⟨hmem, rfl⟩]; rfl
        | some l' =>
          rw [if_neg fun hc => by cases hc.2]
          have hsame : L.lookup id = some l' := (Option.filter_eq_some_iff.1 hp).1
          rw [hl] at hsame
          exact congrArg (Option.map row) hsame
    exact hset

/-! ### The requests -/

/-- What is kept once the listings are loaded. -/
structure Held (u : Utf8) (cols : ListingColumns) (s : LFTListings) : Prop where
  loaded : s.listingsLoaded = true
  listed : Listed u cols s.listings
  rows : Rows cols s s.listings

theorem Held.kept (h : Held u cols s) : Kept u cols s :=
  ⟨fun _ => ⟨h.listed, h.rows⟩, fun hno => by rw [h.loaded] at hno; cases hno⟩

theorem Held.drop (h : Held u cols s) (id : UInt32) :
    Held u cols { s.deleteListingFromDB id with listings := s.listings.erase id } := by
  refine ⟨h.loaded, h.listed.part fun x l hl => ?_, h.rows.delete id⟩
  by_cases hx : x = id
  · rw [hx, lookup_erase] at hl
    cases hl
  · rw [lookup_erase_ne hx] at hl
    exact hl

theorem Held.dropAll {es : List (Sigma fun _ : UInt32 => Listing)} (hes : ∀ e ∈ es, e.2.id = e.1) (h : Held u cols s) :
    let s' := es.foldl (fun s e => { s.deleteListingFromDB e.2.id with listings := s.listings.erase e.1 }) s
    Held u cols s' ∧ s'.nextListingId = s.nextListingId ∧
      ∀ id l, s'.listings.lookup id = some l → s.listings.lookup id = some l ∧ id ∉ es.map fst := by
  induction es generalizing s with
  | nil => exact ⟨h, rfl, fun id l hl => ⟨hl, not_mem_nil⟩⟩
  | cons e es ih =>
    have hid := hes e mem_cons_self
    have hdrop := h.drop e.1
    rw [← hid] at hdrop
    have hstep : Held u cols { s.deleteListingFromDB e.2.id with listings := s.listings.erase e.1 } := hid ▸ hdrop
    obtain ⟨hheld, hnext, hsub⟩ := ih (fun x hx => hes x (mem_cons_of_mem e hx)) hstep
    refine ⟨hheld, hnext, fun id l hl => ?_⟩
    obtain ⟨hold, hnot⟩ := hsub id l hl
    by_cases hx : id = e.1
    · rw [hx, lookup_erase] at hold
      cases hold
    · refine ⟨(lookup_erase_ne hx).symm.trans hold, ?_⟩
      rw [map_cons, mem_cons, not_or]
      exact ⟨hx, hnot⟩

theorem Held.dropListings (h : Held u cols s) (guid : UInt32) :
    Held u cols (s.dropListings guid) ∧ (s.dropListings guid).nextListingId = s.nextListingId ∧
      ∀ id l, (s.dropListings guid).listings.lookup id = some l → s.listings.lookup id = some l ∧ l.creatorGuid ≠ guid := by
  have hes : ∀ e ∈ s.listings.ordered.filter fun e => e.2.creatorGuid = guid, e.2.id = e.1 := by
    intro e he
    exact h.listed.keyed e.1 e.2 (mem_ordered.1 (mem_of_mem_filter he))
  obtain ⟨hheld, hnext, hsub⟩ := h.dropAll hes
  refine ⟨hheld, hnext, fun id l hl => ?_⟩
  obtain ⟨hold, hnot⟩ := hsub id l hl
  refine ⟨hold, fun heq => hnot ?_⟩
  exact mem_map.2 ⟨⟨id, l⟩, mem_filter.2 ⟨mem_ordered.2 hold, decide_eq_true heq⟩, rfl⟩

theorem Held.save (h : Held u cols s) (hl : l.Sound u cols)
    (hcreator : ∀ id l', s.listings.lookup id = some l' → l'.creatorGuid = l.creatorGuid → id = l.id)
    (hthere : ∀ l', s.listings.lookup l.id = some l' → l'.creatorGuid = l.creatorGuid) (next : UInt32) :
    Held u cols ({ s with nextListingId := next, listings := s.listings.insert l.id l }.saveListingToDB l) :=
  ⟨h.loaded, h.listed.insert hl hcreator, h.rows.save hl.fits hthere⟩

theorem Held.storeListing (h : Held u cols s) {id : UInt32} {old : Listing} (hold : s.listings.lookup id = some old)
    (hl : l.Open u w) (hf : l.Fits cols) (hid : l.id = old.id) (hguid : l.creatorGuid = old.creatorGuid) {creator : ListedPlayer}
    (hc : w.getPlayer l.creatorGuid = some creator) : Held u cols (s.storeListing u w l) := by
  have hsound := hl.stored hf hc
  obtain ⟨hid', hguid', -⟩ := l.alike_pruneListingSignups (u := u) (w := w)
  have hkey : ((l.pruneListingSignups u w).recountListing).id = id := hid'.trans (hid.trans (h.listed.keyed id old hold))
  have hsame : ((l.pruneListingSignups u w).recountListing).creatorGuid = old.creatorGuid := hguid'.trans hguid
  exact h.save hsound (fun x l' hl' heq => (h.listed.creators x id l' old hl' hold (heq.trans hsame)).trans hkey.symm)
    (fun l' hl' => by
      rw [hkey, hold] at hl'
      cases hl'
      exact hsame.symm) s.nextListingId

def askedTexts (payload : Text) : List (Text × Text) :=
  match Text.split ';' [] payload with
  | kind :: a :: b :: c :: _ :: _ =>
    if kind = "C2S_NEW_GROUP".toList then [(a, b)] else if kind = "C2S_UPDATE_GROUP".toList then [(b, c)] else []
  | _ => []

/-- The columns keep what a message asks to store, and the next id is free. -/
def StepFits (cols : ListingColumns) (s : LFTListings) : ListingEvent → Prop
  | .message w guid _ payload =>
    (∀ texts ∈ askedTexts payload, cols.title texts.1 = some texts.1 ∧ cols.description texts.2 = some texts.2 ∧
      ∀ player, w.getPlayer guid = some player → cols.creatorName player.name = some player.name) ∧
    (s.ensureListingsLoaded w).listings.lookup (s.ensureListingsLoaded w).nextListingId = none
  | _ => True

theorem getPlayer_guid {p : ListedPlayer} (h : w.getPlayer guid = some p) : p.guid = guid := by
  simpa using find?_some h

theorem Held.handleNewGroup (h : Held u cols s) (hfree : s.listings.lookup s.nextListingId = none)
    (htexts : ∀ kind title description category limit rest, fields = kind :: title :: description :: category :: limit :: rest →
      cols.title title = some title ∧ cols.description description = some description ∧
        cols.creatorName player.name = some player.name) : Held u cols (s.handleNewGroup player fields) := by
  unfold LFTListings.handleNewGroup
  split
  · rename_i kind title description category limit rest
    obtain ⟨htitle, hdescription, hname⟩ := htexts _ _ _ _ _ _ rfl
    split_ifs
    · exact h
    obtain ⟨hheld, hnext, hsub⟩ := h.dropListings player.guid
    have hsound : (newListing (s.dropListings player.guid).nextListingId player title description category limit).Sound u cols :=
      ⟨⟨hname, htitle, hdescription⟩, fun _ hs => absurd hs not_mem_nil, nodup_nil, fun _ hs => absurd hs not_mem_nil, rfl⟩
    refine hheld.save hsound (fun id l' hl' heq => absurd heq (hsub id l' hl').2) (fun l' hl' => ?_) _
    have hold := (hsub _ l' hl').1
    have hid : (newListing (s.dropListings player.guid).nextListingId player title description category limit).id =
        s.nextListingId := hnext
    rw [hid, hfree] at hold
    cases hold
  · exact h

theorem Held.handleUpdateGroup (h : Held u cols s) (hp : w.getPlayer guid = some player)
    (htexts : ∀ kind id title description limit rest, fields = kind :: id :: title :: description :: limit :: rest →
      cols.title title = some title ∧ cols.description description = some description) :
    Held u cols (s.handleUpdateGroup u w player fields) := by
  unfold LFTListings.handleUpdateGroup
  split
  · rename_i kind id title description limit confirmed
    obtain ⟨htitle, hdescription⟩ := htexts _ _ _ _ _ _ rfl
    cases hold : s.listings.lookup (listingId id) with
    | none => exact h
    | some old =>
      dsimp only
      split_ifs with hother hconfirmed
      · exact h
      · have hsound := h.listed.sound _ old hold
        have hcreator : w.getPlayer old.creatorGuid = some player := by
          rw [not_not.1 hother, getPlayer_guid hp]
          exact hp
        exact h.storeListing hold ⟨nodup_nil, fun _ hs => by cases hs⟩
          ⟨hsound.fits.creator, htitle, hdescription⟩ rfl rfl hcreator
      · have hsound := h.listed.sound _ old hold
        have hcreator : w.getPlayer old.creatorGuid = some player := by
          rw [not_not.1 hother, getPlayer_guid hp]
          exact hp
        have hopen : ({ old with title := title, description := description, limit := parseRoleCounts limit } : Listing).Open u w :=
          ⟨(hsound.open (w := w)).names, hsound.open.lettered⟩
        have halike := (alike_pruneListingSignups (u := u) (w := w)
          { old with title := title, description := description, limit := parseRoleCounts limit }).trans
            (alike_confirmAll (u := u) (w := w) _ confirmed)
        have hfits : Fits cols _ := halike.fits ⟨hsound.fits.creator, htitle, hdescription⟩
        exact h.storeListing hold (hopen.pruneListingSignups.confirmAll confirmed) hfits halike.1 halike.2.1
          (by rw [halike.2.1]; exact hcreator)
  · exact h

theorem Held.handleDeleteGroup (h : Held u cols s) (player : ListedPlayer) (fields : List Text) :
    Held u cols (s.handleDeleteGroup player fields) := by
  unfold LFTListings.handleDeleteGroup
  split
  · rename_i kind id rest
    cases hold : s.listings.lookup (listingId id) with
    | none => exact h
    | some l =>
      dsimp only
      split_ifs
      · exact h
      · rw [h.listed.keyed _ l hold]
        exact h.drop _
  · exact h

theorem Held.handleManualRolecheckResponse (h : Held u cols s) (player : ListedPlayer) (fields : List Text) :
    Held u cols (s.handleManualRolecheckResponse u w player fields) := by
  unfold LFTListings.handleManualRolecheckResponse
  split
  · rename_i kind role rest
    cases hget : s.getListingForGroupMember w player with
    | none => exact h
    | some l =>
      dsimp only
      unfold getListingForGroupMember at hget
      obtain ⟨e, he, rfl⟩ := mem_map.1 (mem_of_find?_eq_some hget)
      have hold := mem_ordered.1 he
      have hsound := h.listed.sound _ _ hold
      -- the listing was found through its creator
      have hany := find?_some hget
      rw [Option.any_eq_true] at hany
      obtain ⟨creator, hc, -⟩ := hany
      split_ifs
      · have halike := e.2.alike_removeListingSignup (u := u) player.name
        exact h.storeListing hold (hsound.open.removeListingSignup player.name) (halike.fits hsound.fits) halike.1 halike.2.1
          (by rw [halike.2.1]; exact hc)
      · have halike : Alike e.2 (e.2.setListingSignupRole u player (parseConfirmedRoleIndex role)) :=
          e.2.alike_enterSignup _ _
        exact h.storeListing hold (hsound.open.setListingSignupRole player _) (halike.fits hsound.fits) halike.1 halike.2.1
          (by rw [halike.2.1]; exact hc)
  · exact h

theorem Kept.held (h : Kept u cols s) (w : ListingWorld) : Held u cols (s.ensureListingsLoaded w) :=
  ⟨(h.ensure w).1, (h.ensure w).2.1, (h.ensure w).2.2⟩

theorem Kept.handleAddonMessage (h : Kept u cols s) (hp : w.getPlayer guid = some player)
    (guildChat : Bool) {payload : Text} (hfits : StepFits cols s (.message w guid guildChat payload)) :
    Kept u cols (s.handleAddonMessage u w player guildChat payload) := by
  obtain ⟨htexts, hfree⟩ := hfits
  have hheld := h.held w
  unfold LFTListings.handleAddonMessage
  dsimp only
  split_ifs with hempty hanswer hguild hnew hupdate hdelete
  · exact h
  · exact (hheld.handleManualRolecheckResponse player _).kept
  · exact hheld.kept
  · refine (hheld.handleNewGroup hfree fun kind title description category limit rest heq => ?_).kept
    rw [heq] at hnew
    have hkind : kind = "C2S_NEW_GROUP".toList := Option.some.inj hnew
    have hasked : (title, description) ∈ askedTexts payload := by
      unfold askedTexts
      rw [heq]
      dsimp only
      rw [if_pos hkind]
      exact mem_singleton_self _
    obtain ⟨htitle, hdescription, hname⟩ := htexts _ hasked
    exact ⟨htitle, hdescription, hname player hp⟩
  · refine (hheld.handleUpdateGroup hp fun kind id title description limit rest heq => ?_).kept
    rw [heq] at hupdate hnew
    have hkind : kind = "C2S_UPDATE_GROUP".toList := Option.some.inj hupdate
    have hother : kind ≠ "C2S_NEW_GROUP".toList := fun hk => hnew (congrArg some hk)
    have hasked : (title, description) ∈ askedTexts payload := by
      unfold askedTexts
      rw [heq]
      dsimp only
      rw [if_neg hother, if_pos hkind]
      exact mem_singleton_self _
    obtain ⟨htitle, hdescription, -⟩ := htexts _ hasked
    exact ⟨htitle, hdescription⟩
  · exact (hheld.handleDeleteGroup player _).kept
  · exact hheld.kept

theorem Kept.step (h : Kept u cols s) (e : ListingEvent) (hfits : StepFits cols s e) : Kept u cols (s.step u cols e) := by
  cases e with
  | message w guid guildChat payload =>
    unfold LFTListings.step
    dsimp only
    cases hp : w.getPlayer guid with
    | none => exact h
    | some player => exact h.handleAddonMessage hp guildChat hfits
  | logout w guid => exact ((h.held w).dropListings guid).1.kept
  | execute =>
    unfold LFTListings.step
    dsimp only
    cases hq : s.queue with
    | nil => exact h
    | cons stmt queue =>
      -- a statement executed is one queued no more
      have hsettled : ({ s with db := stmt.execute cols s.db, queue := queue } : LFTListings).settled cols = s.settled cols := by
        unfold settled
        rw [hq]
        rfl
      refine ⟨fun hl => ?_, fun hu => ?_⟩
      · obtain ⟨hlisted, hrows⟩ := h.loaded hl
        exact ⟨hlisted, fun id => hsettled ▸ hrows id⟩
      · have hnone := (h.unloaded hu).1
        rw [hq] at hnone
        cases hnone
  | restart =>
    show Kept u cols (started (s.settled cols))
    refine ⟨fun hl => (Bool.false_ne_true hl).elim, fun _ => ⟨rfl, ?_⟩⟩
    cases hl : s.listingsLoaded with
    | true => exact ⟨s.listings, h.loaded hl⟩
    | false => exact (h.unloaded hl).2

/-! ### What the players find -/

/-- Each creator has one listing and each id is that of one, no player name stands twice in a listing, the counts are
those of the signups, and the rows are those of the listings. -/
structure Right (u : Utf8) (cols : ListingColumns) (s : LFTListings) : Prop where
  ids : ∀ id l, s.listings.lookup id = some l → l.id = id
  creators : ∀ id id' l l', s.listings.lookup id = some l → s.listings.lookup id' = some l' → l.creatorGuid = l'.creatorGuid → id = id'
  names : ∀ id l, s.listings.lookup id = some l →
    (∀ x ∈ l.signups.all, (normalizePlayerName u x.name).isSome = true) ∧ (l.names u).Nodup
  counts : ∀ id l, s.listings.lookup id = some l → l.numConfirmed.map UInt8.toNat = l.signups.map List.length
  rows : ∀ id, ((s.settled cols).lookup id).map ListingRow.decode = s.listings.lookup id

theorem Held.right (h : Held u cols s) : Right u cols s := by
  refine ⟨h.listed.keyed, h.listed.creators, fun id l hl => ?_, fun id l hl => (h.listed.sound id l hl).counts, fun id => ?_⟩
  · have hsound := h.listed.sound id l hl
    exact ⟨hsound.named, hsound.names⟩
  · rw [h.rows id, Option.map_map]
    cases hl : s.listings.lookup id with
    | none => rfl
    | some l => exact congrArg some (h.listed.sound id l hl).decode_row

/-- In every state of a run whose steps fit, the listings are right as any request finds them. -/
theorem listings_right (u : Utf8) (cols : ListingColumns) (es : List ListingEvent)
    (hfits : Runs.Admitted (step u cols) (StepFits cols) (started ∅) es) (n : Nat) (w : ListingWorld) :
    Right u cols ((Runs.run (step u cols) (started ∅) (es.take n)).ensureListingsLoaded w) := by
  have hkept : Kept u cols (Runs.run (step u cols) (started ∅) (es.take n)) :=
    Runs.invariant (I := Kept u cols) (fun _ e hs he => hs.step e he) kept_started (hfits.take n)
  exact (hkept.held w).right

end LFTListings

namespace ListingSample

open LFTListings ListingEvent

def ascii : Utf8 where
  Utf8toWStr t := if t.all fun c => c.toNat < 128 then some (t.map Char.toNat) else none
  WStrToUtf8 w := if w.all fun n => n < 128 then some (w.map Char.ofNat) else none
  back w t h := by
    split_ifs at h with hall
    cases h
    have hchar : ∀ n ∈ w, (Char.ofNat n).toNat = n := by
      intro n hn
      have hlt : n < 128 := by simpa using List.all_eq_true.1 hall n hn
      have hvalid : n.isValidChar := Or.inl (by omega)
      rw [Char.ofNat, dif_pos hvalid]
      rfl
    have hback : (w.map Char.ofNat).map Char.toNat = w := by
      rw [List.map_map]
      exact (List.map_congr_left hchar).trans (List.map_id w)
    rw [if_pos, hback]
    rw [List.all_eq_true]
    intro c hc
    obtain ⟨n, hn, rfl⟩ := List.mem_map.1 hc
    rw [hchar n hn]
    exact List.all_eq_true.1 hall n hn

/-- The columns of a server that refuses what does not fit. -/
def strict : ListingColumns where
  creatorName name := if name.length ≤ 32 then some name else none
  title title := if title.length ≤ 128 then some title else none
  description description := if description.length ≤ 65535 then some description else none

def player : ListedPlayer := ⟨7, "Anna".toList, (by decide : Letters "Anna".toList), .mage, 60, 67, false, none⟩

def world : ListingWorld := ⟨[player], List.nodup_singleton 7⟩

def newGroup (title : Text) : ListingEvent := message world 7 true ("C2S_NEW_GROUP;".toList ++ title ++ ";all welcome;1;1:1:3".toList)

/-- A listing made, its creator in it as a healer, saved, and found again after a restart. -/
def evening : List ListingEvent :=
  [newGroup "Deadmines".toList, message world 7 false "C2C_ROLECHECK_RESPONSE;2".toList, execute, execute, restart, logout world 7]

theorem listings_right_evening : Right ascii strict ((Runs.run (step ascii strict)
    (started ∅) evening).ensureListingsLoaded world) := by
  refine listings_right ascii strict evening ⟨⟨?_, by decide +kernel⟩, ⟨?_, by decide +kernel⟩, trivial, trivial, trivial, trivial, trivial⟩ 6 world
  · intro texts htexts
    have hmem : texts ∈ [("Deadmines".toList, "all welcome".toList)] := by
      have hasked : askedTexts ("C2S_NEW_GROUP;".toList ++ "Deadmines".toList ++ ";all welcome;1;1:1:3".toList) =
          [("Deadmines".toList, "all welcome".toList)] := by decide +kernel
      exact hasked ▸ htexts
    rw [mem_singleton.1 hmem]
    refine ⟨by decide, by decide, fun p hp => ?_⟩
    have hplayer : world.getPlayer 7 = some player := rfl
    rw [hplayer] at hp
    cases hp
    decide
  · intro texts htexts
    have hasked : askedTexts "C2C_ROLECHECK_RESPONSE;2".toList = [] := by decide +kernel
    rw [hasked] at htexts
    cases htexts

/-- A title of 129 letters has a listing and no row. -/
theorem long_title_no_row : ¬ ∀ (es : List ListingEvent) (n : Nat) (w : ListingWorld),
    Right ascii strict ((Runs.run (step ascii strict) (started ∅) (es.take n)).ensureListingsLoaded w) := by
  intro h
  have hrow := congrArg Option.isSome ((h [newGroup (replicate 129 'a')] 1 world).rows 1)
  rw [Option.isSome_map] at hrow
  revert hrow
  decide +kernel

end ListingSample

end ComfyCraft
