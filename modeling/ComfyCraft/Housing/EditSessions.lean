import ComfyCraft.Housing.Orderly
import Mathlib.Data.Finset.Union

/-! Edit sessions: the pieces of a house that one player may click. A session wants a set of pieces and remembers those the client
was told of; `Reconcile` brings the second in line with the first, and a session over a whole house is given its pieces anew. -/

namespace ComfyCraft

open List AList Runs

variable {om : ObjectMgr} {F : Type} {sv : Server F}

structure HouseEdit where
  houseId : UInt32
  all : Bool
  wanted : Finset UInt32
  marked : Finset UInt32
deriving DecidableEq

/-- `m_editing`: the sessions under the guids of their players. -/
abbrev Sessions := Table UInt32 HouseEdit

namespace HouseMgr

variable (s : HouseMgr sv) (editing : Sessions) (player : UInt32) (p : Visitor F)

def getObjects (houseId : UInt32) : List (HouseObject F) :=
  match s.getHouseById houseId with
  | none => []
  | some h => s.piecesOf h

def reconcile (session : HouseEdit) : HouseEdit :=
  let wanted :=
    if session.all then (((s.getObjects session.houseId).filter fun o => !isHouseFabric o).map HouseObject.guid).toFinset
    else session.wanted
  -- unmarking first, then marking what is there; both flash the piece for the player
  let kept := session.marked.filter (· ∈ wanted)
  { session with
    wanted := wanted
    marked := kept ∪ wanted.filter fun guid => (s.getObject guid).isSome }

def addToEdit (player objectGuid : UInt32) : Sessions :=
  match s.getObject objectGuid with
  | none => editing
  | some o =>
    let session := (editing.lookup player).getD ⟨0, false, ∅, ∅⟩
    let session := if session.houseId = 0 then { session with houseId := o.houseId } else session
    editing.insert player (s.reconcile { session with wanted := insert objectGuid session.wanted })

def dropFromEdit (player objectGuid : UInt32) : Sessions :=
  match editing.lookup player with
  | none => editing
  | some session =>
    let session := s.reconcile { session with wanted := session.wanted.erase objectGuid }
    if !session.all && session.wanted = ∅ then editing.erase player else editing.insert player session

/-- `UpdateEditSessions` for one player of the map. -/
def updateEditSession : Sessions :=
  match editing.lookup player with
  | none => editing
  | some session => editing.insert player (s.reconcile session)

def clearEdit : Sessions := editing.erase player

def setEditMode (on : Bool) : Reply Sessions :=
  match s.getHouseAt p with
  | none => refuse editing "You are not in a house."
  | some house =>
    if canEditHouse p house = false then refuse editing "This is not your house."
    else if !on then done (clearEdit editing player)
    else
      let objects := s.getObjects house.id
      let mine := objects.filter fun o => !isHouseFabric o
      if mine.isEmpty then
        refuse (clearEdit editing player)
          (if objects.isEmpty then "There is nothing here to edit."
          else "Everything here came with the house. Place something of your own first.")
      else done ((clearEdit editing player).insert player (s.reconcile ⟨house.id, true, (mine.map HouseObject.guid).toFinset, ∅⟩))

def placedBy (w : HouseWorld om sv) (p : Visitor F) : HouseRequest F → Option UInt32
  | .place goEntry distance => if (w.mgr.placeObject p goEntry distance 0 (sv.lit 0) none).1.isOk then some w.mgr.nextObjectGuid else none
  | .useItem pos =>
    (w.player.getItemByPos pos).bind fun item =>
      if isCritterItem sv item.getEntry then none
      else if (w.mgr.useFurnitureItem p item.getEntry).1.isOk then some w.mgr.nextObjectGuid
      else none
  | _ => none

/-- `RemoveObject`: the session lets go of the piece before it is purged. -/
def removeAndDrop (w : HouseWorld om sv × Sessions) (guid : UInt32) : HouseWorld om sv × Sessions :=
  match removeObject w.1 p guid with
  | (.error _, w') => (w', w.2)
  | (.ok (), w') => (w', w.1.mgr.dropFromEdit w.2 player guid)

def sessionsAfter (w : HouseWorld om sv) (editing : Sessions) (player : UInt32) (p : Visitor F) : HouseRequest F → Sessions
  | .remove guid => (removeAndDrop player p (w, editing) guid).2
  | .clear =>
    match w.mgr.checkOwner p with
    | .error _ => editing
    | .ok house => (Runs.run (removeAndDrop player p) (w, editing) house.objects).2
  | .reset => if (w.mgr.resetHouse p).1.isOk then clearEdit editing player else editing
  | r =>
    match placedBy w p r with
    | none => editing
    | some guid => (handle w p r).mgr.addToEdit editing player guid

end HouseMgr

/-- What happens to the houses, with the player of each request; edit mode switched on or off, one piece added or dropped by
its command or its menu, the pass over the players on a map, and a player who leaves it. -/
inductive EditEvent (om : ObjectMgr) (F : Type)
  | request (player : UInt32) (bags : Player om) (p : Visitor F) (r : HouseRequest F)
  | consoleDelete (id : UInt32)
  | setEditMode (player : UInt32) (p : Visitor F) (on : Bool)
  | add (player objectGuid : UInt32)
  | drop (player objectGuid : UInt32)
  | update (players : List UInt32)
  | leave (player : UInt32)
  | restart (named : UInt32 → Bool) (shelves : List StorageRow)

structure EditWorld {F : Type} (sv : Server F) where
  mgr : HouseMgr sv
  editing : Sessions

namespace EditWorld

open HouseMgr

def step (w : EditWorld sv) : EditEvent om F → EditWorld sv
  | .request player bags p r => ⟨(handle ⟨bags, w.mgr⟩ p r).mgr, sessionsAfter ⟨bags, w.mgr⟩ w.editing player p r⟩
  | .consoleDelete id => { w with mgr := (w.mgr.deleteTemplate none id).2 }
  | .setEditMode player p on => { w with editing := (w.mgr.setEditMode w.editing player p on).2 }
  | .add player objectGuid => { w with editing := w.mgr.addToEdit w.editing player objectGuid }
  | .drop player objectGuid => { w with editing := w.mgr.dropFromEdit w.editing player objectGuid }
  | .update players => { w with editing := Runs.run w.mgr.updateEditSession w.editing players }
  | .leave player => { w with editing := clearEdit w.editing player }
  | .restart named shelves => ⟨HouseMgr.start w.mgr.db named shelves, ∅⟩

def start (db : HouseTables sv) (named : UInt32 → Bool) (shelves : List StorageRow) : EditWorld sv := ⟨HouseMgr.start db named shelves, ∅⟩

end EditWorld

/-- What the client was told of is wanted, and a session of single pieces has one. -/
structure HouseEdit.Fit (session : HouseEdit) : Prop where
  marked : session.marked ⊆ session.wanted
  wanted : session.all = false → session.wanted.Nonempty

def Fit (editing : Sessions) : Prop := ∀ player session, editing.lookup player = some session → session.Fit

variable {editing : Sessions} {session : HouseEdit} {player guid : UInt32}

theorem Fit.insert (h : Fit editing) (hsession : session.Fit) : Fit (editing.insert player session) := by
  intro other session' hlookup
  by_cases hother : other = player
  · rw [hother, lookup_insert] at hlookup
    exact Option.some.inj hlookup ▸ hsession
  · rw [lookup_insert_ne hother] at hlookup
    exact h other session' hlookup

theorem Fit.erase (h : Fit editing) (player : UInt32) : Fit (editing.erase player) := by
  intro other session hlookup
  by_cases hother : other = player
  · rw [hother, lookup_erase] at hlookup
    cases hlookup
  · rw [lookup_erase_ne hother] at hlookup
    exact h other session hlookup

namespace HouseMgr

variable {s : HouseMgr sv} {houseId : UInt32}

/-- A piece of a house that is not its fabric. -/
def Loose (s : HouseMgr sv) (houseId guid : UInt32) : Prop :=
  ∃ house o, s.getHouseById houseId = some house ∧ guid ∈ house.objects ∧ s.getObject guid = some o ∧ isHouseFabric o = false

variable {o : HouseObject F} {p : Visitor F}

theorem mem_getObjects :
    o ∈ s.getObjects houseId ↔ ∃ house guid, s.getHouseById houseId = some house ∧ guid ∈ house.objects ∧ s.getObject guid = some o := by
  unfold getObjects
  cases s.getHouseById houseId with
  | none => simp
  | some h =>
    unfold piecesOf
    rw [mem_filterMap]
    constructor
    · rintro ⟨guid, hguid, ho⟩
      exact ⟨h, guid, rfl, hguid, ho⟩
    · rintro ⟨house, guid, hhouse, hguid, ho⟩
      exact ⟨guid, Option.some.inj hhouse ▸ hguid, ho⟩

theorem mem_reconcile_wanted (hs : s.Keyed) (hall : session.all = true) :
    guid ∈ (s.reconcile session).wanted ↔ s.Loose session.houseId guid := by
  unfold reconcile
  rw [hall, if_pos rfl, mem_toFinset, mem_map]
  constructor
  · rintro ⟨o, ho, rfl⟩
    obtain ⟨hmem, hfabric⟩ := mem_filter.1 ho
    obtain ⟨house, key, hhouse, hkey, hlookup⟩ := mem_getObjects.1 hmem
    rw [hs.objects key o hlookup]
    exact ⟨house, o, hhouse, hkey, hlookup, Bool.not_eq_true' _ ▸ hfabric⟩
  · rintro ⟨house, o, hhouse, hguid, hlookup, hfabric⟩
    refine ⟨o, mem_filter.2 ⟨mem_getObjects.2 ⟨house, guid, hhouse, hguid, hlookup⟩, ?_⟩, hs.objects guid o hlookup⟩
    rw [hfabric]
    rfl

theorem fit_reconcile (s : HouseMgr sv) (h : session.all = false → session.wanted.Nonempty) : (s.reconcile session).Fit where
  marked := by
    unfold reconcile
    apply Finset.union_subset
    · intro guid hguid
      exact (Finset.mem_filter.1 hguid).2
    · exact Finset.filter_subset _ _
  wanted := by
    intro hall
    have hsingle : session.all = false := hall
    unfold reconcile
    rw [hsingle]
    exact h hsingle

theorem fit_addToEdit (h : Fit editing) (s : HouseMgr sv) (player guid : UInt32) : Fit (s.addToEdit editing player guid) := by
  unfold addToEdit
  cases s.getObject guid with
  | none => exact h
  | some o =>
    exact h.insert (fit_reconcile s fun _ => Finset.insert_nonempty _ _)

theorem fit_dropFromEdit (h : Fit editing) (s : HouseMgr sv) (player guid : UInt32) : Fit (s.dropFromEdit editing player guid) := by
  unfold dropFromEdit
  cases hlookup : editing.lookup player with
  | none => exact h
  | some session =>
    dsimp only
    split_ifs with hgone
    · exact h.erase player
    refine h.insert (fit_reconcile s fun hall => ?_)
    -- what is left of the pieces decides whether the session stays
    rw [Finset.nonempty_iff_ne_empty]
    intro hempty
    apply hgone
    unfold reconcile
    rw [hall, hempty]
    rfl

theorem fit_updateEditSession (h : Fit editing) (s : HouseMgr sv) (player : UInt32) : Fit (s.updateEditSession editing player) := by
  unfold updateEditSession
  cases hlookup : editing.lookup player with
  | none => exact h
  | some session => exact h.insert (fit_reconcile s (h player session hlookup).wanted)

theorem fit_setEditMode (h : Fit editing) (s : HouseMgr sv) (player : UInt32) (p : Visitor F) (on : Bool) :
    Fit (s.setEditMode editing player p on).2 := by
  unfold setEditMode
  cases s.getHouseAt p with
  | none => exact h
  | some house =>
    dsimp only
    split
    · exact h
    split
    · exact h.erase player
    split
    · exact h.erase player
    · exact (h.erase player).insert (fit_reconcile s fun hall => by cases hall)

theorem fit_removeAndDrop {w : HouseWorld om sv × Sessions} (h : Fit w.2) (player : UInt32) (p : Visitor F) (guid : UInt32) :
    Fit (removeAndDrop player p w guid).2 := by
  unfold removeAndDrop
  split
  · exact h
  · exact fit_dropFromEdit h w.1.mgr player guid

theorem fit_sessionsAfter (h : Fit editing) (w : HouseWorld om sv) (player : UInt32) (p : Visitor F) (r : HouseRequest F) :
    Fit (sessionsAfter w editing player p r) := by
  unfold sessionsAfter
  split
  · exact fit_removeAndDrop h player p _
  · split
    · exact h
    · exact always (I := fun w : HouseWorld om sv × Sessions => Fit w.2) (fun w guid hw => fit_removeAndDrop hw player p guid) h _
  · split
    · exact h.erase player
    · exact h
  · split
    · exact h
    · exact fit_addToEdit h _ player _

/-! Which sessions an event reconciles, and with the houses as they are at that moment. -/

/-- A session over the whole house wants exactly its pieces that are not fabric. -/
def Whole (s : HouseMgr sv) (session : HouseEdit) : Prop :=
  session.all = true → ∀ guid, guid ∈ session.wanted ↔ s.Loose session.houseId guid

theorem whole_reconcile (hs : s.Keyed) (session : HouseEdit) : s.Whole (s.reconcile session) :=
  fun hall _ => mem_reconcile_wanted hs hall

theorem whole_addToEdit (hs : s.Keyed) (hguid : (s.getObject guid).isSome = true)
    (h : (s.addToEdit editing player guid).lookup player = some session) : s.Whole session := by
  obtain ⟨o, ho⟩ := Option.isSome_iff_exists.1 hguid
  unfold addToEdit at h
  rw [ho, lookup_insert] at h
  exact Option.some.inj h ▸ whole_reconcile hs _

theorem whole_dropFromEdit (hs : s.Keyed) (h :
    (s.dropFromEdit editing player guid).lookup player = some session) : s.Whole session := by
  unfold dropFromEdit at h
  cases hlookup : editing.lookup player with
  | none =>
    rw [hlookup] at h
    rw [hlookup] at h
    cases h
  | some before =>
    rw [hlookup] at h
    dsimp only at h
    split_ifs at h with hgone
    · rw [lookup_erase] at h
      cases h
    · rw [lookup_insert] at h
      exact Option.some.inj h ▸ whole_reconcile hs _

theorem whole_updateEditSession (hs : s.Keyed) {players : List UInt32} (hplayer : player ∈ players)
    (h : (Runs.run s.updateEditSession editing players).lookup player = some session) : s.Whole session := by
  induction players using reverseRecOn with
  | nil => cases hplayer
  | append_singleton players last ih =>
    rw [run_append] at h
    change (s.updateEditSession (run s.updateEditSession editing players) last).lookup player = some session at h
    unfold updateEditSession at h
    split at h
    · next hnone =>
      rcases mem_append.1 hplayer with hmem | hlast
      · exact ih hmem h
      · rw [mem_singleton.1 hlast, hnone] at h
        cases h
    · by_cases hlast : player = last
      · rw [hlast, lookup_insert] at h
        exact Option.some.inj h ▸ whole_reconcile hs _
      · rw [lookup_insert_ne hlast] at h
        refine ih ?_ h
        exact (mem_append.1 hplayer).resolve_right fun hmem => hlast (mem_singleton.1 hmem)

theorem whole_setEditMode (hs : s.Keyed) {on : Bool} (hok : (s.setEditMode editing player p on).1.isOk = true)
    (h : (s.setEditMode editing player p on).2.lookup player = some session) :
    s.Whole session ∧ session.all = true ∧ ∃ house, s.getHouseAt p = some house ∧ session.houseId = house.id := by
  unfold setEditMode at h hok
  cases hat : s.getHouseAt p with
  | none =>
    rw [hat] at hok
    cases hok
  | some house =>
    rw [hat] at h hok
    dsimp only at h hok
    by_cases hedit : canEditHouse p house = false
    · rw [if_pos hedit] at hok
      cases hok
    rw [if_neg hedit] at h hok
    by_cases hon : (!on) = true
    · rw [if_pos hon] at h
      change (editing.erase player).lookup player = some session at h
      rw [lookup_erase] at h
      cases h
    · rw [if_neg hon] at h hok
      by_cases hmine : ((s.getObjects house.id).filter fun o => !isHouseFabric o).isEmpty = true
      · rw [if_pos hmine] at hok
        cases hok
      rw [if_neg hmine] at h
      unfold done at h
      rw [lookup_insert] at h
      cases Option.some.inj h
      exact ⟨whole_reconcile hs _, rfl, house, rfl, rfl⟩

theorem getObject_addObject {row : HouseObject F} : ((s.addObject o row).getObject o.guid).isSome = true := by
  unfold addObject getObject
  rw [modifyHouse_rest, lookup_insert]
  rfl

theorem getObject_placeObject {goEntry : UInt32} {distance : F} {itemEntry : UInt32} {scale : F}
    {at_ : Option (F × F × F)} (h : (s.placeObject p goEntry distance itemEntry scale at_).1.isOk = true) :
    ((s.placeObject p goEntry distance itemEntry scale at_).2.getObject s.nextObjectGuid).isSome = true := by
  unfold placeObject at h ⊢
  cases howner : s.checkOwner p with
  | error e =>
    rw [howner] at h
    cases h
  | ok house =>
    rw [howner] at h
    dsimp only at h ⊢
    by_cases hfull : HOUSE_MAX_OBJECTS ≤ s.countPlayerObjects house
    · rw [if_pos hfull] at h
      cases h
    rw [if_neg hfull] at h ⊢
    cases hinfo : sv.getGameObjectInfo goEntry with
    | none =>
      rw [hinfo] at h
      cases h
    | some info =>
      rw [hinfo] at h
      dsimp only at h ⊢
      by_cases hmodel : info.displayId ≠ 0 ∧ sv.hasDisplayInfo info.displayId = false
      · rw [if_pos hmodel] at h
        cases h
      rw [if_neg hmodel] at h ⊢
      split at h
      · cases h
      rcases s.allocateObjectGuid_cases with hnone | ⟨-, hguid⟩
      · rw [hnone] at h
        cases h
      rw [hguid] at h ⊢
      split_ifs at h ⊢ with hzero
      · cases h
      · exact getObject_addObject

theorem getObject_placed {w : HouseWorld om sv} {r : HouseRequest F} (h : placedBy w p r = some guid) :
    ((handle w p r).mgr.getObject guid).isSome = true := by
  unfold placedBy at h
  split at h
  · split_ifs at h with hok
    exact Option.some.inj h ▸ getObject_placeObject hok
  · next pos =>
    obtain ⟨item, hitem, hplaced⟩ := Option.bind_eq_some_iff.1 h
    split_ifs at hplaced with hcritter hok
    have hguid := Option.some.inj hplaced
    have huse : w.mgr.useItem p item.getEntry = w.mgr.useFurnitureItem p item.getEntry := if_neg hcritter
    have hobject : ((w.mgr.useFurnitureItem p item.getEntry).2.getObject w.mgr.nextObjectGuid).isSome = true := by
      unfold useFurnitureItem at hok ⊢
      split at hok
      · cases hok
      · exact getObject_placeObject hok
    have hhandle : (handle w p (.useItem pos)).mgr = (w.mgr.useFurnitureItem p item.getEntry).2 := by
      change (placeFromItem w p pos).2.mgr = _
      unfold placeFromItem
      rw [hitem, ← huse]
      dsimp only
      split
      · next hreply => rw [hreply]; rfl
      · next hreply => rw [hreply]; rfl
    rw [hhandle, ← hguid]
    exact hobject
  · cases h

end HouseMgr

namespace EditWorld

open HouseMgr

/-- The houses as they are when an event reconciles the session of a player, if it does. -/
def reconciledOn (w : EditWorld sv) (player : UInt32) : EditEvent om F → Option (HouseMgr sv)
  | .request acting bags p (.remove guid) =>
    if acting = player ∧ (removeObject ⟨bags, w.mgr⟩ p guid).1.isOk = true then some w.mgr else none
  | .request acting bags p r => if acting = player then (placedBy ⟨bags, w.mgr⟩ p r).map fun _ => (handle ⟨bags, w.mgr⟩ p r).mgr else none
  | .setEditMode acting p on => if acting = player ∧ (w.mgr.setEditMode w.editing player p on).1.isOk = true then some w.mgr else none
  | .add acting objectGuid => if acting = player ∧ (w.mgr.getObject objectGuid).isSome = true then some w.mgr else none
  | .drop acting _ => if acting = player then some w.mgr else none
  | .update players => if player ∈ players then some w.mgr else none
  | _ => none

variable {w : EditWorld sv}

theorem fit_step (h : Fit w.editing) (e : EditEvent om F) : Fit (w.step e).editing := by
  cases e with
  | request player bags p r => exact fit_sessionsAfter h ⟨bags, w.mgr⟩ player p r
  | consoleDelete id => exact h
  | setEditMode player p on => exact fit_setEditMode h w.mgr player p on
  | add player guid => exact fit_addToEdit h w.mgr player guid
  | drop player guid => exact fit_dropFromEdit h w.mgr player guid
  | update players => exact always (I := Fit) (fun _ player hf => fit_updateEditSession hf w.mgr player) h players
  | leave player => exact h.erase player
  | restart named shelves => exact fun player session hlookup => by cases hlookup

theorem orderly_step (h : Orderly False w.mgr) (e : EditEvent om F) : Orderly False (w.step e).mgr := by
  cases e with
  | request player bags p r => exact step_orderly h (.request bags p r)
  | consoleDelete id => exact step_orderly h (.consoleDelete id : HouseEvent om F)
  | setEditMode player p on => exact h
  | add player guid => exact h
  | drop player guid => exact h
  | update players => exact h
  | leave player => exact h
  | restart named shelves => exact step_orderly h (.restart named shelves : HouseEvent om F)

/-- Every pass of `Reconcile` leaves a session over the whole house with the pieces the house has then. -/
theorem whole_step (hw : Orderly False w.mgr) {e : EditEvent om F} {player : UInt32} {s : HouseMgr sv}
    (hon : w.reconciledOn player e = some s)
    {session : HouseEdit} (h : (w.step e).editing.lookup player = some session) : s.Whole session := by
  unfold reconciledOn at hon
  split at hon
  · next acting bags p guid =>
    split_ifs at hon with hremoved
    obtain ⟨rfl, hok⟩ := hremoved
    cases hon
    change (removeAndDrop acting p (⟨bags, w.mgr⟩, w.editing) guid).2.lookup acting = some session at h
    unfold removeAndDrop at h
    split at h
    · next hreply =>
      rw [hreply] at hok
      cases hok
    · exact whole_dropFromEdit hw.toKeyed h
  · next acting bags p r hr =>
    split_ifs at hon with hacting
    subst hacting
    obtain ⟨guid, hplaced, rfl⟩ := Option.map_eq_some_iff.1 hon
    change (sessionsAfter ⟨bags, w.mgr⟩ w.editing acting p r).lookup acting = some session at h
    have hsessions : sessionsAfter ⟨bags, w.mgr⟩ w.editing acting p r =
        (handle ⟨bags, w.mgr⟩ p r).mgr.addToEdit w.editing acting guid := by
      unfold sessionsAfter
      split
      · cases hplaced
      · cases hplaced
      · cases hplaced
      · rw [hplaced]
    rw [hsessions] at h
    exact whole_addToEdit (step_orderly hw (.request bags p r)).toKeyed (getObject_placed hplaced) h
  · next acting p on =>
    split_ifs at hon with hopened
    obtain ⟨rfl, hok⟩ := hopened
    cases hon
    exact (whole_setEditMode hw.toKeyed hok h).1
  · next acting guid =>
    split_ifs at hon with hadded
    obtain ⟨rfl, hguid⟩ := hadded
    cases hon
    exact whole_addToEdit hw.toKeyed hguid h
  · next acting guid =>
    split_ifs at hon with hacting
    subst hacting
    cases hon
    exact whole_dropFromEdit hw.toKeyed h
  · next players =>
    split_ifs at hon with hplayer
    cases hon
    exact whole_updateEditSession hw.toKeyed hplayer h
  · cases hon

/-! Clearing a house is taking its pieces down one after the other. -/

theorem removeAndDrop_world (player : UInt32) (p : Visitor F) (w : HouseWorld om sv × Sessions) (guid : UInt32) :
    (removeAndDrop player p w guid).1 = (removeObject w.1 p guid).2 := by
  unfold removeAndDrop
  split
  · next hreply => rw [hreply]
  · next hreply => rw [hreply]

theorem clearObjects_cons (p : Visitor F) (guid : UInt32) (guids : List UInt32) (w : HouseWorld om sv) (n : ClearCount) :
    ∃ n', clearObjects p (guid :: guids) (w, n) = clearObjects p guids ((removeObject w p guid).2, n') := by
  conv =>
    enter [1, n', 1]
    unfold clearObjects
  rcases removeObject w p guid with ⟨_ | _, w'⟩
  · exact ⟨_, rfl⟩
  · exact ⟨_, rfl⟩

/-- The removal of one piece, as a request of the same player. -/
def Removal (player : UInt32) (p : Visitor F) (e : EditEvent om F) : Prop := ∃ bags guid, e = .request player bags p (.remove guid)

theorem clearObjects_removals (player : UInt32) (p : Visitor F) (guids : List UInt32) (w : HouseWorld om sv) (n : ClearCount)
    (editing : Sessions) :
    ∃ removals : List (EditEvent om F), (∀ e ∈ removals, Removal player p e) ∧
      EditWorld.mk (clearObjects p guids (w, n)).1.mgr (Runs.run (removeAndDrop player p) (w, editing) guids).2 =
        Runs.run step ⟨w.mgr, editing⟩ removals := by
  induction guids generalizing w n editing with
  | nil => exact ⟨[], fun e he => absurd he not_mem_nil, rfl⟩
  | cons guid guids ih =>
    obtain ⟨n', hn'⟩ := clearObjects_cons p guid guids w n
    obtain ⟨removals, hall, hrun⟩ := ih (removeObject w p guid).2 n' (removeAndDrop player p (w, editing) guid).2
    refine ⟨.request player w.player p (.remove guid) :: removals, ?_, ?_⟩
    · intro e he
      rcases mem_cons.1 he with rfl | he
      · exact ⟨w.player, guid, rfl⟩
      · exact hall e he
    · rw [hn']
      change EditWorld.mk _ (run (removeAndDrop player p) (removeAndDrop player p (w, editing) guid) guids).2 = _
      rw [← Prod.eta (removeAndDrop player p (w, editing) guid), removeAndDrop_world]
      exact hrun

theorem clear_removals (w : EditWorld sv) (player : UInt32) (bags : Player om) (p : Visitor F) :
    ∃ removals : List (EditEvent om F), (∀ e ∈ removals, Removal player p e) ∧
      w.step (.request player bags p .clear) = Runs.run step w removals := by
  cases howner : w.mgr.checkOwner p with
  | error e =>
    have hmgr : (handle ⟨bags, w.mgr⟩ p .clear).mgr = w.mgr := by
      change (clearHouse ⟨bags, w.mgr⟩ p).2.1.mgr = w.mgr
      unfold clearHouse
      rw [howner]
      rfl
    have hsessions : sessionsAfter ⟨bags, w.mgr⟩ w.editing player p .clear = w.editing := by
      unfold sessionsAfter
      rw [howner]
    refine ⟨[], fun e he => absurd he not_mem_nil, ?_⟩
    change EditWorld.mk (handle ⟨bags, w.mgr⟩ p .clear).mgr (sessionsAfter ⟨bags, w.mgr⟩ w.editing player p .clear) = w
    rw [hmgr, hsessions]
  | ok house =>
    have hmgr : (handle ⟨bags, w.mgr⟩ p .clear).mgr = (clearObjects p house.objects (⟨bags, w.mgr⟩, ⟨0, 0, 0⟩)).1.mgr := by
      change (clearHouse ⟨bags, w.mgr⟩ p).2.1.mgr = _
      unfold clearHouse
      rw [howner]
      rfl
    have hsessions : sessionsAfter ⟨bags, w.mgr⟩ w.editing player p .clear =
        (run (removeAndDrop player p) (⟨bags, w.mgr⟩, w.editing) house.objects).2 := by
      unfold sessionsAfter
      rw [howner]
    obtain ⟨removals, hall, hrun⟩ := clearObjects_removals player p house.objects ⟨bags, w.mgr⟩ ⟨0, 0, 0⟩ w.editing
    refine ⟨removals, hall, ?_⟩
    change EditWorld.mk (handle ⟨bags, w.mgr⟩ p .clear).mgr (sessionsAfter ⟨bags, w.mgr⟩ w.editing player p .clear) = _
    rw [hmgr, hsessions]
    exact hrun

/-- After a start and whatever happened then, what the client of a player was told of is what the session wants or less, and a
session of single pieces has one. Each time a session over a whole house is reconciled it wants exactly the pieces of the house
that are not its fabric; a clear reconciles as the removals do that it consists of. -/
theorem edit_sessions_consistent (db : HouseTables sv) (named : UInt32 → Bool) (shelves : List StorageRow) (es : List
    (EditEvent om F)) :
    let w := run step (start db named shelves) es
    (∀ player session, w.editing.lookup player = some session →
      session.marked ⊆ session.wanted ∧ (session.all = false → session.wanted.Nonempty)) ∧
    (∀ (e : EditEvent om F) player s session, w.reconciledOn player e = some s → (w.step e).editing.lookup player = some session →
      session.all = true → ∀ guid, guid ∈ session.wanted ↔ s.Loose session.houseId guid) ∧
    ∀ player (bags : Player om) p, ∃ removals : List (EditEvent om F),
      (∀ e ∈ removals, Removal player p e) ∧ w.step (.request player bags p .clear) = run step w removals := by
  intro w
  have hfit : Fit w.editing :=
    always (I := fun w : EditWorld sv => Fit w.editing) (fun _ e hw => fit_step hw e)
      (fun player session hlookup => by cases hlookup) es
  have horderly : Orderly False w.mgr :=
    always (I := fun w : EditWorld sv => Orderly False w.mgr) (fun _ e hw => orderly_step hw e)
      (start_orderly (fun hf => hf.elim) named shelves) es
  refine ⟨fun player session h => ?_, fun e player s session hon h => whole_step horderly hon h, fun player bags p => clear_removals w player bags p⟩
  have hsession := hfit player session h
  exact ⟨hsession.marked, hsession.wanted⟩

end EditWorld
end ComfyCraft
