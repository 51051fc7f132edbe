import ComfyCraft.Lib.Text
import ComfyCraft.LFT.Model

/-! Manual group listings: what the players ask, the listings in memory, and the statements on
`lft_user_groups`, which are queued and executed in order. A request finds the players who are in the
world at that moment and the groups they are in. The messages that go out are left out. -/

namespace ComfyCraft

/-! Names. -/

def MAX_INTERNAL_PLAYER_NAME : Nat := 24

def wcharToUpper (c : Nat) : Nat :=
  if 0x61 ≤ c ∧ c ≤ 0x7A then c - 0x20
  else if c = 0xDF then 0x1E9E
  else if 0xE0 ≤ c ∧ c ≤ 0xF6 then c - 0x20
  else if 0xF8 ≤ c ∧ c ≤ 0xFE then c - 0x20
  else if 0x101 ≤ c ∧ c ≤ 0x12F ∧ c % 2 = 1 then c - 1
  else if 0x430 ≤ c ∧ c ≤ 0x44F then c - 0x20
  else if c = 0x451 then 0x401
  else c

def wcharToLower (c : Nat) : Nat :=
  if 0x41 ≤ c ∧ c ≤ 0x5A then c + 0x20
  else if 0xC0 ≤ c ∧ c ≤ 0xD6 then c + 0x20
  else if 0xD8 ≤ c ∧ c ≤ 0xDE then c + 0x20
  else if 0x100 ≤ c ∧ c ≤ 0x12E ∧ c % 2 = 0 then c + 1
  else if c = 0x1E9E then 0xDF
  else if c = 0x401 then 0x451
  else if 0x410 ≤ c ∧ c ≤ 0x42F then c + 0x20
  else c

/-- The conversions of the `utf8` library. -/
structure Utf8 where
  Utf8toWStr : Text → Option (List Nat)
  WStrToUtf8 : List Nat → Option Text
  back : ∀ w t, WStrToUtf8 w = some t → Utf8toWStr t = some w

/-- The first letter large and the others small. A name that begins with a sharp s is none; the code
looks for its two bytes. -/
def normalizePlayerName (u : Utf8) (name : Text) : Option Text :=
  match u.Utf8toWStr name with
  | none | some [] => none
  | some (c :: cs) =>
    if c = 0xDF ∨ MAX_INTERNAL_PLAYER_NAME < cs.length + 1 then none
    else u.WStrToUtf8 (wcharToUpper c :: cs.map wcharToLower)

/-! Players and groups. -/

def PlayerClass.name : PlayerClass → Text
  | .warrior => "WARRIOR".toList
  | .paladin => "PALADIN".toList
  | .hunter => "HUNTER".toList
  | .rogue => "ROGUE".toList
  | .priest => "PRIEST".toList
  | .shaman => "SHAMAN".toList
  | .mage => "MAGE".toList
  | .warlock => "WARLOCK".toList
  | .druid => "DRUID".toList
  | .unknown => "UNKNOWN".toList

def isListingMark (c : Char) : Bool := c = '\\' || c = '|' || c = ';'

structure Party where
  leader : UInt32
  members : List UInt32
  size : members.length ≤ 40

/-- A player in the world; names are made of letters, and no level is above 255. -/
structure ListedPlayer where
  guid : UInt32
  name : Text
  letters : ∀ c ∈ name, isListingMark c = false
  playerClass : PlayerClass
  level : UInt8
  team : UInt16
  hardcore : Bool
  group : Option Party

structure ListingWorld where
  players : List ListedPlayer
  guids : (players.map ListedPlayer.guid).Nodup

namespace ListingWorld

variable (w : ListingWorld)

def getPlayer (guid : UInt32) : Option ListedPlayer := w.players.find? fun p => p.guid = guid

/-- `FindPlayerByName`. -/
def getPlayerByName (u : Utf8) (name : Text) : Option ListedPlayer :=
  (normalizePlayerName u name).bind fun n => w.players.find? fun p => p.name = n

end ListingWorld

/-! Listings. -/

structure PerRole (α : Type) where
  tank : α
  healer : α
  damage : α
deriving DecidableEq

namespace PerRole

variable {α β : Type}

def map (f : α → β) (r : PerRole α) : PerRole β := ⟨f r.tank, f r.healer, f r.damage⟩

/-- The value of a role from 1 to 3 changed. -/
def modify (r : PerRole α) (roleIdx : Nat) (f : α → α) : PerRole α :=
  if roleIdx = 1 then { r with tank := f r.tank }
  else if roleIdx = 2 then { r with healer := f r.healer }
  else { r with damage := f r.damage }

def all (r : PerRole (List α)) : List α := r.tank ++ r.healer ++ r.damage

end PerRole

structure ListingSignup where
  name : Text
  className : Text
  level : UInt32
  confirmed : Bool
deriving DecidableEq

structure Listing where
  id : UInt32
  creatorGuid : UInt32
  creator : Text
  className : Text
  level : UInt8
  team : UInt16
  isHardcore : Bool
  title : Text
  description : Text
  category : UInt8
  limit : PerRole UInt8
  numConfirmed : PerRole UInt8
  signups : PerRole (List ListingSignup)

/-- A row of `lft_user_groups`. -/
structure ListingRow where
  id : UInt32
  creatorGuid : UInt32
  creatorName : Text
  creatorClass : Text
  creatorLevel : UInt8
  team : UInt16
  hardcore : Bool
  category : UInt8
  title : Text
  description : Text
  limit : PerRole UInt8
  count : PerRole UInt8
  signups : PerRole Text
deriving DecidableEq

def parseConfirmedRoleIndex (value : Text) : Nat :=
  if value = "1".toList ∨ value = "t".toList ∨ value = "T".toList then 1
  else if value = "2".toList ∨ value = "h".toList ∨ value = "H".toList then 2
  else if value = "3".toList ∨ value = "0".toList ∨ value = "d".toList ∨ value = "D".toList then 3
  else 0

def parseRoleCounts (roles : Text) : PerRole UInt8 :=
  let parts := Text.split ':' [] roles
  let count (i : Nat) : UInt8 := (parts[i]?.map fun part => UInt8.ofNat (Text.strtoul part)).getD 0
  ⟨count 0, count 1, count 2⟩

namespace Listing

variable (u : Utf8) (listing : Listing)

def removeListingSignup (name : Text) : Listing :=
  match normalizePlayerName u name with
  | none => listing
  | some normalized =>
    { listing with signups := listing.signups.map fun role => role.filter fun s => normalizePlayerName u s.name ≠ some normalized }

def enterSignup (signup : ListingSignup) (roleIdx : Nat) : Listing :=
  let listing := listing.removeListingSignup u signup.name
  { listing with signups := listing.signups.modify roleIdx fun role => role ++ [signup] }

def setListingSignupRole (p : ListedPlayer) (roleIdx : Nat) : Listing :=
  listing.enterSignup u ⟨p.name, p.playerClass.name, p.level.toUInt32, true⟩ roleIdx

/-- The player of a signup is in the world, and the creator or in the creator's group. -/
def belongs (w : ListingWorld) (creator : ListedPlayer) (s : ListingSignup) : Bool :=
  match (normalizePlayerName u s.name).bind (w.getPlayerByName u) with
  | none => false
  | some p => p.guid = creator.guid || creator.group.any fun g => g.members.contains p.guid

def pruneListingSignups (w : ListingWorld) (listing : Listing) : Listing :=
  match w.getPlayer listing.creatorGuid with
  | none => listing
  | some creator => { listing with signups := listing.signups.map fun role => role.filter (belongs u w creator) }

def recountListing : Listing :=
  { listing with numConfirmed := listing.signups.map fun role => UInt8.ofNat role.length }

def confirm (w : ListingWorld) (listing : Listing) (confirmed : Text) : Listing :=
  match Text.split ':' [] confirmed with
  | name :: role :: _ =>
    if name = [] then listing
    else
      let roleIdx := parseConfirmedRoleIndex role
      if roleIdx = 0 then listing
      else match normalizePlayerName u name with
        | none => listing
        | some name =>
          match w.getPlayerByName u name with
          | some p => listing.setListingSignupRole u p roleIdx
          | none => listing.enterSignup u ⟨name, "UNKNOWN".toList, 0, true⟩ roleIdx
  | _ => listing

end Listing

/-! The texts of the signups. -/

def escapeListingField (value : Text) : Text := value.flatMap fun c => if isListingMark c then ['\\', c] else [c]

def serializeSignup (s : ListingSignup) : Text :=
  escapeListingField s.name ++ '|' :: (escapeListingField s.className ++ '|' :: (Text.decimal s.level.toNat ++
    '|' :: (if s.confirmed then ['1'] else ['0'])))

def serializeSignups (signups : List ListingSignup) : Text :=
  signups.foldl (fun serialized s => (if serialized = [] then serialized else serialized ++ [';']) ++ serializeSignup s) []

def deserializeSignup (row : Text) : Option ListingSignup :=
  if row = [] then none
  else match Text.splitEscaped '\\' '|' [] false row with
    | name :: className :: level :: confirmed :: _ =>
      some ⟨name, className, UInt32.ofNat (Text.strtoul level), confirmed = ['1']⟩
    | _ => none

def deserializeSignups (value : Text) : List ListingSignup :=
  if value = [] then [] else (Text.splitEscaped '\\' ';' [] false value).filterMap deserializeSignup

/-! The table. -/

/-- What the text columns make of a text that they are given: the server refuses it, or keeps it or a
part of it. -/
structure ListingColumns where
  creatorName : Text → Option Text
  title : Text → Option Text
  description : Text → Option Text

def Listing.row (l : Listing) : ListingRow where
  id := l.id
  creatorGuid := l.creatorGuid
  creatorName := l.creator
  creatorClass := l.className
  creatorLevel := l.level
  team := l.team
  hardcore := l.isHardcore
  category := l.category
  title := l.title
  description := l.description
  limit := l.limit
  count := l.numConfirmed
  signups := l.signups.map serializeSignups

/-- A row as `LoadListingsFromDB` reads it. -/
def ListingRow.decode (r : ListingRow) : Listing :=
  { id := r.id
    creatorGuid := r.creatorGuid
    creator := r.creatorName
    className := r.creatorClass
    level := r.creatorLevel
    team := r.team
    isHardcore := r.hardcore
    title := r.title
    description := r.description
    category := r.category
    limit := r.limit
    numConfirmed := r.count
    signups := r.signups.map deserializeSignups : Listing }.recountListing

inductive ListingStmt
  | save (row : ListingRow)
  | delete (id : UInt32)

/-- The values of a row as its columns keep them, where they do not refuse one. -/
def ListingRow.stored (cols : ListingColumns) (r : ListingRow) : Option ListingRow :=
  match cols.creatorName r.creatorName, cols.title r.title, cols.description r.description with
  | some creatorName, some title, some description =>
    some { r with creatorName := creatorName, title := title, description := description }
  | _, _, _ => none

def ListingStmt.execute (cols : ListingColumns) (t : Table UInt32 ListingRow) : ListingStmt → Table UInt32 ListingRow
  | .save row =>
    match row.stored cols with
    | none => t
    | some row =>
      match t.lookup row.id with
      | some old => t.insert row.id { row with creatorGuid := old.creatorGuid }
      | none => t.insert row.id row
  | .delete id => t.erase id

/-! The manager. -/

structure LFTListings where
  listings : Table UInt32 Listing
  nextListingId : UInt32
  listingsLoaded : Bool
  db : Table UInt32 ListingRow
  queue : List ListingStmt

namespace LFTListings

/-- A server that has not looked at the table yet. -/
def started (db : Table UInt32 ListingRow) : LFTListings := ⟨∅, 1, false, db, []⟩

variable (u : Utf8) (s : LFTListings)

def saveListingToDB (l : Listing) : LFTListings := { s with queue := s.queue ++ [.save l.row] }

def deleteListingFromDB (id : UInt32) : LFTListings := { s with queue := s.queue ++ [.delete id] }

/-- One row of `LoadListingsFromDB`. -/
def loadRow (w : ListingWorld) (s : LFTListings) (r : ListingRow) : LFTListings :=
  if (w.getPlayer r.creatorGuid).isNone then s.deleteListingFromDB r.id
  else { s with nextListingId := max s.nextListingId (r.id + 1), listings := s.listings.insert r.id r.decode }

def loadListingsFromDB (w : ListingWorld) : LFTListings :=
  (s.db.ordered.map Sigma.snd).foldl (loadRow w) { s with listings := ∅, nextListingId := 1 }

def ensureListingsLoaded (w : ListingWorld) : LFTListings :=
  if s.listingsLoaded then s else { s.loadListingsFromDB w with listingsLoaded := true }

def dropListings (guid : UInt32) : LFTListings :=
  (s.listings.ordered.filter fun e => e.2.creatorGuid = guid).foldl
    (fun s e => { s.deleteListingFromDB e.2.id with listings := s.listings.erase e.1 }) s

def storeListing (w : ListingWorld) (l : Listing) : LFTListings :=
  let l := (l.pruneListingSignups u w).recountListing
  { s with listings := s.listings.insert l.id l }.saveListingToDB l

def newListing (id : UInt32) (player : ListedPlayer) (title description category limit : Text) : Listing :=
  let category := UInt8.ofNat (Text.strtoul category)
  { id := id
    creatorGuid := player.guid
    creator := player.name
    className := player.playerClass.name
    level := player.level
    team := player.team
    isHardcore := player.hardcore
    title := title
    description := description
    category := if category < 1 ∨ 4 < category then 4 else category
    limit := parseRoleCounts limit
    numConfirmed := ⟨0, 0, 0⟩
    signups := ⟨[], [], []⟩ }

def handleNewGroup (player : ListedPlayer) (fields : List Text) : LFTListings :=
  match fields with
  | _ :: title :: description :: category :: limit :: _ =>
    if player.group.any fun g => g.leader ≠ player.guid then s
    else
      let s := s.dropListings player.guid
      let listing := newListing s.nextListingId player title description category limit
      { s with nextListingId := s.nextListingId + 1, listings := s.listings.insert listing.id listing }.saveListingToDB listing
  | _ => s

def listingId (field : Text) : UInt32 := UInt32.ofNat (Text.strtoul field)

def handleUpdateGroup (w : ListingWorld) (player : ListedPlayer) (fields : List Text) : LFTListings :=
  match fields with
  | _ :: id :: title :: description :: limit :: confirmed =>
    match s.listings.lookup (listingId id) with
    | none => s
    | some l =>
      if l.creatorGuid ≠ player.guid then s
      else
        let l := { l with title := title, description := description, limit := parseRoleCounts limit }
        let l :=
          if confirmed = [] then { l with signups := ⟨[], [], []⟩ }
          else confirmed.foldl (Listing.confirm u w) (l.pruneListingSignups u w)
        s.storeListing u w l
  | _ => s

def handleDeleteGroup (player : ListedPlayer) (fields : List Text) : LFTListings :=
  match fields with
  | _ :: id :: _ =>
    match s.listings.lookup (listingId id) with
    | none => s
    | some l =>
      if l.creatorGuid ≠ player.guid then s
      else { s.deleteListingFromDB l.id with listings := s.listings.erase (listingId id) }
  | _ => s

/-- `GetListingForGroupMember`: the first listing whose creator is the player or has the player in the group. -/
def getListingForGroupMember (w : ListingWorld) (player : ListedPlayer) : Option Listing :=
  (s.listings.ordered.map Sigma.snd).find? fun l =>
    (w.getPlayer l.creatorGuid).any fun creator =>
      creator.guid = player.guid || creator.group.any fun g => g.members.contains player.guid

def handleManualRolecheckResponse (w : ListingWorld) (player : ListedPlayer) (fields : List Text) :
    LFTListings :=
  match fields with
  | _ :: role :: _ =>
    match s.getListingForGroupMember w player with
    | none => s
    | some l =>
      let roleIdx := parseConfirmedRoleIndex role
      s.storeListing u w (if roleIdx = 0 then l.removeListingSignup u player.name else l.setListingSignupRole u player roleIdx)
  | _ => s

/-- `HandleAddonMessage`, without its prefix; the messages that change no listing are left out. -/
def handleAddonMessage (w : ListingWorld) (player : ListedPlayer) (guildChat : Bool) (payload : Text) :
    LFTListings :=
  let fields := Text.split ';' [] payload
  if fields.head? = some [] then s
  else
    let s := s.ensureListingsLoaded w
    if fields.head? = some "C2C_ROLECHECK_RESPONSE".toList then s.handleManualRolecheckResponse u w player fields
    else if !guildChat then s
    else if fields.head? = some "C2S_NEW_GROUP".toList then s.handleNewGroup player fields
    else if fields.head? = some "C2S_UPDATE_GROUP".toList then s.handleUpdateGroup u w player fields
    else if fields.head? = some "C2S_DELETE_GROUP".toList then s.handleDeleteGroup player fields
    else s

def onPlayerLogout (w : ListingWorld) (guid : UInt32) : LFTListings :=
  (s.ensureListingsLoaded w).dropListings guid

def settled (cols : ListingColumns) (s : LFTListings) : Table UInt32 ListingRow := s.queue.foldl (ListingStmt.execute cols) s.db

end LFTListings

inductive ListingEvent
  | message (w : ListingWorld) (guid : UInt32) (guildChat : Bool) (payload : Text)
  | logout (w : ListingWorld) (guid : UInt32)
  | execute
  /-- The server stops, with what is queued still executed, and starts again. -/
  | restart

namespace LFTListings

def step (u : Utf8) (cols : ListingColumns) (s : LFTListings) : ListingEvent → LFTListings
  | .message w guid guildChat payload =>
    match w.getPlayer guid with
    | some player => s.handleAddonMessage u w player guildChat payload
    | none => s
  | .logout w guid => s.onPlayerLogout w guid
  | .execute =>
    match s.queue with
    | [] => s
    | stmt :: queue => { s with db := stmt.execute cols s.db, queue := queue }
  | .restart => started (s.settled cols)

end LFTListings

end ComfyCraft
