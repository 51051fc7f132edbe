import ComfyCraft.Lib.Sorting
import Mathlib.Algebra.Order.BigOperators.Group.List
import Mathlib.Data.List.Perm.Subperm

/-! The packets of `Roster` and `BuildOnlineRosterPacket`: the size that is estimated and the size that is written. -/

namespace ComfyCraft.GuildRoster

open List Sorting

def MAX_INTERNAL_PLAYER_NAME : Nat := 24
def MAX_UNCOMPRESSED_PACKET_SIZE : Nat := 0x8000
def GUILD_RANKS_MAX_COUNT : Nat := 10
def GUILD_NOTE_MAX_LENGTH : Nat := 31
def GUILD_INFO_MAX_LENGTH : Nat := 500
def GUILD_MOTD_MAX_LENGTH : Nat := 128

def GUILD_MEMBER_BLOCK_SIZE : Nat :=
  8 + 1 + (1 + MAX_INTERNAL_PLAYER_NAME) + 4 + 1 + 1 + 4 + (1 + GUILD_NOTE_MAX_LENGTH) + (1 + GUILD_NOTE_MAX_LENGTH)

def GUILD_MEMBER_BLOCK_SIZE_WITHOUT_NOTE : Nat := 8 + 1 + (1 + MAX_INTERNAL_PLAYER_NAME) + 4 + 1 + 1 + 4 + (1 + 0) + (1 + 0)

def GUILD_MAX_MEMBERS : Nat :=
  (0x8000 - 10 - GUILD_RANKS_MAX_COUNT - GUILD_INFO_MAX_LENGTH - GUILD_MOTD_MAX_LENGTH) / GUILD_MEMBER_BLOCK_SIZE_WITHOUT_NOTE

abbrev Bytes := List UInt8

structure MemberSlot where
  Name : Bytes
  RankId : UInt32
  Level : UInt8
  Class : UInt8
  ZoneId : UInt32
  LogoutTime : Int
  PublicNote : Bytes
  OfficerNote : Bytes
  names : Name.length ≤ MAX_INTERNAL_PLAYER_NAME
  notes : PublicNote.length ≤ GUILD_NOTE_MAX_LENGTH ∧ OfficerNote.length ≤ GUILD_NOTE_MAX_LENGTH

structure Player where
  GetName : Bytes
  GetLevel : UInt8
  GetClass : UInt8
  GetCachedZoneId : UInt32
  HasGMDisabledSocials : Bool
  names : GetName.length ≤ MAX_INTERNAL_PLAYER_NAME

/-- A member and the player that `FindPlayer` finds for the guid. -/
structure TempMemberInfo where
  Guid : Nat
  Member : Option Player
  Slot : MemberSlot

structure Guild where
  m_motd : Bytes
  m_info : Bytes
  rights : List UInt32
  members : List TempMemberInfo
  texts : m_motd.length ≤ GUILD_MOTD_MAX_LENGTH ∧ m_info.length ≤ GUILD_INFO_MAX_LENGTH
  ranks : rights.length ≤ GUILD_RANKS_MAX_COUNT
  keys : (members.map TempMemberInfo.Guid).Nodup

/-- What `data << …` appends. -/
inductive Field
  | guid (g : Nat)
  | u8 (v : UInt8)
  | u32 (v : UInt32)
  | f32 (v : Rat)
  | str (s : Bytes)
deriving DecidableEq

def Field.size : Field → Nat
  | .guid _ => 8
  | .u8 _ => 1
  | .u32 _ => 4
  | .f32 _ => 4
  | .str s => s.length + 1

def size (fields : List Field) : Nat := (fields.map Field.size).sum

structure WorldPacket where
  count : Nat
  head : List Field
  blocks : List (List Field)

def WorldPacket.size (data : WorldPacket) : Nat := 4 + GuildRoster.size data.head + (data.blocks.map GuildRoster.size).sum

/-- A block as the client reads it: a logout time is there exactly behind an online byte of 0. -/
def Announced : List Field → Prop
  | [.guid _, .u8 online, .str _, .u32 _, .u8 _, .u8 _, .u32 _, .str _, .str _] => online ≠ 0
  | [.guid _, .u8 online, .str _, .u32 _, .u8 _, .u8 _, .u32 _, .f32 _, .str _, .str _] => online = 0
  | _ => False

namespace TempMemberInfo

variable (m : TempMemberInfo)

/-- `member.Member && !member.Member->HasGMDisabledSocials()` -/
def online : Bool := m.Member.any fun p => !p.HasGMDisabledSocials

def hidden : Bool := m.Member.any fun p => p.HasGMDisabledSocials

/-- What `writeMemberData` of `Roster` writes. -/
def block (now : Int) (sendOfficerNote : Bool) (m : TempMemberInfo) : List Field :=
  [.guid m.Guid, .u8 (if m.online then 1 else 0)] ++
    (match m.Member with
    | some p => [.str p.GetName, .u32 m.Slot.RankId, .u8 p.GetLevel, .u8 p.GetClass, .u32 p.GetCachedZoneId]
    | none => [.str m.Slot.Name, .u32 m.Slot.RankId, .u8 m.Slot.Level, .u8 m.Slot.Class, .u32 m.Slot.ZoneId,
        .f32 ((now - m.Slot.LogoutTime : Int) / 86400)]) ++
    [.str m.Slot.PublicNote, .str (if sendOfficerNote then m.Slot.OfficerNote else [])]

end TempMemberInfo

/-- The loop over the members: it ends at the first whose block might be too much for a packet that is over the cap. -/
def writeMembers (inPacketCap : Bool) (block : TempMemberInfo → List Field) (skip : TempMemberInfo → Bool) :
    List TempMemberInfo → WorldPacket → WorldPacket
  | [], data => data
  | m :: rest, data =>
    if skip m then writeMembers inPacketCap block skip rest data
    else if !inPacketCap && MAX_UNCOMPRESSED_PACKET_SIZE ≤ data.size + GUILD_MEMBER_BLOCK_SIZE then data
    else writeMembers inPacketCap block skip rest { data with count := data.count + 1, blocks := data.blocks ++ [block m] }

namespace Guild

variable (g : Guild) (sorting : StdSort TempMemberInfo) (sendOfficerNote : Bool)

def head : List Field :=
  [.str g.m_motd, .str g.m_info, .u32 g.rights.length.toUInt32] ++ g.rights.map .u32

def headEstimate : Nat :=
  4 + (g.m_motd.length + 1 + g.m_info.length + 1) + 4 + 4 * g.rights.length

/-- The lowest rank ids first, where the packet is over the cap. -/
def ordered (inPacketCap : Bool) (cache : List TempMemberInfo) : List TempMemberInfo :=
  if inPacketCap then cache else sorting.sort (fun a b => a.Slot.RankId < b.Slot.RankId) cache

def inPacketCap : Bool :=
  g.headEstimate + (g.members.map fun m => GUILD_MEMBER_BLOCK_SIZE_WITHOUT_NOTE + (m.Slot.PublicNote.length + 1 +
    m.Slot.OfficerNote.length + 1)).sum < MAX_UNCOMPRESSED_PACKET_SIZE

/-- The online members in the order of writing, no more than the member cap. -/
def onlineQueue : List TempMemberInfo :=
  let onlineMemberCache := g.members.filter TempMemberInfo.online
  (ordered sorting g.inPacketCap onlineMemberCache).take (min onlineMemberCache.length GUILD_MAX_MEMBERS)

/-- The other members, as far as the cap leaves room for them. -/
def offlineQueue : List TempMemberInfo :=
  let onlineMembers := min (g.members.filter TempMemberInfo.online).length GUILD_MAX_MEMBERS
  let offlineMemberCache := g.members.filter fun m => !m.online
  (ordered sorting g.inPacketCap offlineMemberCache).take (min offlineMemberCache.length (GUILD_MAX_MEMBERS - onlineMembers))

def unwritten (m : TempMemberInfo) : Bool := m.online || m.Slot.Name.isEmpty

def roster (now : Int) (sendOfficerNote : Bool) : WorldPacket :=
  writeMembers g.inPacketCap (TempMemberInfo.block now sendOfficerNote) unwritten (g.offlineQueue sorting)
    (writeMembers g.inPacketCap (TempMemberInfo.block now sendOfficerNote) (fun m => m.Member.isNone) (g.onlineQueue sorting)
      ⟨0, g.head, []⟩)

end Guild

/-! ### What a loop writes -/

def written (inPacketCap : Bool) (block : TempMemberInfo → List Field) : Nat → List TempMemberInfo → List TempMemberInfo
  | _, [] => []
  | n, m :: rest =>
    if !inPacketCap && MAX_UNCOMPRESSED_PACKET_SIZE ≤ n + GUILD_MEMBER_BLOCK_SIZE then []
    else m :: written inPacketCap block (n + size (block m)) rest

/-- The loop gets to a member behind the ones before. -/
def Reached (inPacketCap : Bool) (block : TempMemberInfo → List Field) (n : Nat) (before : List TempMemberInfo) : Prop :=
  inPacketCap = true ∨ n + (before.map fun m => size (block m)).sum + GUILD_MEMBER_BLOCK_SIZE < MAX_UNCOMPRESSED_PACKET_SIZE

section Written

variable {inPacketCap : Bool} {block : TempMemberInfo → List Field} {skip : TempMemberInfo → Bool} {n : Nat}
  {l l' : List TempMemberInfo} {m : TempMemberInfo}

end Written

/-! ### The packets -/

/-- What the client needs of a packet: it is not too large, says how many blocks it has, has no member twice, each block is what
its online byte says, and where the packet was judged to fit, nobody is left out who is due. -/
structure Proper (inPacketCap : Bool) (due : List TempMemberInfo) (data : WorldPacket) : Prop where
  size : data.size ≤ MAX_UNCOMPRESSED_PACKET_SIZE
  count : data.count = data.blocks.length
  once : (data.blocks.map head?).Nodup
  announced : ∀ b ∈ data.blocks, Announced b
  full : inPacketCap = true → ∀ m ∈ due, some (.guid m.Guid) ∈ data.blocks.map head?

namespace Guild

variable (g : Guild) (sorting : StdSort TempMemberInfo) (now : Int) (sendOfficerNote : Bool)

def queue : List TempMemberInfo :=
  (g.onlineQueue sorting).filter (fun m => !m.Member.isNone) ++ (g.offlineQueue sorting).filter fun m => !unwritten m

end Guild

section Packets

variable {g : Guild} {sorting : StdSort TempMemberInfo} {cap : Bool} {block : TempMemberInfo → List Field} {m : TempMemberInfo}
  {queue due : List TempMemberInfo}

variable {now : Int} {sendOfficerNote : Bool}

/-- Nobody who is online as a GM with socials disabled is reached, and the block of each member who is reached ends within the
client's size. -/
def Guild.Regular (g : Guild) (sorting : StdSort TempMemberInfo) (now : Int) (sendOfficerNote : Bool) : Prop :=
  ∀ l₁ m l₂, g.queue sorting = l₁ ++ m :: l₂ → Reached g.inPacketCap (TempMemberInfo.block now sendOfficerNote) g.headEstimate l₁ →
    m.hidden = false ∧ g.headEstimate + (l₁.map fun m => size (m.block now sendOfficerNote)).sum +
      size (m.block now sendOfficerNote) ≤ MAX_UNCOMPRESSED_PACKET_SIZE

end Packets

end ComfyCraft.GuildRoster
