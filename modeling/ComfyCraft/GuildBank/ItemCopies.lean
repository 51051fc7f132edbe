import ComfyCraft.Lib.Text
import ComfyCraft.GuildBank.Model
import Mathlib.Tactic.FinCases

/-! What becomes of an item between a player's bag and the bank: it is copied field by field into a bank item, written to
a row and read back, and copied into a new item. Charges and enchantments travel as text. -/

namespace ComfyCraft.BankCopies

open List UInt32 Option Text

def MAX_ITEM_PROTO_SPELLS : Nat := 5
def MAX_ENCHANTMENT_SLOT : Nat := 7
def MAX_ENCHANTMENT_OFFSET : Nat := 3

structure Enchantment where
  id : UInt32
  duration : UInt32
  charges : UInt32
deriving DecidableEq

/-- The fields of an item object. The guids are those of players, kept by their counter. -/
structure ItemState where
  count : UInt32
  creator : UInt32
  giftCreator : UInt32
  duration : UInt32
  spellCharges : Fin MAX_ITEM_PROTO_SPELLS → Int32
  flags : UInt32
  enchantments : Fin MAX_ENCHANTMENT_SLOT → Enchantment
  randomPropertyId : UInt32
  transmogrifyId : UInt32
  durability : UInt32
  textId : UInt32
  generatedLoot : Bool

structure ItemCopy where
  count : UInt32
  creatorGuid : UInt32
  giftCreatorGuid : UInt32
  duration : Int32
  charges : Text
  flags : UInt8
  enchantments : Text
  randomPropertyId : Int32
  transmogrifyId : UInt32
  durability : UInt8
  text : UInt32
  generatedLoot : Int8

/-- A row's columns; every number is printed unsigned. -/
structure CopyRow where
  count : Nat
  creatorGuid : Nat
  giftCreatorGuid : Nat
  duration : Nat
  charges : Text
  flags : Nat
  enchantments : Text
  randomPropertyId : Nat
  transmogrifyId : Nat
  durability : Nat
  text : Nat
  generatedLoot : Nat

def joined (pieces : List Text) : Text := pieces.flatMap fun piece => piece ++ [' ']

def enchantmentNumbers (e : Fin MAX_ENCHANTMENT_SLOT → Enchantment) : List UInt32 :=
  (List.finRange MAX_ENCHANTMENT_SLOT).flatMap fun i => [(e i).id, (e i).duration, (e i).charges]

namespace ItemCopy

/-- `CloneItem(bItem, pItem)`, with the count the deposit gives it. -/
def cloneItem (pItem : ItemState) : ItemCopy where
  count := pItem.count
  creatorGuid := pItem.creator
  giftCreatorGuid := pItem.giftCreator
  duration := pItem.duration.toInt32
  charges := joined ((List.ofFn pItem.spellCharges).map fun charges => Text.signed charges.toInt)
  flags := pItem.flags.toUInt8
  enchantments := joined ((enchantmentNumbers pItem.enchantments).map fun n => Text.decimal n.toNat)
  randomPropertyId := pItem.randomPropertyId.toInt32
  transmogrifyId := pItem.transmogrifyId
  durability := pItem.durability.toUInt8
  text := pItem.textId
  generatedLoot := if pItem.generatedLoot then 1 else 0

/-- What is printed fits into the columns of the table. -/
structure Fits (b : ItemCopy) : Prop where
  duration : b.duration.toUInt32.toNat ≤ 2 ^ 31 - 1
  charges : b.charges.length ≤ 255
  flags : b.flags.toNat ≤ 2 ^ 24 - 1
  enchantments : b.enchantments.length ≤ 65535
  randomPropertyId : b.randomPropertyId.toUInt32.toNat ≤ 2 ^ 15 - 1
  durability : b.durability.toNat ≤ 2 ^ 16 - 1
  generatedLoot : b.generatedLoot.toInt32.toUInt32.toNat ≤ 2 ^ 7 - 1

instance (b : ItemCopy) : Decidable b.Fits :=
  decidable_of_iff (b.duration.toUInt32.toNat ≤ 2 ^ 31 - 1 ∧ b.charges.length ≤ 255 ∧ b.flags.toNat ≤ 2 ^ 24 - 1 ∧
      b.enchantments.length ≤ 65535 ∧ b.randomPropertyId.toUInt32.toNat ≤ 2 ^ 15 - 1 ∧ b.durability.toNat ≤ 2 ^ 16 - 1 ∧
      b.generatedLoot.toInt32.toUInt32.toNat ≤ 2 ^ 7 - 1)
    ⟨fun ⟨h1, h2, h3, h4, h5, h6, h7⟩ => ⟨h1, h2, h3, h4, h5, h6, h7⟩,
      fun ⟨h1, h2, h3, h4, h5, h6, h7⟩ => ⟨h1, h2, h3, h4, h5, h6, h7⟩⟩

/-- `AddToDB` and `SaveToDB`: a value that does not fit its column fails the statement. -/
def saveToDB (b : ItemCopy) : Option CopyRow :=
  if b.Fits then
    some {
      count := b.count.toNat
      creatorGuid := b.creatorGuid.toNat
      giftCreatorGuid := b.giftCreatorGuid.toNat
      duration := b.duration.toUInt32.toNat
      charges := b.charges
      flags := b.flags.toNat
      enchantments := b.enchantments
      randomPropertyId := b.randomPropertyId.toUInt32.toNat
      transmogrifyId := b.transmogrifyId.toNat
      durability := b.durability.toNat
      text := b.text.toNat
      generatedLoot := b.generatedLoot.toInt32.toUInt32.toNat }
  else none

/-- `LoadFromDB`. -/
def loadFromDB (r : CopyRow) : ItemCopy where
  count := UInt32.ofNat r.count
  creatorGuid := UInt32.ofNat r.creatorGuid
  giftCreatorGuid := UInt32.ofNat r.giftCreatorGuid
  duration := (UInt32.ofNat r.duration).toInt32
  charges := r.charges
  flags := UInt8.ofNat r.flags
  enchantments := r.enchantments
  randomPropertyId := (Int16.ofNat r.randomPropertyId).toInt32
  transmogrifyId := UInt32.ofNat r.transmogrifyId
  durability := (UInt16.ofNat r.durability).toUInt8
  text := UInt32.ofNat r.text
  generatedLoot := (Int16.ofNat r.generatedLoot).toInt8

end ItemCopy

namespace ItemState

/-- One of the numbers between the spaces; what lies behind the last one is not defined, and not read. -/
def number (pieces : List Text) (i : Nat) : UInt32 := UInt32.ofNat (Text.strtoul (pieces[i]?.getD []))

/-- `CloneItem(item, bItem)`, into an item that was just made of the bank item's template and count. -/
def cloneItem (item : ItemState) (bItem : ItemCopy) : ItemState where
  count := bItem.count
  creator := bItem.creatorGuid
  giftCreator := bItem.giftCreatorGuid
  duration := bItem.duration.toUInt32
  spellCharges :=
    let chr := Text.tokenize ' ' bItem.charges
    if chr.length = MAX_ITEM_PROTO_SPELLS then fun i => Int32.ofInt (Text.strtol (chr[(i : Nat)]?.getD [])) else item.spellCharges
  flags := bItem.flags.toUInt32
  enchantments :=
    let ench := Text.tokenize ' ' bItem.enchantments
    fun i =>
      ⟨number ench (i * MAX_ENCHANTMENT_OFFSET), number ench (i * MAX_ENCHANTMENT_OFFSET + 1),
        number ench (i * MAX_ENCHANTMENT_OFFSET + 2)⟩
  randomPropertyId := bItem.randomPropertyId.toUInt32
  transmogrifyId := bItem.transmogrifyId
  durability := bItem.durability.toUInt32
  textId := bItem.text
  generatedLoot := bItem.generatedLoot = 1

/-- The item that comes back, if the row could be written. -/
def banked (item pItem : ItemState) : Option ItemState :=
  (ItemCopy.cloneItem pItem).saveToDB.map fun r => item.cloneItem (ItemCopy.loadFromDB r)

end ItemState

/-! ### Texts -/

variable {pieces : List Text}

theorem tokenize_joined (h : ∀ p ∈ pieces, ' ' ∉ p) : Text.tokenize ' ' (joined pieces) = pieces :=
  tokenize_terminated h

theorem length_joined {k : Nat} (h : ∀ p ∈ pieces, p.length ≤ k) : (joined pieces).length ≤ pieces.length * (k + 1) := by
  unfold joined
  induction pieces with
  | nil => exact Nat.zero_le _
  | cons p pieces ih =>
    obtain ⟨hp, hrest⟩ := forall_mem_cons.1 h
    have hle := ih hrest
    rw [flatMap_cons, length_append, length_append, length_singleton, length_cons, Nat.succ_mul]
    omega

theorem charges_natAbs (c : Int32) : c.toInt.natAbs ≤ 2 ^ 31 := by
  have hlow := c.le_toInt
  have hhigh := c.toInt_lt
  omega

theorem tokenize_charges (charges : Fin MAX_ITEM_PROTO_SPELLS → Int32) :
    Text.tokenize ' ' (joined ((List.ofFn charges).map fun c => Text.signed c.toInt)) =
      (List.ofFn charges).map fun c => Text.signed c.toInt := by
  refine tokenize_joined fun p hp => ?_
  obtain ⟨c, -, rfl⟩ := mem_map.1 hp
  exact space_notMem_signed _

variable (e : Fin MAX_ENCHANTMENT_SLOT → Enchantment)

theorem tokenize_enchantments :
    Text.tokenize ' ' (joined ((enchantmentNumbers e).map fun n => Text.decimal n.toNat)) =
      (enchantmentNumbers e).map fun n => Text.decimal n.toNat := by
  refine tokenize_joined fun p hp => ?_
  obtain ⟨n, -, rfl⟩ := mem_map.1 hp
  exact space_notMem_decimal _

theorem length_charges (charges : Fin MAX_ITEM_PROTO_SPELLS → Int32) :
    (joined ((List.ofFn charges).map fun c => Text.signed c.toInt)).length ≤ 255 := by
  have hpieces : ∀ p ∈ (ofFn charges).map fun c => signed c.toInt, p.length ≤ 11 := by
    intro p hp
    obtain ⟨c, -, rfl⟩ := mem_map.1 hp
    have habs := charges_natAbs c
    exact length_signed (by decide) (by omega)
  have h := length_joined hpieces
  have hfive : MAX_ITEM_PROTO_SPELLS = 5 := rfl
  rw [length_map, length_ofFn] at h
  omega

theorem length_enchantmentNumbers : (enchantmentNumbers e).length = 21 := rfl

theorem length_enchantments :
    (joined ((enchantmentNumbers e).map fun n => Text.decimal n.toNat)).length ≤ 65535 := by
  have hpieces : ∀ p ∈ (enchantmentNumbers e).map fun n => decimal n.toNat, p.length ≤ 10 := by
    intro p hp
    obtain ⟨n, -, rfl⟩ := mem_map.1 hp
    have hlt := n.toNat_lt
    exact length_decimal (by decide) (by omega)
  have h := length_joined hpieces
  rw [length_map, length_enchantmentNumbers] at h
  omega

theorem number_printed {i : Nat} {n : UInt32} (h : pieces[i]? = some (Text.decimal n.toNat)) :
    ItemState.number pieces i = n := by
  unfold ItemState.number
  rw [h, Option.getD_some, strtoul_decimal (lt_trans n.toNat_lt (by decide)), UInt32.ofNat_toNat]

theorem enchantments_read (i : Fin MAX_ENCHANTMENT_SLOT) :
    (⟨ItemState.number ((enchantmentNumbers e).map fun n => Text.decimal n.toNat) (i * MAX_ENCHANTMENT_OFFSET),
      ItemState.number ((enchantmentNumbers e).map fun n => Text.decimal n.toNat) (i * MAX_ENCHANTMENT_OFFSET + 1),
      ItemState.number ((enchantmentNumbers e).map fun n => Text.decimal n.toNat) (i * MAX_ENCHANTMENT_OFFSET + 2)⟩ : Enchantment) =
        e i := by
  have hplace : (enchantmentNumbers e)[(i : Nat) * MAX_ENCHANTMENT_OFFSET]? = some (e i).id ∧
      (enchantmentNumbers e)[(i : Nat) * MAX_ENCHANTMENT_OFFSET + 1]? = some (e i).duration ∧
      (enchantmentNumbers e)[(i : Nat) * MAX_ENCHANTMENT_OFFSET + 2]? = some (e i).charges := by
    fin_cases i <;> exact ⟨rfl, rfl, rfl⟩
  obtain ⟨hid, hduration, hcharges⟩ := hplace
  rw [number_printed (by rw [getElem?_map, hid]; rfl), number_printed (by rw [getElem?_map, hduration]; rfl),
    number_printed (by rw [getElem?_map, hcharges]; rfl)]

theorem charges_read (charges : Fin MAX_ITEM_PROTO_SPELLS → Int32) (i : Fin MAX_ITEM_PROTO_SPELLS) :
    Int32.ofInt (Text.strtol ((((List.ofFn charges).map fun c => Text.signed c.toInt)[(i : Nat)]?).getD [])) = charges i := by
  have habs := charges_natAbs (charges i)
  have hplace : ((ofFn charges).map fun c => signed c.toInt)[(i : Nat)]? = some (signed (charges i).toInt) := by
    rw [List.getElem?_map, List.getElem?_ofFn, dif_pos i.isLt]
    rfl
  rw [hplace, getD_some, strtol_signed (by omega), Int32.ofInt_toInt]

/-! ### The narrow fields -/

theorem byte_read (a : UInt32) : (UInt16.ofNat a.toUInt8.toNat).toUInt8 = a.toUInt8 := by
  have hlt := a.toUInt8.toNat_lt
  apply UInt8.toNat_inj.1
  rw [UInt16.toNat_toUInt8, UInt16.toNat_ofNat']
  omega

theorem byte_kept (a : UInt32) : a.toUInt8.toUInt32 = a ↔ a.toNat < 256 := by
  rw [← UInt32.toNat_inj, UInt8.toNat_toUInt32, UInt32.toNat_toUInt8]
  omega

theorem signed_read {n : Nat} (h : n < 2 ^ 15) : (Int16.ofNat n).toInt32.toUInt32 = UInt32.ofNat n := by
  have hmsb : (BitVec.ofNat 16 n).msb = false := by
    rw [BitVec.msb_eq_decide, BitVec.toNat_ofNat]
    simp only [decide_eq_false_iff_not, Nat.not_le]
    omega
  have hext : (Int16.ofNat n).toInt32.toUInt32.toBitVec = (BitVec.ofNat 16 n).signExtend 32 := rfl
  apply UInt32.toNat_inj.1
  rw [← UInt32.toNat_toBitVec, hext, BitVec.signExtend_eq_setWidth_of_msb_false hmsb, BitVec.toNat_setWidth, BitVec.toNat_ofNat,
    toNat_ofNat']
  omega

theorem fits_cloneItem (pItem : ItemState) :
    (ItemCopy.cloneItem pItem).Fits ↔ pItem.duration.toNat < 2 ^ 31 ∧ pItem.randomPropertyId.toNat < 2 ^ 15 := by
  constructor
  · intro h
    have hduration := h.duration
    have hproperty := h.randomPropertyId
    dsimp only [ItemCopy.cloneItem] at hduration hproperty
    rw [toUInt32_toInt32] at hduration hproperty
    omega
  · rintro ⟨hduration, hproperty⟩
    refine ⟨?_, length_charges _, ?_, length_enchantments _, ?_, ?_, ?_⟩
    · dsimp only [ItemCopy.cloneItem]
      rw [toUInt32_toInt32]
      omega
    · have := pItem.flags.toUInt8.toNat_lt
      dsimp only [ItemCopy.cloneItem]
      omega
    · dsimp only [ItemCopy.cloneItem]
      rw [toUInt32_toInt32]
      omega
    · have := pItem.durability.toUInt8.toNat_lt
      dsimp only [ItemCopy.cloneItem]
      omega
    · dsimp only [ItemCopy.cloneItem]
      split <;> decide

/-- What is read back and copied out of the bank: everything as it was but flags and durability, of which a byte is left. -/
theorem cloneItem_loadFromDB {item pItem : ItemState} {r : CopyRow} (h : (ItemCopy.cloneItem pItem).saveToDB = some r) :
    item.cloneItem (ItemCopy.loadFromDB r) =
      { pItem with flags := pItem.flags.toUInt8.toUInt32, durability := pItem.durability.toUInt8.toUInt32 } := by
  unfold ItemCopy.saveToDB at h
  split_ifs at h with hfits
  obtain ⟨hduration, hproperty⟩ := (fits_cloneItem pItem).1 hfits
  cases h
  obtain ⟨count, creator, giftCreator, duration, spellCharges, flags, enchantments, randomPropertyId, transmogrifyId, durability,
    textId, generatedLoot⟩ := pItem
  have hgenerated : ∀ b : Bool, decide ((Int16.ofNat (if b then (1 : Int8) else 0).toInt32.toUInt32.toNat).toInt8 = 1) = b := by
    decide
  simp only [ItemState.cloneItem, ItemCopy.loadFromDB, ItemCopy.cloneItem, UInt32.ofNat_toNat, UInt32.toUInt32_toInt32,
    tokenize_charges, tokenize_enchantments, enchantments_read, charges_read, length_map, length_ofFn, if_true,
    UInt8.ofNat_toNat, byte_read, hgenerated, signed_read hproperty]

/-- An item comes back from the bank as it was exactly when a byte holds its flags and its durability, and its duration and
random property are not negative as the columns have them. -/
theorem banked_eq_iff (item pItem : ItemState) : item.banked pItem = some pItem ↔
      pItem.flags.toNat < 256 ∧ pItem.durability.toNat < 256 ∧ pItem.duration.toNat < 2 ^ 31 ∧
        pItem.randomPropertyId.toNat < 2 ^ 15 := by
  have hfits := fits_cloneItem pItem
  unfold ItemState.banked
  by_cases h : (ItemCopy.cloneItem pItem).Fits
  · obtain ⟨r, hr⟩ : ∃ r, (ItemCopy.cloneItem pItem).saveToDB = some r := ⟨_, if_pos h⟩
    rw [hr, map_some, cloneItem_loadFromDB hr, some_inj, ← byte_kept, ← byte_kept]
    have hcolumns := hfits.1 h
    constructor
    · intro heq
      exact ⟨congrArg ItemState.flags heq, congrArg ItemState.durability heq, hcolumns⟩
    · rintro ⟨hflags, hdurability, -⟩
      rw [hflags, hdurability]
  · have hnone : (ItemCopy.cloneItem pItem).saveToDB = none := if_neg h
    rw [hnone, map_none]
    exact ⟨fun heq => (nomatch heq), fun hall => absurd (hfits.2 hall.2.2) h⟩

/-! ### The bank's columns -/

def plainItem : ItemState where
  count := 1
  creator := 0
  giftCreator := 0
  duration := 0
  spellCharges _ := 0
  flags := 0
  enchantments _ := ⟨0, 0, 0⟩
  randomPropertyId := 0
  transmogrifyId := 0
  durability := 0
  textId := 0
  generatedLoot := false

/-- A charter comes back without the flag it was created with. -/
theorem banked_charter :
    plainItem.banked { plainItem with flags := ITEM_DYNFLAG_UNK13 } ≠ some { plainItem with flags := ITEM_DYNFLAG_UNK13 } := by
  intro h
  have hflags := congrArg (Option.map ItemState.flags) h
  revert hflags
  decide +kernel

end ComfyCraft.BankCopies
