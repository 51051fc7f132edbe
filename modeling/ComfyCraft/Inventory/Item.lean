import Mathlib.Data.UInt

/-! Item templates and item objects. A template carries the clamps the template loader enforces
(stack size 1..255, at most 36 container slots), an item object the fact that its template is
the one the object manager knows under that id, so neither has to be re-proved later. -/

namespace ComfyCraft

structure ItemPrototype where
  itemId : UInt32
  itemClass : UInt32
  subClass : UInt32
  flags : UInt32
  inventoryType : UInt32
  maxCount : UInt32
  stackable : UInt32
  containerSlots : UInt32
  bonding : UInt32
  bagFamily : UInt32
  duration : UInt32
  maxDurability : UInt32
  createBroken : Bool
  spellCharges : List Int
  stackable_pos : 0 < stackable.toNat
  stackable_le : stackable.toNat ≤ 255
  containerSlots_le : containerSlots.toNat ≤ 36
  containerSlots_bag : containerSlots = 0 ∨ inventoryType = 18

def INVTYPE_BAG : UInt32 := 18
def ITEM_CLASS_CONSUMABLE : UInt32 := 0
def ITEM_CLASS_CONTAINER : UInt32 := 1
def ITEM_CLASS_QUIVER : UInt32 := 11
def ITEM_SUBCLASS_CONTAINER : UInt32 := 0
def ITEM_FLAG_CONJURED : UInt32 := 0x2
def ITEM_DYNFLAG_BINDED : UInt32 := 0x1
def ITEM_DYNFLAG_BOA : UInt32 := 0x40000
def ITEM_FLAG_UNK6 : UInt32 := 0x40
def ITEM_FLAG_CHARTER : UInt32 := 0x2000
def ITEM_DYNFLAG_UNK6 : UInt32 := 0x40
def ITEM_DYNFLAG_UNK13 : UInt32 := 0x2000
def BIND_WHEN_PICKED_UP : UInt32 := 1
def BIND_WHEN_EQUIPPED : UInt32 := 2
def BIND_QUEST_ITEM : UInt32 := 4
def BIND_ACCOUNT : UInt32 := 6
def BAG_FAMILY_KEYS : UInt32 := 9

structure ObjectMgr where
  getItemPrototype : UInt32 → Option ItemPrototype
  itemId_eq : ∀ {e p}, getItemPrototype e = some p → p.itemId = e

structure ItemFields where
  creatorGuid : UInt32 := 0
  giftCreatorGuid : UInt32 := 0
  duration : Int := 0
  charges : List Int := []
  flags : UInt32 := 0
  enchantments : List UInt32 := []
  randomPropertyId : Int := 0
  transmogrifyId : UInt32 := 0
  durability : UInt32 := 0
  textId : UInt32 := 0
  generatedLoot : Bool := false
deriving DecidableEq

structure Item (om : ObjectMgr) where
  guid : UInt32
  proto : ItemPrototype
  known : om.getItemPrototype proto.itemId = some proto
  count : UInt32
  fields : ItemFields
  inTrade : Bool
  hasGeneratedLoot : Bool

inductive InventoryResult
  | itemDoesntGoToSlot
  | itemDoesntGoIntoBag
  | cantCarryMoreOfThis
  | itemCantStack
  | itemNotFound
  | alreadyLooted
  | inventoryFull
deriving DecidableEq

namespace Item

variable {om : ObjectMgr}

variable (it : Item om)

def getEntry : UInt32 := it.proto.itemId

def getMaxStackCount : UInt32 := it.proto.stackable

def getBagSize : UInt32 := it.proto.containerSlots

def isBag : Bool := it.proto.inventoryType = INVTYPE_BAG

def isSoulBound : Bool :=
  it.fields.flags &&& ITEM_DYNFLAG_BINDED ≠ 0 || it.fields.flags &&& ITEM_DYNFLAG_BOA ≠ 0

def isConjuredConsumable : Bool :=
  it.proto.itemClass = ITEM_CLASS_CONSUMABLE && it.proto.flags &&& ITEM_FLAG_CONJURED ≠ 0

def setCount (n : UInt32) : Item om := { it with count := n }

@[simp] theorem count_setCount (n : UInt32) : (it.setCount n).count = n := rfl

@[simp] theorem proto_setCount (n : UInt32) : (it.setCount n).proto = it.proto := rfl

/-- The flag `_StoreItem` raises on what it stores, by the template's bonding. -/
def bindOnStore (bagPos : Bool) : Item om :=
  let bind := it.proto.bonding = BIND_WHEN_PICKED_UP ∨ it.proto.bonding = BIND_QUEST_ITEM ∨
    it.proto.bonding = BIND_WHEN_EQUIPPED ∧ bagPos
  let flags := if bind then it.fields.flags ||| ITEM_DYNFLAG_BINDED else it.fields.flags
  let flags := if it.proto.bonding = BIND_ACCOUNT then flags ||| ITEM_DYNFLAG_BOA else flags
  { it with fields := { it.fields with flags := flags } }

@[simp] theorem count_bindOnStore (b : Bool) : (it.bindOnStore b).count = it.count := rfl

def canBeMergedPartlyWith (proto : ItemPrototype) : Except InventoryResult Unit :=
  if it.getEntry ≠ proto.itemId then .error .itemCantStack
  else if proto.stackable ≤ it.count then .error .itemCantStack
  else if it.hasGeneratedLoot then .error .alreadyLooted
  else .ok ()

variable {proto : ItemPrototype} {count : UInt32}

theorem canBeMerged_ok {it : Item om} {u : Unit} (h : it.canBeMergedPartlyWith proto = .ok u) :
    it.getEntry = proto.itemId ∧ it.count.toNat < proto.stackable.toNat := by
  unfold canBeMergedPartlyWith at h
  split_ifs at h with h1 h2 h3
  exact ⟨not_not.1 h1, UInt32.lt_iff_toNat_lt.1 (UInt32.not_le.1 h2)⟩

/-- What `Item::Create` and `Bag::Create` write into a fresh object. -/
def createFields (proto : ItemPrototype) : ItemFields :=
  if proto.inventoryType = INVTYPE_BAG then { durability := proto.maxDurability }
  else {
    duration := Int32.toInt proto.duration.toInt32
    charges := proto.spellCharges
    durability := if proto.createBroken then 0 else proto.maxDurability
    flags := (if proto.flags &&& ITEM_FLAG_UNK6 ≠ 0 then ITEM_DYNFLAG_UNK6 else 0) |||
      (if proto.flags &&& ITEM_FLAG_CHARTER ≠ 0 then ITEM_DYNFLAG_UNK13 else 0) |||
      (if proto.bonding = BIND_ACCOUNT then ITEM_DYNFLAG_BOA else 0) }

/-- `Item::CreateItem`: nothing for a zero count, and never more than one stack. -/
def createItem (guid : UInt32) (item count : UInt32) : Option (Item om) :=
  if count < 1 then none
  else match h : om.getItemPrototype item with
    | none => none
    | some proto => some {
        guid := guid
        proto := proto
        known := by rw [om.itemId_eq h]; exact h
        count := if proto.stackable < count then proto.stackable else count
        fields := createFields proto
        inTrade := false
        hasGeneratedLoot := false }

theorem createItem_some (guid : UInt32) {item : UInt32} (hp : om.getItemPrototype item = some proto) (hc : 1 ≤ count.toNat) :
    ∃ it : Item om, createItem guid item count = some it ∧ it.proto = proto := by
  have h0 : ¬ count < 1 := by rw [UInt32.not_lt, UInt32.le_iff_toNat_le]; exact hc
  unfold createItem
  rw [if_neg h0]
  split
  · rename_i h; rw [hp] at h; cases h
  rename_i p h
  rw [hp] at h
  cases h
  exact ⟨_, rfl, rfl⟩

def cloneItem (guid count : UInt32) : Option (Item om) :=
  (@createItem om guid it.getEntry count).map fun new =>
    { new with
      fields := { new.fields with
        creatorGuid := it.fields.creatorGuid
        giftCreatorGuid := it.fields.giftCreatorGuid
        flags := it.fields.flags
        duration := it.fields.duration
        randomPropertyId := it.fields.randomPropertyId
        generatedLoot := it.fields.generatedLoot } }

/-- A clone of at most one stack is the count asked for, and nothing when that is zero. -/
theorem cloneItem_cases (guid : UInt32) (hc : count.toNat ≤ it.proto.stackable.toNat) :
    count.toNat = 0 ∧ it.cloneItem guid count = none ∨
      ∃ new, it.cloneItem guid count = some new ∧ new.proto = it.proto ∧ new.count = count := by
  unfold cloneItem createItem
  split_ifs with h0
  · left
    rw [UInt32.lt_iff_toNat_lt] at h0
    have : (1 : UInt32).toNat = 1 := rfl
    exact ⟨by omega, rfl⟩
  · right
    split
    · rename_i h; rw [getEntry, it.known] at h; cases h
    rename_i proto h
    rw [getEntry, it.known] at h
    cases h
    refine ⟨_, rfl, rfl, ?_⟩
    simp only
    rw [if_neg]
    rw [UInt32.not_lt, UInt32.le_iff_toNat_le]
    exact hc

end Item

end ComfyCraft
