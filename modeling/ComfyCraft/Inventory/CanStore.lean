import ComfyCraft.Inventory.Player

/-! Where a new item would go (`CanStoreNewItem`): a search in passes, each of which either refuses or
takes more positions until nothing is left to place. The passes are run in the source's order; what
the search promises is `canStoreNewItem_ok`. -/

namespace ComfyCraft

structure ItemPosCount where
  pos : Pos
  count : UInt8
deriving DecidableEq

/-- What a pass of the search has found so far, and how much is still to be placed. -/
structure Search where
  dest : List ItemPosCount
  count : UInt32

/-- `strict` passes end the search when they refuse, the others are skipped. -/
structure Pass where
  strict : Bool
  run : Search → Except InventoryResult Search

def itemCanGoIntoBag (proto bagProto : ItemPrototype) : Bool :=
  if bagProto.itemClass = ITEM_CLASS_CONTAINER then
    if bagProto.subClass = ITEM_SUBCLASS_CONTAINER then true
    else
      match [(1, 3), (2, 6), (3, 7), (4, 8), (6, 13), (7, 12), (8, 10), (9, 11)].lookup bagProto.subClass with
      | some family => proto.bagFamily = family
      | none => false
  else if bagProto.itemClass = ITEM_CLASS_QUIVER then
    match [(2, 1), (3, 2)].lookup bagProto.subClass with
    | some family => proto.bagFamily = family
    | none => false
  else false

namespace Player

variable {om : ObjectMgr}

variable (p : Player om) (proto : ItemPrototype) (bag slot : UInt8)

/-- The room at a position: a merge pass looks at stacks it can add to, the other passes at free slots. -/
def roomAt (merge : Bool) (pos : Pos) : Option UInt32 :=
  match p.getItemByPos pos with
  | none => if merge then none else some proto.stackable
  | some pItem2 =>
    if !merge then none
    else match pItem2.canBeMergedPartlyWith proto with
      | .error _ => none
      | .ok _ => some (proto.stackable - pItem2.count)

/-- Push a position with at most what is left to place, unless it was taken before. -/
def take (pos : Pos) (needSpace : UInt32) (s : Search) : Search :=
  let needSpace := if s.count < needSpace then s.count else needSpace
  if s.dest.any (fun d => d.pos = pos) then s
  else ⟨s.dest ++ [⟨pos, needSpace.toUInt8⟩], s.count - needSpace⟩

/-- The common loop of `_CanStoreItem_InBag` and `_CanStoreItem_InInventorySlots`. -/
def takeSlots (p : Player om) (proto : ItemPrototype) (merge : Bool) (s : Search) : List Pos → Search
  | [] => s
  | pos :: rest =>
    match p.roomAt proto merge pos with
    | none => takeSlots p proto merge s rest
    | some needSpace =>
      let s' := take pos needSpace s
      if s'.count = 0 ∧ s'.dest ≠ s.dest then s' else takeSlots p proto merge s' rest

def inInventorySlots (start stop : UInt8) (proto : ItemPrototype) (merge : Bool)
    (skipBag skipSlot : UInt8) (s : Search) : Except InventoryResult Search :=
  let js := (slots start stop).filter fun j => !(skipBag = INVENTORY_SLOT_BAG_0 && j = skipSlot)
  .ok (takeSlots p proto merge s (js.map fun j => ⟨INVENTORY_SLOT_BAG_0, j⟩))

def inBag (proto : ItemPrototype) (merge nonSpecialized : Bool)
    (skipBag skipSlot : UInt8) (s : Search) : Except InventoryResult Search :=
  if bag = skipBag then .error .itemDoesntGoIntoBag
  else match p.getItemByPos ⟨INVENTORY_SLOT_BAG_0, bag⟩ with
    | none => .error .itemDoesntGoIntoBag
    | some pBag =>
      let plain : Bool :=
        pBag.proto.itemClass = ITEM_CLASS_CONTAINER && pBag.proto.subClass = ITEM_SUBCLASS_CONTAINER
      if nonSpecialized ≠ plain then .error .itemDoesntGoIntoBag
      else if !itemCanGoIntoBag proto pBag.proto then .error .itemDoesntGoIntoBag
      else
        let js := (slots 0 pBag.getBagSize.toUInt8).filter fun j => j ≠ skipSlot
        .ok (takeSlots p proto merge s (js.map fun j => ⟨bag, j⟩))

def inSpecificSlot (proto : ItemPrototype) (s : Search) :
    Except InventoryResult Search :=
  match p.getItemByPos ⟨bag, slot⟩ with
  | some pItem2 =>
    match pItem2.canBeMergedPartlyWith proto with
    | .error res => .error res
    | .ok _ => .ok (take ⟨bag, slot⟩ (proto.stackable - pItem2.count) s)
  | none =>
    if bag = INVENTORY_SLOT_BAG_0 then
      if KEYRING_SLOT_START ≤ slot ∧ slot < KEYRING_SLOT_END ∧ proto.bagFamily ≠ BAG_FAMILY_KEYS then
        .error .itemDoesntGoIntoBag
      else if BUYBACK_SLOT_START ≤ slot ∧ slot < BUYBACK_SLOT_END ∨ PLAYER_SLOT_END ≤ slot then
        .error .itemDoesntGoIntoBag
      else .ok (take ⟨bag, slot⟩ proto.stackable s)
    else match p.getItemByPos ⟨INVENTORY_SLOT_BAG_0, bag⟩ with
      | none => .error .itemDoesntGoIntoBag
      | some pBag =>
        if pBag.proto.containerSlots.toNat ≤ slot.toNat then .error .itemDoesntGoIntoBag
        else if !itemCanGoIntoBag proto pBag.proto then .error .itemDoesntGoIntoBag
        else .ok (take ⟨bag, slot⟩ proto.stackable s)

/-- `_CanTakeMoreSimilarItems`: how many of the pieces are over the template's maximum, if any. -/
def _canTakeMoreSimilarItems (count : UInt32) : Option UInt32 :=
  if 0 < proto.maxCount then
    let curcount := p.getItemCount proto.itemId true
    if proto.maxCount < curcount + count then some (count + curcount - proto.maxCount) else none
  else none

def bagPasses (merge nonSpecialized : Bool) (bag slot : UInt8) :
    List Pass :=
  (slots INVENTORY_SLOT_BAG_START INVENTORY_SLOT_BAG_END).map fun i =>
    ⟨false, p.inBag i proto merge nonSpecialized bag slot⟩

def oneBag (proto : ItemPrototype) (merge : Bool) (slot : UInt8) (s : Search) :
    Except InventoryResult Search :=
  match p.inBag bag proto merge false NULL_BAG slot s with
  | .ok s' => .ok s'
  | .error _ => p.inBag bag proto merge true NULL_BAG slot s

def specificSlotPasses : List Pass :=
  if bag ≠ NULL_BAG ∧ slot ≠ NULL_SLOT then
    -- the update fields of bag 255 end with the keyring
    [⟨true, fun s =>
      if bag = INVENTORY_SLOT_BAG_0 ∧ KEYRING_SLOT_END ≤ slot then .error .itemDoesntGoToSlot
      else p.inSpecificSlot bag slot proto s⟩]
  else []

def specificBagPasses : List Pass :=
  if bag = NULL_BAG then []
  else if bag = INVENTORY_SLOT_BAG_0 then
    (if 1 < proto.stackable then
      [⟨true, p.inInventorySlots KEYRING_SLOT_START KEYRING_SLOT_END proto true bag slot⟩,
       ⟨true, p.inInventorySlots INVENTORY_SLOT_ITEM_START INVENTORY_SLOT_ITEM_END proto true bag slot⟩]
      else []) ++
    (if proto.bagFamily = BAG_FAMILY_KEYS then
      [⟨true, p.inInventorySlots KEYRING_SLOT_START KEYRING_SLOT_END proto false bag slot⟩] else []) ++
    [⟨true, p.inInventorySlots INVENTORY_SLOT_ITEM_START INVENTORY_SLOT_ITEM_END proto false bag slot⟩]
  else
    (if 1 < proto.stackable then [⟨true, p.oneBag bag proto true slot⟩] else []) ++
    [⟨true, p.oneBag bag proto false slot⟩]

def generalPasses : List Pass :=
  (if 1 < proto.stackable then
    [⟨true, p.inInventorySlots KEYRING_SLOT_START KEYRING_SLOT_END proto true bag slot⟩,
     ⟨true, p.inInventorySlots INVENTORY_SLOT_ITEM_START INVENTORY_SLOT_ITEM_END proto true bag slot⟩] ++
    (if proto.bagFamily ≠ 0 then p.bagPasses proto true false bag slot else []) ++
    p.bagPasses proto true true bag slot
    else []) ++
  (if proto.bagFamily ≠ 0 then
    (if proto.bagFamily = BAG_FAMILY_KEYS then
      [⟨true, p.inInventorySlots KEYRING_SLOT_START KEYRING_SLOT_END proto false bag slot⟩] else []) ++
    p.bagPasses proto false false bag slot
    else []) ++
  [⟨true, p.inInventorySlots INVENTORY_SLOT_ITEM_START INVENTORY_SLOT_ITEM_END proto false bag slot⟩] ++
  p.bagPasses proto false true bag slot

/-- The search succeeds at the first pass that leaves nothing to place, unless part of the
count was over the template's maximum. -/
def runPasses (noSimilarCount : UInt32) : List Pass → Search → Except InventoryResult (List ItemPosCount)
  | [], _ => .error .inventoryFull
  | pass :: rest, s =>
    match pass.run s with
    | .error res => if pass.strict then .error res else runPasses noSimilarCount rest s
    | .ok s' =>
      if s'.count = 0 then
        if noSimilarCount = 0 then .ok s'.dest else .error .cantCarryMoreOfThis
      else runPasses noSimilarCount rest s'

def passes : List Pass :=
  p.specificSlotPasses proto bag slot ++ p.specificBagPasses proto bag slot ++ p.generalPasses proto bag slot

/-- `CanStoreNewItem`, that is `_CanStoreItem` without a source item and without a swap. -/
def canStoreNewItem (entry count : UInt32) :
    Except InventoryResult (List ItemPosCount) :=
  match om.getItemPrototype entry with
  | none => .error .itemNotFound
  | some proto =>
    match p._canTakeMoreSimilarItems proto count with
    | none => runPasses 0 (p.passes proto bag slot) ⟨[], count⟩
    | some noSimilarCount =>
      if count = noSimilarCount then .error .cantCarryMoreOfThis
      else runPasses noSimilarCount (p.passes proto bag slot) ⟨[], count - noSimilarCount⟩

end Player

end ComfyCraft
