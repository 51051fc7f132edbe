import ComfyCraft.Housing.Storage

/-! Houses and templates: creating, claiming, rebuilding, resetting and moving a house; authoring, saving,
stamping and deleting a template. Whether the journey that ends some of them succeeds changes nothing here. -/

namespace ComfyCraft

variable {F : Type} {sv : Server F}

def noExit (sv : Server F) : HouseExit F := ⟨false, sv.lit 0, sv.lit 0, sv.lit 0, sv.lit 0⟩

def Server.savedExit (sv : Server F) (e : HouseExit F) : HouseExit F :=
  ⟨e.exitSet, sv.column e.exitX, sv.column e.exitY, sv.column e.exitZ, sv.column e.exitO⟩

/-- `INSERT INTO house`; an id is used up also when the account has a row already. -/
def HouseTables.insertHouse (db : HouseTables sv) (accountId : UInt32) : HouseTables sv :=
  if db.houseNext = 0 then db
  else { db with
    houseNext := db.houseNext + 1
    house := HouseMgr.insertRow db.house ⟨db.houseNext, accountId, 0, 0, 0, noExit sv⟩ }

/-- `INSERT INTO house_template`; the house is not known yet. -/
def HouseTables.insertTemplate (db : HouseTables sv) (name : String) : HouseTables sv :=
  if db.templateNext = 0 then db
  else { db with
    templateNext := db.templateNext + 1
    houseTemplate := HouseMgr.insertRow db.houseTemplate ⟨db.templateNext, name, 0, noExit sv⟩ }

namespace HouseMgr

variable (s : HouseMgr sv) (p : Visitor F) (id : UInt32)

def updateHouseRow (f : HouseRow F → HouseRow F) : HouseMgr sv :=
  { s with db := { s.db with house := updateRows s.db.house (fun r => r.id = id) f } }

/-- `CreateHouse`: the row, read back by its account, and the house in memory. -/
def createHouse (accountId : UInt32) : Option UInt32 × HouseMgr sv :=
  let s := { s with db := s.db.insertHouse accountId }
  match s.db.house.rows.find? fun r => r.account = accountId with
  | none => (none, s)
  | some row =>
    let h : House F := ⟨row.id, accountId, 0, 0, [], [], 0, 0, noExit sv⟩
    (some row.id, { s with
      houses := s.houses.insert row.id h
      houseByAccount := s.houseByAccount.insert accountId row.id })

def prepareInstance (house : House F) (newInstanceId : UInt32) : HouseMgr sv :=
  if house.instanceId ≠ 0 then s
  else
    let s := s.modifyHouse house.id fun h => { h with instanceId := newInstanceId }
    { s with houseByInstance := s.houseByInstance.insert newInstanceId house.id }.updateHouseRow house.id
      fun r => { r with instanceId := newInstanceId }

def sendPlayerHome : Reply (HouseMgr sv) :=
  if !sv.enabled then refuse s "Housing is not available on this server."
  else if p.inCombat then refuse s "You cannot go home while in combat."
  else match s.getHouseByAccount p.accountId with
    | none => refuse s "You do not have a home yet. Find an entrance portal and claim one."
    | some house => done (s.prepareInstance house p.newInstanceId)

/-! Templates. -/

def normalizeTemplateName (name : String) : String := name.toLower

def gotoTemplate : Reply (HouseMgr sv) :=
  if !sv.enabled then refuse s "Housing is not available on this server."
  else match s.getTemplate id with
    | none => refuse s "There is no template with that id."
    | some tpl =>
      match s.getHouseById tpl.houseId with
      | none => refuse s "This template lost its authoring house; it can stamp, but not be visited."
      | some house =>
        if p.inCombat then refuse s "You cannot travel while in combat."
        else done (s.prepareInstance house p.newInstanceId)

def deleteTemplateRow : HouseMgr sv :=
  { s with db := { s.db with houseTemplate := s.db.houseTemplate.deleteWhere fun r => r.id = id } }

def addTemplate (id houseId : UInt32) (name : String) : HouseMgr sv :=
  let s := { s with
    houseTemplates := s.houseTemplates.insert id ⟨id, name, houseId, noExit sv, []⟩
    templateByName := s.templateByName.insert name id
    db := { s.db with
      houseTemplate := updateRows s.db.houseTemplate (fun r => r.id = id) fun r => { r with houseId := houseId } } }
  s.modifyHouse houseId fun h => { h with authorsTemplate := id }

def createTemplate (rawName : String) : Reply (HouseMgr sv) :=
  if !sv.enabled then refuse s "Housing is not available on this server."
  else
    let name := normalizeTemplateName rawName
    if name = "" ∨ 48 < name.utf8ByteSize then refuse s "Template names are one word, up to 48 characters."
    else if (s.templateByName.lookup name).isSome then refuse s "There is already a template called that."
    else
      let s := { s with db := s.db.insertTemplate name }
      match s.db.houseTemplate.rows.find? fun r => sv.collate r.name = sv.collate name with
      | none => refuse s "Could not save the template."
      | some row =>
        let account := HOUSE_TEMPLATE_ACCOUNT_MAX - row.id
        if account < HOUSE_TEMPLATE_ACCOUNT_MIN then refuse (s.deleteTemplateRow row.id) "There is no room for another template."
        else match s.createHouse account with
          | (none, s) => refuse (s.deleteTemplateRow row.id) "Could not create the template's house."
          | (some houseId, s) => (s.addTemplate row.id houseId name).gotoTemplate p row.id

/-- A piece as the template keeps it; the item and the group stay with it. -/
def frozen (o : HouseObject F) : HouseObject F := { o with guid := 0, houseId := 0, source := .template }

def templateObjectRow (sv : Server F) (templateId : UInt32) (o : HouseObject F) : TemplateObjectRow F where
  templateId := templateId
  goEntry := o.goEntry
  x := sv.column o.x
  y := sv.column o.y
  z := sv.column o.z
  o := sv.column o.o
  rot0 := sv.column o.rot0
  rot1 := sv.column o.rot1
  rot2 := sv.column o.rot2
  rot3 := sv.column o.rot3
  scale := sv.column o.scale

/-- `SaveTemplate`; the rows are written anew, in one transaction. -/
def saveTemplate : Reply (HouseMgr sv) :=
  match (s.getHouseAt p).filter fun h => h.authorsTemplate ≠ 0 with
  | none => refuse s "You are not standing in a template."
  | some house =>
    match s.getTemplate house.authorsTemplate with
    | none => refuse s "This template no longer exists."
    | some tpl =>
      let pieces := s.piecesOf house
      done { s with
        houseTemplates := s.houseTemplates.insert house.authorsTemplate
          { tpl with objects := pieces.map frozen, exit := house.exit }
        db := { s.db with
          houseTemplateObject := s.db.houseTemplateObject.filter (fun r => r.templateId ≠ tpl.id) ++
            pieces.map (templateObjectRow sv tpl.id)
          houseTemplate := updateRows s.db.houseTemplate (fun r => r.id = tpl.id) fun r =>
            { r with exit := sv.savedExit house.exit } } }

def dropHouse (house : House F) : HouseMgr sv :=
  { s with
    houses := s.houses.erase house.id
    houseByAccount := s.houseByAccount.erase house.accountId
    houseByInstance := if house.instanceId ≠ 0 then s.houseByInstance.erase house.instanceId else s.houseByInstance
    db := { s.db with house := s.db.house.deleteWhere fun r => r.id = house.id } }

def dropTemplate (tpl : HouseTemplate F) : HouseMgr sv :=
  { s with
    houseTemplates := s.houseTemplates.erase tpl.id
    templateByName := s.templateByName.erase tpl.name
    db := { s.db with
      houseTemplate := s.db.houseTemplate.deleteWhere fun r => r.id = tpl.id
      houseTemplateObject := s.db.houseTemplateObject.filter fun r => r.templateId ≠ tpl.id } }

def portalsInOrder : List (HousePortal F) :=
  (s.portals.entries.insertionSort fun a b => a.1 ≤ b.1).map fun e => e.2

/-- `DeleteTemplate`; the console has no player. -/
def deleteTemplate (dev : Option (Visitor F)) (id : UInt32) : Reply (HouseMgr sv) :=
  match s.getTemplate id with
  | none => refuse s "There is no template with that id."
  | some tpl =>
    let doors := (s.portalsInOrder.filter fun p => p.templateId = id).map fun p => toString p.id
    if doors ≠ [] then
      refuse s ("Entrances " ++ String.intercalate ", " doors ++ " still lead here. Retarget or remove them first.")
    else match s.getHouseById tpl.houseId with
      | none => done (s.dropTemplate tpl)
      | some house =>
        if dev.any fun p => (s.getHouseAt p).any fun h => h.id = house.id then refuse s "Step outside the template first."
        else done (((s.purgeObjects house).dropHouse house).dropTemplate tpl)

/-! Claiming, rebuilding and moving. -/

/-- The columns `StampTemplate` writes; the item and the group are not among them. -/
def stampedRow (sv : Server F) (o : HouseObject F) : HouseObject F := { sv.saved o with itemEntry := 0, groupNo := 0 }

/-- The copies of the frozen pieces, until the ids run out. -/
def stampObjects (houseId : UInt32) : List (HouseObject F) → HouseMgr sv → HouseMgr sv
  | [], s => s
  | o :: objects, s =>
    match s.allocateObjectGuid with
    | (guid, s) =>
      if guid = 0 then s
      else match s.getHouseById houseId with
        | none => s
        | some house =>
          let o := { o with guid := guid, houseId := houseId, source := .template, slot := s.allocateSlot house }
          stampObjects houseId objects (s.addObject o (stampedRow sv o))

def setHouseTemplate (houseId templateId : UInt32) (exit : HouseExit F) : HouseMgr sv :=
  (s.modifyHouse houseId fun h => { h with exit := exit, templateId := templateId }).updateHouseRow houseId
    fun r => { r with exit := sv.savedExit exit, templateId := templateId }

def stampTemplate (houseId : UInt32) (tpl : HouseTemplate F) : HouseMgr sv :=
  (stampObjects houseId tpl.objects s).setHouseTemplate houseId tpl.id tpl.exit

def setHousePortal (houseId portalId : UInt32) : HouseMgr sv :=
  (s.modifyHouse houseId fun h => { h with portalId := portalId }).updateHouseRow houseId fun r => { r with portalId := portalId }

def claimHouseAt (portalId : UInt32) : Reply (HouseMgr sv) :=
  if !sv.enabled then refuse s "Housing is not available on this server."
  else match s.getPortal portalId with
    | none => refuse s "That entrance is gone."
    | some door =>
      if p.inCombat then refuse s "Not while you are in combat."
      else if (s.getHouseByAccount p.accountId).isSome then refuse s "You already have a home. Use the move option instead."
      else match s.createHouse p.accountId with
        | (none, s) => refuse s "Could not create your house."
        | (some houseId, s) =>
          let s := match (s.getTemplate door.templateId).filter fun _ => door.templateId ≠ 0 with
            | some tpl => s.stampTemplate houseId tpl
            | none => s
          (s.setHousePortal houseId portalId).sendPlayerHome p

/-- `RebuildHouse`: the pieces and the animals go, and the template is stamped if there is one. -/
def rebuildHouse (house : House F) (templateId : UInt32) : HouseMgr sv :=
  let s := (s.purgeObjects house).purgeCritters house
  let s := s.modifyHouse house.id fun h => { h with exit := noExit sv, templateId := 0 }
  match (s.getTemplate templateId).filter fun _ => templateId ≠ 0 with
  | some tpl => s.stampTemplate house.id tpl
  | none => s.updateHouseRow house.id fun r => { r with exit := noExit sv, templateId := 0 }

def resetHouse : Reply (HouseMgr sv) :=
  if !sv.enabled then refuse s "Housing is not available on this server."
  else match s.getHouseAt p with
    | none => refuse s "You are not in a house."
    | some house =>
      if canEditHouse p house = false then refuse s "This is not your house."
      else if house.authorsTemplate ≠ 0 then done (s.purgeObjects house)
      else
        let s := (s.stowHouseFurniture house).mgr
        done (s.rebuildHouse house (((s.getPortal house.portalId).map HousePortal.templateId).getD 0))

def moveHouseTo (portalId : UInt32) : Reply (HouseMgr sv) :=
  if !sv.enabled then refuse s "Housing is not available on this server."
  else match s.getPortal portalId with
    | none => refuse s "That entrance is gone."
    | some door =>
      if p.inCombat then refuse s "Not while you are in combat."
      else match s.getHouseByAccount p.accountId with
        | none => refuse s "You do not have a home yet. Claim this one instead."
        | some house =>
          if isHomePortal house door then refuse s "This door is already your home."
          else
            let s := ((s.stowHouseFurniture house).mgr.rebuildHouse house door.templateId).setHousePortal house.id portalId
            s.sendPlayerHome p

/-! The way out of a template. -/

def getAuthoredTemplateAt : Except String (House F) :=
  match s.checkOwner p with
  | .error e => .error e
  | .ok house =>
    if house.authorsTemplate = 0 then
      .error "The way out is part of the house, not the furniture. It is placed in the template."
    else .ok house

def setExit (houseId : UInt32) (exit : HouseExit F) : HouseMgr sv :=
  (s.modifyHouse houseId fun h => { h with exit := exit }).updateHouseRow houseId fun r => { r with exit := sv.savedExit exit }

def setExitPortal : Reply (HouseMgr sv) :=
  if !sv.enabled then refuse s "Housing is not available on this server."
  else match s.getAuthoredTemplateAt p with
    | .error e => refuse s e
    | .ok house =>
      let distance := sv.lit HOUSE_PORTAL_PLACE_DISTANCE
      done (s.setExit house.id ⟨true, sv.add p.x (sv.mul (sv.cos p.o) distance), sv.add p.y (sv.mul (sv.sin p.o) distance), p.z,
        sv.add p.o sv.pi⟩)

def clearExitPortal : Reply (HouseMgr sv) :=
  match s.getAuthoredTemplateAt p with
  | .error e => refuse s e
  | .ok house =>
    if house.exit.exitSet = false then refuse s "This template's way out is already where it started."
    else done (s.setExit house.id (noExit sv))

end HouseMgr

end ComfyCraft
