import ComfyCraft.Housing.Crates
import ComfyCraft.Housing.Instances
import ComfyCraft.Housing.StowForecast

/-! `LoadFromDB`: what a start makes of the tables of housing. Rows that point nowhere are passed over, and a
piece or an animal without a slot gets one. -/

namespace ComfyCraft

variable {F : Type} {sv : Server F}

namespace HouseMgr

variable (s : HouseMgr sv)

/-- One row of `house_object`. -/
def loadObject (o : HouseObject F) : HouseMgr sv :=
  match s.getHouseById o.houseId with
  | none => s
  | some house =>
    if (sv.getGameObjectInfo o.goEntry).isNone then s
    else if sv.isValidMapCoord o.x o.y o.z o.o = false then s
    else
      { s with
        objects := s.objects.insert o.guid o
        nextObjectGuid := if s.nextObjectGuid ≤ o.guid then o.guid + 1 else s.nextObjectGuid }.modifyHouse house.id
          fun h => { h with objects := h.objects ++ [o.guid] }

/-- A piece that is not numbered gets a slot, in memory and in its row. -/
def numberObject (guid : UInt32) : HouseMgr sv :=
  match s.objects.lookup guid with
  | none => s
  | some o =>
    if o.slot ≠ 0 then s
    else match s.getHouseById o.houseId with
      | none => s
      | some house =>
        let slot := s.allocateSlot house
        { s with
          objects := s.objects.insert guid { o with slot := slot }
          db := { s.db with
            houseObject := updateRows s.db.houseObject (fun r => r.guid = o.guid) fun r => { r with slot := slot } } }

def allPieces : List UInt32 := s.houses.ordered.flatMap fun e => e.2.objects

def clearObjectGuids : HouseMgr sv :=
  let maxId := highest (s.db.houseObject.rows.map HouseObject.guid)
  { s with nextObjectGuid := if s.nextObjectGuid ≤ maxId then maxId + 1 else s.nextObjectGuid }

def loadObjects : HouseMgr sv :=
  let s := (s.db.houseObject.rows.insertionSort fun a b => a.guid ≤ b.guid).foldl loadObject s
  (s.allPieces.foldl numberObject s).clearObjectGuids

/-- One row of `house_template`; the house learns that it is a template. -/
def loadTemplate (r : TemplateRow F) : HouseMgr sv :=
  let name := normalizeTemplateName r.name
  let s := { s with
    houseTemplates := s.houseTemplates.insert r.id ⟨r.id, name, r.houseId, r.exit, []⟩
    templateByName := s.templateByName.insert name r.id }
  s.modifyHouse r.houseId fun h => { h with authorsTemplate := r.id }

/-- One row of `house_template_object`; the row has no item and no group. -/
def loadTemplateObject (r : TemplateObjectRow F) : HouseMgr sv :=
  match s.houseTemplates.lookup r.templateId with
  | none => s
  | some tpl =>
    let o : HouseObject F :=
      { guid := 0, houseId := 0, slot := 0, groupNo := 0, goEntry := r.goEntry, itemEntry := 0, x := r.x, y := r.y,
        z := r.z, o := r.o, rot0 := r.rot0, rot1 := r.rot1, rot2 := r.rot2, rot3 := r.rot3, scale := r.scale,
        source := .template }
    { s with houseTemplates := s.houseTemplates.insert r.templateId { tpl with objects := tpl.objects ++ [o] } }

def loadTemplates : HouseMgr sv :=
  let s := (s.db.houseTemplate.rows.insertionSort fun a b => a.id ≤ b.id).foldl loadTemplate s
  s.db.houseTemplateObject.foldl loadTemplateObject s

/-- One row of `house_portal`; a template that is gone makes the entrance one without. -/
def loadPortal (p : HousePortal F) : HouseMgr sv :=
  let p := if (s.getTemplate p.templateId).isNone then { p with templateId := 0 } else p
  if p.id = 0 ∨ HOUSE_PORTAL_MAX_ID < p.id then s else { s with portals := s.portals.insert p.id p }

def loadPortals : HouseMgr sv :=
  (s.db.housePortal.insertionSort fun a b => a.id ≤ b.id).foldl loadPortal s

/-- One row of `house_critter`. -/
def loadCritter (c : HouseCritter F) : HouseMgr sv :=
  match s.getHouseById c.houseId with
  | none => s
  | some house =>
    if sv.isCreature c.entry = false then s
    else
      { s with
        critters := s.critters.insert c.guid c
        nextCritterGuid := if s.nextCritterGuid ≤ c.guid then c.guid + 1 else s.nextCritterGuid }.modifyHouse house.id
          fun h => { h with critters := h.critters ++ [c.guid] }

def numberCritter (guid : UInt32) : HouseMgr sv :=
  match s.critters.lookup guid with
  | none => s
  | some c =>
    if c.slot ≠ 0 then s
    else match s.getHouseById c.houseId with
      | none => s
      | some house =>
        let slot := s.allocateCritterSlot house
        s.setCritter guid { c with slot := slot } fun r => { r with slot := slot }

def allCritters : List UInt32 := s.houses.ordered.flatMap fun e => e.2.critters

def clearCritterGuids : HouseMgr sv :=
  let maxId := highest (s.db.houseCritter.rows.map HouseCritter.guid)
  { s with nextCritterGuid := if s.nextCritterGuid ≤ maxId then maxId + 1 else s.nextCritterGuid }

/-- `LoadCritters`; without a block of guids there are none. -/
def loadCritters : HouseMgr sv :=
  if sv.crittersEnabled = false then s
  else
    let s := (s.db.houseCritter.rows.insertionSort fun a b => a.guid ≤ b.guid).foldl loadCritter s
    (s.allCritters.foldl numberCritter s).clearCritterGuids

/-- The check of the instances, house by house; `named` is the query for a row of the house map. -/
def checkInstances (named : UInt32 → Bool) (s : HouseMgr sv) : HouseMgr sv :=
  (s.houses.ordered.map Sigma.fst).foldl (checkInstance named) s

/-- A start on the tables that are there; `shelves` are the rows of `house_storage`. -/
def start (db : HouseTables sv) (named : UInt32 → Bool) (shelves : List StorageRow) : HouseMgr sv :=
  let s : HouseMgr sv := { empty sv with db := db }
  if !sv.enabled then s
  else ((s.loadHouses.loadObjects.checkInstances named).loadTemplates.loadPortals.loadStorage shelves).loadCritters

end HouseMgr
end ComfyCraft
