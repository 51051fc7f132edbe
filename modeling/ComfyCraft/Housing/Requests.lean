import ComfyCraft.Housing.Loading

/-! Everything that can happen to the houses of a server: the requests of players, what the console does, and
restarts. The bags a request finds belong to the step. -/

namespace ComfyCraft

variable {om : ObjectMgr} {F : Type} {sv : Server F}

inductive Rearrangement (F : Type)
  | drag
  | offset (dx dy dz : F)
  | turn (degrees : F) (faceMe : Bool)
  | scale (factor : F) (relative : Bool)

inductive HouseRequest (F : Type)
  | place (goEntry : UInt32) (distance : F)
  | useItem (pos : Pos)
  | rearrange (guid : UInt32) (r : Rearrangement F)
  | join (guid withGuid : UInt32)
  | leave (guid : UInt32) (objectLabel : UInt32 → String)
  | remove (guid : UInt32)
  | clear
  | placeCritter (entry : UInt32) (wander : F)
  | nameCritter (guid : UInt32) (name : List UInt8)
  | moveCritter (guid : UInt32) (drag : Bool) (setWander : Option F)
  | removeCritter (guid : UInt32)
  | goHome
  | claim (portalId : UInt32)
  | move (portalId : UInt32)
  | reset
  | createTemplate (name : String)
  | saveTemplate
  | deleteTemplate (id : UInt32)
  | gotoTemplate (id : UInt32)
  | setExit
  | clearExit
  | addPortal (name : String) (templateId : UInt32)
  | movePortal (id : UInt32)
  | removePortal (id : UInt32)
  | setHomePortal (portalId : UInt32)
  | setPortalTemplate (portalId templateId : UInt32)
  | shelf (r : ShelfRequest)

/-- A request of a player with the bags that it finds, a template deleted from the console, or a restart. -/
inductive HouseEvent (om : ObjectMgr) (F : Type)
  | request (bags : Player om) (p : Visitor F) (r : HouseRequest F)
  | consoleDelete (id : UInt32)
  | restart (named : UInt32 → Bool) (shelves : List StorageRow)

namespace HouseMgr

def rearrangeObject (s : HouseMgr sv) (p : Visitor F) (guid : UInt32) : Rearrangement F → Reply (HouseMgr sv)
  | .drag => s.dragObject p guid
  | .offset dx dy dz => s.offsetObject p guid dx dy dz
  | .turn degrees faceMe => s.turnObject p guid degrees faceMe
  | .scale factor relative => s.scaleObject p guid factor relative

def handle (w : HouseWorld om sv) (p : Visitor F) : HouseRequest F → HouseWorld om sv
  | .place goEntry distance => { w with mgr := (w.mgr.placeObject p goEntry distance 0 (sv.lit 0) none).2 }
  | .useItem pos => (placeFromItem w p pos).2
  | .rearrange guid r => { w with mgr := (w.mgr.rearrangeObject p guid r).2 }
  | .join guid withGuid => { w with mgr := (w.mgr.joinGroup p guid withGuid).2 }
  | .leave guid objectLabel => { w with mgr := (w.mgr.leaveGroup p guid objectLabel).2 }
  | .remove guid => (removeObject w p guid).2
  | .clear => (clearHouse w p).2.1
  | .placeCritter entry wander => { w with mgr := (w.mgr.placeCritter p entry wander 0).2 }
  | .nameCritter guid name => { w with mgr := (w.mgr.nameCritter p guid name).2 }
  | .moveCritter guid drag setWander => { w with mgr := (w.mgr.moveCritter p guid drag setWander).2 }
  | .removeCritter guid => (removeCritter w p guid).2
  | .goHome => { w with mgr := (w.mgr.sendPlayerHome p).2 }
  | .claim portalId => { w with mgr := (w.mgr.claimHouseAt p portalId).2 }
  | .move portalId => { w with mgr := (w.mgr.moveHouseTo p portalId).2 }
  | .reset => { w with mgr := (w.mgr.resetHouse p).2 }
  | .createTemplate name => { w with mgr := (w.mgr.createTemplate p name).2 }
  | .saveTemplate => { w with mgr := (w.mgr.saveTemplate p).2 }
  | .deleteTemplate id => { w with mgr := (w.mgr.deleteTemplate (some p) id).2 }
  | .gotoTemplate id => { w with mgr := (w.mgr.gotoTemplate p id).2 }
  | .setExit => { w with mgr := (w.mgr.setExitPortal p).2 }
  | .clearExit => { w with mgr := (w.mgr.clearExitPortal p).2 }
  | .addPortal name templateId => { w with mgr := (w.mgr.addPortal p name templateId).2 }
  | .movePortal id => { w with mgr := (w.mgr.movePortal p id).2 }
  | .removePortal id => { w with mgr := (w.mgr.removePortal id).2 }
  | .setHomePortal portalId => { w with mgr := (w.mgr.setHomePortal p portalId).2 }
  | .setPortalTemplate portalId templateId => { w with mgr := (w.mgr.setPortalTemplate portalId templateId).2 }
  | .shelf r => r.handle w p

def step (s : HouseMgr sv) : HouseEvent om F → HouseMgr sv
  | .request bags p r => (handle ⟨bags, s⟩ p r).mgr
  | .consoleDelete id => (s.deleteTemplate none id).2
  | .restart named shelves => start s.db named shelves

end HouseMgr
end ComfyCraft
