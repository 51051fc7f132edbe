import ComfyCraft.DungeonClear.EscapeJson

/-! The diagnostic snapshot of a run, as it stands in the record of the run: what of it is written, and the value that is read there. -/

namespace ComfyCraft.DcDiag

open DcTestRunRecord Json

/-! ### What is captured -/

structure CombatHolderSnapshot where
  name : Text
  entry : UInt32
  guid : UInt64
  isCreature : Bool
  pvp : Bool
  alive : Bool
  sameMap : Bool
  evading : Bool
  suppressed : Bool
  reachable : Bool
  reachChecked : Bool
  canAttackMe : Bool
  immune : Bool
  passive : Bool
  atOneHp : Bool
  dist : FiniteFloat
  healthPct : UInt32
  victim : Text
  legitimate : Bool
  x : FiniteFloat
  y : FiniteFloat
  z : FiniteFloat

structure MemberSnapshot where
  name : Text
  guid : UInt64
  level : UInt32
  isBot : Bool
  online : Bool
  mapId : UInt32
  x : FiniteFloat
  y : FiniteFloat
  z : FiniteFloat
  distToTank : FiniteFloat
  alive : Bool
  healthPct : UInt32
  manaPct : UInt32
  inCombat : Bool
  victim : Text
  dcStrategy : Bool
  dcCombatStrategy : Bool
  botState : Text
  attackerCount : UInt32
  combatHolders : List CombatHolderSnapshot
  holderRefCount : UInt32
  phantomCombat : Bool

structure BossSnapshot where
  entry : UInt32
  orderKey : UInt32
  name : Text
  kind : Text
  status : Text
  doneVia : Text
  encounterIndex : Int32
  x : FiniteFloat
  y : FiniteFloat
  z : FiniteFloat
  isTarget : Bool
  isSticky : Bool

/-- Of a snapshot that is not `valid` only `capturedAt` is written. -/
structure Snapshot where
  valid : Bool
  capturedAt : Text
  enabled : Bool
  paused : Bool
  pauseReason : Text
  pausedAtDoor : Bool
  selectedBossEntry : UInt32
  smartRestLatched : Bool
  phase : Text
  stateStr : Text
  detail : Text
  stallReason : Text
  stickyBoss : UInt32
  nextBossEntry : UInt32
  nextBossName : Text
  committedTargetEntry : UInt32
  approachTargetEntry : UInt32
  distToTarget : FiniteFloat
  targetMismatch : Bool
  pathReachable : Bool
  pathComplete : Bool
  pathStartFarFromPoly : Bool
  pathFailureReason : Text
  pathSegments : UInt32
  segmentIdx : UInt32
  pointIdx : UInt32
  offPathTicks : UInt32
  routeDeviation : FiniteFloat
  cursorPastPathEnd : Bool
  routeGlideStuck : UInt32
  doorWalkInStuck : UInt32
  pursuitStuck : UInt32
  finalApproachStuck : UInt32
  stuckCount : UInt32
  rebuildAttempts : UInt32
  resnapAttempts : UInt32
  partyNotReadyTicks : UInt32
  doorStalled : Bool
  doorStalledForMs : UInt32
  pullSetting : UInt32
  pullPhase : UInt32
  pullDecision : UInt32
  pullPhaseForMs : UInt32
  pullFizzleCount : UInt32
  pullHasCamp : Bool
  mapId : UInt32
  instanceId : UInt32
  tankX : FiniteFloat
  tankY : FiniteFloat
  tankZ : FiniteFloat
  tankInCombat : Bool
  tankMoving : Bool
  tankVictim : Text
  completedEncounterMask : UInt32
  partySize : UInt32
  aliveCount : UInt32
  offlineCount : UInt32
  inCombatCount : UInt32
  clearedAnchors : UInt32
  skippedCount : UInt32
  members : List MemberSnapshot
  roster : List BossSnapshot

/-! ### What is written -/

def holderText (c : CombatHolderSnapshot) : Text := [
  "\x7b\"name\":".toList, AppendEscaped c.name,
  ",\"entry\":".toList, uint32Text c.entry,
  ",\"guid\":".toList, uint64Text c.guid,
  ",\"dist\":".toList, floatText c.dist,
  ",\"hp\":".toList, uint32Text c.healthPct,
  ",\"x\":".toList, floatText c.x, ",\"y\":".toList, floatText c.y, ",\"z\":".toList, floatText c.z,
  AppendBool "creature".toList c.isCreature,
  AppendBool "pvp".toList c.pvp,
  AppendBool "alive".toList c.alive,
  AppendBool "sameMap".toList c.sameMap,
  AppendBool "evading".toList c.evading,
  AppendBool "suppressed".toList c.suppressed,
  AppendBool "reachable".toList c.reachable,
  AppendBool "reachChecked".toList c.reachChecked,
  AppendBool "canAttackMe".toList c.canAttackMe,
  AppendBool "immune".toList c.immune,
  AppendBool "passive".toList c.passive,
  AppendBool "atOneHp".toList c.atOneHp,
  AppendBool "legitimate".toList c.legitimate,
  ",\"victim\":".toList, AppendEscaped c.victim,
  ['\x7d']].flatten

variable (m : MemberSnapshot) (snap : Snapshot) (rest : Text)

def combatText : Text := [
  ",\"attackers\":".toList, uint32Text m.attackerCount,
  ",\"holderRefs\":".toList, uint32Text m.holderRefCount,
  AppendBool "phantomCombat".toList m.phantomCombat,
  ",\"combatHolders\":".toList, bracketed holderText m.combatHolders].flatten

def memberText : Text := [
  "\x7b\"name\":".toList, AppendEscaped m.name,
  ",\"guid\":".toList, uint64Text m.guid,
  ",\"level\":".toList, uint32Text m.level,
  ",\"bot\":".toList, boolText m.isBot,
  ",\"online\":".toList, boolText m.online,
  ",\"map\":".toList, uint32Text m.mapId,
  ",\"x\":".toList, floatText m.x, ",\"y\":".toList, floatText m.y, ",\"z\":".toList, floatText m.z,
  ",\"distToTank\":".toList, floatText m.distToTank,
  ",\"alive\":".toList, boolText m.alive,
  ",\"hp\":".toList, uint32Text m.healthPct,
  ",\"mp\":".toList, uint32Text m.manaPct,
  ",\"inCombat\":".toList, boolText m.inCombat,
  ",\"victim\":".toList, AppendEscaped m.victim,
  ",\"dcStrategy\":".toList, boolText m.dcStrategy,
  ",\"dcCombatStrategy\":".toList, boolText m.dcCombatStrategy,
  ",\"botState\":".toList, AppendEscaped m.botState,
  if m.inCombat then combatText m else [],
  ['\x7d']].flatten

def bossText (b : BossSnapshot) : Text := [
  "\x7b\"entry\":".toList, uint32Text b.entry,
  ",\"order\":".toList, uint32Text b.orderKey,
  ",\"name\":".toList, AppendEscaped b.name,
  ",\"kind\":".toList, AppendEscaped b.kind,
  ",\"status\":".toList, AppendEscaped b.status,
  ",\"doneVia\":".toList, AppendEscaped b.doneVia,
  ",\"encounterIndex\":".toList, int32Text b.encounterIndex,
  ",\"x\":".toList, floatText b.x, ",\"y\":".toList, floatText b.y, ",\"z\":".toList, floatText b.z,
  ",\"isTarget\":".toList, boolText b.isTarget,
  ",\"isSticky\":".toList, boolText b.isSticky,
  ['\x7d']].flatten

def targetText : Text := [
  "\x7b\"sticky\":".toList, uint32Text snap.stickyBoss,
  ",\"nextEntry\":".toList, uint32Text snap.nextBossEntry,
  ",\"nextName\":".toList, AppendEscaped snap.nextBossName,
  ",\"committedEntry\":".toList, uint32Text snap.committedTargetEntry,
  ",\"approachEntry\":".toList, uint32Text snap.approachTargetEntry,
  ",\"distance\":".toList, floatText snap.distToTarget,
  ",\"mismatch\":".toList, boolText snap.targetMismatch,
  ['\x7d']].flatten

def routeText : Text := [
  "\x7b\"reachable\":".toList, boolText snap.pathReachable,
  ",\"complete\":".toList, boolText snap.pathComplete,
  ",\"startFarFromPoly\":".toList, boolText snap.pathStartFarFromPoly,
  ",\"failureReason\":".toList, AppendEscaped snap.pathFailureReason,
  ",\"segments\":".toList, uint32Text snap.pathSegments,
  ",\"segmentIdx\":".toList, uint32Text snap.segmentIdx,
  ",\"pointIdx\":".toList, uint32Text snap.pointIdx,
  ",\"offPathTicks\":".toList, uint32Text snap.offPathTicks,
  ",\"deviation\":".toList, floatText snap.routeDeviation,
  ",\"cursorPastPathEnd\":".toList, boolText snap.cursorPastPathEnd,
  ['\x7d']].flatten

def watchdogsText : Text := [
  "\x7b\"routeGlide\":".toList, uint32Text snap.routeGlideStuck,
  ",\"doorWalkIn\":".toList, uint32Text snap.doorWalkInStuck,
  ",\"pursuit\":".toList, uint32Text snap.pursuitStuck,
  ",\"finalApproach\":".toList, uint32Text snap.finalApproachStuck,
  ",\"stuckCount\":".toList, uint32Text snap.stuckCount,
  ",\"rebuildAttempts\":".toList, uint32Text snap.rebuildAttempts,
  ",\"resnapAttempts\":".toList, uint32Text snap.resnapAttempts,
  ",\"partyNotReadyTicks\":".toList, uint32Text snap.partyNotReadyTicks,
  ",\"doorStalled\":".toList, boolText snap.doorStalled,
  ",\"doorStalledForMs\":".toList, uint32Text snap.doorStalledForMs,
  ['\x7d']].flatten

def pullText : Text := [
  "\x7b\"setting\":".toList, uint32Text snap.pullSetting,
  ",\"phase\":".toList, uint32Text snap.pullPhase,
  ",\"decision\":".toList, uint32Text snap.pullDecision,
  ",\"phaseForMs\":".toList, uint32Text snap.pullPhaseForMs,
  ",\"fizzleCount\":".toList, uint32Text snap.pullFizzleCount,
  ",\"hasCamp\":".toList, boolText snap.pullHasCamp,
  ['\x7d']].flatten

def worldText : Text := [
  "\x7b\"map\":".toList, uint32Text snap.mapId,
  ",\"instance\":".toList, uint32Text snap.instanceId,
  ",\"x\":".toList, floatText snap.tankX, ",\"y\":".toList, floatText snap.tankY, ",\"z\":".toList, floatText snap.tankZ,
  ",\"inCombat\":".toList, boolText snap.tankInCombat,
  ",\"moving\":".toList, boolText snap.tankMoving,
  ",\"victim\":".toList, AppendEscaped snap.tankVictim,
  ",\"completedEncounterMask\":".toList, uint32Text snap.completedEncounterMask,
  ",\"clearedAnchors\":".toList, uint32Text snap.clearedAnchors,
  ",\"skipped\":".toList, uint32Text snap.skippedCount,
  ['\x7d']].flatten

def partyText : Text := [
  "\x7b\"size\":".toList, uint32Text snap.partySize,
  ",\"alive\":".toList, uint32Text snap.aliveCount,
  ",\"offline\":".toList, uint32Text snap.offlineCount,
  ",\"inCombat\":".toList, uint32Text snap.inCombatCount,
  ",\"members\":".toList, bracketed memberText snap.members,
  ['\x7d']].flatten

def bodyText : Text := [
  AppendBool "enabled".toList snap.enabled,
  AppendBool "paused".toList snap.paused,
  ",\"pauseReason\":".toList, AppendEscaped snap.pauseReason,
  AppendBool "pausedAtDoor".toList snap.pausedAtDoor,
  ",\"selectedBossEntry\":".toList, uint32Text snap.selectedBossEntry,
  AppendBool "smartRestLatched".toList snap.smartRestLatched,
  ",\"phase\":".toList, AppendEscaped snap.phase,
  ",\"state\":".toList, AppendEscaped snap.stateStr,
  ",\"detail\":".toList, AppendEscaped snap.detail,
  ",\"stallReason\":".toList, AppendEscaped snap.stallReason,
  ",\"target\":".toList, targetText snap,
  ",\"route\":".toList, routeText snap,
  ",\"watchdogs\":".toList, watchdogsText snap,
  ",\"pull\":".toList, pullText snap,
  ",\"world\":".toList, worldText snap,
  ",\"party\":".toList, partyText snap,
  ",\"roster\":".toList, bracketed bossText snap.roster,
  ['\x7d']].flatten

def AppendJson : Text := [
  "\x7b\"valid\":".toList, boolText snap.valid,
  ",\"capturedAt\":".toList, AppendEscaped snap.capturedAt,
  if !snap.valid then ['\x7d'] else bodyText snap].flatten

/-! ### What stands there -/

def holderJson (c : CombatHolderSnapshot) : Json := .object [
  ("name".toList, .string c.name),
  ("entry".toList, uint32Json c.entry),
  ("guid".toList, uint64Json c.guid),
  ("dist".toList, floatJson c.dist),
  ("hp".toList, uint32Json c.healthPct),
  ("x".toList, floatJson c.x), ("y".toList, floatJson c.y), ("z".toList, floatJson c.z),
  ("creature".toList, .bool c.isCreature),
  ("pvp".toList, .bool c.pvp),
  ("alive".toList, .bool c.alive),
  ("sameMap".toList, .bool c.sameMap),
  ("evading".toList, .bool c.evading),
  ("suppressed".toList, .bool c.suppressed),
  ("reachable".toList, .bool c.reachable),
  ("reachChecked".toList, .bool c.reachChecked),
  ("canAttackMe".toList, .bool c.canAttackMe),
  ("immune".toList, .bool c.immune),
  ("passive".toList, .bool c.passive),
  ("atOneHp".toList, .bool c.atOneHp),
  ("legitimate".toList, .bool c.legitimate),
  ("victim".toList, .string c.victim)]

def combatMembers : List (Text × Json) := [
  ("attackers".toList, uint32Json m.attackerCount),
  ("holderRefs".toList, uint32Json m.holderRefCount),
  ("phantomCombat".toList, .bool m.phantomCombat),
  ("combatHolders".toList, .array (m.combatHolders.map holderJson))]

def memberJson : Json := .object ([
  ("name".toList, .string m.name),
  ("guid".toList, uint64Json m.guid),
  ("level".toList, uint32Json m.level),
  ("bot".toList, .bool m.isBot),
  ("online".toList, .bool m.online),
  ("map".toList, uint32Json m.mapId),
  ("x".toList, floatJson m.x), ("y".toList, floatJson m.y), ("z".toList, floatJson m.z),
  ("distToTank".toList, floatJson m.distToTank),
  ("alive".toList, .bool m.alive),
  ("hp".toList, uint32Json m.healthPct),
  ("mp".toList, uint32Json m.manaPct),
  ("inCombat".toList, .bool m.inCombat),
  ("victim".toList, .string m.victim),
  ("dcStrategy".toList, .bool m.dcStrategy),
  ("dcCombatStrategy".toList, .bool m.dcCombatStrategy),
  ("botState".toList, .string m.botState)] ++
  if m.inCombat then combatMembers m else [])

def bossJson (b : BossSnapshot) : Json := .object [
  ("entry".toList, uint32Json b.entry),
  ("order".toList, uint32Json b.orderKey),
  ("name".toList, .string b.name),
  ("kind".toList, .string b.kind),
  ("status".toList, .string b.status),
  ("doneVia".toList, .string b.doneVia),
  ("encounterIndex".toList, int32Json b.encounterIndex),
  ("x".toList, floatJson b.x), ("y".toList, floatJson b.y), ("z".toList, floatJson b.z),
  ("isTarget".toList, .bool b.isTarget),
  ("isSticky".toList, .bool b.isSticky)]

def targetJson : Json := .object [
  ("sticky".toList, uint32Json snap.stickyBoss),
  ("nextEntry".toList, uint32Json snap.nextBossEntry),
  ("nextName".toList, .string snap.nextBossName),
  ("committedEntry".toList, uint32Json snap.committedTargetEntry),
  ("approachEntry".toList, uint32Json snap.approachTargetEntry),
  ("distance".toList, floatJson snap.distToTarget),
  ("mismatch".toList, .bool snap.targetMismatch)]

def routeJson : Json := .object [
  ("reachable".toList, .bool snap.pathReachable),
  ("complete".toList, .bool snap.pathComplete),
  ("startFarFromPoly".toList, .bool snap.pathStartFarFromPoly),
  ("failureReason".toList, .string snap.pathFailureReason),
  ("segments".toList, uint32Json snap.pathSegments),
  ("segmentIdx".toList, uint32Json snap.segmentIdx),
  ("pointIdx".toList, uint32Json snap.pointIdx),
  ("offPathTicks".toList, uint32Json snap.offPathTicks),
  ("deviation".toList, floatJson snap.routeDeviation),
  ("cursorPastPathEnd".toList, .bool snap.cursorPastPathEnd)]

def watchdogsJson : Json := .object [
  ("routeGlide".toList, uint32Json snap.routeGlideStuck),
  ("doorWalkIn".toList, uint32Json snap.doorWalkInStuck),
  ("pursuit".toList, uint32Json snap.pursuitStuck),
  ("finalApproach".toList, uint32Json snap.finalApproachStuck),
  ("stuckCount".toList, uint32Json snap.stuckCount),
  ("rebuildAttempts".toList, uint32Json snap.rebuildAttempts),
  ("resnapAttempts".toList, uint32Json snap.resnapAttempts),
  ("partyNotReadyTicks".toList, uint32Json snap.partyNotReadyTicks),
  ("doorStalled".toList, .bool snap.doorStalled),
  ("doorStalledForMs".toList, uint32Json snap.doorStalledForMs)]

def pullJson : Json := .object [
  ("setting".toList, uint32Json snap.pullSetting),
  ("phase".toList, uint32Json snap.pullPhase),
  ("decision".toList, uint32Json snap.pullDecision),
  ("phaseForMs".toList, uint32Json snap.pullPhaseForMs),
  ("fizzleCount".toList, uint32Json snap.pullFizzleCount),
  ("hasCamp".toList, .bool snap.pullHasCamp)]

def worldJson : Json := .object [
  ("map".toList, uint32Json snap.mapId),
  ("instance".toList, uint32Json snap.instanceId),
  ("x".toList, floatJson snap.tankX), ("y".toList, floatJson snap.tankY), ("z".toList, floatJson snap.tankZ),
  ("inCombat".toList, .bool snap.tankInCombat),
  ("moving".toList, .bool snap.tankMoving),
  ("victim".toList, .string snap.tankVictim),
  ("completedEncounterMask".toList, uint32Json snap.completedEncounterMask),
  ("clearedAnchors".toList, uint32Json snap.clearedAnchors),
  ("skipped".toList, uint32Json snap.skippedCount)]

def partyJson : Json := .object [
  ("size".toList, uint32Json snap.partySize),
  ("alive".toList, uint32Json snap.aliveCount),
  ("offline".toList, uint32Json snap.offlineCount),
  ("inCombat".toList, uint32Json snap.inCombatCount),
  ("members".toList, .array (snap.members.map memberJson))]

def bodyMembers : List (Text × Json) := [
  ("enabled".toList, .bool snap.enabled),
  ("paused".toList, .bool snap.paused),
  ("pauseReason".toList, .string snap.pauseReason),
  ("pausedAtDoor".toList, .bool snap.pausedAtDoor),
  ("selectedBossEntry".toList, uint32Json snap.selectedBossEntry),
  ("smartRestLatched".toList, .bool snap.smartRestLatched),
  ("phase".toList, .string snap.phase),
  ("state".toList, .string snap.stateStr),
  ("detail".toList, .string snap.detail),
  ("stallReason".toList, .string snap.stallReason),
  ("target".toList, targetJson snap),
  ("route".toList, routeJson snap),
  ("watchdogs".toList, watchdogsJson snap),
  ("pull".toList, pullJson snap),
  ("world".toList, worldJson snap),
  ("party".toList, partyJson snap),
  ("roster".toList, .array (snap.roster.map bossJson))]

def snapshotJson : Json :=
  .object ([("valid".toList, .bool snap.valid), ("capturedAt".toList, .string snap.capturedAt)] ++ if !snap.valid then [] else bodyMembers snap)

/-! ### What is written is that -/

set_option maxRecDepth 4000 in
theorem holderText_eq (c : CombatHolderSnapshot) (rest : Text) : holderText c ++ rest = write EscapeJson (holderJson c) rest := by
  unfold holderText holderJson
  rw [flatten_append]
  simp only [List.foldr_cons, List.foldr_nil, AppendEscaped_append, AppendBool_append]
  rfl

theorem combatText_eq : combatText m ++ rest = writeMembers EscapeJson (combatMembers m) rest := by
  unfold combatText combatMembers
  rw [flatten_append]
  simp only [List.foldr_cons, List.foldr_nil, AppendBool_append, bracketed_eq holderText_eq]
  rfl

set_option maxRecDepth 4000 in
theorem memberText_eq : memberText m ++ rest = write EscapeJson (memberJson m) rest := by
  unfold memberText memberJson
  rw [flatten_append]
  cases hcombat : m.inCombat
  · simp only [Bool.false_eq_true, if_false, List.foldr_cons, List.foldr_nil, AppendEscaped_append]
    rfl
  · simp only [if_true, List.foldr_cons, List.foldr_nil, AppendEscaped_append, combatText_eq]
    rfl

set_option maxRecDepth 4000 in
theorem bossText_eq (b : BossSnapshot) (rest : Text) : bossText b ++ rest = write EscapeJson (bossJson b) rest := by
  unfold bossText bossJson
  rw [flatten_append]
  simp only [List.foldr_cons, List.foldr_nil, AppendEscaped_append]
  rfl

set_option maxRecDepth 4000 in
theorem targetText_eq : targetText snap ++ rest = write EscapeJson (targetJson snap) rest := by
  unfold targetText targetJson
  rw [flatten_append]
  simp only [List.foldr_cons, List.foldr_nil, AppendEscaped_append]
  rfl

set_option maxRecDepth 4000 in
theorem routeText_eq : routeText snap ++ rest = write EscapeJson (routeJson snap) rest := by
  unfold routeText routeJson
  rw [flatten_append]
  simp only [List.foldr_cons, List.foldr_nil, AppendEscaped_append]
  rfl

set_option maxRecDepth 4000 in
theorem watchdogsText_eq : watchdogsText snap ++ rest = write EscapeJson (watchdogsJson snap) rest := by
  unfold watchdogsText watchdogsJson
  rw [flatten_append]
  simp only [List.foldr_cons, List.foldr_nil]
  rfl

set_option maxRecDepth 4000 in
theorem pullText_eq : pullText snap ++ rest = write EscapeJson (pullJson snap) rest := by
  unfold pullText pullJson
  rw [flatten_append]
  simp only [List.foldr_cons, List.foldr_nil]
  rfl

set_option maxRecDepth 4000 in
theorem worldText_eq : worldText snap ++ rest = write EscapeJson (worldJson snap) rest := by
  unfold worldText worldJson
  rw [flatten_append]
  simp only [List.foldr_cons, List.foldr_nil, AppendEscaped_append]
  rfl

set_option maxRecDepth 4000 in
theorem partyText_eq : partyText snap ++ rest = write EscapeJson (partyJson snap) rest := by
  unfold partyText partyJson
  rw [flatten_append]
  simp only [List.foldr_cons, List.foldr_nil, bracketed_eq memberText_eq]
  rfl

set_option maxRecDepth 4000 in
theorem bodyText_eq : bodyText snap ++ rest = writeMembers EscapeJson (bodyMembers snap) ('\x7d' :: rest) := by
  unfold bodyText bodyMembers
  rw [flatten_append]
  simp only [List.foldr_cons, List.foldr_nil, AppendEscaped_append, AppendBool_append, targetText_eq, routeText_eq, watchdogsText_eq, pullText_eq, worldText_eq,
    partyText_eq, bracketed_eq bossText_eq]
  rfl

theorem AppendJson_eq : AppendJson snap ++ rest = write EscapeJson (snapshotJson snap) rest := by
  unfold AppendJson snapshotJson
  rw [flatten_append]
  cases hvalid : snap.valid
  · simp only [Bool.not_false, if_true, List.foldr_cons, List.foldr_nil, AppendEscaped_append]
    rfl
  · simp only [Bool.not_true, Bool.false_eq_true, if_false, List.foldr_cons, List.foldr_nil, AppendEscaped_append, List.nil_append, bodyText_eq]
    rfl

end ComfyCraft.DcDiag
