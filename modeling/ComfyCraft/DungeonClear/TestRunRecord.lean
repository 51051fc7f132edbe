import ComfyCraft.DungeonClear.DiagSnapshot

/-! The record of a test run, one line for each run that has ended. -/

namespace ComfyCraft.DcTestRunRecord

open Json List

/-! ### What a run leaves -/

structure CompEntry where
  name : Text
  className : Text
  spec : Text
  role : Text
  guid : UInt64
  level : UInt32
  detectedRole : Text
  roleMismatch : Bool
  fromMap : UInt32
  fromX : FiniteFloat
  fromY : FiniteFloat
  fromZ : FiniteFloat
  fromO : FiniteFloat

structure StatusEntry where
  t : UInt32
  state : Text
  detail : Text

structure BossKill where
  t : UInt32
  entry : UInt32
  name : Text
  via : Text

structure PauseEntry where
  t : UInt32
  reason : Text

structure DeathEntry where
  t : UInt32
  name : Text
  opponent : Text
  opponentEntry : UInt32
  onBoss : Bool

structure PullEntry where
  t : UInt32
  targetEntry : UInt32
  predictedCount : UInt32
  predictedThirds : UInt32
  ceilingThirds : UInt32
  observedMax : UInt32
  observedElites : UInt32
  advanced : Bool
  wipedHere : Bool

structure Record where
  schema : UInt32
  runId : Text
  planId : Text
  dungeon : Text
  dungeonName : Text
  wing : Text
  mapId : UInt32
  instanceId : UInt32
  level : UInt32
  heroic : Bool
  compSeed : UInt32
  gearIlvl : UInt32
  gearQuality : UInt32
  roster : Bool
  comp : List CompEntry
  startedAtMs : UInt64
  endedAtMs : UInt64
  durationS : UInt32
  result : Text
  failReason : Text
  disableReason : Text
  bossesTotal : UInt32
  bossesKilled : UInt32
  bossRoster : List Text
  bossTimeline : List BossKill
  deaths : List DeathEntry
  pulls : List PullEntry
  pullsElided : UInt32
  statusTimeline : List StatusEntry
  pauses : List PauseEntry
  finalMap : UInt32
  finalX : FiniteFloat
  finalY : FiniteFloat
  finalZ : FiniteFloat
  pauseGraceS : UInt32
  stallGraceS : UInt32
  noProgressS : UInt32
  overallS : UInt32
  setupStage : Text
  stallAtEnd : Text
  phaseAtEnd : Text
  wipeOnBoss : Bool
  wipeOpponentEntry : UInt32
  wipeOpponent : Text
  diag : DcDiag.Snapshot

def kStatusHead : Nat := 50

def kStatusTail : Nat := 150

/-! ### What is written -/

variable (st : List StatusEntry) (c : CompEntry) (rec : Record) (rest : Text)

def fromText : Text := [
  "\x7b\"map\":".toList, uint32Text c.fromMap,
  ",\"x\":".toList, floatText c.fromX, ",\"y\":".toList, floatText c.fromY, ",\"z\":".toList, floatText c.fromZ,
  ",\"o\":".toList, floatText c.fromO,
  ['\x7d']].flatten

def compText : Text := [
  "\x7b\"name\":".toList, AppendEscaped c.name,
  ",\"class\":".toList, AppendEscaped c.className,
  ",\"spec\":".toList, AppendEscaped c.spec,
  ",\"role\":".toList, AppendEscaped c.role,
  ",\"guid\":".toList, uint64Text c.guid,
  ",\"level\":".toList, uint32Text c.level,
  ",\"detectedRole\":".toList, AppendEscaped c.detectedRole,
  ",\"roleMismatch\":".toList, boolText c.roleMismatch,
  ",\"from\":".toList, fromText c,
  ['\x7d']].flatten

def killText (b : BossKill) : Text := [
  "\x7b\"t\":".toList, uint32Text b.t,
  ",\"entry\":".toList, uint32Text b.entry,
  ",\"name\":".toList, AppendEscaped b.name,
  ",\"via\":".toList, AppendEscaped b.via,
  ['\x7d']].flatten

def deathText (d : DeathEntry) : Text := [
  "\x7b\"t\":".toList, uint32Text d.t,
  ",\"name\":".toList, AppendEscaped d.name,
  ",\"opponent\":".toList, AppendEscaped d.opponent,
  ",\"opponentEntry\":".toList, uint32Text d.opponentEntry,
  ",\"onBoss\":".toList, boolText d.onBoss,
  ['\x7d']].flatten

def pullText (p : PullEntry) : Text := [
  "\x7b\"t\":".toList, uint32Text p.t,
  ",\"entry\":".toList, uint32Text p.targetEntry,
  ",\"predicted\":".toList, uint32Text p.predictedCount,
  ",\"predictedThirds\":".toList, uint32Text p.predictedThirds,
  ",\"ceilingThirds\":".toList, uint32Text p.ceilingThirds,
  ",\"observed\":".toList, uint32Text p.observedMax,
  ",\"observedElites\":".toList, uint32Text p.observedElites,
  ",\"advanced\":".toList, boolText p.advanced,
  ",\"wipedHere\":".toList, boolText p.wipedHere,
  ['\x7d']].flatten

def statusText (e : StatusEntry) : Text := [
  "\x7b\"t\":".toList, uint32Text e.t,
  ",\"state\":".toList, AppendEscaped e.state,
  ",\"detail\":".toList, AppendEscaped e.detail,
  ['\x7d']].flatten

def pauseText (p : PauseEntry) : Text := [
  "\x7b\"t\":".toList, uint32Text p.t,
  ",\"reason\":".toList, AppendEscaped p.reason,
  ['\x7d']].flatten

def posText : Text := [
  "\x7b\"map\":".toList, uint32Text rec.finalMap,
  ",\"x\":".toList, floatText rec.finalX, ",\"y\":".toList, floatText rec.finalY, ",\"z\":".toList, floatText rec.finalZ,
  ['\x7d']].flatten

def watchdogText : Text := [
  "\x7b\"pauseGraceS\":".toList, uint32Text rec.pauseGraceS,
  ",\"stallGraceS\":".toList, uint32Text rec.stallGraceS,
  ",\"noProgressS\":".toList, uint32Text rec.noProgressS,
  ",\"overallS\":".toList, uint32Text rec.overallS,
  ['\x7d']].flatten

/-- Between the head and the tail of a long timeline stands how many entries are left out, and when the first of them was. -/
def elidedText (t : UInt32) (count : Nat) : Text := [
  ",\x7b\"t\":".toList, uint32Text t,
  ",\"state\":\"...\",\"detail\":\"".toList, Text.decimal count, " transitions elided\"\x7d".toList].flatten

def timelineText : Text :=
  if h : st.length ≤ kStatusHead + kStatusTail then separated statusText true st
  else
    separated statusText true (st.take kStatusHead) ++
      (elidedText (st.get ⟨kStatusHead, by omega⟩).t (st.length - kStatusHead - kStatusTail) ++
        separated statusText false (st.drop (st.length - kStatusTail)))

def ToJsonl : Text := [
  "\x7b\"schema\":".toList, uint32Text rec.schema,
  ",\"runId\":".toList, AppendEscaped rec.runId,
  ",\"planId\":".toList, AppendEscaped rec.planId,
  ",\"dungeon\":".toList, AppendEscaped rec.dungeon,
  ",\"dungeonName\":".toList, AppendEscaped rec.dungeonName,
  ",\"wing\":".toList, AppendEscaped rec.wing,
  ",\"mapId\":".toList, uint32Text rec.mapId,
  ",\"instanceId\":".toList, uint32Text rec.instanceId,
  ",\"level\":".toList, uint32Text rec.level,
  ",\"heroic\":".toList, boolText rec.heroic,
  ",\"compSeed\":".toList, uint32Text rec.compSeed,
  ",\"gearIlvl\":".toList, uint32Text rec.gearIlvl,
  ",\"gearQuality\":".toList, uint32Text rec.gearQuality,
  ",\"roster\":".toList, boolText rec.roster,
  ",\"comp\":".toList, bracketed compText rec.comp,
  ",\"startedAtMs\":".toList, uint64Text rec.startedAtMs,
  ",\"endedAtMs\":".toList, uint64Text rec.endedAtMs,
  ",\"durationS\":".toList, uint32Text rec.durationS,
  ",\"result\":".toList, AppendEscaped rec.result,
  ",\"failReason\":".toList, AppendEscaped rec.failReason,
  ",\"disableReason\":".toList, AppendEscaped rec.disableReason,
  ",\"bossesTotal\":".toList, uint32Text rec.bossesTotal,
  ",\"bossesKilled\":".toList, uint32Text rec.bossesKilled,
  ",\"bossRoster\":".toList, bracketed AppendEscaped rec.bossRoster,
  ",\"bossTimeline\":".toList, bracketed killText rec.bossTimeline,
  ",\"deaths\":".toList, bracketed deathText rec.deaths,
  ",\"pulls\":".toList, bracketed pullText rec.pulls,
  ",\"pullsElided\":".toList, uint32Text rec.pullsElided,
  ",\"statusTimeline\":".toList, '[' :: (timelineText rec.statusTimeline ++ [']']),
  ",\"pauses\":".toList, bracketed pauseText rec.pauses,
  ",\"finalTankPos\":".toList, posText rec,
  ",\"watchdog\":".toList, watchdogText rec,
  ",\"setupStage\":".toList, AppendEscaped rec.setupStage,
  ",\"stallAtEnd\":".toList, AppendEscaped rec.stallAtEnd,
  ",\"phaseAtEnd\":".toList, AppendEscaped rec.phaseAtEnd,
  ",\"wipeOnBoss\":".toList, boolText rec.wipeOnBoss,
  ",\"wipeOpponentEntry\":".toList, uint32Text rec.wipeOpponentEntry,
  ",\"wipeOpponent\":".toList, AppendEscaped rec.wipeOpponent,
  ",\"diag\":".toList, DcDiag.AppendJson rec.diag,
  ['\x7d']].flatten

/-! ### What stands there -/

def elided (t : UInt32) (count : Nat) : StatusEntry := ⟨t, "...".toList, Text.decimal count ++ " transitions elided".toList⟩

def keptTimeline : List StatusEntry :=
  if h : st.length ≤ kStatusHead + kStatusTail then st
  else
    st.take kStatusHead ++ elided (st.get ⟨kStatusHead, by omega⟩).t (st.length - kStatusHead - kStatusTail) ::
      st.drop (st.length - kStatusTail)

def fromJson : Json := .object [
  ("map".toList, uint32Json c.fromMap),
  ("x".toList, floatJson c.fromX), ("y".toList, floatJson c.fromY), ("z".toList, floatJson c.fromZ),
  ("o".toList, floatJson c.fromO)]

def compJson : Json := .object [
  ("name".toList, .string c.name),
  ("class".toList, .string c.className),
  ("spec".toList, .string c.spec),
  ("role".toList, .string c.role),
  ("guid".toList, uint64Json c.guid),
  ("level".toList, uint32Json c.level),
  ("detectedRole".toList, .string c.detectedRole),
  ("roleMismatch".toList, .bool c.roleMismatch),
  ("from".toList, fromJson c)]

def killJson (b : BossKill) : Json := .object [
  ("t".toList, uint32Json b.t),
  ("entry".toList, uint32Json b.entry),
  ("name".toList, .string b.name),
  ("via".toList, .string b.via)]

def deathJson (d : DeathEntry) : Json := .object [
  ("t".toList, uint32Json d.t),
  ("name".toList, .string d.name),
  ("opponent".toList, .string d.opponent),
  ("opponentEntry".toList, uint32Json d.opponentEntry),
  ("onBoss".toList, .bool d.onBoss)]

def pullJson (p : PullEntry) : Json := .object [
  ("t".toList, uint32Json p.t),
  ("entry".toList, uint32Json p.targetEntry),
  ("predicted".toList, uint32Json p.predictedCount),
  ("predictedThirds".toList, uint32Json p.predictedThirds),
  ("ceilingThirds".toList, uint32Json p.ceilingThirds),
  ("observed".toList, uint32Json p.observedMax),
  ("observedElites".toList, uint32Json p.observedElites),
  ("advanced".toList, .bool p.advanced),
  ("wipedHere".toList, .bool p.wipedHere)]

def statusJson (e : StatusEntry) : Json := .object [
  ("t".toList, uint32Json e.t),
  ("state".toList, .string e.state),
  ("detail".toList, .string e.detail)]

def pauseJson (p : PauseEntry) : Json := .object [
  ("t".toList, uint32Json p.t),
  ("reason".toList, .string p.reason)]

def posJson : Json := .object [
  ("map".toList, uint32Json rec.finalMap),
  ("x".toList, floatJson rec.finalX), ("y".toList, floatJson rec.finalY), ("z".toList, floatJson rec.finalZ)]

def watchdogJson : Json := .object [
  ("pauseGraceS".toList, uint32Json rec.pauseGraceS),
  ("stallGraceS".toList, uint32Json rec.stallGraceS),
  ("noProgressS".toList, uint32Json rec.noProgressS),
  ("overallS".toList, uint32Json rec.overallS)]

def recordJson : Json := .object [
  ("schema".toList, uint32Json rec.schema),
  ("runId".toList, .string rec.runId),
  ("planId".toList, .string rec.planId),
  ("dungeon".toList, .string rec.dungeon),
  ("dungeonName".toList, .string rec.dungeonName),
  ("wing".toList, .string rec.wing),
  ("mapId".toList, uint32Json rec.mapId),
  ("instanceId".toList, uint32Json rec.instanceId),
  ("level".toList, uint32Json rec.level),
  ("heroic".toList, .bool rec.heroic),
  ("compSeed".toList, uint32Json rec.compSeed),
  ("gearIlvl".toList, uint32Json rec.gearIlvl),
  ("gearQuality".toList, uint32Json rec.gearQuality),
  ("roster".toList, .bool rec.roster),
  ("comp".toList, .array (rec.comp.map compJson)),
  ("startedAtMs".toList, uint64Json rec.startedAtMs),
  ("endedAtMs".toList, uint64Json rec.endedAtMs),
  ("durationS".toList, uint32Json rec.durationS),
  ("result".toList, .string rec.result),
  ("failReason".toList, .string rec.failReason),
  ("disableReason".toList, .string rec.disableReason),
  ("bossesTotal".toList, uint32Json rec.bossesTotal),
  ("bossesKilled".toList, uint32Json rec.bossesKilled),
  ("bossRoster".toList, .array (rec.bossRoster.map .string)),
  ("bossTimeline".toList, .array (rec.bossTimeline.map killJson)),
  ("deaths".toList, .array (rec.deaths.map deathJson)),
  ("pulls".toList, .array (rec.pulls.map pullJson)),
  ("pullsElided".toList, uint32Json rec.pullsElided),
  ("statusTimeline".toList, .array ((keptTimeline rec.statusTimeline).map statusJson)),
  ("pauses".toList, .array (rec.pauses.map pauseJson)),
  ("finalTankPos".toList, posJson rec),
  ("watchdog".toList, watchdogJson rec),
  ("setupStage".toList, .string rec.setupStage),
  ("stallAtEnd".toList, .string rec.stallAtEnd),
  ("phaseAtEnd".toList, .string rec.phaseAtEnd),
  ("wipeOnBoss".toList, .bool rec.wipeOnBoss),
  ("wipeOpponentEntry".toList, uint32Json rec.wipeOpponentEntry),
  ("wipeOpponent".toList, .string rec.wipeOpponent),
  ("diag".toList, DcDiag.snapshotJson rec.diag)]

/-! ### What is written is that -/

theorem fromText_eq : fromText c ++ rest = write EscapeJson (fromJson c) rest := by
  unfold fromText fromJson
  rw [flatten_append]
  simp only [foldr_cons, foldr_nil]
  rfl

set_option maxRecDepth 4000 in
theorem compText_eq : compText c ++ rest = write EscapeJson (compJson c) rest := by
  unfold compText compJson
  rw [flatten_append]
  simp only [foldr_cons, foldr_nil, AppendEscaped_append, fromText_eq]
  rfl

theorem killText_eq (b : BossKill) (rest : Text) : killText b ++ rest = write EscapeJson (killJson b) rest := by
  unfold killText killJson
  rw [flatten_append]
  simp only [foldr_cons, foldr_nil, AppendEscaped_append]
  rfl

theorem deathText_eq (d : DeathEntry) (rest : Text) : deathText d ++ rest = write EscapeJson (deathJson d) rest := by
  unfold deathText deathJson
  rw [flatten_append]
  simp only [foldr_cons, foldr_nil, AppendEscaped_append]
  rfl

set_option maxRecDepth 4000 in
theorem pullText_eq (p : PullEntry) (rest : Text) : pullText p ++ rest = write EscapeJson (pullJson p) rest := by
  unfold pullText pullJson
  rw [flatten_append]
  simp only [foldr_cons, foldr_nil]
  rfl

theorem statusText_eq (e : StatusEntry) (rest : Text) : statusText e ++ rest = write EscapeJson (statusJson e) rest := by
  unfold statusText statusJson
  rw [flatten_append]
  simp only [foldr_cons, foldr_nil, AppendEscaped_append]
  rfl

theorem pauseText_eq (p : PauseEntry) (rest : Text) : pauseText p ++ rest = write EscapeJson (pauseJson p) rest := by
  unfold pauseText pauseJson
  rw [flatten_append]
  simp only [foldr_cons, foldr_nil, AppendEscaped_append]
  rfl

theorem posText_eq : posText rec ++ rest = write EscapeJson (posJson rec) rest := by
  unfold posText posJson
  rw [flatten_append]
  simp only [foldr_cons, foldr_nil]
  rfl

theorem watchdogText_eq : watchdogText rec ++ rest = write EscapeJson (watchdogJson rec) rest := by
  unfold watchdogText watchdogJson
  rw [flatten_append]
  simp only [foldr_cons, foldr_nil]
  rfl

theorem elidedText_eq (t : UInt32) (count : Nat) : elidedText t count = ',' :: statusText (elided t count) := by
  have hdetail : EscapeJson (elided t count).detail = (elided t count).detail := by
    refine EscapeJson_plain fun c hc => ?_
    rcases mem_append.1 hc with hdigit | hword
    · have hd := Text.isDigit_decimal hdigit
      have hlow : '0'.toNat ≤ c.toNat := (Char.isDigit_iff_toNat.1 hd).1
      refine ⟨?_, ?_, le_trans (by decide) hlow⟩
      · rintro rfl
        exact absurd hd (by decide)
      · rintro rfl
        exact absurd hd (by decide)
    · have hplain : Text.Plain '"' '\\' " transitions elided".toList ∧ Json.Clean " transitions elided".toList := by decide
      exact ⟨(hplain.1 c hword).1, (hplain.1 c hword).2, hplain.2 c hword⟩
  unfold elidedText statusText AppendEscaped
  rw [hdetail]
  simp only [elided, flatten_cons, flatten_nil, append_assoc, cons_append]
  rfl

theorem timelineText_eq : '[' :: (timelineText st ++ [']']) = bracketed statusText (keptTimeline st) := by
  unfold timelineText keptTimeline bracketed
  split_ifs with h
  · rfl
  have hhead : st.take kStatusHead ≠ [] := by
    have hlength : (st.take kStatusHead).length = kStatusHead := length_take_of_le (by omega)
    exact ne_nil_of_length_pos (by rw [hlength]; decide)
  rw [separated_append statusText hhead, separated, elidedText_eq]
  rfl

set_option maxRecDepth 4000 in
theorem ToJsonl_append : ToJsonl rec ++ rest = write EscapeJson (recordJson rec) rest := by
  unfold ToJsonl recordJson
  rw [flatten_append]
  simp only [foldr_cons, foldr_nil, AppendEscaped_append, bracketed_eq compText_eq, bracketed_eq AppendEscaped_append,
    bracketed_eq killText_eq, bracketed_eq deathText_eq, bracketed_eq pullText_eq, timelineText_eq, bracketed_eq statusText_eq,
    bracketed_eq pauseText_eq, posText_eq, watchdogText_eq, DcDiag.AppendJson_eq]
  rfl

/-- A long timeline keeps its head and its tail, and between them says how many entries there were. -/
theorem keptTimeline_cases : st.length ≤ kStatusHead + kStatusTail ∧ keptTimeline st = st ∨
      ∃ first skipped last t, st = first ++ (skipped ++ last) ∧ first.length = kStatusHead ∧ last.length = kStatusTail ∧ skipped ≠ [] ∧
        keptTimeline st = first ++ elided t skipped.length :: last := by
  unfold keptTimeline
  by_cases h : st.length ≤ kStatusHead + kStatusTail
  · exact .inl ⟨h, dif_pos h⟩
  rw [dif_neg h]
  have hcount : st.length - kStatusHead - kStatusTail = ((st.drop kStatusHead).take (st.length - kStatusHead - kStatusTail)).length := by
    rw [length_take, length_drop]
    omega
  refine .inr ⟨st.take kStatusHead, (st.drop kStatusHead).take (st.length - kStatusHead - kStatusTail), st.drop (st.length - kStatusTail), _,
    ?_, length_take_of_le (by omega), ?_, ?_, by rw [← hcount]⟩
  · have hlast : st.drop (st.length - kStatusTail) = (st.drop kStatusHead).drop (st.length - kStatusHead - kStatusTail) := by
      have hsum : kStatusHead + (st.length - kStatusHead - kStatusTail) = st.length - kStatusTail := by omega
      rw [drop_drop, hsum]
    rw [hlast, take_append_drop, take_append_drop]
  · rw [length_drop]
    omega
  · exact ne_nil_of_length_pos (by rw [← hcount]; omega)

set_option maxRecDepth 8000 in
theorem member_statusTimeline :
    (recordJson rec).member "statusTimeline".toList = some (.array ((keptTimeline rec.statusTimeline).map statusJson)) := rfl

/-- The line of a run is one line, which is read as what the run has left, and a long timeline in it has its head and its tail. -/
theorem ToJsonl_spec (rec : Record) : parse (ToJsonl rec) = some (recordJson rec) ∧ '\n' ∉ ToJsonl rec ∧
      (recordJson rec).member "statusTimeline".toList = some (.array ((keptTimeline rec.statusTimeline).map statusJson)) ∧
      (rec.statusTimeline.length ≤ kStatusHead + kStatusTail ∧ keptTimeline rec.statusTimeline = rec.statusTimeline ∨
        ∃ first skipped last t, rec.statusTimeline = first ++ (skipped ++ last) ∧ first.length = kStatusHead ∧ last.length = kStatusTail ∧
          skipped ≠ [] ∧ keptTimeline rec.statusTimeline = first ++ elided t skipped.length :: last) := by
  have hline : ToJsonl rec = write EscapeJson (recordJson rec) [] := by
    rw [← ToJsonl_append, append_nil]
  have hclean : Clean [] := fun c hc => absurd hc not_mem_nil
  refine ⟨?_, ?_, member_statusTimeline rec, keptTimeline_cases rec.statusTimeline⟩
  · rw [hline]
    exact parse_write reads_EscapeJson (recordJson rec)
  · rw [hline]
    exact (clean_write clean_EscapeJson (recordJson rec) hclean).newline

end ComfyCraft.DcTestRunRecord
