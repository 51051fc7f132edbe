import ComfyCraft.DungeonClear.DecisionJson

/-! Captured decisions: what a pull and an approach were decided on, one line each. The pull's are written and read with the shared writer
and parser, the approach's with copies of their own. -/

namespace ComfyCraft

open DcDecisionJson List

namespace DcPullDecisionIo

inductive PullVerdict where
  | NoOp
  | HoldNoTarget
  | DropToLeeroy
  | Leeroy
  | ApproachAsLeeroy
  | PatrolWaitHold
  | Advanced
deriving DecidableEq

structure PullObservation where
  hasTarget : Bool := false
  inCombat : Bool := false
  phaseIdle : Bool := true
  hasStandingVerdict : Bool := false
  verdictGraceExpired : Bool := false
  sameTarget : Bool := false
  currentlyAdvanced : Bool := false
  recheckElapsed : Bool := true
  advanced : Bool := false
  patrolWaitEnabled : Bool := false
  atCommitRange : Bool := false
  patrolContended : Bool := false
  patrolWaitExpired : Bool := false
deriving DecidableEq

structure PullDecisionRecord where
  guid : UInt64
  tick : UInt32
  obs : PullObservation
  verdict : PullVerdict
deriving DecidableEq

def kVerdictNames : List (PullVerdict × Text) :=
  [(.NoOp, "NoOp".toList), (.HoldNoTarget, "HoldNoTarget".toList), (.DropToLeeroy, "DropToLeeroy".toList), (.Leeroy, "Leeroy".toList),
    (.ApproachAsLeeroy, "ApproachAsLeeroy".toList), (.PatrolWaitHold, "PatrolWaitHold".toList), (.Advanced, "Advanced".toList)]

def VerdictName (v : PullVerdict) : Text := ((kVerdictNames.find? fun p => p.1 = v).map Prod.snd).getD "NoOp".toList

def VerdictFromName (name : Text) : Option PullVerdict := (kVerdictNames.find? fun p => p.2 = name).map Prod.fst

variable (rec : PullDecisionRecord)

def ToJsonl : Text :=
  Writer.new
    |>.AddUInt64 "guid".toList rec.guid
    |>.AddUInt32 "tick".toList rec.tick
    |>.AddStr "verdict".toList (VerdictName rec.verdict)
    |>.AddBool "hasTarget".toList rec.obs.hasTarget
    |>.AddBool "inCombat".toList rec.obs.inCombat
    |>.AddBool "phaseIdle".toList rec.obs.phaseIdle
    |>.AddBool "hasStandingVerdict".toList rec.obs.hasStandingVerdict
    |>.AddBool "verdictGraceExpired".toList rec.obs.verdictGraceExpired
    |>.AddBool "sameTarget".toList rec.obs.sameTarget
    |>.AddBool "currentlyAdvanced".toList rec.obs.currentlyAdvanced
    |>.AddBool "recheckElapsed".toList rec.obs.recheckElapsed
    |>.AddBool "advanced".toList rec.obs.advanced
    |>.AddBool "patrolWaitEnabled".toList rec.obs.patrolWaitEnabled
    |>.AddBool "atCommitRange".toList rec.obs.atCommitRange
    |>.AddBool "patrolContended".toList rec.obs.patrolContended
    |>.AddBool "patrolWaitExpired".toList rec.obs.patrolWaitExpired
    |>.Str

/-- The record that a line holds, if it is one; the defaults survive any field that is not there. -/
def FromJsonl (line : Text) : Option PullDecisionRecord :=
  match Parse line with
  | none => none
  | some m =>
    let vName := GetStr m "verdict".toList []
    if vName.isEmpty then none
    else
      match VerdictFromName vName with
      | none => none
      | some verdict =>
        let o : PullObservation := {}
        some
          { guid := GetU64 m "guid".toList 0
            tick := GetU m "tick".toList 0
            verdict := verdict
            obs :=
              { hasTarget := GetB m "hasTarget".toList o.hasTarget
                inCombat := GetB m "inCombat".toList o.inCombat
                phaseIdle := GetB m "phaseIdle".toList o.phaseIdle
                hasStandingVerdict := GetB m "hasStandingVerdict".toList o.hasStandingVerdict
                verdictGraceExpired := GetB m "verdictGraceExpired".toList o.verdictGraceExpired
                sameTarget := GetB m "sameTarget".toList o.sameTarget
                currentlyAdvanced := GetB m "currentlyAdvanced".toList o.currentlyAdvanced
                recheckElapsed := GetB m "recheckElapsed".toList o.recheckElapsed
                advanced := GetB m "advanced".toList o.advanced
                patrolWaitEnabled := GetB m "patrolWaitEnabled".toList o.patrolWaitEnabled
                atCommitRange := GetB m "atCommitRange".toList o.atCommitRange
                patrolContended := GetB m "patrolContended".toList o.patrolContended
                patrolWaitExpired := GetB m "patrolWaitExpired".toList o.patrolWaitExpired } }

def fields : List (Text × Value) :=
  [("guid".toList, .number rec.guid.toNat), ("tick".toList, .number rec.tick.toNat), ("verdict".toList, .name (VerdictName rec.verdict)),
    ("hasTarget".toList, .flag rec.obs.hasTarget), ("inCombat".toList, .flag rec.obs.inCombat),
    ("phaseIdle".toList, .flag rec.obs.phaseIdle), ("hasStandingVerdict".toList, .flag rec.obs.hasStandingVerdict),
    ("verdictGraceExpired".toList, .flag rec.obs.verdictGraceExpired), ("sameTarget".toList, .flag rec.obs.sameTarget),
    ("currentlyAdvanced".toList, .flag rec.obs.currentlyAdvanced), ("recheckElapsed".toList, .flag rec.obs.recheckElapsed),
    ("advanced".toList, .flag rec.obs.advanced), ("patrolWaitEnabled".toList, .flag rec.obs.patrolWaitEnabled),
    ("atCommitRange".toList, .flag rec.obs.atCommitRange), ("patrolContended".toList, .flag rec.obs.patrolContended),
    ("patrolWaitExpired".toList, .flag rec.obs.patrolWaitExpired)]

theorem ToJsonl_eq : ToJsonl rec = line (fields rec) := by
  obtain ⟨hs, -⟩ := foldl_AddText ((fields rec).map fun f => (f.1, f.2.text))
  rw [map_map] at hs
  unfold line
  exact congrArg (· ++ ['\x7d']) hs

theorem comma_notMem_VerdictName (v : PullVerdict) : ',' ∉ VerdictName v := by
  cases v <;> decide +kernel

theorem fields_distinct : Distinct (fields rec) := by
  have hkeys : (fields rec).map Prod.fst = (fields ⟨0, 0, {}, .NoOp⟩).map Prod.fst := rfl
  refine ⟨?_, ?_, ?_⟩
  · rw [hkeys]
    decide +kernel
  · rw [hkeys]
    decide +kernel
  · simp [fields, Value.Plain, comma_notMem_VerdictName]

theorem VerdictName_read (v : PullVerdict) : (VerdictName v).isEmpty = false ∧ VerdictFromName (VerdictName v) = some v := by
  cases v <;> decide +kernel

theorem VerdictFromName_eq_some {name : Text} {v : PullVerdict} (h : VerdictFromName name = some v) : name = VerdictName v := by
  obtain ⟨p, hfind, rfl⟩ := Option.map_eq_some_iff.1 h
  have htable : ∀ p ∈ kVerdictNames, p.2 = VerdictName p.1 := by decide +kernel
  have hname : p.2 = name := by simpa using find?_some hfind
  rw [← hname]
  exact htable p (mem_of_find?_eq_some hfind)

theorem FromJsonl_ToJsonl : FromJsonl (ToJsonl rec) = some rec := by
  obtain ⟨m, hparse, -, hfound⟩ := Parse_written (fields_distinct rec)
  have hverdict : GetStr m "verdict".toList [] = VerdictName rec.verdict := by
    unfold GetStr
    rw [hfound 2 _ _ rfl, Value.text, Trim_quoted]
    rfl
  have hflag : ∀ (i : Nat) key b, (fields rec)[i]? = some (key, .flag b) → ∀ fallback, GetB m key fallback = b := fun i key b h =>
    GetB_found (hfound i key _ h)
  obtain ⟨hsome, hread⟩ := VerdictName_read rec.verdict
  unfold FromJsonl
  rw [ToJsonl_eq, hparse]
  dsimp only
  rw [hverdict, hsome, if_neg Bool.false_ne_true, hread]
  rw [GetU64_found (hfound 0 _ _ rfl), GetU_found (hfound 1 _ _ rfl), hflag 3 _ rec.obs.hasTarget rfl, hflag 4 _ rec.obs.inCombat rfl,
    hflag 5 _ rec.obs.phaseIdle rfl, hflag 6 _ rec.obs.hasStandingVerdict rfl, hflag 7 _ rec.obs.verdictGraceExpired rfl,
    hflag 8 _ rec.obs.sameTarget rfl, hflag 9 _ rec.obs.currentlyAdvanced rfl, hflag 10 _ rec.obs.recheckElapsed rfl,
    hflag 11 _ rec.obs.advanced rfl, hflag 12 _ rec.obs.patrolWaitEnabled rfl, hflag 13 _ rec.obs.atCommitRange rfl,
    hflag 14 _ rec.obs.patrolContended rfl, hflag 15 _ rec.obs.patrolWaitExpired rfl]

theorem FromJsonl_verdict {line : Text} {rec : PullDecisionRecord} (h : FromJsonl line = some rec) :
    ∃ m, Parse line = some m ∧ m "verdict".toList = some (VerdictName rec.verdict) := by
  unfold FromJsonl at h
  cases hm : Parse line with
  | none =>
    rw [hm] at h
    cases h
  | some m =>
    rw [hm] at h
    dsimp only at h
    split_ifs at h with hempty
    cases hv : VerdictFromName (GetStr m "verdict".toList []) with
    | none =>
      rw [hv] at h
      cases h
    | some v =>
      rw [hv] at h
      cases h
      refine ⟨m, rfl, ?_⟩
      have hname := VerdictFromName_eq_some hv
      unfold GetStr at hname hempty
      cases hget : m "verdict".toList with
      | none =>
        rw [hget] at hempty
        exact absurd rfl hempty
      | some name =>
        rw [hget] at hname
        exact congrArg some hname

end DcPullDecisionIo

namespace DungeonClearApproachIo

inductive Verdict where
  | StuckRecover
  | Pursue
  | PlanRouteWait
  | FarFromPolyRecover
  | Swim
  | Stall
  | OffPathRebuild
  | RebuildAndYield
  | FinalApproach
  | JumpLeg
  | RideLiveGlide
  | OffLineRejoin
  | IssueSplineWindow
  | MoveToFallback
deriving DecidableEq

structure Observation (F : Type) [Zero F] where
  engageDist : F := 0
  engageRange : F := 0
  posStuckTicks : UInt32 := 0
  canPursue : Bool := false
  pursuitFailTicks : UInt32 := 0
  allowRecoveryMoves : Bool := true
  pathReachable : Bool := true
  asyncPending : Bool := false
  startFarFromPoly : Bool := false
  waterBetween : Bool := false
  offPath : Bool := false
  hopDone : Bool := false
  hopIsJump : Bool := false
  doneNotEngagedTicks : UInt32 := 0
  splineRunning : Bool := false
  offLine : Bool := false
  haveSplineWindow : Bool := false
  stuckTickLimit : UInt32 := 0
  pursuitFailLimit : UInt32 := 0
  doneNotEngagedLimit : UInt32 := 0

structure DecisionRecord (F : Type) [Zero F] where
  guid : UInt64
  tick : UInt32
  obs : Observation F
  verdict : Verdict

/-- How a `float` is printed with nine digits and read again: a word without a comma, which, trimmed, is read as the number it was. -/
structure FloatFormat (F : Type) where
  print : F → Text
  strtof : Text → F
  plain : ∀ x, ',' ∉ print x
  round : ∀ x, strtof (Trim (print x)) = x

def wholeNumbers : FloatFormat UInt32 where
  print x := Text.decimal x.toNat
  strtof t := UInt32.ofNat (Text.strtoul t)
  plain _ hc := absurd (Text.isDigit_decimal hc) (by decide)
  round x := by
    have hlt := x.toNat_lt
    rw [Trim_decimal, Text.strtoul_decimal (by omega), UInt32.ofNat_toNat]

def kVerdictNames : List (Verdict × Text) :=
  [(.StuckRecover, "StuckRecover".toList), (.Pursue, "Pursue".toList), (.PlanRouteWait, "PlanRouteWait".toList),
    (.FarFromPolyRecover, "FarFromPolyRecover".toList), (.Swim, "Swim".toList), (.Stall, "Stall".toList),
    (.OffPathRebuild, "OffPathRebuild".toList), (.RebuildAndYield, "RebuildAndYield".toList), (.FinalApproach, "FinalApproach".toList),
    (.JumpLeg, "JumpLeg".toList), (.RideLiveGlide, "RideLiveGlide".toList), (.OffLineRejoin, "OffLineRejoin".toList),
    (.IssueSplineWindow, "IssueSplineWindow".toList), (.MoveToFallback, "MoveToFallback".toList)]

def VerdictName (v : Verdict) : Text := ((kVerdictNames.find? fun p => p.1 = v).map Prod.snd).getD "MoveToFallback".toList

def VerdictFromName (name : Text) : Option Verdict := (kVerdictNames.find? fun p => p.2 = name).map Prod.fst

def boolText (b : Bool) : Text := if b then "true".toList else "false".toList

/-- The text between one value and the next: a comma, and the key in quotes with its colon. -/
def label (key : Text) : Text := ',' :: '"' :: key ++ "\":".toList

section Io

variable {F : Type} [Zero F] (format : FloatFormat F)

variable (rec : DecisionRecord F)

def ToJsonl : Text :=
  [['\x7b'],
    '"' :: "guid".toList ++ "\":".toList, Text.decimal rec.guid.toNat,
    label "tick".toList, Text.decimal rec.tick.toNat,
    label "verdict".toList, ['"'], VerdictName rec.verdict, ['"'],
    label "engageDist".toList, format.print rec.obs.engageDist,
    label "engageRange".toList, format.print rec.obs.engageRange,
    label "posStuckTicks".toList, Text.decimal rec.obs.posStuckTicks.toNat,
    label "canPursue".toList, boolText rec.obs.canPursue,
    label "pursuitFailTicks".toList, Text.decimal rec.obs.pursuitFailTicks.toNat,
    label "allowRecoveryMoves".toList, boolText rec.obs.allowRecoveryMoves,
    label "pathReachable".toList, boolText rec.obs.pathReachable,
    label "asyncPending".toList, boolText rec.obs.asyncPending,
    label "startFarFromPoly".toList, boolText rec.obs.startFarFromPoly,
    label "waterBetween".toList, boolText rec.obs.waterBetween,
    label "offPath".toList, boolText rec.obs.offPath,
    label "hopDone".toList, boolText rec.obs.hopDone,
    label "hopIsJump".toList, boolText rec.obs.hopIsJump,
    label "doneNotEngagedTicks".toList, Text.decimal rec.obs.doneNotEngagedTicks.toNat,
    label "splineRunning".toList, boolText rec.obs.splineRunning,
    label "offLine".toList, boolText rec.obs.offLine,
    label "haveSplineWindow".toList, boolText rec.obs.haveSplineWindow,
    label "stuckTickLimit".toList, Text.decimal rec.obs.stuckTickLimit.toNat,
    label "pursuitFailLimit".toList, Text.decimal rec.obs.pursuitFailLimit.toNat,
    label "doneNotEngagedLimit".toList, Text.decimal rec.obs.doneNotEngagedLimit.toNat,
    ['\x7d']].flatten

/-- `Trim`, `ParseFlat` and the functions that read fields are word for word copies of the shared ones. -/
def Trim (s : Text) : Text := DcDecisionJson.Trim s

def ParseFlat (body : Text) : Fields := DcDecisionJson.ParseFlat body

def FromJsonl (line : Text) : Option (DecisionRecord F) :=
  let body := Trim line
  if body.length < 2 || body.head? ≠ some '\x7b' || body.getLast? ≠ some '\x7d' then none
  else
    let m := ParseFlat body.tail.dropLast
    match m "verdict".toList with
    | none => none
    | some name =>
      match VerdictFromName name with
      | none => none
      | some verdict =>
        let o : Observation F := {}
        some
          { guid := GetU64 m "guid".toList 0
            tick := GetU m "tick".toList 0
            verdict := verdict
            obs :=
              { engageDist := GetF format.strtof m "engageDist".toList o.engageDist
                engageRange := GetF format.strtof m "engageRange".toList o.engageRange
                posStuckTicks := GetU m "posStuckTicks".toList o.posStuckTicks
                canPursue := GetB m "canPursue".toList o.canPursue
                pursuitFailTicks := GetU m "pursuitFailTicks".toList o.pursuitFailTicks
                allowRecoveryMoves := GetB m "allowRecoveryMoves".toList o.allowRecoveryMoves
                pathReachable := GetB m "pathReachable".toList o.pathReachable
                asyncPending := GetB m "asyncPending".toList o.asyncPending
                startFarFromPoly := GetB m "startFarFromPoly".toList o.startFarFromPoly
                waterBetween := GetB m "waterBetween".toList o.waterBetween
                offPath := GetB m "offPath".toList o.offPath
                hopDone := GetB m "hopDone".toList o.hopDone
                hopIsJump := GetB m "hopIsJump".toList o.hopIsJump
                doneNotEngagedTicks := GetU m "doneNotEngagedTicks".toList o.doneNotEngagedTicks
                splineRunning := GetB m "splineRunning".toList o.splineRunning
                offLine := GetB m "offLine".toList o.offLine
                haveSplineWindow := GetB m "haveSplineWindow".toList o.haveSplineWindow
                stuckTickLimit := GetU m "stuckTickLimit".toList o.stuckTickLimit
                pursuitFailLimit := GetU m "pursuitFailLimit".toList o.pursuitFailLimit
                doneNotEngagedLimit := GetU m "doneNotEngagedLimit".toList o.doneNotEngagedLimit } }

def fields : List (Text × Value) :=
  [("guid".toList, .number rec.guid.toNat), ("tick".toList, .number rec.tick.toNat), ("verdict".toList, .name (VerdictName rec.verdict)),
    ("engageDist".toList, .token (format.print rec.obs.engageDist)), ("engageRange".toList, .token (format.print rec.obs.engageRange)),
    ("posStuckTicks".toList, .number rec.obs.posStuckTicks.toNat), ("canPursue".toList, .flag rec.obs.canPursue),
    ("pursuitFailTicks".toList, .number rec.obs.pursuitFailTicks.toNat), ("allowRecoveryMoves".toList, .flag rec.obs.allowRecoveryMoves),
    ("pathReachable".toList, .flag rec.obs.pathReachable), ("asyncPending".toList, .flag rec.obs.asyncPending),
    ("startFarFromPoly".toList, .flag rec.obs.startFarFromPoly), ("waterBetween".toList, .flag rec.obs.waterBetween),
    ("offPath".toList, .flag rec.obs.offPath), ("hopDone".toList, .flag rec.obs.hopDone),
    ("hopIsJump".toList, .flag rec.obs.hopIsJump), ("doneNotEngagedTicks".toList, .number rec.obs.doneNotEngagedTicks.toNat),
    ("splineRunning".toList, .flag rec.obs.splineRunning), ("offLine".toList, .flag rec.obs.offLine),
    ("haveSplineWindow".toList, .flag rec.obs.haveSplineWindow), ("stuckTickLimit".toList, .number rec.obs.stuckTickLimit.toNat),
    ("pursuitFailLimit".toList, .number rec.obs.pursuitFailLimit.toNat), ("doneNotEngagedLimit".toList, .number rec.obs.doneNotEngagedLimit.toNat)]

theorem ToJsonl_eq : ToJsonl format rec = line (fields format rec) := by
  simp only [ToJsonl, line, fields, joined, fieldText, Value.text, boolText, label, map_cons, map_nil, flatten_cons,
    flatten_nil, append_assoc, cons_append, nil_append, append_nil]

theorem comma_notMem_VerdictName (v : Verdict) : ',' ∉ VerdictName v := by
  cases v <;> decide +kernel

theorem fields_distinct : Distinct (fields format rec) := by
  have hkeys : (fields format rec).map Prod.fst = (fields wholeNumbers ⟨0, 0, {}, .Swim⟩).map Prod.fst := rfl
  refine ⟨?_, ?_, ?_⟩
  · rw [hkeys]
    decide +kernel
  · rw [hkeys]
    decide +kernel
  · simp [fields, Value.Plain, comma_notMem_VerdictName, format.plain]

theorem VerdictFromName_VerdictName (v : Verdict) : VerdictFromName (VerdictName v) = some v := by
  cases v <;> decide +kernel

theorem VerdictFromName_eq_some {name : Text} {v : Verdict} (h : VerdictFromName name = some v) : name = VerdictName v := by
  obtain ⟨p, hfind, rfl⟩ := Option.map_eq_some_iff.1 h
  have htable : ∀ p ∈ kVerdictNames, p.2 = VerdictName p.1 := by decide +kernel
  have hname : p.2 = name := by simpa using find?_some hfind
  rw [← hname]
  exact htable p (mem_of_find?_eq_some hfind)

theorem FromJsonl_ToJsonl : FromJsonl format (ToJsonl format rec) = some rec := by
  obtain ⟨m, -, hparse, hfound⟩ := Parse_written (fields_distinct format rec)
  have hverdict : m "verdict".toList = some (VerdictName rec.verdict) := by
    rw [hfound 2 _ _ rfl, Value.text, Trim_quoted]
  have hflag : ∀ (i : Nat) key b, (fields format rec)[i]? = some (key, .flag b) → ∀ fallback, GetB m key fallback = b := fun i key b h =>
    GetB_found (hfound i key _ h)
  have hnumber : ∀ (i : Nat) key (v : UInt32), (fields format rec)[i]? = some (key, .number v.toNat) → ∀ fallback, GetU m key fallback = v :=
    fun i key v h => GetU_found (hfound i key _ h)
  have hfloat : ∀ (i : Nat) key x, (fields format rec)[i]? = some (key, .token (format.print x)) →
      ∀ fallback, GetF format.strtof m key fallback = x := by
    intro i key x h fallback
    unfold GetF
    rw [hfound i key _ h, Value.text, Option.map_some, format.round]
    rfl
  have hline : Trim (line (fields format rec)) = line (fields format rec) := Trim_line _
  have hlast : (line (fields format rec)).getLast? = some '\x7d' := getLast?_concat
  have hbraces : ((line (fields format rec)).length < 2 || (line (fields format rec)).head? ≠ some '\x7b' ||
      (line (fields format rec)).getLast? ≠ some '\x7d') = false := by
    rw [hlast]
    simp [line]
  have hbody : ParseFlat (line (fields format rec)).tail.dropLast = m := hparse
  unfold FromJsonl
  rw [ToJsonl_eq]
  dsimp only
  rw [hline, hbraces, if_neg Bool.false_ne_true, hbody, hverdict]
  dsimp only
  rw [VerdictFromName_VerdictName]
  rw [GetU64_found (hfound 0 _ _ rfl), GetU_found (hfound 1 _ _ rfl), hfloat 3 _ rec.obs.engageDist rfl,
    hfloat 4 _ rec.obs.engageRange rfl, hnumber 5 _ rec.obs.posStuckTicks rfl, hflag 6 _ rec.obs.canPursue rfl,
    hnumber 7 _ rec.obs.pursuitFailTicks rfl, hflag 8 _ rec.obs.allowRecoveryMoves rfl, hflag 9 _ rec.obs.pathReachable rfl,
    hflag 10 _ rec.obs.asyncPending rfl, hflag 11 _ rec.obs.startFarFromPoly rfl, hflag 12 _ rec.obs.waterBetween rfl,
    hflag 13 _ rec.obs.offPath rfl, hflag 14 _ rec.obs.hopDone rfl, hflag 15 _ rec.obs.hopIsJump rfl,
    hnumber 16 _ rec.obs.doneNotEngagedTicks rfl, hflag 17 _ rec.obs.splineRunning rfl, hflag 18 _ rec.obs.offLine rfl,
    hflag 19 _ rec.obs.haveSplineWindow rfl, hnumber 20 _ rec.obs.stuckTickLimit rfl, hnumber 21 _ rec.obs.pursuitFailLimit rfl,
    hnumber 22 _ rec.obs.doneNotEngagedLimit rfl]

theorem FromJsonl_verdict {line : Text} {rec : DecisionRecord F} (h : FromJsonl format line = some rec) :
    ParseFlat (Trim line).tail.dropLast "verdict".toList = some (VerdictName rec.verdict) := by
  unfold FromJsonl at h
  dsimp only at h
  split_ifs at h with hbraces
  cases hname : ParseFlat (Trim line).tail.dropLast "verdict".toList with
  | none =>
    rw [hname] at h
    cases h
  | some name =>
    rw [hname] at h
    dsimp only at h
    cases hv : VerdictFromName name with
    | none =>
      rw [hv] at h
      cases h
    | some v =>
      rw [hv] at h
      cases h
      exact congrArg some (VerdictFromName_eq_some hv)

end Io

end DungeonClearApproachIo

/-- Either kind of record is read back from its line as it was, and no line is read whose verdict is missing or none of the names. -/
theorem decisions_round_trip {F : Type} [Zero F] (format : DungeonClearApproachIo.FloatFormat F) :
    (∀ rec, DcPullDecisionIo.FromJsonl (DcPullDecisionIo.ToJsonl rec) = some rec) ∧
      (∀ rec, DungeonClearApproachIo.FromJsonl format (DungeonClearApproachIo.ToJsonl format rec) = some rec) ∧
      (∀ line, (∀ m, Parse line = some m → ∀ v, m "verdict".toList ≠ some (DcPullDecisionIo.VerdictName v)) →
        DcPullDecisionIo.FromJsonl line = none) ∧
      ∀ line, (∀ v, DungeonClearApproachIo.ParseFlat (DungeonClearApproachIo.Trim line).tail.dropLast "verdict".toList ≠
        some (DungeonClearApproachIo.VerdictName v)) → DungeonClearApproachIo.FromJsonl format line = none := by
  refine ⟨DcPullDecisionIo.FromJsonl_ToJsonl, DungeonClearApproachIo.FromJsonl_ToJsonl format, fun line hline => ?_, fun line hline => ?_⟩
  · cases hread : DcPullDecisionIo.FromJsonl line with
    | none => rfl
    | some rec =>
      obtain ⟨m, hm, hverdict⟩ := DcPullDecisionIo.FromJsonl_verdict hread
      exact absurd hverdict (hline m hm rec.verdict)
  · cases hread : DungeonClearApproachIo.FromJsonl format line with
    | none => rfl
    | some rec => exact absurd (DungeonClearApproachIo.FromJsonl_verdict format hread) (hline rec.verdict)

end ComfyCraft
