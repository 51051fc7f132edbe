import ComfyCraft.Lib.Table

/-! The loot rolls of a group: a roll keeps the votes of the players who may roll, and beside them how many may roll and
how many have chosen each kind. -/

namespace ComfyCraft

inductive RollVote
  | pass | need | greed | notEmitedYet | notValid
deriving DecidableEq

/-- The `rollType` of a loot roll packet; what is not one is not looked at. -/
def RollVote.ofClient : Nat → Option RollVote
  | 0 => some .pass
  | 1 => some .need
  | 2 => some .greed
  | _ => none

/-- `loot` is the loot the roll is linked to while that exists. -/
structure Roll where
  lootedTarget : Nat
  itemSlot : Nat
  loot : Option Nat
  playerVote : Table Nat RollVote
  totalPlayersRolling : UInt8
  totalNeed : UInt8
  totalGreed : UInt8
  totalPass : UInt8

namespace Roll

variable (r : Roll) (guid : Nat)

def isValid : Bool := r.loot.isSome

def allVoted : Bool := r.totalPlayersRolling.toNat ≤ r.totalPass.toNat + r.totalNeed.toNat + r.totalGreed.toNat

def countVote : RollVote → Roll
  | .pass => { r with totalPass := r.totalPass + 1, playerVote := r.playerVote.insert guid .pass }
  | .need => { r with totalNeed := r.totalNeed + 1, playerVote := r.playerVote.insert guid .need }
  | .greed => { r with totalGreed := r.totalGreed + 1, playerVote := r.playerVote.insert guid .greed }
  | _ => r

/-- `CountRollVote`, where `items` is how many items a loot has: the roll afterwards, and whether it was counted out. -/
def countRollVote (items : Nat → Nat) (r : Roll) (guid : Nat) (vote : RollVote) : Roll × Bool :=
  match r.playerVote.lookup guid with
  | none => (r, false)
  | some _ =>
    if r.loot.any fun loot => items loot = 0 then (r, false)
    else (r.countVote guid vote, (r.countVote guid vote).allVoted)

/-- What `_removeRolls` takes out of a roll when a player leaves. -/
def removePlayer (vote : RollVote) : Roll :=
  { r with
    totalGreed := if vote = .greed then r.totalGreed - 1 else r.totalGreed
    totalNeed := if vote = .need then r.totalNeed - 1 else r.totalNeed
    totalPass := if vote = .pass then r.totalPass - 1 else r.totalPass
    totalPlayersRolling := if vote ≠ .notValid then r.totalPlayersRolling - 1 else r.totalPlayersRolling
    playerVote := r.playerVote.erase guid }

/-- The loop of `StartLootRoll` over the players who may roll. -/
def enter : Roll :=
  { r with totalPlayersRolling := r.totalPlayersRolling + 1, playerVote := r.playerVote.insert guid .notEmitedYet }

/-- The highest number among those who chose `vote`, and who has it; the first player of the roll before any. -/
def highest (dice : Nat → Nat) (vote : RollVote) : Option (Nat × Nat) :=
  match r.playerVote.entries with
  | [] => none
  | first :: rest =>
    some ((first :: rest).foldl (fun best e => if e.2 = vote ∧ best.2 < dice e.1 then (e.1, dice e.1) else best) (first.1, 0))

end Roll

structure RollGroup where
  raid : Bool
  battleground : Bool
  members : List Nat
  rolls : List Roll
  items : Nat → Nat

inductive RollEvent
  | addMember (guid : Nat)
  | convertToRaid
  | fillLoot (loot count : Nat)
  | clearLoot (loot : Nat)
  | startLootRoll (lootedTarget loot itemSlot : Nat) (allowed : List Nat)
  | lootRoll (guid lootedTarget itemSlot rollType : Nat)
  | removeMember (guid : Nat)
  | endRoll (loot : Nat)

namespace RollGroup

def start (battleground : Bool) : RollGroup := ⟨battleground, battleground, [], [], fun _ => 0⟩

variable (g : RollGroup)

def isFull : Bool := if g.raid then 40 ≤ g.members.length else 5 ≤ g.members.length

def membersMinCount : Nat := if g.battleground then 1 else 2

/-- The vote of a player goes to the first roll for the slot; counted out rolls come first. -/
def voteFirst (items : Nat → Nat) (lootedTarget itemSlot guid : Nat) (vote : RollVote) : List Roll → List Roll × List Roll
  | [] => ([], [])
  | r :: rs =>
    if r.isValid ∧ r.lootedTarget = lootedTarget ∧ r.itemSlot = itemSlot then
      match r.countRollVote items guid vote with
      | (r', true) => ([r'], rs)
      | (r', false) => ([], r' :: rs)
    else ((voteFirst items lootedTarget itemSlot guid vote rs).1, r :: (voteFirst items lootedTarget itemSlot guid vote rs).2)

/-- `_removeRolls`: where the iterator is not moved on, the same roll is met once more without the player. -/
def removeRolls (items : Nat → Nat) (guid : Nat) : List Roll → List Roll × List Roll
  | [] => ([], [])
  | r :: rs =>
    match r.playerVote.lookup guid with
    | none => ((removeRolls items guid rs).1, r :: (removeRolls items guid rs).2)
    | some vote =>
      match (r.removePlayer guid vote).countRollVote items guid .notEmitedYet with
      | (r', true) => (r' :: (removeRolls items guid rs).1, (removeRolls items guid rs).2)
      | (r', false) => ((removeRolls items guid rs).1, r' :: (removeRolls items guid rs).2)

def startLootRoll (lootedTarget loot itemSlot : Nat) (allowed : List Nat) : RollGroup :=
  if g.items loot ≤ itemSlot then g
  else
    let r := (g.members.filter (· ∈ allowed)).foldl Roll.enter ⟨lootedTarget, itemSlot, some loot, ∅, 0, 0, 0, 0⟩
    if 0 < r.totalPlayersRolling then { g with rolls := g.rolls ++ [r] } else g

def call : RollEvent → List Roll × RollGroup
  | .addMember guid => ([], if g.isFull ∨ guid ∈ g.members then g else { g with members := g.members ++ [guid] })
  | .convertToRaid => ([], { g with raid := true })
  | .fillLoot loot count => ([], { g with items := Function.update g.items loot (g.items loot + count) })
  | .clearLoot loot =>
    ([], { g with
      items := Function.update g.items loot 0
      rolls := g.rolls.map fun r => if r.loot = some loot then { r with loot := none } else r })
  | .startLootRoll lootedTarget loot itemSlot allowed => ([], g.startLootRoll lootedTarget loot itemSlot allowed)
  | .lootRoll guid lootedTarget itemSlot rollType =>
    match RollVote.ofClient rollType with
    | none => ([], g)
    | some vote =>
      if guid ∈ g.members then
        ((voteFirst g.items lootedTarget itemSlot guid vote g.rolls).1,
          { g with rolls := (voteFirst g.items lootedTarget itemSlot guid vote g.rolls).2 })
      else ([], g)
  | .removeMember guid =>
    if g.membersMinCount < g.members.length then
      ((removeRolls g.items guid g.rolls).1,
        { g with members := g.members.erase guid, rolls := (removeRolls g.items guid g.rolls).2 })
    else (g.rolls, { g with members := [], rolls := [] })
  | .endRoll loot =>
    (g.rolls.filter fun r => r.loot = some loot, { g with rolls := g.rolls.filter fun r => r.loot ≠ some loot })

def step (e : RollEvent) : RollGroup := (g.call e).2

end RollGroup

end ComfyCraft
