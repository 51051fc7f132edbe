import ComfyCraft.GuildBank.Conserve
import Mathlib.Algebra.BigOperators.Fin

/-! A guild bank and the players who send it messages. The players are indexed by an arbitrary type;
a message is handled with the bags of its sender, and those of everybody else stay as they are. -/

namespace ComfyCraft

open Function Runs Finset World

variable {om : ObjectMgr} {ι : Type}

structure Realm (om : ObjectMgr) (ι : Type) where
  players : ι → Player om
  bank : GuildBank om
  db : CharacterDatabase

structure ItemMessage (ι : Type) where
  who : ι
  ctx : Ctx
  text : String
  commands : List Command
  params : List Int

namespace Realm

def seenBy (s : Realm om ι) (who : ι) : World om := ⟨s.players who, s.bank, s.db, []⟩

/-- The pieces of a template in the bags of the players `S` and in the bank. -/
def total (S : Finset ι) (s : Realm om ι) (e : UInt32) : Nat := (∑ i ∈ S, (s.players i).holds e) + s.bank.holds e

/-- Every command the message runs, it runs in circumstances in which the command keeps every piece. -/
def Fits (s : Realm om ι) (m : ItemMessage ι) : Prop :=
  m.ctx.canUseGuildBank = true → s.bank.bSaveLock = false → s.bank.bTabs ≠ 0 →
    Runs.Admitted (World.runCommand m.ctx m.text m.params) (World.CommandFits m.ctx m.text m.params) (s.seenBy m.who)
      (World.handlers.filter (· ∈ m.commands))

variable {s : Realm om ι} {m : ItemMessage ι}

theorem total_handle_world (e : UInt32) (hf : Fits s m) :
    (World.handleAddonMessages m.ctx (s.seenBy m.who) (.command m.text m.commands m.params)).total e =
      (s.seenBy m.who).total e := by
  unfold handleAddonMessages
  simp only
  split_ifs with h1 h2 h3
  · rfl
  · rfl
  · rfl
  · have hadm := hf (by simpa using h1) (by simpa [seenBy] using h2) h3
    exact constant (f := fun w : World om => w.total e) (fun w cmd hcmd => total_runCommand e hcmd) hadm

variable [DecidableEq ι]

def handle (s : Realm om ι) (m : ItemMessage ι) : Realm om ι :=
  let w := World.handleAddonMessages m.ctx (s.seenBy m.who) (.command m.text m.commands m.params)
  ⟨Function.update s.players m.who w.player, w.bank, w.db⟩

theorem total_handle {S : Finset ι} (e : UInt32) (hS : m.who ∈ S) (hf : Fits s m) : (s.handle m).total S e = s.total S e := by
  have hw := total_handle_world e hf
  unfold World.total at hw
  unfold total handle
  simp only
  generalize World.handleAddonMessages m.ctx (s.seenBy m.who) (.command m.text m.commands m.params) = w at hw ⊢
  have hsum : ∀ f : ι → Player om, ∑ i ∈ S, (f i).holds e = (f m.who).holds e + ∑ i ∈ S.erase m.who, (f i).holds e :=
    fun f => (add_sum_erase S _ hS).symm
  rw [hsum, hsum s.players, update_self]
  have hrest : ∑ i ∈ S.erase m.who, (update s.players m.who w.player i).holds e =
      ∑ i ∈ S.erase m.who, (s.players i).holds e := by
    apply sum_congr rfl
    intro i hi
    rw [update_of_ne (ne_of_mem_erase hi)]
  rw [hrest]
  unfold seenBy at hw
  simp only at hw
  omega

/-- In a run of item messages whose commands all fit, no piece of any template is made or lost: after
every message the players who act and the bank hold together what they held before the first one. -/
theorem items_conserved {S : Finset ι} {s : Realm om ι} {ms : List (ItemMessage ι)} (hS : ∀ m ∈ ms, m.who ∈ S)
    (hf : Runs.Admitted handle Fits s ms) (e : UInt32) (n : Nat) :
    (Runs.run handle s (ms.take n)).total S e = s.total S e := by
  have hadm : Admitted handle (fun s m => m.who ∈ S ∧ Fits s m) s (ms.take n) :=
    (hf.imp_mem fun _ m hm h => ⟨hS m hm, h⟩).take n
  exact constant (f := fun s : Realm om ι => s.total S e) (fun s m hm => total_handle e hm.1 hm.2) hadm

def sample : Realm Sample.objectMgr Unit := ⟨fun _ => Sample.player, Sample.bank, Sample.db⟩

def sampleMessage (text : String) (cmd : Command) (params : List Int) : ItemMessage Unit :=
  ⟨(), Sample.ctx, text, [cmd], params⟩

theorem fits_sampleMessage {s : Realm om Unit} {text : String} {cmd : Command} {params : List Int}
    (h : World.CommandFits Sample.ctx text params (s.seenBy ()) cmd) : Fits s (sampleMessage text cmd params) := by
  intro _ _ _
  cases cmd <;> exact ⟨h, trivial⟩

/-- Three of the five pieces are deposited and then moved to another slot. -/
theorem items_conserved_sample : (Runs.run handle sample ([sampleMessage "DepositItem:0:1:1:1:3" .depositItem [0, 1, 1, 1, 3],
      sampleMessage "MoveItem:1:1:2" .moveItem [1, 1, 2]].take 2)).total {()} 1 = sample.total {()} 1 := by
  have hf : Runs.Admitted handle Fits sample [sampleMessage "DepositItem:0:1:1:1:3" .depositItem [0, 1, 1, 1, 3],
      sampleMessage "MoveItem:1:1:2" .moveItem [1, 1, 2]] := by
    refine ⟨fits_sampleMessage ?_, fits_sampleMessage ?_, trivial⟩
    · intro r hr
      cases hr
      exact ⟨by decide, fun h => absurd h (by decide)⟩
    · intro r hr d dItem hd
      cases hr
      cases hd
  exact items_conserved (fun _ _ => mem_singleton_self _) hf 1 2

/-- A deposit of ten pieces into a free slot is accepted from a stack of five: the bank has ten and the
stack is left with what is missing to 2 ^ 32. -/
theorem deposit_makes_pieces :
    ¬ (sample.handle (sampleMessage "DepositItem:0:1:1:1:10" .depositItem [0, 1, 1, 1, 10])).total {()} 1 =
      sample.total {()} 1 := by
  decide +kernel

end Realm

end ComfyCraft
