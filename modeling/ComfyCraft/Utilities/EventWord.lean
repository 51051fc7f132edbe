import ComfyCraft.Utilities.EventMap
import Mathlib.Data.Nat.Bitwise

/-! What is in the word of an event, bit by bit: the id below bit 16, one bit for the group and one for the phase. Every
test that an operation makes of a word is then a statement about the id, the group or the phase. -/

namespace ComfyCraft

open UInt32 Nat

namespace EventMap

variable {n w group : UInt32}

theorem testBit_flag (hn : n.toNat < 32) (i : Nat) : ((1 : UInt32) <<< n).toNat.testBit i = decide (n.toNat = i) := by
  have hpow : 2 ^ n.toNat < 2 ^ 32 := Nat.pow_lt_pow_right (by decide) hn
  have hval : ((1 : UInt32) <<< n).toNat = 2 ^ n.toNat := by
    rw [UInt32.toNat_shiftLeft, Nat.mod_eq_of_lt hn, Nat.shiftLeft_eq, UInt32.toNat_one, Nat.one_mul, Nat.mod_eq_of_lt hpow]
  rw [hval, testBit_two_pow]

theorem and_eq_zero_iff {v : UInt32} : v &&& w = 0 ↔ ∀ i, ¬ (v.toNat.testBit i = true ∧ w.toNat.testBit i = true) := by
  have hzero : v &&& w = 0 ↔ v.toNat &&& w.toNat = 0 := by
    rw [← UInt32.toNat_and]
    exact ⟨fun h => by rw [h]; rfl, fun h => UInt32.toNat_inj.1 h⟩
  rw [hzero]
  constructor
  · intro h i hi
    have hbit : (v.toNat &&& w.toNat).testBit i = true := by rw [testBit_and, hi.1, hi.2]; rfl
    rw [h, zero_testBit] at hbit
    cases hbit
  · intro h
    refine eq_of_testBit_eq fun i => ?_
    rw [testBit_and, zero_testBit]
    have hi := h i
    cases hv : v.toNat.testBit i <;> cases hw : w.toNat.testBit i <;> simp_all

theorem and_flag_eq_zero_iff (hn : n.toNat < 32) : w &&& (1 <<< n) = 0 ↔ w.toNat.testBit n.toNat = false := by
  rw [and_eq_zero_iff]
  constructor
  · intro h
    have hi := h n.toNat
    rw [testBit_flag hn] at hi
    simpa using hi
  · intro h i hi
    rw [testBit_flag hn, decide_eq_true_iff] at hi
    rw [← hi.2, h] at hi
    cases hi.1

def word (what : Nat × Nat × Nat) : UInt32 := packed (UInt32.ofNat what.1) (UInt32.ofNat what.2.1) (UInt8.ofNat what.2.2)

/-- What an event may be: an id of 16 bits, a group and a phase up to 8. -/
def Fits (what : Nat × Nat × Nat) : Prop := what.1 < 2 ^ 16 ∧ what.2.1 ≤ 8 ∧ what.2.2 ≤ 8

theorem testBit_or_flag (hn : n.toNat < 32) (i : Nat) :
    (w ||| (1 <<< n)).toNat.testBit i = (w.toNat.testBit i || decide (n.toNat = i)) := by
  rw [UInt32.toNat_or, testBit_or, testBit_flag hn]

theorem testBit_packed {eventId : UInt32} {phase : UInt8} (hg : group ≤ 8) (hp : phase ≤ 8) (i : Nat) :
    (packed eventId group phase).toNat.testBit i =
      (eventId.toNat.testBit i || decide (group ≠ 0 ∧ group.toNat + 15 = i) || decide (phase ≠ 0 ∧ phase.toNat + 23 = i)) := by
  have hg' : group.toNat ≤ 8 := le_iff_toNat_le.1 hg
  have hp' : phase.toNat ≤ 8 := UInt8.le_iff_toNat_le.1 hp
  have hgbit : (group + 15).toNat = group.toNat + 15 := by
    have h15 : (15 : UInt32).toNat = 15 := rfl
    rw [UInt32.toNat_add, h15]
    omega
  have hpbit : (phase.toUInt32 + 23).toNat = phase.toNat + 23 := by
    have h23 : (23 : UInt32).toNat = 23 := rfl
    rw [UInt32.toNat_add, UInt8.toNat_toUInt32, h23]
    omega
  unfold packed
  by_cases h0 : group = 0 <;> by_cases h1 : phase = 0
  · simp [h0, h1]
  · simp only [h0, ne_eq, not_true_eq_false, false_and, if_false, h1, not_false_eq_true, hp, and_self, if_true]
    rw [testBit_or_flag (by omega), hpbit]
    simp
  · simp only [h1, ne_eq, not_true_eq_false, false_and, if_false, h0, not_false_eq_true, hg, and_self, if_true]
    rw [testBit_or_flag (by omega), hgbit]
    simp
  · simp only [ne_eq, h0, h1, not_false_eq_true, hg, hp, and_self, if_true, true_and]
    rw [testBit_or_flag (by omega), testBit_or_flag (by omega), hgbit, hpbit]

variable {what : Nat × Nat × Nat}

theorem testBit_word (hw : Fits what) (i : Nat) : (word what).toNat.testBit i =
      (what.1.testBit i || decide (what.2.1 ≠ 0 ∧ what.2.1 + 15 = i) || decide (what.2.2 ≠ 0 ∧ what.2.2 + 23 = i)) := by
  obtain ⟨hid, hg, hp⟩ := hw
  have hidNat : (ofNat what.1).toNat = what.1 := toNat_ofNat_of_lt' (lt_trans hid (by decide))
  have hgNat : (ofNat what.2.1).toNat = what.2.1 := toNat_ofNat_of_lt' (lt_of_le_of_lt hg (by decide))
  have hpNat : (UInt8.ofNat what.2.2).toNat = what.2.2 := UInt8.toNat_ofNat_of_lt' (lt_of_le_of_lt hp (by decide))
  have hg8 : ofNat what.2.1 ≤ 8 := by rw [le_iff_toNat_le, hgNat]; exact hg
  have hp8 : UInt8.ofNat what.2.2 ≤ 8 := by rw [UInt8.le_iff_toNat_le, hpNat]; exact hp
  have hg0 : UInt32.ofNat what.2.1 ≠ 0 ↔ what.2.1 ≠ 0 := by rw [ne_eq, ← UInt32.toNat_inj, hgNat]; rfl
  have hp0 : UInt8.ofNat what.2.2 ≠ 0 ↔ what.2.2 ≠ 0 := by rw [ne_eq, ← UInt8.toNat_inj, hpNat]; rfl
  unfold word
  rw [testBit_packed hg8 hp8, hidNat, hgNat, hpNat]
  simp only [hg0, hp0]

/-- Bits from 16 on are those of the group and the phase. -/
theorem testBit_word_high (hw : Fits what) {i : Nat} (hi : 16 ≤ i) :
    (word what).toNat.testBit i = (decide (what.2.1 ≠ 0 ∧ what.2.1 + 15 = i) || decide (what.2.2 ≠ 0 ∧ what.2.2 + 23 = i)) := by
  have hlow : what.1.testBit i = false :=
    Nat.testBit_lt_two_pow (lt_of_lt_of_le hw.1 (Nat.pow_le_pow_right (by decide) hi))
  rw [testBit_word hw, hlow, Bool.false_or]

theorem eventIdOf_word (hw : Fits what) : (eventIdOf (word what)).toNat = what.1 := by
  have hmask : (0x0000FFFF : UInt32).toNat = 2 ^ 16 - 1 := rfl
  unfold eventIdOf
  refine eq_of_testBit_eq fun i => ?_
  rw [UInt32.toNat_and, hmask, testBit_and, testBit_two_pow_sub_one, testBit_word hw]
  by_cases hi : i < 16
  · have hg : ¬ (what.2.1 ≠ 0 ∧ what.2.1 + 15 = i) := by omega
    have hp : ¬ (what.2.2 ≠ 0 ∧ what.2.2 + 23 = i) := by omega
    rw [decide_eq_false hg, decide_eq_false hp, decide_eq_true hi]
    simp
  · rw [decide_eq_false hi, Bool.and_false]
    exact (Nat.testBit_lt_two_pow (lt_of_lt_of_le hw.1 (Nat.pow_le_pow_right (by decide) (not_lt.1 hi)))).symm

theorem inGroup_word (hw : Fits what) (h0 : group ≠ 0) (h8 : group ≤ 8) :
    inGroup group (word what) = decide (what.2.1 = group.toNat) := by
  have hg : group.toNat ≤ 8 := le_iff_toNat_le.1 h8
  have h0 : group.toNat ≠ 0 := fun h => h0 (UInt32.toNat_inj.1 h)
  have hadd : (group + 15).toNat = group.toNat + 15 := by
    have h15 : (15 : UInt32).toNat = 15 := rfl
    rw [UInt32.toNat_add, h15]
    omega
  have hbit := and_flag_eq_zero_iff (w := word what) (n := group + 15) (by omega)
  rw [hadd, testBit_word_high hw (by omega), Bool.or_eq_false_iff, decide_eq_false_iff_not, decide_eq_false_iff_not] at hbit
  unfold inGroup
  rw [decide_eq_decide, ne_eq, hbit]
  have := hw.2
  omega

/-- The word has the bit that `CancelEventsByGCD` looks at. -/
def GcdHits (gcd : Nat) (what : Nat × Nat × Nat) : Prop := what.2.1 = gcd + 1 ∨ what.2.2 ≠ 0 ∧ what.2.2 + 7 = gcd

instance (gcd : Nat) (what : Nat × Nat × Nat) : Decidable (GcdHits gcd what) :=
  inferInstanceAs (Decidable (what.2.1 = gcd + 1 ∨ what.2.2 ≠ 0 ∧ what.2.2 + 7 = gcd))

theorem gcd_word (hw : Fits what) {gcd : UInt32} (h8 : gcd ≤ 8) :
    word what &&& (1 <<< (gcd + 16)) = 0 ↔ ¬ GcdHits gcd.toNat what := by
  have hg : gcd.toNat ≤ 8 := le_iff_toNat_le.1 h8
  have hadd : (gcd + 16).toNat = gcd.toNat + 16 := by
    have h16 : (16 : UInt32).toNat = 16 := rfl
    rw [UInt32.toNat_add, h16]
    omega
  rw [and_flag_eq_zero_iff (by omega), hadd, testBit_word_high hw (by omega), Bool.or_eq_false_iff, decide_eq_false_iff_not,
    decide_eq_false_iff_not]
  unfold GcdHits
  omega

theorem outOfPhase_word (hw : Fits what) (phase : UInt8) :
    outOfPhase phase (word what) = decide (phase ≠ 0 ∧ what.2.2 ≠ 0 ∧ phase.toNat.testBit (what.2.2 - 1) = false) := by
  have hmask : (0xFF000000 : UInt32).toNat = (2 ^ 8 - 1) <<< 24 := rfl
  have hphase : ∀ i, phase.toNat.testBit i = true → i < 8 := by
    intro i hi
    by_contra hge
    rw [Nat.testBit_lt_two_pow (lt_of_lt_of_le phase.toNat_lt (Nat.pow_le_pow_right (by decide) (not_lt.1 hge)))] at hi
    cases hi
  have hset : word what &&& 0xFF000000 = 0 ↔ what.2.2 = 0 := by
    rw [and_eq_zero_iff, hmask]
    constructor
    · intro h
      by_contra hp
      refine h (what.2.2 + 23) ⟨?_, ?_⟩
      · rw [testBit_word_high hw (by omega)]
        simp [hp]
      · have := hw.2.2
        rw [testBit_shiftLeft, testBit_two_pow_sub_one]
        simp only [Bool.and_eq_true, decide_eq_true_eq]
        omega
    · rintro hp i ⟨hi, hm⟩
      rw [testBit_shiftLeft, testBit_two_pow_sub_one, Bool.and_eq_true, decide_eq_true_iff, decide_eq_true_iff] at hm
      have := hw.2.1
      rw [testBit_word_high hw (by omega), Bool.or_eq_true, decide_eq_true_iff, decide_eq_true_iff] at hi
      omega
  have hshift : (word what >>> 24) &&& phase.toUInt32 = 0 ↔ what.2.2 = 0 ∨ phase.toNat.testBit (what.2.2 - 1) = false := by
    have h24 : (24 : UInt32).toNat % 32 = 24 := rfl
    rw [and_eq_zero_iff, UInt32.toNat_shiftRight, h24, UInt8.toNat_toUInt32]
    constructor
    · intro h
      by_cases hp : what.2.2 = 0
      · exact Or.inl hp
      have hi := h (what.2.2 - 1)
      rw [testBit_shiftRight, testBit_word_high hw (by omega)] at hi
      have heq : what.2.2 + 23 = 24 + (what.2.2 - 1) := by omega
      right
      cases hb : phase.toNat.testBit (what.2.2 - 1) with
      | false => rfl
      | true => exact absurd ⟨by simp [hp, heq], hb⟩ hi
    · rintro h i ⟨hi, hb⟩
      have := hphase i hb
      have hgroup := hw.2.1
      rw [testBit_shiftRight, testBit_word_high hw (by omega), Bool.or_eq_true, decide_eq_true_iff, decide_eq_true_iff] at hi
      rcases h with h | h
      · omega
      have heq : what.2.2 - 1 = i := by omega
      rw [heq, hb] at h
      cases h
  unfold outOfPhase
  rw [Bool.eq_iff_iff, Bool.and_eq_true, Bool.and_eq_true, decide_eq_true_iff, decide_eq_true_iff, decide_eq_true_iff,
    decide_eq_true_iff, hshift, ne_eq, ne_eq, hset]
  tauto

end EventMap

end ComfyCraft
