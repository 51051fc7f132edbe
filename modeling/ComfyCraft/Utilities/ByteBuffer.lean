import ComfyCraft.Lib.Runs
import Mathlib.Data.Nat.Bitwise
import Mathlib.Data.UInt
import Mathlib.Tactic.Ring

/-! The byte buffer of the packets and the packed guids in it: a mark with a bit for each byte of the guid that is
not zero, and those bytes from the lowest up. -/

namespace ComfyCraft

open List Option UInt8 Nat Loop

structure ByteBuffer where
  storage : List UInt8
  rpos : Nat
  wpos : Nat

namespace ByteBuffer

def size (b : ByteBuffer) : Nat := b.storage.length

/-- `append`: what is at the write position is overwritten, and the storage grows as far as it has to. There is no
buffer when the assertion on its size fails. -/
def append (b : ByteBuffer) (src : List UInt8) : Option ByteBuffer :=
  if src = [] then some b
  else if b.size < 10000000 then
    let storage := b.storage ++ List.replicate (b.wpos + src.length - b.size) 0
    some { b with
      storage := storage.take b.wpos ++ src ++ storage.drop (b.wpos + src.length)
      wpos := b.wpos + src.length }
  else none

/-- `operator>>` for a byte; past the end it throws. -/
def readUInt8 (b : ByteBuffer) : Option (UInt8 × ByteBuffer) :=
  b.storage[b.rpos]?.map fun value => (value, { b with rpos := b.rpos + 1 })

/-- The variables of the loop in `appendPackGUID`: `mark` is the first byte of `packGUID`, `bytes` are the others. -/
structure Packing where
  i : Nat
  guid : UInt64
  mark : UInt8
  bytes : List UInt8

namespace Packing

def goesOn (p : Packing) : Bool := p.guid ≠ 0

def turn (p : Packing) : Packing where
  i := p.i + 1
  guid := p.guid >>> 8
  mark := if p.guid &&& 0xFF ≠ 0 then p.mark ||| UInt8.ofNat (1 <<< p.i) else p.mark
  bytes := if p.guid &&& 0xFF ≠ 0 then p.bytes ++ [(p.guid &&& 0xFF).toUInt8] else p.bytes

def of (guid : UInt64) : Packing := Loop.run goesOn turn 8 ⟨0, guid, 0, []⟩

end Packing

def appendPackGUID (b : ByteBuffer) (guid : UInt64) : Option ByteBuffer :=
  b.append ((Packing.of guid).mark :: (Packing.of guid).bytes)

/-- A turn of the loop in `readPackGUID`. -/
def readMarked (guidmark : UInt8) (s : UInt64 × ByteBuffer) (i : Nat) : Option (UInt64 × ByteBuffer) :=
  if guidmark &&& UInt8.ofNat (1 <<< i) ≠ 0 then
    s.2.readUInt8.map fun (bit, b) => (s.1 ||| (bit.toUInt64 <<< UInt64.ofNat (i * 8)), b)
  else some s

def readPackGUID (b : ByteBuffer) : Option (UInt64 × ByteBuffer) :=
  b.readUInt8.bind fun (guidmark, b) => (List.range' 0 8).foldlM (readMarked guidmark) (0, b)

/-! ### The bytes that are written -/

/-- The lowest `k` bytes of a number but those that are zero. -/
def payload : Nat → Nat → List UInt8
  | 0, _ => []
  | k + 1, n => if n % 256 = 0 then payload k (n / 256) else UInt8.ofNat (n % 256) :: payload k (n / 256)

@[simp] theorem payload_zero (k : Nat) : payload k 0 = [] := by
  induction k with
  | zero => rfl
  | succ k ih => simpa [payload] using ih

theorem length_payload_le (k n : Nat) : (payload k n).length ≤ k := by
  induction k generalizing n with
  | zero => exact le_rfl
  | succ k ih =>
    have hrest := ih (n / 256)
    unfold payload
    split
    · omega
    · rw [length_cons]
      omega

theorem and_ff (g : UInt64) : (g &&& 0xFF).toNat = g.toNat % 256 := by
  rw [UInt64.toNat_and]
  exact and_two_pow_sub_one_eq_mod g.toNat 8

theorem shiftRight_eight (g : UInt64) : (g >>> 8).toNat = g.toNat / 256 := by
  rw [UInt64.toNat_shiftRight]
  exact shiftRight_eq_div_pow g.toNat 8

theorem low_byte (g : UInt64) : (g &&& 0xFF).toUInt8 = UInt8.ofNat (g.toNat % 256) := by
  rw [← UInt8.toNat_inj, UInt64.toNat_toUInt8, and_ff, UInt8.toNat_ofNat']

variable {i k : Nat} {a : UInt64}

theorem testBit_or_bit (mark : UInt8) (hi : i < 8) (j : Nat) :
    (mark ||| UInt8.ofNat (1 <<< i)).toNat.testBit j = (mark.toNat.testBit j || decide (i = j)) := by
  have hlt : 1 <<< i < 2 ^ 8 := by
    rw [one_shiftLeft]
    exact Nat.pow_lt_pow_right (by decide) hi
  rw [UInt8.toNat_or, testBit_or, UInt8.toNat_ofNat', mod_eq_of_lt hlt, one_shiftLeft, testBit_two_pow]

theorem and_bit_ne_zero (mark : UInt8) (hi : i < 8) : mark &&& UInt8.ofNat (1 <<< i) ≠ 0 ↔ mark.toNat.testBit i = true := by
  have hlt : 1 <<< i < 2 ^ 8 := by
    rw [one_shiftLeft]
    exact Nat.pow_lt_pow_right (by decide) hi
  rw [Ne, ← UInt8.toNat_inj, UInt8.toNat_and, UInt8.toNat_ofNat', Nat.mod_eq_of_lt hlt, Nat.one_shiftLeft, Nat.and_comm,
    two_pow_and]
  cases mark.toNat.testBit i <;> simp

/-- The loop writes the bytes that are left and not zero, and sets their bits in the mark. -/
theorem Packing.run_eq {p : Packing} (hk : p.i + k = 8) (hguid : p.guid.toNat < 256 ^ k) :
    (Loop.run goesOn turn k p).bytes = p.bytes ++ payload k p.guid.toNat ∧
      ∀ j, (Loop.run goesOn turn k p).mark.toNat.testBit j =
        (p.mark.toNat.testBit j || decide (p.i ≤ j ∧ p.guid.toNat / 256 ^ (j - p.i) % 256 ≠ 0)) := by
  induction k generalizing p with
  | zero =>
    have hzero : p.guid.toNat = 0 := by omega
    simp [run, hzero, payload]
  | succ k ih =>
    unfold run
    split
    · have hlt : p.turn.guid.toNat < 256 ^ k := by
        rw [turn, shiftRight_eight]
        omega
      obtain ⟨hbytes, hmark⟩ := ih (p := p.turn) (show p.i + 1 + k = 8 by omega) hlt
      have hbyte : p.guid &&& 0xFF ≠ 0 ↔ p.guid.toNat % 256 ≠ 0 := by
        rw [Ne, ← UInt64.toNat_inj, and_ff]
        rfl
      have hnext : p.turn.guid.toNat = p.guid.toNat / 256 := shiftRight_eight p.guid
      constructor
      · rw [hbytes, hnext]
        by_cases h : p.guid.toNat % 256 = 0
        · simp only [turn, if_neg (fun hne => hbyte.1 hne h), payload, if_pos h]
        · simp only [turn, if_pos (hbyte.2 h), payload, if_neg h, low_byte, append_assoc, singleton_append]
      · intro j
        rw [hmark, hnext]
        -- the bit of this turn is the one at its index, the other bits are those of the turns after it
        have hrest : (p.i + 1 ≤ j ∧ p.guid.toNat / 256 / 256 ^ (j - (p.i + 1)) % 256 ≠ 0) ↔
            (p.i ≠ j ∧ p.i ≤ j ∧ p.guid.toNat / 256 ^ (j - p.i) % 256 ≠ 0) := by
          constructor
          · rintro ⟨hle, h⟩
            have hsub : j - p.i = j - (p.i + 1) + 1 := by omega
            rw [Nat.div_div_eq_div_mul, ← Nat.pow_succ', Nat.succ_eq_add_one, ← hsub] at h
            exact ⟨by omega, by omega, h⟩
          · rintro ⟨hne, hle, h⟩
            have hsub : j - p.i = j - (p.i + 1) + 1 := by omega
            rw [hsub, Nat.pow_succ', ← Nat.div_div_eq_div_mul] at h
            exact ⟨by omega, h⟩
        by_cases h : p.guid.toNat % 256 = 0
        · simp only [turn, if_neg (fun hne => hbyte.1 hne h), decide_eq_decide.2 hrest]
          by_cases hj : p.i = j
          · simp [h, hj]
          · simp [hj]
        · simp only [turn, if_pos (hbyte.2 h), testBit_or_bit p.mark (show p.i < 8 by omega), decide_eq_decide.2 hrest]
          by_cases hj : p.i = j
          · simp [h, hj]
          · simp [hj]
    · rename_i hend
      have hzero : p.guid = 0 := by simpa [goesOn] using hend
      simp [hzero]

/-! ### The bytes that are read -/

theorem or_shifted_byte (hi : i < 8) (hacc : a.toNat < 256 ^ i) (bit : UInt8) :
    (a ||| (bit.toUInt64 <<< UInt64.ofNat (i * 8))).toNat = a.toNat + 256 ^ i * bit.toNat := by
  have hpow : 256 ^ i = 2 ^ (i * 8) := by rw [Nat.mul_comm, Nat.pow_mul]
  have hfit : 2 ^ (i * 8) * bit.toNat < 2 ^ 64 := by
    calc 2 ^ (i * 8) * bit.toNat < 2 ^ (i * 8) * 2 ^ 8 := Nat.mul_lt_mul_of_pos_left bit.toNat_lt (Nat.two_pow_pos _)
      _ = 2 ^ (i * 8 + 8) := (pow_add ..).symm
      _ ≤ 2 ^ 64 := Nat.pow_le_pow_right (by decide) (by omega)
  rw [hpow] at hacc ⊢
  rw [UInt64.toNat_or, UInt64.toNat_shiftLeft, toNat_toUInt64, UInt64.toNat_ofNat',
    mod_eq_of_lt (show i * 8 < 2 ^ 64 by omega), mod_eq_of_lt (show i * 8 < 64 by omega), shiftLeft_eq, mul_comm,
    Nat.mod_eq_of_lt hfit, Nat.or_comm, ← Nat.two_pow_add_eq_or_of_lt hacc, Nat.add_comm]

theorem pow_mul_split (i n : Nat) : 256 ^ i * (n % 256) + 256 ^ (i + 1) * (n / 256) = 256 ^ i * n := by
  calc 256 ^ i * (n % 256) + 256 ^ (i + 1) * (n / 256) = 256 ^ i * (n % 256 + 256 * (n / 256)) := by ring
    _ = 256 ^ i * n := by rw [mod_add_div]

/-- The loop puts the bytes of `n` back at their places, and reads no more than them. -/
theorem read_payload (mark : UInt8) {n : Nat} {c : ByteBuffer} {rest : List UInt8} (hk : i + k = 8)
    (hn : n < 256 ^ k) (hacc : a.toNat < 256 ^ i) (hbytes : c.storage.drop c.rpos = payload k n ++ rest)
    (hmark : ∀ j < k, mark.toNat.testBit (i + j) = decide (n / 256 ^ j % 256 ≠ 0)) :
    ∃ r : UInt64, r.toNat = a.toNat + 256 ^ i * n ∧
      (List.range' i k).foldlM (readMarked mark) (a, c) = some (r, { c with rpos := c.rpos + (payload k n).length }) := by
  induction k generalizing i n a c with
  | zero =>
    have hzero : n = 0 := by omega
    subst hzero
    exact ⟨a, rfl, rfl⟩
  | succ k ih =>
    have hn' : n / 256 < 256 ^ k := by omega
    have hmark' : ∀ j < k, mark.toNat.testBit (i + 1 + j) = decide (n / 256 / 256 ^ j % 256 ≠ 0) := by
      intro j hj
      have hbit := hmark (j + 1) (by omega)
      rwa [Nat.pow_succ', ← Nat.div_div_eq_div_mul, ← Nat.add_assoc, Nat.add_right_comm] at hbit
    have hbit := hmark 0 (by omega)
    rw [Nat.pow_zero, Nat.div_one, Nat.add_zero] at hbit
    rw [range'_succ, foldlM_cons]
    have hsplit := pow_mul_split i n
    have hacc' : 256 ^ i * 256 = 256 ^ (i + 1) := (pow_succ ..).symm
    by_cases h : n % 256 = 0
    · rw [decide_eq_false (not_not_intro h)] at hbit
      rw [payload, if_pos h] at hbytes ⊢
      obtain ⟨r, hr, hread⟩ := ih (i := i + 1) (a := a) (c := c) (by omega) hn' (by omega) hbytes hmark'
      refine ⟨r, by rw [hr]; rw [h] at hsplit; omega, ?_⟩
      rw [readMarked, if_neg (fun hne => by rw [(and_bit_ne_zero mark (by omega)).1 hne] at hbit; cases hbit)]
      exact hread
    · rw [decide_eq_true h] at hbit
      rw [payload, if_neg h, cons_append] at hbytes
      have hget : c.storage[c.rpos]? = some (ofNat (n % 256)) := by
        have hhead := congrArg (·[0]?) hbytes
        simpa using hhead
      have hbyte : (ofNat (n % 256)).toNat = n % 256 := by
        rw [toNat_ofNat']
        omega
      have hor := or_shifted_byte (a := a) (show i < 8 by omega) hacc (ofNat (n % 256))
      rw [hbyte] at hor
      obtain ⟨r, hr, hread⟩ := ih (i := i + 1) (a := a ||| ((ofNat (n % 256)).toUInt64 <<< UInt64.ofNat (i * 8)))
        (c := { c with rpos := c.rpos + 1 }) (by omega) hn' (by
          rw [hor]
          have hle : 256 ^ i * (n % 256) ≤ 256 ^ i * 255 := mul_le_mul_left _ (by omega)
          omega) (by
          have htail := congrArg tail hbytes
          simpa using htail) hmark'
      refine ⟨r, by rw [hr, hor]; omega, ?_⟩
      rw [readMarked, if_pos ((and_bit_ne_zero mark (by omega)).2 hbit), readUInt8, hget, payload, if_neg h]
      simp only [map_some, length_cons]
      rw [add_comm (payload k (n / 256)).length 1, ← add_assoc]
      exact hread

/-- What is written lies from the write position on. -/
theorem append_spec {b : ByteBuffer} (src : List UInt8) (hsrc : src ≠ []) (hsize : b.size < 10000000) :
    ∃ b', b.append src = some b' ∧ b'.wpos = b.wpos + src.length ∧ ∀ k < src.length, b'.storage[b.wpos + k]? = src[k]? := by
  refine ⟨_, by rw [append, if_neg hsrc, if_pos hsize], rfl, fun k hk => ?_⟩
  have hlen : (take b.wpos (b.storage ++ replicate (b.wpos + src.length - b.size) 0)).length = b.wpos := by
    rw [length_take, length_append, length_replicate]
    unfold size
    omega
  rw [append_assoc, getElem?_append_right (by omega), hlen, Nat.add_sub_cancel_left, getElem?_append_left hk]

/-- A guid that was appended is read back from its place, whatever the other bytes of the buffer are by then, and the
read position moves over exactly the bytes that were written. -/
theorem readPackGUID_appendPackGUID (b : ByteBuffer) (guid : UInt64) (hsize : b.size < 10000000) :
    ∃ b', b.appendPackGUID guid = some b' ∧ b.wpos + 1 ≤ b'.wpos ∧ b'.wpos ≤ b.wpos + 9 ∧
      ∀ c : ByteBuffer, c.rpos = b.wpos → (∀ k, b.wpos ≤ k → k < b'.wpos → c.storage[k]? = b'.storage[k]?) →
        c.readPackGUID = some (guid, { c with rpos := b'.wpos }) := by
  have hguid : guid.toNat < 256 ^ 8 := guid.toNat_lt
  obtain ⟨hbytes, hmark⟩ := Packing.run_eq (k := 8) (p := ⟨0, guid, 0, []⟩) rfl hguid
  dsimp only at hbytes hmark
  have hlen := length_payload_le 8 guid.toNat
  obtain ⟨b', happend, hwpos, hwritten⟩ := append_spec ((Packing.of guid).mark :: (Packing.of guid).bytes)
    (cons_ne_nil _ _) hsize
  unfold Packing.of at happend hwpos hwritten
  rw [hbytes, nil_append] at hwritten hwpos
  rw [length_cons] at hwpos hwritten
  generalize (run Packing.goesOn Packing.turn 8 ⟨0, guid, 0, []⟩).mark = mark at hmark hwritten
  refine ⟨b', happend, by omega, by omega, fun c hrpos hsame => ?_⟩
  have hdrop : c.storage.drop c.rpos = mark :: (payload 8 guid.toNat ++ c.storage.drop b'.wpos) := by
    apply ext_getElem?
    intro k
    rw [getElem?_drop, hrpos, ← cons_append]
    by_cases hk : k < (payload 8 guid.toNat).length + 1
    · rw [hsame _ (by omega) (by omega), hwritten k hk, getElem?_append_left (by rw [length_cons]; omega)]
    rw [getElem?_append_right (by rw [length_cons]; omega), getElem?_drop, length_cons]
    congr 1
    omega
  have hget : c.storage[c.rpos]? = some mark := by
    have hhead := congrArg (·[0]?) hdrop
    simpa using hhead
  have htail : c.storage.drop (c.rpos + 1) = payload 8 guid.toNat ++ c.storage.drop b'.wpos := by
    have htail := congrArg tail hdrop
    simpa using htail
  obtain ⟨r, hr, hread⟩ := read_payload mark (i := 0) (a := 0) (c := { c with rpos := c.rpos + 1 }) rfl hguid
    (by decide) htail (fun j hj => by simpa using hmark j)
  have hr' : r = guid := by
    rw [← UInt64.toNat_inj, hr]
    simp
  rw [readPackGUID, readUInt8, hget, map_some, bind_some]
  dsimp only
  rw [hread, hr', hwpos, hrpos]
  congr 3
  exact add_right_comm _ _ _

/-- The guid of a creature in an empty buffer: its low bytes and its high ones, with none between them. -/
theorem readPackGUID_appendPackGUID_creature : ∃ b', ({ storage := [], rpos := 0, wpos := 0 } : ByteBuffer).appendPackGUID
    0xF130000000000045 = some b' ∧ 0 + 1 ≤ b'.wpos ∧ b'.wpos ≤ 0 + 9 ∧
      ∀ c : ByteBuffer, c.rpos = 0 → (∀ k, 0 ≤ k → k < b'.wpos → c.storage[k]? = b'.storage[k]?) →
        c.readPackGUID = some (0xF130000000000045, { c with rpos := b'.wpos }) :=
  readPackGUID_appendPackGUID ⟨[], 0, 0⟩ 0xF130000000000045 (by decide)

end ByteBuffer

end ComfyCraft
