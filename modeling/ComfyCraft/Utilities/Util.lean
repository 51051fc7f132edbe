import Mathlib.Data.Nat.ModEq
import Mathlib.Tactic.Linarith
import Mathlib.Tactic.Ring

/-! The server clock, which counts milliseconds and starts again, and bytes as hexadecimal text. -/

namespace ComfyCraft

open List Bool Nat

namespace WorldTimer

/-- What `getMSTime_internal` makes of the milliseconds since the start. -/
def getMSTime_internal (diff : UInt64) : UInt32 := (diff % 0xFFFFFFFF).toUInt32

def getMSTimeDiff (oldMSTime newMSTime : UInt32) : UInt32 :=
  if oldMSTime > newMSTime then
    let diff_1 := (0xFFFFFFFF - oldMSTime) + newMSTime
    let diff_2 := oldMSTime - newMSTime
    min diff_1 diff_2
  else newMSTime - oldMSTime

/-- The readings start again at this many milliseconds, not at 2 ^ 32. -/
def modulus : Nat := 2 ^ 32 - 1

theorem toNat_getMSTime (t : UInt64) : (getMSTime_internal t).toNat = t.toNat % modulus := by
  have hlt : t.toNat % modulus < 2 ^ 32 := (mod_lt _ (by decide)).trans (by decide)
  unfold getMSTime_internal
  rw [UInt64.toNat_toUInt32, UInt64.toNat_mod]
  exact mod_eq_of_lt hlt

theorem toNat_getMSTimeDiff (old new : UInt32) : (getMSTimeDiff old new).toNat =
    if new.toNat < old.toNat then min (modulus - old.toNat + new.toNat) (old.toNat - new.toNat) else new.toNat - old.toNat := by
  have hold := old.toNat_lt
  have hnew := new.toNat_lt
  unfold getMSTimeDiff modulus
  by_cases h : new.toNat < old.toNat
  · have h1 : (0xFFFFFFFF - old + new).toNat = 2 ^ 32 - 1 - old.toNat + new.toNat := by
      rw [UInt32.toNat_add, UInt32.toNat_sub_of_le _ _ (UInt32.le_iff_toNat_le.2 (by simpa using by omega))]
      exact mod_eq_of_lt (by simp; omega)
    have h2 : (old - new).toNat = old.toNat - new.toNat := UInt32.toNat_sub_of_le _ _ (UInt32.le_iff_toNat_le.2 h.le)
    rw [if_pos h, if_pos (UInt32.lt_iff_toNat_lt.2 h)]
    dsimp only
    rw [← h1, ← h2]
    change UInt32.toNat (if 0xFFFFFFFF - old + new ≤ old - new then _ else _) = _
    split_ifs with hle
    · exact (min_eq_left (UInt32.le_iff_toNat_le.1 hle)).symm
    · exact (min_eq_right (le_of_not_ge (mt UInt32.le_iff_toNat_le.2 hle))).symm
  · rw [if_neg h, if_neg (mt UInt32.lt_iff_toNat_lt.1 h)]
    exact UInt32.toNat_sub_of_le _ _ (UInt32.le_iff_toNat_le.2 (not_lt.1 h))

/-- Readings of two times, the second later by less than half of the modulus. -/
theorem getMSTimeDiff_readings (t1 t2 : UInt64) (h : t1 ≤ t2) (hhalf : 2 * (t2.toNat - t1.toNat) < modulus) :
    (getMSTimeDiff (getMSTime_internal t1) (getMSTime_internal t2)).toNat = t2.toNat - t1.toNat := by
  have hle : t1.toNat ≤ t2.toNat := UInt64.le_iff_toNat_le.1 h
  have hpos : 0 < modulus := by decide
  rw [toNat_getMSTimeDiff, toNat_getMSTime, toNat_getMSTime]
  obtain ⟨d, hd⟩ : ∃ d, t2.toNat = t1.toNat + d := ⟨_, (add_sub_of_le hle).symm⟩
  rw [hd, Nat.add_sub_cancel_left] at hhalf ⊢
  -- the second reading, by whether the clock started again between them
  have hr1 := mod_lt t1.toNat hpos
  rw [← mod_add_mod]
  by_cases hwrap : t1.toNat % modulus + d < modulus
  · rw [mod_eq_of_lt hwrap, if_neg (by omega)]
    omega
  · have hr2 : (t1.toNat % modulus + d) % modulus = t1.toNat % modulus + d - modulus := by
      rw [mod_eq_sub_mod (not_lt.1 hwrap), mod_eq_of_lt (by omega)]
    rw [hr2, if_pos (by omega), min_eq_left (by omega)]
    omega

/-- Six milliseconds before the clock starts again, and four after. -/
theorem getMSTimeDiff_wrap : (getMSTimeDiff (getMSTime_internal 4294967289) (getMSTime_internal 4294967299)).toNat = 10 :=
  getMSTimeDiff_readings 4294967289 4294967299 (by decide) (by decide)

end WorldTimer

namespace HexText

/-- What an unsigned length, or a sum of one, is as an `int32`. -/
def int32 (n : Int) : Int := n.bmod (2 ^ 32)

/-- `for (i = init; i != stop; i += op)` over `int32`. There is no result once the body reads past an end or the index
leaves its range. -/
def indexLoop {α : Type} (body : Int → Option α) (stop op : Int) : Nat → Int → Option (List α)
  | 0, _ => none
  | fuel + 1, i =>
    if i = stop then some []
    else
      match body i with
      | none => none
      | some a =>
        if -2 ^ 31 ≤ i + op ∧ i + op < 2 ^ 31 then (indexLoop body stop op fuel (i + op)).map (a :: ·) else none

def turns : Nat := 2 ^ 32

def at? {α : Type} (l : List α) (i : Int) : Option α := if 0 ≤ i then l[i.toNat]? else none

def hexDigit (n : Nat) : Char := if n < 10 then Char.ofNat (n + 48) else Char.ofNat (n + 55)

/-- The digits of `%02X`. -/
def digits (b : UInt8) : Char × Char := (hexDigit (b.toNat / 16), hexDigit (b.toNat % 16))

def text (pairs : List (Char × Char)) : List Char := pairs.flatMap fun p => [p.1, p.2]

def byteArrayToHexStr (bytes : List UInt8) (reverse : Bool) : Option (List Char) :=
  let init := if reverse then int32 (bytes.length - 1) else 0
  let stop := if reverse then -1 else int32 bytes.length
  let op := if reverse then -1 else 1
  (indexLoop (fun i => (at? bytes i).map digits) stop op turns init).map text

def hexVal (c : Char) : Option Nat :=
  if '0' ≤ c ∧ c ≤ '9' then some (c.toNat - 48)
  else if 'A' ≤ c ∧ c ≤ 'F' then some (c.toNat - 55)
  else if 'a' ≤ c ∧ c ≤ 'f' then some (c.toNat - 87)
  else none

def isSpace (c : Char) : Bool := c = ' ' ∨ 9 ≤ c.toNat ∧ c.toNat ≤ 13

def number : List Char → UInt8 → UInt8
  | [], v => v
  | c :: rest, v =>
    match hexVal c with
    | some d => number rest (16 * v + UInt8.ofNat d)
    | none => v

/-- `strtoul` to the base 16, as a byte, of two characters: no `0x` stands before a digit there. -/
def strtoul (buffer : Char × Char) : UInt8 :=
  match [buffer.1, buffer.2].dropWhile isSpace with
  | '-' :: rest => 0 - number rest 0
  | '+' :: rest => number rest 0
  | rest => number rest 0

def hexStrToByteArray (str : List Char) (reverse : Bool) : Option (List UInt8) :=
  if str.length % 2 = 1 then some []
  else
    let init := if reverse then int32 (str.length - 2) else 0
    let stop := if reverse then -2 else int32 str.length
    let op := if reverse then -1 else 1
    indexLoop (fun i => (at? str i).bind fun a => (at? str (i + 1)).map fun b => strtoul (a, b)) stop (2 * op) turns init

/-! ### The loop -/

section Loop

variable {α : Type} {body : Int → Option α} {stop op i : Int} {fuel : Nat} {r : List α}

theorem stop_of_indexLoop (h : indexLoop body stop op fuel i = some r) : stop = i + op * r.length := by
  induction fuel generalizing i r with
  | zero => cases h
  | succ fuel ih =>
    unfold indexLoop at h
    split_ifs at h with hstop
    · cases h
      simp [hstop]
    · split at h
      · cases h
      · obtain ⟨rest, hrest, rfl⟩ := Option.map_eq_some_iff.1 h
        rw [ih hrest, length_cons]
        push_cast
        ring
    · split at h <;> cases h

theorem indexLoop_eq (hop : op ≠ 0) (hstop : stop = i + op * r.length) (hfuel : r.length < fuel)
    (hbody : ∀ k (hk : k < r.length), body (i + op * k) = some r[k])
    (hrange : ∀ k < r.length, -2 ^ 31 ≤ i + op * (k + 1 : Nat) ∧ i + op * (k + 1 : Nat) < 2 ^ 31) :
    indexLoop body stop op fuel i = some r := by
  obtain ⟨fuel, rfl⟩ := exists_eq_succ_of_ne_zero (ne_of_gt (zero_lt_of_lt hfuel))
  induction r generalizing fuel i with
  | nil => simp [indexLoop, hstop]
  | cons a r ih =>
    obtain ⟨fuel, rfl⟩ := exists_eq_succ_of_ne_zero (ne_of_gt (zero_lt_of_lt (lt_of_succ_lt_succ hfuel)))
    have hne : i ≠ stop := by
      intro heq
      rcases mul_eq_zero.1 (show op * ((r.length + 1 : Nat) : Int) = 0 from by rw [← length_cons (a := a)]; linarith) with h | h
      · exact hop h
      · exact absurd h (by push_cast; omega)
    have hfirst := hbody 0 (succ_pos _)
    have hfits := hrange 0 (succ_pos _)
    simp only [cast_zero, mul_zero, add_zero, getElem_cons_zero] at hfirst
    simp only [zero_add, cast_one, mul_one] at hfits
    have hshift : ∀ k : Nat, i + op + op * (k : Int) = i + op * ((k + 1 : Nat) : Int) := fun k => by push_cast; ring
    have hrest := ih (i := i + op) (by rw [hshift]; exact hstop)
      (fun k hk => by rw [hshift]; exact hbody (k + 1) (succ_lt_succ hk))
      (fun k hk => by rw [hshift]; exact hrange (k + 1) (succ_lt_succ hk)) fuel (lt_of_succ_lt_succ hfuel)
    unfold indexLoop
    rw [if_neg hne, hfirst]
    dsimp only
    rw [if_pos hfits, hrest]
    rfl

def order (reverse : Bool) (l : List α) : List α := if reverse then l.reverse else l

/-- A loop over a list whose items stand `width` places each. -/
theorem indexLoop_order {β : Type} {l : List β} {g : β → α} {width : Nat} (reverse : Bool) (hwidth : 0 < width)
    (hlen : width * l.length < 2 ^ 31 ∨ reverse = true ∧ width * l.length ≤ 2 ^ 31)
    (hbody : ∀ k (hk : k < l.length), body (width * k : Nat) = some (g l[k])) :
    indexLoop body (if reverse then -(width : Int) else (width * l.length : Nat)) (if reverse then -(width : Int) else width) turns
      (if reverse then (width * l.length : Nat) - (width : Int) else 0) = some ((order reverse l).map g) := by
  have hle : l.length ≤ width * l.length := Nat.le_mul_of_pos_left _ hwidth
  have hturns : l.length < turns := by unfold turns; omega
  cases reverse with
  | false =>
    have hlt : width * l.length < 2 ^ 31 := hlen.resolve_right fun h => Bool.noConfusion h.1
    refine indexLoop_eq (by simpa using hwidth.ne') (by simp [order]) (by simpa [order] using hturns) ?_ ?_
    · intro k hk
      simp only [order, false_eq_true, if_false, length_map, getElem_map] at hk ⊢
      rw [← hbody k hk]
      push_cast
      ring_nf
    · intro k hk
      simp only [order, false_eq_true, if_false, length_map] at hk ⊢
      have : width * (k + 1) ≤ width * l.length := mul_le_mul_left _ hk
      rw [zero_add, ← cast_mul]
      omega
  | true =>
    have hle' : width * l.length ≤ 2 ^ 31 := by omega
    refine indexLoop_eq (by simpa using hwidth.ne') ?_ (by simpa [order] using hturns) ?_ ?_
    · simp only [order, if_true, length_map, length_reverse]
      push_cast
      ring
    · intro k hk
      simp only [order, if_true, length_map, length_reverse, getElem_map, getElem_reverse] at hk ⊢
      rw [← hbody (l.length - 1 - k) (by omega)]
      congr 1
      have hsum : l.length = (l.length - 1 - k) + 1 + k := by omega
      generalize l.length - 1 - k = j at hsum
      rw [hsum]
      push_cast
      ring
    · intro k hk
      simp only [order, if_true, length_map, length_reverse] at hk ⊢
      have hterm : width * (k + 1) ≤ width * l.length := mul_le_mul_left _ hk
      have hone : width ≤ width * l.length := Nat.le_mul_of_pos_right _ (Nat.zero_lt_of_lt hk)
      rw [neg_mul, ← cast_mul]
      omega

end Loop

/-! ### Digits -/

theorem int32_eq {n : Int} (h1 : -2 ^ 31 ≤ n) (h2 : n < 2 ^ 31) : int32 n = n := by
  unfold int32
  rw [Int.bmod_def]
  omega

theorem int32_lt (n : Int) : int32 n < 2 ^ 31 := by
  have := Int.bmod_lt (x := n) (m := 2 ^ 32) (by decide)
  unfold int32
  omega

theorem length_text (pairs : List (Char × Char)) : (text pairs).length = 2 * pairs.length := by
  induction pairs with
  | nil => rfl
  | cons p pairs ih =>
    simp only [text, flatMap_cons, length_append, length_cons, length_nil] at ih ⊢
    omega

theorem getElem?_text (pairs : List (Char × Char)) (k : Nat) :
    (text pairs)[2 * k]? = pairs[k]?.map Prod.fst ∧ (text pairs)[2 * k + 1]? = pairs[k]?.map Prod.snd := by
  induction pairs generalizing k with
  | nil => simp [text]
  | cons p pairs ih =>
    cases k with
    | zero => simp [text]
    | succ k => exact ih k

theorem at?_natCast {α : Type} (l : List α) (k : Nat) : at? l k = l[k]? := by simp [at?]

/-- A digit in capital letters. -/
def IsDigit (c : Char) : Prop := ∃ n < 16, c = hexDigit n

theorem strtoul_hexDigit : ∀ m < 16, ∀ n < 16, strtoul (hexDigit m, hexDigit n) = UInt8.ofNat (16 * m + n) := by decide

theorem strtoul_digits (b : UInt8) : strtoul (digits b) = b := by
  unfold digits
  rw [strtoul_hexDigit _ (by have := b.toNat_lt; omega) _ (mod_lt _ (by decide)), div_add_mod]
  exact UInt8.ofNat_toNat

theorem digits_strtoul {a b : Char} (ha : IsDigit a) (hb : IsDigit b) : digits (strtoul (a, b)) = (a, b) := by
  obtain ⟨m, hm, rfl⟩ := ha
  obtain ⟨n, hn, rfl⟩ := hb
  rw [strtoul_hexDigit m hm n hn]
  unfold digits
  rw [UInt8.toNat_ofNat_of_lt' (by change 16 * m + n < 256; omega)]
  rw [show (16 * m + n) / 16 = m by omega, show (16 * m + n) % 16 = n by omega]

/-! ### Both ways -/

/-- Every index of a text fits. -/
def Fits (length : Nat) (reverse : Bool) : Prop := length < 2 ^ 31 ∨ reverse = true ∧ length ≤ 2 ^ 31

variable {bytes : List UInt8} {str : List Char} {pairs : List (Char × Char)} {reverse : Bool}

theorem byteArrayToHexStr_eq (h : bytes.length < 2 ^ 31) :
    byteArrayToHexStr bytes reverse = some (text ((order reverse bytes).map digits)) := by
  have hloop : indexLoop (fun i => (at? bytes i).map digits) _ _ turns _ = some ((order reverse bytes).map digits) :=
    indexLoop_order reverse one_pos (.inl (by omega)) fun k hk => by
      rw [one_mul, at?_natCast, getElem?_eq_getElem hk]
      rfl
  unfold byteArrayToHexStr
  rw [int32_eq (by omega) (by omega), int32_eq (by omega) (by omega)]
  simp only [one_mul, cast_one] at hloop
  dsimp only
  rw [hloop]
  rfl

theorem hexStrToByteArray_eq (h : Fits (2 * pairs.length) reverse) :
    hexStrToByteArray (text pairs) reverse = some ((order reverse pairs).map strtoul) := by
  have hloop : indexLoop (fun i => (at? (text pairs) i).bind fun a => (at? (text pairs) (i + 1)).map fun b => strtoul (a, b)) _ _
      turns _ = some ((order reverse pairs).map strtoul) :=
    indexLoop_order reverse two_pos h fun k hk => by
      have hnext : ((2 * k : Nat) : Int) + 1 = ((2 * k + 1 : Nat) : Int) := by push_cast; ring
      rw [hnext, at?_natCast, at?_natCast, (getElem?_text pairs k).1, (getElem?_text pairs k).2, getElem?_eq_getElem hk]
      rfl
  unfold hexStrToByteArray
  rw [length_text, if_neg (by omega)]
  cases reverse with
  | false =>
    have hlt : 2 * pairs.length < 2 ^ 31 := h.resolve_right fun h => Bool.noConfusion h.1
    rw [int32_eq (n := ((2 * pairs.length : Nat) : Int)) (by omega) (by omega)]
    simpa using hloop
  | true =>
    have hle : 2 * pairs.length ≤ 2 ^ 31 := by unfold Fits at h; omega
    rw [int32_eq (n := ((2 * pairs.length : Nat) : Int) - 2) (by omega) (by omega)]
    simpa using hloop

/-- No more bytes are written than there are indexes to read at. -/
theorem fits_of_hexStrToByteArray (h : hexStrToByteArray str reverse = some bytes) : Fits (2 * bytes.length) reverse := by
  unfold hexStrToByteArray at h
  by_cases hodd : str.length % 2 = 1
  · rw [if_pos hodd] at h
    cases h
    exact .inl (by decide)
  · rw [if_neg hodd] at h
    have hstop := stop_of_indexLoop h
    cases reverse with
    | false =>
      have := int32_lt str.length
      simp only [false_eq_true, if_false] at hstop
      exact .inl (by omega)
    | true =>
      have := int32_lt (str.length - 2)
      simp only [if_true] at hstop
      exact .inr ⟨rfl, by omega⟩

theorem order_order {α : Type} (l : List α) : order reverse (order reverse l) = l := by
  cases reverse with
  | false => rfl
  | true => exact reverse_reverse l

theorem order_map {α β : Type} (f : α → β) (l : List α) : (order reverse l).map f = order reverse (l.map f) := by
  cases reverse with
  | false => rfl
  | true => exact map_reverse

theorem bytes_back (bytes : List UInt8) (reverse : Bool) :
    (byteArrayToHexStr bytes reverse).bind (hexStrToByteArray · reverse) = some bytes ↔ Fits (2 * bytes.length) reverse := by
  constructor
  · intro h
    obtain ⟨str, -, hbytes⟩ := Option.bind_eq_some_iff.1 h
    exact fits_of_hexStrToByteArray hbytes
  · intro h
    have hlen : 2 * ((order reverse bytes).map digits).length = 2 * bytes.length := by cases reverse <;> simp [order]
    rw [byteArrayToHexStr_eq (by unfold Fits at h; omega), Option.bind_some, hexStrToByteArray_eq (by rwa [hlen])]
    congr 1
    rw [order_map digits, order_order, map_map]
    exact (map_congr_left fun b _ => strtoul_digits b).trans (map_id _)

theorem exists_pairs (n : Nat) : ∀ str : List Char, str.length = 2 * n → (∀ c ∈ str, IsDigit c) →
    ∃ pairs : List (Char × Char), str = text pairs ∧ ∀ p ∈ pairs, IsDigit p.1 ∧ IsDigit p.2 := by
  induction n with
  | zero =>
    intro str hlen _
    exact ⟨[], eq_nil_of_length_eq_zero hlen, nofun⟩
  | succ n ih =>
    intro str hlen hall
    match str, hlen, hall with
    | a :: b :: rest, hlen, hall =>
      obtain ⟨pairs, rfl, hpairs⟩ := ih rest (by simp only [length_cons] at hlen; omega) fun c hc => hall c (by simp [hc])
      exact ⟨(a, b) :: pairs, rfl, forall_mem_cons.2 ⟨⟨hall a (by simp), hall b (by simp)⟩, hpairs⟩⟩

structure DigitText where
  str : List Char
  even : str.length % 2 = 0
  digits : ∀ c ∈ str, IsDigit c

theorem text_back (t : DigitText) (reverse : Bool) :
    (hexStrToByteArray t.str reverse).bind (byteArrayToHexStr · reverse) = some t.str ↔ Fits t.str.length reverse := by
  constructor
  · intro h
    obtain ⟨bytes, hbytes, hstr⟩ := Option.bind_eq_some_iff.1 h
    have hfits := fits_of_hexStrToByteArray hbytes
    rw [byteArrayToHexStr_eq (by unfold Fits at hfits; omega)] at hstr
    rw [← Option.some.inj hstr]
    rwa [length_text, length_map, show (order reverse bytes).length = bytes.length by cases reverse <;> simp [order]]
  · intro h
    have heven := t.even
    obtain ⟨pairs, hpairs, hall⟩ := exists_pairs (t.str.length / 2) t.str (by omega) t.digits
    rw [hpairs] at h ⊢
    rw [length_text] at h
    have hlen : ((order reverse pairs).map strtoul).length = pairs.length := by cases reverse <;> simp [order]
    rw [hexStrToByteArray_eq h, Option.bind_some, byteArrayToHexStr_eq (by unfold Fits at h; omega)]
    congr 2
    rw [order_map strtoul, order_order, map_map]
    exact (map_congr_left fun p hp => digits_strtoul (hall p hp).1 (hall p hp).2).trans (map_id _)

/-- Bytes come back from their text, and a text from its bytes, exactly when the indexes fit. -/
theorem both_back_iff (bytes : List UInt8) (t : DigitText) (reverse : Bool) :
    ((byteArrayToHexStr bytes reverse).bind (hexStrToByteArray · reverse) = some bytes ↔ Fits (2 * bytes.length) reverse) ∧
      ((hexStrToByteArray t.str reverse).bind (byteArrayToHexStr · reverse) = some t.str ↔ Fits t.str.length reverse) :=
  ⟨bytes_back bytes reverse, text_back t reverse⟩

/-- A gigabyte of zeros. -/
theorem not_back_gigabyte : ¬ ∀ bytes reverse, (byteArrayToHexStr bytes reverse).bind (hexStrToByteArray · reverse) = some bytes := by
  intro h
  have hfits := (bytes_back (replicate (2 ^ 30) 0) false).1 (h _ _)
  rw [length_replicate] at hfits
  rcases hfits with hlt | ⟨hrev, -⟩
  · omega
  · cases hrev

end HexText

end ComfyCraft
