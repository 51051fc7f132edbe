import ComfyCraft.Lib.Text
import Mathlib.Data.UInt
import Mathlib.Algebra.Order.Ring.Int
import Mathlib.Tactic.Ring

/-! Spans of time as texts, and the short texts read back. -/

namespace ComfyCraft.Util

open List UInt32 Text

def MINUTE : Int := 60
def HOUR : Int := MINUTE * 60
def DAY : Int := HOUR * 24

def streamed (n : Int) : Text := if n < 0 then '-' :: Text.decimal n.natAbs else Text.decimal n.toNat

def timeUnit (n : Int) (shortText singular : Bool) (short one many : String) : Text :=
  streamed n ++ (if shortText then short else if singular then one else many).toList

def secsToTimeString (timeInSecs : Int) (shortText hoursOnly : Bool) : Text :=
  let secs := timeInSecs.tmod MINUTE
  let minutes := (timeInSecs.tmod HOUR).tdiv MINUTE
  let hours := (timeInSecs.tmod DAY).tdiv HOUR
  let days := timeInSecs.tdiv DAY
  (if days ≠ 0 then timeUnit days shortText (days = 1) "d" " Day " " Days " else []) ++
    (if hours ≠ 0 ∨ hoursOnly then timeUnit hours shortText (hours ≤ 1) "h" " Hour " " Hours " else []) ++
    if hoursOnly then []
    else
      (if minutes ≠ 0 then timeUnit minutes shortText (minutes = 1) "m" " Minute " " Minutes " else []) ++
        if secs ≠ 0 ∨ (days = 0 ∧ hours = 0 ∧ minutes = 0) then
          timeUnit secs shortText (secs ≤ 1) "s" " Second." " Seconds."
        else []

def timeMultiplier (c : Char) : Option UInt32 :=
  if c = 'd' then some 86400 else if c = 'h' then some 3600 else if c = 'm' then some 60 else if c = 's' then some 1 else none

/-- The loop of `TimeStringToSecs`. -/
def readTime (secs buffer : UInt32) : Text → UInt32
  | [] => secs
  | c :: cs =>
    if c.isDigit then readTime secs (buffer * 10 + UInt32.ofNat (c.toNat - '0'.toNat)) cs
    else
      match timeMultiplier c with
      | none => 0
      | some multiplier => readTime (secs + buffer * multiplier) 0 cs

def TimeStringToSecs (timestring : Text) : UInt32 := readTime 0 0 timestring

/-! ### Reading back what was written -/

/-- Digits add up to their number, modulo what a `uint32` holds. -/
theorem readTime_digits {l : Text} (hl : ∀ c ∈ l, c.isDigit = true) (secs : UInt32) (n : Nat) (rest : Text) :
    readTime secs (UInt32.ofNat n) (l ++ rest) = readTime secs (UInt32.ofNat (Nat.ofDigitChars 10 l n)) rest := by
  induction l generalizing n with
  | nil => rfl
  | cons c l ih =>
    rw [cons_append, readTime, if_pos (hl c mem_cons_self), Nat.ofDigitChars_cons, ← ih fun x hx => hl x (mem_cons_of_mem c hx)]
    congr 1
    rw [ofNat_add, ofNat_mul, mul_comm]
    rfl

/-- A unit adds its seconds; a unit that is left out must be zero. -/
theorem readTime_unit {c : Char} {m : UInt32} (hc : c.isDigit = false) (hm : timeMultiplier c = some m) (secs : UInt32) {n : Int}
    (hn : 0 ≤ n) {singular : Bool} {short one many : String} (hshort : short.toList = [c]) {p : Prop} [Decidable p]
    (hp : ¬ p → n = 0) (rest : Text) :
    readTime secs 0 ((if p then timeUnit n true singular short one many else []) ++ rest) =
      readTime (secs + UInt32.ofNat n.toNat * m) 0 rest := by
  split
  · have hdigits : ∀ x ∈ decimal n.toNat, x.isDigit = true := fun x hx =>
      Nat.isDigit_of_mem_toDigits (by decide) (by decide) hx
    have hread := readTime_digits hdigits secs 0 ([c] ++ rest)
    rw [decimal, Nat.ofDigitChars_ten_toDigits] at hread
    rw [timeUnit, streamed, if_neg (by omega), if_pos rfl, hshort, append_assoc, decimal]
    refine hread.trans ?_
    rw [singleton_append, readTime, if_neg (by rw [hc]; decide), hm]
  · rename_i hnot
    rw [hp hnot, nil_append]
    simp

/-- The short text of a time is read as that time. -/
theorem TimeStringToSecs_secsToTimeString (t : UInt32) : TimeStringToSecs (secsToTimeString t.toNat true false) = t := by
  have hnonneg : (0 : Int) ≤ t.toNat := Int.natCast_nonneg _
  unfold TimeStringToSecs secsToTimeString
  simp only [DAY, HOUR, MINUTE, Int.tmod_eq_emod_of_nonneg hnonneg, Int.tdiv_eq_ediv_of_nonneg hnonneg]
  rw [Int.tdiv_eq_ediv_of_nonneg (by omega), Int.tdiv_eq_ediv_of_nonneg (by omega)]
  generalize hd : (t.toNat : Int) / (60 * 60 * 24) = days
  generalize hh : (t.toNat : Int) % (60 * 60 * 24) / (60 * 60) = hours
  generalize hm : (t.toNat : Int) % (60 * 60) / 60 = minutes
  generalize hs : (t.toNat : Int) % 60 = secs
  rw [append_assoc, readTime_unit (m := 86400) (by decide) (by decide) 0 (by omega) rfl (by omega),
    readTime_unit (m := 3600) (by decide) (by decide) _ (by omega) rfl (by simp), if_neg (by decide),
    readTime_unit (m := 60) (by decide) (by decide) _ (by omega) rfl (by omega)]
  refine (congrArg (readTime _ 0) (append_nil _).symm).trans ?_
  rw [readTime_unit (m := 1) (by decide) (by decide) _ (by omega) rfl (by omega)]
  have hsum : days.toNat * 86400 + hours.toNat * 3600 + minutes.toNat * 60 + secs.toNat = t.toNat := by omega
  calc readTime _ 0 [] = ofNat (days.toNat * 86400 + hours.toNat * 3600 + minutes.toNat * 60 + secs.toNat) := by
        simp only [readTime, ofNat_add, ofNat_mul]
        simp
    _ = t := by rw [hsum, UInt32.ofNat_toNat]

end ComfyCraft.Util
