import ComfyCraft.Lib.Json
import Mathlib.Data.Int.Log
import Mathlib.Data.Rat.Floor

/-! Finite floating-point numbers as a stream prints them by default: so many significant digits, zeros at the end left out, and an exponent
where the number is very small or has more digits than that. -/

/-- A sign, which a zero has too, and the exact size. -/
structure FiniteFloat where
  neg : Bool
  magnitude : ℚ
  nonneg : 0 ≤ magnitude

namespace FiniteFloat

open List Json Bool Text

def roundEven (r : ℚ) : Nat :=
  let n := ⌊r⌋.toNat
  let rest := r - n
  if rest < 1 / 2 then n
  else if 1 / 2 < rest then n + 1
  else if n % 2 = 0 then n
  else n + 1

def significant (precision : Nat) (r : ℚ) : Nat × Int :=
  let exponent := Int.log 10 r
  let n := roundEven (r * (10 : ℚ) ^ ((precision : Int) - 1 - exponent))
  if n = 10 ^ precision then (10 ^ (precision - 1), exponent + 1) else (n, exponent)

def stripZeros (t : Text) : Text := t.rdropWhile fun c => c = '0'

def exponentDigits (exponent : Int) : Text := (if exponent.natAbs < 10 then ['0'] else []) ++ Text.decimal exponent.natAbs

/-- `%g`. -/
def text (precision : Nat) (x : FiniteFloat) : Text :=
  (if x.neg then ['-'] else []) ++
    if x.magnitude = 0 then ['0']
    else
      let exponent := (significant precision x.magnitude).2
      let digits := Text.decimal (significant precision x.magnitude).1
      if exponent < -4 ∨ (precision : Int) ≤ exponent then
        digits.take 1 ++ (Json.fractionText (stripZeros (digits.drop 1)) ++
          Json.exponentText (some (exponent < 0, exponentDigits exponent)))
      else if 0 ≤ exponent then
        digits.take (exponent.toNat + 1) ++ (Json.fractionText (stripZeros (digits.drop (exponent.toNat + 1))) ++ Json.exponentText none)
      else
        ['0'] ++ (Json.fractionText (List.replicate (-exponent - 1).toNat '0' ++ stripZeros digits) ++ Json.exponentText none)

theorem isDigit_stripZeros {t : Text} (h : ∀ c ∈ t, c.isDigit = true) : ∀ c ∈ stripZeros t, c.isDigit = true :=
  fun c hc => h c ((List.rdropWhile_prefix _ t).subset hc)

theorem isDigits_exponentDigits (exponent : Int) : Json.isDigits (exponentDigits exponent) = true := by
  obtain ⟨hne, hdigits⟩ := isDigits_iff.1 (isDigits_decimal exponent.natAbs)
  refine isDigits_iff.2 ⟨?_, fun c hc => ?_⟩
  · exact append_ne_nil_of_right_ne_nil _ hne
  rcases mem_append.1 hc with hzero | hc
  · split_ifs at hzero
    · rw [mem_singleton.1 hzero]
      rfl
    · cases hzero
  · exact hdigits c hc

/-- The first digits of a number are a number. -/
theorem isInt_take (n k : Nat) : Json.isInt ((Text.decimal n).take (k + 1)) = true := by
  obtain ⟨hne, hdigits⟩ := isDigits_iff.1 (isDigits_decimal n)
  have hint := (and_eq_true_iff.1 (isInt_decimal n)).2
  cases hd : decimal n with
  | nil => exact absurd hd hne
  | cons c t =>
    rw [hd] at hdigits hint
    unfold isInt
    rw [take_succ_cons, and_eq_true]
    refine ⟨isDigits_iff.2 ⟨cons_ne_nil _ _, fun d hd => hdigits d ?_⟩, ?_⟩
    · rcases mem_cons.1 hd with rfl | hd
      · exact mem_cons_self
      · exact mem_cons_of_mem c (mem_of_mem_take hd)
    rw [or_eq_true, decide_eq_true_eq, decide_eq_true_eq] at hint ⊢
    rcases hint with hone | hhead
    · left
      rw [length_cons] at hone ⊢
      rw [length_take]
      omega
    · exact Or.inr hhead

theorem isNumber_text (precision : Nat) (x : FiniteFloat) : Json.isNumber (x.text precision) = true := by
  unfold text
  generalize (significant precision x.magnitude).1 = n
  generalize (significant precision x.magnitude).2 = exponent
  have hdigits : ∀ c ∈ decimal n, c.isDigit = true := fun c hc => isDigit_decimal hc
  have hdrop : ∀ k, ∀ c ∈ stripZeros ((decimal n).drop k), c.isDigit = true := fun k =>
    isDigit_stripZeros fun c hc => hdigits c (mem_of_mem_drop hc)
  have hnone : ∀ e ∈ (none : Option (Bool × Text)), isDigits e.2 = true := fun e he => by cases he
  dsimp only
  by_cases hzero : x.magnitude = 0
  · rw [if_pos hzero]
    exact isNumber_decimal x.neg 0
  rw [if_neg hzero]
  by_cases hscientific : exponent < -4 ∨ (precision : Int) ≤ exponent
  · rw [if_pos hscientific]
    refine isNumber_parts x.neg (isInt_take n 0) (hdrop 1) fun e he => ?_
    cases he
    exact isDigits_exponentDigits exponent
  rw [if_neg hscientific]
  by_cases hwhole : 0 ≤ exponent
  · rw [if_pos hwhole]
    exact isNumber_parts x.neg (isInt_take n exponent.toNat) (hdrop _) hnone
  rw [if_neg hwhole]
  refine isNumber_parts x.neg rfl (fun c hc => ?_) hnone
  rcases mem_append.1 hc with hc | hc
  · rw [eq_of_mem_replicate hc]
    rfl
  · exact isDigit_stripZeros hdigits c hc

end FiniteFloat

namespace Json.Number

def ofFloat (precision : Nat) (x : FiniteFloat) : Number := ⟨x.text precision, x.isNumber_text precision⟩

end Json.Number
