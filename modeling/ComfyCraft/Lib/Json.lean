import ComfyCraft.Lib.Text

/-! JSON texts and their values. A reader takes a text to the value it stands for, with its strings unescaped; a writer without blanks, whatever it
escapes strings with, is read back. -/

namespace Json

open List Option Bool Char Nat Text

/-! ### Numbers -/

def isNumberChar (c : Char) : Bool := c.isDigit || c = '-' || c = '+' || c = '.' || c = 'e' || c = 'E'

def isDigits (t : Text) : Bool := !t.isEmpty && t.all Char.isDigit

/-- No zero in front of another digit. -/
def isInt (t : Text) : Bool := isDigits t && (t.length = 1 || t.head? ≠ some '0')

def isExponent : Text → Bool
  | [] => true
  | c :: t => (c = 'e' || c = 'E') && isDigits (match t with | '-' :: u => u | '+' :: u => u | u => u)

def isFraction : Text → Bool
  | '.' :: t => isDigits (t.takeWhile Char.isDigit) && isExponent (t.dropWhile Char.isDigit)
  | t => isExponent t

/-- A number: a sign, digits, a fraction and an exponent, all but the digits optional. -/
def isNumber (t : Text) : Bool :=
  let u := match t with | '-' :: u => u | u => u
  t.all isNumberChar && isInt (u.takeWhile Char.isDigit) && isFraction (u.dropWhile Char.isDigit)

structure Number where
  text : Text
  valid : isNumber text = true

theorem isNumberChar_digit {c : Char} (h : c.isDigit = true) : isNumberChar c = true := by
  unfold isNumberChar
  rw [h]
  rfl

variable {t fraction : Text} {exponent : Option (Bool × Text)}

theorem isDigits_iff : isDigits t = true ↔ t ≠ [] ∧ ∀ c ∈ t, c.isDigit = true := by
  unfold isDigits
  cases t <;> simp

theorem digits_split {u : Text} (ht : ∀ c ∈ t, c.isDigit = true) (hu : ∀ c ∈ u.head?, c.isDigit = false) :
    (t ++ u).takeWhile Char.isDigit = t ∧ (t ++ u).dropWhile Char.isDigit = u := by
  have htake : u.takeWhile isDigit = [] ∧ u.dropWhile isDigit = u := by
    cases u with
    | nil => exact ⟨rfl, rfl⟩
    | cons c u =>
      have hc := hu c rfl
      exact ⟨takeWhile_cons_of_neg (by simp [hc]), dropWhile_cons_of_neg (by simp [hc])⟩
  rw [takeWhile_append_of_pos ht, dropWhile_append_of_pos ht, htake.1, htake.2, append_nil]
  exact ⟨rfl, rfl⟩

def fractionText (fraction : Text) : Text := if fraction.isEmpty then [] else '.' :: fraction

def exponentText : Option (Bool × Text) → Text
  | none => []
  | some (neg, digits) => 'e' :: (if neg then '-' else '+') :: digits

theorem isExponent_exponentText (h : ∀ e ∈ exponent, isDigits e.2 = true) : isExponent (exponentText exponent) = true := by
  cases exponent with
  | none => rfl
  | some e =>
    obtain ⟨neg, digits⟩ := e
    have hdigits := h (neg, digits) rfl
    cases neg <;> simpa [exponentText, isExponent] using hdigits

theorem head_exponentText (exponent : Option (Bool × Text)) : ∀ c ∈ (exponentText exponent).head?, c = 'e' := by
  intro c hc
  cases exponent with
  | none => cases hc
  | some e =>
    cases hc
    rfl

theorem isFraction_parts (hfraction : ∀ c ∈ fraction, c.isDigit = true)
    (hexponent : ∀ e ∈ exponent, isDigits e.2 = true) : isFraction (fractionText fraction ++ exponentText exponent) = true := by
  have hend := isExponent_exponentText hexponent
  unfold fractionText
  cases hf : fraction with
  | nil =>
    change isFraction (exponentText exponent) = true
    cases he : exponentText exponent with
    | nil => rfl
    | cons c t =>
      obtain rfl : c = 'e' := head_exponentText exponent c (by rw [he]; rfl)
      rw [he] at hend
      exact hend
  | cons d ds =>
    rw [← hf, if_neg (by simp [hf])]
    have hsplit := digits_split (u := exponentText exponent) hfraction fun c hc => by
      rw [head_exponentText exponent c hc]
      rfl
    change (isDigits ((fraction ++ exponentText exponent).takeWhile isDigit) &&
      isExponent ((fraction ++ exponentText exponent).dropWhile isDigit)) = true
    rw [hsplit.1, hsplit.2, hend, Bool.and_true, isDigits_iff]
    exact ⟨by simp [hf], hfraction⟩

theorem all_isNumberChar (h : ∀ c ∈ t, c.isDigit = true) : t.all isNumberChar = true :=
  all_eq_true.2 fun c hc => isNumberChar_digit (h c hc)

theorem isNumber_parts (neg : Bool) {int : Text} (hint : isInt int = true)
    (hfraction : ∀ c ∈ fraction, c.isDigit = true) (hexponent : ∀ e ∈ exponent, isDigits e.2 = true) :
    isNumber ((if neg then ['-'] else []) ++ (int ++ (fractionText fraction ++ exponentText exponent))) = true := by
  have hdigits := isDigits_iff.1 (and_eq_true_iff.1 hint).1
  have htail : (fractionText fraction ++ exponentText exponent).all isNumberChar = true := by
    rw [all_append, and_eq_true]
    constructor
    · unfold fractionText
      split_ifs
      · rfl
      · rw [all_cons, all_isNumberChar hfraction]
        rfl
    · cases exponent with
      | none => rfl
      | some e =>
        have he := all_isNumberChar (isDigits_iff.1 (hexponent e rfl)).2
        obtain ⟨neg, digits⟩ := e
        cases neg <;> simpa [exponentText, isNumberChar] using he
  have hchars : (int ++ (fractionText fraction ++ exponentText exponent)).all isNumberChar = true := by
    rw [all_append, all_isNumberChar hdigits.2, htail]
    rfl
  have hsplit := digits_split (u := fractionText fraction ++ exponentText exponent) hdigits.2 fun c hc => by
    unfold fractionText at hc
    split_ifs at hc
    · rw [head_exponentText exponent c hc]
      rfl
    · cases hc
      rfl
  have hplain : ∀ u : Text, u = int ++ (fractionText fraction ++ exponentText exponent) →
      (u.all isNumberChar && isInt (u.takeWhile isDigit) && isFraction (u.dropWhile isDigit)) = true := by
    rintro u rfl
    rw [hchars, hsplit.1, hsplit.2, hint, isFraction_parts hfraction hexponent]
    rfl
  cases neg with
  | true =>
    have h := hplain _ rfl
    simpa [isNumber, isNumberChar] using h
  | false =>
    change isNumber (int ++ (fractionText fraction ++ exponentText exponent)) = true
    cases int with
    | nil => exact absurd rfl hdigits.1
    | cons d ds =>
      have hd : d ≠ '-' := by
        rintro rfl
        exact absurd (hdigits.2 '-' mem_cons_self) (by decide)
      have h := hplain _ rfl
      unfold isNumber
      split
      · rename_i heq
        exact absurd (cons.inj heq).1 hd
      · exact h

theorem head_decimal {n : Nat} (hn : 0 < n) : (Text.decimal n).head? ≠ some '0' := by
  induction n using Nat.strong_induction_on with
  | _ n ih =>
    unfold decimal at ih ⊢
    rcases lt_or_ge n 10 with hlt | hge
    · rw [toDigits_of_lt_base hlt]
      have hall : ∀ k < 10, 0 < k → digitChar k ≠ '0' := by decide
      exact fun h => hall n hlt hn (some.inj h)
    · rw [toDigits_of_base_le (by decide) hge, head?_append_of_ne_nil _ toDigits_ne_nil]
      exact ih (n / 10) (by omega) (by omega)

theorem isDigits_decimal (n : Nat) : isDigits (Text.decimal n) = true :=
  isDigits_iff.2 ⟨toDigits_ne_nil, fun _ hc => isDigit_decimal hc⟩

theorem isInt_decimal (n : Nat) : isInt (Text.decimal n) = true := by
  unfold isInt
  rw [isDigits_decimal, Bool.true_and, Bool.or_eq_true, decide_eq_true_eq, decide_eq_true_eq]
  cases n with
  | zero => exact .inl rfl
  | succ n => exact .inr (head_decimal (Nat.succ_pos n))

theorem isNumber_decimal (neg : Bool) (n : Nat) : isNumber ((if neg then ['-'] else []) ++ Text.decimal n) = true := by
  have h : isNumber ((if neg then ['-'] else []) ++ (decimal n ++ (fractionText [] ++ exponentText none))) = true :=
    isNumber_parts neg (isInt_decimal n) (fun c hc => absurd hc not_mem_nil) fun e he => by cases he
  simpa [fractionText, exponentText] using h

namespace Number

def ofNat (n : Nat) : Number := ⟨Text.decimal n, isNumber_decimal false n⟩

def ofInt (i : Int) : Number where
  text := Text.signed i
  valid := by
    unfold Text.signed
    split_ifs
    · exact isNumber_decimal true i.natAbs
    · exact isNumber_decimal false i.natAbs

theorem all_isNumberChar (n : Number) : n.text.all isNumberChar = true := (and_eq_true_iff.1 (and_eq_true_iff.1 n.valid).1).1

theorem head (n : Number) : ∃ c t, n.text = c :: t ∧ (c = '-' ∨ c.isDigit = true) := by
  have hint := (and_eq_true_iff.1 (and_eq_true_iff.1 n.valid).1).2
  split at hint
  · rename_i u hu
    exact ⟨'-', u, hu, .inl rfl⟩
  obtain ⟨hne, hdigits⟩ := isDigits_iff.1 (and_eq_true_iff.1 hint).1
  cases ht : n.text with
  | nil =>
    rw [ht] at hne
    exact absurd rfl hne
  | cons c t =>
    refine ⟨c, t, rfl, .inr ?_⟩
    by_contra hc
    rw [ht, takeWhile_cons_of_neg hc] at hne
    exact hne rfl

end Number

/-! ### Values -/

end Json

inductive Json
  | null
  | bool (b : Bool)
  | number (n : Json.Number)
  | string (s : Text)
  | array (elements : List Json)
  | object (members : List (Text × Json))

namespace Json

def member (key : Text) : Json → Option Json
  | .object members => members.lookup key
  | _ => none

/-! ### Strings -/

/-- A character as UTF-8, a byte for each character of the text. -/
def utf8 (n : Nat) : Text :=
  if n < 0x80 then [Char.ofNat n]
  else if n < 0x800 then [Char.ofNat (0xc0 + n / 0x40), Char.ofNat (0x80 + n % 0x40)]
  else if n < 0x10000 then [Char.ofNat (0xe0 + n / 0x1000), Char.ofNat (0x80 + n / 0x40 % 0x40), Char.ofNat (0x80 + n % 0x40)]
  else [Char.ofNat (0xf0 + n / 0x40000), Char.ofNat (0x80 + n / 0x1000 % 0x40), Char.ofNat (0x80 + n / 0x40 % 0x40),
    Char.ofNat (0x80 + n % 0x40)]

def hexDigit (c : Char) : Option Nat :=
  if '0' ≤ c ∧ c ≤ '9' then some (c.toNat - 48)
  else if 'a' ≤ c ∧ c ≤ 'f' then some (c.toNat - 87)
  else if 'A' ≤ c ∧ c ≤ 'F' then some (c.toNat - 55)
  else none

def code : Text → Option (Nat × Text)
  | a :: b :: c :: d :: rest =>
    match hexDigit a, hexDigit b, hexDigit c, hexDigit d with
    | some a, some b, some c, some d => some (a * 4096 + b * 256 + c * 16 + d, rest)
    | _, _, _, _ => none
  | _ => none

def isHigh (n : Nat) : Bool := 0xd800 ≤ n && n < 0xdc00

def isLow (n : Nat) : Bool := 0xdc00 ≤ n && n < 0xe000

/-- What stands behind a backslash; the second of a pair of surrogates has to come with the first. -/
def escape : Text → Option (Text × Text)
  | '"' :: rest => some (['"'], rest)
  | '\\' :: rest => some (['\\'], rest)
  | '/' :: rest => some (['/'], rest)
  | 'b' :: rest => some (['\x08'], rest)
  | 'f' :: rest => some (['\x0c'], rest)
  | 'n' :: rest => some (['\n'], rest)
  | 'r' :: rest => some (['\r'], rest)
  | 't' :: rest => some (['\t'], rest)
  | 'u' :: rest =>
    match code rest with
    | none => none
    | some (n, rest) =>
      if isLow n then none
      else if isHigh n then
        match rest with
        | '\\' :: 'u' :: rest =>
          match code rest with
          | none => none
          | some (m, rest) => if isLow m then some (utf8 (0x10000 + (n - 0xd800) * 0x400 + (m - 0xdc00)), rest) else none
        | _ => none
      else some (utf8 n, rest)
  | _ => none

/-- A string, from behind its first quote on to behind its last; control characters do not stand in it. -/
def chars : Nat → Text → Option (Text × Text)
  | 0, _ => none
  | _ + 1, [] => none
  | fuel + 1, c :: rest =>
    if c = '"' then some ([], rest)
    else if c = '\\' then (escape rest).bind fun (s, rest) => (chars fuel rest).map fun r => (s ++ r.1, r.2)
    else if c.toNat < 0x20 then none
    else (chars fuel rest).map fun r => (c :: r.1, r.2)

/-! ### Reading -/

def isBlank (c : Char) : Bool := c = ' ' || c = '\t' || c = '\n' || c = '\r'

def skip (t : Text) : Text := t.dropWhile isBlank

def readString (t : Text) : Option (Text × Text) := chars (t.length + 1) t

def readNumber (t : Text) : Option (Json × Text) :=
  if h : isNumber (t.takeWhile isNumberChar) = true then some (.number ⟨t.takeWhile isNumberChar, h⟩, t.dropWhile isNumberChar) else none

def readWord (w : Text) (j : Json) (t : Text) : Option (Json × Text) := if w <+: t then some (j, t.drop w.length) else none

mutual

def readValue : Nat → Text → Option (Json × Text)
  | 0, _ => none
  | fuel + 1, t =>
    match skip t with
    | [] => none
    | c :: rest =>
      if c = '"' then (readString rest).map fun r => (.string r.1, r.2)
      else if c = '[' then
        if (skip rest).head? = some ']' then some (.array [], (skip rest).tail)
        else (readElements fuel rest).map fun r => (.array r.1, r.2)
      else if c = '\x7b' then
        if (skip rest).head? = some '\x7d' then some (.object [], (skip rest).tail)
        else (readMembers fuel rest).map fun r => (.object r.1, r.2)
      else if c = 't' then readWord "true".toList (.bool true) (c :: rest)
      else if c = 'f' then readWord "false".toList (.bool false) (c :: rest)
      else if c = 'n' then readWord "null".toList .null (c :: rest)
      else readNumber (c :: rest)

def readElements : Nat → Text → Option (List Json × Text)
  | 0, _ => none
  | fuel + 1, t =>
    (readValue fuel t).bind fun (j, rest) =>
      match skip rest with
      | ']' :: rest => some ([j], rest)
      | ',' :: rest => (readElements fuel rest).map fun r => (j :: r.1, r.2)
      | _ => none

/-- Strings and values with colons between them, and commas between the pairs, up to the brace. -/
def readMembers : Nat → Text → Option (List (Text × Json) × Text)
  | 0, _ => none
  | fuel + 1, t =>
    match skip t with
    | '"' :: rest =>
      (readString rest).bind fun (key, rest) =>
        match skip rest with
        | ':' :: rest =>
          (readValue fuel rest).bind fun (j, rest) =>
            match skip rest with
            | '\x7d' :: rest => some ([(key, j)], rest)
            | ',' :: rest => (readMembers fuel rest).map fun r => ((key, j) :: r.1, r.2)
            | _ => none
        | _ => none
    | _ => none

end

def parse (t : Text) : Option Json :=
  match readValue (t.length + 1) t with
  | none => none
  | some (j, rest) => if (skip rest).isEmpty then some j else none

/-! ### Writing -/

section
variable (esc : Text → Text)

mutual

def write : Json → Text → Text
  | .null, rest => "null".toList ++ rest
  | .bool b, rest => (if b then "true".toList else "false".toList) ++ rest
  | .number n, rest => n.text ++ rest
  | .string s, rest => '"' :: (esc s ++ '"' :: rest)
  | .array [], rest => '[' :: ']' :: rest
  | .array (j :: js), rest => '[' :: write j (writeElements js (']' :: rest))
  | .object [], rest => '\x7b' :: '\x7d' :: rest
  | .object ((key, j) :: ms), rest => '\x7b' :: '"' :: (esc key ++ '"' :: ':' :: write j (writeMembers ms ('\x7d' :: rest)))

def writeElements : List Json → Text → Text
  | [], rest => rest
  | j :: js, rest => ',' :: write j (writeElements js rest)

def writeMembers : List (Text × Json) → Text → Text
  | [], rest => rest
  | (key, j) :: ms, rest => ',' :: '"' :: (esc key ++ '"' :: ':' :: write j (writeMembers ms rest))

end

/-! ### What is written is read back -/

/-- A string is read back to its last quote. -/
def Reads : Prop := ∀ s rest, readString (esc s ++ '"' :: rest) = some (s, rest)

mutual

def need : Json → Nat
  | .null => 1
  | .bool _ => 1
  | .number _ => 1
  | .string _ => 1
  | .array js => 1 + needElements js
  | .object ms => 1 + needMembers ms

def needElements : List Json → Nat
  | [] => 0
  | j :: js => 1 + need j + needElements js

def needMembers : List (Text × Json) → Nat
  | [] => 0
  | (_, j) :: ms => 1 + need j + needMembers ms

end

mutual

theorem need_write (j : Json) (rest : Text) : need j + rest.length ≤ (write esc j rest).length := by
  cases j with
  | null =>
    rw [write, need, List.length_append]
    exact Nat.add_le_add_right (by decide) _
  | bool b =>
    rw [write, need, List.length_append]
    exact Nat.add_le_add_right (by cases b <;> decide) _
  | number n =>
    obtain ⟨c, t, ht, -⟩ := n.head
    rw [write, need, List.length_append, ht, List.length_cons]
    omega
  | string s =>
    rw [write, need, List.length_cons, List.length_append, List.length_cons]
    omega
  | array js =>
    cases js with
    | nil =>
      rw [write, need, needElements, List.length_cons, List.length_cons]
      omega
    | cons j js =>
      have hj := need_write j (writeElements esc js (']' :: rest))
      have hjs := needElements_write js (']' :: rest)
      rw [write, need, needElements, List.length_cons]
      rw [List.length_cons] at hjs
      omega
  | object ms =>
    cases ms with
    | nil =>
      rw [write, need, needMembers, List.length_cons, List.length_cons]
      omega
    | cons m ms =>
      obtain ⟨key, j⟩ := m
      have hj := need_write j (writeMembers esc ms ('\x7d' :: rest))
      have hms := needMembers_write ms ('\x7d' :: rest)
      rw [write, need, needMembers, List.length_cons, List.length_cons, List.length_append, List.length_cons, List.length_cons]
      rw [List.length_cons] at hms
      omega

theorem needElements_write (js : List Json) (rest : Text) : needElements js + rest.length ≤ (writeElements esc js rest).length := by
  cases js with
  | nil =>
    rw [writeElements, needElements]
    omega
  | cons j js =>
    have hj := need_write j (writeElements esc js rest)
    have hjs := needElements_write js rest
    rw [writeElements, needElements, List.length_cons]
    omega

theorem needMembers_write (ms : List (Text × Json)) (rest : Text) : needMembers ms + rest.length ≤
    (writeMembers esc ms rest).length := by
  cases ms with
  | nil =>
    rw [writeMembers, needMembers]
    omega
  | cons m ms =>
    obtain ⟨key, j⟩ := m
    have hj := need_write j (writeMembers esc ms rest)
    have hms := needMembers_write ms rest
    rw [writeMembers, needMembers, List.length_cons, List.length_cons, List.length_append, List.length_cons, List.length_cons]
    omega

end

/-- How a value begins: not with a blank, nor with what ends a list. -/
theorem write_head (j : Json) (rest : Text) : ∃ c t, write esc j rest = c :: t ∧ isBlank c = false ∧ c ≠ ']' ∧ c ≠ '\x7d' := by
  cases j with
  | null => exact ⟨'n', _, rfl, by decide, by decide, by decide⟩
  | bool b =>
    cases b with
    | true => exact ⟨'t', _, rfl, by decide, by decide, by decide⟩
    | false => exact ⟨'f', _, rfl, by decide, by decide, by decide⟩
  | number n =>
    obtain ⟨c, t, ht, hc⟩ := n.head
    refine ⟨c, t ++ rest, by rw [write, ht]; rfl, ?_⟩
    rcases hc with rfl | hc
    · exact ⟨by decide, by decide, by decide⟩
    refine ⟨?_, ?_, ?_⟩
    · refine Bool.eq_false_iff.2 fun hblank => ?_
      unfold isBlank at hblank
      simp only [Bool.or_eq_true, decide_eq_true_eq] at hblank
      rcases hblank with ((rfl | rfl) | rfl) | rfl <;> exact absurd hc (by decide)
    · rintro rfl
      exact absurd hc (by decide)
    · rintro rfl
      exact absurd hc (by decide)
  | string s => exact ⟨'"', _, by rw [write], by decide, by decide, by decide⟩
  | array js =>
    cases js with
    | nil => exact ⟨'[', _, by rw [write], by decide, by decide, by decide⟩
    | cons j js => exact ⟨'[', _, by rw [write], by decide, by decide, by decide⟩
  | object ms =>
    cases ms with
    | nil => exact ⟨'\x7b', _, by rw [write], by decide, by decide, by decide⟩
    | cons m ms =>
      obtain ⟨key, j⟩ := m
      exact ⟨'\x7b', _, by rw [write], by decide, by decide, by decide⟩

theorem skip_cons {c : Char} (h : isBlank c = false) (t : Text) : skip (c :: t) = c :: t :=
  List.dropWhile_cons_of_neg (by simp [h])

theorem skip_write (j : Json) (rest : Text) :
    skip (write esc j rest) = write esc j rest ∧ (write esc j rest).head? ≠ some ']' := by
  obtain ⟨c, t, ht, hblank, hbracket, -⟩ := write_head esc j rest
  rw [ht]
  exact ⟨skip_cons hblank t, fun h => hbracket (Option.some.inj h)⟩

/-- A number that stands before this ends there. -/
def Ends (rest : Text) : Prop := ∀ c ∈ rest.head?, isNumberChar c = false

theorem readNumber_write (n : Number) {rest : Text} (hend : Ends rest) : readNumber (n.text ++ rest) = some (.number n, rest) := by
  have hall := List.all_eq_true.1 n.all_isNumberChar
  have hstop : rest.takeWhile isNumberChar = [] ∧ rest.dropWhile isNumberChar = rest := by
    cases rest with
    | nil => exact ⟨rfl, rfl⟩
    | cons c rest =>
      have hc := hend c rfl
      exact ⟨List.takeWhile_cons_of_neg (by simp [hc]), List.dropWhile_cons_of_neg (by simp [hc])⟩
  have htake : (n.text ++ rest).takeWhile isNumberChar = n.text := by
    rw [List.takeWhile_append_of_pos hall, hstop.1, List.append_nil]
  have hdrop : (n.text ++ rest).dropWhile isNumberChar = rest := by
    rw [List.dropWhile_append_of_pos hall, hstop.2]
  unfold readNumber
  simp only [htake, hdrop]
  exact dif_pos n.valid

theorem ends_writeElements (js : List Json) (rest : Text) : Ends (writeElements esc js (']' :: rest)) := by
  intro c hc
  cases js with
  | nil =>
    cases hc
    rfl
  | cons j js =>
    rw [writeElements] at hc
    cases hc
    rfl

theorem ends_writeMembers (ms : List (Text × Json)) (rest : Text) : Ends (writeMembers esc ms ('\x7d' :: rest)) := by
  intro c hc
  cases ms with
  | nil =>
    cases hc
    rfl
  | cons m ms =>
    obtain ⟨key, j⟩ := m
    rw [writeMembers] at hc
    cases hc
    rfl

variable {esc}

/-- What is written of a value is read back as that value, with so much fuel. -/
def ReadsValues (esc : Text → Text) (fuel : Nat) : Prop :=
  ∀ j rest, Ends rest → need j ≤ fuel → readValue fuel (write esc j rest) = some (j, rest)

def ReadsElements (esc : Text → Text) (fuel : Nat) : Prop :=
  ∀ j js rest, 1 + need j + needElements js ≤ fuel →
    readElements fuel (write esc j (writeElements esc js (']' :: rest))) = some (j :: js, rest)

def ReadsMembers (esc : Text → Text) (fuel : Nat) : Prop :=
  ∀ key j ms rest, 1 + need j + needMembers ms ≤ fuel →
    readMembers fuel ('"' :: (esc key ++ '"' :: ':' :: write esc j (writeMembers esc ms ('\x7d' :: rest)))) = some ((key, j) :: ms, rest)

variable {fuel : Nat}

theorem readsValues_succ (hesc : Reads esc) (helements : ReadsElements esc fuel) (hmembers : ReadsMembers esc fuel) :
    ReadsValues esc (fuel + 1) := by
  intro j rest hend hfuel
  cases j with
  | null => rfl
  | bool b => cases b <;> rfl
  | number n =>
    obtain ⟨c, t, ht, hc⟩ := n.head
    have hread := readNumber_write n hend
    have hhead := skip_write esc (.number n) rest
    rw [write, ht] at hhead
    rw [ht] at hread
    have hother : ∀ x : Char, x.isDigit = false → x ≠ '-' → c ≠ x := by
      rintro x hx hminus rfl
      rcases hc with rfl | hdigit
      · exact hminus rfl
      · rw [hx] at hdigit
        cases hdigit
    rw [write, ht, readValue, hhead.1, List.cons_append]
    dsimp only
    rw [if_neg (hother '"' rfl (by decide)), if_neg (hother '[' rfl (by decide)), if_neg (hother '\x7b' rfl (by decide)),
      if_neg (hother 't' rfl (by decide)), if_neg (hother 'f' rfl (by decide)), if_neg (hother 'n' rfl (by decide))]
    exact hread
  | string s =>
    rw [write, readValue, skip_cons rfl]
    dsimp only
    rw [if_pos rfl, hesc]
    rfl
  | array js =>
    cases js with
    | nil =>
      rw [write, readValue, skip_cons rfl]
      rfl
    | cons j js =>
      have hread := helements j js rest (by rw [need, needElements] at hfuel; omega)
      obtain ⟨hskip, hopen⟩ := skip_write esc j (writeElements esc js (']' :: rest))
      rw [write, readValue, skip_cons rfl]
      dsimp only
      rw [if_neg (by decide), if_pos rfl, hskip, if_neg hopen, hread]
      rfl
  | object ms =>
    cases ms with
    | nil =>
      rw [write, readValue, skip_cons rfl]
      rfl
    | cons m ms =>
      obtain ⟨key, j⟩ := m
      have hread := hmembers key j ms rest (by rw [need, needMembers] at hfuel; omega)
      have hopen : ('"' :: (esc key ++ '"' :: ':' :: write esc j (writeMembers esc ms ('\x7d' :: rest)))).head? ≠ some '\x7d' :=
        fun h => absurd (Option.some.inj h) (by decide)
      rw [write, readValue, skip_cons rfl]
      dsimp only
      rw [if_neg (by decide), if_neg (by decide), if_pos rfl, skip_cons rfl, if_neg hopen, hread]
      rfl

theorem readsElements_succ (hvalues : ReadsValues esc fuel) (helements : ReadsElements esc fuel) : ReadsElements esc
    (fuel + 1) := by
  intro j js rest hfuel
  have hread := hvalues j _ (ends_writeElements esc js rest) (by omega)
  rw [readElements, hread, Option.bind_some]
  cases js with
  | nil =>
    rw [writeElements]
    rfl
  | cons j' js =>
    have hrest := helements j' js rest (by rw [needElements] at hfuel; omega)
    rw [writeElements]
    change (readElements fuel (write esc j' (writeElements esc js (']' :: rest)))).map (fun r => (j :: r.1, r.2)) = _
    rw [hrest]
    rfl

theorem readsMembers_succ (hesc : Reads esc) (hvalues : ReadsValues esc fuel) (hmembers : ReadsMembers esc fuel) :
    ReadsMembers esc (fuel + 1) := by
  intro key j ms rest hfuel
  have hread := hvalues j _ (ends_writeMembers esc ms rest) (by omega)
  rw [readMembers, skip_cons rfl]
  change (readString (esc key ++ '"' :: ':' :: write esc j (writeMembers esc ms ('\x7d' :: rest)))).bind _ = _
  rw [hesc, Option.bind_some]
  change (readValue fuel (write esc j (writeMembers esc ms ('\x7d' :: rest)))).bind _ = _
  rw [hread, Option.bind_some]
  cases ms with
  | nil =>
    rw [writeMembers]
    rfl
  | cons m ms =>
    obtain ⟨key', j'⟩ := m
    have hrest := hmembers key' j' ms rest (by rw [needMembers] at hfuel; omega)
    rw [writeMembers]
    change (readMembers fuel _).map (fun r => ((key, j) :: r.1, r.2)) = _
    rw [hrest]
    rfl

theorem reads_all (hesc : Reads esc) (fuel : Nat) : ReadsValues esc fuel ∧ ReadsElements esc fuel ∧ ReadsMembers esc fuel := by
  induction fuel with
  | zero =>
    refine ⟨fun j rest _ hfuel => ?_, fun j js rest hfuel => ?_, fun key j ms rest hfuel => ?_⟩
    · cases j <;> simp [need] at hfuel
    · omega
    · omega
  | succ fuel ih =>
    obtain ⟨hvalues, helements, hmembers⟩ := ih
    exact ⟨readsValues_succ hesc helements hmembers, readsElements_succ hvalues helements, readsMembers_succ hesc hvalues hmembers⟩

/-- An escaper that takes one character after the other. -/
theorem reads_flatMap {f : Char → Text} (hne : ∀ c, f c ≠ [])
    (h : ∀ c fuel t, chars (fuel + 1) (f c ++ t) = (chars fuel t).map fun r => (c :: r.1, r.2)) : Reads fun s => s.flatMap f := by
  have hchars : ∀ (s rest : Text) (fuel : Nat), (s.flatMap f).length < fuel → chars fuel (s.flatMap f ++ '"' :: rest) = some (s, rest) := by
    intro s rest
    induction s with
    | nil =>
      intro fuel hfuel
      cases fuel with
      | zero => exact absurd hfuel (Nat.not_lt_zero _)
      | succ fuel => rfl
    | cons c s ih =>
      intro fuel hfuel
      have hpos := List.length_pos_of_ne_nil (hne c)
      rw [List.flatMap_cons, List.length_append] at hfuel
      cases fuel with
      | zero => exact absurd hfuel (Nat.not_lt_zero _)
      | succ fuel =>
        rw [List.flatMap_cons, List.append_assoc, h, ih fuel (by omega)]
        rfl
  intro s rest
  refine hchars s rest _ ?_
  dsimp only
  rw [List.length_append, List.length_cons]
  omega

/-- A value that is written alone is what the text stands for. -/
theorem parse_write (hesc : Reads esc) (j : Json) : parse (write esc j []) = some j := by
  have hneed := need_write esc j []
  rw [List.length_nil] at hneed
  have hread := (reads_all hesc ((write esc j []).length + 1)).1 j [] (fun c hc => by cases hc) (by omega)
  unfold parse
  rw [hread]
  rfl

/-! ### A loop that writes -/

/-- The elements of a list one after the other, with a comma in front of each but the first. -/
def separated {α : Type*} (f : α → Text) : Bool → List α → Text
  | _, [] => []
  | first, a :: as => (if first then [] else [',']) ++ (f a ++ separated f false as)

theorem separated_append {α : Type*} (f : α → Text) {as : List α} (hne : as ≠ []) (bs : List α) (first : Bool) :
    separated f first (as ++ bs) = separated f first as ++ separated f false bs := by
  induction as generalizing first with
  | nil => exact absurd rfl hne
  | cons a as ih =>
    rw [List.cons_append, separated, separated, List.append_assoc, List.append_assoc]
    cases as with
    | nil => rfl
    | cons b as => rw [ih (List.cons_ne_nil b as)]

def bracketed {α : Type*} (f : α → Text) (as : List α) : Text := '[' :: (separated f true as ++ [']'])

section
variable {α : Type*} {f : α → Text} {g : α → Json} (hf : ∀ a rest, f a ++ rest = write esc (g a) rest)

include hf in
theorem separated_eq (as : List α) (rest : Text) : separated f false as ++ rest = writeElements esc (as.map g) rest := by
  induction as with
  | nil => rfl
  | cons a as ih =>
    rw [separated, List.map_cons, writeElements, ← ih, ← hf]
    simp only [Bool.false_eq_true, if_false, List.cons_append, List.nil_append, List.append_assoc]

include hf in
theorem bracketed_eq (as : List α) (rest : Text) : bracketed f as ++ rest = write esc (.array (as.map g)) rest := by
  unfold bracketed
  cases as with
  | nil => rfl
  | cons a as =>
    have hrest := separated_eq hf as (']' :: rest)
    rw [separated, List.map_cons, write, ← hrest, ← hf]
    simp only [if_true, List.cons_append, List.nil_append, List.append_assoc]

end

/-! ### One line -/

/-- Without control characters, those that end a line among them. -/
def Clean (t : Text) : Prop := ∀ c ∈ t, 0x20 ≤ c.toNat

instance (t : Text) : Decidable (Clean t) := List.decidableBAll _ t

variable {t : Text}

theorem Clean.cons {c : Char} (ht : Clean t) (hc : 0x20 ≤ c.toNat) : Clean (c :: t) := List.forall_mem_cons.2 ⟨hc, ht⟩

theorem Clean.append {u : Text} (ht : Clean t) (hu : Clean u) : Clean (t ++ u) := List.forall_mem_append.2 ⟨ht, hu⟩

theorem Clean.newline (ht : Clean t) : '\n' ∉ t := fun h => absurd (ht '\n' h) (by decide)

theorem Number.clean (n : Number) : Clean n.text := by
  intro c hc
  have hnumber := List.all_eq_true.1 n.all_isNumberChar c hc
  unfold isNumberChar at hnumber
  simp only [Bool.or_eq_true, decide_eq_true_eq] at hnumber
  rcases hnumber with ((((hdigit | rfl) | rfl) | rfl) | rfl) | rfl
  · have hlow : '0'.toNat ≤ c.toNat := (Char.isDigit_iff_toNat.1 hdigit).1
    exact le_trans (by decide) hlow
  all_goals decide

theorem clean_string (hesc : ∀ s, Clean (esc s)) (s : Text) {rest : Text} (hrest : Clean rest) : Clean ('"' ::
    (esc s ++ '"' :: rest)) :=
  ((hesc s).append (hrest.cons (by decide))).cons (by decide)

mutual

theorem clean_write (hesc : ∀ s, Clean (esc s)) (j : Json) {rest : Text} (hrest : Clean rest) : Clean (write esc j rest) := by
  cases j with
  | null => exact Clean.append (by decide) hrest
  | bool b =>
    refine Clean.append ?_ hrest
    cases b <;> decide
  | number n => exact n.clean.append hrest
  | string s => exact clean_string hesc s hrest
  | array js =>
    cases js with
    | nil => exact (hrest.cons (by decide)).cons (by decide)
    | cons j js =>
      have hend : Clean (']' :: rest) := hrest.cons (by decide)
      exact (clean_write hesc j (clean_writeElements hesc js hend)).cons (by decide)
  | object ms =>
    cases ms with
    | nil => exact (hrest.cons (by decide)).cons (by decide)
    | cons m ms =>
      obtain ⟨key, j⟩ := m
      have hend : Clean ('\x7d' :: rest) := hrest.cons (by decide)
      have hvalue := clean_write hesc j (clean_writeMembers hesc ms hend)
      exact (clean_string hesc key (hvalue.cons (by decide))).cons (by decide)

theorem clean_writeElements (hesc : ∀ s, Clean (esc s)) (js : List Json) {rest : Text} (hrest : Clean rest) : Clean
    (writeElements esc js rest) := by
  cases js with
  | nil => exact hrest
  | cons j js => exact (clean_write hesc j (clean_writeElements hesc js hrest)).cons (by decide)

theorem clean_writeMembers (hesc : ∀ s, Clean (esc s)) (ms : List (Text × Json)) {rest : Text} (hrest : Clean rest) : Clean
    (writeMembers esc ms rest) := by
  cases ms with
  | nil => exact hrest
  | cons m ms =>
    obtain ⟨key, j⟩ := m
    have hvalue := clean_write hesc j (clean_writeMembers hesc ms hrest)
    exact (clean_string hesc key (hvalue.cons (by decide))).cons (by decide)

end

end

end Json
