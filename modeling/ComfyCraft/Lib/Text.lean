import Mathlib.Algebra.GroupWithZero.Nat
import Mathlib.Algebra.Ring.Int.Defs
import Mathlib.Data.List.DropRight

/-! Texts as lists of characters, one for each byte: splitting at a delimiter, with and without an escape
character, decimal numbers as they are printed and as `strtoul` reads them back, and trimming. -/

abbrev Text := List Char

namespace Text

open List Option Bool Nat Char

def split (delim : Char) : Text → Text → List Text
  | current, [] => [current]
  | current, c :: cs => if c = delim then current :: split delim [] cs else split delim (current ++ [c]) cs

/-- The pieces between separators, where an empty one at the end is none. -/
def tokenize (sep : Char) (t : Text) : List Text :=
  let pieces := split sep [] t
  if pieces.getLast? = some [] then pieces.dropLast else pieces

variable {p t u a pat : Text} {ps more : List Text} {n k : Nat} {c : Char} {i : Int}

theorem split_plain {delim : Char} (hp : delim ∉ p) (current rest : Text) :
    split delim current (p ++ rest) = split delim (current ++ p) rest := by
  induction p generalizing current with
  | nil => rw [append_nil]; rfl
  | cons c p ih =>
    have hne : c ≠ delim := fun h => hp (h ▸ mem_cons_self)
    have hrest : delim ∉ p := fun h => hp (mem_cons_of_mem c h)
    rw [cons_append, split, if_neg hne, ih hrest, append_assoc]
    rfl

theorem split_terminated {delim : Char} (hps : ∀ p ∈ ps, delim ∉ p) :
    split delim [] (ps.flatMap fun p => p ++ [delim]) = ps ++ [[]] := by
  induction ps with
  | nil => rfl
  | cons p ps ih =>
    obtain ⟨hp, hps⟩ := forall_mem_cons.1 hps
    rw [flatMap_cons, append_assoc, split_plain hp, nil_append, cons_append, split, if_pos rfl, nil_append, ih hps]
    rfl

/-- Pieces with a separator after each are found again. -/
theorem tokenize_terminated {sep : Char} (hps : ∀ p ∈ ps, sep ∉ p) : tokenize sep (ps.flatMap fun p => p ++ [sep]) = ps := by
  unfold tokenize
  rw [split_terminated hps]
  dsimp only
  rw [getLast?_concat, if_pos rfl, dropLast_concat]

/-- The same where an escape character takes the next character out of the search, and is dropped. -/
def splitEscaped (escape delim : Char) : Text → Bool → Text → List Text
  | current, escaped, [] => [if escaped then current ++ [escape] else current]
  | current, true, c :: cs => splitEscaped escape delim (current ++ [c]) false cs
  | current, false, c :: cs =>
    if c = escape then splitEscaped escape delim current true cs
    else if c = delim then current :: splitEscaped escape delim [] false cs
    else splitEscaped escape delim (current ++ [c]) false cs

/-- No character of the text means anything to the splitting. -/
def Plain (escape delim : Char) (t : Text) : Prop := ∀ c ∈ t, c ≠ escape ∧ c ≠ delim

instance (escape delim : Char) (t : Text) : Decidable (Plain escape delim t) := decidableBAll _ t

variable {escape delim : Char}

theorem splitEscaped_plain (hp : Plain escape delim p) (current rest : Text) :
    splitEscaped escape delim current false (p ++ rest) = splitEscaped escape delim (current ++ p) false rest := by
  induction p generalizing current with
  | nil => rw [append_nil]; rfl
  | cons c p ih =>
    obtain ⟨h1, h2⟩ := hp c mem_cons_self
    rw [cons_append, splitEscaped, if_neg h1, if_neg h2, ih fun x hx => hp x (mem_cons_of_mem c hx), append_assoc]
    rfl

/-- Plain pieces with the delimiter before each but the first are found again. -/
theorem splitEscaped_join (hne : delim ≠ escape) (hps : ∀ p ∈ ps, Plain escape delim p)
    (hp : Plain escape delim p) : splitEscaped escape delim [] false (p ++ ps.flatMap fun q => delim :: q) = p :: ps := by
  induction ps generalizing p with
  | nil =>
    rw [flatMap_nil, splitEscaped_plain hp]
    rfl
  | cons q ps ih =>
    rw [flatMap_cons, splitEscaped_plain hp, cons_append, splitEscaped, if_neg hne, if_pos rfl,
      ih (fun x hx => hps x (mem_cons_of_mem q hx)) (hps q mem_cons_self)]
    rfl

/-- A text that adds another to the piece it stands in. -/
def Yields (escape delim : Char) (t u : Text) : Prop :=
  ∀ current rest, splitEscaped escape delim current false (t ++ rest) = splitEscaped escape delim (current ++ u) false rest

theorem Plain.yields (h : Plain escape delim t) : Yields escape delim t t := splitEscaped_plain h

theorem Yields.append {t' u' : Text} (h : Yields escape delim t u) (h' : Yields escape delim t' u') :
    Yields escape delim (t ++ t') (u ++ u') := by
  intro current rest
  rw [append_assoc, h, h', append_assoc]

/-- A text in which whatever means something to the splitting is escaped. -/
theorem yields_escaped {p : Char → Bool} (hescape : p escape = true) (hdelim : p delim = true) (t : Text) :
    Yields escape delim (t.flatMap fun c => if p c then [escape, c] else [c]) t := by
  intro current rest
  induction t generalizing current with
  | nil => rw [append_nil]; rfl
  | cons c t ih =>
    rw [flatMap_cons]
    by_cases hc : p c = true
    · rw [if_pos hc]
      simp only [cons_append, nil_append]
      rw [splitEscaped, if_pos rfl, splitEscaped, ih, append_assoc]
      rfl
    · have h1 : c ≠ escape := fun h => hc (h ▸ hescape)
      have h2 : c ≠ delim := fun h => hc (h ▸ hdelim)
      rw [if_neg hc]
      simp only [cons_append, nil_append]
      rw [splitEscaped, if_neg h1, if_neg h2, ih, append_assoc]
      rfl

/-- What texts between delimiters add is what is found between them. -/
theorem splitEscaped_yields {α : Type*} (hne : delim ≠ escape) {f g : α → Text} {l : List α} (h : ∀ a ∈ l, Yields escape delim
    (f a) (g a))
    {a : α} (ha : Yields escape delim (f a) (g a)) :
    splitEscaped escape delim [] false (f a ++ l.flatMap fun b => delim :: f b) = g a :: l.map g := by
  induction l generalizing a with
  | nil =>
    rw [flatMap_nil, ha]
    rfl
  | cons b l ih =>
    obtain ⟨hb, hl⟩ := forall_mem_cons.1 h
    rw [flatMap_cons, ha, cons_append, splitEscaped, if_neg hne, if_pos rfl, ih hl hb]
    rfl

theorem splitEscaped_head (current : Text) (escaped : Bool) (t : Text) :
    ∃ u more, splitEscaped escape delim current escaped t = (current ++ u) :: more := by
  induction t generalizing current escaped with
  | nil =>
    cases escaped with
    | true => exact ⟨[escape], [], rfl⟩
    | false => exact ⟨[], [], by rw [append_nil]; rfl⟩
  | cons c t ih =>
    have hgrown : ∃ u more, splitEscaped escape delim (current ++ [c]) false t = (current ++ u) :: more := by
      obtain ⟨u, more, h⟩ := ih (current ++ [c]) false
      exact ⟨c :: u, more, by rw [h, append_assoc]; rfl⟩
    cases escaped with
    | true => exact hgrown
    | false =>
      unfold splitEscaped
      split_ifs
      · exact ih current true
      · exact ⟨[], _, by rw [append_nil]⟩
      · exact hgrown

theorem head_of_split {current input : Text} {x : Char} {escaped : Bool}
    (h : splitEscaped escape delim (current ++ [x]) escaped input = (current ++ u) :: more) : u.head? = some x := by
  obtain ⟨v, more', hv⟩ : ∃ v more', splitEscaped escape delim (current ++ [x]) escaped input = (current ++ [x] ++ v) :: more' :=
    splitEscaped_head (current ++ [x]) escaped input
  rw [hv, append_assoc] at h
  rw [← append_cancel_left (cons.inj h).1]
  rfl

/-- A piece does not get ahead of the text it is read from by escape characters: each of them takes another away. -/
theorem splitEscaped_not_ahead (hne : delim ≠ escape) (rest : Text) (more : List Text) : ∀ (k : Nat) (current t : Text),
      splitEscaped escape delim current false (t ++ delim :: rest) ≠ (current ++ (List.replicate (k + 1) escape ++ t)) :: more
  | k, current, [] => by
    intro h
    rw [List.nil_append, splitEscaped, if_neg hne, if_pos rfl] at h
    have hlength := congrArg length (cons.inj h).1
    simp at hlength
  | k, current, [c] => by
    intro h
    rw [singleton_append, splitEscaped] at h
    split_ifs at h with hc hd
    · rw [splitEscaped] at h
      exact hne (some.inj (head_of_split h)).symm
    · have hlength := congrArg length (cons.inj h).1
      simp at hlength
    · exact hc (some.inj (head_of_split h)).symm
  | k, current, c :: d :: t => by
    intro h
    rw [cons_append, splitEscaped] at h
    split_ifs at h with hc hd
    · rw [cons_append, splitEscaped] at h
      have hd : escape = d := some.inj (head_of_split h)
      refine splitEscaped_not_ahead hne rest more (k + 1) (current ++ [escape]) t ?_
      have hmove : ∀ n, replicate n escape ++ escape :: escape :: t = escape :: (replicate (n + 1) escape ++ t) := by
        intro n
        induction n with
        | zero => rfl
        | succ n ih =>
          rw [replicate_succ, cons_append, ih, replicate_succ (n := n + 1)]
          rfl
      rw [← hd, hc, hmove] at h
      rw [h, append_assoc]
      rfl
    · have hlength := congrArg length (cons.inj h).1
      simp at hlength
    · exact hc (some.inj (head_of_split h)).symm

/-- A text is found again in front of a delimiter only where it is plain. -/
theorem plain_of_split (hne : delim ≠ escape) (current : Text) {rest : Text}
    (h : splitEscaped escape delim current false (t ++ delim :: rest) = (current ++ t) :: more) : Plain escape delim t := by
  induction t generalizing current with
  | nil => exact fun c hc => absurd hc not_mem_nil
  | cons c t ih =>
    rw [cons_append, splitEscaped] at h
    split_ifs at h with hc hd
    · exfalso
      subst hc
      cases t with
      | nil =>
        rw [nil_append, splitEscaped] at h
        exact hne (some.inj (head_of_split h)).symm
      | cons d t =>
        rw [cons_append, splitEscaped] at h
        have hd : c = d := some.inj (head_of_split h)
        subst hd
        refine splitEscaped_not_ahead hne rest more 0 (current ++ [c]) t ?_
        rw [h]
        simp
    · have hlength := congrArg length (cons.inj h).1
      simp at hlength
    · have hplain := ih (current ++ [c]) (by rw [h, append_assoc]; rfl)
      exact forall_mem_cons.2 ⟨⟨hc, hd⟩, hplain⟩

/-! Numbers. -/

def decimal (n : Nat) : Text := Nat.toDigits 10 n

def isSpace (c : Char) : Bool := c = ' ' || (9 ≤ c.toNat && c.toNat ≤ 13)

/-- The digits at the front; a value past the end of the type is its largest. -/
def leadingNumber (t : Text) : Nat := min (Nat.ofDigitChars 10 (t.takeWhile Char.isDigit) 0) (2 ^ 64 - 1)

/-- `strtoul` with base 10, of 64 bits; a minus sign is taken within the type. -/
def strtoul (t : Text) : Nat :=
  match t.dropWhile isSpace with
  | '-' :: digits => if leadingNumber digits = 2 ^ 64 - 1 then 2 ^ 64 - 1 else (2 ^ 64 - leadingNumber digits) % 2 ^ 64
  | '+' :: digits => leadingNumber digits
  | digits => leadingNumber digits

theorem isDigit_decimal (h : c ∈ decimal n) : c.isDigit = true :=
  isDigit_of_mem_toDigits (by decide) (by decide) h

theorem leadingNumber_decimal (h : n < 2 ^ 64) : leadingNumber (decimal n) = n := by
  have hall : (decimal n).takeWhile isDigit = decimal n := takeWhile_eq_self_iff.2 fun c hc => isDigit_decimal hc
  unfold leadingNumber
  rw [hall, decimal, ofDigitChars_ten_toDigits]
  omega

/-- A printed number begins with a digit. -/
theorem decimal_head {cs : Text} (hd : decimal n = c :: cs) : isSpace c = false ∧ c ≠ '-' ∧ c ≠ '+' := by
  have hc : c.isDigit = true := isDigit_decimal (hd ▸ mem_cons_self)
  refine ⟨?_, ?_, ?_⟩
  · unfold isSpace
    unfold Char.isDigit at hc
    simp only [Bool.and_eq_true, decide_eq_true_eq] at hc
    have h1 : 48 ≤ c.toNat := hc.1
    have h2 : c ≠ ' ' := by
      rintro rfl
      exact absurd h1 (by decide)
    simp only [decide_eq_false h2, Bool.false_or, Bool.and_eq_false_iff, decide_eq_false_iff_not]
    omega
  · rintro rfl
    exact absurd hc (by decide)
  · rintro rfl
    exact absurd hc (by decide)

theorem dropWhile_decimal (n : Nat) : (decimal n).dropWhile isSpace = decimal n := by
  cases hd : decimal n with
  | nil => exact absurd hd toDigits_ne_nil
  | cons c cs =>
    rw [dropWhile_cons, (decimal_head hd).1]
    rfl

theorem strtoul_decimal (h : n < 2 ^ 64) : strtoul (decimal n) = n := by
  unfold strtoul
  rw [dropWhile_decimal]
  split
  · rename_i heq
    exact absurd rfl (decimal_head heq).2.1
  · rename_i heq
    exact absurd rfl (decimal_head heq).2.2
  · exact leadingNumber_decimal h

/-- Whether `strtoul` finds a number at all. -/
def hasNumber (t : Text) : Bool :=
  match t.dropWhile isSpace with
  | '-' :: digits => digits.head?.any Char.isDigit
  | '+' :: digits => digits.head?.any Char.isDigit
  | digits => digits.head?.any Char.isDigit

def signed (i : Int) : Text := if i < 0 then '-' :: decimal i.natAbs else decimal i.natAbs

/-- `strtol` with base 10, of 64 bits. -/
def strtol (t : Text) : Int :=
  match t.dropWhile isSpace with
  | '-' :: digits => max (-2 ^ 63) (-(leadingNumber digits : Int))
  | '+' :: digits => min (2 ^ 63 - 1) (leadingNumber digits : Int)
  | digits => min (2 ^ 63 - 1) (leadingNumber digits : Int)

theorem strtol_signed (h : i.natAbs < 2 ^ 63) : strtol (signed i) = i := by
  have hsmall : i.natAbs < 2 ^ 64 := by omega
  unfold signed strtol
  split_ifs with hneg
  · have hdrop : ('-' :: decimal i.natAbs).dropWhile isSpace = '-' :: decimal i.natAbs := rfl
    rw [hdrop]
    simp only [leadingNumber_decimal hsmall]
    omega
  · rw [dropWhile_decimal]
    split
    · rename_i heq
      exact absurd rfl (decimal_head heq).2.1
    · rename_i heq
      exact absurd rfl (decimal_head heq).2.2
    · rw [leadingNumber_decimal hsmall]
      omega

theorem length_decimal (hk : 0 < k) (h : n < 10 ^ k) : (decimal n).length ≤ k :=
  (length_toDigits_le_iff (by decide) hk).2 h

theorem length_signed (hk : 0 < k) (h : i.natAbs < 10 ^ k) : (signed i).length ≤ k + 1 := by
  have hle := length_decimal hk h
  unfold signed
  split_ifs
  · rw [length_cons]
    omega
  · omega

theorem space_notMem_decimal (n : Nat) : ' ' ∉ decimal n := fun h => absurd (isDigit_decimal h) (by decide)

theorem space_notMem_signed (i : Int) : ' ' ∉ signed i := by
  unfold signed
  split_ifs
  · intro h
    rcases mem_cons.1 h with heq | hmem
    · exact absurd heq (by decide)
    · exact space_notMem_decimal _ hmem
  · exact space_notMem_decimal _

theorem leadingNumber_append (h : n < 2 ^ 64) (hc : c.isDigit = false) (t : Text) :
    leadingNumber (decimal n ++ c :: t) = n := by
  have hdigits : (decimal n ++ c :: t).takeWhile isDigit = decimal n := by
    rw [takeWhile_append_of_pos fun d hd => isDigit_decimal hd, takeWhile_cons_of_neg (by rw [hc]; exact false_ne_true),
      append_nil]
  unfold leadingNumber
  rw [hdigits, decimal, ofDigitChars_ten_toDigits]
  omega

/-- A printed number is read up to what comes behind it. -/
theorem strtol_decimal_append (h : n < 2 ^ 63) (hc : c.isDigit = false) (t : Text) : strtol (decimal n ++ c :: t) = n := by
  obtain ⟨d, ds, hd⟩ : ∃ d ds, decimal n = d :: ds := exists_cons_of_ne_nil toDigits_ne_nil
  obtain ⟨hspace, hminus, hplus⟩ := decimal_head hd
  have hdrop : (decimal n ++ c :: t).dropWhile isSpace = decimal n ++ c :: t := by
    rw [hd, cons_append, dropWhile_cons_of_neg (by rw [hspace]; exact false_ne_true)]
  have hread := leadingNumber_append (lt_trans h (by decide)) hc t
  unfold strtol
  rw [hdrop]
  rw [hd, cons_append] at hread ⊢
  split
  · rename_i heq
    exact absurd (cons.inj heq).1 hminus
  · rename_i heq
    exact absurd (cons.inj heq).1 hplus
  · rw [hread]
    omega

/-- What comes behind the first place where a text is found, as `find` gives it. -/
def after (pat : Text) : Text → Option Text
  | [] => if pat = [] then some [] else none
  | c :: t => if pat <+: c :: t then some ((c :: t).drop pat.length) else after pat t

/-- A part that does not hold what is looked for, up to a character that is not in it either. -/
theorem after_skip (hc : c ∉ pat) (ha : ¬ pat <:+: a) (t : Text) : after pat (a ++ c :: t) = after pat t := by
  have hshort : ∀ a : Text, pat <+: a ++ c :: t → pat <+: a := by
    intro a hpre
    rcases lt_or_ge a.length pat.length with hlt | hle
    · have hmem : c ∈ pat := by
        obtain ⟨rest, hrest⟩ := hpre
        have hget : (pat ++ rest)[a.length]? = some c := by rw [hrest, getElem?_append_right (le_refl _)]; simp
        rw [getElem?_append_left hlt] at hget
        exact mem_of_getElem? hget
      exact absurd hmem hc
    · exact prefix_of_prefix_length_le hpre (prefix_append a (c :: t)) hle
  induction a with
  | nil =>
    rw [nil_append, after, if_neg]
    exact fun hpre => ha (hshort [] hpre).isInfix
  | cons d a ih =>
    have hnot : ¬ pat <+: d :: (a ++ c :: t) := fun hpre => ha (hshort (d :: a) hpre).isInfix
    rw [cons_append, after, if_neg hnot]
    exact ih fun hin => ha (hin.trans (suffix_cons d a).isInfix)

theorem after_here (hne : pat ≠ []) (t : Text) : after pat (pat ++ t) = some t := by
  cases pat with
  | nil => exact absurd rfl hne
  | cons c pat =>
    rw [cons_append, after, ← cons_append, if_pos (prefix_append _ t), drop_left]

theorem decimal_injective : Function.Injective decimal := by
  intro n m h
  have hnumber : ofDigitChars 10 (decimal n) 0 = ofDigitChars 10 (decimal m) 0 := by rw [h]
  rwa [decimal, decimal, ofDigitChars_ten_toDigits, ofDigitChars_ten_toDigits] at hnumber

/-- What is before and behind the first separator. -/
theorem append_cons_inj {a' b b' : Text} (ha : c ∉ a) (ha' : c ∉ a') (h : a ++ c :: b = a' ++ c :: b') : a = a' ∧ b = b' := by
  have hfirst : ∀ {a b : Text}, c ∉ a → (a ++ c :: b).takeWhile (· ≠ c) = a := by
    intro a b ha
    have hother : ∀ d ∈ a, decide (d ≠ c) = true := by
      intro d hd
      refine decide_eq_true ?_
      rintro rfl
      exact ha hd
    rw [takeWhile_append_of_pos hother, takeWhile_cons_of_neg (by simp), append_nil]
  have heq : a = a' := by rw [← hfirst ha, h, hfirst ha']
  subst heq
  exact ⟨rfl, (cons.inj (append_cancel_left h)).2⟩

end Text

section Trimming

variable {α : Type} {p : α → Bool} {l : List α}

def trim (p : α → Bool) (l : List α) : List α := (l.dropWhile p).rdropWhile p

/-- The test holds of neither the first element nor the last. -/
structure Trimmed (p : α → Bool) (l : List α) : Prop where
  first : ∀ x ∈ l.head?, p x = false
  last : ∀ x ∈ l.getLast?, p x = false

theorem trim_append (p : α → Bool) (l : List α) : ∃ t, l.dropWhile p = trim p l ++ t ∧ ∀ x ∈ t, p x = true := by
  refine ⟨(l.dropWhile p).rtakeWhile p, List.rdropWhile_append_rtakeWhile.symm, fun x hx => ?_⟩
  exact List.mem_rtakeWhile_imp hx

theorem trimmed_trim (p : α → Bool) (l : List α) : Trimmed p (trim p l) where
  first := by
    intro x hx
    obtain ⟨t, ht, -⟩ := trim_append p l
    have hhead : (l.dropWhile p).head? = some x := by
      rw [ht, List.head?_append, hx]
      rfl
    have hnot := List.head?_dropWhile_not p l
    rw [hhead] at hnot
    simpa using hnot
  last := by
    intro x hx
    obtain ⟨hne, rfl⟩ := List.mem_getLast?_eq_getLast hx
    exact Bool.not_eq_true _ ▸ List.rdropWhile_last_not p (l.dropWhile p) hne

theorem trim_of_trimmed (h : Trimmed p l) : trim p l = l := by
  have hdrop : l.dropWhile p = l := by
    cases l with
    | nil => rfl
    | cons a l => exact List.dropWhile_cons_of_neg (by simp [h.first a rfl])
  unfold trim
  rw [hdrop, List.rdropWhile_eq_self_iff]
  intro hne
  simp [h.last _ (List.getLast?_eq_getLast_of_ne_nil hne)]

/-- Cutting a trimmed text short leaves it trimmed unless the cut falls behind an element to be trimmed, with
others still to come. -/
theorem trimmed_take_trim (n : Nat) : Trimmed p ((trim p l).take (n + 1)) ↔
      ¬((∃ x ∈ ((l.dropWhile p).drop n).head?, p x = true) ∧ ∃ x ∈ (l.dropWhile p).drop (n + 1), p x = false) := by
  obtain ⟨t, ht, htail⟩ := trim_append p l
  have htrim := trimmed_trim p l
  rw [ht]
  generalize trim p l = m at htrim
  rcases Nat.lt_or_ge (n + 1) m.length with hlen | hlen
  · -- the cut falls inside: what it leaves ends where the longer text goes on
    have hcut : (m.take (n + 1)).getLast? = ((m ++ t).drop n).head? := by
      rw [List.getLast?_take, List.head?_drop, List.getElem?_append_left (by omega)]
      simp [List.getElem?_eq_getElem (show n < m.length by omega)]
    have hfirst : ∀ x ∈ (m.take (n + 1)).head?, p x = false := by
      intro x hx
      rw [List.head?_take, if_neg (by omega)] at hx
      exact htrim.first x hx
    have hmore : ∃ x ∈ (m ++ t).drop (n + 1), p x = false := by
      have hne : m ≠ [] := by rintro rfl; simp at hlen
      refine ⟨m.getLast hne, ?_, htrim.last _ (List.getLast?_eq_getLast_of_ne_nil hne)⟩
      rw [List.drop_append_of_le_length (by omega)]
      apply List.mem_append_left
      have hdrop : m.drop (n + 1) ≠ [] := by simpa [List.drop_eq_nil_iff] using hlen
      rw [← List.getLast_drop hdrop]
      exact List.getLast_mem hdrop
    constructor
    · rintro h ⟨⟨x, hx, hpx⟩, -⟩
      have hfalse := h.last x (hcut ▸ hx)
      rw [hfalse] at hpx
      cases hpx
    · intro h
      refine ⟨hfirst, fun x hx => ?_⟩
      rw [← Bool.not_eq_true]
      exact fun hpx => h ⟨⟨x, hcut ▸ hx, hpx⟩, hmore⟩
  · -- nothing is cut off, and behind it all is to be trimmed
    rw [List.take_of_length_le hlen]
    refine ⟨fun _ => ?_, fun _ => htrim⟩
    rintro ⟨-, x, hx, hpx⟩
    rw [List.drop_append, List.drop_eq_nil_of_le hlen, List.nil_append] at hx
    rw [htail x (List.mem_of_mem_drop hx)] at hpx
    cases hpx

end Trimming
