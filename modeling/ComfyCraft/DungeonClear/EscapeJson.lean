import ComfyCraft.Lib.FloatText

/-! How the run records write their strings, numbers and flags. The characters of a text stand for bytes. -/

namespace ComfyCraft.DcTestRunRecord

open List Json

/-- `%04x`. -/
def hex4 (n : Nat) : Text := (Nat.toDigits 16 n).leftpad 4 '0'

def escapeByte (c : Char) : Text :=
  if c = '"' then "\\\"".toList
  else if c = '\\' then "\\\\".toList
  else if c = '\n' then "\\n".toList
  else if c = '\r' then "\\r".toList
  else if c = '\t' then "\\t".toList
  else if c.toNat < 0x20 then "\\u".toList ++ hex4 c.toNat
  else [c]

def EscapeJson (s : Text) : Text := s.flatMap escapeByte

def AppendEscaped (v : Text) : Text := '"' :: (EscapeJson v ++ ['"'])

def boolText (v : Bool) : Text := if v then "true".toList else "false".toList

def AppendBool (key : Text) (v : Bool) : Text := ",\"".toList ++ (key ++ ("\":".toList ++ boolText v))

def uint32Text (n : UInt32) : Text := Text.decimal n.toNat

def uint64Text (n : UInt64) : Text := Text.decimal n.toNat

def int32Text (n : Int32) : Text := Text.signed n.toInt

/-- On a stream with `precision(9)`. -/
def floatText (x : FiniteFloat) : Text := x.text 9

/-! ### The values these texts stand for -/

def uint32Json (n : UInt32) : Json := .number (.ofNat n.toNat)

def uint64Json (n : UInt64) : Json := .number (.ofNat n.toNat)

def int32Json (n : Int32) : Json := .number (.ofInt n.toInt)

def floatJson (x : FiniteFloat) : Json := .number (.ofFloat 9 x)

/-- Pieces of a text, put in front of what follows one after the other. -/
theorem flatten_append (ts : List Text) (rest : Text) : ts.flatten ++ rest = ts.foldr (· ++ ·) rest := by
  induction ts with
  | nil => rfl
  | cons t ts ih => rw [flatten_cons, append_assoc, ih, foldr_cons]

theorem AppendEscaped_append (v rest : Text) : AppendEscaped v ++ rest = Json.write EscapeJson (.string v) rest := by
  unfold AppendEscaped
  rw [write, cons_append, append_assoc]
  rfl

theorem AppendBool_append (key : Text) (v : Bool) (rest : Text) :
    AppendBool key v ++ rest = ',' :: '"' :: (key ++ '"' :: ':' :: Json.write EscapeJson (.bool v) rest) := by
  unfold AppendBool
  simp only [append_assoc]
  rfl

/-! ### Strings are read back -/

theorem code_append {w : Text} {n : Nat} (h : Json.code w = some (n, [])) (t : Text) : Json.code (w ++ t) = some (n, t) := by
  unfold code at h
  split at h
  · rename_i a b c d rest
    split at h
    · rename_i hd hc hb ha
      obtain ⟨rfl, rfl⟩ := Prod.mk.inj (Option.some.inj h)
      simp only [cons_append, nil_append, code, *]
    · cases h
  · cases h

theorem hex4_small : ∀ n < 0x20, Json.code (hex4 n) = some (n, []) ∧ hex4 n ≠ [] := by decide

/-- Whatever a byte is put out as is read as that byte. -/
theorem chars_escapeByte (c : Char) (fuel : Nat) (t : Text) :
    Json.chars (fuel + 1) (escapeByte c ++ t) = (Json.chars fuel t).map fun r => (c :: r.1, r.2) := by
  unfold escapeByte
  by_cases hquote : c = '"'
  · subst hquote
    rfl
  rw [if_neg hquote]
  by_cases hslash : c = '\\'
  · subst hslash
    rfl
  rw [if_neg hslash]
  by_cases hn : c = '\n'
  · subst hn
    rfl
  rw [if_neg hn]
  by_cases hr : c = '\r'
  · subst hr
    rfl
  rw [if_neg hr]
  by_cases ht : c = '\t'
  · subst ht
    rfl
  rw [if_neg ht]
  by_cases hcontrol : c.toNat < 0x20
  · have hcode := code_append (hex4_small c.toNat hcontrol).1 t
    have hescape : escape ('u' :: (hex4 c.toNat ++ t)) = some ([c], t) := by
      rw [escape, hcode]
      have hlow : isLow c.toNat = false := by simp [isLow]; omega
      have hhigh : isHigh c.toNat = false := by simp [isHigh]; omega
      have hutf8 : utf8 c.toNat = [c] := by
        unfold utf8
        rw [if_pos (by omega), Char.ofNat_toNat]
      simp [hlow, hhigh, hutf8]
    rw [if_pos hcontrol]
    change (escape ('u' :: (hex4 c.toNat ++ t))).bind _ = _
    rw [hescape]
    rfl
  · rw [if_neg hcontrol, singleton_append, chars, if_neg hquote, if_neg hslash, if_neg hcontrol]

theorem escapeByte_ne_nil (c : Char) : escapeByte c ≠ [] := by
  unfold escapeByte
  split_ifs <;> simp

theorem reads_EscapeJson : Json.Reads EscapeJson := reads_flatMap escapeByte_ne_nil chars_escapeByte

theorem clean_escapeByte (c : Char) : Json.Clean (escapeByte c) := by
  have hhex : ∀ n < 0x20, Json.Clean (hex4 n) := by decide
  unfold escapeByte
  split_ifs with _ _ _ _ _ hcontrol
  iterate 5 decide
  · exact Json.Clean.append (by decide) (hhex c.toNat hcontrol)
  · exact forall_mem_singleton.2 (not_lt.1 hcontrol)

theorem clean_EscapeJson (s : Text) : Json.Clean (EscapeJson s) := by
  intro d hd
  obtain ⟨c, -, hd⟩ := mem_flatMap.1 hd
  exact clean_escapeByte c d hd

/-- A text without quotes, backslashes and control characters stands for itself. -/
theorem EscapeJson_plain {t : Text} (h : ∀ c ∈ t, c ≠ '"' ∧ c ≠ '\\' ∧ 0x20 ≤ c.toNat) : EscapeJson t = t := by
  induction t with
  | nil => rfl
  | cons c t ih =>
    obtain ⟨hquote, hslash, hprinted⟩ := h c mem_cons_self
    have hcontrol : ∀ d : Char, d.toNat < 0x20 → c ≠ d := by
      rintro d hd rfl
      omega
    have hc : escapeByte c = [c] := by
      unfold escapeByte
      rw [if_neg hquote, if_neg hslash, if_neg (hcontrol '\n' (by decide)), if_neg (hcontrol '\r' (by decide)),
        if_neg (hcontrol '\t' (by decide)), if_neg (by omega)]
    have htail := ih fun d hd => h d (mem_cons_of_mem c hd)
    unfold EscapeJson at htail ⊢
    rw [flatMap_cons, hc, htail, singleton_append]

end ComfyCraft.DcTestRunRecord
