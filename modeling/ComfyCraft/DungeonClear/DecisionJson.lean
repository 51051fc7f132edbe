import ComfyCraft.Lib.Runs
import ComfyCraft.Lib.Text
import ComfyCraft.Lib.Upsert

/-! Flat objects of one line: how the fields of a captured decision are written, and how a line is taken apart again. Of fields under one
key the first counts. -/

namespace ComfyCraft.DcDecisionJson

open List Text Loop Upsert

/-- The line so far; `first` until a field stands in it. -/
structure Writer where
  s : Text
  first : Bool

namespace Writer

def new : Writer := ⟨['\x7b'], true⟩

variable (w : Writer) (key : Text)

def Sep : Text := if w.first then w.s else w.s ++ [',']

def AddText (key v : Text) : Writer := ⟨w.Sep ++ '"' :: key ++ "\":".toList ++ v, false⟩

def AddBool (v : Bool) : Writer := w.AddText key (if v then "true".toList else "false".toList)

def AddUInt32 (v : UInt32) : Writer := w.AddText key (Text.decimal v.toNat)

def AddUInt64 (v : UInt64) : Writer := w.AddText key (Text.decimal v.toNat)

def AddStr (key v : Text) : Writer := w.AddText key ('"' :: v ++ ['"'])

def Str : Text := w.s ++ ['\x7d']

end Writer

def isBlank (c : Char) : Bool := c = ' ' || c = '\t' || c = '\r' || c = '\n'

def unquote (s : Text) : Text := if 2 ≤ s.length && s.head? = some '"' && s.getLast? = some '"' then s.tail.dropLast else s

def Trim (s : Text) : Text := unquote (trim isBlank s)

abbrev Fields := Text → Option Text

/-- What a piece between two commas adds: nothing without a colon. -/
def addField (out : Fields) (pair : Text) : Fields :=
  match pair.dropWhile (· ≠ ':') with
  | [] => out
  | _ :: val => Upsert.insertIgnore out [(Trim (pair.takeWhile (· ≠ ':')), Trim val)]

structure Parsing where
  body : Text
  out : Fields

def Parsing.goesOn (p : Parsing) : Bool := !p.body.isEmpty

def Parsing.turn (p : Parsing) : Parsing := ⟨(p.body.dropWhile (· ≠ ',')).tail, addField p.out (p.body.takeWhile (· ≠ ','))⟩

def ParseFlat (body : Text) : Fields := (Loop.run Parsing.goesOn Parsing.turn body.length ⟨body, fun _ => none⟩).out

def Parse (line : Text) : Option Fields :=
  let body := Trim line
  if body.isEmpty || body.head? = some '#' then none
  else if body.length < 2 || body.head? ≠ some '\x7b' || body.getLast? ≠ some '\x7d' then none
  else some (ParseFlat body.tail.dropLast)

def GetF {F : Type} (read : Text → F) (m : Fields) (key : Text) (fallback : F) : F := ((m key).map read).getD fallback

variable (m : Fields) (key : Text)

def GetU (fallback : UInt32) : UInt32 := ((m key).map fun v => UInt32.ofNat (Text.strtoul v)).getD fallback

def GetU64 (fallback : UInt64) : UInt64 := ((m key).map fun v => UInt64.ofNat (Text.strtoul v)).getD fallback

def GetB (fallback : Bool) : Bool := ((m key).map fun v => v = "true".toList || v = "1".toList).getD fallback

def GetStr (key fallback : Text) : Text := (m key).getD fallback

/-! ### A line that is written -/

def fieldText (field : Text × Text) : Text := '"' :: field.1 ++ "\":".toList ++ field.2

def joined : List Text → Text
  | [] => []
  | [t] => t
  | t :: t' :: ts => t ++ ',' :: joined (t' :: ts)

variable {ts : List Text}

theorem joined_append_singleton (hne : ts ≠ []) (t : Text) : joined (ts ++ [t]) = joined ts ++ ',' :: t := by
  induction ts with
  | nil => exact absurd rfl hne
  | cons first ts ih =>
    cases ts with
    | nil => rfl
    | cons second ts =>
      have hrest := ih (cons_ne_nil _ _)
      simp only [cons_append] at hrest ⊢
      rw [joined, hrest, joined, append_assoc]
      rfl

theorem foldl_AddText (fields : List (Text × Text)) :
    ((fields.foldl (fun w f => w.AddText f.1 f.2) Writer.new).s = '\x7b' :: joined (fields.map fieldText)) ∧
      (fields.foldl (fun w f => w.AddText f.1 f.2) Writer.new).first = fields.isEmpty := by
  induction fields using reverseRecOn with
  | nil => exact ⟨rfl, rfl⟩
  | append_singleton fields f ih =>
    obtain ⟨hs, hfirst⟩ := ih
    have hadd : ∀ w : Writer, (w.AddText f.1 f.2).s = w.Sep ++ fieldText f := fun w => by
      unfold Writer.AddText fieldText
      simp only [append_assoc, cons_append]
    rw [foldl_append, foldl_cons, foldl_nil]
    refine ⟨?_, by simp [Writer.AddText]⟩
    rw [hadd, map_append, map_singleton]
    unfold Writer.Sep
    rw [hfirst, hs]
    cases fields with
    | nil => rfl
    | cons g fields =>
      rw [joined_append_singleton (by simp)]
      simp

/-! ### A line that is read -/

/-- A text between quotes is itself again, blanks and quotes of its own included. -/
theorem Trim_quoted (t : Text) : Trim ('"' :: t ++ ['"']) = t := by
  have htrimmed : Trimmed isBlank ('"' :: t ++ ['"']) := by
    refine ⟨fun c hc => ?_, fun c hc => ?_⟩
    · cases hc
      rfl
    · rw [getLast?_append] at hc
      cases hc
      rfl
  have hlast : ('"' :: t ++ ['"']).getLast? = some '"' := List.getLast?_concat
  unfold Trim
  rw [trim_of_trimmed htrimmed]
  unfold unquote
  rw [hlast]
  simp

/-- A word that begins with no quote, and neither begins nor ends with a blank. -/
theorem Trim_word {t : Text} (hfirst : ∀ c ∈ t.head?, isBlank c = false ∧ c ≠ '"') (hlast : ∀ c ∈ t.getLast?, isBlank c = false) :
    Trim t = t := by
  unfold Trim
  rw [trim_of_trimmed ⟨fun c hc => (hfirst c hc).1, hlast⟩]
  unfold unquote
  refine if_neg ?_
  simp only [Bool.and_eq_true, decide_eq_true_eq, not_and]
  exact fun h => absurd rfl (hfirst '"' h.2).2

theorem Trim_decimal (n : Nat) : Trim (Text.decimal n) = Text.decimal n := by
  have hplain : ∀ c ∈ Text.decimal n, isBlank c = false ∧ c ≠ '"' := by
    intro c hc
    have hdigit := isDigit_decimal hc
    have hblank : isBlank c = false := by
      by_contra hblank
      unfold isBlank at hblank
      simp only [Bool.not_eq_false, Bool.or_eq_true, decide_eq_true_eq] at hblank
      rcases hblank with ((rfl | rfl) | rfl) | rfl <;> cases hdigit
    refine ⟨hblank, ?_⟩
    rintro rfl
    cases hdigit
  exact Trim_word (fun c hc => hplain c (mem_of_head? hc)) fun c hc => (hplain c (mem_of_getLast? hc)).1

theorem addField_fieldText (out : Fields) {field : Text × Text} (h : ':' ∉ field.1) :
    addField out (fieldText field) = Upsert.insertIgnore out [(field.1, Trim field.2)] := by
  have hkey : ∀ c ∈ '"' :: field.1 ++ ['"'], decide (c ≠ ':') = true := by
    intro c hc
    refine decide_eq_true ?_
    rintro rfl
    simp [h] at hc
  have hparts : fieldText field = ('"' :: field.1 ++ ['"']) ++ ':' :: field.2 := by
    have hlit : "\":".toList = ['"', ':'] := by decide +kernel
    unfold fieldText
    rw [hlit]
    simp
  unfold addField
  rw [hparts, dropWhile_append_of_pos hkey, takeWhile_append_of_pos hkey, dropWhile_cons_of_neg (by simp),
    takeWhile_cons_of_neg (by simp), append_nil, Trim_quoted]

theorem parse_run (hts : ∀ t ∈ ts, ',' ∉ t ∧ t ≠ []) (out : Fields) {fuel : Nat} (hfuel : (joined ts).length ≤ fuel) :
    (Loop.run Parsing.goesOn Parsing.turn fuel ⟨joined ts, out⟩).out = ts.foldl addField out := by
  induction ts generalizing out fuel with
  | nil =>
    rw [run_of_ended rfl]
    rfl
  | cons t ts ih =>
    obtain ⟨⟨hcomma, hne⟩, hrest⟩ := forall_mem_cons.1 hts
    have hplain : ∀ c ∈ t, decide (c ≠ ',') = true := by
      intro c hc
      refine decide_eq_true ?_
      rintro rfl
      exact hcomma hc
    cases ts with
    | nil =>
      have hgoes : Parsing.goesOn ⟨t, out⟩ = true := by simp [Parsing.goesOn, hne]
      have hturn : Parsing.turn ⟨t, out⟩ = ⟨[], addField out t⟩ := by
        unfold Parsing.turn
        rw [takeWhile_eq_self_iff.2 hplain, dropWhile_eq_nil_iff.2 hplain]
        rfl
      obtain ⟨fuel, rfl⟩ : ∃ n, fuel = n + 1 := ⟨fuel - 1, by have hpos := length_pos_of_ne_nil hne; simp only [joined] at hfuel; omega⟩
      rw [joined, run, hgoes, if_pos rfl, hturn, run_of_ended rfl]
      rfl
    | cons t' ts =>
      have hgoes : Parsing.goesOn ⟨t ++ ',' :: joined (t' :: ts), out⟩ = true := by simp [Parsing.goesOn]
      have hturn : Parsing.turn ⟨t ++ ',' :: joined (t' :: ts), out⟩ = ⟨joined (t' :: ts), addField out t⟩ := by
        unfold Parsing.turn
        rw [takeWhile_append_of_pos hplain, dropWhile_append_of_pos hplain, takeWhile_cons_of_neg (by simp),
          dropWhile_cons_of_neg (by simp), append_nil]
        rfl
      rw [joined, length_append, length_cons] at hfuel
      obtain ⟨fuel, rfl⟩ : ∃ n, fuel = n + 1 := ⟨fuel - 1, by omega⟩
      rw [joined, run, hgoes, if_pos rfl, hturn, ih hrest (addField out t) (by omega)]
      rfl

/-- What is found in the body of a line that was written: under each key the value of its first field. -/
theorem ParseFlat_joined (fields : List (Text × Text)) (h : ∀ f ∈ fields, ':' ∉ f.1 ∧ ',' ∉ f.1 ∧ ',' ∉ f.2) :
    ParseFlat (joined (fields.map fieldText)) = Upsert.brought (fields.map fun f => (f.1, Trim f.2)) := by
  have hplain : ∀ t ∈ fields.map fieldText, ',' ∉ t ∧ t ≠ [] := by
    intro t ht
    obtain ⟨f, hf, rfl⟩ := mem_map.1 ht
    unfold fieldText
    simp [h f hf]
  have hfold : ∀ out, (∀ f ∈ fields, ':' ∉ f.1) → (fields.map fieldText).foldl addField out =
      insertIgnore out (fields.map fun f => (f.1, Trim f.2)) := by
    clear h hplain
    induction fields with
    | nil => exact fun _ _ => rfl
    | cons f fields ih =>
      intro out h
      rw [map_cons, foldl_cons, addField_fieldText out (h f mem_cons_self), ih _ fun g hg => h g (mem_cons_of_mem _ hg)]
      rfl
  unfold ParseFlat
  rw [parse_run hplain _ (Nat.le_refl _), hfold _ fun f hf => (h f hf).1]
  funext key
  rw [insertIgnore_apply, Option.none_or]

theorem Trim_line (body : Text) : Trim ('\x7b' :: body ++ ['\x7d']) = '\x7b' :: body ++ ['\x7d'] := by
  refine Trim_word (fun c hc => ?_) fun c hc => ?_
  · cases hc
    exact ⟨rfl, by decide⟩
  · rw [getLast?_concat] at hc
    cases hc
    rfl

theorem Parse_line (body : Text) : Parse ('\x7b' :: body ++ ['\x7d']) = some (ParseFlat body) := by
  have hlast : ('\x7b' :: body ++ ['\x7d']).getLast? = some '\x7d' := getLast?_concat
  unfold Parse
  rw [Trim_line]
  dsimp only
  rw [hlast]
  simp

/-! ### Fields by their kind -/

inductive Value where
  | flag (b : Bool)
  | number (n : Nat)
  | name (t : Text)
  | token (t : Text)

def Value.text : Value → Text
  | flag b => if b then "true".toList else "false".toList
  | number n => Text.decimal n
  | name t => '"' :: t ++ ['"']
  | token t => t

/-- Nothing in the value ends its field. -/
def Value.Plain : Value → Prop
  | flag _ => True
  | number _ => True
  | name t => ',' ∉ t
  | token t => ',' ∉ t

theorem Value.Plain.text {v : Value} (h : v.Plain) : ',' ∉ v.text := by
  cases v with
  | flag b =>
    have hwords : ∀ b, ',' ∉ (flag b).text := by decide +kernel
    exact hwords b
  | number n => exact fun hc => absurd (isDigit_decimal hc) (by decide)
  | name t =>
    have hname : ',' ∉ t := h
    unfold Value.text
    simp [hname]
  | token t => exact h

def line (fields : List (Text × Value)) : Text := '\x7b' :: joined (fields.map fun f => fieldText (f.1, f.2.text)) ++ ['\x7d']

/-- The fields of a line whose keys are different names. -/
structure Distinct (fields : List (Text × Value)) : Prop where
  keys : (fields.map Prod.fst).Nodup
  names : ∀ key ∈ fields.map Prod.fst, ':' ∉ key ∧ ',' ∉ key
  values : ∀ v ∈ fields.map Prod.snd, v.Plain

theorem Parse_written {fields : List (Text × Value)} (h : Distinct fields) :
    ∃ m, Parse (line fields) = some m ∧ ParseFlat (line fields).tail.dropLast = m ∧
      ∀ (i : Nat) key v, fields[i]? = some (key, v) → m key = some (Trim v.text) := by
  have hparse : ParseFlat (joined (fields.map fun f => fieldText (f.1, f.2.text))) =
      brought (fields.map fun f => (f.1, Trim f.2.text)) := by
    have hfields := ParseFlat_joined (fields.map fun f => (f.1, f.2.text)) fun f hf => ?_
    · rwa [map_map, map_map] at hfields
    obtain ⟨g, hg, rfl⟩ := mem_map.1 hf
    obtain ⟨hcolon, hcomma⟩ := h.names g.1 (mem_map_of_mem hg)
    exact ⟨hcolon, hcomma, (h.values g.2 (mem_map_of_mem hg)).text⟩
  refine ⟨_, Parse_line _, by unfold line; simp, fun i key v hfield => ?_⟩
  rw [hparse]
  refine brought_of_mem ?_ (mem_map_of_mem (f := fun f : Text × Value => (f.1, Trim f.2.text)) (mem_of_getElem? hfield))
  rw [map_map]
  exact h.keys

section Found

variable {m : Fields} {key : Text}

theorem GetB_found {b : Bool} (h : m key = some (Trim (Value.flag b).text)) (fallback : Bool) : GetB m key fallback = b := by
  have hwords : ∀ b, (Trim (Value.flag b).text = "true".toList || Trim (Value.flag b).text = "1".toList) = b := by decide +kernel
  unfold GetB
  rw [h, Option.map_some, hwords]
  rfl

theorem GetU_found {v : UInt32} (h : m key = some (Trim (Value.number v.toNat).text))
    (fallback : UInt32) : GetU m key fallback = v := by
  have hlt := v.toNat_lt
  unfold GetU
  rw [h, Value.text, Trim_decimal, Option.map_some, strtoul_decimal (by omega), UInt32.ofNat_toNat]
  rfl

theorem GetU64_found {v : UInt64} (h : m key = some (Trim (Value.number v.toNat).text)) (fallback : UInt64) :
    GetU64 m key fallback = v := by
  unfold GetU64
  rw [h, Value.text, Trim_decimal, Option.map_some, strtoul_decimal v.toNat_lt, UInt64.ofNat_toNat]
  rfl

end Found

end ComfyCraft.DcDecisionJson
