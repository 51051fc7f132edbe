import ComfyCraft.Lib.Text

/-! The lines of a character dump, and the functions that get at a column of a line by its number. They look for quotes
alone: an escaped quote, a text that ends in a backslash and a column without a value put them off. -/

namespace ComfyCraft

open List Option Bool Nat

namespace PlayerDump

variable (table : TableName) (str : Text)

/-- `std::string::find` of a character from a place on. -/
def find (c : Char) (start : Nat) : Option Nat :=
  (List.range str.length).find? fun i => decide (start ≤ i) && str[i]? == some c

def findText (str pat : Text) : Option Nat := (List.range str.length).find? fun i => pat.isPrefixOf (str.drop i)

/-- The loop for one more column, behind the quote at `e`. As many turns as there are characters are enough. -/
def nextColumn (str : Text) : Nat → Nat → Option (Nat × Nat)
  | 0, _ => none
  | turns + 1, e =>
    let s := e + 4
    match find str '\'' s with
    | none => none
    | some e => if str[e - 1]? = some '\\' then nextColumn str turns e else some (s, e)

def columns (str : Text) : Nat → Nat × Nat → Option (Nat × Nat)
  | 0, se => some se
  | i + 1, se => (nextColumn str str.length se.2).bind (columns str i)

/-- Where the text of the `n`-th column begins and ends. There is no result where the first loop does not end: it looks
again from the same place. -/
def findnth (n : Nat) : Option (Option (Nat × Nat)) :=
  -- the end of the string and 9 make 8
  let s := match findText str "VALUES ('".toList with
    | some i => i + 9
    | none => 8
  match find str '\'' s with
  | none => some none
  | some e => if str[e - 1]? = some '\\' then none else some (columns str (n - 1) (s, e))

def substr (se : Nat × Nat) : Text := (str.drop se.1).take (se.2 - se.1)

def getnth (n : Nat) : Option Text :=
  (findnth str n).map fun found => match found with
    | none => []
    | some se => substr str se

def changenth (n : Nat) (new : Text) (insert nonzero : Bool) : Option (Bool × Text) :=
  (findnth str n).map fun found => match found with
    | none => (false, str)
    | some se =>
      if nonzero && substr str se == ['0'] then (true, str)
      else if insert then (true, str.take se.1 ++ new ++ str.drop se.1)
      else (true, str.take se.1 ++ new ++ str.drop se.2)

/-! ### A line -/

structure TableName where
  name : Text
  plain : '\'' ∉ name

def field : Option Text → Text
  | none => "NULL".toList
  | some t => '\'' :: t ++ ['\'']

def head : Text := "INSERT INTO ".toList ++ '`' :: table.name ++ '`' :: " VALUES (".toList

def line (columns : List (Option Text)) : Text :=
  head table ++ ", ".toList.intercalate (columns.map field) ++ ");".toList

def createDumpString (escape : Text → Text) (table : TableName) (row : List (Option Text)) : Text :=
  line table (row.map (Option.map escape))

/-- Every column that is not NULL can be read and replaced. -/
def Accessible (escape : Text → Text) (table : TableName) (row : List (Option Text)) : Prop :=
  ∀ (k : Nat) (t : Text), row[k]? = some (some t) →
    getnth (createDumpString escape table row) (k + 1) = some (escape t) ∧
      ∀ new, changenth (createDumpString escape table row) (k + 1) new false false =
        some (true, line table ((row.map (Option.map escape)).set k (some new)))

/-- No text holds a quote or ends in a backslash, and what follows a NULL is NULL. -/
structure Regular (escape : Text → Text) (row : List (Option Text)) : Prop where
  quote : ∀ (k : Nat) (t : Text), row[k]? = some (some t) → '\'' ∉ escape t
  backslash : ∀ (k : Nat) (t : Text), row[k]? = some (some t) → (escape t).getLast? ≠ some '\\'
  null : ∀ k : Nat, row[k]? = some none → ∀ t : Text, row[k + 1]? ≠ some (some t)

section Scan

variable {str : Text} {c : Char} {start i e turns n : Nat} {se se' : Nat × Nat}

theorem find_eq_some : find str c start = some i ↔ start ≤ i ∧ str[i]? = some c ∧ ∀ j, start ≤ j → j < i → str[j]? ≠ some c := by
  unfold find
  rw [find?_range_eq_some]
  simp only [and_eq_true, decide_eq_true_eq, beq_iff_eq, mem_range, not_eq_true', and_eq_false_iff,
    decide_eq_false_iff_not, beq_eq_false_iff_ne, ne_eq]
  constructor
  · rintro ⟨⟨hle, hc⟩, -, hmin⟩
    exact ⟨hle, hc, fun j hj hlt => (hmin j hlt).resolve_left (not_not.2 hj)⟩
  · rintro ⟨hle, hc, hmin⟩
    refine ⟨⟨hle, hc⟩, (List.getElem?_eq_some_iff.1 hc).1, fun j hlt => ?_⟩
    by_cases hj : start ≤ j
    · exact .inr (hmin j hj hlt)
    · exact .inl hj

/-- A column that was found: between two quotes, the second not escaped. -/
structure Found (str : Text) (se : Nat × Nat) : Prop where
  le : se.1 ≤ se.2
  last : str[se.2]? = some '\''
  unescaped : str[se.2 - 1]? ≠ some '\\'
  inner : ∀ j, se.1 ≤ j → j < se.2 → str[j]? ≠ some '\''

theorem Found.of_find (h : find str '\'' start = some e) (hback : ¬ str[e - 1]? = some '\\') : Found str (start, e) :=
  let ⟨hle, hlast, hinner⟩ := find_eq_some.1 h
  ⟨hle, hlast, hback, hinner⟩

/-- One more column begins four places behind a quote. -/
theorem found_nextColumn (h : nextColumn str turns e = some se) (he : str[e]? = some '\'') :
    Found str se ∧ ∃ q, str[q]? = some '\'' ∧ se.1 = q + 4 := by
  induction turns generalizing e with
  | zero => cases h
  | succ turns ih =>
    unfold nextColumn at h
    dsimp only at h
    cases hfind : find str '\'' (e + 4) with
    | none => rw [hfind] at h; cases h
    | some e' =>
      rw [hfind] at h
      dsimp only at h
      split_ifs at h with hback
      · exact ih h (find_eq_some.1 hfind).2.1
      · cases h
        exact ⟨Found.of_find hfind hback, e, he, rfl⟩

theorem found_columns (h : columns str n se = some se') (hse : Found str se) :
    Found str se' ∧ (n ≠ 0 → ∃ q, str[q]? = some '\'' ∧ se'.1 = q + 4) := by
  induction n generalizing se with
  | zero =>
    cases h
    exact ⟨hse, fun h => absurd rfl h⟩
  | succ n ih =>
    obtain ⟨se₁, hnext, hrest⟩ := bind_eq_some_iff.1 h
    obtain ⟨hfound, hbegin⟩ := found_nextColumn hnext hse.last
    obtain ⟨hfound', hbegin'⟩ := ih hrest hfound
    refine ⟨hfound', fun _ => ?_⟩
    by_cases hn : n = 0
    · subst hn
      cases hrest
      exact hbegin
    · exact hbegin' hn

theorem found_findnth (h : findnth str n = some (some se)) :
    Found str se ∧ (1 < n → ∃ q, str[q]? = some '\'' ∧ se.1 = q + 4) := by
  unfold findnth at h
  dsimp only at h
  split at h
  · cases h
  · rename_i e hfind
    split_ifs at h with hback
    obtain ⟨hfound, hbegin⟩ := found_columns (some.inj h) (Found.of_find hfind hback)
    exact ⟨hfound, fun hn => hbegin (by omega)⟩

theorem columns_succ (h : columns str n se = some se') : columns str (n + 1) se = nextColumn str str.length se'.2 := by
  induction n generalizing se with
  | zero =>
    cases h
    unfold columns
    cases nextColumn str str.length se'.2 <;> rfl
  | succ n ih =>
    obtain ⟨se₁, hnext, hrest⟩ := bind_eq_some_iff.1 h
    change (nextColumn str str.length se.2).bind (columns str (n + 1)) = _
    rw [hnext, bind_some, ih hrest]

theorem findnth_succ (h : findnth str (n + 1) = some (some se)) :
    findnth str (n + 2) = some (nextColumn str str.length se.2) := by
  unfold findnth at h ⊢
  dsimp only at h ⊢
  split at h
  · cases h
  · split_ifs at h ⊢ with hback
    rw [Nat.add_sub_cancel] at h
    exact congrArg some (columns_succ (some.inj h))

end Scan

section Line

variable {table : TableName} {row : List (Option Text)} {k : Nat} {t : Text} {escape : Text → Text}

def opening (table : TableName) (row : List (Option Text)) (k : Nat) : Text :=
  head table ++ ((row.take k).map field).flatMap (· ++ ", ".toList) ++ ['\'']

def behind (row : List (Option Text)) (k : Nat) : Text :=
  ((row.drop (k + 1)).map field).flatMap (", ".toList ++ ·) ++ ");".toList

def span (table : TableName) (row : List (Option Text)) (k : Nat) (t : Text) : Nat × Nat :=
  ((opening table row k).length, (opening table row k ++ t).length)

theorem intercalate_split {sep : Text} {l : List Text} {x : Text} (h : l[k]? = some x) :
    sep.intercalate l = (l.take k).flatMap (· ++ sep) ++ x ++ (l.drop (k + 1)).flatMap (sep ++ ·) := by
  induction l generalizing k x with
  | nil => cases h
  | cons a l ih =>
    cases k with
    | zero =>
      cases h
      cases l with
      | nil => simp [intercalate]
      | cons b l =>
        have hrest := ih (k := 0) (x := b) rfl
        simp only [intercalate_cons_cons, take_zero, flatMap_nil, nil_append, drop_succ_cons, drop_zero,
          flatMap_cons, append_assoc] at hrest ⊢
        rw [hrest]
    | succ k =>
      rw [getElem?_cons_succ] at h
      cases l with
      | nil => cases h
      | cons b l =>
        rw [intercalate_cons_cons, ih h]
        simp [append_assoc]

theorem line_eq (h : row[k]? = some (some t)) : line table row = opening table row k ++ t ++ '\'' :: behind row k := by
  unfold line opening behind
  rw [intercalate_split (k := k) (x := field (some t)) (by rw [getElem?_map, h]; rfl)]
  simp [field, map_take, map_drop, append_assoc]

theorem opening_set (row : List (Option Text)) (k : Nat) (x : Option Text) : opening table (row.set k x) k = opening table row k := by
  unfold opening
  rw [take_set_of_le (le_refl k)]

theorem behind_set (row : List (Option Text)) (k : Nat) (x : Option Text) : behind (row.set k x) k = behind row k := by
  unfold behind
  rw [drop_set_of_lt (lt_succ_self k)]

section

variable (h : row[k]? = some (some t))
include h

/-- The text and the quote behind it, at their places. -/
theorem getElem?_line {i : Nat} (hi : i ≤ t.length) : (line table row)[(span table row k t).1 + i]? = (t ++ ['\''])[i]? := by
  have hline : line table row = opening table row k ++ ((t ++ ['\'']) ++ behind row k) := by
    rw [line_eq h, append_assoc, append_assoc]
    rfl
  change (line table row)[(opening table row k).length + i]? = _
  rw [hline, getElem?_append_right (Nat.le_add_right _ _), Nat.add_sub_cancel_left, getElem?_append_left (by rw [length_append, length_singleton]; omega)]

theorem take_line : (line table row).take (span table row k t).1 = opening table row k := by
  rw [line_eq h, append_assoc]
  exact take_left

theorem drop_line : (line table row).drop (span table row k t).2 = '\'' :: behind row k := by
  rw [line_eq h]
  exact drop_left

theorem substr_line : substr (line table row) (span table row k t) = t := by
  have hlen : (span table row k t).2 - (span table row k t).1 = t.length := by
    unfold span
    rw [length_append, Nat.add_sub_cancel_left]
  unfold substr
  rw [hlen, line_eq h, append_assoc]
  change ((opening table row k ++ (t ++ '\'' :: behind row k)).drop (opening table row k).length).take t.length = t
  rw [drop_left, take_left]

theorem line_set (new : Text) : line table (row.set k (some new)) = opening table row k ++ new ++ '\'' :: behind row k := by
  have hset : (row.set k (some new))[k]? = some (some new) := by rw [List.getElem?_set_self (List.getElem?_eq_some_iff.1 h).1]
  rw [line_eq hset, opening_set, behind_set]

/-- A text is taken from its place, and another put there. -/
theorem access_of_span (hfind : findnth (line table row) (k + 1) = some (some (span table row k t))) :
    getnth (line table row) (k + 1) = some t ∧
      ∀ new, changenth (line table row) (k + 1) new false false = some (true, line table (row.set k (some new))) := by
  unfold getnth changenth
  rw [hfind, Option.map_some]
  refine ⟨congrArg some (substr_line h), fun new => ?_⟩
  simp only [Option.map_some, Bool.false_and, Bool.false_eq_true, if_false]
  rw [take_line h, drop_line h, line_set h]

end

/-- What surrounds any text put between two places tells the places. -/
theorem splice_inj {a d p q : Text} (h : ∀ w : Text, a ++ w ++ d = p ++ w ++ q) : a = p ∧ d = q := by
  have hside : ∀ {a d p q : Text}, (∀ w : Text, a ++ w ++ d = p ++ w ++ q) → ¬ a.length < p.length := by
    intro a d p q h hlt
    have hat : ∀ c : Char, some c = p[a.length]? := fun c => by
      have := congrArg (·[a.length]?) (h [c])
      simpa [getElem?_append_left, hlt] using this
    cases (hat 'a').trans (hat 'b').symm
  have hlen : a.length = p.length := le_antisymm (not_lt.1 (hside fun w => (h w).symm)) (not_lt.1 (hside h))
  have hnil := h []
  rw [append_nil, append_nil] at hnil
  exact append_inj hnil hlen

/-- A text that is replaced was found at its place. -/
theorem span_of_access (h : row[k]? = some (some t))
    (hchange : ∀ new, changenth (line table row) (k + 1) new false false = some (true, line table (row.set k (some new)))) :
    findnth (line table row) (k + 1) = some (some (span table row k t)) := by
  unfold changenth at hchange
  cases hfind : findnth (line table row) (k + 1) with
  | none => rw [hfind] at hchange; cases hchange []
  | some found =>
    cases found with
    | none => rw [hfind] at hchange; cases hchange []
    | some se =>
      rw [hfind] at hchange
      have hfound := (found_findnth hfind).1
      have hend := (List.getElem?_eq_some_iff.1 hfound.last).1
      obtain ⟨htake, hdrop⟩ := splice_inj fun w => by
        have hw := congrArg Prod.snd (some.inj (hchange w))
        simp only [Bool.false_and, Bool.false_eq_true, if_false] at hw
        exact hw.trans (line_set h w)
      have hstart := congrArg length htake
      have hstop : _ = ((line table row).drop _).length := congrArg length (hdrop.trans (drop_line h).symm)
      have hspan : (span table row k t).2 ≤ (line table row).length := by
        rw [line_eq h, length_append]
        exact le_add_right _ _
      have hle := hfound.le
      rw [length_take] at hstart
      rw [length_drop, length_drop] at hstop
      congr 2
      refine Prod.ext ?_ (by omega)
      change se.1 = (opening table row k).length
      omega

/-- A text without a quote that does not end in a backslash ends where its quote is found. -/
theorem find_end (h : row[k]? = some (some t)) (hquote : '\'' ∉ t) (hback : t.getLast? ≠ some '\\') :
    find (line table row) '\'' (span table row k t).1 = some (span table row k t).2 ∧
      (line table row)[(span table row k t).2 - 1]? ≠ some '\\' := by
  have hspan : (span table row k t).2 = (span table row k t).1 + t.length := by
    unfold span
    rw [length_append]
  constructor
  · refine find_eq_some.2 ⟨by omega, ?_, fun j hle hlt hj => ?_⟩
    · rw [hspan, getElem?_line h le_rfl, getElem?_append_right le_rfl, Nat.sub_self]
      rfl
    · obtain ⟨i, rfl⟩ := Nat.exists_eq_add_of_le hle
      rw [getElem?_line h (by omega), getElem?_append_left (by omega)] at hj
      exact hquote (mem_of_getElem? hj)
  · cases hlen : t.length with
    | zero =>
      -- the quote that opens an empty text stands there
      have hopen : line table row = opening table row k ++ '\'' :: behind row k := by
        rw [line_eq h, eq_nil_of_length_eq_zero hlen, append_nil]
      have hlast : (opening table row k).getLast? = some '\'' := by
        unfold opening
        rw [getLast?_append_of_ne_nil _ (cons_ne_nil _ _)]
        rfl
      have hpos : 0 < (opening table row k).length := length_pos_of_ne_nil fun hnil => by rw [hnil] at hlast; cases hlast
      rw [hspan, hlen, hopen, getElem?_append_left (by change (opening table row k).length + 0 - 1 < _; omega)]
      change (opening table row k)[(opening table row k).length - 1]? ≠ _
      rw [← getLast?_eq_getElem?, hlast]
      decide
    | succ m =>
      rw [hspan, hlen, ← Nat.add_assoc, Nat.add_sub_cancel, getElem?_line h (by omega), getElem?_append_left (by omega)]
      rwa [getLast?_eq_getElem?, hlen, Nat.add_sub_cancel] at hback

/-- The first column's text begins behind the first quote of the line, where the list of values was looked for. -/
theorem findText_line (h : row[0]? = some (some t)) :
    ∃ i, findText (line table row) "VALUES ('".toList = some i ∧ i + 9 = (span table row 0 t).1 := by
  obtain ⟨front, hopening, hplain⟩ : ∃ front, opening table row 0 = front ++ "VALUES ('".toList ∧ '\'' ∉ front ++ "VALUES (".toList := by
    refine ⟨"INSERT INTO ".toList ++ '`' :: table.name ++ ['`', ' '], ?_, ?_⟩
    · unfold opening head
      simp [List.append_assoc]
    · simp [table.plain]
  refine ⟨front.length, ?_, ?_⟩
  · unfold findText
    rw [List.find?_range_eq_some]
    have hline : line table row = _ := line_eq h
    rw [hopening, List.append_assoc, List.append_assoc] at hline
    refine ⟨?_, ?_, fun j hj => ?_⟩
    · rw [hline, List.drop_left, List.isPrefixOf_iff_prefix]
      exact List.prefix_append _ _
    · rw [hline, List.mem_range, List.length_append, List.length_append]
      exact Nat.lt_add_of_pos_right (Nat.lt_of_lt_of_le (show 0 < "VALUES ('".toList.length by decide) (Nat.le_add_right _ _))
    · -- an earlier place would have a quote before the first one
      rw [Bool.not_eq_true', ← Bool.not_eq_true, List.isPrefixOf_iff_prefix]
      rintro ⟨rest, hrest⟩
      have hat : (line table row)[j + 8]? = some '\'' := by
        rw [← List.getElem?_drop, ← hrest]
        rfl
      have hline' : line table row = (front ++ "VALUES (".toList) ++ '\'' :: (t ++ '\'' :: behind row 0) := by
        rw [hline, List.append_assoc]
        rfl
      have hlt : j + 8 < (front ++ "VALUES (".toList).length := by
        rw [List.length_append]
        change j + 8 < front.length + 8
        omega
      rw [hline', List.getElem?_append_left hlt] at hat
      exact hplain (List.mem_of_getElem? hat)
  · unfold span
    rw [hopening, List.length_append]
    rfl

/-- From a column the next one is found, four places behind its quote. -/
theorem nextColumn_line {t' : Text} (h : row[k]? = some (some t)) (h' : row[k + 1]? = some (some t')) (hquote : '\'' ∉ t')
    (hback : t'.getLast? ≠ some '\\') :
    nextColumn (line table row) (line table row).length (span table row k t).2 = some (span table row (k + 1) t') := by
  have hstep : (span table row k t).2 + 4 = (span table row (k + 1) t').1 := by
    have hlt : k < row.length := (List.getElem?_eq_some_iff.1 h).1
    unfold span opening
    rw [take_add_one, h]
    simp [field]
    omega
  have hfound : find (line table row) _ _ = _ ∧ _ := find_end h' hquote hback
  obtain ⟨hfind, hend⟩ := hfound
  cases hturns : (line table row).length with
  | zero => rw [eq_nil_of_length_eq_zero hturns] at hfind; cases hfind
  | succ turns =>
    unfold nextColumn
    dsimp only
    rw [hstep, hfind]
    dsimp only
    rw [if_neg hend]

end Line

section Access

variable {escape : Text → Text} {table : TableName} {row : List (Option Text)}

theorem getElem?_escaped {k : Nat} {t : Text} (h : row[k]? = some (some t)) :
    (row.map (Option.map escape))[k]? = some (some (escape t)) := by
  rw [getElem?_map, h]
  rfl

theorem regular_of_accessible (h : Accessible escape table row) : Regular escape row := by
  have hfound : ∀ (k : Nat) (t : Text), row[k]? = some (some t) → findnth (line table (row.map (Option.map escape))) (k + 1) =
        some (some (span table (row.map (Option.map escape)) k (escape t))) :=
    fun k t ht => span_of_access (getElem?_escaped ht) (h k t ht).2
  refine ⟨fun k t ht hmem => ?_, fun k t ht hlast => ?_, fun k hnull t ht => ?_⟩
  · -- nothing that is found has a quote in it
    obtain ⟨i, hi⟩ := mem_iff_getElem?.1 hmem
    have hlt : i < (escape t).length := (List.getElem?_eq_some_iff.1 hi).1
    have hat : (line table _)[_]? = _ := getElem?_line (getElem?_escaped ht) hlt.le
    rw [getElem?_append_left hlt, hi] at hat
    refine (found_findnth (hfound k t ht)).1.inner _ (Nat.le_add_right _ i) ?_ hat
    unfold span
    rw [length_append]
    omega
  · -- the quote behind the text looks escaped
    rw [getLast?_eq_getElem?] at hlast
    have hlt := (List.getElem?_eq_some_iff.1 hlast).1
    have hat : (line table _)[_]? = _ := getElem?_line (getElem?_escaped ht) hlt.le
    rw [getElem?_append_left hlt, hlast] at hat
    refine (found_findnth (hfound k t ht)).1.unescaped ?_
    rw [← hat]
    congr 1
    unfold span
    rw [length_append]
    omega
  · -- four places before the next text there would have to be a quote
    obtain ⟨q, hq, hbegin⟩ := (found_findnth (hfound (k + 1) t ht)).2 (by omega)
    have hesc : _ = some (some (escape t)) := getElem?_escaped ht
    have hnull' : (row.map (Option.map escape))[k]? = some none := by rw [getElem?_map, hnull]; rfl
    generalize row.map (Option.map escape) = texts at hesc hnull' hq hbegin
    have hopening : opening table texts (k + 1) =
        (head table ++ ((texts.take k).map field).flatMap (· ++ ", ".toList) ++ "NUL".toList) ++ "L, '".toList := by
      unfold opening
      rw [take_add_one, hnull']
      simp [field, append_assoc]
    have hlen : q = (head table ++ ((texts.take k).map field).flatMap (· ++ ", ".toList) ++ "NUL".toList).length := by
      change (opening table texts (k + 1)).length = q + 4 at hbegin
      rw [hopening, length_append] at hbegin
      exact (Nat.add_right_cancel (m := 4) hbegin).symm
    rw [line_eq hesc, hopening, hlen, append_assoc, append_assoc, getElem?_append_right le_rfl, Nat.sub_self] at hq
    cases hq

theorem findnth_of_regular (h : Regular escape row) (k : Nat) : ∀ t, row[k]? = some (some t) →
    findnth (line table (row.map (Option.map escape))) (k + 1) =
      some (some (span table (row.map (Option.map escape)) k (escape t))) := by
  induction k with
  | zero =>
    intro t ht
    have hesc : _ = some (some (escape t)) := getElem?_escaped ht
    obtain ⟨i, htext, hi⟩ : ∃ i, findText (line table _) _ = _ ∧ _ := findText_line hesc
    obtain ⟨hfind, hend⟩ : find (line table _) _ _ = _ ∧ _ := find_end hesc (h.quote 0 t ht) (h.backslash 0 t ht)
    unfold findnth
    rw [htext]
    dsimp only
    rw [hi, hfind]
    dsimp only
    rw [if_neg hend]
    rfl
  | succ k ih =>
    intro t ht
    -- the column before has a text too
    have hlt : k < row.length := Nat.lt_of_succ_lt (List.getElem?_eq_some_iff.1 ht).1
    cases hprev : row[k] with
    | none => exact absurd ht (h.null k (by rw [getElem?_eq_getElem hlt, hprev]) t)
    | some t₀ =>
      have hprev' : row[k]? = some (some t₀) := by rw [getElem?_eq_getElem hlt, hprev]
      rw [findnth_succ (ih t₀ hprev'), nextColumn_line (getElem?_escaped hprev') (getElem?_escaped ht) (h.quote _ t ht)
        (h.backslash _ t ht)]

theorem accessible_iff_regular (escape : Text → Text) (table : TableName) (row : List (Option Text)) :
    Accessible escape table row ↔ Regular escape row :=
  ⟨regular_of_accessible, fun h k t ht => access_of_span (getElem?_escaped ht) (findnth_of_regular h k t ht)⟩

/-- A mail without a subject, which is NULL. -/
theorem not_accessible_null : ¬ ∀ escape table row, Accessible escape table row := fun h =>
  (regular_of_accessible (h id ⟨"mail".toList, by decide⟩ [some ['1'], none, some ['5']])).null 1 rfl ['5'] rfl

end Access

end PlayerDump

end ComfyCraft
