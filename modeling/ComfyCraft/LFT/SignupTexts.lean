import ComfyCraft.LFT.ListingTexts

/-! Signups with any names, as they are saved and read again: a row loses the escape characters of its fields when the rows are split. -/

namespace ComfyCraft

open List Text ListingSignup

def rowText (s : ListingSignup) : Text :=
  s.name ++ '|' :: (s.className ++ '|' :: (Text.decimal s.level.toNat ++ '|' :: (if s.confirmed then ['1'] else ['0'])))

/-- A name that the splitting of a row takes as one field. -/
def FieldName (t : Text) : Prop := Text.Plain '\\' '|' t

namespace ListingSignup

variable {s : ListingSignup}

/-- Splitting the rows takes away what `EscapeListingField` has put in. -/
theorem yields_serialize (s : ListingSignup) : Text.Yields '\\' ';' (serializeSignup s) (rowText s) := by
  have hfield : ∀ t, Yields '\\' ';' (escapeListingField t) t := fun t => yields_escaped rfl rfl t
  have hbar : ∀ {t u : Text}, Yields '\\' ';' t u → Yields '\\' ';' ('|' :: t) ('|' :: u) := fun h =>
    (Plain.yields (t := ['|']) (by decide)).append h
  have hlevel : Yields '\\' ';' (decimal s.level.toNat) (decimal s.level.toNat) :=
    ((letters_decimal _).plain (.inr rfl)).yields
  have hflag : Yields '\\' ';' (if s.confirmed then ['1'] else ['0']) (if s.confirmed then ['1'] else ['0']) :=
    ((letters_flag _).plain (.inr rfl)).yields
  exact (hfield s.name).append (hbar ((hfield s.className).append (hbar (hlevel.append (hbar hflag)))))

/-- A row is read as the signup it is of exactly where the names hold neither the mark between fields nor the escape character. -/
theorem deserialize_rowText : deserializeSignup (rowText s) = some s ↔ FieldName s.name ∧ FieldName s.className := by
  have hne : rowText s ≠ [] := by simp [rowText]
  unfold deserializeSignup
  rw [if_neg hne]
  constructor
  · intro h
    split at h
    · rename_i name className level confirmed more hsplit
      have hs := Option.some.inj h
      have hname : name = s.name := congrArg ListingSignup.name hs
      have hclass : className = s.className := congrArg ListingSignup.className hs
      rw [hname, hclass] at hsplit
      have hfirst : FieldName s.name := plain_of_split (by decide) [] hsplit
      unfold rowText at hsplit
      rw [splitEscaped_plain hfirst, splitEscaped, if_neg (by decide), if_pos rfl] at hsplit
      exact ⟨hfirst, plain_of_split (by decide) [] (cons.inj hsplit).2⟩
    · cases h
  · rintro ⟨hname, hclass⟩
    have hrow : rowText s = s.name ++ [s.className, decimal s.level.toNat, if s.confirmed then ['1'] else ['0']].flatMap fun f => '|' :: f := by
      simp [rowText]
    have hfields : ∀ f ∈ [s.className, decimal s.level.toNat, if s.confirmed then ['1'] else ['0']], Plain '\\' '|' f := by
      simp only [forall_mem_cons, not_mem_nil, false_imp_iff, implies_true, and_true]
      exact ⟨hclass, (letters_decimal _).plain (.inl rfl), (letters_flag _).plain (.inl rfl)⟩
    rw [hrow, splitEscaped_join (by decide) hfields hname]
    dsimp only
    rw [strtoul_decimal (lt_trans s.level.toNat_lt (by decide)), UInt32.ofNat_toNat]
    cases s with
    | mk name className level confirmed => cases confirmed <;> rfl

end ListingSignup

theorem split_serializeSignups (s : ListingSignup) (l : List ListingSignup) :
    Text.splitEscaped '\\' ';' [] false (serializeSignups (s :: l)) = (s :: l).map rowText := by
  unfold serializeSignups
  rw [foldl_cons, if_pos rfl, nil_append, serializeSignups_foldl (serialize_ne_nil s), flatMap_map]
  exact splitEscaped_yields (by decide) (fun x _ => x.yields_serialize) s.yields_serialize

theorem deserialize_rows (l : List ListingSignup) : deserializeSignups (serializeSignups l) = (l.map rowText).filterMap deserializeSignup := by
  cases l with
  | nil => rfl
  | cons s l =>
    have hne : serializeSignups (s :: l) ≠ [] := by
      intro h
      have hsplit := split_serializeSignups s l
      rw [h, map_cons] at hsplit
      have hrow : rowText s = [] := (cons.inj hsplit).1.symm
      simp [rowText] at hrow
    unfold deserializeSignups
    rw [if_neg hne, split_serializeSignups]

/-- Reading row by row gives the list back only if each row gives its signup back: a row gives one signup at most. -/
theorem filterMap_eq_self_iff {α : Type*} {f : α → Option α} {l : List α} : l.filterMap f = l ↔ ∀ a ∈ l, f a = some a := by
  induction l with
  | nil => simp
  | cons a l ih =>
    rw [filterMap_cons, forall_mem_cons]
    cases hfa : f a with
    | none =>
      have hlength := length_filterMap_le f l
      refine ⟨fun h => ?_, fun h => by cases h.1⟩
      dsimp only at h
      rw [h, length_cons] at hlength
      omega
    | some b =>
      dsimp only
      rw [cons.injEq, ih, Option.some.injEq]

/-- The signups of a role come back from their text exactly where no name of theirs, of a player or of a class, holds the escape character or
the mark between fields. The mark between rows does no harm. -/
theorem deserialize_serialize_iff (l : List ListingSignup) :
    deserializeSignups (serializeSignups l) = l ↔ ∀ s ∈ l, FieldName s.name ∧ FieldName s.className := by
  rw [deserialize_rows, filterMap_map, filterMap_eq_self_iff]
  exact forall₂_congr fun s _ => deserialize_rowText

/-- A name with the mark between fields is read as two. -/
theorem barred_name_lost :
    ¬ deserializeSignups (serializeSignups [⟨"Ann|Bob".toList, "WARRIOR".toList, 60, true⟩]) = [⟨"Ann|Bob".toList, "WARRIOR".toList, 60, true⟩] ∧
      deserializeSignups (serializeSignups [⟨"Ann|Bob".toList, "WARRIOR".toList, 60, true⟩]) = [⟨"Ann".toList, "Bob".toList, 0, false⟩] := by
  decide +kernel

end ComfyCraft
