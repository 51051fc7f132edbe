import ComfyCraft.LFT.Listings

/-! Names that were normalized once stay as they are, and the text that the signups of a role are saved as
gives them back. -/

namespace ComfyCraft

open List Text

/-- The letters that `wcharToUpper` changes. -/
def IsSmall (c : Nat) : Prop :=
  (0x61 ≤ c ∧ c ≤ 0x7A) ∨ c = 0xDF ∨ (0xE0 ≤ c ∧ c ≤ 0xF6) ∨ (0xF8 ≤ c ∧ c ≤ 0xFE) ∨ (0x101 ≤ c ∧ c ≤ 0x12F ∧ c % 2 = 1) ∨
    (0x430 ≤ c ∧ c ≤ 0x44F) ∨ c = 0x451

/-- The letters that `wcharToLower` changes. -/
def IsLarge (c : Nat) : Prop :=
  (0x41 ≤ c ∧ c ≤ 0x5A) ∨ (0xC0 ≤ c ∧ c ≤ 0xD6) ∨ (0xD8 ≤ c ∧ c ≤ 0xDE) ∨ (0x100 ≤ c ∧ c ≤ 0x12E ∧ c % 2 = 0) ∨ c = 0x1E9E ∨
    c = 0x401 ∨ (0x410 ≤ c ∧ c ≤ 0x42F)

variable {c : Nat} {t : Text}

theorem wcharToUpper_of_not_small (h : ¬ IsSmall c) : wcharToUpper c = c := by
  unfold IsSmall at h
  simp only [not_or] at h
  obtain ⟨h1, h2, h3, h4, h5, h6, h7⟩ := h
  unfold wcharToUpper
  rw [if_neg h1, if_neg h2, if_neg h3, if_neg h4, if_neg h5, if_neg h6, if_neg h7]

theorem not_small_wcharToUpper (c : Nat) : ¬ IsSmall (wcharToUpper c) := by
  unfold wcharToUpper IsSmall
  split_ifs <;> omega

theorem wcharToLower_of_not_large (h : ¬ IsLarge c) : wcharToLower c = c := by
  unfold IsLarge at h
  simp only [not_or] at h
  obtain ⟨h1, h2, h3, h4, h5, h6, h7⟩ := h
  unfold wcharToLower
  rw [if_neg h1, if_neg h2, if_neg h3, if_neg h4, if_neg h5, if_neg h6, if_neg h7]

theorem not_large_wcharToLower (c : Nat) : ¬ IsLarge (wcharToLower c) := by
  unfold wcharToLower IsLarge
  split_ifs <;> omega

theorem wcharToUpper_wcharToUpper (c : Nat) : wcharToUpper (wcharToUpper c) = wcharToUpper c :=
  wcharToUpper_of_not_small (not_small_wcharToUpper c)

theorem wcharToUpper_ne_sharp (c : Nat) : wcharToUpper c ≠ 0xDF := fun h =>
  not_small_wcharToUpper c (.inr (.inl h))

theorem wcharToLower_wcharToLower (c : Nat) : wcharToLower (wcharToLower c) = wcharToLower c :=
  wcharToLower_of_not_large (not_large_wcharToLower c)

theorem normalizePlayerName_idem (u : Utf8) {name n : Text} (h : normalizePlayerName u name = some n) :
    normalizePlayerName u n = some n := by
  unfold normalizePlayerName at h
  split at h
  · cases h
  · cases h
  rename_i c cs hw
  split_ifs at h with hbad
  have hlen : ¬ MAX_INTERNAL_PLAYER_NAME < (cs.map wcharToLower).length + 1 := by
    rw [length_map]
    exact fun hlt => hbad (.inr hlt)
  have hlower : (cs.map wcharToLower).map wcharToLower = cs.map wcharToLower := by
    rw [map_map]
    exact map_congr_left fun x _ => wcharToLower_wcharToLower x
  unfold normalizePlayerName
  rw [u.back _ _ h]
  dsimp only
  rw [if_neg (not_or.2 ⟨wcharToUpper_ne_sharp c, hlen⟩), wcharToUpper_wcharToUpper, hlower, h]

/-! The saved texts. -/

/-- Nothing in a text has to be escaped. -/
def Letters (t : Text) : Prop := ∀ c ∈ t, isListingMark c = false

instance (t : Text) : Decidable (Letters t) := List.decidableBAll _ _

/-- A signup with the names of a player and of a class. -/
structure ListingSignup.Lettered (s : ListingSignup) : Prop where
  name : Letters s.name
  className : Letters s.className

theorem escapeListingField_letters (h : Letters t) : escapeListingField t = t := by
  unfold escapeListingField
  induction t with
  | nil => rfl
  | cons c t ih =>
    rw [flatMap_cons, ih fun x hx => h x (mem_cons_of_mem c hx), if_neg (by rw [h c mem_cons_self]; decide)]
    rfl

theorem letters_decimal (n : Nat) : Letters (Text.decimal n) := by
  intro c hc
  have hdigit := isDigit_decimal hc
  unfold isListingMark
  have hne : ∀ x : Char, x.isDigit = false → c ≠ x := by
    rintro x hx rfl
    rw [hx] at hdigit
    cases hdigit
  rw [decide_eq_false (hne '\\' (by decide)), decide_eq_false (hne '|' (by decide)), decide_eq_false (hne ';' (by decide))]
  rfl

theorem letters_flag (b : Bool) : Letters (if b then ['1'] else ['0']) := by
  cases b <;> decide

theorem letters_playerClass (c : PlayerClass) : Letters c.name := by
  cases c <;> decide

theorem Letters.plain (h : Letters t) {delim : Char} (hdelim : delim = '|' ∨ delim = ';') : Text.Plain '\\' delim t := by
  intro c hc
  have hmark := h c hc
  unfold isListingMark at hmark
  simp only [Bool.or_eq_false_iff, decide_eq_false_iff_not] at hmark
  rcases hdelim with rfl | rfl
  · exact ⟨hmark.1.1, hmark.1.2⟩
  · exact ⟨hmark.1.1, hmark.2⟩

namespace ListingSignup

variable {s : ListingSignup}

theorem Lettered.serialize (h : s.Lettered) : serializeSignup s =
    s.name ++ [s.className, Text.decimal s.level.toNat, if s.confirmed then ['1'] else ['0']].flatMap fun f => '|' :: f := by
  unfold serializeSignup
  rw [escapeListingField_letters h.name, escapeListingField_letters h.className]
  simp only [flatMap_cons, flatMap_nil, append_nil, cons_append]

theorem serialize_ne_nil (s : ListingSignup) : serializeSignup s ≠ [] := by
  unfold serializeSignup
  simp

theorem Lettered.deserialize (h : s.Lettered) : deserializeSignup (serializeSignup s) = some s := by
  unfold deserializeSignup
  rw [if_neg (serialize_ne_nil s), h.serialize, splitEscaped_join (by decide) _ (h.name.plain (.inl rfl))]
  · dsimp only
    have hlevel : UInt32.ofNat (strtoul (decimal s.level.toNat)) = s.level := by
      rw [strtoul_decimal (lt_trans s.level.toNat_lt (by decide))]
      exact UInt32.ofNat_toNat
    have hflag : decide ((if s.confirmed = true then ['1'] else ['0']) = ['1']) = s.confirmed := by
      cases s.confirmed <;> decide
    rw [hlevel, hflag]
  · intro p hp
    simp only [mem_cons, not_mem_nil, or_false] at hp
    rcases hp with rfl | rfl | rfl
    · exact h.className.plain (.inl rfl)
    · exact (letters_decimal _).plain (.inl rfl)
    · exact (letters_flag _).plain (.inl rfl)

/-- A saved signup has no mark that ends it. -/
theorem Lettered.plain (h : s.Lettered) : Text.Plain '\\' ';' (serializeSignup s) := by
  have hbar : ∀ {t : Text}, Letters t → Plain '\\' ';' ('|' :: t) := by
    intro t ht c hc
    rcases mem_cons.1 hc with rfl | hc
    · decide
    · exact ht.plain (.inr rfl) c hc
  rw [h.serialize]
  intro c hc
  simp only [flatMap_cons, flatMap_nil, append_nil, mem_append] at hc
  rcases hc with hc | hc | hc | hc
  · exact h.name.plain (.inr rfl) c hc
  · exact hbar h.className c hc
  · exact hbar (letters_decimal _) c hc
  · exact hbar (letters_flag _) c hc

end ListingSignup

theorem serializeSignups_foldl {acc : Text} (hacc : acc ≠ []) (l : List ListingSignup) :
    l.foldl (fun serialized s => (if serialized = [] then serialized else serialized ++ [';']) ++ serializeSignup s) acc =
      acc ++ (l.map serializeSignup).flatMap fun t => ';' :: t := by
  induction l generalizing acc with
  | nil => exact (append_nil acc).symm
  | cons s l ih =>
    rw [foldl_cons, if_neg hacc, ih (by simp), map_cons, flatMap_cons]
    simp only [append_assoc, cons_append, nil_append]

/-- The signups of a role come back from their text. -/
theorem deserialize_serialize {l : List ListingSignup} (h : ∀ s ∈ l, s.Lettered) : deserializeSignups (serializeSignups l) = l := by
  cases l with
  | nil => rfl
  | cons s l =>
    have hne := ListingSignup.serialize_ne_nil s
    have hfirst : serializeSignups (s :: l) = serializeSignup s ++ (l.map serializeSignup).flatMap fun t => ';' :: t := by
      unfold serializeSignups
      rw [foldl_cons, if_pos rfl, nil_append]
      exact serializeSignups_foldl hne l
    have hall : ∀ l' : List ListingSignup, (∀ s ∈ l', s.Lettered) → (l'.map serializeSignup).filterMap deserializeSignup = l' := by
      intro l' hl'
      induction l' with
      | nil => rfl
      | cons x l' ih =>
        rw [map_cons, filterMap_cons, (hl' x mem_cons_self).deserialize, ih fun y hy => hl' y (mem_cons_of_mem x hy)]
    have hplain : ∀ p ∈ l.map serializeSignup, Plain '\\' ';' p := by
      intro p hp
      obtain ⟨x, hx, rfl⟩ := mem_map.1 hp
      exact (h x (mem_cons_of_mem s hx)).plain
    unfold deserializeSignups
    rw [if_neg (by rw [hfirst]; simp [hne]), hfirst,
      splitEscaped_join (by decide) hplain (h s mem_cons_self).plain]
    exact hall (s :: l) h

end ComfyCraft
