import Mathlib.Data.Set.Basic

/-! Classes given by labels: two are in one class when they carry the same label, and what carries none is alone. Giving a set
of whole classes one label that is free merges them; taking the label from some leaves the rest of their classes as they were. -/

namespace Labels

variable {α κ : Type}

def Same (l : α → Option κ) (a b : α) : Prop := a = b ∨ ∃ k, l a = some k ∧ l b = some k

theorem same_equivalence (l : α → Option κ) : Equivalence (Same l) where
  refl a := .inl rfl
  symm := by
    rintro a b (rfl | ⟨k, ha, hb⟩)
    · exact .inl rfl
    · exact .inr ⟨k, hb, ha⟩
  trans := by
    rintro a b c (rfl | ⟨k, ha, hb⟩) hbc
    · exact hbc
    rcases hbc with rfl | ⟨k', hb', hc⟩
    · exact .inr ⟨k, ha, hb⟩
    · have hk : k = k' := Option.some.inj (hb.symm.trans hb')
      exact .inr ⟨k, ha, hk ▸ hc⟩

variable {l l' : α → Option κ} {a b : α}

/-- A set of whole classes gets a label that nothing else has. -/
theorem same_merged {merged : Set α} {k : κ} (hin : ∀ x ∈ merged, l' x = some k) (hout : ∀ x ∉ merged, l' x = l x)
    (hclosed : Same l a b → (a ∈ merged ↔ b ∈ merged)) (ha : a ∉ merged → l a ≠ some k) (hb : b ∉ merged → l b ≠ some k) :
    Same l' a b ↔ Same l a b ∨ a ∈ merged ∧ b ∈ merged := by
  by_cases hma : a ∈ merged
  · by_cases hmb : b ∈ merged
    · exact ⟨fun _ => .inr ⟨hma, hmb⟩, fun _ => .inr ⟨k, hin a hma, hin b hmb⟩⟩
    constructor
    · rintro (rfl | ⟨k', ha', hb'⟩)
      · exact absurd hma hmb
      rw [hin a hma] at ha'
      rw [hout b hmb, ← ha'] at hb'
      exact absurd hb' (hb hmb)
    · rintro (hsame | hboth)
      · exact absurd ((hclosed hsame).1 hma) hmb
      · exact absurd hboth.2 hmb
  · by_cases hmb : b ∈ merged
    · constructor
      · rintro (rfl | ⟨k', ha', hb'⟩)
        · exact absurd hmb hma
        rw [hin b hmb] at hb'
        rw [hout a hma, ← hb'] at ha'
        exact absurd ha' (ha hma)
      · rintro (hsame | hboth)
        · exact absurd ((hclosed hsame).2 hmb) hma
        · exact absurd hboth.1 hma
    · unfold Same
      rw [hout a hma, hout b hmb]
      exact ⟨.inl, fun h => h.resolve_right fun hboth => hma hboth.1⟩

/-- Some lose their labels. -/
theorem same_released {released : Set α} (hin : ∀ x ∈ released, l' x = none) (hout : ∀ x ∉ released, l' x = l x) :
    Same l' a b ↔ a = b ∨ a ∉ released ∧ b ∉ released ∧ Same l a b := by
  constructor
  · rintro (rfl | ⟨k, ha, hb⟩)
    · exact .inl rfl
    have hnot : ∀ x, l' x = some k → x ∉ released := by
      intro x hx hmem
      rw [hin x hmem] at hx
      cases hx
    refine .inr ⟨hnot a ha, hnot b hb, .inr ⟨k, ?_, ?_⟩⟩
    · rw [← hout a (hnot a ha), ha]
    · rw [← hout b (hnot b hb), hb]
  · rintro (rfl | ⟨ha, hb, rfl | ⟨k, hka, hkb⟩⟩)
    · exact .inl rfl
    · exact .inl rfl
    · exact .inr ⟨k, (hout a ha).trans hka, (hout b hb).trans hkb⟩

end Labels
