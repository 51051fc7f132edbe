import ComfyCraft.Lib.Text
import ComfyCraft.Housing.Critters

/-! What a name is after `CleanCritterName`: the bytes that would break a chat line or the addon's record
are gone, the ends are trimmed, and then it is cut to its length. The cut can bring a space to the end
again. -/

namespace ComfyCraft

open List

namespace HouseMgr

def isControlByte (ch : UInt8) : Bool := ch < 0x20 || ch = 0x7F

/-- `|` starts an escape in a chat line, and `:` separates the fields of the addon's record. -/
def isRecordMark (ch : UInt8) : Bool := ch = 0x7C || ch = 0x3A

/-- A name as the client and the addon may have it. -/
structure CleanName (name : List UInt8) : Prop where
  short : name.length ≤ HOUSE_CRITTER_NAME_MAX
  shown : ∀ ch ∈ name, isControlByte ch = false ∧ isRecordMark ch = false
  first : ∀ ch ∈ name.head?, ch ≠ 0x20
  last : ∀ ch ∈ name.getLast?, ch ≠ 0x20
  again : cleanCritterName name = name

def shownBytes (name : List UInt8) : List UInt8 :=
  (name.filter fun ch => !isControlByte ch && !isRecordMark ch).dropWhile (· = 0x20)

/-- The last byte a name has room for is a space between its words. -/
def CutAtSpace (name : List UInt8) : Prop :=
  (∃ ch ∈ ((shownBytes name).drop (HOUSE_CRITTER_NAME_MAX - 1)).head?, ch = 0x20) ∧
    ∃ ch ∈ (shownBytes name).drop HOUSE_CRITTER_NAME_MAX, ch ≠ 0x20

theorem cleanCritterName_eq (name : List UInt8) : cleanCritterName name =
      (trim (· = 0x20) (name.filter fun ch => !isControlByte ch && !isRecordMark ch)).take HOUSE_CRITTER_NAME_MAX := rfl

theorem length_cleanCritterName (name : List UInt8) : (cleanCritterName name).length ≤ HOUSE_CRITTER_NAME_MAX := by
  rw [cleanCritterName_eq, length_take]
  exact Nat.min_le_left _ _

variable {name : List UInt8}

theorem mem_cleanCritterName {ch : UInt8} (h : ch ∈ cleanCritterName name) :
    isControlByte ch = false ∧ isRecordMark ch = false := by
  rw [cleanCritterName_eq] at h
  have hmem := (dropWhile_subset _) ((List.rdropWhile_prefix _ _).subset (mem_of_mem_take h))
  simpa using (mem_filter.1 hmem).2

theorem trimmed_cleanCritterName (name : List UInt8) : Trimmed (· = 0x20) (cleanCritterName name) ↔ ¬CutAtSpace name := by
  rw [cleanCritterName_eq]
  refine (trimmed_take_trim 23).trans (not_congr ?_)
  unfold CutAtSpace shownBytes
  simp only [decide_eq_true_eq, decide_eq_false_iff_not]
  rfl

/-- Nothing is left to do in a short name of shown bytes that is trimmed. -/
theorem cleanCritterName_of_trimmed (hshort : name.length ≤ HOUSE_CRITTER_NAME_MAX)
    (hshown : ∀ ch ∈ name, isControlByte ch = false ∧ isRecordMark ch = false) (h : Trimmed (· = 0x20) name) :
    cleanCritterName name = name := by
  have hall : name.filter (fun ch => !isControlByte ch && !isRecordMark ch) = name := by
    rw [filter_eq_self]
    intro ch hch
    simp [hshown ch hch]
  rw [cleanCritterName_eq, hall, trim_of_trimmed h, take_of_length_le hshort]

/-- The name comes out clean unless it is cut at a space. -/
theorem cleanName_cleanCritterName_iff (name : List UInt8) : CleanName (cleanCritterName name) ↔ ¬CutAtSpace name := by
  rw [← trimmed_cleanCritterName]
  constructor
  · intro h
    exact ⟨fun ch hch => decide_eq_false (h.first ch hch), fun ch hch => decide_eq_false (h.last ch hch)⟩
  · intro h
    have hshort := length_cleanCritterName name
    have hshown : ∀ ch ∈ cleanCritterName name, isControlByte ch = false ∧ isRecordMark ch = false :=
      fun ch hch => mem_cleanCritterName hch
    exact ⟨hshort, hshown, fun ch hch => of_decide_eq_false (h.first ch hch), fun ch hch => of_decide_eq_false (h.last ch hch),
      cleanCritterName_of_trimmed hshort hshown h⟩

/-- 23 letters, a space and one more letter. -/
def longName : List UInt8 := List.replicate 23 0x61 ++ [0x20, 0x62]

theorem longName_not_clean : ¬CleanName (cleanCritterName longName) := by
  intro h
  exact absurd h.again (by decide +kernel)

end HouseMgr

end ComfyCraft
