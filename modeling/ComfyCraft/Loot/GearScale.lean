import ComfyCraft.Lib.Table
import Mathlib.Algebra.Order.BigOperators.Group.List
import Mathlib.Tactic.Linarith

/-! The chances in a loot group. Green gear and blue world drops have rates of their own, and single items have; what
would push the group past 100%, or past its own total, is scaled back. -/

namespace ComfyCraft

open List Bool

/-! ### Two shares of a room -/

/-- Division; by zero there is no result. -/
def quotient (a b : ℚ) : Option ℚ := if b = 0 then none else some (a / b)

theorem quotient_eq {a b : ℚ} (hb : b ≠ 0) : quotient a b = some (a / b) := if_neg hb

/-- What the two kinds of gear take of a group: their table chances, their rated chances, and the room for both. -/
structure GearTotals where
  room : ℚ
  greenRaw : ℚ
  green : ℚ
  rareRaw : ℚ
  rare : ℚ

namespace GearTotals

/-- The share below which a kind of gear falls under its table chance. -/
def floor (raw rated : ℚ) : Option ℚ := if 0 < rated then (quotient raw rated).map (min 1) else some 1

/-- The end of `GearScale`: the shares of the green and of the rare gear. -/
def scales (t : GearTotals) : Option (ℚ × ℚ) :=
  if t.green + t.rare ≤ t.room then some (1, 1)
  else do
    let scale ← quotient t.room (t.green + t.rare)
    let greenFloor ← floor t.greenRaw t.green
    let rareFloor ← floor t.rareRaw t.rare
    if scale < greenFloor then
      let rareScale ← quotient (t.room - t.green * greenFloor) t.rare
      return (greenFloor, rareScale)
    else if scale < rareFloor then
      let greenScale ← quotient (t.room - t.rare * rareFloor) t.green
      return (greenScale, rareFloor)
    else return (scale, scale)

/-- Table chances and rates are not negative, and the room holds the gear at its table chances. -/
structure Valid (t : GearTotals) : Prop where
  greenRaw : 0 ≤ t.greenRaw
  green : 0 ≤ t.green
  rareRaw : 0 ≤ t.rareRaw
  rare : 0 ≤ t.rare
  room : t.greenRaw + t.rareRaw ≤ t.room

/-- The floor `f` of gear with these chances: its share of the rated chance is the lesser of the two. -/
structure IsFloor (raw rated f : ℚ) : Prop where
  nonneg : 0 ≤ f
  le_one : f ≤ 1
  mul : rated * f = min rated raw
  le : ∀ {t : ℚ}, t ≤ 1 → t * rated ≤ raw → t ≤ f

theorem floor_eq {raw rated : ℚ} (hraw : 0 ≤ raw) (hrated : 0 ≤ rated) : ∃ f, floor raw rated = some f ∧ IsFloor raw rated f := by
  unfold floor
  by_cases hpos : 0 < rated
  · refine ⟨min 1 (raw / rated), ?_, le_min zero_le_one (div_nonneg hraw hrated), min_le_left _ _, ?_, fun ht hle => ?_⟩
    · rw [if_pos hpos, quotient_eq hpos.ne']
      rfl
    · rw [mul_min_of_nonneg _ _ hrated, mul_one, mul_div_cancel₀ _ hpos.ne']
    · exact le_min ht ((le_div_iff₀ hpos).2 hle)
  · have hzero : rated = 0 := le_antisymm (not_lt.1 hpos) hrated
    refine ⟨1, if_neg hpos, zero_le_one, le_rfl, ?_, fun ht _ => ht⟩
    rw [hzero, zero_mul, min_eq_left hraw]

/-- One of two kinds is at its floor, since the common share `s` is below: the other has the rest of the room. -/
theorem rest_of_floor {room a b rawA rawB f f' s : ℚ} (ha : 0 ≤ a) (hb : 0 ≤ b) (hA : 0 ≤ rawA) (hB : 0 ≤ rawB)
    (hroom : rawA + rawB ≤ room) (hover : room < a + b) (hs : s * (a + b) = room) (hf : IsFloor rawA a f) (hf' : IsFloor rawB b f')
    (hlt : s < f) : 0 < b ∧ f' ≤ (room - a * f) / b ∧ (room - a * f) / b ≤ s := by
  have hle : a * f ≤ rawA := hf.mul ▸ min_le_right a rawA
  have hpos : 0 < b := by
    refine hb.lt_of_ne fun hzero => ?_
    rw [← hzero, add_zero] at hover hs
    exact absurd hlt (not_lt.2 (le_of_mul_le_mul_right (by linarith) (show 0 < a by linarith)))
  refine ⟨hpos, (le_div_iff₀ hpos).2 ?_, (div_le_iff₀ hpos).2 ?_⟩
  · rw [mul_comm, hf'.mul]
    linarith [min_le_right b rawB]
  · have := mul_le_mul_of_nonneg_left hlt.le ha
    linarith

/-- The rare gear may have the share `s`: everything fits, or the rare gear is within its table chances, or both kinds fit
at that share, and the rare gear beside the green gear at its floor. -/
def Allows (t : GearTotals) (s : ℚ) : Prop :=
  t.green + t.rare ≤ t.room ∨ s * t.rare ≤ t.rareRaw ∨
    s * (t.green + t.rare) ≤ t.room ∧ s * t.rare + min t.green t.greenRaw ≤ t.room

/-- What is to be known of the two shares. -/
structure Shares (t : GearTotals) (g r : ℚ) : Prop where
  total : g * t.green + r * t.rare ≤ t.room
  green_le : g ≤ 1
  rare_le : r ≤ 1
  green : ∀ s ≤ 1, s * t.green ≤ t.greenRaw → s ≤ g
  rare : ∀ s ≤ 1, (s ≤ r ↔ t.Allows s)

theorem scales_shares {t : GearTotals} (h : t.Valid) : ∃ g r, t.scales = some (g, r) ∧ t.Shares g r := by
  obtain ⟨gf, hgf, hgreen⟩ := floor_eq h.greenRaw h.green
  obtain ⟨rf, hrf, hrare⟩ := floor_eq h.rareRaw h.rare
  unfold scales
  by_cases hfits : t.green + t.rare ≤ t.room
  · exact ⟨1, 1, if_pos hfits, by linarith, le_rfl, le_rfl, fun _ hs _ => hs, fun _ hs => ⟨fun _ => .inl hfits, fun _ => hs⟩⟩
  have hover : t.room < t.green + t.rare := not_le.1 hfits
  have hpos : 0 < t.green + t.rare := by linarith [h.greenRaw, h.rareRaw, h.room]
  have hs : t.room / (t.green + t.rare) * (t.green + t.rare) = t.room := div_mul_cancel₀ _ hpos.ne'
  rw [if_neg hfits, quotient_eq hpos.ne', hgf, hrf]
  generalize t.room / (t.green + t.rare) = scale at hs
  have hone : scale ≤ 1 := le_of_mul_le_mul_right (by linarith) hpos
  have hgreenFloor : t.green * gf ≤ t.greenRaw := hgreen.mul ▸ min_le_right t.green t.greenRaw
  simp only [Option.bind_eq_bind, Option.bind_some]
  by_cases hltGreen : scale < gf
  · -- the green gear is at its floor
    obtain ⟨hrarePos, hge, hle⟩ := rest_of_floor h.green h.rare h.greenRaw h.rareRaw h.room hover hs hgreen hrare hltGreen
    rw [if_pos hltGreen, quotient_eq hrarePos.ne']
    refine ⟨gf, _, rfl, ?_, hgreen.le_one, hle.trans hone, fun s hs1 hraw => hgreen.le hs1 hraw, fun s hs1 => ?_⟩
    · rw [div_mul_cancel₀ _ hrarePos.ne']
      linarith
    · constructor
      · intro hsr
        have hboth := mul_le_mul_of_nonneg_right (hsr.trans hle) hpos.le
        have hbeside := (le_div_iff₀ hrarePos).1 hsr
        rw [hgreen.mul] at hbeside
        exact .inr (.inr ⟨by linarith, by linarith⟩)
      · rintro (hall | hraw | ⟨-, hbeside⟩)
        · exact absurd hall hfits
        · exact (hrare.le hs1 hraw).trans hge
        · rw [← hgreen.mul] at hbeside
          exact (le_div_iff₀ hrarePos).2 (by linarith)
  have hgeGreen := not_lt.1 hltGreen
  rw [if_neg hltGreen]
  by_cases hltRare : scale < rf
  · -- the rare gear is at its floor
    obtain ⟨hgreenPos, hge, hle⟩ := rest_of_floor h.rare h.green h.rareRaw h.greenRaw (add_comm t.greenRaw _ ▸ h.room)
      (add_comm t.green _ ▸ hover) (add_comm t.green _ ▸ hs) hrare hgreen hltRare
    rw [if_pos hltRare, quotient_eq hgreenPos.ne']
    refine ⟨_, rf, rfl, ?_, hle.trans hone, hrare.le_one, fun s hs1 hraw => (hgreen.le hs1 hraw).trans hge, fun s hs1 => ?_⟩
    · rw [div_mul_cancel₀ _ hgreenPos.ne']
      linarith
    · constructor
      · intro hsr
        have hfloor := mul_le_mul_of_nonneg_right hsr h.rare
        rw [mul_comm rf, hrare.mul] at hfloor
        exact .inr (.inl (hfloor.trans (min_le_right _ _)))
      · rintro (hall | hraw | ⟨hboth, -⟩)
        · exact absurd hall hfits
        · exact hrare.le hs1 hraw
        · exact (le_of_mul_le_mul_right (hs ▸ hboth) hpos).trans hltRare.le
  -- both have the same share
  have hgeRare := not_lt.1 hltRare
  rw [if_neg hltRare]
  refine ⟨scale, scale, rfl, by linarith, hone, hone, fun s hs1 hraw => (hgreen.le hs1 hraw).trans hgeGreen, fun s hs1 => ?_⟩
  constructor
  · intro hsr
    have hboth := mul_le_mul_of_nonneg_right hsr hpos.le
    have hbeside := mul_le_mul_of_nonneg_right hsr h.rare
    have hfloor := mul_le_mul_of_nonneg_left hgeGreen h.green
    rw [hgreen.mul] at hfloor
    exact .inr (.inr ⟨by linarith, by linarith⟩)
  · rintro (hall | hraw | ⟨hboth, -⟩)
    · exact absurd hall hfits
    · exact (hrare.le hs1 hraw).trans hgeRare
    · exact le_of_mul_le_mul_right (hs ▸ hboth) hpos

end GearTotals

/-! ### A group and its rates -/

namespace LootTemplate

def itemQualityUncommon : Nat := 2

def itemQualityRare : Nat := 3

def itemClassWeapon : Nat := 2

def itemClassArmor : Nat := 4

def bindWhenEquipped : Nat := 2

structure ItemPrototype where
  quality : Nat
  itemClass : Nat
  bonding : Nat
  requiredLevel : Nat

def isGear (p : ItemPrototype) : Bool := p.itemClass = itemClassWeapon || p.itemClass = itemClassArmor

structure LootEntry where
  itemid : Nat
  chance : ℚ
  group : Nat
deriving DecidableEq

structure LootGroup where
  explicitlyChanced : List LootEntry
  equalChanced : List LootEntry
  hasRareWorldGear : Bool
  hasGreenGear : Bool
  wornGear : Bool

def wornGearGroup : Nat := 40

/-- The rows of a group that is not of worn gear, the prototypes of the items and the rates; `rate` is off in loot that takes
none. -/
structure RatedGroup where
  rows : List LootEntry
  proto : Nat → Option ItemPrototype
  rate : Bool
  greenRate : ℚ
  rareRates : Bool → ℚ
  itemRates : Table Nat ℚ
  group_ne : ∀ i ∈ rows, i.group ≠ wornGearGroup
  chance_nonneg : ∀ i ∈ rows, 0 ≤ i.chance
  green_nonneg : 0 ≤ greenRate
  rare_nonneg : ∀ endgame, 0 ≤ rareRates endgame
  item_nonneg : ∀ id r, itemRates.lookup id = some r → 0 ≤ r

namespace RatedGroup

variable (x : RatedGroup)

def isGreenGear (i : LootEntry) : Bool := (x.proto i.itemid).any fun p => p.quality = itemQualityUncommon && isGear p

def isRareWorldGear (i : LootEntry) : Bool :=
  (x.proto i.itemid).any fun p => i.chance < 5 && p.quality = itemQualityRare && p.bonding = bindWhenEquipped && isGear p

def isEndgameGear (i : LootEntry) : Bool := (x.proto i.itemid).any fun p => 50 ≤ p.requiredLevel

def rareRate (i : LootEntry) : ℚ := x.rareRates (x.isEndgameGear i)

def itemRateIn (i : LootEntry) : ℚ := (x.itemRates.lookup i.itemid).getD (-1)

def addEntry (g : LootGroup) (item : LootEntry) : LootGroup :=
  if item.chance ≠ 0 then
    let g := { g with explicitlyChanced := g.explicitlyChanced ++ [item] }
    if item.group = wornGearGroup then { g with wornGear := true }
    else if x.isRareWorldGear item then { g with hasRareWorldGear := true }
    else if x.isGreenGear item then { g with hasGreenGear := true }
    else g
  else { g with equalChanced := g.equalChanced ++ [item] }

def group : LootGroup := x.rows.foldl x.addEntry ⟨[], [], false, false, false⟩

def entries : List LootEntry := x.group.explicitlyChanced

def greenOf (chance : ℚ) (i : LootEntry) : ℚ := if x.isGreenGear i then chance else 0

def rareOf (chance : ℚ) (i : LootEntry) : ℚ := if x.isGreenGear i then 0 else if x.isRareWorldGear i then chance else 0

def raw : ℚ := (x.entries.map LootEntry.chance).sum

/-- The sums of `GearScale`. -/
def totals : GearTotals :=
  let greenRaw := (x.entries.map fun i => x.greenOf i.chance i).sum
  let rareRaw := (x.entries.map fun i => x.rareOf i.chance i).sum
  { room := max 100 x.raw - (x.raw - greenRaw - rareRaw)
    greenRaw
    green := (x.entries.map fun i => x.greenOf (i.chance * x.greenRate) i).sum
    rareRaw
    rare := (x.entries.map fun i => x.rareOf (i.chance * x.rareRate i) i).sum }

/-- The shares of the gear in `Roll`. -/
def scales : Option (ℚ × ℚ) := if x.rate && (x.group.hasGreenGear || x.group.hasRareWorldGear) then x.totals.scales else some (1, 1)

def gearChance (s : ℚ × ℚ) (i : LootEntry) : ℚ :=
  if x.rate && x.group.hasGreenGear && x.isGreenGear i then i.chance * (x.greenRate * s.1)
  else if x.rate && x.group.hasRareWorldGear && x.isRareWorldGear i then i.chance * (x.rareRate i * s.2)
  else i.chance

def anyOwnRate : Bool := x.rate && !x.itemRates.entries.isEmpty

def owned : ℚ := (x.entries.map fun i => if 0 ≤ x.itemRateIn i then i.chance * x.itemRateIn i else 0).sum

def other (s : ℚ × ℚ) : ℚ := (x.entries.map fun i => if 0 ≤ x.itemRateIn i then 0 else x.gearChance s i).sum

def otherScale (s : ℚ × ℚ) : Option ℚ :=
  if x.anyOwnRate then
    let room := max 100 x.raw
    if (x.entries.any fun i => 0 ≤ x.itemRateIn i) && 0 < x.other s && room < x.owned + x.other s then
      quotient (max (room - x.owned) 0) (x.other s)
    else some 1
  else some 1

/-- The chance that `Roll` takes an entry at. -/
def entryChance (s : ℚ × ℚ) (o : ℚ) (i : LootEntry) : ℚ :=
  let own := if x.anyOwnRate then x.itemRateIn i else -1
  if 0 ≤ own then i.chance * own else x.gearChance s i * o

def total (s : ℚ × ℚ) (o : ℚ) : ℚ := (x.entries.map (x.entryChance s o)).sum

variable {x : RatedGroup} {l : List LootEntry} {i : LootEntry} {g : LootGroup} {s : ℚ × ℚ} {o : ℚ}

/-! ### What is loaded -/

theorem not_rare_of_green (h : x.isGreenGear i = true) : x.isRareWorldGear i = false := by
  unfold isGreenGear at h
  unfold isRareWorldGear
  cases hproto : x.proto i.itemid with
  | none => rfl
  | some p =>
    rw [hproto] at h
    simp only [Option.any_some, and_eq_true, decide_eq_true_eq] at h
    simp [h.1, itemQualityUncommon, itemQualityRare]

/-- What is in the group has a chance, and the flags tell what gear there is. -/
structure Loaded (x : RatedGroup) (g : LootGroup) : Prop where
  pos : ∀ i ∈ g.explicitlyChanced, 0 < i.chance
  green : ∀ i ∈ g.explicitlyChanced, x.isGreenGear i = true → g.hasGreenGear = true
  rare : ∀ i ∈ g.explicitlyChanced, x.isRareWorldGear i = true → g.hasRareWorldGear = true

theorem Loaded.addEntry (h : x.Loaded g) (hi : i ∈ x.rows) : x.Loaded (x.addEntry g i) := by
  unfold RatedGroup.addEntry
  by_cases hzero : i.chance = 0
  · rw [if_neg (not_not.2 hzero)]
    exact ⟨h.pos, h.green, h.rare⟩
  have hpos : 0 < i.chance := (x.chance_nonneg i hi).lt_of_ne (Ne.symm hzero)
  dsimp only
  rw [if_pos hzero, if_neg (x.group_ne i hi)]
  have hall : ∀ {P : LootEntry → Prop}, (∀ j ∈ g.explicitlyChanced, P j) → P i → ∀ j ∈ g.explicitlyChanced ++ [i], P j :=
    fun hold hnew j hj => (mem_append.1 hj).elim (hold j) fun hj => mem_singleton.1 hj ▸ hnew
  split_ifs with hrare hgreen
  · refine ⟨hall h.pos hpos, hall h.green fun hgreen => ?_, fun _ _ _ => rfl⟩
    rw [not_rare_of_green hgreen] at hrare
    cases hrare
  · exact ⟨hall h.pos hpos, fun _ _ _ => rfl, hall h.rare fun hrare' => absurd hrare' hrare⟩
  · exact ⟨hall h.pos hpos, hall h.green fun hgreen' => absurd hgreen' hgreen, hall h.rare fun hrare' => absurd hrare' hrare⟩

theorem loaded (x : RatedGroup) : x.Loaded x.group := by
  have hfold : ∀ rows : List LootEntry, (∀ i ∈ rows, i ∈ x.rows) → ∀ g, x.Loaded g → x.Loaded (rows.foldl x.addEntry g) := by
    intro rows
    induction rows with
    | nil => exact fun _ _ h => h
    | cons i rows ih =>
      exact fun hrows g h => ih (fun j hj => hrows j (mem_cons_of_mem i hj)) _ (h.addEntry (hrows i mem_cons_self))
  exact hfold x.rows (fun _ hi => hi) _ ⟨nofun, nofun, nofun⟩

/-! ### The sums -/

variable {f : LootEntry → ℚ} {c : ℚ}

theorem sum_nonneg (h : ∀ i ∈ l, 0 ≤ f i) : 0 ≤ (l.map f).sum :=
  List.sum_nonneg (List.forall_mem_map.2 h)

theorem sum_combined {a b c d e : LootEntry → ℚ} {u v : ℚ} (h : ∀ i ∈ l, f i = a i - b i - c i + u * d i + v * e i) :
    (l.map f).sum = (l.map a).sum - (l.map b).sum - (l.map c).sum + u * (l.map d).sum + v * (l.map e).sum := by
  induction l with
  | nil => simp
  | cons i l ih =>
    simp only [map_cons, sum_cons]
    rw [h i mem_cons_self, ih fun j hj => h j (mem_cons_of_mem i hj)]
    ring

theorem greenOf_nonneg (h : 0 ≤ c) : 0 ≤ x.greenOf c i := by
  unfold greenOf
  split_ifs
  · exact h
  · exact le_rfl

theorem rareOf_nonneg (h : 0 ≤ c) : 0 ≤ x.rareOf c i := by
  unfold rareOf
  split_ifs
  · exact le_rfl
  · exact h
  · exact le_rfl

theorem totals_valid (x : RatedGroup) : x.totals.Valid where
  greenRaw := sum_nonneg fun i hi => greenOf_nonneg (x.loaded.pos i hi).le
  green := sum_nonneg fun i hi => greenOf_nonneg (mul_nonneg (x.loaded.pos i hi).le x.green_nonneg)
  rareRaw := sum_nonneg fun i hi => rareOf_nonneg (x.loaded.pos i hi).le
  rare := sum_nonneg fun i hi => rareOf_nonneg (mul_nonneg (x.loaded.pos i hi).le (x.rare_nonneg _))
  room := by
    unfold totals
    dsimp only
    linarith [le_max_right 100 x.raw]

theorem totals_green (x : RatedGroup) : x.totals.green = x.greenRate * x.totals.greenRaw := by
  unfold totals
  dsimp only
  induction x.entries with
  | nil => simp
  | cons i l ih =>
    simp only [map_cons, sum_cons]
    rw [ih, mul_add]
    congr 1
    unfold greenOf
    split_ifs <;> ring

theorem gearChance_green (hrate : x.rate = true) (hi : i ∈ x.entries) (hgreen : x.isGreenGear i = true) (s : ℚ × ℚ) :
    x.gearChance s i = i.chance * (x.greenRate * s.1) := by
  unfold gearChance
  rw [hrate, x.loaded.green i hi hgreen, hgreen]
  rfl

theorem gearChance_rare (hrate : x.rate = true) (hi : i ∈ x.entries) (hrare : x.isRareWorldGear i = true) (s : ℚ × ℚ) :
    x.gearChance s i = i.chance * (x.rareRate i * s.2) := by
  have hgreen : ¬ x.isGreenGear i = true := fun hgreen => Bool.noConfusion (hrare.symm.trans (not_rare_of_green hgreen))
  unfold gearChance
  rw [hrate, x.loaded.rare i hi hrare, hrare, Bool.eq_false_iff.2 hgreen, Bool.and_false, if_neg Bool.false_ne_true]
  rfl

theorem gearChance_off (hrate : ¬ x.rate = true) (s : ℚ × ℚ) (i : LootEntry) : x.gearChance s i = i.chance := by
  unfold gearChance
  rw [eq_false_iff.2 hrate]
  rfl

theorem gearChance_plain (hgreen : ¬ x.isGreenGear i = true) (hrare : ¬ x.isRareWorldGear i = true) (s : ℚ × ℚ) :
    x.gearChance s i = i.chance := by
  unfold gearChance
  rw [Bool.eq_false_iff.2 hgreen, Bool.eq_false_iff.2 hrare, Bool.and_false, Bool.and_false, if_neg Bool.false_ne_true,
    if_neg Bool.false_ne_true]

theorem gear_sum (hrate : x.rate = true) (s : ℚ × ℚ) :
    (x.entries.map (x.gearChance s)).sum = max 100 x.raw - x.totals.room + s.1 * x.totals.green + s.2 * x.totals.rare := by
  refine (sum_combined (a := LootEntry.chance) (b := fun i => x.greenOf i.chance i)
    (c := fun i => x.rareOf i.chance i) (d := fun i => x.greenOf (i.chance * x.greenRate) i)
    (e := fun i => x.rareOf (i.chance * x.rareRate i) i) (u := s.1) (v := s.2) fun i hi => ?_).trans ?_
  · unfold greenOf rareOf
    split_ifs with hgreen hrare
    · rw [gearChance_green hrate hi hgreen]
      ring
    · rw [gearChance_rare hrate hi hrare]
      ring
    · rw [gearChance_plain hgreen hrare]
      ring
  · unfold totals raw
    dsimp only
    ring

/-- Where there is no gear its shares are 1 anyway. -/
theorem scales_eq (x : RatedGroup) : x.scales = if x.rate then x.totals.scales else some (1, 1) := by
  unfold scales
  cases hgear : x.group.hasGreenGear || x.group.hasRareWorldGear with
  | true => rw [Bool.and_true]
  | false =>
    rw [or_eq_false_iff] at hgear
    have hgreen : ∀ i ∈ x.entries, ¬ x.isGreenGear i = true := fun i hi h =>
      Bool.noConfusion (hgear.1.symm.trans (x.loaded.green i hi h))
    have hrare : ∀ i ∈ x.entries, ¬ x.isRareWorldGear i = true := fun i hi h =>
      Bool.noConfusion (hgear.2.symm.trans (x.loaded.rare i hi h))
    have hzero : x.totals.green = 0 ∧ x.totals.rare = 0 :=
      ⟨sum_eq_zero (forall_mem_map.2 fun i hi => if_neg (hgreen i hi)),
        sum_eq_zero (forall_mem_map.2 fun i hi => (if_neg (hgreen i hi)).trans (if_neg (hrare i hi)))⟩
    have hfits : x.totals.green + x.totals.rare ≤ x.totals.room := by
      rw [hzero.1, hzero.2]
      linarith [x.totals_valid.room, x.totals_valid.greenRaw, x.totals_valid.rareRaw]
    unfold GearTotals.scales
    rw [if_pos hfits, Bool.and_false, if_neg Bool.false_ne_true, ite_self]

/-! ### The chances of a group -/

/-- The larger of 100 and the raw total. -/
def bound (x : RatedGroup) : ℚ := max 100 x.raw

/-- The chances come out without a division by zero and stay within the bound; no gear falls below the smaller of its table
chance and its rated one. -/
structure Proper (x : RatedGroup) (s : ℚ × ℚ) (o : ℚ) : Prop where
  scales : x.scales = some s
  otherScale : x.otherScale s = some o
  green_scale : 0 ≤ s.1 ∧ s.1 ≤ 1
  rare_scale : 0 ≤ s.2 ∧ s.2 ≤ 1
  other_scale : 0 ≤ o ∧ o ≤ 1
  total : (∀ i ∈ x.entries, x.itemRates.lookup i.itemid = none) → x.total s o ≤ x.bound
  floor : ∀ i ∈ x.entries, min i.chance (x.gearChance (1, 1) i) ≤ x.gearChance s i
  others : ∀ i ∈ x.entries, x.itemRates.lookup i.itemid = none → x.entryChance s o i = x.gearChance s i * o
  owned : x.owned ≤ x.bound → x.total s o ≤ x.bound

/-- The rare gear may have the share at which an entry keeps the smaller of its two chances. -/
def RareFits (x : RatedGroup) : Prop :=
  x.rate = true → ∀ i ∈ x.entries, x.isRareWorldGear i = true → 0 < x.rareRate i → x.totals.Allows (min 1 (1 / x.rareRate i))

/-- With these shares the gear leaves the group within its bound. -/
theorem gear_le (h : x.rate = true → x.totals.Shares s.1 s.2) : (x.entries.map (x.gearChance s)).sum ≤ x.bound := by
  unfold bound
  by_cases hrate : x.rate = true
  · rw [gear_sum hrate]
    linarith [(h hrate).total]
  · refine (le_of_eq ?_).trans (le_max_right 100 x.raw)
    exact congrArg sum (map_congr_left fun i _ => gearChance_off hrate s i)

theorem entryChance_other (h : x.anyOwnRate = false ∨ ¬ 0 ≤ x.itemRateIn i) : x.entryChance s o i = x.gearChance s i * o := by
  refine if_neg ?_
  split_ifs with hon
  · exact h.resolve_left fun hoff => Bool.noConfusion (hon.symm.trans hoff)
  · norm_num

theorem itemRateIn_of_none (h : x.itemRates.lookup i.itemid = none) : ¬ 0 ≤ x.itemRateIn i := by
  unfold itemRateIn
  rw [h]
  norm_num

theorem total_eq (hon : x.anyOwnRate = true) : x.total s o = x.owned + o * x.other s := by
  unfold total owned other
  induction x.entries with
  | nil => simp
  | cons i l ih =>
    simp only [map_cons, sum_cons]
    rw [ih]
    unfold entryChance
    simp only [hon, if_true]
    split_ifs <;> ring

/-- The factor of the others is at most 1, and leaves the group within its bound where those with their own rates are. -/
theorem otherScale_spec (h : (x.entries.map (x.gearChance s)).sum ≤ x.bound) : ∃ o, x.otherScale s = some o ∧ (0 ≤ o ∧ o ≤ 1) ∧
      ((∀ i ∈ x.entries, x.itemRates.lookup i.itemid = none) → x.total s o ≤ x.bound) ∧ (x.owned ≤ x.bound → x.total s o ≤ x.bound) := by
  have hone : (∀ i ∈ x.entries, x.anyOwnRate = false ∨ ¬ 0 ≤ x.itemRateIn i) → x.total s 1 ≤ x.bound := fun hnone => by
    unfold total
    rwa [map_congr_left fun i hi => (entryChance_other (hnone i hi)).trans (mul_one _)]
  unfold otherScale
  cases hon : x.anyOwnRate with
  | false =>
    have htotal := hone fun _ _ => .inl hon
    exact ⟨1, rfl, ⟨zero_le_one, le_rfl⟩, fun _ => htotal, fun _ => htotal⟩
  | true =>
    dsimp only
    rw [if_pos rfl]
    split_ifs with hover
    · simp only [and_eq_true, decide_eq_true_eq, any_eq_true] at hover
      obtain ⟨⟨⟨i, hi, hown⟩, hpos⟩, hover⟩ := hover
      refine ⟨_, quotient_eq hpos.ne', ⟨div_nonneg (le_max_right _ _) hpos.le, (div_le_one₀ hpos).2 (max_le (by linarith) hpos.le)⟩,
        fun hall => absurd hown (itemRateIn_of_none (hall i hi)), fun howned => ?_⟩
      unfold bound at howned ⊢
      rw [total_eq hon, div_mul_cancel₀ _ hpos.ne', max_eq_left (sub_nonneg.2 howned)]
      exact (add_sub_cancel _ _).le
    · refine ⟨1, rfl, ⟨zero_le_one, le_rfl⟩, fun hall => hone fun i hi => .inr (itemRateIn_of_none (hall i hi)), fun howned => ?_⟩
      simp only [and_eq_true, decide_eq_true_eq, any_eq_true] at hover
      by_cases hown : ∃ i ∈ x.entries, 0 ≤ x.itemRateIn i
      · rw [total_eq hon, one_mul]
        by_contra hlarge
        exact hover ⟨⟨hown, by linarith⟩, not_le.1 hlarge⟩
      · exact hone fun i hi => .inr fun hi' => hown ⟨i, hi, hi'⟩

/-- An entry keeps the smaller of its two chances at a share that is no less than its floor. -/
theorem min_le_mul {r t : ℚ} (hc : 0 < c) (hr : 0 ≤ r) : min c (c * (r * 1)) ≤ c * (r * t) ↔ (0 < r → min 1 (1 / r) ≤ t) := by
  rcases hr.lt_or_eq with hpos | rfl
  · have hmin : min c (c * (r * 1)) = c * (r * min 1 (1 / r)) := by
      rw [mul_min_of_nonneg _ _ hr, mul_one, mul_one_div_cancel hpos.ne', mul_min_of_nonneg _ _ hc.le, mul_one, min_comm]
    rw [hmin, mul_le_mul_iff_right₀ hc, mul_le_mul_iff_right₀ hpos]
    exact ⟨fun h _ => h, fun h => h hpos⟩
  · simp [hc.le]

/-- No entry falls below the smaller of its two chances exactly when the rare gear fits. -/
theorem floor_iff (h : x.rate = true → x.totals.Shares s.1 s.2) :
    (∀ i ∈ x.entries, min i.chance (x.gearChance (1, 1) i) ≤ x.gearChance s i) ↔ x.RareFits := by
  constructor
  · intro hfloor hrate i hi hrare hpos
    have hkept := hfloor i hi
    rw [gearChance_rare hrate hi hrare, gearChance_rare hrate hi hrare] at hkept
    exact ((h hrate).rare _ (min_le_left _ _)).1 ((min_le_mul (x.loaded.pos i hi) hpos.le).1 hkept hpos)
  · intro hfits i hi
    have hpos := x.loaded.pos i hi
    by_cases hplain : x.rate = true ∧ (x.isGreenGear i = true ∨ x.isRareWorldGear i = true)
    · obtain ⟨hrate, hgreen | hrare⟩ := hplain
      · rw [gearChance_green hrate hi hgreen, gearChance_green hrate hi hgreen]
        refine (min_le_mul hpos x.green_nonneg).2 fun hr => (h hrate).green _ (min_le_left _ _) ?_
        rw [x.totals_green, ← mul_assoc]
        refine mul_le_of_le_one_left x.totals_valid.greenRaw ?_
        exact (mul_le_mul_of_nonneg_right (min_le_right 1 _) hr.le).trans (one_div_mul_cancel hr.ne').le
      · rw [gearChance_rare hrate hi hrare, gearChance_rare hrate hi hrare]
        exact (min_le_mul hpos (x.rare_nonneg _)).2 fun hr => ((h hrate).rare _ (min_le_left _ _)).2 (hfits hrate i hi hrare hr)
    · have hsame : ∀ s, x.gearChance s i = i.chance := fun s => by
        by_cases hrate : x.rate = true
        · obtain ⟨hgreen, hrare⟩ := not_or.1 fun hgear => hplain ⟨hrate, hgear⟩
          exact gearChance_plain hgreen hrare s
        · exact gearChance_off hrate s i
      rw [hsame, hsame]
      exact min_le_left _ _

theorem proper_iff_rareFits (x : RatedGroup) : (∃ s o, x.Proper s o) ↔ x.RareFits := by
  have hshares : ∃ s : ℚ × ℚ, x.scales = some s ∧ (0 ≤ s.1 ∧ s.1 ≤ 1) ∧ (0 ≤ s.2 ∧ s.2 ≤ 1) ∧
      (x.rate = true → x.totals.Shares s.1 s.2) := by
    rw [x.scales_eq]
    cases hrate : x.rate with
    | false => exact ⟨(1, 1), rfl, ⟨zero_le_one, le_rfl⟩, ⟨zero_le_one, le_rfl⟩, nofun⟩
    | true =>
      obtain ⟨g, r, hscales, hs⟩ := GearTotals.scales_shares x.totals_valid
      refine ⟨(g, r), hscales, ⟨hs.green 0 zero_le_one ?_, hs.green_le⟩, ⟨(hs.rare 0 zero_le_one).2 (.inr (.inl ?_)), hs.rare_le⟩,
        fun _ => hs⟩
      · rw [zero_mul]
        exact x.totals_valid.greenRaw
      · rw [zero_mul]
        exact x.totals_valid.rareRaw
  obtain ⟨s, hscales, hg, hr, hs⟩ := hshares
  constructor
  · rintro ⟨s', o, h⟩
    cases hscales.symm.trans h.scales
    exact (floor_iff hs).1 h.floor
  · intro hfits
    obtain ⟨o, hother, hbetween, htotal, howned⟩ := otherScale_spec (gear_le hs)
    exact ⟨s, o, hscales, hother, hg, hr, hbetween, htotal, (floor_iff hs).2 hfits,
      fun i hi hnone => entryChance_other (.inr (itemRateIn_of_none hnone)), howned⟩

/-- Two blue world drops of 4%, one of them for the endgame, which drops at fifty times its chance and the other at twice. -/
def twoRates : RatedGroup where
  rows := [⟨40, 4, 1⟩, ⟨55, 4, 1⟩]
  proto := fun id => some ⟨itemQualityRare, itemClassArmor, bindWhenEquipped, id⟩
  rate := true
  greenRate := 1
  rareRates := fun endgame => if endgame then 50 else 2
  itemRates := ∅
  group_ne := by decide
  chance_nonneg := by decide
  green_nonneg := by decide
  rare_nonneg := by decide
  item_nonneg := fun _ _ h => by cases h

/-- The first of them is left with less than its table chance. -/
theorem not_proper_twoRates : ¬ ∃ s o, twoRates.Proper s o := by
  rintro ⟨s, o, h⟩
  have hscales : twoRates.scales = some (1, 25 / 52) := by decide +kernel
  cases hscales.symm.trans h.scales
  have hfloor := h.floor ⟨40, 4, 1⟩ (by decide +kernel)
  revert hfloor
  decide +kernel

end RatedGroup

end LootTemplate

end ComfyCraft
