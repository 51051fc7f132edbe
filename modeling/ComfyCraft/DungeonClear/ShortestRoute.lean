import ComfyCraft.DungeonClear.RouteRecorder

/-! The routes on disk. When a boss dies its leg is judged, and written where no route is yet or a longer one; the length of the one
before is read out of its second line, behind the boss's name. -/

namespace ComfyCraft.DcRouteRecorder

open List Function Text

structure Kill (F : Type) where
  mapId : UInt32
  bossEntry : UInt32
  bossName : Text
  pts : List (Sample3 F)
  lastSeen : Option (Sample3 F)

abbrev Files := Text → Option Text

def OVER : Text := " over ".toList

/-- `atoi`: the `long` that is found, cut to 32 bits. -/
def atoi (t : Text) : UInt32 := UInt32.ofNat (Text.strtol t % 2 ^ 32).toNat

/-- `getline`, twice. -/
def secondLine (t : Text) : Text := ((t.dropWhile (· ≠ '\n')).drop 1).takeWhile (· ≠ '\n')

def prevLen (content : Text) : Option UInt32 := (Text.after OVER (secondLine content)).map atoi

def routePath (dir : Text) (mapId bossEntry : UInt32) : Text :=
  dir ++ "/Route_".toList ++ Text.decimal mapId.toNat ++ '_' :: Text.decimal bossEntry.toNat ++ ".cpp".toList

section Recording

variable {F : Type} [Field F] [LinearOrder F] [FloorSemiring F] (sqrt : F → F) (showCoord : F → Text) (dir : Text)

def kMinLegLength : F := 40

def kFinishRadius : F := 40

variable (k : Kill F)

def Kill.anchors : List (Sample3 F) := Thin sqrt (CutLoops sqrt k.pts)

def Kill.length : F := Polyline.length (Dist2D sqrt) (k.anchors sqrt)

/-- `static_cast<uint32>(length)`. -/
def Kill.yards : UInt32 := UInt32.ofNat ⌊k.length sqrt⌋₊

def Kill.path : Text := routePath dir k.mapId k.bossEntry

def teleported : List (Sample3 F) → Bool
  | a :: b :: pts => 60 < sqrt ((b.x - a.x) * (b.x - a.x) + (b.y - a.y) * (b.y - a.y)) || teleported (b :: pts)
  | _ => false

/-- The recording stops short of where the leader was last seen. -/
def Kill.isIncomplete : Bool :=
  k.lastSeen.any fun seen => (k.anchors sqrt).getLast?.any fun last => kFinishRadius < Dist2D sqrt last seen

def Kill.wanders : Bool :=
  (k.anchors sqrt).head?.any fun first => (k.anchors sqrt).getLast?.any fun last =>
    1 < Dist2D sqrt first last && Dist2D sqrt first last * 6 < k.length sqrt

/-- Whether a leg gets as far as being compared with the route before; wandering only matters where there is one. -/
def Kill.isCompared (haveRouteAlready : Bool) (k : Kill F) : Bool :=
  !teleported sqrt k.pts && 3 ≤ (k.anchors sqrt).length && !k.isIncomplete sqrt && kMinLegLength ≤ k.length sqrt &&
    !(k.wanders sqrt && haveRouteAlready)

def Kill.secondHeader : Text :=
  "// Map ".toList ++ Text.decimal k.mapId.toNat ++ ", boss ".toList ++ Text.decimal k.bossEntry.toNat ++ " (".toList ++ k.bossName ++
    "), ".toList ++ Text.decimal (k.anchors sqrt).length ++ " anchors over ".toList ++ Text.decimal (k.yards sqrt).toNat ++ "yd.".toList

/-- `snprintf`, into a buffer of 128 bytes. -/
def anchorLine (a : Sample3 F) : Text :=
  ("            \x7b ".toList ++ showCoord a.x ++ "f, ".toList ++ showCoord a.y ++ "f, ".toList ++ showCoord a.z ++
    "f \x7d,\n".toList).take 127

def Kill.record : Text :=
  "// GENERATED by DcRouteRecorder from a live clear — safe to edit by hand.".toList ++ '\n' :: k.secondHeader sqrt ++ '\n' ::
    "//\n// The recorder samples the run leader every ~4yd and thins the leg to\n".toList ++
    "// ~15yd anchors (corners preserved). Advance prefers a registered anchor\n".toList ++
    "// route over the long-range router, so this file makes the walked path the\n// path every later run takes.\n".toList ++
    "#include \"Ai/Dungeon/DungeonClear/Data/DungeonClearRouteRegistry.h\"\n\nvoid RegisterRecordedRoute".toList ++
    Text.decimal k.mapId.toNat ++ '_' :: Text.decimal k.bossEntry.toNat ++
    "()\n\x7b\n    DungeonClearRouteRegistry::Register(".toList ++ Text.decimal k.mapId.toNat ++ ", DUNGEON_DIFFICULTY_NORMAL, ".toList ++
    Text.decimal k.bossEntry.toNat ++ ",\n        \x7b\n".toList ++ (k.anchors sqrt).flatMap (anchorLine showCoord) ++
    "        \x7d);\n\x7d\n".toList

def Kill.isBeaten (content : Text) : Bool := (prevLen content).any fun len => len ≠ 0 && len ≤ k.yards sqrt

/-- `OnBossKilled`, as far as the file goes that it reads again; the twin beside it and the registry are written with it. -/
def OnBossKilled (files : Files) (k : Kill F) : Files :=
  let previous := files (k.path dir)
  if !k.isCompared sqrt previous.isSome then files
  else if previous.any (k.isBeaten sqrt) then files
  else Function.update files (k.path dir) (some (k.record sqrt showCoord))

def compared (files : Files) : List (Kill F) → List (Kill F)
  | [] => []
  | k :: ks =>
    (if k.isCompared sqrt (files (k.path dir)).isSome then [k] else []) ++ compared (OnBossKilled sqrt showCoord dir files k) ks

end Recording

/-! ### The second line -/

theorem notMem_decimal {c : Char} (hc : c.isDigit = false) (n : Nat) : c ∉ Text.decimal n := by
  intro h
  rw [isDigit_decimal h] at hc
  cases hc

theorem OVER_chars : OVER = [' ', 'o', 'v', 'e', 'r', ' '] := by decide +kernel

theorem not_OVER {a : Text} (h : 'v' ∉ a) : ¬ OVER <:+: a := by
  intro hin
  refine h (hin.subset ?_)
  rw [OVER_chars]
  decide

section Header

variable {F : Type} [Field F] [LinearOrder F] [FloorSemiring F] {sqrt : F → F} {showCoord : F → Text} {dir : Text} {k : Kill F}

theorem secondHeader_parts (sqrt : F → F) (k : Kill F) : k.secondHeader sqrt =
    ("// Map ".toList ++ Text.decimal k.mapId.toNat ++ ", boss ".toList ++ Text.decimal k.bossEntry.toNat ++ " ".toList) ++
      '(' :: (k.bossName ++ ')' :: ((", ".toList ++ Text.decimal (k.anchors sqrt).length ++ " anchor".toList) ++
        's' :: (OVER ++ (Text.decimal (k.yards sqrt).toNat ++ 'y' :: "d.".toList)))) := by
  have h1 : " (".toList = " ".toList ++ ['('] := by decide +kernel
  have h2 : "), ".toList = ')' :: ", ".toList := by decide +kernel
  have h3 : " anchors over ".toList = " anchor".toList ++ 's' :: OVER := by decide +kernel
  have h4 : "yd.".toList = 'y' :: "d.".toList := by decide +kernel
  unfold Kill.secondHeader
  rw [h1, h2, h3, h4]
  simp only [append_assoc, cons_append, nil_append]

/-- A name that is not taken for the place of the number. -/
def IsPlain (name : Text) : Prop := '\n' ∉ name ∧ ¬ OVER <:+: name

theorem after_secondHeader (h : IsPlain k.bossName) :
    Text.after OVER (k.secondHeader sqrt) = some (Text.decimal (k.yards sqrt).toNat ++ 'y' :: "d.".toList) := by
  have hfront : 'v' ∉ "// Map ".toList ++ Text.decimal k.mapId.toNat ++ ", boss ".toList ++ Text.decimal k.bossEntry.toNat ++ " ".toList := by
    have h1 : 'v' ∉ "// Map ".toList := by decide +kernel
    have h2 : 'v' ∉ ", boss ".toList := by decide +kernel
    have h3 : 'v' ∉ " ".toList := by decide +kernel
    simp only [mem_append, h1, h2, h3, notMem_decimal (c := 'v') (by decide), or_self, not_false_eq_true]
  have hmiddle : 'v' ∉ ", ".toList ++ Text.decimal (k.anchors sqrt).length ++ " anchor".toList := by
    have h1 : 'v' ∉ ", ".toList := by decide +kernel
    have h2 : 'v' ∉ " anchor".toList := by decide +kernel
    simp only [mem_append, h1, h2, notMem_decimal (c := 'v') (by decide), or_self, not_false_eq_true]
  have hopen : '(' ∉ OVER := by rw [OVER_chars]; decide
  have hclose : ')' ∉ OVER := by rw [OVER_chars]; decide
  have hs : 's' ∉ OVER := by rw [OVER_chars]; decide
  rw [secondHeader_parts, after_skip hopen (not_OVER hfront), after_skip hclose h.2, after_skip hs (not_OVER hmiddle),
    after_here (by rw [OVER_chars]; exact cons_ne_nil _ _)]

theorem newline_notMem_secondHeader (h : '\n' ∉ k.bossName) : '\n' ∉ k.secondHeader sqrt := by
  have h1 : '\n' ∉ "// Map ".toList := by decide +kernel
  have h2 : '\n' ∉ ", boss ".toList := by decide +kernel
  have h3 : '\n' ∉ " (".toList := by decide +kernel
  have h4 : '\n' ∉ "), ".toList := by decide +kernel
  have h5 : '\n' ∉ " anchors over ".toList := by decide +kernel
  have h6 : '\n' ∉ "yd.".toList := by decide +kernel
  unfold Kill.secondHeader
  simp only [mem_append, h, h1, h2, h3, h4, h5, h6, notMem_decimal (c := '\n') (by decide), or_self, not_false_eq_true]

theorem secondLine_lines {a b : Text} (ha : '\n' ∉ a) (hb : '\n' ∉ b) (rest : Text) : secondLine
    (a ++ '\n' :: b ++ '\n' :: rest) = b := by
  have hother : ∀ l : Text, '\n' ∉ l → ∀ c ∈ l, decide (c ≠ '\n') = true := by
    intro l hl c hc
    refine decide_eq_true ?_
    rintro rfl
    exact hl hc
  unfold secondLine
  rw [append_assoc, cons_append, dropWhile_append_of_pos (hother a ha), dropWhile_cons_of_neg (by simp), drop_one,
    tail_cons, takeWhile_append_of_pos (hother b hb), takeWhile_cons_of_neg (by simp), append_nil]

theorem prevLen_record (h : IsPlain k.bossName) : prevLen (k.record sqrt showCoord) = some (k.yards sqrt) := by
  have hline : secondLine (k.record sqrt showCoord) = k.secondHeader sqrt := by
    have hfirst : '\n' ∉ "// GENERATED by DcRouteRecorder from a live clear — safe to edit by hand.".toList := by decide +kernel
    unfold Kill.record
    simp only [append_assoc, cons_append]
    rw [← cons_append, ← append_assoc]
    exact secondLine_lines hfirst (newline_notMem_secondHeader h.1) _
  have hlt := (k.yards sqrt).toNat_lt
  unfold prevLen
  rw [hline, after_secondHeader h, Option.map_some]
  unfold atoi
  rw [strtol_decimal_append (by omega) (by decide)]
  have hmod : (((k.yards sqrt).toNat : Int) % 2 ^ 32).toNat = (k.yards sqrt).toNat := by omega
  rw [hmod, UInt32.ofNat_toNat]

theorem routePath_inj {m b m' b' : UInt32} (h : routePath dir m b = routePath dir m' b') : m = m' ∧ b = b' := by
  unfold routePath at h
  simp only [append_assoc, cons_append] at h
  have hrest := append_cancel_left (append_cancel_left h)
  obtain ⟨hm, hb⟩ := append_cons_inj (notMem_decimal (by decide) _) (notMem_decimal (by decide) _) hrest
  exact ⟨UInt32.toNat_inj.1 (decimal_injective hm), UInt32.toNat_inj.1 (decimal_injective (append_cancel_right hb))⟩

end Header

/-! ### Runs -/

section Runs

variable {F : Type} [Field F] [LinearOrder F] [FloorSemiring F] {sqrt : F → F} {showCoord : F → Text} {dir : Text} {files : Files}
  {k : Kill F}

/-- A kill of a boss with a plain name, after a way whose yards a `uint32` counts. -/
def Kill.Sound (sqrt : F → F) (k : Kill F) : Prop := IsPlain k.bossName ∧ ⌊k.length sqrt⌋₊ < 2 ^ 32

theorem Kill.Sound.yards_toNat (h : k.Sound sqrt) : (k.yards sqrt).toNat = ⌊k.length sqrt⌋₊ := UInt32.toNat_ofNat_of_lt' h.2

/-- At a path there is the file of a shortest leg of those that were compared there, or none as none was. -/
def Shortest (sqrt : F → F) (showCoord : F → Text) (files : Files) (path : Text) (legs : List (Kill F)) : Prop :=
  legs = [] ∧ files path = none ∨
    ∃ k ∈ legs, files path = some (k.record sqrt showCoord) ∧ ∀ k' ∈ legs, k.yards sqrt ≤ k'.yards sqrt

variable {legs ks : List (Kill F)} {path : Text}

theorem Shortest.beside (h : Shortest sqrt showCoord files (k.path dir) legs)
    (hlegs : ∀ k ∈ legs, IsPlain k.bossName ∧ k.yards sqrt ≠ 0) :
    Shortest sqrt showCoord (OnBossKilled sqrt showCoord dir files k) (k.path dir)
      (legs ++ if k.isCompared sqrt (files (k.path dir)).isSome then [k] else []) := by
  unfold OnBossKilled
  dsimp only
  by_cases hcompared : k.isCompared sqrt (files (k.path dir)).isSome = true
  · rw [hcompared, if_pos rfl, Bool.not_true, if_neg Bool.false_ne_true]
    have hwritten : update files (k.path dir) (some (k.record sqrt showCoord)) (k.path dir) = some (k.record sqrt showCoord) :=
      update_self ..
    rcases h with ⟨rfl, hnone⟩ | ⟨k₀, hk₀, hfile, hleast⟩
    · rw [hnone, Option.any_none, if_neg Bool.false_ne_true]
      exact .inr ⟨k, by simp, hwritten, fun k' hk' => (mem_singleton.1 hk') ▸ UInt32.le_refl _⟩
    obtain ⟨hplain, hne⟩ := hlegs k₀ hk₀
    have hbeaten : (some (k₀.record sqrt showCoord)).any (k.isBeaten sqrt) = true ↔ k₀.yards sqrt ≤ k.yards sqrt := by
      rw [Option.any_some]
      unfold Kill.isBeaten
      rw [prevLen_record hplain]
      simp [hne]
    rw [hfile]
    by_cases hle : k₀.yards sqrt ≤ k.yards sqrt
    · rw [if_pos (hbeaten.2 hle)]
      refine .inr ⟨k₀, mem_append_left _ hk₀, hfile, fun k' hk' => ?_⟩
      rcases mem_append.1 hk' with hk' | hk'
      · exact hleast k' hk'
      · rw [mem_singleton.1 hk']
        exact hle
    · rw [if_neg (mt hbeaten.1 hle)]
      have hless : k.yards sqrt ≤ k₀.yards sqrt := UInt32.le_of_lt (UInt32.not_le.1 hle)
      refine .inr ⟨k, by simp, hwritten, fun k' hk' => ?_⟩
      rcases mem_append.1 hk' with hk' | hk'
      · exact UInt32.le_trans hless (hleast k' hk')
      · rw [mem_singleton.1 hk']
        exact UInt32.le_refl _
  · rw [Bool.not_eq_true] at hcompared
    rw [hcompared, Bool.not_false, if_pos rfl, if_neg Bool.false_ne_true, append_nil]
    exact h

theorem OnBossKilled_other (h : path ≠ k.path dir) : OnBossKilled sqrt showCoord dir files k path = files path := by
  unfold OnBossKilled
  split_ifs
  · rfl
  · rfl
  · exact update_of_ne h _ _

def legsAt (dir path : Text) (legs : List (Kill F)) : List (Kill F) := legs.filter fun k => k.path dir = path

theorem Kill.Sound.yards_ne_zero (h : k.Sound sqrt) {b : Bool} (hcompared : k.isCompared sqrt b = true) : k.yards sqrt ≠ 0 := by
  have hmin : kMinLegLength ≤ k.length sqrt := by
    unfold Kill.isCompared at hcompared
    simp only [Bool.and_eq_true, decide_eq_true_eq] at hcompared
    exact hcompared.1.2
  have hfloor : 40 ≤ ⌊k.length sqrt⌋₊ := Nat.le_floor (by simpa [kMinLegLength] using hmin)
  intro hzero
  have hnat := h.yards_toNat
  rw [hzero] at hnat
  change 0 = _ at hnat
  omega

theorem compared_nonzero (hks : ∀ k ∈ ks, k.Sound sqrt) :
    ∀ k ∈ compared sqrt showCoord dir files ks, IsPlain k.bossName ∧ k.yards sqrt ≠ 0 := by
  induction ks generalizing files with
  | nil => exact fun k hk => absurd hk not_mem_nil
  | cons k ks ih =>
    obtain ⟨hk, hrest⟩ := forall_mem_cons.1 hks
    intro k' hk'
    rcases mem_append.1 hk' with hhere | hlater
    · split_ifs at hhere with hcompared
      · rw [mem_singleton.1 hhere]
        exact ⟨hk.1, hk.yards_ne_zero hcompared⟩
      · exact absurd hhere not_mem_nil
    · exact ih hrest k' hlater

theorem Shortest.run (h : Shortest sqrt showCoord files path legs)
    (hlegs : ∀ k ∈ legs, IsPlain k.bossName ∧ k.yards sqrt ≠ 0) (hks : ∀ k ∈ ks, k.Sound sqrt) :
    Shortest sqrt showCoord (Runs.run (OnBossKilled sqrt showCoord dir) files ks) path
      (legs ++ legsAt dir path (compared sqrt showCoord dir files ks)) := by
  induction ks generalizing files legs with
  | nil => exact (append_nil legs).symm ▸ h
  | cons k ks ih =>
    obtain ⟨hk, hrest⟩ := forall_mem_cons.1 hks
    have hparts : legs ++ legsAt dir path (compared sqrt showCoord dir files (k :: ks)) =
        (legs ++ legsAt dir path (if k.isCompared sqrt (files (k.path dir)).isSome then [k] else [])) ++
          legsAt dir path (compared sqrt showCoord dir (OnBossKilled sqrt showCoord dir files k) ks) := by
      unfold legsAt
      rw [compared, filter_append, append_assoc]
    have hmine : ∀ k' ∈ legsAt dir path (if k.isCompared sqrt (files (k.path dir)).isSome then [k] else []),
        IsPlain k'.bossName ∧ k'.yards sqrt ≠ 0 := by
      intro k' hk'
      have hmem := (mem_filter.1 hk').1
      split_ifs at hmem with hcompared
      · rw [mem_singleton.1 hmem]
        exact ⟨hk.1, hk.yards_ne_zero hcompared⟩
      · exact absurd hmem not_mem_nil
    rw [hparts]
    refine ih ?_ (fun k' hk' => (mem_append.1 hk').elim (hlegs k') (hmine k')) hrest
    by_cases hpath : k.path dir = path
    · subst hpath
      have hall : legsAt dir (k.path dir) (if k.isCompared sqrt (files (k.path dir)).isSome then [k] else []) =
          if k.isCompared sqrt (files (k.path dir)).isSome then [k] else [] := by
        unfold legsAt
        split_ifs <;> simp
      rw [hall]
      exact h.beside hlegs
    · have hnone : legsAt dir path (if k.isCompared sqrt (files (k.path dir)).isSome then [k] else []) = [] := by
        unfold legsAt
        split_ifs <;> simp [hpath]
      rw [hnone, append_nil]
      unfold Shortest
      rw [OnBossKilled_other (Ne.symm hpath)]
      exact h

def storedYards (files : Files) (path : Text) : Option UInt32 := (files path).bind prevLen

theorem compared_append (files : Files) (ks ks' : List (Kill F)) : compared sqrt showCoord dir files (ks ++ ks') =
      compared sqrt showCoord dir files ks ++ compared sqrt showCoord dir (Runs.run (OnBossKilled sqrt showCoord dir) files ks) ks' := by
  induction ks generalizing files with
  | nil => rfl
  | cons k ks ih =>
    rw [cons_append, compared, compared, ih, append_assoc]
    rfl

theorem shortest_run (showCoord : F → Text) (dir : Text) (h : ∀ k ∈ ks, k.Sound sqrt) (path : Text) :
    Shortest sqrt showCoord (Runs.run (OnBossKilled sqrt showCoord dir) (fun _ => none) ks) path
      (legsAt dir path (compared sqrt showCoord dir (fun _ => none) ks)) :=
  Shortest.run (.inl ⟨rfl, rfl⟩) (fun _ hk => absurd hk not_mem_nil) h

theorem storedYards_le (dir : Text) {more : List (Kill F)} (h : ∀ k ∈ ks ++ more, k.Sound sqrt) {len : UInt32}
    (hlen : storedYards (Runs.run (OnBossKilled sqrt showCoord dir) (fun _ => none) ks) path = some len) :
    ∃ len', storedYards (Runs.run (OnBossKilled sqrt showCoord dir) (fun _ => none) (ks ++ more)) path = some len' ∧ len' ≤ len := by
  have hks : ∀ k ∈ ks, k.Sound sqrt := fun k hk => h k (mem_append_left _ hk)
  have hplain : ∀ {l : List (Kill F)}, (∀ k ∈ l, k.Sound sqrt) →
      ∀ k ∈ legsAt dir path (compared sqrt showCoord dir (fun _ => none) l), IsPlain k.bossName := fun hl k hk =>
    (compared_nonzero hl k (mem_filter.1 hk).1).1
  unfold storedYards at hlen ⊢
  rcases shortest_run showCoord dir hks path with ⟨-, hnone⟩ | ⟨k, hk, hfile, -⟩
  · rw [hnone] at hlen
    cases hlen
  rw [hfile, Option.bind_some, prevLen_record (hplain hks k hk)] at hlen
  cases hlen
  have hlater : k ∈ legsAt dir path (compared sqrt showCoord dir (fun _ => none) (ks ++ more)) := by
    unfold legsAt at hk ⊢
    rw [compared_append, filter_append]
    exact mem_append_left _ hk
  rcases shortest_run showCoord dir h path with ⟨hnone, -⟩ | ⟨k', hk', hfile', hleast⟩
  · rw [hnone] at hlater
    exact absurd hlater not_mem_nil
  · refine ⟨k'.yards sqrt, ?_, hleast k hlater⟩
    rw [hfile', Option.bind_some, prevLen_record (hplain h k' hk')]

/-- From no file on, what is stored for a boss of a map is a shortest of its legs that were compared, and never gets longer. -/
theorem shortest_route_wins (sqrt : F → F) (showCoord : F → Text) (dir : Text) (ks : List (Kill F)) (h : ∀ k ∈ ks, k.Sound sqrt) :
    (∀ mapId bossEntry, Shortest sqrt showCoord (Runs.run (OnBossKilled sqrt showCoord dir) (fun _ => none) ks) (routePath dir mapId bossEntry)
        ((compared sqrt showCoord dir (fun _ => none) ks).filter fun k => k.mapId = mapId ∧ k.bossEntry = bossEntry)) ∧
      ∀ n mapId bossEntry len,
        storedYards (Runs.run (OnBossKilled sqrt showCoord dir) (fun _ => none) (ks.take n)) (routePath dir mapId bossEntry) = some len →
          ∃ len', storedYards (Runs.run (OnBossKilled sqrt showCoord dir) (fun _ => none) ks) (routePath dir mapId bossEntry) = some len' ∧
            len' ≤ len := by
  constructor
  · intro mapId bossEntry
    have hlegs : legsAt dir (routePath dir mapId bossEntry) (compared sqrt showCoord dir (fun _ => none) ks) =
        (compared sqrt showCoord dir (fun _ => none) ks).filter fun k => k.mapId = mapId ∧ k.bossEntry = bossEntry := by
      refine filter_congr fun k _ => decide_eq_decide.2 ⟨fun hpath => routePath_inj hpath, ?_⟩
      rintro ⟨rfl, rfl⟩
      rfl
    rw [← hlegs]
    exact shortest_run showCoord dir h _
  · intro n mapId bossEntry len hlen
    rw [← take_append_drop n ks] at h ⊢
    exact storedYards_le dir h hlen

end Runs

namespace RouteSample

/-- The root of a square of a whole number up to 200. -/
def root (q : ℚ) : ℚ := (((List.range 201).find? fun n : Nat => ((n * n : Nat) : ℚ) = q).getD 0 : Nat)

/-- A boss that died at the end of a straight way with an anchor every fifteen yards. -/
def kill (name : String) (anchors : Nat) : Kill ℚ :=
  ⟨33, 3887, name.toList, (List.range anchors).map fun i => ⟨15 * i, 0, 0⟩, none⟩

def show1 (_ : ℚ) : Text := "0.0".toList

instance (name : Text) : Decidable (IsPlain name) := inferInstanceAs (Decidable (_ ∧ _))

instance (k : Kill ℚ) : Decidable (k.Sound root) := inferInstanceAs (Decidable (_ ∧ _))

theorem sound_kill : ∀ k ∈ [kill "Nandos" 7, kill "Nandos" 5], k.Sound root := by decide +kernel

theorem shortest_route_wins_straight : ∃ k ∈ compared root show1 [] (fun _ => none) [kill "Nandos" 7, kill "Nandos" 5],
      Runs.run (OnBossKilled root show1 []) (fun _ => none) [kill "Nandos" 7, kill "Nandos" 5] (routePath [] 33 3887) =
        some (k.record root show1) := by
  rcases (shortest_route_wins root show1 [] [kill "Nandos" 7, kill "Nandos" 5] sound_kill).1 33 3887 with ⟨-, hnone⟩ | ⟨k, hk, hfile, -⟩
  · have hsome : (Runs.run (OnBossKilled root show1 []) (fun _ => none) [kill "Nandos" 7, kill "Nandos" 5]
      (routePath [] 33 3887)).isSome = true := by decide +kernel
    rw [hnone] at hsome
    cases hsome
  · exact ⟨k, (mem_filter.1 hk).1, hfile⟩

/-- Behind a name with " over " in it no number is found, and the longer way takes the place of the shorter. -/
theorem lord_over_all_gets_longer :
    let files := OnBossKilled root show1 [] (fun _ => none) (kill "Lord over All" 5)
    let files' := OnBossKilled root show1 [] files (kill "Lord over All" 7)
    (kill "Lord over All" 5).isCompared root false = true ∧ (kill "Lord over All" 7).isCompared root true = true ∧
      files (routePath [] 33 3887) = some ((kill "Lord over All" 5).record root show1) ∧
      files' (routePath [] 33 3887) = some ((kill "Lord over All" 7).record root show1) ∧
      (kill "Lord over All" 5).yards root < (kill "Lord over All" 7).yards root := by
  decide +kernel

end RouteSample

end ComfyCraft.DcRouteRecorder
