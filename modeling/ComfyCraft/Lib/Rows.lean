import Mathlib.Data.List.Nodup

/-! Database tables with a unique key, and transactions on them. A statement that would give two
rows one key fails, and a transaction with a failing statement leaves the database as it was. -/

structure Rows (R K : Type) (key : R → K) where
  rows : List R
  unique : (rows.map key).Nodup

namespace Rows

open List

variable {R K : Type} {key : R → K}

def empty : Rows R K key := ⟨[], List.nodup_nil⟩

def deleteWhere (t : Rows R K key) (p : R → Bool) : Rows R K key :=
  ⟨t.rows.filter fun r => !p r, t.unique.sublist (List.filter_sublist.map key)⟩

@[simp] theorem rows_deleteWhere (t : Rows R K key) (p : R → Bool) : (t.deleteWhere p).rows = t.rows.filter fun r => !p r := rfl

def part (own : R → Bool) (t : Rows R K key) : List R := t.rows.filter own

def rest (own : R → Bool) (t : Rows R K key) : List R := t.rows.filter fun r => !own r

variable {r : R} {p : R → Bool} {f : R → R} {k : K}

theorem mem_part {own : R → Bool} {t : Rows R K key} : r ∈ t.part own ↔ r ∈ t.rows ∧ own r = true := mem_filter

theorem mem_rest {own : R → Bool} {t : Rows R K key} : r ∈ t.rest own ↔ r ∈ t.rows ∧ own r = false := by
  unfold rest
  rw [mem_filter, Bool.not_eq_true']

variable {own : R → Bool} {t t' : Rows R K key}

theorem part_deleteWhere (own : R → Bool) (hp : ∀ r ∈ t.rows, p r = true → own r = true) :
    (t.deleteWhere p).part own = (t.part own).filter (fun r => !p r) ∧ (t.deleteWhere p).rest own = t.rest own := by
  unfold part rest
  rw [rows_deleteWhere, filter_filter, filter_filter, filter_filter]
  constructor
  · exact filter_congr fun r _ => Bool.and_comm _ _
  · apply filter_congr
    intro r hr
    by_cases hpr : p r = true
    · simp [hpr, hp r hr hpr]
    · simp [hpr]

variable [DecidableEq K]

def insert (t : Rows R K key) (r : R) : Option (Rows R K key) :=
  if h : ((t.rows ++ [r]).map key).Nodup then some ⟨t.rows ++ [r], h⟩ else none

def updateWhere (t : Rows R K key) (p : R → Bool) (f : R → R) : Option (Rows R K key) :=
  if h : ((t.rows.map fun r => if p r then f r else r).map key).Nodup then
    some ⟨t.rows.map fun r => if p r then f r else r, h⟩
  else none

theorem insert_some {t t' : Rows R K key} (h : t.insert r = some t') : t'.rows = t.rows ++ [r] := by
  unfold insert at h
  split_ifs at h
  cases h
  rfl

theorem insert_isSome {t : Rows R K key} (h : ∀ x ∈ t.rows, key x ≠ key r) :
    ∃ t', t.insert r = some t' ∧ t'.rows = t.rows ++ [r] := by
  have hnd : ((t.rows ++ [r]).map key).Nodup := by
    rw [map_append, nodup_append]
    refine ⟨t.unique, by simp, ?_⟩
    intro a ha b hb hab
    obtain ⟨x, hx, rfl⟩ := mem_map.1 ha
    simp only [map_cons, map_nil, mem_singleton] at hb
    exact h x hx (hab.trans hb)
  exact ⟨⟨t.rows ++ [r], hnd⟩, dif_pos hnd, rfl⟩

theorem insert_none {t : Rows R K key} (h : t.insert r = none) : ∃ x ∈ t.rows, key x = key r := by
  by_contra hcon
  obtain ⟨t', ht', -⟩ := insert_isSome (t := t) (r := r) fun x hx hkey => hcon ⟨x, hx, hkey⟩
  rw [h] at ht'
  cases ht'

theorem updateWhere_some {t t' : Rows R K key} (h : t.updateWhere p f = some t') :
    t'.rows = t.rows.map fun r => if p r then f r else r := by
  unfold updateWhere at h
  split_ifs at h
  cases h
  rfl

theorem updateWhere_isSome {t : Rows R K key} (h : ∀ r ∈ t.rows, p r = true → key (f r) = key r) :
    ∃ t', t.updateWhere p f = some t' ∧ t'.rows = t.rows.map fun r => if p r then f r else r := by
  have hmap : (t.rows.map fun r => if p r then f r else r).map key = t.rows.map key := by
    rw [map_map]
    apply map_congr_left
    intro r hr
    by_cases hp : p r = true
    · simp only [Function.comp_apply, hp, if_true]; exact h r hr hp
    · simp [hp]
  have hnd := t.unique
  rw [← hmap] at hnd
  exact ⟨⟨_, hnd⟩, dif_pos hnd, rfl⟩

/-- An update succeeds when it sends different keys to different keys. -/
theorem updateWhere_of_injOn {t : Rows R K key} {g : K → K} (hg : ∀ r ∈ t.rows, key (if p r then f r else r) = g (key r))
    (hinj : ∀ r ∈ t.rows, ∀ r' ∈ t.rows, g (key r) = g (key r') → key r = key r') :
    ∃ t', t.updateWhere p f = some t' ∧ t'.rows = t.rows.map fun r => if p r then f r else r := by
  have hmap : (t.rows.map fun r => if p r then f r else r).map key = (t.rows.map key).map g := by
    rw [map_map, map_map]
    exact map_congr_left hg
  have hnd : ((t.rows.map fun r => if p r then f r else r).map key).Nodup := by
    rw [hmap]
    refine t.unique.map_on fun a ha b hb hab => ?_
    obtain ⟨r, hr, rfl⟩ := mem_map.1 ha
    obtain ⟨r', hr', rfl⟩ := mem_map.1 hb
    exact hinj r hr r' hr' hab
  exact ⟨⟨_, hnd⟩, dif_pos hnd, rfl⟩

theorem part_insert (h : t.insert r = some t') (hr : own r = true) :
    t'.part own = t.part own ++ [r] ∧ t'.rest own = t.rest own := by
  unfold part rest
  rw [insert_some h]
  simp [hr]

/-- An update that only touches own rows and keeps them own leaves the others as they were. -/
theorem part_updateWhere (h : t.updateWhere p f = some t') (hp : ∀ r ∈ t.rows, p r = true → own r = true ∧ own (f r) = true) :
    t'.part own = (t.part own).map (fun r => if p r then f r else r) ∧ t'.rest own = t.rest own := by
  unfold part rest
  rw [updateWhere_some h]
  generalize t.rows = l at hp
  induction l with
  | nil => exact ⟨rfl, rfl⟩
  | cons r l ih =>
    obtain ⟨ih1, ih2⟩ := ih fun x hx => hp x (mem_cons_of_mem _ hx)
    by_cases hpr : p r = true
    · obtain ⟨h1, h2⟩ := hp r mem_cons_self hpr
      simp [hpr, h1, h2, ih1, ih2]
    · by_cases ho : own r = true <;> simp [hpr, ho, ih1, ih2]

def lookup (t : Rows R K key) (k : K) : Option R := t.rows.find? fun r => key r = k

theorem lookup_eq_some : t.lookup k = some r ↔ r ∈ t.rows ∧ key r = k := by
  unfold lookup
  constructor
  · intro h
    exact ⟨mem_of_find?_eq_some h, by simpa using find?_some h⟩
  · rintro ⟨hr, hk⟩
    cases h : t.rows.find? fun r => key r = k with
    | none => exact absurd hk (by simpa using find?_eq_none.1 h r hr)
    | some r' =>
      have hk' : key r' = k := by simpa using find?_some h
      rw [inj_on_of_nodup_map t.unique (mem_of_find?_eq_some h) hr (hk'.trans hk.symm)]

theorem lookup_eq_none : t.lookup k = none ↔ ∀ r ∈ t.rows, key r ≠ k := by
  unfold lookup
  simp

theorem lookup_deleteWhere (t : Rows R K key) (p : R → Bool) (k : K) :
    (t.deleteWhere p).lookup k = (t.lookup k).filter fun r => !p r := by
  apply Option.ext
  intro r
  rw [lookup_eq_some, Option.filter_eq_some_iff, lookup_eq_some, rows_deleteWhere, mem_filter]
  exact ⟨fun ⟨⟨h1, h2⟩, h3⟩ => ⟨⟨h1, h3⟩, h2⟩, fun ⟨⟨h1, h3⟩, h2⟩ => ⟨⟨h1, h2⟩, h3⟩⟩

/-- An insert puts its row under a key that has none, and does nothing otherwise. -/
theorem lookup_insert (t : Rows R K key) (r : R) (k : K) :
    ((t.insert r).getD t).lookup k = if k = key r then some ((t.lookup k).getD r) else t.lookup k := by
  cases h : t.insert r with
  | none =>
    obtain ⟨x, hx, hkey⟩ := insert_none h
    rw [Option.getD_none]
    split_ifs with hk
    · rw [lookup_eq_some.2 ⟨hx, hkey.trans hk.symm⟩]
      rfl
    · rfl
  | some t' =>
    have hrows := insert_some h
    have hnew : ∀ x ∈ t.rows, key x ≠ key r := by
      intro x hx heq
      have hnd := t'.unique
      rw [hrows, map_append, nodup_append] at hnd
      exact hnd.2.2 (key x) (mem_map_of_mem hx) (key r) (by simp) heq
    rw [Option.getD_some]
    split_ifs with hk
    · have hold : t.lookup k = none := lookup_eq_none.2 (hk ▸ hnew)
      have hin : t'.lookup k = some r := lookup_eq_some.2 ⟨by rw [hrows]; simp, hk.symm⟩
      rw [hold, hin]
      rfl
    · apply Option.ext
      intro x
      rw [lookup_eq_some, lookup_eq_some, hrows, mem_append, mem_singleton]
      constructor
      · rintro ⟨hx | hx, hxk⟩
        · exact ⟨hx, hxk⟩
        · exact absurd (hx ▸ hxk).symm hk
      · rintro ⟨hx, hxk⟩
        exact ⟨Or.inl hx, hxk⟩

theorem lookup_updateWhere (hf : ∀ r, p r = true → key (f r) = key r) (t : Rows R K key) (k : K) :
    ((t.updateWhere p f).getD t).lookup k = (t.lookup k).map fun r => if p r then f r else r := by
  obtain ⟨t', ht', hrows⟩ := updateWhere_isSome (t := t) (p := p) (f := f) fun r _ hr => hf r hr
  have hkey : ∀ r, key (if p r then f r else r) = key r := by
    intro r
    split_ifs with hr
    · exact hf r hr
    · rfl
  rw [ht', Option.getD_some]
  apply Option.ext
  intro x
  rw [lookup_eq_some, Option.map_eq_some_iff, hrows, mem_map]
  constructor
  · rintro ⟨⟨r, hr, rfl⟩, hk⟩
    exact ⟨r, lookup_eq_some.2 ⟨hr, (hkey r).symm.trans hk⟩, rfl⟩
  · rintro ⟨r, hr, rfl⟩
    obtain ⟨hmem, hk⟩ := lookup_eq_some.1 hr
    exact ⟨⟨r, hmem, rfl⟩, (hkey r).trans hk⟩

end Rows

namespace Transaction

variable {D : Type}

def execute : List (D → Option D) → D → Option D
  | [], db => some db
  | s :: ss, db => (s db).bind (execute ss)

/-- A transaction takes effect as a whole or not at all. -/
def commit (db : D) (stmts : List (D → Option D)) : D := (execute stmts db).getD db

theorem execute_append (ss ss' : List (D → Option D)) (db : D) :
    execute (ss ++ ss') db = (execute ss db).bind (execute ss') := by
  induction ss generalizing db with
  | nil => rfl
  | cons s ss ih =>
    simp only [List.cons_append, execute]
    cases s db with
    | none => rfl
    | some db' => exact ih db'

/-- What every statement that succeeds keeps, a transaction keeps. -/
theorem commit_keeps {I : D → Prop} {stmts : List (D → Option D)} {db : D} (hdb : I db)
    (hs : ∀ s ∈ stmts, ∀ d d', I d → s d = some d' → I d') : I (commit db stmts) := by
  unfold commit
  cases h : execute stmts db with
  | none => exact hdb
  | some db' =>
    simp only [Option.getD_some]
    induction stmts generalizing db with
    | nil => cases h; exact hdb
    | cons s ss ih =>
      obtain ⟨d, hd, hrest⟩ := Option.bind_eq_some_iff.1 h
      exact ih (hs s List.mem_cons_self db d hdb hd) (fun s' hs' => hs s' (List.mem_cons_of_mem _ hs')) hrest

end Transaction

/-! Statements that treat every row of a table by itself: each row is kept, changed or dropped, whatever the other rows are.
A list of such statements does to a table what it does to each of the rows. -/

namespace RowEdits

variable {S R : Type} (on : S → R → Option R)

def through (l : List S) (r : R) : Option R := l.foldl (fun o st => o.bind (on st)) (some r)

def run (l : List S) (rows : List R) : List R := l.foldl (fun rows st => rows.filterMap (on st)) rows

variable {on} {l : List S} {rows : List R} {r r' : R}

theorem through_cons (st : S) (l : List S) (r : R) : through on (st :: l) r = (on st r).bind (through on l) := by
  have hnone : ∀ l : List S, l.foldl (fun o st => o.bind (on st)) (none : Option R) = none := by
    intro l
    induction l with
    | nil => rfl
    | cons st l ih => exact ih
  unfold through
  rw [List.foldl_cons, Option.bind_some]
  cases on st r with
  | none => exact hnone l
  | some r' => rfl

theorem run_eq (l : List S) (rows : List R) : run on l rows = rows.filterMap (through on l) := by
  induction l generalizing rows with
  | nil => exact List.filterMap_some.symm
  | cons st l ih =>
    change run on l (rows.filterMap (on st)) = _
    rw [ih, List.filterMap_filterMap]
    exact List.filterMap_congr fun r _ => (through_cons st l r).symm

theorem mem_run : r' ∈ run on l rows ↔ ∃ r ∈ rows, through on l r = some r' := by
  rw [run_eq, List.mem_filterMap]

/-- A row that every statement leaves as it is. -/
theorem through_left (h : ∀ st ∈ l, on st r = some r) : through on l r = some r := by
  induction l with
  | nil => rfl
  | cons st l ih =>
    rw [through_cons, h st List.mem_cons_self]
    exact ih fun st' hst' => h st' (List.mem_cons_of_mem st hst')

/-- A row that some statement changes, after which each of them leaves it as it is. -/
theorem through_settled (hall : ∀ st ∈ l, on st r' = some r' ∧ (on st r = some r ∨ on st r = some r'))
    (h : ∃ st ∈ l, on st r = some r') :
    through on l r = some r' := by
  induction l with
  | nil =>
    obtain ⟨st, hst, -⟩ := h
    cases hst
  | cons st l ih =>
    have hrest : through on l r' = some r' := through_left fun st' hst' => (hall st' (List.mem_cons_of_mem st hst')).1
    rw [through_cons]
    rcases (hall st List.mem_cons_self).2 with hsame | hchanged
    · rw [hsame]
      obtain ⟨st', hst', heq⟩ := h
      rcases List.mem_cons.1 hst' with rfl | hlater
      · rw [hsame] at heq
        cases heq
        exact hrest
      · exact ih (fun st' hst' => hall st' (List.mem_cons_of_mem st hst')) ⟨st', hlater, heq⟩
    · rw [hchanged]
      exact hrest

theorem through_gone (hall : ∀ st ∈ l, on st r = some r ∨ on st r = none)
    (h : ∃ st ∈ l, on st r = none) : through on l r = none := by
  induction l with
  | nil =>
    obtain ⟨st, hst, -⟩ := h
    cases hst
  | cons st l ih =>
    rw [through_cons]
    rcases hall st List.mem_cons_self with hsame | hgone
    · rw [hsame]
      obtain ⟨st', hst', heq⟩ := h
      rcases List.mem_cons.1 hst' with rfl | hlater
      · rw [hsame] at heq
        cases heq
      · exact ih (fun st' hst' => hall st' (List.mem_cons_of_mem st hst')) ⟨st', hlater, heq⟩
    · rw [hgone]
      rfl

variable {α : Type} {p : R → Bool}

/-- What no statement changes of a row. -/
theorem through_kept {p : R → α} (h : ∀ st ∈ l, ∀ r r', on st r = some r' → p r' = p r) (hr : through on l r = some r') :
    p r' = p r := by
  induction l generalizing r with
  | nil =>
    cases hr
    rfl
  | cons st l ih =>
    rw [through_cons] at hr
    obtain ⟨r₁, hr₁, hrest⟩ := Option.bind_eq_some_iff.1 hr
    exact (ih (fun st' hst' => h st' (List.mem_cons_of_mem st hst')) hrest).trans (h st List.mem_cons_self r r₁ hr₁)

/-- The rows that the statements have nothing to do with. -/
theorem filter_run (hkept : ∀ st ∈ l, ∀ r r', on st r = some r' → p r' = p r)
    (hleft : ∀ r ∈ rows, p r = true → ∀ st ∈ l, on st r = some r) : (run on l rows).filter p = rows.filter p := by
  rw [run_eq, List.filter_filterMap, ← List.filterMap_eq_filter]
  apply List.filterMap_congr
  intro r hr
  rw [Option.guard]
  cases hp : p r with
  | true => rw [through_left (hleft r hr hp), Option.filter_some, hp]
  | false =>
    cases hthrough : through on l r with
    | none => rfl
    | some r' =>
      rw [Option.filter_some, through_kept hkept hthrough, hp]
      rfl

/-- A search for a row, and what it reads of the row, where no statement drops such a row or changes what is read. -/
theorem find_run {g : R → α} (hp : ∀ st ∈ l, ∀ r r', on st r = some r' → p r' = p r ∧ g r' = g r)
    (hstay : ∀ st ∈ l, ∀ r, p r = true → on st r ≠ none) : ((run on l rows).find? p).map g = (rows.find? p).map g := by
  induction l generalizing rows with
  | nil => rfl
  | cons st l ih =>
    change ((run on l (rows.filterMap (on st))).find? p).map g = _
    rw [ih (fun st' hst' => hp st' (List.mem_cons_of_mem st hst')) (fun st' hst' => hstay st' (List.mem_cons_of_mem st hst')),
      List.find?_filterMap]
    have hany : ∀ r, (on st r).any p = p r := by
      intro r
      cases hon : on st r with
      | none =>
        cases hpr : p r with
        | false => rfl
        | true => exact absurd hon (hstay st List.mem_cons_self r hpr)
      | some r' => exact (hp st List.mem_cons_self r r' hon).1
    simp only [hany]
    cases hfound : rows.find? p with
    | none => rfl
    | some r =>
      cases hon : on st r with
      | none => exact absurd hon (hstay st List.mem_cons_self r (List.find?_some hfound))
      | some r' =>
        rw [Option.bind_some, hon]
        exact congrArg some (hp st List.mem_cons_self r r' hon).2

end RowEdits
