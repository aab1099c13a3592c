import Mathlib.Data.List.Nodup
import Mathlib.Data.List.MinMax
import Mathlib.Data.Prod.Lex
import Mathlib.Data.Fintype.EquivFin

/-!
# Tables with a primary key

A list of rows no two of which share their primary key, read by key or by a condition, and written
by `insert` and by bulk statements.
-/

namespace VonkForge

/-- The primary key of a type of rows. -/
class Keyed (R : Type) (K : outParam Type) where
  key : R → K

open Keyed (key)

/-- The rows of a table, one at most for each primary key. -/
structure Table (R : Type) {K : Type} [Keyed R K] where
  rows : List R
  nodup_keys : (rows.map key).Nodup

namespace Table

section Statements

variable {R K : Type} [Keyed R K]

lemma ext_rows {s t : Table R} (h : s.rows = t.rows) : s = t := by
  cases s
  cases t
  cases h
  rfl

instance [DecidableEq R] : DecidableEq (Table R) := fun s t =>
  decidable_of_iff (s.rows = t.rows) ⟨ext_rows, fun h => h ▸ rfl⟩

def empty : Table R := ⟨[], List.nodup_nil⟩

def single (r : R) : Table R := ⟨[r], List.nodup_singleton _⟩

/-- `SELECT … WHERE p`, in storage order. -/
def select (t : Table R) (p : R → Bool) : List R := t.rows.filter p

/-- `SELECT … WHERE p ORDER BY f LIMIT 1`. -/
def firstBy {α : Type} [LinearOrder α] (t : Table R) (f : R → α) (p : R → Bool) : Option R :=
  (t.select p).argmin f

/-- `UPDATE … SET f WHERE p`; no statement of a program changes a primary key. -/
def updateWhere (t : Table R) (p : R → Bool) (f : R → R)
    (hf : ∀ r, key (f r) = key r := by intro _; rfl) : Table R where
  rows := t.rows.map (fun r => if p r then f r else r)
  nodup_keys := by
    have hk : key ∘ (fun r => if p r then f r else r) = (key : R → K) := by
      funext r
      by_cases hp : p r <;> simp [hp, hf]
    rw [List.map_map, hk]
    exact t.nodup_keys

/-- `DELETE … WHERE p`. -/
def deleteWhere (t : Table R) (p : R → Bool) : Table R where
  rows := t.rows.filter (fun r => !p r)
  nodup_keys := t.nodup_keys.sublist (List.filter_sublist.map key)

variable {α : Type} [LinearOrder α] {t : Table R} {f : R → α} {p : R → Bool} {r : R}

lemma eq_of_key {r r' : R} (hr : r ∈ t.rows) (hr' : r' ∈ t.rows) (h : key r = key r') : r = r' :=
  List.inj_on_of_nodup_map t.nodup_keys hr hr' h

@[simp]
lemma mem_select : r ∈ t.select p ↔ r ∈ t.rows ∧ p r = true := List.mem_filter

lemma mem_updateWhere {f : R → R} {hf : ∀ r, key (f r) = key r} {x : R} :
    x ∈ (t.updateWhere p f hf).rows ↔
      (∃ r ∈ t.rows, p r = true ∧ f r = x) ∨ (x ∈ t.rows ∧ p x = false) := by
  simp only [updateWhere, List.mem_map]
  constructor
  · rintro ⟨r, hr, rfl⟩
    by_cases hp : p r = true
    · exact .inl ⟨r, hr, hp, by simp [hp]⟩
    exact .inr ⟨by simpa [hp] using hr, by simp [hp]⟩
  rintro (⟨r, hr, hp, rfl⟩ | ⟨hx, hp⟩)
  · exact ⟨r, hr, by simp [hp]⟩
  exact ⟨x, hx, by simp [hp]⟩

/-- An update of rows that a query selects neither before nor after leaves its answer. -/
theorem select_updateWhere {q : R → Bool} {f : R → R} (hf : ∀ r, key (f r) = key r)
    (h : ∀ r ∈ t.rows, q r = true → p r = false ∧ p (f r) = false) :
    (t.updateWhere q f hf).select p = t.select p := by
  unfold select updateWhere
  rw [List.filter_map]
  have hfilter : t.rows.filter (p ∘ fun r => if q r then f r else r) = t.rows.filter p := by
    refine List.filter_congr fun r hr => ?_
    by_cases hq : q r = true
    · simp [hq, h r hr hq]
    simp [hq]
  rw [hfilter]
  refine (List.map_congr_left fun r hr => ?_).trans (List.map_id _)
  obtain ⟨hmem, hp⟩ := List.mem_filter.mp hr
  by_cases hq : q r = true
  · rw [(h r hmem hq).1] at hp
    cases hp
  simp [hq]

@[simp]
lemma mem_deleteWhere : r ∈ (t.deleteWhere p).rows ↔ r ∈ t.rows ∧ p r = false := by
  simp [deleteWhere]

lemma mem_of_firstBy (h : t.firstBy f p = some r) : r ∈ t.rows ∧ p r = true :=
  mem_select.mp (List.argmin_mem h)

lemma firstBy_le (h : t.firstBy f p = some r) {x : R} (hx : x ∈ t.rows) (hp : p x = true) :
    f r ≤ f x :=
  List.le_of_mem_argmin (mem_select.mpr ⟨hx, hp⟩) h

lemma firstBy_eq_none : t.firstBy f p = none ↔ ∀ x ∈ t.rows, p x = false := by
  simp [firstBy, select, List.filter_eq_nil_iff]

end Statements

section Keys

variable {R K : Type} [Keyed R K] [DecidableEq K]

/-- `SELECT … WHERE key = k`. -/
def get? (t : Table R) (k : K) : Option R :=
  t.rows.find? (fun r => decide (key r = k))

variable {t t' : Table R} {r x : R} {k : K} {p : R → Bool} {f : R → R}
  {hf : ∀ r, key (f r) = key r}

lemma get?_eq_none : t.get? k = none ↔ ∀ r ∈ t.rows, key r ≠ k := by
  simp [get?]

lemma mem_of_get? (h : t.get? k = some r) : r ∈ t.rows :=
  List.mem_of_find?_eq_some h

lemma get?_key (h : t.get? k = some r) : key r = k := by
  simpa using List.find?_some h

lemma get?_of_mem (h : r ∈ t.rows) : t.get? (key r) = some r := by
  cases hg : t.get? (key r) with
  | none => exact absurd rfl (get?_eq_none.mp hg r h)
  | some r' => rw [eq_of_key (mem_of_get? hg) h (get?_key hg)]

lemma get?_eq_some : t.get? k = some r ↔ r ∈ t.rows ∧ key r = k :=
  ⟨fun h => ⟨mem_of_get? h, get?_key h⟩, fun h => h.2 ▸ get?_of_mem h.1⟩

lemma exists_unused [Infinite K] (t : Table R) : ∃ k, t.get? k = none := by
  obtain ⟨k, hk⟩ := Infinite.exists_notMem_finset (t.rows.map key).toFinset
  refine ⟨k, get?_eq_none.mpr fun r hr he => hk ?_⟩
  rw [List.mem_toFinset, ← he]
  exact List.mem_map_of_mem hr

/-- `INSERT`: a key that is already stored violates the primary key constraint. -/
def insert (t : Table R) (r : R) : Option (Table R) :=
  if h : t.get? (key r) = none then
    some {
      rows := t.rows ++ [r]
      nodup_keys := by
        have hr : key r ∉ t.rows.map key := fun hm => by
          obtain ⟨x, hx, he⟩ := List.mem_map.mp hm
          exact get?_eq_none.mp h x hx he
        simpa using List.Nodup.concat hr t.nodup_keys }
  else none

lemma insert_eq_some : t.insert r = some t' ↔ t.get? (key r) = none ∧ t'.rows = t.rows ++ [r] := by
  unfold insert
  split
  · next h => exact ⟨fun he => by cases he; exact ⟨h, rfl⟩,
      fun he => congrArg some (ext_rows he.2.symm)⟩
  next h => simp [h]

lemma exists_insert (h : t.get? (key r) = none) : ∃ t', t.insert r = some t' := by
  unfold insert
  rw [dif_pos h]
  exact ⟨_, rfl⟩

lemma mem_insert (h : t.insert r = some t') : x ∈ t'.rows ↔ x ∈ t.rows ∨ x = r := by
  rw [(insert_eq_some.mp h).2]
  simp

lemma get?_insert (h : t.insert r = some t') (k : K) :
    t'.get? k = if k = key r then some r else t.get? k := by
  obtain ⟨hnone, hrows⟩ := insert_eq_some.mp h
  simp only [get?, hrows, List.find?_append]
  split
  · next hk =>
    subst hk
    have hn : t.rows.find? (fun x => decide (key x = key r)) = none := hnone
    simp [hn]
  next hk =>
  simp [Ne.symm hk]

lemma get?_insert_of_some (h : t.insert r = some t') (hx : t.get? k = some x) :
    t'.get? k = some x := by
  rw [get?_insert h, if_neg, hx]
  rintro rfl
  rw [(insert_eq_some.mp h).1] at hx
  cases hx

/-- `INSERT … ON CONFLICT DO NOTHING`. -/
def insertIgnore (t : Table R) (r : R) : Table R := (t.insert r).getD t

lemma insertIgnore_of_some (h : t.get? (key r) = some x) : t.insertIgnore r = t := by
  have hsome : ¬ t.get? (key r) = none := fun hnone => by cases h.symm.trans hnone
  rw [insertIgnore, insert, dif_neg hsome, Option.getD_none]

lemma get?_insertIgnore (t : Table R) (r : R) (k : K) :
    (t.insertIgnore r).get? k = (t.get? k).or (if k = key r then some r else none) := by
  cases h : t.get? (key r) with
  | none =>
    obtain ⟨t', ht⟩ := exists_insert h
    rw [insertIgnore, ht, Option.getD_some, get?_insert ht]
    split
    · next hk => rw [hk, h, Option.none_or]
    rw [Option.or_none]
  | some x =>
    rw [insertIgnore_of_some h]
    split
    · next hk => rw [hk, h, Option.some_or]
    rw [Option.or_none]

lemma rows_insertIgnore (h : t.get? (key r) = none) : (t.insertIgnore r).rows = t.rows ++ [r] := by
  obtain ⟨t', ht⟩ := exists_insert h
  rw [insertIgnore, ht, Option.getD_some]
  exact (insert_eq_some.mp ht).2

/-- The rows of a multi-row `INSERT … ON CONFLICT DO NOTHING`, one after another. -/
def insertAllIgnore (t : Table R) (rs : List R) : Table R := rs.foldl insertIgnore t

lemma get?_insertAllIgnore (t : Table R) (rs : List R) (k : K) :
    (t.insertAllIgnore rs).get? k = (t.get? k).or (rs.find? (fun r => decide (key r = k))) := by
  induction rs generalizing t with
  | nil => simp [insertAllIgnore]
  | cons r rs ih =>
    have hstep : t.insertAllIgnore (r :: rs) = (t.insertIgnore r).insertAllIgnore rs := rfl
    rw [hstep, ih, get?_insertIgnore, Option.or_assoc, List.find?_cons]
    by_cases hk : key r = k
    · simp [hk]
    simp [hk, Ne.symm hk]

lemma get?_updateWhere (t : Table R) (p : R → Bool) (f : R → R)
    (hf : ∀ r, key (f r) = key r) (k : K) :
    (t.updateWhere p f hf).get? k = (t.get? k).map (fun r => if p r then f r else r) := by
  have hk : (fun r => decide (key r = k)) ∘ (fun r => if p r then f r else r) =
      fun r => decide (key r = k) := by
    funext r
    by_cases hp : p r <;> simp [hp, hf]
  simp only [updateWhere, get?, List.find?_map, hk]

lemma get?_updateWhere_of_eq (h : ∀ r, key r = k → p r = true) :
    (t.updateWhere p f hf).get? k = (t.get? k).map f := by
  rw [get?_updateWhere]
  exact Option.map_congr fun r hr => if_pos (h r (get?_key (Option.mem_def.mp hr)))

lemma get?_updateWhere_of_ne (h : ∀ r, key r = k → p r = false) :
    (t.updateWhere p f hf).get? k = t.get? k := by
  rw [get?_updateWhere]
  cases hr : t.get? k with
  | none => rfl
  | some r => rw [Option.map_some, h r (get?_key hr), if_neg Bool.false_ne_true]

lemma get?_deleteWhere (t : Table R) (p : R → Bool) (k : K) :
    (t.deleteWhere p).get? k = (t.get? k).filter (fun r => !p r) := by
  ext r
  simp only [get?_eq_some, mem_deleteWhere, Option.filter_eq_some_iff, Bool.not_eq_true']
  tauto

end Keys

end Table

end VonkForge
