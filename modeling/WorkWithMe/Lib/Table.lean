import Mathlib.Data.List.Nodup

/-!
# Tables

A table is the list of its rows, in the order in which they were inserted, and a column is a
function on rows.  What a statement of the form `… WHERE col = k` does to a table is here, with
the lemmas that say what a look-up in the same column finds afterwards.  A look-up finds the first
row with the key; where the column is unique that is the only one.

* `Table.lookup_updateAt`, `Table.lookup_deleteAt` and `Table.lookup_concat` are the three rules
  for look-ups.
* `Table.map_updateAt` says that an update leaves every column alone that it does not write, and
  `Table.map_deleteAt` what a deletion leaves of the column it goes by.
-/

set_option autoImplicit false

namespace Table

universe u v w

variable {R : Type u} {K : Type v} {V : Type w} [DecidableEq K] (col : R → K)

/-- `SELECT … WHERE col = k`, for a single row. -/
def lookup (k : K) (t : List R) : Option R := t.find? fun r ↦ col r = k

/-- `UPDATE … WHERE col = k`. -/
def updateAt (k : K) (f : R → R) (t : List R) : List R :=
  t.map fun r ↦ if col r = k then f r else r

/-- `DELETE … WHERE col = k`. -/
def deleteAt (k : K) (t : List R) : List R := t.filter fun r ↦ col r ≠ k

variable {col} {k j : K} {f : R → R} {t : List R} {r : R}

/-! ## Look-ups -/

theorem col_of_lookup (h : lookup col k t = some r) : col r = k := by
  simpa using List.find?_some h

theorem lookup_eq_none_iff : lookup col k t = none ↔ k ∉ t.map col := by
  simp [lookup]

theorem exists_lookup_iff : (∃ r, lookup col k t = some r) ↔ k ∈ t.map col := by
  rw [← Option.isSome_iff_exists, ← not_iff_not, Option.not_isSome_iff_eq_none,
    lookup_eq_none_iff]

@[simp] theorem lookup_nil : lookup col k [] = none := rfl

theorem lookup_concat : lookup col k (t ++ [r]) =
    (lookup col k t).or (if col r = k then some r else none) := by
  rw [lookup, List.find?_append, lookup, List.find?_singleton]
  simp only [decide_eq_true_eq]

/-- What a look-up finds after an update that leaves the column alone. -/
theorem lookup_updateAt (hf : ∀ r, col (f r) = col r) :
    lookup col j (updateAt col k f t) =
      if j = k then (lookup col j t).map f else lookup col j t := by
  induction t with
  | nil => simp [updateAt]
  | cons r t ih =>
    have hcol : col (if col r = k then f r else r) = col r := by
      split
      · exact hf r
      · rfl
    rw [lookup, updateAt, List.map_cons, List.find?_cons, hcol, lookup, List.find?_cons]
    by_cases hr : col r = j
    · subst hr
      simp only [decide_true]
      split <;> simp_all
    · simp only [hr, decide_false]
      exact ih

/-- What a look-up finds after a deletion. -/
theorem lookup_deleteAt :
    lookup col j (deleteAt col k t) = if j = k then none else lookup col j t := by
  induction t with
  | nil => simp [deleteAt]
  | cons r t ih =>
    by_cases hr : col r = k
    · have hdel : deleteAt col k (r :: t) = deleteAt col k t := by simp [deleteAt, hr]
      rw [hdel, ih]
      split
      · rfl
      · rename_i hj
        have hne : col r ≠ j := fun h ↦ hj (h.symm.trans hr)
        simp [lookup, hne]
    · have hdel : deleteAt col k (r :: t) = r :: deleteAt col k t := by simp [deleteAt, hr]
      rw [hdel]
      by_cases hj : col r = j
      · subst hj
        simp [lookup, hr]
      · rw [lookup, List.find?_cons, lookup, List.find?_cons]
        simp only [hj, decide_false]
        exact ih

/-! ## Columns -/

theorem mem_deleteAt : r ∈ deleteAt col k t ↔ r ∈ t ∧ col r ≠ k := by simp [deleteAt]

/-- An update leaves a column alone that it does not write. -/
theorem map_updateAt (g : R → V) (hf : ∀ r, g (f r) = g r) :
    (updateAt col k f t).map g = t.map g := by
  rw [updateAt, List.map_map]
  refine List.map_congr_left fun r _ ↦ ?_
  show g (if col r = k then f r else r) = g r
  split
  · exact hf r
  · rfl

/-- An update that does not touch a property of rows. -/
theorem forall_mem_updateAt {P : R → Prop} (hf : ∀ r, P (f r) ↔ P r) :
    (∀ r ∈ updateAt col k f t, P r) ↔ ∀ r ∈ t, P r := by
  rw [updateAt, List.forall_mem_map]
  refine forall₂_congr fun r _ ↦ ?_
  split
  · exact hf r
  · exact Iff.rfl

theorem map_deleteAt : (deleteAt col k t).map col = (t.map col).filter fun c ↦ c ≠ k := by
  rw [deleteAt, List.filter_map]
  rfl

/-- A deletion by the first of two columns of which the pair is known. -/
theorem map_deleteAt_of_fst (g : R → K × V) (hg : ∀ r, (g r).1 = col r) :
    (deleteAt col k t).map g = (t.map g).filter fun c ↦ c.1 ≠ k := by
  rw [deleteAt, List.filter_map]
  congr 2
  funext r
  simp [hg]

/-- A row with a new key keeps a column unique. -/
theorem nodup_concat {g : R → V} (h : (t.map g).Nodup) (hr : g r ∉ t.map g) :
    ((t ++ [r]).map g).Nodup := by
  rw [List.map_append, List.nodup_append]
  refine ⟨h, List.nodup_singleton _, fun a ha b hb hab ↦ hr ?_⟩
  rw [List.map_singleton, List.mem_singleton] at hb
  exact hb ▸ hab ▸ ha

/-- Deleting keeps a column unique. -/
theorem nodup_deleteAt {g : R → V} (h : (t.map g).Nodup) : ((deleteAt col k t).map g).Nodup :=
  (List.filter_sublist.map g).nodup h

end Table
