import Mathlib.Data.List.Perm.Basic

/-!
# Grouping

`group key l` puts the entries of a list into groups, one for each key, in the order in which the
keys and the entries of a key come up.  A key can fail to be there, and then the whole grouping
fails.

* `group_eq_none_iff` says when it fails, and `entries_perm_of_group` that otherwise every entry is
  in the group of its key, and nowhere else.
-/

set_option autoImplicit false

namespace Grouping

universe u v

variable {κ : Type u} {α : Type v} [DecidableEq κ]

/-- Put an entry at the end of its group. -/
def push (k : κ) (a : α) : List (κ × List α) → List (κ × List α)
  | [] => [(k, [a])]
  | (j, as) :: gs => if j = k then (j, as ++ [a]) :: gs else (j, as) :: push k a gs

/-- The entries of the groups, with their keys. -/
def entries (gs : List (κ × List α)) : List (κ × α) := gs.flatMap fun g ↦ g.2.map (Prod.mk g.1)

/-- The groups of a list. -/
def group (key : α → Option κ) (l : List α) : Option (List (κ × List α)) :=
  l.foldlM (fun gs a ↦ (key a).map fun k ↦ push k a gs) []

/-- What is in no group yet is added to the entries. -/
theorem entries_push_perm (k : κ) (a : α) (gs : List (κ × List α)) :
    (entries (push k a gs)).Perm ((k, a) :: entries gs) := by
  induction gs with
  | nil => exact List.Perm.refl _
  | cons g gs ih =>
    obtain ⟨j, as⟩ := g
    rw [push]
    split
    · rename_i hj
      subst hj
      simp only [entries, List.flatMap_cons, List.map_append, List.map_cons, List.map_nil,
        List.append_assoc, List.singleton_append]
      exact List.perm_middle
    · have hstep : (entries ((j, as) :: push k a gs)).Perm
          (as.map (Prod.mk j) ++ (k, a) :: entries gs) := ih.append_left _
      exact hstep.trans List.perm_middle

variable {key : α → Option κ} {l : List α} {gs : List (κ × List α)}

theorem foldlM_push_eq_none_iff (acc : List (κ × List α)) :
    l.foldlM (fun gs a ↦ (key a).map fun k ↦ push k a gs) acc = none ↔ ∃ a ∈ l, key a = none := by
  induction l generalizing acc with
  | nil => simp
  | cons a l ih =>
    rw [List.foldlM_cons]
    cases hk : key a with
    | none => simp [hk]
    | some k => simpa [hk] using ih (push k a acc)

theorem entries_perm_of_foldlM {acc : List (κ × List α)}
    (h : l.foldlM (fun gs a ↦ (key a).map fun k ↦ push k a gs) acc = some gs) :
    (entries gs).Perm (entries acc ++ l.filterMap fun a ↦ (key a).map fun k ↦ (k, a)) := by
  induction l generalizing acc with
  | nil =>
    cases h
    rw [List.filterMap_nil, List.append_nil]
  | cons a l ih =>
    rw [List.foldlM_cons] at h
    cases hk : key a with
    | none => rw [hk] at h; cases h
    | some k =>
      rw [hk] at h
      have hpush : (entries gs).Perm (entries (push k a acc) ++ _) := ih h
      refine hpush.trans (((entries_push_perm k a acc).append_right _).trans ?_)
      rw [List.filterMap_cons, hk]
      exact List.perm_middle.symm

/-- A grouping fails when the key of an entry is not there. -/
theorem group_eq_none_iff : group key l = none ↔ ∃ a ∈ l, key a = none :=
  foldlM_push_eq_none_iff []

/-- **Every entry is in the group of its key.** -/
theorem entries_perm_of_group (h : group key l = some gs) :
    (entries gs).Perm (l.filterMap fun a ↦ (key a).map fun k ↦ (k, a)) :=
  entries_perm_of_foldlM h

end Grouping
