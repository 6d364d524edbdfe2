import Mathlib.Data.List.Infix
import Mathlib.Logic.Function.Iterate

/-!
# A history of bounded length

A value together with those it had before, of which only the last are kept.

* `length_stack_push_le`: there are never more of them than the bound says.
* **`current_undo_iterate_push`**: as many changes as are kept can be taken back.
-/

set_option autoImplicit false

universe u

/-- A value, and those it had before, the last one at the end. -/
structure History (σ : Type u) where
  /-- The value. -/
  current : σ
  /-- The values it had before. -/
  stack : List σ

namespace History

variable {σ : Type u} {cap : ℕ} {h : History σ}

/-- The value changes.  Not more than `cap` values are kept. -/
def push (cap : ℕ) (h : History σ) (v : σ) : History σ :=
  ⟨v, h.stack.drop (h.stack.length - (cap - 1)) ++ [h.current]⟩

/-- The last change is taken back. -/
def undo (h : History σ) : History σ :=
  match h.stack.getLast? with
  | none => h
  | some prev => ⟨prev, h.stack.dropLast⟩

theorem length_stack_push_le (hcap : 0 < cap) (h : History σ) (v : σ) :
    (h.push cap v).stack.length ≤ cap := by
  rw [push, List.length_append, List.length_drop, List.length_singleton]
  omega

theorem length_stack_undo_le (h : History σ) : h.undo.stack.length ≤ h.stack.length := by
  rw [undo]
  split
  · exact le_rfl
  · rw [List.length_dropLast]
    exact Nat.sub_le _ _

/-- What was there before a number of changes is at the end of the values kept. -/
theorem suffix_foldl_push {kept : List σ} (hkept : kept <:+ h.stack) (vs : List σ)
    (hlength : kept.length + vs.length ≤ cap) :
    kept ++ (h.current :: vs).dropLast <:+ (vs.foldl (push cap) h).stack := by
  induction vs generalizing h kept with
  | nil => simpa using hkept
  | cons v vs ih =>
    rw [List.length_cons] at hlength
    have hdrop : kept <:+ h.stack.drop (h.stack.length - (cap - 1)) := by
      refine List.suffix_of_suffix_length_le hkept (List.drop_suffix _ _) ?_
      have := hkept.length_le
      rw [List.length_drop]
      omega
    have hpush : kept ++ [h.current] <:+ (h.push cap v).stack := by
      obtain ⟨before, hbefore⟩ := hdrop
      exact ⟨before, by rw [push, ← hbefore, List.append_assoc]⟩
    have hrest := ih hpush (by rw [List.length_append, List.length_singleton]; omega)
    rwa [List.append_assoc] at hrest

/-- Taking back as many changes as there are values at the end. -/
theorem current_undo_iterate {kept : List σ} (hkept : kept <:+ h.stack) :
    (undo^[kept.length] h).current = kept.head?.getD h.current := by
  induction kept using List.reverseRecOn generalizing h with
  | nil => rfl
  | append_singleton kept v ih =>
    obtain ⟨before, hbefore⟩ := hkept
    have hundo : h.undo = ⟨v, before ++ kept⟩ := by
      rw [undo, ← hbefore, ← List.append_assoc, List.getLast?_concat, List.dropLast_concat]
    rw [List.length_append, List.length_singleton, Function.iterate_succ_apply, hundo,
      ih (List.suffix_append before kept), List.head?_append]
    cases kept <;> rfl

/-- **As many changes as are kept can be taken back.** -/
theorem current_undo_iterate_push {vs : List σ} (hlength : vs.length ≤ cap) :
    (undo^[vs.length] (vs.foldl (push cap) h)).current = h.current := by
  have hsuffix := suffix_foldl_push (h := h) List.nil_suffix vs (by simpa using hlength)
  rw [List.nil_append] at hsuffix
  have hundo := current_undo_iterate hsuffix
  rw [List.length_dropLast, List.length_cons, Nat.add_sub_cancel] at hundo
  rw [hundo]
  cases vs <;> rfl

end History
