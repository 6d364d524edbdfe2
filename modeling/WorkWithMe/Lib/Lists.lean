import Mathlib.Data.List.Basic
import Mathlib.Data.List.Range

/-!
# What is picked from a list, and its last entry of a kind

`List.filterMap` picks something from some entries of a list.  The lemmas compare two ways to pick:
`Lists.filterMap_eq_of_map_eq` for two lists that agree entry by entry in what matters, and
`Lists.filterMap_eq_filterMap_iff` for one list of which the first way picks less.
`Lists.filterMap_take_eq_iff` says when it makes no difference whether one takes the first few
entries before or after picking.

`Lists.modifyLast p f` updates the last entry that `p` holds of.  `Lists.modifyLast_append_cons`
says what comes out when that entry is in sight, `Lists.modifyLast_of_forall_not` when there is
none, and `Lists.modifyLast_eq_self_iff` when nothing changes.

`Lists.chunks` cuts a list into pieces of a length; `Lists.zipIdx_chunks` has them by their numbers.
-/

set_option autoImplicit false

namespace Lists

variable {α β γ δ : Type}

/-- Two lists that agree entry by entry. -/
theorem filterMap_eq_of_map_eq {l : List α} {m : List β} {f : α → γ} {g : β → γ}
    {u : α → Option δ} {v : β → Option δ} (hfg : l.map f = m.map g)
    (huv : ∀ a ∈ l, ∀ b ∈ m, f a = g b → u a = v b) : l.filterMap u = m.filterMap v := by
  induction l generalizing m with
  | nil => rw [List.map_eq_nil_iff.mp hfg.symm]; rfl
  | cons a l ih =>
    cases m with
    | nil => cases hfg
    | cons b m =>
      obtain ⟨hab, hlm⟩ := List.cons.inj hfg
      rw [List.filterMap_cons, List.filterMap_cons, huv a List.mem_cons_self b List.mem_cons_self
        hab, ih hlm fun a' ha' b' hb' ↦ huv a' (List.mem_cons_of_mem a ha') b'
          (List.mem_cons_of_mem b hb')]

/-- A list of which less is kept is shorter. -/
theorem length_filterMap_le {f g : α → Option β} {l : List α}
    (h : ∀ x ∈ l, (f x).isSome = true → (g x).isSome = true) :
    (l.filterMap f).length ≤ (l.filterMap g).length := by
  induction l with
  | nil => exact Nat.le_refl 0
  | cons x l ih =>
    obtain ⟨hx, hl⟩ := List.forall_mem_cons.mp h
    have hle := ih hl
    rw [List.filterMap_cons, List.filterMap_cons]
    cases hf : f x with
    | none => cases g x with
      | none => exact hle
      | some b => exact Nat.le_succ_of_le hle
    | some a =>
      obtain ⟨b, hb⟩ := Option.isSome_iff_exists.mp (hx (by rw [hf]; rfl))
      rw [hb]
      exact Nat.succ_le_succ hle

/-- **Nothing lost.**  Of two ways to pick from a list, the one that picks from no more entries
comes to the same only when it does so at every entry. -/
theorem filterMap_eq_filterMap_iff {f g : α → Option β} {l : List α}
    (h : ∀ x ∈ l, (f x).isSome = true → (g x).isSome = true) :
    l.filterMap f = l.filterMap g ↔ ∀ x ∈ l, f x = g x := by
  refine ⟨fun heq ↦ ?_, fun heq ↦ List.filterMap_congr heq⟩
  induction l with
  | nil => simp
  | cons x l ih =>
    obtain ⟨hx, hl⟩ := List.forall_mem_cons.mp h
    have hle := length_filterMap_le hl
    rw [List.filterMap_cons, List.filterMap_cons] at heq
    cases hf : f x with
    | none =>
      cases hg : g x with
      | none =>
        rw [hf, hg] at heq
        exact List.forall_mem_cons.mpr ⟨hf.trans hg.symm, ih hl heq⟩
      | some b =>
        rw [hf, hg] at heq
        have := congrArg List.length heq
        simp only [List.length_cons] at this
        omega
    | some a =>
      obtain ⟨b, hb⟩ := Option.isSome_iff_exists.mp (hx (by rw [hf]; rfl))
      rw [hf, hb] at heq
      obtain ⟨rfl, htail⟩ := List.cons.inj heq
      exact List.forall_mem_cons.mpr ⟨hf.trans hb.symm, ih hl htail⟩

/-- **Limiting before or after picking.**  The first entries of what is picked are what is picked
from the first entries if and only if something is picked from each of these, or nothing from the
rest. -/
theorem filterMap_take_eq_iff {f : α → Option β} {l : List α} {n : ℕ} :
    (l.take n).filterMap f = (l.filterMap f).take n ↔
      (∀ x ∈ l.take n, (f x).isSome = true) ∨ ∀ x ∈ l.drop n, f x = none := by
  have hsplit : l.filterMap f = (l.take n).filterMap f ++ (l.drop n).filterMap f := by
    rw [← List.filterMap_append, List.take_append_drop]
  have hle : ((l.take n).filterMap f).length ≤ (l.take n).length := List.length_filterMap_le f _
  have htake : (l.take n).length ≤ n := List.length_take_le n l
  have hrest : (l.take n).filterMap f = (l.filterMap f).take n ↔
      n ≤ ((l.take n).filterMap f).length ∨ (l.drop n).filterMap f = [] := by
    rw [hsplit, List.take_append, List.take_of_length_le (hle.trans htake),
      List.self_eq_append_right, List.take_eq_nil_iff, Nat.sub_eq_zero_iff_le]
  rw [hrest, List.filterMap_eq_nil_iff, ← List.filterMap_length_eq_length]
  constructor
  · rintro (hlong | hnone)
    · exact .inl (le_antisymm hle (htake.trans hlong))
    · exact .inr hnone
  · rintro (hall | hnone)
    · by_cases hn : n ≤ l.length
      · exact .inl (by rw [hall, List.length_take, min_eq_left hn])
      · rw [List.drop_eq_nil_of_le (Nat.le_of_not_le hn)]
        exact .inr (List.forall_mem_nil _)
    · exact .inr hnone

/-- Nothing is left out and nothing changed. -/
theorem filterMap_eq_self_iff {f : α → Option α} {l : List α} :
    l.filterMap f = l ↔ ∀ x ∈ l, f x = some x := by
  have h := filterMap_eq_filterMap_iff (f := f) (g := some) (l := l) fun _ _ _ ↦ rfl
  rwa [List.filterMap_some] at h

/-- Nothing changes. -/
theorem map_eq_self_iff {f : α → α} {l : List α} : l.map f = l ↔ ∀ x ∈ l, f x = x := by
  simpa using List.map_inj_left (f := f) (g := id) (l := l)

/-! ## The last entry of a kind -/

section Last

variable {p : α → Bool} {f : α → α}

/-- Update the last entry that `p` holds of, if there is one. -/
def modifyLast (p : α → Bool) (f : α → α) : List α → List α
  | [] => []
  | a :: l =>
    if l.any p then a :: modifyLast p f l
    else if p a then f a :: l
    else a :: l

theorem modifyLast_of_forall_not {l : List α} (h : ∀ a ∈ l, p a = false) :
    modifyLast p f l = l := by
  induction l with
  | nil => rfl
  | cons a l _ =>
    obtain ⟨ha, hl⟩ := List.forall_mem_cons.mp h
    rw [modifyLast, if_neg (by simpa using hl), if_neg (by simp [ha])]

theorem modifyLast_append {r : List α} (hr : r.any p = true) (l : List α) :
    modifyLast p f (l ++ r) = l ++ modifyLast p f r := by
  induction l with
  | nil => rfl
  | cons a l ih =>
    rw [List.cons_append, modifyLast, if_pos (by rw [List.any_append, hr, Bool.or_true]), ih,
      List.cons_append]

theorem modifyLast_append_cons {a : α} {r : List α} (ha : p a = true)
    (hr : ∀ b ∈ r, p b = false) (l : List α) :
    modifyLast p f (l ++ a :: r) = l ++ f a :: r := by
  rw [modifyLast_append (by rw [List.any_cons, ha, Bool.true_or]), modifyLast,
    if_neg (by simpa using hr), if_pos ha]

/-- An entry of the updated list is one of the list, or that one updated. -/
theorem mem_modifyLast {b : α} {l : List α} (h : b ∈ modifyLast p f l) :
    b ∈ l ∨ ∃ a ∈ l, p a = true ∧ b = f a := by
  induction l with
  | nil => cases h
  | cons c l ih =>
    rw [modifyLast] at h
    split at h
    · rcases List.mem_cons.mp h with rfl | h
      · exact Or.inl List.mem_cons_self
      · rcases ih h with hb | ⟨a, ha, hb⟩
        · exact Or.inl (List.mem_cons_of_mem c hb)
        · exact Or.inr ⟨a, List.mem_cons_of_mem c ha, hb⟩
    · split at h
      · rename_i hc
        rcases List.mem_cons.mp h with rfl | h
        · exact Or.inr ⟨c, List.mem_cons_self, hc, rfl⟩
        · exact Or.inl (List.mem_cons_of_mem c h)
      · exact Or.inl h

/-- Nothing changes if and only if nothing does in that entry. -/
theorem modifyLast_eq_self_iff {l : List α} :
    modifyLast p f l = l ↔ ∀ a, l.reverse.find? p = some a → f a = a := by
  induction l with
  | nil => simp [modifyLast]
  | cons b l ih =>
    rw [modifyLast, List.reverse_cons, List.find?_append]
    split
    · rename_i hl
      obtain ⟨c, hc⟩ : ∃ c, l.reverse.find? p = some c := by
        rw [← Option.isSome_iff_exists, List.find?_isSome]
        simpa using hl
      rw [hc, Option.some_or, ← hc, ← ih, List.cons_inj_right]
    · rename_i hl
      have hnone : l.reverse.find? p = none := by simpa using hl
      rw [hnone, Option.none_or, List.find?_singleton]
      split
      · simp
      · simp

end Last

/-! ## Pieces of a list -/

section Chunks

variable {size : ℕ}

/-- The pieces of a list that are `size` entries long; the last one may be shorter. -/
def chunks (size : ℕ) (l : List α) : List (List α) :=
  (List.range ((l.length + size - 1) / size)).map fun i ↦ (l.drop (i * size)).take size

/-- The pieces with their numbers. -/
theorem zipIdx_chunks (size : ℕ) (l : List α) :
    (chunks size l).zipIdx = (List.range ((l.length + size - 1) / size)).map fun i ↦
      ((l.drop (i * size)).take size, i) := by
  refine List.ext_getElem (by simp [chunks]) fun i hi hi' ↦ ?_
  simp only [chunks, List.getElem_zipIdx, List.getElem_map, List.getElem_range, Nat.zero_add]

/-- A piece begins before the end of the list. -/
theorem mul_lt_of_lt_chunks {n i : ℕ} (hsize : 0 < size) (hi : i < (n + size - 1) / size) :
    i * size < n := by
  have h := (Nat.le_div_iff_mul_le hsize).mp (Nat.succ_le_of_lt hi)
  rw [Nat.succ_mul] at h
  omega

/-- The pieces reach the end of the list. -/
theorem le_chunks_mul (n : ℕ) (hsize : 0 < size) : n ≤ (n + size - 1) / size * size := by
  have h := Nat.div_add_mod (n + size - 1) size
  have hlt := Nat.mod_lt (n + size - 1) hsize
  rw [Nat.mul_comm] at h
  omega

/-- Some more pieces do not matter. -/
theorem flatten_chunks_of_le {n : ℕ} (l : List α) (h : l.length ≤ n * size) :
    ((List.range n).map fun i ↦ (l.drop (i * size)).take size).flatten = l := by
  induction n generalizing l with
  | zero => simpa using h
  | succ n ih =>
    rw [List.range_succ_eq_map, List.map_cons, List.map_map, List.flatten_cons]
    have hrest := ih (l.drop size) (by rw [List.length_drop]; rw [Nat.succ_mul] at h; omega)
    simp only [List.drop_drop] at hrest
    simp only [Function.comp_def, Nat.succ_mul, Nat.add_comm _ size, Nat.zero_mul, List.drop_zero]
    rw [hrest, List.take_append_drop]

/-- **The pieces are the list.** -/
theorem flatten_chunks (hsize : 0 < size) (l : List α) : (chunks size l).flatten = l :=
  flatten_chunks_of_le l (le_chunks_mul l.length hsize)

end Chunks

end Lists
