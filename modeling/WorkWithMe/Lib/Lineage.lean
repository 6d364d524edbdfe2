import Mathlib.Data.List.Infix
import Mathlib.Data.List.Nodup

/-!
# Logs in which records name their parents

Records are only ever added to the end of a log.  Each has a name of its own, and names the record
that it goes on from, its parent, or none, so that a log holds a forest.

* `Grown` says that a log came about in this way.
* `lineage` are the records that lead from a root to the record of a given name.  It takes one pass
  over the log, from its end, as parents come before their children.
* `lineage_of_mem` is what a search from child to parent rests on.
* A log is `Straight` if each record goes on from the one before it.  Then the lineage of the last
  record is the whole log, and `Grown.straight_iff` says that this is so exactly if no two records
  have the same parent.
-/

set_option autoImplicit false

namespace Lineage

universe u v

variable {α : Type u} {κ : Type v} {name : α → κ} {parent : α → Option κ}

/-! ## Logs -/

variable (name parent) in
/-- Each record has a new name, and its parent is there already. -/
inductive Grown : List α → Prop
  | nil : Grown []
  | concat {l : List α} {a : α} (h : Grown l) (hnew : name a ∉ l.map name)
      (hparent : ∀ k ∈ parent a, k ∈ l.map name) : Grown (l ++ [a])

variable {l l' : List α} {a b : α} {k : Option κ}

theorem Grown.concat_iff : Grown name parent (l ++ [a]) ↔ Grown name parent l ∧
    name a ∉ l.map name ∧ ∀ k ∈ parent a, k ∈ l.map name := by
  refine ⟨fun h ↦ ?_, fun h ↦ .concat h.1 h.2.1 h.2.2⟩
  generalize hl : l ++ [a] = l' at h
  cases h with
  | nil => simp at hl
  | concat h hnew hparent =>
    obtain ⟨rfl, ha⟩ := List.append_inj' hl rfl
    cases ha
    exact ⟨h, hnew, hparent⟩

theorem Grown.of_append (h : Grown name parent (l ++ l')) : Grown name parent l := by
  induction l' using List.reverseRecOn with
  | nil => rwa [List.append_nil] at h
  | append_singleton l' a ih =>
    rw [← List.append_assoc] at h
    exact ih (Grown.concat_iff.mp h).1

theorem Grown.nodup (h : Grown name parent l) : (l.map name).Nodup := by
  induction h with
  | nil => exact List.nodup_nil
  | concat h hnew _ ih =>
    rw [List.map_append, List.map_singleton, ← List.concat_eq_append]
    exact ih.concat hnew

theorem Grown.parent_mem (h : Grown name parent l) (ha : a ∈ l) : ∀ k ∈ parent a, k ∈ l.map name := by
  induction h with
  | nil => simp at ha
  | concat h _ hparent ih =>
    intro k hk
    rw [List.map_append, List.mem_append]
    rcases List.mem_append.mp ha with ha | ha
    · exact .inl (ih ha k hk)
    · obtain rfl := List.mem_singleton.mp ha
      exact .inl (hparent k hk)

/-! ## Straight logs -/

variable (name parent) in
/-- Each record goes on from the one before it, and the first one from none. -/
def Straight (l : List α) : Prop :=
  ∀ pre a post, l = pre ++ a :: post → parent a = pre.getLast?.map name

theorem straight_nil : Straight name parent ([] : List α) := by
  rintro pre a post h
  simp at h

theorem straight_concat_iff : Straight name parent (l ++ [a]) ↔
    Straight name parent l ∧ parent a = l.getLast?.map name := by
  constructor
  · refine fun h ↦ ⟨fun pre b post hl ↦ h pre b (post ++ [a]) (by simp [hl]), h l a [] rfl⟩
  · rintro ⟨h, ha⟩ pre b post hl
    rcases List.eq_nil_or_concat' post with rfl | ⟨post, c, rfl⟩
    · obtain ⟨rfl, hb⟩ := List.append_inj' hl rfl
      cases hb
      exact ha
    · rw [← List.cons_append, ← List.append_assoc] at hl
      exact h pre b post (List.append_inj' hl rfl).1

/-- No other record has the name of the last one. -/
theorem getLast?_ne_of_nodup (h : ((l ++ a :: l').map name).Nodup) :
    l.getLast?.map name ≠ (l ++ a :: l').getLast?.map name := by
  obtain ⟨l', b, hl'⟩ := (List.eq_nil_or_concat' (a :: l')).resolve_left (List.cons_ne_nil _ _)
  rw [hl', ← List.append_assoc] at h ⊢
  rw [List.map_append, List.map_singleton, ← List.concat_eq_append, List.nodup_concat] at h
  rw [List.getLast?_concat]
  intro heq
  obtain ⟨c, hc, hcb⟩ := Option.map_eq_some_iff.mp heq
  exact h.1 (List.mem_map.mpr ⟨c, List.mem_append_left _ (List.mem_of_getLast? hc), hcb⟩)

/-- **A log is straight if no record is the parent of two**, nor two records have none. -/
theorem Grown.straight_iff (h : Grown name parent l) :
    Straight name parent l ↔ (l.map parent).Nodup := by
  induction h with
  | nil => simp [straight_nil]
  | @concat l a h hnew hparent ih =>
    rw [straight_concat_iff, List.map_append, List.map_singleton, ← List.concat_eq_append,
      List.nodup_concat, ← ih]
    rw [and_comm (a := parent a ∉ _)]
    refine and_congr_right fun hl ↦ ⟨fun ha hmem ↦ ?_, fun hmem ↦ ?_⟩
    · obtain ⟨b, hb, hba⟩ := List.mem_map.mp hmem
      obtain ⟨pre, post, rfl⟩ := List.append_of_mem hb
      have hlast := (hl pre b post rfl).symm.trans (hba.trans ha)
      exact getLast?_ne_of_nodup h.nodup hlast
    · cases hk : parent a with
      | none =>
        cases l with
        | nil => rfl
        | cons b l => exact absurd (by simp [hk, hl [] b l rfl]) hmem
      | some n =>
        obtain ⟨c, hc, rfl⟩ := List.mem_map.mp (hparent n hk)
        obtain ⟨pre, post, rfl⟩ := List.append_of_mem hc
        cases post with
        | nil => simp
        | cons d post =>
          have hd := hl (pre ++ [c]) d post (by simp)
          exact absurd (by simp [hk, hd]) hmem

/-! ## Lineages -/

variable [DecidableEq κ]

variable (name parent) in
/-- What leads to the record of this name, in a log with its last record in front. -/
def lineageRev : List α → Option κ → List α
  | [], _ => []
  | a :: l, k => if k = some (name a) then lineageRev l (parent a) ++ [a] else lineageRev l k

variable (name parent) in
/-- **What leads to the record of this name**, that record included. -/
def lineage (l : List α) (k : Option κ) : List α := lineageRev name parent l.reverse k

@[simp] theorem lineage_nil : lineage name parent [] k = [] := rfl

theorem lineage_concat : lineage name parent (l ++ [a]) k =
    if k = some (name a) then lineage name parent l (parent a) ++ [a]
    else lineage name parent l k := by
  rw [lineage, List.reverse_append, List.reverse_singleton, List.singleton_append, lineageRev]
  rfl

/-- No record leads to none. -/
@[simp] theorem lineage_none : lineage name parent l none = [] := by
  induction l using List.reverseRecOn with
  | nil => rfl
  | append_singleton l a ih => rw [lineage_concat, if_neg (by simp), ih]

/-- What is added to a log leads to nothing that was there. -/
theorem lineage_append_of_mem {n : κ} (h : Grown name parent (l ++ l')) (hn : n ∈ l.map name) :
    lineage name parent (l ++ l') (some n) = lineage name parent l (some n) := by
  induction l' using List.reverseRecOn with
  | nil => rw [List.append_nil]
  | append_singleton l' a ih =>
    rw [← List.append_assoc] at h ⊢
    obtain ⟨h, hnew, -⟩ := Grown.concat_iff.mp h
    rw [lineage_concat, if_neg, ih h]
    rintro ⟨⟩
    exact hnew (by simpa using .inl (by simpa using hn))

theorem lineage_append_of_forall (h : Grown name parent (l ++ l'))
    (hk : ∀ n ∈ k, n ∈ l.map name) :
    lineage name parent (l ++ l') k = lineage name parent l k := by
  cases k with
  | none => rw [lineage_none, lineage_none]
  | some n => exact lineage_append_of_mem h (hk n rfl)

/-- **From child to parent.** -/
theorem lineage_of_mem (h : Grown name parent l) (ha : a ∈ l) :
    lineage name parent l (some (name a)) = lineage name parent l (parent a) ++ [a] := by
  induction h with
  | nil => simp at ha
  | @concat l b h hnew hparent ih =>
    have hgrown := h.concat hnew hparent
    rcases List.mem_append.mp ha with ha | ha
    · rw [lineage_append_of_mem hgrown (List.mem_map_of_mem ha),
        lineage_append_of_forall hgrown (h.parent_mem ha), ih ha]
    · obtain rfl := List.mem_singleton.mp ha
      rw [lineage_concat, if_pos rfl, lineage_append_of_forall hgrown hparent]

/-- Nothing leads to a record that is not there. -/
theorem lineage_of_notMem {n : κ} (hn : n ∉ l.map name) : lineage name parent l (some n) = [] := by
  induction l using List.reverseRecOn with
  | nil => rfl
  | append_singleton l a ih =>
    rw [List.map_append, List.mem_append, not_or] at hn
    rw [lineage_concat, if_neg (fun h ↦ hn.2 (by simpa using h)), ih hn.1]

theorem lineage_sublist (l : List α) (k : Option κ) : (lineage name parent l k).Sublist l := by
  induction l using List.reverseRecOn generalizing k with
  | nil => exact List.Sublist.refl _
  | append_singleton l a ih =>
    rw [lineage_concat]
    split
    · exact (ih _).append_right [a]
    · exact (ih _).trans (List.sublist_append_left ..)

/-- The last one of a lineage is the record that was asked for. -/
theorem getLast?_lineage (h : Grown name parent l) {n : κ} (hn : n ∈ l.map name) :
    (lineage name parent l (some n)).getLast?.map name = some n := by
  obtain ⟨a, ha, rfl⟩ := List.mem_map.mp hn
  simp [lineage_of_mem h ha]

/-- **Each record of a lineage goes on from the one before it**, and the first one from none. -/
theorem parent_of_lineage (h : Grown name parent l) {pre post : List α}
    (hl : lineage name parent l k = pre ++ a :: post) : parent a = pre.getLast?.map name ∧
      lineage name parent l (some (name a)) = pre ++ [a] := by
  induction l using List.reverseRecOn generalizing k post with
  | nil => simp at hl
  | append_singleton l b ih =>
    obtain ⟨hgrown, hnew, hparent⟩ := Grown.concat_iff.mp h
    have hprev {k' : Option κ} {post' : List α}
        (hl' : lineage name parent l k' = pre ++ a :: post') : parent a = pre.getLast?.map name ∧
          lineage name parent (l ++ [b]) (some (name a)) = pre ++ [a] := by
      have ha : a ∈ lineage name parent l k' := hl' ▸ List.mem_append_right _ List.mem_cons_self
      replace ha := (lineage_sublist l k').subset ha
      rw [lineage_append_of_mem h (List.mem_map_of_mem ha)]
      exact ih hgrown hl'
    rw [lineage_concat] at hl
    split at hl
    · rcases List.eq_nil_or_concat' post with rfl | ⟨post, c, rfl⟩
      · obtain ⟨hpre, hb⟩ := List.append_inj' hl rfl
        obtain rfl : b = a := List.head_eq_of_cons_eq hb
        refine ⟨?_, by rw [lineage_concat, if_pos rfl, hpre]⟩
        rw [← hpre]
        cases hk : parent b with
        | none => rw [lineage_none]; rfl
        | some n => exact (getLast?_lineage hgrown (hparent n hk)).symm
      · rw [← List.cons_append, ← List.append_assoc] at hl
        exact hprev (List.append_inj' hl rfl).1
    · exact hprev hl

theorem straight_lineage (h : Grown name parent l) (k : Option κ) :
    Straight name parent (lineage name parent l k) :=
  fun _ _ _ hl ↦ (parent_of_lineage h hl).1

/-- **The whole of a straight log leads to its last record.** -/
theorem lineage_of_straight (h : Straight name parent l) :
    lineage name parent l (l.getLast?.map name) = l := by
  induction l using List.reverseRecOn with
  | nil => rfl
  | append_singleton l a ih =>
    obtain ⟨h, ha⟩ := straight_concat_iff.mp h
    rw [List.getLast?_concat, Option.map_some, lineage_concat, if_pos rfl, ha, ih h]

/-- What comes first in a straight log leads to each of its records. -/
theorem lineage_straight_append (hgrown : Grown name parent (l ++ a :: l'))
    (h : Straight name parent (l ++ a :: l')) :
    lineage name parent (l ++ a :: l') (some (name a)) = l ++ [a] := by
  have hall := lineage_of_straight h
  exact (parent_of_lineage hgrown hall).2

end Lineage
