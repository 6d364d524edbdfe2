import Mathlib.Data.List.Chain
import Mathlib.Data.List.DropRight

/-!
# Words with a separator between them

`IsWords p sep` is the language of the regular expression `p+(sep p+)*`: words of characters that
satisfy `p`, and one `sep` between any two.

* `Begins` is what holds of all the beginnings of such a text, and `Begins.mono` that it does.
* **`isWords_iff`**: the beginnings that are such a text themselves are those that do not end in a
  separator.
* `isWords_rdropWhile`: what has no two separators in a row is such a text when those at its ends
  are taken away.
-/

set_option autoImplicit false

namespace Words

variable {α : Type*} {p : α → Bool} {sep a c : α} {cs ds : List α}

/-- No two separators are in a row. -/
def Apart (sep : α) (cs : List α) : Prop := cs.IsChain fun c d ↦ c = sep → d ≠ sep

/-- The beginning of a text of words. -/
structure Begins (p : α → Bool) (sep : α) (cs : List α) : Prop where
  /-- It is of characters of words, and of separators. -/
  chars : ∀ c ∈ cs, p c = true ∨ c = sep
  /-- No separator is at the front, and no two are in a row. -/
  apart : Apart sep (sep :: cs)

theorem Begins.mono (h : Begins p sep cs) (hds : ds <+: cs) : Begins p sep ds where
  chars c hc := h.chars c (hds.subset hc)
  apart := by
    obtain ⟨rest, rfl⟩ := hds
    have hapart : Apart sep ((sep :: ds) ++ rest) := h.apart
    exact (List.isChain_append.mp hapart).1

variable [DecidableEq α]

/-- `p+(sep p+)*`. -/
def IsWords (p : α → Bool) (sep : α) (cs : List α) : Prop :=
  ∀ word ∈ cs.splitOn sep, word ≠ [] ∧ ∀ c ∈ word, p c = true

instance : Decidable (IsWords p sep cs) :=
  inferInstanceAs (Decidable (∀ word ∈ cs.splitOn sep, word ≠ [] ∧ ∀ c ∈ word, p c = true))

/-! ## The words of a text, one character at a time -/

theorem not_isWords_nil : ¬ IsWords p sep [] := fun h ↦ (h [] List.mem_cons_self).1 rfl

theorem not_isWords_sep_cons : ¬ IsWords p sep (sep :: cs) := by
  intro h
  rw [IsWords, List.splitOn_cons_eq_if_modifyHead, if_pos (beq_self_eq_true sep)] at h
  exact (h [] List.mem_cons_self).1 rfl

/-- The word that a text goes on with. -/
theorem isWords_cons_iff {word : List α} {words : List (List α)} (hc : c ≠ sep)
    (hsplit : cs.splitOn sep = word :: words) : IsWords p sep (c :: cs) ↔
      p c = true ∧ (∀ x ∈ word, p x = true) ∧
        ∀ w ∈ words, w ≠ [] ∧ ∀ x ∈ w, p x = true := by
  rw [IsWords, List.splitOn_cons_eq_if_modifyHead, if_neg (by simpa using hc), hsplit,
    List.modifyHead_cons, List.forall_mem_cons, List.forall_mem_cons,
    and_iff_right (List.cons_ne_nil c word), and_assoc]

/-- A word that goes on. -/
theorem isWords_cons_cons_iff (ha : a ≠ sep) (hc : c ≠ sep) :
    IsWords p sep (a :: c :: cs) ↔ p a = true ∧ IsWords p sep (c :: cs) := by
  obtain ⟨word, words, hsplit⟩ := List.exists_cons_of_ne_nil (List.splitOn_ne_nil sep cs)
  have hsplit' : (c :: cs).splitOn sep = (c :: word) :: words := by
    rw [List.splitOn_cons_eq_if_modifyHead, if_neg (by simpa using hc), hsplit,
      List.modifyHead_cons]
  rw [isWords_cons_iff ha hsplit', isWords_cons_iff hc hsplit, List.forall_mem_cons, and_assoc]

/-- A word that ends. -/
theorem isWords_cons_sep_cons_iff (ha : a ≠ sep) :
    IsWords p sep (a :: sep :: cs) ↔ p a = true ∧ IsWords p sep cs := by
  have hsplit : (sep :: cs).splitOn sep = [] :: cs.splitOn sep := by
    rw [List.splitOn_cons_eq_if_modifyHead, if_pos (beq_self_eq_true sep)]
  rw [isWords_cons_iff ha hsplit]
  exact and_congr_right' (and_iff_right (List.forall_mem_nil _))

/-- One word. -/
theorem isWords_of_forall (hsep : p sep = false) (hne : cs ≠ []) (h : ∀ c ∈ cs, p c = true) :
    IsWords p sep cs := by
  have hnot : sep ∉ cs := fun hmem ↦ by
    rw [h sep hmem] at hsep
    cases hsep
  rw [IsWords, List.splitOn_eq_singleton hnot, List.forall_mem_singleton]
  exact ⟨hne, h⟩

/-- Some words, and some more. -/
theorem IsWords.append (hcs : IsWords p sep cs) (hds : IsWords p sep ds) :
    IsWords p sep (cs ++ sep :: ds) := by
  rw [IsWords, List.splitOn_append_cons_self]
  exact List.forall_mem_append.mpr ⟨hcs, hds⟩

/-! ## Beginnings -/

/-- What comes after `a`. -/
def After (p : α → Bool) (sep a : α) (cs : List α) : Prop :=
  (∀ c ∈ cs, p c = true ∨ c = sep) ∧ Apart sep (a :: cs) ∧ (a :: cs).getLast? ≠ some sep

theorem after_cons_iff : After p sep a (c :: cs) ↔
    (p c = true ∨ c = sep) ∧ (a = sep → c ≠ sep) ∧ After p sep c cs := by
  rw [After, After, Apart, Apart, List.forall_mem_cons, List.isChain_cons_cons,
    List.getLast?_cons_cons]
  tauto

theorem isWords_iff_after (hsep : p sep = false) (cs : List α) :
    (IsWords p sep cs ↔ After p sep sep cs) ∧
      ∀ a, p a = true → (IsWords p sep (a :: cs) ↔ After p sep a cs) := by
  have hne : ∀ a, p a = true → a ≠ sep := by
    rintro a ha rfl
    rw [hsep] at ha
    cases ha
  induction cs with
  | nil =>
    refine ⟨iff_of_false not_isWords_nil fun h ↦ h.2.2 rfl, fun a ha ↦ iff_of_true ?_ ?_⟩
    · exact (isWords_cons_iff (hne a ha) (List.splitOn_nil sep)).mpr
        ⟨ha, List.forall_mem_nil _, List.forall_mem_nil _⟩
    · exact ⟨List.forall_mem_nil _, List.isChain_singleton a, fun h ↦ hne a ha (by simpa using h)⟩
  | cons c cs ih =>
    obtain ⟨ihSep, ihWord⟩ := ih
    by_cases hc : c = sep
    · subst hc
      refine ⟨iff_of_false not_isWords_sep_cons fun h ↦ (after_cons_iff.mp h).2.1 rfl rfl, ?_⟩
      intro a ha
      rw [isWords_cons_sep_cons_iff (hne a ha), and_iff_right ha, ihSep, after_cons_iff,
        and_iff_right (Or.inr rfl), and_iff_right fun h ↦ absurd h (hne a ha)]
    cases hp : p c with
    | false =>
      -- a character that is in no word
      have hnot : ∀ a, ¬ After p sep a (c :: cs) := fun a h ↦
        (after_cons_iff.mp h).1.elim (fun h ↦ by rw [hp] at h; cases h) hc
      obtain ⟨word, words, hsplit⟩ := List.exists_cons_of_ne_nil (List.splitOn_ne_nil sep cs)
      have hcons : ¬ IsWords p sep (c :: cs) := by
        rw [isWords_cons_iff hc hsplit, hp]
        exact fun h ↦ nomatch h.1
      refine ⟨iff_of_false hcons (hnot sep), fun a ha ↦ iff_of_false (fun h ↦ ?_) (hnot a)⟩
      exact hcons ((isWords_cons_cons_iff (hne a ha) hc).mp h).2
    | true =>
      have hafter : ∀ a, After p sep a (c :: cs) ↔ After p sep c cs := fun a ↦ by
        rw [after_cons_iff, and_iff_right (Or.inl hp), and_iff_right fun _ ↦ hc]
      refine ⟨by rw [ihWord c hp, hafter], fun a ha ↦ ?_⟩
      rw [isWords_cons_cons_iff (hne a ha) hc, and_iff_right ha, ihWord c hp, hafter]

/-- **A beginning is a text of words** unless it ends in a separator, or is empty. -/
theorem isWords_iff (hsep : p sep = false) :
    IsWords p sep cs ↔ Begins p sep cs ∧ (sep :: cs).getLast? ≠ some sep := by
  rw [(isWords_iff_after hsep cs).1]
  exact ⟨fun h ↦ ⟨⟨h.1, h.2.1⟩, h.2.2⟩, fun h ↦ ⟨h.1.chars, h.1.apart, h.2⟩⟩

/-- Separators at both ends taken away. -/
theorem isWords_rdropWhile (hsep : p sep = false) (hchars : ∀ c ∈ cs, p c = true ∨ c = sep)
    (hapart : Apart sep cs) (hne : (cs.dropWhile (· = sep)).rdropWhile (· = sep) ≠ []) :
    IsWords p sep ((cs.dropWhile (· = sep)).rdropWhile (· = sep)) := by
  have hfront : Begins p sep (cs.dropWhile (· = sep)) := by
    refine ⟨fun c hc ↦ hchars c ((List.dropWhile_suffix _).subset hc), ?_⟩
    refine List.isChain_cons.mpr ⟨fun c hc _ ↦ ?_, hapart.suffix (List.dropWhile_suffix _)⟩
    have hhead := List.head?_dropWhile_not (· = sep) cs
    rw [Option.mem_def.mp hc] at hhead
    simpa using hhead
  refine (isWords_iff hsep).mpr ⟨hfront.mono ( List.rdropWhile_prefix _ _), ?_⟩
  have hlast := List.rdropWhile_last_not (· = sep) _ hne
  rw [List.getLast?_cons, List.getLast?_eq_some_getLast hne, Option.getD_some]
  simpa using hlast

end Words
