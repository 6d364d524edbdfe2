import Mathlib

/-!
# Looking for a text within another

Whether a text contains another is `List.IsInfix`, and `Search.contains` finds it out.  What is
looked for lies on one side of a character that it does not have, which is how the lemmas take the
other text apart.

* `Search.infix_append_cons_iff` is that for one character, and `Search.infix_append_append_iff` for
  a stretch of them.
* `Search.Lowercase` is what the lower-case letters of Unicode do with those of ASCII, and
  **`Search.infix_toLowercase_iff`** that a text of ASCII is found among lower-case letters if and
  only if it is found when only those of ASCII are made lower case: but for `i` and `k`, which are
  the lower case of other letters too.
-/

set_option autoImplicit false

namespace Search

universe u

variable {α : Type u} {p a b s : List α} {c : α}

/-- `str::contains`: whether a text stands somewhere in another. -/
def contains [DecidableEq α] (p : List α) : List α → Bool
  | [] => p = []
  | c :: cs => p.isPrefixOf (c :: cs) || contains p cs

theorem contains_iff [DecidableEq α] : contains p a = true ↔ p <:+: a := by
  induction a with
  | nil => rw [contains, decide_eq_true_iff, List.infix_nil]
  | cons c a ih =>
    rw [contains, Bool.or_eq_true, List.isPrefixOf_iff_prefix, ih, List.infix_cons_iff]

/-! ## On one side of a character -/

/-- A beginning that does not have a character ends before it. -/
theorem prefix_append_cons_iff (hc : c ∉ p) : p <+: a ++ c :: b ↔ p <+: a := by
  refine ⟨fun h ↦ ?_, fun h ↦ h.trans (List.prefix_append a _)⟩
  rcases Nat.lt_or_ge a.length p.length with hlt | hle
  · -- the text would reach beyond the character
    obtain ⟨t, ht⟩ : a ++ [c] <+: p := by
      refine List.prefix_of_prefix_length_le ⟨b, by simp⟩ h ?_
      rw [List.length_append, List.length_singleton]
      exact hlt
    refine absurd ?_ hc
    rw [← ht]
    simp
  · exact List.prefix_of_prefix_length_le h (List.prefix_append a _) hle

/-- **A text that does not have a character** stands before or behind it. -/
theorem infix_append_cons_iff (hc : c ∉ p) : p <:+: a ++ c :: b ↔ p <:+: a ∨ p <:+: b := by
  induction a with
  | nil =>
    rw [List.nil_append, List.infix_cons_iff]
    have hnil := prefix_append_cons_iff (a := []) (b := b) hc
    rw [List.nil_append] at hnil
    rw [hnil, List.prefix_nil, List.infix_nil]
  | cons d a ih =>
    rw [List.cons_append, List.infix_cons_iff, ih, ← List.cons_append, prefix_append_cons_iff hc,
      List.infix_cons_iff, or_assoc]

/-- It does not begin among characters that it does not have. -/
theorem infix_of_infix_append (hp : ∀ c ∈ s, c ∉ p) (h : p <:+: s ++ b) : p <:+: b := by
  induction s with
  | nil => exact h
  | cons c s ih =>
    refine ih (fun d hd ↦ hp d (List.mem_cons_of_mem c hd)) ?_
    rcases (infix_append_cons_iff (a := []) (hp c List.mem_cons_self)).mp h with hnil | h
    · rw [List.infix_nil.mp hnil]
      exact List.nil_infix
    · exact h

/-- The same for a stretch of characters between the two sides. -/
theorem infix_append_append_iff (hs : s ≠ []) (hp : ∀ c ∈ s, c ∉ p) :
    p <:+: a ++ (s ++ b) ↔ p <:+: a ∨ p <:+: b := by
  obtain ⟨c, s, rfl⟩ := List.exists_cons_of_ne_nil hs
  rw [List.cons_append, infix_append_cons_iff (hp c List.mem_cons_self)]
  constructor
  · exact Or.imp_right (infix_of_infix_append fun d hd ↦ hp d (List.mem_cons_of_mem c hd))
  · exact Or.imp_right fun h ↦ h.trans (List.suffix_append s b).isInfix

/-! ## Lower-case letters -/

/-- What the lower case of a letter is, where it stands: for one letter that depends on what is in
front of it and behind it. -/
structure Lowercase where
  /-- The lower case of a letter, between what is in front of it and what is behind it. -/
  lower : List Char → Char → List Char → List Char
  /-- It is something. -/
  ne_nil : ∀ before c after, lower before c after ≠ []
  /-- The letters of ASCII. -/
  ascii : ∀ before c after, c.toNat < 128 → lower before c after = [c.toLower]
  /-- The dotted capital I and the sign for kelvin are the only others that have letters of ASCII
  in their lower case. -/
  other : ∀ before c after, 128 ≤ c.toNat →
    ∀ d ∈ lower before c after, d.toNat < 128 → d = 'i' ∨ d = 'k'

/-- The letters of ASCII, and no others. -/
def Lowercase.asciiOnly : Lowercase where
  lower _ c _ := [if c.toNat < 128 then c.toLower else c]
  ne_nil _ _ _ := List.cons_ne_nil _ _
  ascii _ c _ h := by rw [if_pos h]
  other _ c _ h d hd hlt := by
    rw [if_neg (Nat.not_lt.mpr h), List.mem_singleton] at hd
    subst hd
    omega

/-- `str::to_lowercase`, behind the text `before`. -/
def Lowercase.lowerFrom (t : Lowercase) : List Char → List Char → List Char
  | _, [] => []
  | before, c :: cs => t.lower before c cs ++ t.lowerFrom (before ++ [c]) cs

/-- `str::to_lowercase`. -/
def Lowercase.toLowercase (t : Lowercase) (cs : List Char) : List Char := t.lowerFrom [] cs

theorem toLower_of_le {c : Char} (h : 128 ≤ c.toNat) : c.toLower = c := by
  apply Char.toLower_eq_of_not_isUpper
  intro hu
  rw [Char.isUpper, decide_eq_true_eq, ge_iff_le, UInt32.le_iff_toNat_le,
    UInt32.le_iff_toNat_le] at hu
  have hle : c.toNat ≤ 90 := hu.2
  omega

theorem infix_lowerFrom_iff (t : Lowercase) {p : List Char} (hascii : ∀ c ∈ p, c.toNat < 128)
    (hi : 'i' ∉ p) (hk : 'k' ∉ p) (cs a before : List Char) :
    p <:+: a ++ t.lowerFrom before cs ↔ p <:+: a ++ cs.map Char.toLower := by
  induction cs generalizing a before with
  | nil => exact Iff.rfl
  | cons c cs ih =>
    rw [Lowercase.lowerFrom, List.map_cons]
    rcases Nat.lt_or_ge c.toNat 128 with hlt | hge
    · rw [t.ascii before c cs hlt, ← List.append_assoc, ih, List.append_assoc]
      rfl
    · -- what is looked for lies on one side of a letter that is not of ASCII
      have hnot : ∀ d ∈ t.lower before c cs, d ∉ p := by
        intro d hd hp
        rcases t.other before c cs hge d hd (hascii d hp) with rfl | rfl
        · exact hi hp
        · exact hk hp
      have hc : c ∉ p := fun hp ↦ absurd (hascii c hp) (Nat.not_lt.mpr hge)
      have hrest := ih [] (before ++ [c])
      rw [List.nil_append, List.nil_append] at hrest
      rw [infix_append_append_iff (t.ne_nil before c cs) hnot, toLower_of_le hge,
        infix_append_cons_iff hc, hrest]

/-- **Looking for a text of ASCII in lower-case letters.** -/
theorem infix_toLowercase_iff (t : Lowercase) {p : List Char} (hascii : ∀ c ∈ p, c.toNat < 128)
    (hi : 'i' ∉ p) (hk : 'k' ∉ p) (cs : List Char) :
    p <:+: t.toLowercase cs ↔ p <:+: cs.map Char.toLower :=
  infix_lowerFrom_iff t hascii hi hk cs [] []

end Search
