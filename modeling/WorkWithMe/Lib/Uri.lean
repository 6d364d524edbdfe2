import Mathlib

/-!
# The host of a URL

The decomposition of RFC 3986, on lists of characters: after the scheme and `://` comes the
authority, which ends at the first `/`, `?` or `#`; what stands before its last `@` is userinfo; a
host that starts with `[` is an IP literal and is kept whole, colons and all, and any other host
ends at the colon in front of the port.  Hosts are compared with the ASCII letters folded.

* `Uri.host rest` is the host a client connects to, where `rest` is what follows `://`, and
  `Uri.rawHost` is the same before the folding.
* `Uri.dottedQuad a b c d` is the spelling of an IPv4 address that RFC 3986 calls one: four
  decimal octets without leading zeros.  `Uri.octet_prefix_iff` reads a prefix of such a spelling
  one octet at a time, which is what turns a test on strings into a test on numbers.
* `Uri.isPrefix_takeWhile_iff` is the fact about lists behind every comparison of two ways of
  cutting a host out of a URL.
-/

set_option autoImplicit false

namespace Uri

/-! ## Prefixes of an initial segment -/

section Prefixes

variable {α : Type*}

/-- The prefixes of an initial segment are the prefixes of the list all of whose members belong to
the segment. -/
theorem isPrefix_takeWhile_iff {p : α → Bool} {l m : List α} :
    l <+: m.takeWhile p ↔ l <+: m ∧ ∀ x ∈ l, p x = true := by
  constructor
  · intro h
    exact ⟨h.trans (List.takeWhile_prefix p), fun x hx ↦ List.mem_takeWhile_imp (h.subset hx)⟩
  · rintro ⟨⟨t, rfl⟩, hl⟩
    rw [List.takeWhile_append_of_pos hl]
    exact List.prefix_append _ _

theorem singleton_prefix_append_iff {x : α} {l m : List α} (hl : l ≠ []) :
    [x] <+: l ++ m ↔ [x] <+: l := by
  cases l with
  | nil => exact absurd rfl hl
  | cons y l => simp [List.cons_prefix_cons]

theorem takeWhile_concat_prefix [DecidableEq α] {x : α} {l : List α} (h : x ∈ l) :
    l.takeWhile (· ≠ x) ++ [x] <+: l := by
  induction l with
  | nil => simp at h
  | cons y l ih =>
    by_cases hy : y = x
    · subst hy
      simp [List.cons_prefix_cons]
    · rw [List.takeWhile_cons_of_pos (by simpa using hy), List.cons_append, List.prefix_cons_inj]
      exact ih ((List.mem_cons.mp h).resolve_left (Ne.symm hy))

end Prefixes

/-! ## Cutting the host out of a URL -/

/-- A character that belongs to the authority: it ends at `/`, `?` or `#`. -/
def inAuthority (c : Char) : Bool := c ≠ '/' && c ≠ '?' && c ≠ '#'

/-- The authority of a URL, given what follows `://`. -/
def authority (rest : List Char) : List Char := rest.takeWhile inAuthority

/-- The authority without its userinfo. -/
def hostPort (a : List Char) : List Char := a.rtakeWhile (· ≠ '@')

/-- The host in front of a port.  An IP literal is kept whole up to its closing bracket. -/
def cutPort : List Char → List Char
  | '[' :: l => '[' :: (l.takeWhile (· ≠ ']') ++ if ']' ∈ l then [']'] else [])
  | l => l.takeWhile (· ≠ ':')

/-- The host of a URL as it is spelled, given what follows `://`. -/
def rawHost (rest : List Char) : List Char := cutPort (hostPort (authority rest))

/-- The host a client connects to: the letters of the spelling folded. -/
def host (rest : List Char) : List Char := (rawHost rest).map Char.toLower

/-- `u` is a URL of the given scheme, in any spelling of it, followed by `://` and `rest`. -/
def HasScheme (scheme u rest : List Char) : Prop :=
  ∃ s, s.map Char.toLower = scheme ∧ u = s ++ ':' :: '/' :: '/' :: rest

theorem hostPort_of_notMem {a : List Char} (h : '@' ∉ a) : hostPort a = a := by
  rw [hostPort, List.rtakeWhile_eq_self_iff]
  intro c hc
  have hne : c ≠ '@' := fun he ↦ h (he ▸ hc)
  simpa using hne

theorem cutPort_of_head {l : List Char} (h : l.head? ≠ some '[') :
    cutPort l = l.takeWhile (· ≠ ':') := by
  unfold cutPort
  split
  · simp at h
  · rfl

theorem head_cutPort_bracket (l : List Char) : (cutPort ('[' :: l)).head? = some '[' := rfl

theorem cutPort_isPrefix (l : List Char) : cutPort l <+: l := by
  unfold cutPort
  split
  · rename_i l
    rw [List.prefix_cons_inj]
    split
    · exact takeWhile_concat_prefix ‹_›
    · rw [List.append_nil]
      exact List.takeWhile_prefix _
  · exact List.takeWhile_prefix _

/-- Without userinfo the host is spelled at the beginning of what follows `://`. -/
theorem rawHost_isPrefix {rest : List Char} (h : '@' ∉ authority rest) : rawHost rest <+: rest := by
  rw [rawHost, hostPort_of_notMem h]
  exact (cutPort_isPrefix _).trans (List.takeWhile_prefix _)

/-- Without userinfo, a text of characters that may occur in a host is a prefix of the host as soon
as it is one of what follows `://`, unless the host is an IP literal. -/
theorem prefix_rawHost {rest p : List Char} (hat : '@' ∉ authority rest)
    (hhead : (rawHost rest).head? ≠ some '[') (hp : p <+: rest)
    (hchars : ∀ c ∈ p, inAuthority c = true ∧ c ≠ ':') : p <+: rawHost rest := by
  rw [rawHost, hostPort_of_notMem hat] at hhead ⊢
  have hauth : (authority rest).head? ≠ some '[' := by
    intro he
    obtain ⟨t, ht⟩ := List.head?_eq_some_iff.mp he
    rw [ht] at hhead
    exact hhead (head_cutPort_bracket t)
  rw [cutPort_of_head hauth, isPrefix_takeWhile_iff, authority, isPrefix_takeWhile_iff]
  exact ⟨⟨hp, fun c hc ↦ (hchars c hc).1⟩, fun c hc ↦ by simpa using (hchars c hc).2⟩

/-! ## Letter case -/

/-- Folding produces no character that is neither a letter nor there already. -/
theorem eq_of_toLower_eq {c d : Char} (h : c.toLower = d) (hd : d.isAlpha = false) : c = d := by
  have hc : c.isAlpha = false := by rw [← Char.isAlpha_toLower_eq_isAlpha, h, hd]
  have hu : ¬ c.isUpper = true := by
    intro hu
    simp [Char.isAlpha, hu] at hc
  rw [← h, Char.toLower_eq_of_not_isUpper hu]

theorem isAlpha_eq_false_of_isDigit {c : Char} (h : c.isDigit = true) : c.isAlpha = false := by
  simp [Char.isDigit, Char.isAlpha, Char.isUpper, Char.isLower, UInt32.le_iff_toNat_le] at h ⊢
  omega

/-- A spelling without letters is the only one that folds to itself. -/
theorem eq_of_map_toLower_eq {l m : List Char} (h : l.map Char.toLower = m)
    (hm : ∀ c ∈ m, c.isAlpha = false) : l = m := by
  induction l generalizing m with
  | nil => simpa using h
  | cons c l ih =>
    subst h
    rw [List.map_cons] at hm ⊢
    rw [← eq_of_toLower_eq rfl (hm _ List.mem_cons_self),
      ← ih rfl fun d hd ↦ hm d (List.mem_cons_of_mem _ hd)]

/-! ## IPv4 addresses -/

/-- The decimal spelling of an octet. -/
def octet (n : ℕ) : List Char := Nat.toDigits 10 n

/-- The dotted-quad spelling of an IPv4 address. -/
def dottedQuad (a b c d : ℕ) : List Char :=
  octet a ++ '.' :: (octet b ++ '.' :: (octet c ++ '.' :: octet d))

/-- `h` is the dotted-quad spelling of an address. -/
def IsIpv4 (h : List Char) : Prop :=
  ∃ a b c d, a < 256 ∧ b < 256 ∧ c < 256 ∧ d < 256 ∧ h = dottedQuad a b c d

theorem isDigit_of_mem_octet {n : ℕ} {c : Char} (h : c ∈ octet n) : c.isDigit = true :=
  Nat.isDigit_of_mem_toDigits (by decide) (by decide) h

theorem octet_ne_nil (n : ℕ) : octet n ≠ [] := Nat.toDigits_ne_nil

theorem octet_injective {m n : ℕ} (h : octet m = octet n) : m = n := by
  rw [← Nat.ofDigitChars_ten_toDigits (n := m), ← Nat.ofDigitChars_ten_toDigits (n := n)]
  exact congrArg (fun l ↦ Nat.ofDigitChars 10 l 0) h

theorem dot_notMem_octet (n : ℕ) : '.' ∉ octet n := by
  intro h
  exact absurd (isDigit_of_mem_octet h) (by decide)

theorem takeWhile_octet (n : ℕ) (l : List Char) :
    (octet n ++ '.' :: l).takeWhile (· ≠ '.') = octet n := by
  rw [List.takeWhile_append_of_pos, List.takeWhile_cons_of_neg (by simp), List.append_nil]
  intro c hc
  have hne : c ≠ '.' := fun he ↦ dot_notMem_octet n (he ▸ hc)
  simpa using hne

/-- **A prefix of a dotted quad, read one octet at a time.** -/
theorem octet_prefix_iff {m n : ℕ} {p l : List Char} :
    octet m ++ '.' :: p <+: octet n ++ '.' :: l ↔ m = n ∧ p <+: l := by
  constructor
  · rintro ⟨t, ht⟩
    have hmn : m = n := by
      apply octet_injective
      rw [← takeWhile_octet m (p ++ t), ← takeWhile_octet n l, ← ht]
      simp
    subst hmn
    rw [List.append_assoc, List.append_cancel_left_eq] at ht
    exact ⟨rfl, t, by simpa using ht⟩
  · rintro ⟨rfl, t, rfl⟩
    exact ⟨t, by simp⟩

/-- A dotted quad determines its first two octets. -/
theorem eq_of_dottedQuad_eq {a b c d a' b' c' d' : ℕ}
    (h : dottedQuad a b c d = dottedQuad a' b' c' d') : a = a' ∧ b = b' := by
  have hpre : dottedQuad a b c d <+: dottedQuad a' b' c' d' := h ▸ List.prefix_rfl
  simp only [dottedQuad, octet_prefix_iff] at hpre
  exact ⟨hpre.1, hpre.2.1⟩

theorem digit_or_dot_of_mem_dottedQuad {a b c d : ℕ} {x : Char} (h : x ∈ dottedQuad a b c d) :
    x.isDigit = true ∨ x = '.' := by
  simp only [dottedQuad, List.mem_append, List.mem_cons] at h
  rcases h with h | h | h | h | h | h | h
  · exact Or.inl (isDigit_of_mem_octet h)
  · exact Or.inr h
  · exact Or.inl (isDigit_of_mem_octet h)
  · exact Or.inr h
  · exact Or.inl (isDigit_of_mem_octet h)
  · exact Or.inr h
  · exact Or.inl (isDigit_of_mem_octet h)

theorem isAlpha_of_mem_dottedQuad {a b c d : ℕ} {x : Char} (h : x ∈ dottedQuad a b c d) :
    x.isAlpha = false := by
  rcases digit_or_dot_of_mem_dottedQuad h with h | rfl
  · exact isAlpha_eq_false_of_isDigit h
  · rfl

/-- A spelling that folds to a dotted quad is that dotted quad. -/
theorem eq_dottedQuad_of_fold {l : List Char} {a b c d : ℕ}
    (h : l.map Char.toLower = dottedQuad a b c d) : l = dottedQuad a b c d :=
  eq_of_map_toLower_eq h fun _ hx ↦ isAlpha_of_mem_dottedQuad hx

/-- A spelling that starts with an octet and a dot. -/
theorem octet_prefix_dottedQuad_iff {m a b c d : ℕ} :
    octet m ++ ['.'] <+: dottedQuad a b c d ↔ m = a := by
  rw [dottedQuad, octet_prefix_iff]
  simp

/-- A spelling that starts with an octet, a dot and one digit. -/
theorem octet_digit_prefix_dottedQuad_iff {m a b c d : ℕ} {x : Char} :
    octet m ++ ['.', x] <+: dottedQuad a b c d ↔ m = a ∧ [x] <+: octet b := by
  rw [dottedQuad, octet_prefix_iff, singleton_prefix_append_iff (octet_ne_nil b)]

/-- A spelling that starts with two octets and their dots. -/
theorem octets_prefix_dottedQuad_iff {m n a b c d : ℕ} :
    octet m ++ '.' :: (octet n ++ ['.']) <+: dottedQuad a b c d ↔ m = a ∧ n = b := by
  rw [dottedQuad, octet_prefix_iff, octet_prefix_iff]
  simp

/-- The octets that start with the digit `0`. -/
theorem zero_prefix_octet_iff {n : ℕ} (h : n < 256) : ['0'] <+: octet n ↔ n = 0 := by
  revert n
  decide +kernel

/-- The octets that start with the digit `1`. -/
theorem one_prefix_octet_iff {n : ℕ} (h : n < 256) :
    ['1'] <+: octet n ↔ n = 1 ∨ (10 ≤ n ∧ n ≤ 19) ∨ (100 ≤ n ∧ n ≤ 199) := by
  revert n
  decide +kernel

/-- The octets that start with the digit `2`. -/
theorem two_prefix_octet_iff {n : ℕ} (h : n < 256) :
    ['2'] <+: octet n ↔ n = 2 ∨ (20 ≤ n ∧ n ≤ 29) ∨ 200 ≤ n := by
  revert n
  decide +kernel

/-- The octets that start with the digit `3`. -/
theorem three_prefix_octet_iff {n : ℕ} (h : n < 256) :
    ['3'] <+: octet n ↔ n = 3 ∨ (30 ≤ n ∧ n ≤ 39) := by
  revert n
  decide +kernel

end Uri
