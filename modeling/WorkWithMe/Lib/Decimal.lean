import Mathlib.Data.Nat.Init
import Mathlib.Tactic.Linarith
import Mathlib.Tactic.Ring
import WorkWithMe.Lib.Rust

/-!
# Numbers that are read from decimal digits

* `Decimal.Numeral` says of a text that it is made of decimal digits, at least one, and
  `Decimal.value` is the number they stand for.
* `Decimal.parse` is `from_str` of an unsigned integer: it takes a plus sign before the digits, and
  fails where the number is too large.  `Decimal.parse_of_numeral` is what it makes of a numeral,
  and `Decimal.parse_toDigits` of the digits of a number.
* `Decimal.value_append` splits the digits.
-/

set_option autoImplicit false

namespace Decimal

/-- The number that some digits stand for. -/
def value (cs : List Char) : ℕ := Nat.ofDigitChars 10 cs 0

/-- Decimal digits, at least one. -/
structure Numeral (cs : List Char) : Prop where
  /-- There is one. -/
  ne_nil : cs ≠ []
  /-- They are digits. -/
  digits : ∀ c ∈ cs, c.isDigit = true

instance (cs : List Char) : Decidable (Numeral cs) :=
  decidable_of_iff (cs ≠ [] ∧ cs.all Char.isDigit = true)
    ⟨fun h ↦ ⟨h.1, List.all_eq_true.mp h.2⟩, fun h ↦ ⟨h.ne_nil, List.all_eq_true.mpr h.digits⟩⟩

/-- The digits of a text that may have a plus sign in front. -/
def unsigned (cs : List Char) : List Char := if cs.head? = some '+' then cs.tail else cs

/-- `from_str` of an unsigned integer with some number of bits. -/
def parse (bits : ℕ) (cs : List Char) : Option ℕ :=
  if Numeral (unsigned cs) ∧ value (unsigned cs) < 2 ^ bits then some (value (unsigned cs))
  else none

variable {bits n : ℕ} {cs ds : List Char}

/-! ## Values -/

theorem value_append (cs ds : List Char) :
    value (cs ++ ds) = 10 ^ ds.length * value cs + value ds := by
  rw [value, Nat.ofDigitChars_append, Nat.ofDigitChars_eq_ofDigitChars_zero]
  rfl

theorem toNat_of_isDigit {c : Char} (h : c.isDigit = true) : 48 ≤ c.toNat ∧ c.toNat < 58 := by
  simp only [Char.isDigit, Bool.and_eq_true, decide_eq_true_eq, UInt32.le_iff_toNat_le] at h
  have h₁ : (48 : ℕ) ≤ c.toNat := h.1
  have h₂ : c.toNat ≤ 57 := h.2
  omega

theorem value_singleton_lt {c : Char} (h : c.isDigit = true) : value [c] < 10 := by
  have hc := toNat_of_isDigit h
  have hval : value [c] = c.toNat - 48 := by
    simp [value, Nat.ofDigitChars_cons]
  omega

/-- So many digits, and no larger number. -/
theorem value_lt (h : ∀ c ∈ cs, c.isDigit = true) : value cs < 10 ^ cs.length := by
  induction cs using List.reverseRecOn with
  | nil => simp [value]
  | append_singleton cs c ih =>
    have hc := value_singleton_lt (h c (by simp))
    have hcs := ih fun d hd ↦ h d (by simp [hd])
    rw [value_append, List.length_append, List.length_singleton, pow_one, pow_succ]
    omega

/-! ## Reading -/

/-- A digit is no sign. -/
theorem unsigned_of_numeral (h : Numeral cs) : unsigned cs = cs := by
  refine if_neg fun hhead ↦ ?_
  have hdigit := h.digits '+' (List.mem_of_mem_head? hhead)
  cases hdigit

theorem parse_of_numeral (h : Numeral cs) (hlt : value cs < 2 ^ bits) :
    parse bits cs = some (value cs) := by
  rw [parse, unsigned_of_numeral h, if_pos ⟨h, hlt⟩]

theorem parse_eq_none_of_le (h : Numeral cs) (hle : 2 ^ bits ≤ value cs) :
    parse bits cs = none := by
  rw [parse, unsigned_of_numeral h, if_neg]
  exact fun hlt ↦ absurd hlt.2 (Nat.not_lt.mpr hle)

theorem lt_of_parse (h : parse bits cs = some n) : n < 2 ^ bits := by
  rw [parse] at h
  split at h
  · rename_i hnum
    cases h
    exact hnum.2
  · cases h

/-- What is read of a numeral is its value. -/
theorem eq_value_of_parse (hnum : Numeral cs) (h : parse bits cs = some n) : n = value cs := by
  rw [parse, unsigned_of_numeral hnum] at h
  split at h
  · exact (Option.some.inj h).symm
  · cases h

theorem numeral_toDigits (n : ℕ) : Numeral (Nat.toDigits 10 n) :=
  ⟨Nat.toDigits_ne_nil, fun _ hc ↦ Nat.isDigit_of_mem_toDigits (by decide) (by decide) hc⟩

/-- **The digits of a number are read as that number.** -/
theorem parse_toDigits (h : n < 2 ^ bits) : parse bits (Nat.toDigits 10 n) = some n := by
  have hvalue : value (Nat.toDigits 10 n) = n := Nat.ofDigitChars_ten_toDigits
  rw [parse_of_numeral (numeral_toDigits n) (by rwa [hvalue]), hvalue]

/-- A digit takes one byte. -/
theorem byteLen_of_digits (h : ∀ c ∈ cs, c.isDigit = true) : Rust.byteLen cs = cs.length := by
  induction cs with
  | nil => rfl
  | cons c cs ih =>
    have hc := toNat_of_isDigit (h c List.mem_cons_self)
    have hsize : c.utf8Size = 1 := by
      have hle : c.val ≤ 0x7f := by
        rw [UInt32.le_iff_toNat_le]
        show c.toNat ≤ 127
        omega
      exact if_pos hle
    rw [Rust.byteLen, hsize, ih fun d hd ↦ h d (List.mem_cons_of_mem c hd), List.length_cons,
      Nat.add_comm]

end Decimal
