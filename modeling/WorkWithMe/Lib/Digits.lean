import Mathlib.Data.List.Basic
import Mathlib.Data.Nat.Init
import Mathlib.Tactic.Linarith

/-!
# Numbers of fixed width

Numbers that are written with a fixed number of decimal digits are in the order of their texts.
This file says so for lists of characters.

* `Below` says that two texts differ, and that the first one has the smaller character where they
  differ first.  What comes behind does not matter (`Below.append`), nor does what is the same in
  front (`Below.prepend`).
* `pad` is a number with a fixed number of digits, and `below_pad` that the digits are in the order
  of the numbers.
* **`below_stripped`** is the same for numbers whose last digits are left out where they are zero,
  some in one and some in the other, if a character that is less than the digits stands behind.
-/

set_option autoImplicit false

namespace Digits

/-! ## The order of texts -/

/-- The texts differ, and the first one has the smaller character where they differ first. -/
def Below (l m : List Char) : Prop :=
  ∃ p c d r s, l = p ++ c :: r ∧ m = p ++ d :: s ∧ c < d

namespace Below

variable {l m : List Char}

theorem of_lt {c d : Char} (h : c < d) (r s : List Char) : Below (c :: r) (d :: s) :=
  ⟨[], c, d, r, s, rfl, rfl, h⟩

/-- What comes behind does not matter. -/
theorem append (h : Below l m) (x y : List Char) : Below (l ++ x) (m ++ y) := by
  obtain ⟨p, c, d, r, s, rfl, rfl, hcd⟩ := h
  exact ⟨p, c, d, r ++ x, s ++ y, by simp, by simp, hcd⟩

/-- What is the same in front does not matter. -/
theorem prepend (h : Below l m) (p : List Char) : Below (p ++ l) (p ++ m) := by
  obtain ⟨q, c, d, r, s, rfl, rfl, hcd⟩ := h
  exact ⟨p ++ q, c, d, r, s, by simp, by simp, hcd⟩

theorem cons (h : Below l m) (c : Char) : Below (c :: l) (c :: m) := h.prepend [c]

protected theorem lt (h : Below l m) : l < m := by
  obtain ⟨p, c, d, r, s, rfl, rfl, hcd⟩ := h
  exact List.append_left_lt (List.cons_lt_cons_iff.mpr (.inl hcd))

end Below

/-! ## Digits -/

/-- The digit of a number below ten. -/
def digit (d : ℕ) : Char := Char.ofNat (48 + d)

/-- The number with `w` digits. -/
def pad : ℕ → ℕ → List Char
  | 0, _ => []
  | w + 1, n => pad w (n / 10) ++ [digit (n % 10)]

example : pad 4 70 = "0070".toList := by decide

theorem digit_lt {c d : ℕ} (h : c < d) (hd : d < 10) : digit c < digit d := by
  have hall : ∀ d : Fin 10, ∀ c : Fin 10, c < d → digit c < digit d := by decide
  exact hall ⟨d, hd⟩ ⟨c, h.trans hd⟩ h

/-- **The digits are in the order of the numbers.** -/
theorem below_pad {w n m : ℕ} (h : n < m) (hm : m < 10 ^ w) : Below (pad w n) (pad w m) := by
  induction w generalizing n m with
  | zero =>
    rw [pow_zero] at hm
    omega
  | succ w ih =>
    have hm' : m / 10 < 10 ^ w := by
      rw [pow_succ] at hm
      omega
    rw [pad, pad]
    obtain hlt | heq : n / 10 < m / 10 ∨ n / 10 = m / 10 := by omega
    · exact (ih hlt hm').append _ _
    · rw [heq]
      exact (Below.of_lt (digit_lt (by omega) (by omega)) [] []).prepend _

/-- Digits that are followed by others. -/
theorem pad_add (v w n : ℕ) : pad (v + w) n = pad v (n / 10 ^ w) ++ pad w n := by
  induction w generalizing n with
  | zero => simp [pad]
  | succ w ih =>
    rw [← Nat.add_assoc, pad, ih, pad, Nat.div_div_eq_div_mul, pow_succ', List.append_assoc]

/-- A number with digits begins with one. -/
theorem exists_pad_succ (w n : ℕ) : ∃ d < 10, ∃ r, pad (w + 1) n = digit d :: r := by
  induction w generalizing n with
  | zero => exact ⟨n % 10, by omega, [], rfl⟩
  | succ w ih =>
    obtain ⟨d, hd, r, hr⟩ := ih (n / 10)
    exact ⟨d, hd, r ++ [digit (n % 10)], by rw [pad, hr, List.cons_append]⟩

/-- A number, and another one that has more digits. -/
theorem below_pad_add {v w n m : ℕ} {c : Char} (hc : ∀ d < 10, c < digit d) (h : n * 10 ^ w < m)
    (hm : m < 10 ^ (v + w)) (r s : List Char) :
    Below (pad v n ++ c :: r) (pad (v + w) m ++ s) := by
  have hle : n ≤ m / 10 ^ w := (Nat.le_div_iff_mul_le (by positivity)).mpr h.le
  rw [pad_add, List.append_assoc]
  obtain hlt | rfl := hle.lt_or_eq
  · have hm' : m / 10 ^ w < 10 ^ v := Nat.div_lt_of_lt_mul (by rwa [← pow_add, Nat.add_comm])
    exact (below_pad hlt hm').append _ _
  · refine Below.prepend ?_ _
    cases w with
    | zero => simp at h
    | succ w =>
      obtain ⟨d, hd, l, hl⟩ := exists_pad_succ w m
      rw [hl]
      exact Below.of_lt (hc d hd) _ _

/-- A number, and another one that has fewer digits. -/
theorem below_add_pad {v w n m : ℕ} (h : n < m * 10 ^ w) (hm : m < 10 ^ v) (x y : List Char) :
    Below (pad (v + w) n ++ x) (pad v m ++ y) := by
  have hlt : n / 10 ^ w < m := Nat.div_lt_of_lt_mul (by rwa [Nat.mul_comm])
  rw [pad_add, List.append_assoc]
  exact (below_pad hlt hm).append _ _

/-- **Numbers whose last digits are left out where they are zero** are in the order of their texts,
if a character that is less than the digits stands behind. -/
theorem below_stripped {w e e' n m : ℕ} {c : Char} (hc : ∀ d < 10, c < digit d) (h : n < m)
    (hm : m < 10 ^ w) (he : e ≤ w) (he' : e' ≤ w) (hn : 10 ^ e ∣ n) (hm' : 10 ^ e' ∣ m)
    (r s : List Char) :
    Below (pad (w - e) (n / 10 ^ e) ++ c :: r) (pad (w - e') (m / 10 ^ e') ++ c :: s) := by
  obtain ⟨a, rfl⟩ := hn
  obtain ⟨b, rfl⟩ := hm'
  rw [Nat.mul_div_cancel_left a (by positivity), Nat.mul_div_cancel_left b (by positivity)]
  have hb : b < 10 ^ (w - e') := by
    refine Nat.lt_of_mul_lt_mul_left (a := 10 ^ e') ?_
    rwa [← pow_add, Nat.add_sub_cancel' he']
  obtain hle | hle := Nat.le_total e' e
  · obtain ⟨k, rfl⟩ := Nat.exists_eq_add_of_le hle
    have hsub : w - e' = w - (e' + k) + k := by omega
    rw [hsub] at hb ⊢
    refine below_pad_add hc ?_ hb r _
    refine Nat.lt_of_mul_lt_mul_left (a := 10 ^ e') ?_
    rwa [Nat.mul_comm a, ← Nat.mul_assoc, ← pow_add]
  · obtain ⟨k, rfl⟩ := Nat.exists_eq_add_of_le hle
    have hsub : w - e = w - (e + k) + k := by omega
    rw [hsub]
    refine below_add_pad ?_ hb _ _
    refine Nat.lt_of_mul_lt_mul_left (a := 10 ^ e) ?_
    rwa [Nat.mul_comm b, ← Nat.mul_assoc, ← pow_add]

end Digits
