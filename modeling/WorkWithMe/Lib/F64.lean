import Mathlib.Data.Nat.Log
import Mathlib.Tactic.Linarith

/-!
# Whole numbers as floating-point numbers

A floating-point number of double precision has 53 significant bits.  `Rust.asF64` is what becomes
of a whole number that is converted to one: the nearest of these numbers, and of two that are
equally near the one with an even significand.

* `asF64_of_dvd` says which numbers stay as they are: those that have at most 53 significant bits,
  which are the multiples of a power of two that are not too large.
* `asF64_mono` says that the conversion does not change the order of two numbers.
-/

set_option autoImplicit false

namespace Rust

/-- What the last of the 53 bits of a number is worth. -/
def unitOf (n : ℕ) : ℕ := 2 ^ (n.log2 + 1 - 53)

/-- `n as f64`. -/
def asF64 (n : ℕ) : ℕ :=
  if 2 * (n % unitOf n) < unitOf n ∨
      2 * (n % unitOf n) = unitOf n ∧ n / unitOf n % 2 = 0 then
    n / unitOf n * unitOf n
  else (n / unitOf n + 1) * unitOf n

theorem unitOf_pos (n : ℕ) : 0 < unitOf n := Nat.two_pow_pos _

/-! ## Numbers that stay as they are -/

/-- Nothing is rounded where the last bit divides the number. -/
theorem asF64_of_unitOf_dvd {n : ℕ} (h : unitOf n ∣ n) : asF64 n = n := by
  rw [asF64, Nat.mod_eq_zero_of_dvd h, if_pos (.inl (unitOf_pos n)), Nat.div_mul_cancel h]

/-- **A number with at most 53 significant bits stays as it is.** -/
theorem asF64_of_dvd {n e : ℕ} (hdvd : 2 ^ e ∣ n) (hle : n ≤ 2 ^ (53 + e)) : asF64 n = n := by
  refine asF64_of_unitOf_dvd ?_
  obtain rfl | hlt := hle.eq_or_lt
  · exact Nat.pow_dvd_pow 2 (by rw [Nat.log2_two_pow]; omega)
  · refine Nat.dvd_trans (Nat.pow_dvd_pow 2 ?_) hdvd
    rcases n.eq_zero_or_pos with rfl | hpos
    · simp
    · have hlog : n.log2 < 53 + e := (Nat.log2_lt hpos.ne').mpr hlt
      omega

/-! ## The order -/

theorem div_mul_unitOf_le (n : ℕ) : n / unitOf n * unitOf n ≤ asF64 n := by
  rw [asF64]
  split
  · exact le_rfl
  · exact Nat.mul_le_mul_right _ (Nat.le_succ _)

theorem asF64_le_succ_mul (n : ℕ) : asF64 n ≤ (n / unitOf n + 1) * unitOf n := by
  rw [asF64]
  split
  · exact Nat.mul_le_mul_right _ (Nat.le_succ _)
  · exact le_rfl

/-- Rounding does not lead below the highest bit. -/
theorem two_pow_log2_le_asF64 {n : ℕ} (h : n ≠ 0) : 2 ^ n.log2 ≤ asF64 n := by
  refine le_trans ?_ (div_mul_unitOf_le n)
  have hdvd : unitOf n ∣ 2 ^ n.log2 := Nat.pow_dvd_pow 2 (by omega)
  calc 2 ^ n.log2 = 2 ^ n.log2 / unitOf n * unitOf n := (Nat.div_mul_cancel hdvd).symm
    _ ≤ n / unitOf n * unitOf n :=
      Nat.mul_le_mul_right _ (Nat.div_le_div_right (Nat.log2_self_le h))

/-- Rounding leads at most to the next power of two. -/
theorem asF64_le_two_pow (n : ℕ) : asF64 n ≤ 2 ^ (n.log2 + 1) := by
  refine (asF64_le_succ_mul n).trans ?_
  have hdvd : unitOf n ∣ 2 ^ (n.log2 + 1) := Nat.pow_dvd_pow 2 (Nat.sub_le _ _)
  have hlt : n / unitOf n < 2 ^ (n.log2 + 1) / unitOf n :=
    Nat.div_lt_div_of_lt_of_dvd hdvd Nat.lt_log2_self
  calc (n / unitOf n + 1) * unitOf n ≤ 2 ^ (n.log2 + 1) / unitOf n * unitOf n :=
      Nat.mul_le_mul_right _ hlt
    _ = 2 ^ (n.log2 + 1) := Nat.div_mul_cancel hdvd

/-- Two numbers with the same highest bit are rounded at the same bit. -/
theorem asF64_le_of_log2_eq {m n : ℕ} (h : m ≤ n) (hlog : m.log2 = n.log2) :
    asF64 m ≤ asF64 n := by
  have hunit : unitOf m = unitOf n := by rw [unitOf, unitOf, hlog]
  obtain hq | hq := (Nat.div_le_div_right (c := unitOf n) h).eq_or_lt
  · -- they lie between the same two numbers, and the larger one is nearer to the upper one
    have hmod : m % unitOf n ≤ n % unitOf n := by
      have hm := Nat.div_add_mod m (unitOf n)
      have hn := Nat.div_add_mod n (unitOf n)
      rw [hq] at hm
      omega
    rw [asF64, asF64, hunit, hq]
    split
    · split
      · exact le_rfl
      · exact Nat.mul_le_mul_right _ (Nat.le_succ _)
    · rename_i hup
      rw [if_neg]
      rintro (hlt | ⟨heq, heven⟩)
      · exact hup (.inl (by omega))
      · obtain hlt | heq' := (show 2 * (m % unitOf n) ≤ unitOf n by omega).lt_or_eq
        · exact hup (.inl hlt)
        · exact hup (.inr ⟨heq', heven⟩)
  · calc asF64 m ≤ (m / unitOf n + 1) * unitOf n := hunit ▸ asF64_le_succ_mul m
      _ ≤ n / unitOf n * unitOf n := Nat.mul_le_mul_right _ hq
      _ ≤ asF64 n := div_mul_unitOf_le n

/-- **The conversion is monotone.** -/
theorem asF64_mono : Monotone asF64 := by
  intro m n h
  rcases m.eq_zero_or_pos with rfl | hpos
  · exact Nat.zero_le _
  · have hn : n ≠ 0 := (hpos.trans_le h).ne'
    have hle : m.log2 ≤ n.log2 :=
      (Nat.le_log2 hn).mpr ((Nat.log2_self_le hpos.ne').trans h)
    obtain hlog | hlog := hle.eq_or_lt
    · exact asF64_le_of_log2_eq h hlog
    · calc asF64 m ≤ 2 ^ (m.log2 + 1) := asF64_le_two_pow m
        _ ≤ 2 ^ n.log2 := Nat.pow_le_pow_right Nat.two_pos hlog
        _ ≤ asF64 n := two_pow_log2_le_asF64 hn

end Rust
