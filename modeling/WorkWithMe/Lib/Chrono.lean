import Mathlib.Data.String.Basic
import WorkWithMe.Lib.Digits

/-!
# Times and their texts

Instants of the universal time, with nanoseconds, in the years that have four digits, and the texts
that `chrono` gives them.

* `Utc` is an instant as it is written, a day of the calendar and a time of the day, and `nanos` the
  instant as it is counted.
* `earlier_of_nanos_lt` compares two instants field by field, and `exists_nanos_eq` says that no
  reading of the clock is left out.
* `toRfc3339` is the text.  Its fraction has three, six or nine digits, or there is none.
* **`toRfc3339_lt`** says that the texts are in the order of the instants, whatever their lengths.
-/

set_option autoImplicit false

namespace Chrono

open Digits

/-! ## The calendar -/

/-- The days, or whatever is counted, before the `n`-th of units of these lengths. -/
def total (len : ℕ → ℕ) : ℕ → ℕ
  | 0 => 0
  | n + 1 => total len n + len n

/-- A unit is over before a later one begins. -/
theorem total_add_le (len : ℕ → ℕ) {i j : ℕ} (h : i < j) : total len i + len i ≤ total len j := by
  induction j with
  | zero => omega
  | succ j ih =>
    rw [total]
    obtain hlt | rfl : i < j ∨ i = j := by omega
    · have := ih hlt
      omega
    · exact le_rfl

/-- What is counted earlier is in an earlier unit, or earlier in the same one. -/
theorem earlier_of_total_lt {len : ℕ → ℕ} {i j x y : ℕ}
    (h : total len i + x < total len j + y) (hy : y < len j) : i < j ∨ i = j ∧ x < y := by
  obtain hlt | rfl | hgt := Nat.lt_trichotomy i j
  · exact Or.inl hlt
  · exact Or.inr ⟨rfl, by omega⟩
  · have := total_add_le len hgt
    omega

/-- What is counted at once is in the same unit. -/
theorem eq_of_total_eq {len : ℕ → ℕ} {i j x y : ℕ}
    (h : total len i + x = total len j + y) (hx : x < len i) (hy : y < len j) : i = j ∧ x = y := by
  obtain hlt | rfl | hgt := Nat.lt_trichotomy i j
  · have := total_add_le len hlt
    omega
  · exact ⟨rfl, by omega⟩
  · have := total_add_le len hgt
    omega

/-- Everything that is counted is in some unit. -/
theorem exists_total_add {len : ℕ → ℕ} {n x : ℕ} (h : x < total len n) :
    ∃ i < n, ∃ y < len i, total len i + y = x := by
  induction n with
  | zero => cases h
  | succ n ih =>
    obtain hlt | hge := Nat.lt_or_ge x (total len n)
    · obtain ⟨i, hi, hy⟩ := ih hlt
      exact ⟨i, by omega, hy⟩
    · rw [total] at h
      exact ⟨n, by omega, x - total len n, by omega, by omega⟩

/-- A leap year. -/
def Leap (year : ℕ) : Prop := year % 4 = 0 ∧ (year % 100 ≠ 0 ∨ year % 400 = 0)

instance (year : ℕ) : Decidable (Leap year) := inferInstanceAs (Decidable (_ ∧ _))

/-- The days of a year. -/
def yearLength (year : ℕ) : ℕ := if Leap year then 366 else 365

/-- The days of a month. -/
def monthLength (year month : ℕ) : ℕ :=
  if month = 2 then (if Leap year then 29 else 28)
  else if month = 4 ∨ month = 6 ∨ month = 9 ∨ month = 11 then 30
  else 31

theorem monthLength_le (year month : ℕ) : monthLength year month ≤ 31 := by
  rw [monthLength]
  split_ifs <;> omega

theorem total_monthLength (year : ℕ) :
    total (fun i ↦ monthLength year (i + 1)) 12 = yearLength year := by
  by_cases h : Leap year <;> simp [total, monthLength, yearLength, h]

/-- An instant of the universal time in the years 1970 to 9999. -/
structure Utc where
  year : ℕ
  month : ℕ
  day : ℕ
  hour : ℕ
  minute : ℕ
  second : ℕ
  nano : ℕ
  year_mem : 1970 ≤ year ∧ year ≤ 9999
  month_mem : 1 ≤ month ∧ month ≤ 12
  day_mem : 1 ≤ day ∧ day ≤ monthLength year month
  hour_lt : hour < 24
  minute_lt : minute < 60
  second_lt : second < 60
  nano_lt : nano < 1000000000

namespace Utc

variable (t : Utc)

/-- The days of the year before the day. -/
def dayOfYear : ℕ := total (fun i ↦ monthLength t.year (i + 1)) (t.month - 1) + (t.day - 1)

/-- The days since 1970 before the day. -/
def dayNumber : ℕ := total (fun i ↦ yearLength (1970 + i)) (t.year - 1970) + t.dayOfYear

/-- The seconds since 1970. -/
def seconds : ℕ := t.dayNumber * 86400 + (t.hour * 3600 + t.minute * 60 + t.second)

/-- The nanoseconds since 1970. -/
def nanos : ℕ := t.seconds * 1000000000 + t.nano

theorem lt_monthLength : t.day - 1 < monthLength t.year (t.month - 1 + 1) := by
  have hday := t.day_mem
  rw [Nat.sub_add_cancel t.month_mem.1]
  omega

theorem dayOfYear_lt : t.dayOfYear < yearLength (1970 + (t.year - 1970)) := by
  have hmonth := t.month_mem
  have hle : total (fun i ↦ monthLength t.year (i + 1)) (t.month - 1) +
      monthLength t.year (t.month - 1 + 1) ≤ total (fun i ↦ monthLength t.year (i + 1)) 12 :=
    total_add_le _ (by omega)
  have hday := t.lt_monthLength
  rw [total_monthLength] at hle
  rw [dayOfYear, Nat.add_sub_cancel' t.year_mem.1]
  omega

/-- The day comes earlier in the calendar. -/
def EarlierDay (s t : Utc) : Prop :=
  s.year < t.year ∨ s.year = t.year ∧ (s.month < t.month ∨ s.month = t.month ∧ s.day < t.day)

/-- The time of the day is earlier on the clock. -/
def EarlierTime (s t : Utc) : Prop :=
  s.hour < t.hour ∨ s.hour = t.hour ∧ (s.minute < t.minute ∨ s.minute = t.minute ∧
    (s.second < t.second ∨ s.second = t.second ∧ s.nano < t.nano))

variable {s t : Utc}

theorem earlierDay_of_dayNumber_lt (h : s.dayNumber < t.dayNumber) : EarlierDay s t := by
  have hs := s.year_mem
  have ht := t.year_mem
  rw [dayNumber, dayNumber] at h
  obtain hyear | ⟨hyear, hday⟩ := earlier_of_total_lt h t.dayOfYear_lt
  · exact Or.inl (by omega)
  have hyear' : s.year = t.year := by omega
  refine Or.inr ⟨hyear', ?_⟩
  have hmonths := s.month_mem
  have hmontht := t.month_mem
  have hdays := s.day_mem
  have hdayt := t.day_mem
  rw [dayOfYear, dayOfYear, hyear'] at hday
  obtain hmonth | ⟨hmonth, hday⟩ := earlier_of_total_lt hday t.lt_monthLength
  · exact Or.inl (by omega)
  · exact Or.inr ⟨by omega, by omega⟩

theorem eq_of_dayNumber_eq (h : s.dayNumber = t.dayNumber) :
    s.year = t.year ∧ s.month = t.month ∧ s.day = t.day := by
  have hs := s.year_mem
  have ht := t.year_mem
  rw [dayNumber, dayNumber] at h
  obtain ⟨hyear, hday⟩ := eq_of_total_eq h s.dayOfYear_lt t.dayOfYear_lt
  have hyear' : s.year = t.year := by omega
  have hmonths := s.month_mem
  have hmontht := t.month_mem
  have hdays := s.day_mem
  have hdayt := t.day_mem
  have hlt := s.lt_monthLength
  rw [hyear'] at hlt
  rw [dayOfYear, dayOfYear, hyear'] at hday
  obtain ⟨hmonth, hday⟩ := eq_of_total_eq hday hlt t.lt_monthLength
  exact ⟨hyear', by omega, by omega⟩

/-- **The earlier of two instants**, field by field. -/
theorem earlier_of_nanos_lt (h : s.nanos < t.nanos) :
    EarlierDay s t ∨ (s.year = t.year ∧ s.month = t.month ∧ s.day = t.day) ∧ EarlierTime s t := by
  have hs := s.hour_lt
  have hs' := s.minute_lt
  have hs'' := s.second_lt
  have hsn := s.nano_lt
  have ht := t.hour_lt
  have ht' := t.minute_lt
  have ht'' := t.second_lt
  have htn := t.nano_lt
  rw [nanos, nanos, seconds, seconds] at h
  obtain hlt | heq : s.dayNumber < t.dayNumber ∨ s.dayNumber = t.dayNumber := by omega
  · exact Or.inl (earlierDay_of_dayNumber_lt hlt)
  · refine Or.inr ⟨eq_of_dayNumber_eq heq, ?_⟩
    rw [EarlierTime]
    omega

/-- **Every reading of the clock** in these years is that of an instant. -/
theorem exists_nanos_eq {n : ℕ}
    (h : n < total (fun i ↦ yearLength (1970 + i)) 8030 * 86400 * 1000000000) :
    ∃ t : Utc, t.nanos = n := by
  have hday : n / 1000000000 / 86400 < total (fun i ↦ yearLength (1970 + i)) 8030 := by omega
  obtain ⟨y, hy, x, hx, hday⟩ := exists_total_add hday
  rw [← total_monthLength] at hx
  obtain ⟨m, hm, d, hd, rfl⟩ := exists_total_add hx
  refine ⟨⟨1970 + y, m + 1, d + 1, n / 1000000000 % 86400 / 3600, n / 1000000000 % 3600 / 60,
    n / 1000000000 % 60, n % 1000000000, by omega, by omega, ⟨by omega, hd⟩, by omega, by omega,
    by omega, by omega⟩, ?_⟩
  simp only [nanos, seconds, dayNumber, dayOfYear, Nat.add_sub_cancel, Nat.add_sub_cancel_left]
  rw [hday]
  omega

example : ∃ t : Utc, t.year = 2000 ∧ t.month = 3 ∧ t.day = 1 ∧ t.seconds = 951868800 :=
  ⟨⟨2000, 3, 1, 0, 0, 0, 0, by decide, by decide, by decide, by decide, by decide, by decide,
    by decide⟩, rfl, rfl, rfl, by decide⟩

end Utc

/-! ## The text of an instant -/

/-- The fraction of a second, with as few digits as it takes, three at a time. -/
def fraction (nano : ℕ) : List Char :=
  if nano = 0 then []
  else if nano % 1000000 = 0 then '.' :: pad 3 (nano / 1000000)
  else if nano % 1000 = 0 then '.' :: pad 6 (nano / 1000)
  else '.' :: pad 9 nano

/-- The characters of `to_rfc3339`. -/
def rfc3339Chars (t : Utc) : List Char :=
  pad 4 t.year ++ '-' :: (pad 2 t.month ++ '-' :: (pad 2 t.day ++ 'T' :: (pad 2 t.hour ++
    ':' :: (pad 2 t.minute ++ ':' :: (pad 2 t.second ++ (fraction t.nano ++
      "+00:00".toList))))))

/-- `to_rfc3339`. -/
def toRfc3339 (t : Utc) : String := String.ofList (rfc3339Chars t)

/-- How many digits a fraction leaves out. -/
theorem fraction_cases (nano : ℕ) : nano = 0 ∧ fraction nano = [] ∨
    ∃ e ≤ 9, 10 ^ e ∣ nano ∧ fraction nano = '.' :: pad (9 - e) (nano / 10 ^ e) := by
  by_cases hzero : nano = 0
  · exact Or.inl ⟨hzero, if_pos hzero⟩
  refine Or.inr ?_
  rw [fraction, if_neg hzero]
  split
  · exact ⟨6, by omega, by omega, rfl⟩
  split
  · exact ⟨3, by omega, by omega, rfl⟩
  · exact ⟨0, by omega, by omega, by simp⟩

theorem plus_lt_digit : ∀ d < 10, '+' < digit d := by decide

/-- The fractions, with what stands behind them, are in the order of the nanoseconds. -/
theorem below_fraction {n m : ℕ} (h : n < m) (hm : m < 1000000000) :
    Below (fraction n ++ "+00:00".toList) (fraction m ++ "+00:00".toList) := by
  obtain ⟨hzero, -⟩ | ⟨e', he', hdvd', hfrac'⟩ := fraction_cases m
  · omega
  rw [hfrac']
  obtain ⟨-, hfrac⟩ | ⟨e, he, hdvd, hfrac⟩ := fraction_cases n
  · rw [hfrac]
    exact Below.of_lt (by decide) _ _
  · rw [hfrac]
    exact (below_stripped plus_lt_digit h hm he he' hdvd hdvd' _ _).cons '.'

/-- A field of a text, and the fields behind it. -/
theorem below_field {w n m : ℕ} (hm : m < 10 ^ w) {x y : List Char}
    (h : n < m ∨ n = m ∧ Below x y) : Below (pad w n ++ x) (pad w m ++ y) := by
  obtain hlt | ⟨rfl, hbelow⟩ := h
  · exact (below_pad hlt hm).append _ _
  · exact hbelow.prepend _

theorem below_rfc3339Chars {s t : Utc} (h : s.nanos < t.nanos) :
    Below (rfc3339Chars s) (rfc3339Chars t) := by
  have hyear := t.year_mem
  have hmonth := t.month_mem
  have hday : t.day < 10 ^ 2 := by
    have hle := t.day_mem.2.trans (monthLength_le t.year t.month)
    omega
  have hhour := t.hour_lt
  have hminute := t.minute_lt
  have hsecond := t.second_lt
  rw [rfc3339Chars, rfc3339Chars]
  refine below_field (by omega) ?_
  obtain (hlt | ⟨heq, hlt | ⟨heq', hlt⟩⟩) | ⟨⟨heq, heq', heq''⟩, hlt⟩ := Utc.earlier_of_nanos_lt h
  · exact Or.inl hlt
  · exact Or.inr ⟨heq, (below_field (by omega) (Or.inl hlt)).cons _⟩
  · refine Or.inr ⟨heq, (below_field (by omega) (Or.inr ⟨heq', ?_⟩)).cons _⟩
    exact (below_field hday (Or.inl hlt)).cons _
  · refine Or.inr ⟨heq, (below_field (by omega) (Or.inr ⟨heq', ?_⟩)).cons _⟩
    refine (below_field hday (Or.inr ⟨heq'', ?_⟩)).cons _
    refine (below_field (by omega) (hlt.imp_right (And.imp_right fun hlt ↦ ?_))).cons _
    refine (below_field (by omega) (hlt.imp_right (And.imp_right fun hlt ↦ ?_))).cons _
    refine (below_field (by omega) (hlt.imp_right (And.imp_right fun hlt ↦ ?_))).cons _
    exact below_fraction hlt t.nano_lt

/-- **The texts are in the order of the instants.** -/
theorem toRfc3339_lt {s t : Utc} (h : s.nanos < t.nanos) : toRfc3339 s < toRfc3339 t := by
  rw [toRfc3339, toRfc3339, String.lt_iff_toList_lt, String.toList_ofList, String.toList_ofList]
  exact (below_rfc3339Chars h).lt

example : ∃ t : Utc, t.nano = 500000000 ∧ toRfc3339 t = "2024-02-29T23:59:59.500+00:00" :=
  ⟨⟨2024, 2, 29, 23, 59, 59, 500000000, by decide, by decide, by decide, by decide, by decide,
    by decide, by decide⟩, rfl, by decide⟩

end Chrono
