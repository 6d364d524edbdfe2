import Mathlib.Tactic.Linarith
import WorkWithMe.Lib.Decimal
import WorkWithMe.Lib.Lines
import WorkWithMe.Lib.Rust

/-!
# The length of a recording

`ffmpeg -i` prints how long a file is, as `HH:MM:SS.ss`, and `parse_duration_str` of `recorder.rs`
makes milliseconds of it.  It is a parser by hand: three parts between colons, and of the third one
what is before the first dot and what is between that and the next.  The arithmetic is on `u64`, and
what it does where a number gets too large is decided by the build.

* `Duration` is a text of the form `H:M:S` or `H:M:S.F`, and `Duration.value` the milliseconds it
  stands for, rounded down.
* `Law` is that a text is refused or is such a text and read as what it stands for, and that it is
  read where that fits in 64 bits.  It does not hold of a fraction of four digits:
  `not_durationLaw`.
* **`durationLaw_iff_meets`** says for which texts it holds.
* `parseDurationFromOutput_eq` is that the length of a recording is found in what `ffmpeg` prints.
-/

set_option autoImplicit false

namespace WorkWithMe.Recorder

/-! ## The parser -/

/-- How the program is built. -/
inductive Build where
  /-- Arithmetic that overflows panics. -/
  | debug
  /-- Arithmetic that overflows wraps around. -/
  | release
  deriving DecidableEq

/-- The `u64` that an operation gives, of which `n` is the result in the whole numbers. -/
def Build.u64 : Build → ℕ → Option ℕ
  | .debug, n => if n < 2 ^ 64 then some n else none
  | .release, n => some (n % 2 ^ 64)

/-- The milliseconds of what stands behind the first dot.  A text that is no number counts as
zero. -/
def fracMillis (build : Build) (frac : List Char) : Option ℕ :=
  let v := (Decimal.parse 64 frac).getD 0
  if Rust.byteLen frac = 1 then build.u64 (v * 100)
  else if Rust.byteLen frac = 2 then build.u64 (v * 10)
  else some v

/-- `h * 3_600_000 + m * 60_000 + sec * 1_000 + ms`. -/
def totalMillis (build : Build) (h m sec ms : ℕ) : Option ℕ :=
  (build.u64 (h * 3600000)).bind fun a ↦
    (build.u64 (m * 60000)).bind fun b ↦
      (build.u64 (a + b)).bind fun c ↦
        (build.u64 (sec * 1000)).bind fun d ↦
          (build.u64 (c + d)).bind fun e ↦ build.u64 (e + ms)

/-- `parse_duration_str`; nothing where it panics. -/
def parseDurationStr (build : Build) (s : String) : Option (Except String ℕ) :=
  match s.toList.splitOn ':' with
  | [hours, minutes, seconds] =>
    match Decimal.parse 64 hours with
    | none => some (.error ("parse hours: " ++ .ofList hours))
    | some h =>
      match Decimal.parse 64 minutes with
      | none => some (.error ("parse minutes: " ++ .ofList minutes))
      | some m =>
        let secFrac := seconds.splitOn '.'
        match Decimal.parse 64 (secFrac.headD []) with
        | none => some (.error ("parse seconds: " ++ .ofList (secFrac.headD [])))
        | some sec =>
          ((secFrac[1]?.elim (some 0) (fracMillis build)).bind
            (totalMillis build h m sec)).map .ok
  | _ => some (.error ("unexpected duration format: " ++ s))

/-- What the line with the duration begins with. -/
def durationKey : List Char := "Duration:".toList

/-- What `parse_duration_from_output` takes from a line, which is trimmed. -/
def durationText (trimmed : String) : String :=
  let afterColon := Rust.trim (.ofList (Rust.trimStartMatches durationKey trimmed.toList))
  Rust.trim (.ofList ((afterColon.toList.splitOn ',').headD []))

/-- `parse_duration_from_output`. -/
def parseDurationFromOutput (build : Build) (output : String) : Option (Except String ℕ) :=
  match ((Lines.strLines output.toList).map fun line ↦ Rust.trim (.ofList line)).find?
    fun trimmed ↦ durationKey <+: trimmed.toList with
  | some trimmed => parseDurationStr build (durationText trimmed)
  | none => some (.error "Duration not found in ffmpeg output")

/-! ## The law -/

/-- A text of the form `H:M:S` or `H:M:S.F`. -/
structure Duration where
  /-- The digits of the hours. -/
  hours : List Char
  /-- The digits of the minutes. -/
  minutes : List Char
  /-- The digits of the seconds. -/
  seconds : List Char
  /-- The digits behind the dot, if there is one. -/
  fraction : Option (List Char)
  /-- The hours are digits. -/
  numeral_hours : Decimal.Numeral hours
  /-- The minutes are digits. -/
  numeral_minutes : Decimal.Numeral minutes
  /-- The seconds are digits. -/
  numeral_seconds : Decimal.Numeral seconds
  /-- What is behind the dot are digits. -/
  numeral_fraction : ∀ f ∈ fraction, Decimal.Numeral f

namespace Duration

/-- The third part of the text. -/
def secText (d : Duration) : List Char := d.seconds ++ d.fraction.elim [] ('.' :: ·)

/-- The text. -/
def text (d : Duration) : List Char := d.hours ++ ':' :: (d.minutes ++ ':' :: d.secText)

/-- The milliseconds of the decimal fraction, rounded down. -/
def millis (d : Duration) : ℕ :=
  d.fraction.elim 0 fun f ↦ Decimal.value f * 1000 / 10 ^ f.length

/-- **The milliseconds that the text stands for**, rounded down. -/
def value (d : Duration) : ℕ :=
  (3600 * Decimal.value d.hours + 60 * Decimal.value d.minutes + Decimal.value d.seconds) * 1000 +
    d.millis

end Duration

/-- The text is refused, or it is a duration and read as what it stands for; and a duration that
fits in 64 bits is read. -/
structure Law (build : Build) (s : String) : Prop where
  /-- What is read is right. -/
  exact : (∃ e, parseDurationStr build s = some (.error e)) ∨
    ∃ d : Duration, d.text = s.toList ∧ parseDurationStr build s = some (.ok d.value)
  /-- What fits is read. -/
  accepts : ∀ d : Duration, d.text = s.toList → d.value < 2 ^ 64 →
    ∃ v, parseDurationStr build s = some (.ok v)

/-- The text has three parts, and hours, minutes and seconds that are read as numbers. -/
def Read (s : String) : Prop :=
  ∃ hours minutes seconds, s.toList.splitOn ':' = [hours, minutes, seconds] ∧
    (Decimal.parse 64 hours).isSome ∧ (Decimal.parse 64 minutes).isSome ∧
      (Decimal.parse 64 ((seconds.splitOn '.').headD [])).isSome

/-- A fraction that the parser reads as it stands: it has three digits at most, or is zero, or is
too large for 64 bits and begins with three zeros. -/
def ReadExactly (f : List Char) : Prop :=
  f.length ≤ 3 ∨ Decimal.value f = 0 ∨
    2 ^ 64 ≤ Decimal.value f ∧ Decimal.value f < 10 ^ (f.length - 3)

instance (f : List Char) : Decidable (ReadExactly f) :=
  inferInstanceAs (Decidable (_ ∨ _ ∨ _ ∧ _))

/-- A text that is read as three numbers is a duration that fits in 64 bits, with a fraction that is
read as it stands. -/
def Meets (s : String) : Prop :=
  Read s → ∃ d : Duration, d.text = s.toList ∧ d.value < 2 ^ 64 ∧ ∀ f ∈ d.fraction, ReadExactly f

/-! ## The arithmetic -/

section Arithmetic

variable {build : Build} {n r h m sec ms : ℕ} {f : List Char}

theorem Build.u64_of_lt (build : Build) (hn : n < 2 ^ 64) : build.u64 n = some n := by
  cases build with
  | debug => exact if_pos hn
  | release => rw [Build.u64, Nat.mod_eq_of_lt hn]

/-- Whatever an operation gives is a `u64`, and right but for multiples of two to the 64. -/
theorem Build.of_u64_eq_some (hr : build.u64 n = some r) :
    r < 2 ^ 64 ∧ r % 2 ^ 64 = n % 2 ^ 64 := by
  cases build with
  | debug =>
    rw [Build.u64] at hr
    split at hr
    · rename_i hlt
      cases hr
      exact ⟨hlt, rfl⟩
    · cases hr
  | release =>
    cases hr
    exact ⟨Nat.mod_lt _ (by positivity), Nat.mod_mod _ _⟩

theorem totalMillis_of_lt (build : Build)
    (hlt : h * 3600000 + m * 60000 + sec * 1000 + ms < 2 ^ 64) :
    totalMillis build h m sec ms = some (h * 3600000 + m * 60000 + sec * 1000 + ms) := by
  have hle : ∀ n ≤ h * 3600000 + m * 60000 + sec * 1000 + ms, build.u64 n = some n :=
    fun n hn ↦ build.u64_of_lt (hn.trans_lt hlt)
  have ha := hle (h * 3600000) (by omega)
  have hb := hle (m * 60000) (by omega)
  have hc := hle (h * 3600000 + m * 60000) (by omega)
  have hd := hle (sec * 1000) (by omega)
  have he := hle (h * 3600000 + m * 60000 + sec * 1000) (by omega)
  rw [totalMillis, ha, Option.bind_some, hb, Option.bind_some, hc, Option.bind_some, hd,
    Option.bind_some, he, Option.bind_some, hle _ le_rfl]

theorem of_totalMillis_eq_some (hr : totalMillis build h m sec ms = some r) :
    r < 2 ^ 64 ∧ r % 2 ^ 64 = (h * 3600000 + m * 60000 + sec * 1000 + ms) % 2 ^ 64 := by
  obtain ⟨a, ha, hr⟩ := Option.bind_eq_some_iff.mp hr
  obtain ⟨b, hb, hr⟩ := Option.bind_eq_some_iff.mp hr
  obtain ⟨c, hc, hr⟩ := Option.bind_eq_some_iff.mp hr
  obtain ⟨d, hd, hr⟩ := Option.bind_eq_some_iff.mp hr
  obtain ⟨e, he, hr⟩ := Option.bind_eq_some_iff.mp hr
  have ha := (Build.of_u64_eq_some ha).2
  have hb := (Build.of_u64_eq_some hb).2
  have hc := (Build.of_u64_eq_some hc).2
  have hd := (Build.of_u64_eq_some hd).2
  have he := (Build.of_u64_eq_some he).2
  have hr := Build.of_u64_eq_some hr
  refine ⟨hr.1, ?_⟩
  have hmod := hr.2
  omega

/-- What the parser makes of the digits behind the dot. -/
theorem fracMillis_of_numeral (build : Build) (hf : Decimal.Numeral f) :
    fracMillis build f = some (
      if f.length = 1 then Decimal.value f * 100
      else if f.length = 2 then Decimal.value f * 10
      else if Decimal.value f < 2 ^ 64 then Decimal.value f else 0) := by
  have hlt := Decimal.value_lt hf.digits
  rw [fracMillis, Decimal.byteLen_of_digits hf.digits]
  by_cases hv : Decimal.value f < 2 ^ 64
  · rw [Decimal.parse_of_numeral hf hv, Option.getD_some, if_pos hv]
    split_ifs with h₁ h₂
    · rw [h₁] at hlt
      exact build.u64_of_lt (by omega)
    · rw [h₂] at hlt
      exact build.u64_of_lt (by omega)
    · rfl
  · rw [Decimal.parse_eq_none_of_le hf (Nat.not_lt.mp hv), Option.getD_none, if_neg hv]
    split_ifs with h₁ h₂
    · rw [h₁] at hlt
      omega
    · rw [h₂] at hlt
      omega
    · rfl

/-- **Which fractions are read as they stand.** -/
theorem fracMillis_eq_iff (build : Build) (hf : Decimal.Numeral f) :
    fracMillis build f = some (Decimal.value f * 1000 / 10 ^ f.length) ↔ ReadExactly f := by
  have hlt := Decimal.value_lt hf.digits
  have hpos : f.length ≠ 0 := fun h ↦ hf.ne_nil (List.length_eq_zero_iff.mp h)
  rw [fracMillis_of_numeral build hf, Option.some_inj, ReadExactly]
  obtain h₁ | h₂ | h₃ | ⟨k, hk⟩ : f.length = 1 ∨ f.length = 2 ∨ f.length = 3 ∨
      ∃ k, f.length = k + 4 := by
    rcases Nat.lt_or_ge f.length 4 with h | h
    · omega
    · exact .inr (.inr (.inr ⟨f.length - 4, by omega⟩))
  · rw [h₁] at hlt ⊢
    rw [if_pos rfl]
    omega
  · rw [h₂] at hlt ⊢
    rw [if_neg (by omega), if_pos rfl]
    omega
  · rw [h₃] at hlt ⊢
    rw [if_neg (by omega), if_neg (by omega), if_pos (by omega)]
    omega
  · -- four digits or more: the value would have to be divided
    have hdiv : Decimal.value f * 1000 / 10 ^ f.length = Decimal.value f / 10 ^ (k + 1) := by
      have hpow : 10 ^ f.length = 10 ^ (k + 1) * 1000 := by rw [hk]; ring
      rw [hpow, Nat.mul_div_mul_right _ _ (by omega)]
    have hsub : f.length - 3 = k + 1 := by omega
    have hten : 10 ≤ 10 ^ (k + 1) := by
      have := Nat.one_le_pow k 10 (by omega)
      rw [pow_succ]
      omega
    rw [hdiv, hsub, if_neg (by omega), if_neg (by omega)]
    by_cases hv : Decimal.value f < 2 ^ 64
    · rw [if_pos hv]
      constructor
      · intro h
        refine .inr (.inl (Nat.eq_zero_of_not_pos fun hpos ↦ ?_))
        have := Nat.div_lt_self hpos (by omega : 1 < 10 ^ (k + 1))
        omega
      · rintro (h | h | h)
        · omega
        · rw [h, Nat.zero_div]
        · omega
    · rw [if_neg hv, eq_comm, Nat.div_eq_zero_iff]
      omega

end Arithmetic

/-! ## What is read -/

section Parser

variable {build : Build} {s : String} {d : Duration}

theorem splitOn_secText (d : Duration) :
    d.secText.splitOn '.' = d.seconds :: d.fraction.toList := by
  have hdot : ∀ cs : List Char, Decimal.Numeral cs → '.' ∉ cs :=
    fun cs h hmem ↦ absurd (h.digits '.' hmem) (by decide)
  cases hf : d.fraction with
  | none =>
    rw [Duration.secText, hf, Option.elim_none, List.append_nil,
      List.splitOn_eq_singleton (hdot _ d.numeral_seconds)]
    rfl
  | some f =>
    rw [Duration.secText, hf, Option.elim_some, List.splitOn_append_cons_self,
      List.splitOn_eq_singleton (hdot _ d.numeral_seconds),
      List.splitOn_eq_singleton (hdot _ (d.numeral_fraction f hf))]
    rfl

theorem splitOn_text (d : Duration) :
    d.text.splitOn ':' = [d.hours, d.minutes, d.secText] := by
  have hcolon : ∀ cs : List Char, Decimal.Numeral cs → ':' ∉ cs :=
    fun cs h hmem ↦ absurd (h.digits ':' hmem) (by decide)
  have hsec : ':' ∉ d.secText := by
    rw [Duration.secText, List.mem_append, not_or]
    refine ⟨hcolon _ d.numeral_seconds, ?_⟩
    cases hf : d.fraction with
    | none => exact List.not_mem_nil
    | some f =>
      rw [Option.elim_some, List.mem_cons, not_or]
      exact ⟨by decide, hcolon f (d.numeral_fraction f hf)⟩
  rw [Duration.text, List.splitOn_append_cons_self, List.splitOn_append_cons_self,
    List.splitOn_eq_singleton (hcolon _ d.numeral_hours),
    List.splitOn_eq_singleton (hcolon _ d.numeral_minutes), List.splitOn_eq_singleton hsec]
  rfl

/-- What is made of three numbers. -/
theorem parseDurationStr_of_splitOn {hours minutes seconds : List Char} {h m sec : ℕ}
    (build : Build) (hsplit : s.toList.splitOn ':' = [hours, minutes, seconds])
    (hh : Decimal.parse 64 hours = some h) (hm : Decimal.parse 64 minutes = some m)
    (hsec : Decimal.parse 64 ((seconds.splitOn '.').headD []) = some sec) :
    parseDurationStr build s = (((seconds.splitOn '.')[1]?.elim (some 0) (fracMillis build)).bind
      (totalMillis build h m sec)).map .ok := by
  simp only [parseDurationStr, hsplit, hh, hm, hsec]

/-- A text with three numbers is not refused. -/
theorem ne_error_of_read (h : Read s) (e : String) :
    parseDurationStr build s ≠ some (.error e) := by
  obtain ⟨hours, minutes, seconds, hsplit, hh, hm, hsec⟩ := h
  obtain ⟨h, hh⟩ := Option.isSome_iff_exists.mp hh
  obtain ⟨m, hm⟩ := Option.isSome_iff_exists.mp hm
  obtain ⟨sec, hsec⟩ := Option.isSome_iff_exists.mp hsec
  rw [parseDurationStr_of_splitOn build hsplit hh hm hsec]
  intro herr
  obtain ⟨v, -, hv⟩ := Option.map_eq_some_iff.mp herr
  cases hv

/-- **Every other text is refused.** -/
theorem error_of_not_read (build : Build) (h : ¬ Read s) :
    ∃ e, parseDurationStr build s = some (.error e) := by
  unfold parseDurationStr
  split
  case h_2 => exact ⟨_, rfl⟩
  case h_1 hours minutes seconds hsplit =>
    cases hh : Decimal.parse 64 hours with
    | none => exact ⟨_, rfl⟩
    | some _ =>
      cases hm : Decimal.parse 64 minutes with
      | none => exact ⟨_, rfl⟩
      | some _ =>
        cases hsec : Decimal.parse 64 ((seconds.splitOn '.').headD []) with
        | none => exact ⟨_, by simp only [hsec]; rfl⟩
        | some _ =>
          exact absurd ⟨hours, minutes, seconds, hsplit, by rw [hh]; rfl, by rw [hm]; rfl,
            by rw [hsec]; rfl⟩ h

/-- The numbers of a duration have 64 bits. -/
structure Duration.Fits (d : Duration) : Prop where
  /-- The hours. -/
  hours : Decimal.value d.hours < 2 ^ 64
  /-- The minutes. -/
  minutes : Decimal.value d.minutes < 2 ^ 64
  /-- The seconds. -/
  seconds : Decimal.value d.seconds < 2 ^ 64

theorem Duration.fits_of_value_lt (h : d.value < 2 ^ 64) : d.Fits := by
  have hle : ∀ n ≤ d.value, n < 2 ^ 64 := fun n hn ↦ hn.trans_lt h
  constructor <;> exact hle _ (by rw [Duration.value]; omega)

/-- A duration is read if its numbers have 64 bits, and then as the sum of what they stand for. -/
theorem parseDurationStr_of_fits (build : Build) (hd : d.text = s.toList) (hfits : d.Fits) :
    parseDurationStr build s = ((d.fraction.elim (some 0) (fracMillis build)).bind
      (totalMillis build (Decimal.value d.hours) (Decimal.value d.minutes)
        (Decimal.value d.seconds))).map .ok := by
  have hfrac : (d.secText.splitOn '.')[1]? = d.fraction := by
    rw [splitOn_secText]
    cases d.fraction <;> rfl
  have hsec : Decimal.parse 64 ((d.secText.splitOn '.').headD []) =
      some (Decimal.value d.seconds) := by
    rw [splitOn_secText]
    exact Decimal.parse_of_numeral d.numeral_seconds hfits.seconds
  rw [parseDurationStr_of_splitOn build (hd ▸ splitOn_text d)
    (Decimal.parse_of_numeral d.numeral_hours hfits.hours)
    (Decimal.parse_of_numeral d.numeral_minutes hfits.minutes) hsec, hfrac]

/-- **The numbers of a duration are read** if they have 64 bits. -/
theorem read_iff_fits (hd : d.text = s.toList) : Read s ↔ d.Fits := by
  have hsome : ∀ cs, Decimal.Numeral cs →
      ((Decimal.parse 64 cs).isSome ↔ Decimal.value cs < 2 ^ 64) := by
    intro cs hcs
    constructor
    · intro h
      obtain ⟨n, hn⟩ := Option.isSome_iff_exists.mp h
      exact Decimal.eq_value_of_parse hcs hn ▸ Decimal.lt_of_parse hn
    · intro h
      rw [Decimal.parse_of_numeral hcs h]
      rfl
  have hsplit := hd ▸ splitOn_text d
  have hsec : (d.secText.splitOn '.').headD [] = d.seconds := by rw [splitOn_secText]; rfl
  constructor
  · rintro ⟨hours, minutes, seconds, hparts, hh, hm, hs⟩
    rw [hsplit] at hparts
    simp only [List.cons.injEq, and_true] at hparts
    obtain ⟨rfl, rfl, rfl⟩ := hparts
    rw [hsec] at hs
    exact ⟨(hsome _ d.numeral_hours).mp hh, (hsome _ d.numeral_minutes).mp hm,
      (hsome _ d.numeral_seconds).mp hs⟩
  · intro hfits
    exact ⟨d.hours, d.minutes, d.secText, hsplit, (hsome _ d.numeral_hours).mpr hfits.hours,
      (hsome _ d.numeral_minutes).mpr hfits.minutes,
      hsec ▸ (hsome _ d.numeral_seconds).mpr hfits.seconds⟩

/-- The milliseconds of a fraction are less than a second. -/
theorem Duration.millis_lt (d : Duration) : d.millis < 1000 := by
  rw [Duration.millis]
  cases hf : d.fraction with
  | none => simp
  | some f =>
    have hlt := Decimal.value_lt (d.numeral_fraction f hf).digits
    rw [Option.elim_some, Nat.div_lt_iff_lt_mul (by positivity)]
    omega

/-- Which fractions are read as they stand, if there is one. -/
theorem fraction_eq_iff (build : Build) (d : Duration) :
    d.fraction.elim (some 0) (fracMillis build) = some d.millis ↔
      ∀ f ∈ d.fraction, ReadExactly f := by
  rw [Duration.millis]
  cases hf : d.fraction with
  | none => simp
  | some f => simp [fracMillis_eq_iff build (d.numeral_fraction f hf)]

/-- What is read of a fraction is a `u64`. -/
theorem fraction_lt {ms : ℕ} (h : d.fraction.elim (some 0) (fracMillis build) = some ms) :
    ms < 2 ^ 64 := by
  cases hf : d.fraction with
  | none =>
    rw [hf] at h
    cases h
    positivity
  | some f =>
    have hnum := d.numeral_fraction f hf
    have hlt := Decimal.value_lt hnum.digits
    rw [hf, Option.elim_some, fracMillis_of_numeral build hnum] at h
    cases h
    split_ifs with h₁ h₂ h₃
    · rw [h₁] at hlt
      omega
    · rw [h₂] at hlt
      omega
    · exact h₃
    · positivity

/-- **A duration is read as what it stands for** just when that fits in 64 bits and its fraction is
read as it stands. -/
theorem parseDurationStr_eq_value_iff (build : Build) (hd : d.text = s.toList) (hfits : d.Fits) :
    parseDurationStr build s = some (.ok d.value) ↔
      d.value < 2 ^ 64 ∧ ∀ f ∈ d.fraction, ReadExactly f := by
  have hvalue : d.value = Decimal.value d.hours * 3600000 + Decimal.value d.minutes * 60000 +
      Decimal.value d.seconds * 1000 + d.millis := by
    rw [Duration.value]
    omega
  rw [parseDurationStr_of_fits build hd hfits, ← fraction_eq_iff build]
  constructor
  · intro h
    obtain ⟨v, hv, hok⟩ := Option.map_eq_some_iff.mp h
    obtain rfl : v = d.value := by cases hok; rfl
    obtain ⟨ms, hms, htotal⟩ := Option.bind_eq_some_iff.mp hv
    obtain ⟨hlt, hmod⟩ := of_totalMillis_eq_some htotal
    have hmslt := fraction_lt hms
    have hmillis := d.millis_lt
    refine ⟨hlt, ?_⟩
    rw [hms, Option.some_inj]
    omega
  · rintro ⟨hlt, hms⟩
    rw [hms, Option.bind_some, totalMillis_of_lt build (hvalue ▸ hlt), ← hvalue]
    rfl

theorem Law.meets (hlaw : Law build s) : Meets s := by
  intro hread
  obtain ⟨e, he⟩ | ⟨d, hd, hvalue⟩ := hlaw.exact
  · exact absurd he (ne_error_of_read hread e)
  · exact ⟨d, hd, (parseDurationStr_eq_value_iff build hd ((read_iff_fits hd).mp hread)).mp hvalue⟩

theorem Meets.law (build : Build) (hmeets : Meets s) : Law build s := by
  have hexact : Read s → ∃ d : Duration, d.text = s.toList ∧
      parseDurationStr build s = some (.ok d.value) := by
    intro hread
    obtain ⟨d, hd, h⟩ := hmeets hread
    exact ⟨d, hd, (parseDurationStr_eq_value_iff build hd ((read_iff_fits hd).mp hread)).mpr h⟩
  refine ⟨?_, fun d hd hlt ↦ ?_⟩
  · by_cases hread : Read s
    · exact .inr (hexact hread)
    · exact .inl (error_of_not_read build hread)
  · obtain ⟨d', -, h⟩ := hexact ((read_iff_fits hd).mpr (Duration.fits_of_value_lt hlt))
    exact ⟨_, h⟩

end Parser

/-! ## The output of ffmpeg -/

section Output

variable {build : Build} {d : Duration}

/-- No character of a duration is white space or a comma. -/
theorem Duration.of_mem_text {c : Char} (h : c ∈ d.text) :
    c.isDigit = true ∨ c = ':' ∨ c = '.' := by
  have hsec : ∀ c ∈ d.secText, c.isDigit = true ∨ c = '.' := by
    intro c hc
    rcases List.mem_append.mp hc with hc | hc
    · exact .inl (d.numeral_seconds.digits c hc)
    · cases hf : d.fraction with
      | none => rw [hf] at hc; cases hc
      | some f =>
        rw [hf, Option.elim_some, List.mem_cons] at hc
        exact hc.elim .inr fun hc ↦ .inl ((d.numeral_fraction f hf).digits c hc)
  rw [Duration.text, List.mem_append, List.mem_cons, List.mem_append, List.mem_cons] at h
  rcases h with h | h | h | h | h
  · exact .inl (d.numeral_hours.digits c h)
  · exact .inr (.inl h)
  · exact .inl (d.numeral_minutes.digits c h)
  · exact .inr (.inl h)
  · exact (hsec c h).imp_right .inr

theorem Duration.not_isWhitespace {c : Char} (h : c ∈ d.text) : Rust.isWhitespace c = false := by
  rcases of_mem_text h with h | rfl | rfl
  · have hc := Decimal.toNat_of_isDigit h
    simp [Rust.isWhitespace]
    omega
  · decide
  · decide

theorem Duration.text_ne_nil (d : Duration) : d.text ≠ [] :=
  List.append_ne_nil_of_left_ne_nil d.numeral_hours.ne_nil _

/-- The line with a duration, and a comma behind it. -/
def Duration.line (d : Duration) (rest : List Char) : List Char :=
  ' ' :: ' ' :: (durationKey ++ ' ' :: (d.text ++ ',' :: rest))

section Line

variable {r : List Char}

/-- A text that has a comma before `r` ends with no white space. -/
theorem isWhitespace_getLast (hr : ∀ c ∈ r.getLast?, Rust.isWhitespace c = false)
    (front : List Char) : ∀ c ∈ (front ++ ',' :: r).getLast?, Rust.isWhitespace c = false := by
  intro c hc
  cases r with
  | nil =>
    rw [List.getLast?_concat] at hc
    cases hc
    decide
  | cons e r =>
    rw [List.getLast?_append_cons, List.getLast?_cons_cons] at hc
    exact hr c hc

theorem Duration.trim_text (d : Duration) : Rust.trim (.ofList d.text) = .ofList d.text := by
  have hhead : ∀ c ∈ d.text.head?, Rust.isWhitespace c = false :=
    fun c hc ↦ Duration.not_isWhitespace (List.mem_of_mem_head? hc)
  have h := Rust.trim_append (List.forall_mem_nil _) (List.forall_mem_nil _) hhead
    (fun c hc ↦ Duration.not_isWhitespace (List.mem_of_mem_getLast? hc))
  rwa [List.append_nil, List.nil_append] at h

/-- What is behind the colon of the line. -/
theorem Duration.trim_behind (d : Duration)
    (hr : ∀ c ∈ r.getLast?, Rust.isWhitespace c = false) :
    Rust.trim (.ofList (' ' :: (d.text ++ ',' :: r))) = .ofList (d.text ++ ',' :: r) := by
  have hspace : ∀ c ∈ [' '], Rust.isWhitespace c = true :=
    List.forall_mem_singleton.mpr (by decide)
  have hhead : ∀ c ∈ (d.text ++ ',' :: r).head?, Rust.isWhitespace c = false := by
    intro c hc
    rw [List.head?_append_of_ne_nil _ d.text_ne_nil] at hc
    exact Duration.not_isWhitespace (List.mem_of_mem_head? hc)
  have h := Rust.trim_append hspace (List.forall_mem_nil _) hhead (isWhitespace_getLast hr d.text)
  rwa [List.append_nil, List.singleton_append] at h

/-- The line without the white space around it. -/
theorem Duration.trim_line {w : List Char} (d : Duration)
    (hr : ∀ c ∈ r.getLast?, Rust.isWhitespace c = false)
    (hw : ∀ c ∈ w, Rust.isWhitespace c = true) :
    Rust.trim (.ofList (d.line (r ++ w))) =
      .ofList (durationKey ++ ' ' :: d.text ++ ',' :: r) := by
  have hspaces : ∀ c ∈ [' ', ' '], Rust.isWhitespace c = true :=
    List.forall_mem_cons.mpr ⟨by decide, List.forall_mem_singleton.mpr (by decide)⟩
  have hhead : ∀ c ∈ (durationKey ++ ' ' :: d.text ++ ',' :: r).head?,
      Rust.isWhitespace c = false := by
    intro c hc
    cases hc
    decide
  rw [← Rust.trim_append hspaces hw hhead (isWhitespace_getLast hr _), Duration.line]
  simp only [List.append_assoc, List.cons_append, List.nil_append]

end Line

/-- What is taken from a line that has the duration before its first comma. -/
theorem durationText_line (d : Duration) (rest : List Char) :
    durationKey <+: (Rust.trim (.ofList (d.line rest))).toList ∧
      durationText (Rust.trim (.ofList (d.line rest))) = .ofList d.text := by
  obtain ⟨r, w, rfl, hr, hw⟩ := Rust.exists_append_isWhitespace rest
  have hcomma : ',' ∉ d.text := fun h ↦ absurd (Duration.of_mem_text h) (by decide)
  have hbegins : ¬ durationKey <+: ' ' :: (d.text ++ ',' :: r) :=
    fun h ↦ absurd (List.cons_prefix_cons.mp h).1 (by decide)
  have hstart : Rust.trimStartMatches durationKey
      (durationKey ++ ' ' :: d.text ++ ',' :: r) = ' ' :: (d.text ++ ',' :: r) := by
    rw [List.append_assoc]
    exact Rust.trimStartMatches_append (by decide) hbegins
  have hofList : ∀ cs, (String.ofList cs).toList = cs := fun _ ↦ String.toList_ofList
  rw [d.trim_line hr hw]
  constructor
  · rw [hofList, List.append_assoc]
    exact List.prefix_append ..
  · rw [durationText, hofList (durationKey ++ ' ' :: d.text ++ ',' :: r), hstart,
      d.trim_behind hr, hofList (d.text ++ ',' :: r), List.splitOn_append_cons_self,
      List.splitOn_eq_singleton hcomma]
    exact d.trim_text

/-- **The length is read from the output of ffmpeg**: the first line that begins with `Duration:`
has it before its first comma. -/
theorem parseDurationFromOutput_eq (build : Build) {output : String}
    {before after : List (List Char)} {rest : List Char}
    (hlines : Lines.strLines output.toList = before ++ d.line rest :: after)
    (hbefore : ∀ line ∈ before, ¬ durationKey <+: (Rust.trim (.ofList line)).toList)
    (hlt : d.value < 2 ^ 64) (hfrac : ∀ f ∈ d.fraction, ReadExactly f) :
    parseDurationFromOutput build output = some (.ok d.value) := by
  obtain ⟨hbegins, htext⟩ := durationText_line d rest
  have hfind : ((Lines.strLines output.toList).map fun line ↦ Rust.trim (.ofList line)).find?
      (fun trimmed ↦ durationKey <+: trimmed.toList) =
        some (Rust.trim (.ofList (d.line rest))) := by
    rw [hlines, List.map_append, List.find?_append, List.find?_eq_none.mpr, Option.none_or,
      List.map_cons, List.find?_cons_of_pos]
    · exact decide_eq_true hbegins
    · intro t ht
      obtain ⟨line, hline, rfl⟩ := List.mem_map.mp ht
      simpa using hbefore line hline
  have hd : d.text = (String.ofList d.text).toList := String.toList_ofList.symm
  rw [parseDurationFromOutput, hfind]
  show parseDurationStr build (durationText _) = _
  rw [htext]
  exact (parseDurationStr_eq_value_iff build hd (Duration.fits_of_value_lt hlt)).mpr ⟨hlt, hfrac⟩

end Output

/-- **Which texts are read exactly.**  The law holds of a text if and only if its three numbers are
not read at all, or it is a duration that fits in 64 bits with a fraction that is read as it
stands; and the two builds do not differ in that. -/
theorem durationLaw_iff_meets (build : Build) (s : String) : Law build s ↔ Meets s :=
  ⟨Law.meets, Meets.law build⟩

/-- A fraction of four digits counts as that many milliseconds. -/
theorem not_durationLaw : ¬ Law .release "0:0:0.1234" := by
  intro hlaw
  have hread : Read "0:0:0.1234" :=
    ⟨['0'], ['0'], "0.1234".toList, by decide, by decide, by decide, by decide⟩
  obtain ⟨d, hd, -, hfrac⟩ := hlaw.meets hread
  have hsec : [d.hours, d.minutes, d.secText] = [['0'], ['0'], "0.1234".toList] := by
    rw [← splitOn_text, hd]
    decide
  have hsplit : d.seconds :: d.fraction.toList = [['0'], "1234".toList] := by
    simp only [List.cons.injEq, and_true] at hsec
    rw [← splitOn_secText, hsec.2.2]
    decide
  have hmem : "1234".toList ∈ d.fraction := by
    rw [List.cons.injEq] at hsplit
    exact Option.mem_toList.mp (hsplit.2 ▸ List.mem_singleton_self _)
  exact absurd (hfrac _ hmem) (by decide)

example : parseDurationStr .debug "0:0:0.1234" = some (.ok 1234) := by decide

end WorkWithMe.Recorder
