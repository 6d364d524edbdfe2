import WorkWithMe.Dictation.Scratch

/-!
# The rates of the input device

Both buttons make a detector with `SilenceDetector::new(native_rate, 0.01, 300, 300, 10000)`, for
whatever rate the input device reports, and `new` asserts only that it is above zero.  Its sizes are
products in 32 bits, divided by a thousand.  At the upper end the products wrap around, and at the
lower end the quotients are zero: then the frames are empty, and the loop of `push` does not step
on.

`WorksAt` says what a rate needs, and `worksAt_iff` for which it holds.
-/

set_option autoImplicit false

namespace WorkWithMe.Dictation

universe u

variable {α : Type u}

/-- The detector of a recording. -/
def recordingDetector (nativeRate : UInt32) : SilenceDetector α := .new nativeRate 300 300 10000

/-- `rms(frame) < 0.01`: the `rms` of an empty frame is zero, and of the others `quiet` says whether
it is below the threshold. -/
def silentFrame (quiet : List α → Bool) (frame : List α) : Bool := frame.isEmpty || quiet frame

/-- **The detector works at the rate.**  No product wraps around, so the sizes are what they should
be, and whatever is in the detector, and whatever is pushed, `push` comes back. -/
structure WorksAt (quiet : List α → Bool) (rate : UInt32) : Prop where
  fits : ∀ ms ∈ [20, 300, 10000], rate.toNat * ms < 4294967296
  /-- 20 ms. -/
  frameSize : (recordingDetector rate : SilenceDetector α).frameSize = rate.toNat * 20 / 1000
  /-- 300 ms. -/
  minChunk : (recordingDetector rate : SilenceDetector α).minChunkSamples = rate.toNat * 300 / 1000
  /-- 10 s. -/
  maxChunk :
    (recordingDetector rate : SilenceDetector α).maxChunkSamples = rate.toNat * 10000 / 1000
  ends : ∀ d, (recordingDetector rate : SilenceDetector α).SameSettings d →
    ∀ samples, (d.push (silentFrame quiet) samples).isSome

/-- The number of samples that `new` computes for as many milliseconds. -/
theorem toNat_samples (rate ms : UInt32) (h : rate.toNat * ms.toNat < 4294967296) :
    (rate * ms / 1000).toNat = rate.toNat * ms.toNat / 1000 := by
  rw [UInt32.toNat_div, UInt32.toNat_mul]
  exact congrArg (· / 1000) (Nat.mod_eq_of_lt h)

section Sizes

variable {rate : UInt32} (hfits : ∀ ms ∈ [20, 300, 10000], rate.toNat * ms < 4294967296)

include hfits

theorem frameSize_recordingDetector :
    (recordingDetector rate : SilenceDetector α).frameSize = rate.toNat * 20 / 1000 :=
  toNat_samples rate 20 (hfits 20 (by decide))

theorem minChunkSamples_recordingDetector :
    (recordingDetector rate : SilenceDetector α).minChunkSamples = rate.toNat * 300 / 1000 :=
  toNat_samples rate 300 (hfits 300 (by decide))

theorem maxChunkSamples_recordingDetector :
    (recordingDetector rate : SilenceDetector α).maxChunkSamples = rate.toNat * 10000 / 1000 :=
  toNat_samples rate 10000 (hfits 10000 (by decide))

end Sizes

/-- **At which rates the detector works**: at those of 50 Hz and more for which no product wraps
around, and below 4 Hz, where the shortest utterance has no samples either. -/
theorem worksAt_iff (quiet : List α → Bool) (rate : UInt32) :
    WorksAt quiet rate ↔ rate.toNat ≤ 3 ∨ 50 ≤ rate.toNat ∧ rate.toNat ≤ 429496 := by
  constructor
  · intro h
    have hfits := h.fits 10000 (by decide)
    by_contra hrate
    obtain ⟨hlow, hhigh⟩ : 4 ≤ rate.toNat ∧ rate.toNat ≤ 49 := by omega
    -- the first frame is empty and silent, and there is no speech yet
    have hnone :
        (recordingDetector rate : SilenceDetector α).push (silentFrame quiet) [] = none := by
      rw [SilenceDetector.push_eq, if_neg]
      · refine SilenceDetector.analyse_eq_none_of_frameSize_eq_zero rfl ?_ le_rfl ?_ _
        · rw [SilenceDetector.frameSize_extend, h.frameSize]
          omega
        · show 0 < (recordingDetector rate : SilenceDetector α).minChunkSamples
          rw [h.minChunk]
          omega
      · rw [h.maxChunk]
        show ¬ rate.toNat * 10000 / 1000 ≤ 0
        omega
    have hsome := h.ends (recordingDetector rate) ⟨rfl, rfl, rfl, rfl⟩ []
    rw [hnone] at hsome
    exact Bool.false_ne_true hsome
  · intro hrate
    have hfits : ∀ ms ∈ [20, 300, 10000], rate.toNat * ms < 4294967296 := by
      intro ms hms
      obtain rfl | rfl | rfl : ms = 20 ∨ ms = 300 ∨ ms = 10000 := by simpa using hms
      all_goals omega
    refine ⟨hfits, frameSize_recordingDetector hfits, minChunkSamples_recordingDetector hfits,
      maxChunkSamples_recordingDetector hfits, fun d hd samples ↦ ?_⟩
    rw [SilenceDetector.isSome_push_iff rfl]
    right
    obtain hlow | ⟨hlow, -⟩ := hrate
    · -- every frame is empty, and enough of them are an utterance
      right; right
      show d.minChunkSamples ≤ d.speechSamples
      rw [hd.minChunk, minChunkSamples_recordingDetector hfits]
      omega
    · left
      rw [SilenceDetector.frameSize_extend, hd.frameSize, frameSize_recordingDetector hfits]
      omega

/-- **The detector does not work at every rate**: at 768 kHz the size of the longest chunk wraps
around. -/
theorem not_forall_worksAt :
    ¬ ∀ (quiet : List Unit → Bool) (rate : UInt32), 0 < rate.toNat → WorksAt quiet rate := by
  intro hall
  have hfits := (hall (fun _ ↦ false) 768000 (by decide)).fits 10000 (by decide)
  exact absurd hfits (by decide)

end WorkWithMe.Dictation
