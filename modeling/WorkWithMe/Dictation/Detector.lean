import Mathlib.Data.List.Basic

/-!
# The silence detector

The samples of the microphone are cut into utterances by `SilenceDetector`: it buffers what is
pushed, looks at it in frames of 20 ms, and hands the whole buffer out once it has heard enough
speech followed by enough silence, or holds more than the longest chunk.

Whether a frame is silent is `rms(frame) < threshold` in floating point, so it is a parameter here:
`silent` says it of a frame.  The loop of `push` steps through the buffer by `frame_size` samples,
and a `frame_size` of zero does not step at all.  `analyse` therefore takes fuel, and `push` gives
it enough:

* `push_conserves` says that what is pushed is either handed out, with all that was there, or kept.
* `isSome_push_iff` says for which buffers the loop comes to an end at all, and
  `analyse_eq_none` that where `push` is `none` no fuel would have been enough.
-/

set_option autoImplicit false

namespace WorkWithMe.Dictation

universe u

variable {α : Type u}

/-! ## The detector -/

structure SilenceDetector (α : Type u) where
  silenceFramesNeeded : Nat
  minChunkSamples : Nat
  maxChunkSamples : Nat
  frameSize : Nat
  buffer : List α
  silentFrames : Nat
  /-- How many samples have been analysed. -/
  cursor : Nat
  /-- The samples of the frames that were not silent. -/
  speechSamples : Nat

namespace SilenceDetector

/-- The detector for a native rate.  The products are in `u32` and wrap around, as they do in a
release build. -/
def new (sampleRate silenceMs minChunkMs maxChunkMs : UInt32) : SilenceDetector α :=
  let frameMs : UInt32 := 20
  { silenceFramesNeeded := (silenceMs / frameMs).toNat
    minChunkSamples := (sampleRate * minChunkMs / 1000).toNat
    maxChunkSamples := (sampleRate * maxChunkMs / 1000).toNat
    frameSize := (sampleRate * frameMs / 1000).toNat
    buffer := []
    silentFrames := 0
    cursor := 0
    speechSamples := 0 }

/-- The detector that `take_buffer` and `flush` leave behind. -/
def cleared (d : SilenceDetector α) : SilenceDetector α :=
  { d with buffer := [], silentFrames := 0, cursor := 0, speechSamples := 0 }

def takeBuffer (d : SilenceDetector α) : List α × SilenceDetector α :=
  (d.buffer, d.cleared)

/-- What is left at the end of a recording, unless there was too little speech in it. -/
def flush (d : SilenceDetector α) : Option (List α) × SilenceDetector α :=
  if d.minChunkSamples ≤ d.speechSamples then
    let (chunk, d) := d.takeBuffer
    (some chunk, d)
  else
    (none, d.cleared)

def extend (d : SilenceDetector α) (samples : List α) : SilenceDetector α :=
  { d with buffer := d.buffer ++ samples }

/-- The frame at the cursor. -/
def frame (d : SilenceDetector α) : List α :=
  (d.buffer.drop d.cursor).take d.frameSize

/-- There is a complete frame that has not been analysed. -/
def HasFrame (d : SilenceDetector α) : Prop :=
  d.cursor + d.frameSize ≤ d.buffer.length

instance (d : SilenceDetector α) : Decidable d.HasFrame :=
  inferInstanceAs (Decidable (_ ≤ _))

/-- An utterance ends here: enough silence after enough speech. -/
def AtBoundary (d : SilenceDetector α) : Prop :=
  d.silenceFramesNeeded ≤ d.silentFrames ∧ d.minChunkSamples ≤ d.speechSamples

instance (d : SilenceDetector α) : Decidable d.AtBoundary :=
  inferInstanceAs (Decidable (_ ∧ _))

/-- One frame is analysed. -/
def analyseFrame (silent : List α → Bool) (d : SilenceDetector α) : SilenceDetector α :=
  if silent d.frame then
    { d with silentFrames := d.silentFrames + 1, cursor := d.cursor + d.frameSize }
  else
    { d with
      silentFrames := 0
      speechSamples := d.speechSamples + d.frameSize
      cursor := d.cursor + d.frameSize }

/-- The loop of `push`; `none` when it is not over after that many rounds. -/
def analyse (silent : List α → Bool) :
    Nat → SilenceDetector α → Option (Option (List α) × SilenceDetector α)
  | 0, _ => none
  | fuel + 1, d =>
    if d.HasFrame then
      let d := d.analyseFrame silent
      if d.AtBoundary then
        let (chunk, d) := d.takeBuffer
        some (some chunk, d)
      else
        analyse silent fuel d
    else
      some (none, d)

/-- Enough rounds for every loop that comes to an end. -/
def rounds (d : SilenceDetector α) : Nat :=
  d.buffer.length + d.silenceFramesNeeded + 1

/-- `push`; `none` when its loop never ends. -/
def push (silent : List α → Bool) (d : SilenceDetector α) (samples : List α) :
    Option (Option (List α) × SilenceDetector α) :=
  let d := d.extend samples
  if d.maxChunkSamples ≤ d.buffer.length then
    let (chunk, d) := d.takeBuffer
    some (some chunk, d)
  else
    analyse silent d.rounds d

variable {silent : List α → Bool} {d d' : SilenceDetector α} {samples : List α}
  {chunk : Option (List α)} {fuel : Nat}

@[simp] theorem buffer_new (rate silenceMs minMs maxMs : UInt32) :
    (new rate silenceMs minMs maxMs : SilenceDetector α).buffer = [] := rfl

@[simp] theorem frameSize_cleared : d.cleared.frameSize = d.frameSize := rfl

@[simp] theorem buffer_extend : (d.extend samples).buffer = d.buffer ++ samples := rfl

@[simp] theorem frameSize_extend : (d.extend samples).frameSize = d.frameSize := rfl

@[simp] theorem buffer_analyseFrame : (d.analyseFrame silent).buffer = d.buffer := by
  rw [analyseFrame]
  split <;> rfl

@[simp] theorem cursor_analyseFrame :
    (d.analyseFrame silent).cursor = d.cursor + d.frameSize := by
  rw [analyseFrame]
  split <;> rfl

@[simp] theorem frameSize_analyseFrame : (d.analyseFrame silent).frameSize = d.frameSize := by
  rw [analyseFrame]
  split <;> rfl

theorem flush_eq : d.flush =
    if d.minChunkSamples ≤ d.speechSamples then (some d.buffer, d.cleared)
    else (none, d.cleared) := rfl

theorem analyse_succ : analyse silent (fuel + 1) d =
    if d.HasFrame then
      if (d.analyseFrame silent).AtBoundary then
        some (some (d.analyseFrame silent).buffer, (d.analyseFrame silent).cleared)
      else analyse silent fuel (d.analyseFrame silent)
    else some (none, d) := rfl

theorem push_eq : d.push silent samples =
    if d.maxChunkSamples ≤ (d.buffer ++ samples).length then
      some (some (d.buffer ++ samples), d.cleared)
    else analyse silent (d.extend samples).rounds (d.extend samples) := rfl

/-! ## Nothing is lost -/

/-- What the loop does not hand out it keeps. -/
theorem analyse_conserves (h : analyse silent fuel d = some (chunk, d')) :
    chunk = some d.buffer ∧ d'.buffer = [] ∨ chunk = none ∧ d'.buffer = d.buffer := by
  induction fuel generalizing d with
  | zero => cases h
  | succ fuel ih =>
    rw [analyse_succ] at h
    split_ifs at h with hframe hbound
    · obtain ⟨rfl, rfl⟩ := Prod.mk.inj (Option.some.inj h)
      exact Or.inl ⟨by rw [buffer_analyseFrame], rfl⟩
    · simpa only [buffer_analyseFrame] using ih h
    · obtain ⟨rfl, rfl⟩ := Prod.mk.inj (Option.some.inj h)
      exact Or.inr ⟨rfl, rfl⟩

/-- **`push` hands the whole buffer out or keeps it**, with the samples that were pushed at its
end. -/
theorem push_conserves (h : d.push silent samples = some (chunk, d')) :
    chunk = some (d.buffer ++ samples) ∧ d'.buffer = [] ∨
      chunk = none ∧ d'.buffer = d.buffer ++ samples := by
  rw [push_eq] at h
  split_ifs at h with hmax
  · obtain ⟨rfl, rfl⟩ := Prod.mk.inj (Option.some.inj h)
    exact Or.inl ⟨rfl, rfl⟩
  · exact analyse_conserves h

theorem frameSize_analyse (h : analyse silent fuel d = some (chunk, d')) :
    d'.frameSize = d.frameSize := by
  induction fuel generalizing d with
  | zero => cases h
  | succ fuel ih =>
    rw [analyse_succ] at h
    split_ifs at h with hframe hbound
    · obtain ⟨-, rfl⟩ := Prod.mk.inj (Option.some.inj h)
      exact frameSize_analyseFrame
    · exact (ih h).trans frameSize_analyseFrame
    · obtain ⟨-, rfl⟩ := Prod.mk.inj (Option.some.inj h)
      rfl

/-- `push` leaves the frame size alone. -/
theorem frameSize_push (h : d.push silent samples = some (chunk, d')) :
    d'.frameSize = d.frameSize := by
  rw [push_eq] at h
  split_ifs at h with hmax
  · obtain ⟨-, rfl⟩ := Prod.mk.inj (Option.some.inj h)
    rfl
  · exact (frameSize_analyse h).trans frameSize_extend

/-- The frames of a native rate have samples from 50 Hz on, until the product wraps around. -/
theorem frameSize_new_pos {rate : UInt32} (hlow : 50 ≤ rate.toNat)
    (hhigh : rate.toNat * 20 < 4294967296) (silenceMs minMs maxMs : UInt32) :
    0 < (new rate silenceMs minMs maxMs : SilenceDetector α).frameSize := by
  show 0 < (rate * 20 / 1000).toNat
  have hproduct : (rate * 20).toNat = rate.toNat * 20 := by
    rw [UInt32.toNat_mul]
    exact Nat.mod_eq_of_lt hhigh
  rw [UInt32.toNat_div, hproduct]
  show 0 < rate.toNat * 20 / 1000
  omega

/-! ## The end of the loop -/

/-- The loop steps on, has nothing to look at, or counts silent frames until there are enough. -/
def Ends (d : SilenceDetector α) : Prop :=
  0 < d.frameSize ∨ d.buffer.length < d.cursor ∨ d.minChunkSamples ≤ d.speechSamples

instance (d : SilenceDetector α) : Decidable d.Ends :=
  inferInstanceAs (Decidable (_ ∨ _))

/-- A loop that steps on is over when it has seen the buffer. -/
theorem isSome_analyse_of_frameSize (hsize : 0 < d.frameSize)
    (hfuel : d.buffer.length ≤ d.cursor + fuel) : (analyse silent (fuel + 1) d).isSome := by
  induction fuel generalizing d with
  | zero =>
    rw [analyse_succ, if_neg]
    · rfl
    · rw [HasFrame]
      omega
  | succ fuel ih =>
    rw [analyse_succ]
    split_ifs with hframe
    · rfl
    · refine ih (by rwa [frameSize_analyseFrame]) ?_
      rw [buffer_analyseFrame, cursor_analyseFrame]
      omega
    · rfl

section EmptyFrames

variable (hsilent : silent [] = true) (hsize : d.frameSize = 0)

include hsilent hsize

/-- An empty frame is silent. -/
theorem analyseFrame_of_frameSize_eq_zero :
    d.analyseFrame silent = { d with silentFrames := d.silentFrames + 1 } := by
  have hframe : d.frame = [] := by rw [frame, hsize, List.take_zero]
  rw [analyseFrame, hframe, if_pos hsilent, hsize]
  rfl

/-- A loop that does not step on is over when it has counted enough silent frames. -/
theorem isSome_analyse_of_speech (hspeech : d.minChunkSamples ≤ d.speechSamples)
    (hfuel : d.silenceFramesNeeded ≤ d.silentFrames + fuel + 1) :
    (analyse silent (fuel + 1) d).isSome := by
  induction fuel generalizing d with
  | zero =>
    rw [analyse_succ, analyseFrame_of_frameSize_eq_zero hsilent hsize]
    split_ifs with hframe hbound
    · rfl
    · exact absurd ⟨hfuel, hspeech⟩ hbound
    · rfl
  | succ fuel ih =>
    rw [analyse_succ, analyseFrame_of_frameSize_eq_zero hsilent hsize]
    split_ifs with hframe hbound
    · rfl
    · refine ih hsize hspeech ?_
      change d.silenceFramesNeeded ≤ d.silentFrames + 1 + fuel + 1
      omega
    · rfl

/-- **Without a frame size and without speech, the loop never ends.** -/
theorem analyse_eq_none_of_frameSize_eq_zero (hcursor : d.cursor ≤ d.buffer.length)
    (hspeech : d.speechSamples < d.minChunkSamples) (fuel : Nat) :
    analyse silent fuel d = none := by
  induction fuel generalizing d with
  | zero => rfl
  | succ fuel ih =>
    have hframe : d.HasFrame := by
      rw [HasFrame]
      omega
    rw [analyse_succ, if_pos hframe, analyseFrame_of_frameSize_eq_zero hsilent hsize, if_neg]
    · exact ih hsize hcursor hspeech
    · exact fun hbound ↦ absurd hbound.2 (Nat.not_le_of_lt hspeech)

end EmptyFrames

/-- The rounds that `push` gives its loop are enough, if any are. -/
theorem isSome_analyse_rounds (hsilent : silent [] = true) (h : d.Ends) :
    (analyse silent d.rounds d).isSome := by
  rcases Nat.eq_zero_or_pos d.frameSize with hsize | hsize
  · rcases h with h | h | h
    · omega
    · rw [rounds, analyse_succ, if_neg]
      · rfl
      · rw [HasFrame]
        omega
    · exact isSome_analyse_of_speech hsilent hsize h (by omega)
  · exact isSome_analyse_of_frameSize hsize (by omega)

/-- **Where `push` is `none`, no fuel is enough.** -/
theorem analyse_eq_none (hsilent : silent [] = true) (h : analyse silent d.rounds d = none)
    (fuel : Nat) : analyse silent fuel d = none := by
  have hends : ¬ d.Ends := by
    intro hends
    have hsome := isSome_analyse_rounds hsilent hends
    rw [h] at hsome
    cases hsome
  unfold Ends at hends
  exact analyse_eq_none_of_frameSize_eq_zero hsilent (by omega) (by omega) (by omega) fuel

/-- **For which buffers `push` comes back.** -/
theorem isSome_push_iff (hsilent : silent [] = true) : (d.push silent samples).isSome ↔
    d.maxChunkSamples ≤ (d.buffer ++ samples).length ∨ (d.extend samples).Ends := by
  rw [push_eq]
  split_ifs with hmax
  · exact iff_of_true rfl (Or.inl hmax)
  · rw [or_iff_right hmax]
    refine ⟨fun h ↦ ?_, isSome_analyse_rounds hsilent⟩
    by_contra hends
    unfold Ends at hends
    rw [analyse_eq_none_of_frameSize_eq_zero hsilent (by omega) (by omega) (by omega)] at h
    cases h

end SilenceDetector

end WorkWithMe.Dictation
