import Mathlib.Data.List.DropRight
import WorkWithMe.Dictation.Detector
import WorkWithMe.Lib.Machine

/-!
# The detector, from scratch

`SilenceDetector` keeps three numbers beside its buffer: how far it has looked, how long the silence
is that it heard last, and how much speech there was.  Here they are computed from the buffer alone,
with nothing remembered between two calls:

* `frames` are the complete frames at the beginning of a buffer, `speechAt` and `silenceAt` what
  there is to say of them, and `SplitsAt` says at which of their boundaries an utterance ends;
* `FromScratch` says that the numbers of a detector are those of its buffer, and `incremental` that
  they are so after every sequence of calls, and which call of `push` hands the buffer out.

`Aligned` is the invariant of the loop: the numbers are right up to the cursor, whether or not there
are more complete frames behind it.
-/

set_option autoImplicit false

namespace WorkWithMe.Dictation

universe u

variable {α : Type u}

/-! ## Frames -/

/-- The frame with the number, in frames of size `f`. -/
def frameAt (f : ℕ) (buffer : List α) (i : ℕ) : List α := (buffer.drop (i * f)).take f

/-- The first frames. -/
def frames (f : ℕ) (buffer : List α) (k : ℕ) : List (List α) :=
  (List.range k).map (frameAt f buffer)

/-- The samples of those of the first frames that are not silent. -/
def speechAt (silent : List α → Bool) (f : ℕ) (buffer : List α) (k : ℕ) : ℕ :=
  f * (frames f buffer k).countP fun frame ↦ !silent frame

/-- How many of the first frames, from the last one back, are silent. -/
def silenceAt (silent : List α → Bool) (f : ℕ) (buffer : List α) (k : ℕ) : ℕ :=
  ((frames f buffer k).rtakeWhile silent).length

/-- **The longest suffix** of the frames that is silent. -/
theorem silenceAt_isGreatest (silent : List α → Bool) (f : ℕ) (buffer : List α) (k : ℕ) :
    (∃ quiet, quiet <:+ frames f buffer k ∧ (∀ frame ∈ quiet, silent frame = true) ∧
      quiet.length = silenceAt silent f buffer k) ∧
      ∀ quiet, quiet <:+ frames f buffer k → (∀ frame ∈ quiet, silent frame = true) →
        quiet.length ≤ silenceAt silent f buffer k := by
  refine ⟨⟨_, List.rtakeWhile_suffix silent _, fun _ h ↦ List.mem_rtakeWhile_imp h, rfl⟩, ?_⟩
  rintro quiet ⟨before, hframes⟩ hquiet
  have hprefix : quiet.reverse <+: (frames f buffer k).reverse.takeWhile silent := by
    rw [← hframes, List.reverse_append, List.takeWhile_append_of_pos]
    · exact List.prefix_append _ _
    · exact fun frame h ↦ hquiet frame (List.mem_reverse.mp h)
  rw [silenceAt, List.rtakeWhile, List.length_reverse]
  simpa only [List.length_reverse] using hprefix.length_le

theorem frames_succ (f : ℕ) (buffer : List α) (k : ℕ) :
    frames f buffer (k + 1) = frames f buffer k ++ [frameAt f buffer k] := by
  rw [frames, List.range_succ, List.map_append, List.map_singleton]
  rfl

section Succ

variable {silent : List α → Bool} {f k : ℕ} {buffer : List α}

theorem speechAt_succ_of_silent (h : silent (frameAt f buffer k) = true) :
    speechAt silent f buffer (k + 1) = speechAt silent f buffer k := by
  rw [speechAt, speechAt, frames_succ, List.countP_append, List.countP_singleton, h]
  rfl

theorem speechAt_succ_of_speech (h : silent (frameAt f buffer k) = false) :
    speechAt silent f buffer (k + 1) = speechAt silent f buffer k + f := by
  rw [speechAt, speechAt, frames_succ, List.countP_append, List.countP_singleton, h]
  exact Nat.mul_succ f _

theorem silenceAt_succ_of_silent (h : silent (frameAt f buffer k) = true) :
    silenceAt silent f buffer (k + 1) = silenceAt silent f buffer k + 1 := by
  rw [silenceAt, frames_succ, List.rtakeWhile_concat_pos _ _ _ h, List.length_append]
  rfl

theorem silenceAt_succ_of_speech (h : silent (frameAt f buffer k) = false) :
    silenceAt silent f buffer (k + 1) = 0 := by
  have hspeech : ¬ silent (frameAt f buffer k) = true := by rw [h]; exact Bool.false_ne_true
  rw [silenceAt, frames_succ, List.rtakeWhile_concat_neg _ _ _ hspeech]
  rfl

end Succ

/-- A complete frame is the same in a longer buffer. -/
theorem frameAt_append {f i : ℕ} {buffer : List α} (samples : List α)
    (hi : (i + 1) * f ≤ buffer.length) :
    frameAt f (buffer ++ samples) i = frameAt f buffer i := by
  rw [Nat.succ_mul] at hi
  rw [frameAt, frameAt, List.drop_append_of_le_length (by omega), List.take_append_of_le_length]
  rw [List.length_drop]
  omega

/-- So are the complete frames. -/
theorem frames_append {f k : ℕ} {buffer : List α} (samples : List α)
    (hk : k * f ≤ buffer.length) : frames f (buffer ++ samples) k = frames f buffer k := by
  refine List.map_congr_left fun i hi ↦ frameAt_append samples ?_
  exact le_trans (Nat.mul_le_mul_right f (List.mem_range.mp hi)) hk

namespace SilenceDetector

/-! ## What a detector should know -/

/-- An utterance ends at this boundary of a frame of the buffer. -/
def SplitsAt (silent : List α → Bool) (d : SilenceDetector α) (buffer : List α) (j : ℕ) : Prop :=
  d.silenceFramesNeeded ≤ silenceAt silent d.frameSize buffer j ∧
    d.minChunkSamples ≤ speechAt silent d.frameSize buffer j

instance (silent : List α → Bool) (d : SilenceDetector α) (buffer : List α) (j : ℕ) :
    Decidable (d.SplitsAt silent buffer j) := inferInstanceAs (Decidable (_ ∧ _))

/-- The numbers are those of the first frames. -/
structure Aligned (silent : List α → Bool) (d : SilenceDetector α) (k : ℕ) : Prop where
  cursor : d.cursor = k * d.frameSize
  cursor_le : d.cursor ≤ d.buffer.length
  speech : d.speechSamples = speechAt silent d.frameSize d.buffer k
  silence : d.silentFrames = silenceAt silent d.frameSize d.buffer k
  unsplit : ∀ j, 1 ≤ j → j ≤ k → ¬ d.SplitsAt silent d.buffer j

/-- **The numbers are those of the buffer**: they are those of all its complete frames, and it is
shorter than the longest chunk. -/
structure FromScratch (silent : List α → Bool) (d : SilenceDetector α) (k : ℕ) : Prop
    extends Aligned silent d k where
  complete : d.buffer.length < d.cursor + d.frameSize
  short : d.buffer.length < d.maxChunkSamples

/-! ## The loop -/

variable {silent : List α → Bool} {d d' : SilenceDetector α} {samples : List α}
  {chunk : Option (List α)} {fuel k : ℕ}

/-- The settings of the detectors are the same. -/
structure SameSettings (d d' : SilenceDetector α) : Prop where
  needed : d'.silenceFramesNeeded = d.silenceFramesNeeded
  minChunk : d'.minChunkSamples = d.minChunkSamples
  maxChunk : d'.maxChunkSamples = d.maxChunkSamples
  frameSize : d'.frameSize = d.frameSize

theorem SameSettings.trans {d'' : SilenceDetector α} (h : d.SameSettings d')
    (h' : d'.SameSettings d'') : d.SameSettings d'' :=
  ⟨h'.needed.trans h.needed, h'.minChunk.trans h.minChunk, h'.maxChunk.trans h.maxChunk,
    h'.frameSize.trans h.frameSize⟩

theorem SameSettings.splitsAt_iff (h : d.SameSettings d') {buffer : List α} {j : ℕ} :
    d'.SplitsAt silent buffer j ↔ d.SplitsAt silent buffer j := by
  rw [SplitsAt, SplitsAt, h.needed, h.minChunk, h.frameSize]

theorem sameSettings_extend : d.SameSettings (d.extend samples) := ⟨rfl, rfl, rfl, rfl⟩

theorem sameSettings_analyseFrame : d.SameSettings (d.analyseFrame silent) := by
  rw [analyseFrame]
  split <;> exact ⟨rfl, rfl, rfl, rfl⟩

/-- The frame at the cursor is the next one. -/
theorem Aligned.frame_eq (h : d.Aligned silent k) : d.frame = frameAt d.frameSize d.buffer k := by
  rw [frame, frameAt, h.cursor]

/-- The next frame counts as speech or as silence. -/
theorem Aligned.counts (h : d.Aligned silent k) :
    (d.analyseFrame silent).speechSamples = speechAt silent d.frameSize d.buffer (k + 1) ∧
      (d.analyseFrame silent).silentFrames = silenceAt silent d.frameSize d.buffer (k + 1) := by
  rw [analyseFrame, h.frame_eq]
  split
  · rename_i hsilent
    rw [speechAt_succ_of_silent hsilent, silenceAt_succ_of_silent hsilent]
    exact ⟨h.speech, congrArg (· + 1) h.silence⟩
  · rename_i hspeech
    rw [Bool.not_eq_true] at hspeech
    rw [speechAt_succ_of_speech hspeech, silenceAt_succ_of_speech hspeech]
    exact ⟨congrArg (· + d.frameSize) h.speech, rfl⟩

/-- The loop stops where an utterance ends. -/
theorem Aligned.atBoundary_iff (h : d.Aligned silent k) :
    (d.analyseFrame silent).AtBoundary ↔ d.SplitsAt silent d.buffer (k + 1) := by
  have hsame : d.SameSettings (d.analyseFrame silent) := sameSettings_analyseFrame
  rw [AtBoundary, SplitsAt, hsame.needed, hsame.minChunk, h.counts.1, h.counts.2]

/-- **One round of the loop.**  Unless an utterance ends, the numbers are those of one more
frame. -/
theorem Aligned.analyseFrame (h : d.Aligned silent k) (hframe : d.HasFrame)
    (hsplit : ¬ d.SplitsAt silent d.buffer (k + 1)) :
    (d.analyseFrame silent).Aligned silent (k + 1) := by
  have hsame : d.SameSettings (d.analyseFrame silent) := sameSettings_analyseFrame
  constructor
  · rw [cursor_analyseFrame, frameSize_analyseFrame, h.cursor, Nat.succ_mul]
  · rw [cursor_analyseFrame, buffer_analyseFrame]
    exact hframe
  · rw [h.counts.1, frameSize_analyseFrame, buffer_analyseFrame]
  · rw [h.counts.2, frameSize_analyseFrame, buffer_analyseFrame]
  · intro j hone hj
    rw [hsame.splitsAt_iff, buffer_analyseFrame]
    obtain hj | rfl := Nat.le_succ_iff.mp hj
    · exact h.unsplit j hone hj
    · exact hsplit

/-- **What the loop does.**  It stops at the first boundary behind the cursor at which an utterance
ends, and else when there is no complete frame any more. -/
theorem Aligned.analyse (h : d.Aligned silent k) (hrun : analyse silent fuel d = some (chunk, d')) :
    (chunk = some d.buffer ∧ d' = d.cleared ∧
      ∃ j, k < j ∧ j * d.frameSize ≤ d.buffer.length ∧ d.SplitsAt silent d.buffer j) ∨
    (chunk = none ∧ d'.buffer = d.buffer ∧ d.SameSettings d' ∧ ¬ d'.HasFrame ∧
      ∃ k', d'.Aligned silent k') := by
  induction fuel generalizing d k with
  | zero => cases hrun
  | succ fuel ih =>
    have hsame : d.SameSettings (d.analyseFrame silent) := sameSettings_analyseFrame
    rw [analyse_succ] at hrun
    split_ifs at hrun with hframe hbound
    · -- an utterance ends behind the next frame
      obtain ⟨rfl, rfl⟩ := Prod.mk.inj (Option.some.inj hrun)
      refine Or.inl ⟨by rw [buffer_analyseFrame], ?_, k + 1, k.lt_succ_self, ?_,
        h.atBoundary_iff.mp hbound⟩
      · rw [cleared, cleared, hsame.needed, hsame.minChunk, hsame.maxChunk, hsame.frameSize]
      · rw [Nat.succ_mul, ← h.cursor]
        exact hframe
    · have hnext := h.analyseFrame hframe fun hsplit ↦ hbound (h.atBoundary_iff.mpr hsplit)
      obtain ⟨hchunk, hcleared, j, hj, hle, hsplit⟩ | ⟨hchunk, hbuffer, hsettings, hover, hk⟩ :=
        ih hnext hrun
      · rw [buffer_analyseFrame] at hchunk hle hsplit
        rw [frameSize_analyseFrame] at hle
        refine Or.inl ⟨hchunk, ?_, j, by omega, hle, hsame.splitsAt_iff.mp hsplit⟩
        rw [hcleared, cleared, cleared, hsame.needed, hsame.minChunk, hsame.maxChunk,
          hsame.frameSize]
      · rw [buffer_analyseFrame] at hbuffer
        exact Or.inr ⟨hchunk, hbuffer, hsame.trans hsettings, hover, hk⟩
    · obtain ⟨rfl, rfl⟩ := Prod.mk.inj (Option.some.inj hrun)
      exact Or.inr ⟨rfl, rfl, ⟨rfl, rfl, rfl, rfl⟩, hframe, k, h⟩

/-! ## The calls -/

/-- An empty buffer has no complete frame, and no numbers. -/
theorem fromScratch_of_cleared (hsize : 0 < d.frameSize) (hmax : 0 < d.maxChunkSamples) :
    d.cleared.FromScratch silent 0 where
  cursor := (Nat.zero_mul d.frameSize).symm
  cursor_le := le_rfl
  speech := rfl
  silence := rfl
  unsplit j hone hj := absurd (hone.trans hj) (by decide)
  complete := by
    show 0 < 0 + d.frameSize
    omega
  short := hmax

theorem FromScratch.frameSize_pos (h : d.FromScratch silent k) : 0 < d.frameSize := by
  have hle := h.cursor_le
  have hlt := h.complete
  omega

theorem FromScratch.maxChunk_pos (h : d.FromScratch silent k) : 0 < d.maxChunkSamples :=
  lt_of_le_of_lt (Nat.zero_le _) h.short

/-- More samples do not change what is known of the complete frames. -/
theorem Aligned.extend (h : d.Aligned silent k) (samples : List α) :
    (d.extend samples).Aligned silent k := by
  have hframes : ∀ j ≤ k,
      frames d.frameSize (d.buffer ++ samples) j = frames d.frameSize d.buffer j := by
    intro j hj
    refine frames_append samples ((Nat.mul_le_mul_right _ hj).trans ?_)
    rw [← h.cursor]
    exact h.cursor_le
  constructor
  · exact h.cursor
  · rw [buffer_extend, List.length_append]
    exact h.cursor_le.trans (Nat.le_add_right _ _)
  · rw [buffer_extend, frameSize_extend, speechAt, hframes k le_rfl]
    exact h.speech
  · rw [buffer_extend, frameSize_extend, silenceAt, hframes k le_rfl]
    exact h.silence
  · intro j hone hj
    rw [sameSettings_extend.splitsAt_iff, buffer_extend, SplitsAt, silenceAt, speechAt,
      hframes j hj]
    exact h.unsplit j hone hj

/-- Enough samples for a chunk, or an utterance that ends in one of the frames that are new. -/
def HandsOut (silent : List α → Bool) (d : SilenceDetector α) (samples : List α) : Prop :=
  d.maxChunkSamples ≤ (d.buffer ++ samples).length ∨
    ∃ j, d.cursor < j * d.frameSize ∧ j * d.frameSize ≤ (d.buffer ++ samples).length ∧
      d.SplitsAt silent (d.buffer ++ samples) j

/-- **A call of `push`**: it comes back, hands out the whole buffer or nothing, and leaves a
detector behind whose numbers are again those of its buffer. -/
theorem FromScratch.push (h : d.FromScratch silent k) (samples : List α) :
    ∃ chunk d', d.push silent samples = some (chunk, d') ∧ (∃ k', d'.FromScratch silent k') ∧
      (chunk.isSome ↔ d.HandsOut silent samples) ∧ ∀ c ∈ chunk, c = d.buffer ++ samples := by
  have hsize := h.frameSize_pos
  rw [push_eq]
  split_ifs with hmax
  · refine ⟨_, _, rfl, ⟨0, fromScratch_of_cleared hsize h.maxChunk_pos⟩,
      iff_of_true rfl (.inl hmax), fun c hc ↦ (Option.some.inj hc).symm⟩
  · have halign := h.toAligned.extend samples
    obtain ⟨⟨chunk, d'⟩, hrun⟩ : ∃ r, analyse silent (d.extend samples).rounds (d.extend samples) =
        some r := Option.isSome_iff_exists.mp (isSome_analyse_of_frameSize hsize (by omega))
    refine ⟨chunk, d', hrun, ?_⟩
    obtain ⟨rfl, rfl, j, hj, hle, hsplit⟩ | ⟨rfl, hbuffer, hsettings, hover, k', hk'⟩ :=
      halign.analyse hrun
    · refine ⟨⟨0, fromScratch_of_cleared hsize h.maxChunk_pos⟩, iff_of_true rfl (.inr ⟨j, ?_, hle,
        sameSettings_extend.splitsAt_iff.mp hsplit⟩), fun c hc ↦ (Option.some.inj hc).symm⟩
      rw [h.cursor]
      exact (Nat.mul_lt_mul_right hsize).mpr hj
    · rw [HasFrame, not_le] at hover
      have hsame : d.SameSettings d' := sameSettings_extend.trans hsettings
      refine ⟨⟨k', hk', hover, ?_⟩, iff_of_false Bool.false_ne_true ?_, fun c hc ↦ by cases hc⟩
      · rw [hbuffer, hsame.maxChunk]
        exact not_le.mp hmax
      · rintro (hlong | ⟨j, hcursor, hle, hsplit⟩)
        · exact hmax hlong
        · -- the loop has been at every boundary up to the end of the buffer
          have hone : 1 ≤ j := Nat.pos_of_ne_zero fun hj ↦ by simp [hj] at hcursor
          have hlt : j * d.frameSize < (k' + 1) * d.frameSize := by
            rw [hbuffer, hk'.cursor, hsame.frameSize, ← Nat.succ_mul] at hover
            exact lt_of_le_of_lt hle hover
          have hj : j ≤ k' := Nat.lt_succ_iff.mp (Nat.lt_of_mul_lt_mul_right hlt)
          refine hk'.unsplit j hone hj ?_
          rw [hsame.splitsAt_iff, hbuffer]
          exact hsplit

/-- After `flush` there is nothing in the buffer. -/
theorem flush_snd : d.flush.2 = d.cleared := by
  rw [flush_eq]
  split <;> rfl

end SilenceDetector

/-! ## Every sequence of calls -/

/-- A call of a method that changes a detector. -/
inductive DetectorCall (α : Type u) where
  | push (samples : List α)
  | flush

/-- What the call leaves behind, if it comes back. -/
def DetectorCall.step (silent : List α → Bool) (d : SilenceDetector α) :
    DetectorCall α → Option (SilenceDetector α)
  | .push samples => (d.push silent samples).map Prod.snd
  | .flush => some d.flush.2

/-- **The numbers that are kept are those that are computed from scratch.**  Every sequence of calls
of a detector comes back, and leaves the numbers of its buffer behind.  The next call of `push`
comes back as well.  It hands something out exactly where the buffer with the new samples is as long
as the longest chunk, or an utterance ends in one of the frames that are new; and what it hands out
is then the whole buffer. -/
theorem incremental (silent : List α → Bool) (sampleRate silenceMs minChunkMs maxChunkMs : UInt32)
    (hsize : 0 < (SilenceDetector.new sampleRate silenceMs minChunkMs maxChunkMs :
      SilenceDetector α).frameSize)
    (hmax : 0 < (SilenceDetector.new sampleRate silenceMs minChunkMs maxChunkMs :
      SilenceDetector α).maxChunkSamples) (calls : List (DetectorCall α)) :
    ∃ d, Machine.exec (DetectorCall.step silent)
        (.new sampleRate silenceMs minChunkMs maxChunkMs) calls = some d ∧
      (∃ k, d.FromScratch silent k) ∧
        ∀ samples, ∃ chunk d', d.push silent samples = some (chunk, d') ∧
          (chunk.isSome ↔ d.HandsOut silent samples) ∧ ∀ c ∈ chunk, c = d.buffer ++ samples := by
  obtain ⟨d, hrun, k, hd⟩ : ∃ d, Machine.exec (DetectorCall.step silent)
      (.new sampleRate silenceMs minChunkMs maxChunkMs) calls = some d ∧
        ∃ k, d.FromScratch silent k := by
    have hnew : (SilenceDetector.new sampleRate silenceMs minChunkMs maxChunkMs :
        SilenceDetector α).FromScratch silent 0 :=
      SilenceDetector.fromScratch_of_cleared hsize hmax
    generalize SilenceDetector.new sampleRate silenceMs minChunkMs maxChunkMs = d at hnew
    clear hsize hmax
    -- each call comes back, so the induction is on the calls, with the detector they begin with
    generalize 0 = k at hnew
    induction calls generalizing d k with
    | nil => exact ⟨d, rfl, k, hnew⟩
    | cons call calls ih =>
      cases call with
      | push samples =>
        obtain ⟨chunk, d', hpush, ⟨k', hk'⟩, -⟩ := hnew.push samples
        obtain ⟨e, hrun, he⟩ := ih d' k' hk'
        exact ⟨e, Machine.exec_cons_eq_some.mpr ⟨d', congrArg (Option.map Prod.snd) hpush, hrun⟩,
          he⟩
      | flush =>
        obtain ⟨e, hrun, he⟩ := ih d.cleared 0
          (SilenceDetector.fromScratch_of_cleared hnew.frameSize_pos hnew.maxChunk_pos)
        exact ⟨e, Machine.exec_cons_eq_some.mpr
          ⟨d.cleared, congrArg some SilenceDetector.flush_snd, hrun⟩, he⟩
  refine ⟨d, hrun, ⟨k, hd⟩, fun samples ↦ ?_⟩
  obtain ⟨chunk, d', hpush, -, hout⟩ := hd.push samples
  exact ⟨chunk, d', hpush, hout⟩

/-- Samples of speech and an end of the recording, at 16 kHz. -/
theorem incremental_example :
    ∃ d, Machine.exec (DetectorCall.step fun frame ↦ frame.all (· = 0))
        (.new 16000 300 500 10000) [.push [1, 0, 1], .flush] = some d ∧
      (∃ k, d.FromScratch (fun frame ↦ frame.all (· = 0)) k) ∧
        ∀ samples : List ℕ, ∃ chunk d',
          d.push (fun frame ↦ frame.all (· = 0)) samples = some (chunk, d') ∧
            (chunk.isSome ↔ d.HandsOut (fun frame ↦ frame.all (· = 0)) samples) ∧
              ∀ c ∈ chunk, c = d.buffer ++ samples :=
  incremental _ 16000 300 500 10000 (by decide) (by decide) _

end WorkWithMe.Dictation
