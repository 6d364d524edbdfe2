import Mathlib.Data.List.Basic
import WorkWithMe.Dictation.Detector
import WorkWithMe.Lib.Machine

/-!
# Dictation: the microphone, the two handlers, the polling thread and the worker

The audio callback appends to the buffer of the recorder.  The handler of the in-app button and the
one of the hotkey start and stop a recording, one event at a time; the polling thread takes what
has been recorded through the silence detector and onto the channel of the transcription worker.
`DictationState` is behind the dictation lock, the recorder behind its own.  The recorder is locked
for a single call at a time, and such a call is one step here; the dictation lock is held across
several steps, which other steps fall between.

`Pipeline` is the state of all of them.  Each sample says in which recording it was captured and
whether after the drain of its stop, and three more fields record the history: who started each
recording, how many stops have drained, and the `ledger` of what became of the samples.

`step_cases` says what a step can do.
-/

set_option autoImplicit false

namespace WorkWithMe.Dictation

universe u

variable {α : Type u}

/-! ## The parts -/

/-- What starts and stops a recording. -/
inductive Source where
  | inAppButton
  | hotkey
  deriving DecidableEq

/-- The `in_app_mode` of a recording, and the `emit_event` of its chunks. -/
def Source.inApp : Source → Bool
  | .inAppButton => true
  | .hotkey => false

/-- A sample, and when it was captured. -/
structure Sample (α : Type u) where
  value : α
  /-- The number of the recording. -/
  run : Nat
  /-- The stop of that recording had already drained the recorder. -/
  late : Bool
  /-- The place in the order of capture. -/
  serial : Nat
  deriving DecidableEq

/-- Frames are compared by `rms(frame) < threshold`.  The `rms` of an empty frame is zero; of the
others `quiet` says whether it is below the threshold. -/
def belowThreshold (quiet : List α → Bool) (frame : List (Sample α)) : Bool :=
  frame.isEmpty || quiet (frame.map Sample.value)

/-- What goes over the channel. -/
structure Chunk (α : Type u) where
  samples : List (Sample α)
  nativeRate : UInt32
  emitEvent : Bool

/-- The channel is created with room for eight chunks. -/
def channelCapacity : Nat := 8

structure AudioRecorder (α : Type u) where
  buffer : List (Sample α)
  nativeSampleRate : UInt32
  /-- There is a stream, which calls back. -/
  stream : Bool

/-- How the microphone answers `AudioRecorder::start`. -/
inductive MicAnswer where
  | streaming (rate : UInt32)
  /-- There is a device with a rate, but no stream of it can be built or played. -/
  | failed (rate : UInt32)
  | noDevice

structure DictationState (α : Type u) where
  detector : SilenceDetector (Sample α)
  isRecording : Bool
  inAppMode : Bool

/-- Where the polling thread is. -/
inductive Poll (α : Type u) where
  | idle
  /-- It has the dictation lock and is about to drain the recorder. -/
  | draining
  /-- It is about to push what it has drained. -/
  | pushing (samples : List (Sample α)) (nativeRate : UInt32)
  /-- It is about to offer a chunk to the channel. -/
  | offering (chunk : Chunk α)
  /-- It is in the loop of `push` for good, with the dictation lock. -/
  | hung

/-- Where the handlers are. -/
inductive Handler (α : Type u) where
  | idle
  /-- Nothing was being recorded, and the recorder is about to be started. -/
  | starting (source : Source)
  /-- The recorder is running, and the dictation lock is about to be taken. -/
  | started (source : Source) (nativeRate : UInt32)
  /-- Something was being recorded, and the dictation lock is about to be taken. -/
  | stopping (source : Source)
  /-- The recording is of this source; it has the dictation lock and is about to drain the
  recorder. -/
  | draining (source : Source)
  /-- It is about to push what it has drained. -/
  | pushing (source : Source) (remaining : List (Sample α)) (nativeRate : UInt32)
  /-- It is in the loop of `push` for good, with the dictation lock. -/
  | hung
  /-- The dictation lock is released, and the recorder is about to be stopped. -/
  | stopped (source : Source) (chunkToSend : Option (List (Sample α))) (nativeRate : UInt32)
  /-- It is sending the last chunk, and waits for room. -/
  | sending (source : Source) (chunk : List (Sample α)) (nativeRate : UInt32)

def Poll.holdsLock : Poll α → Bool
  | .idle => false
  | _ => true

def Handler.holdsLock : Handler α → Bool
  | .draining _ | .pushing .. | .hung => true
  | _ => false

/-- The recorder has been drained, and not started again. -/
def Handler.hasDrained : Handler α → Bool
  | .pushing .. | .hung | .stopped .. | .sending .. => true
  | _ => false

/-- What became of some samples. -/
inductive Entry (α : Type u) where
  | sent (chunk : Chunk α)
  /-- The polling thread reported the chunk dropped, with that many chunks on the channel. -/
  | dropped (chunk : Chunk α) (held : Nat)
  /-- `flush` cleared the buffer, with that much speech in it and that much needed. -/
  | discarded (buffer : List (Sample α)) (speech minimum : Nat)

def Entry.samples : Entry α → List (Sample α)
  | .sent chunk | .dropped chunk _ => chunk.samples
  | .discarded buffer _ _ => buffer

def Entry.sent? : Entry α → Option (Chunk α)
  | .sent chunk => some chunk
  | _ => none

structure Pipeline (α : Type u) where
  recorder : AudioRecorder α
  dictation : DictationState α
  channel : List (Chunk α)
  poll : Poll α
  handler : Handler α
  /-- The chunks that the worker has received. -/
  received : List (Chunk α)
  /-- Who started each recording. -/
  owners : List Source
  /-- How many stops have drained the recorder. -/
  drains : Nat
  /-- All that was captured. -/
  captured : List (Sample α)
  ledger : List (Entry α)

namespace Pipeline

def init : Pipeline α where
  recorder := { buffer := [], nativeSampleRate := 16000, stream := false }
  dictation :=
    { detector := .new 44100 300 500 10000, isRecording := false, inAppMode := false }
  channel := []
  poll := .idle
  handler := .idle
  received := []
  owners := []
  drains := 0
  captured := []
  ledger := []

variable (s : Pipeline α)

/-- The dictation lock is taken. -/
def locked : Bool := s.poll.holdsLock || s.handler.holdsLock

/-- The samples of the ledger. -/
def settled : List (Sample α) := s.ledger.flatMap Entry.samples

/-- The samples captured between a start and the drain of its stop. -/
def window : List (Sample α) := s.captured.filter fun x ↦ !x.late

/-- The samples captured between a start and the drain of its stop, of the recordings whose stop has
drained. -/
def matched : List (Sample α) := s.window.filter fun x ↦ x.run < s.drains

end Pipeline

/-! ## The steps -/

inductive Action (α : Type u) where
  /-- The audio callback, with its data mixed down to mono. -/
  | audio (mono : List α)
  /-- The button or the hotkey is pressed, and the handler reads `is_recording`. -/
  | press (source : Source)
  | startRecorder (answer : MicAnswer)
  | beginRecording
  | lockStop
  | drainStop
  | pushStop
  | stopRecorder
  | send
  | lockPoll
  | drainPoll
  | pushPoll
  | offer
  /-- The worker receives. -/
  | receive

/-- The samples of a callback. -/
def samplesFrom (run : Nat) (late : Bool) : Nat → List α → List (Sample α)
  | _, [] => []
  | serial, v :: vs => ⟨v, run, late, serial⟩ :: samplesFrom run late (serial + 1) vs

namespace Pipeline

variable (s : Pipeline α)

/-- `push_mono`, while there is a stream. -/
def capture (mono : List α) : Pipeline α :=
  let samples := samplesFrom (s.owners.length - 1) s.handler.hasDrained s.captured.length mono
  { s with
    recorder := { s.recorder with buffer := s.recorder.buffer ++ samples }
    captured := s.captured ++ samples }

/-- `AudioRecorder::start`. -/
def startRecorder (source : Source) : MicAnswer → Pipeline α
  | .streaming rate => { s with
      recorder := { s.recorder with nativeSampleRate := rate, stream := true }
      handler := .started source rate
      owners := s.owners ++ [source] }
  | .failed rate => { s with
      recorder := { s.recorder with nativeSampleRate := rate }
      handler := .idle }
  | .noDevice => { s with handler := .idle }

/-- The detector is replaced, and the recording belongs to the source. -/
def beginRecording (source : Source) (nativeRate : UInt32) : Pipeline α :=
  { s with
    dictation := {
      detector := .new nativeRate 300 300 10000
      isRecording := true
      inAppMode := source.inApp }
    handler := .idle }

/-- The stop takes what `push` or `flush` has handed out, and releases the dictation lock. -/
def releaseStop (source : Source) (nativeRate : UInt32) (chunk : Option (List (Sample α)))
    (detector : SilenceDetector (Sample α)) : Pipeline α :=
  { s with
    dictation := { s.dictation with detector := detector, isRecording := false }
    handler := .stopped source chunk nativeRate }

/-- `push(&remaining).or_else(flush)`, and the release of the dictation lock. -/
def pushStop (quiet : List α → Bool) (source : Source) (remaining : List (Sample α))
    (nativeRate : UInt32) : Pipeline α :=
  match s.dictation.detector.push (belowThreshold quiet) remaining with
  | none => { s with
      dictation := { s.dictation with detector := s.dictation.detector.extend remaining }
      handler := .hung }
  | some (some chunk, d) => s.releaseStop source nativeRate (some chunk) d
  | some (none, d) =>
    match d.flush with
    | (some chunk, d') => s.releaseStop source nativeRate (some chunk) d'
    | (none, d') =>
      { s.releaseStop source nativeRate none d' with
        ledger := s.ledger ++ [.discarded d.buffer d.speechSamples d.minChunkSamples] }

/-- `AudioRecorder::stop`. -/
def stopRecorder (source : Source) (chunk : Option (List (Sample α))) (nativeRate : UInt32) :
    Pipeline α :=
  { s with
    recorder := { s.recorder with buffer := [], stream := false }
    handler := match chunk with
      | some chunk => .sending source chunk nativeRate
      | none => .idle }

/-- A chunk is put on the channel. -/
def enqueue (chunk : Chunk α) : Pipeline α :=
  { s with channel := s.channel ++ [chunk], ledger := s.ledger ++ [.sent chunk] }

/-- The polling thread takes the samples out of the recorder. -/
def drainPoll : Pipeline α :=
  { s with
    recorder := { s.recorder with buffer := [] }
    poll := if s.recorder.buffer.isEmpty then .idle
      else .pushing s.recorder.buffer s.recorder.nativeSampleRate }

/-- The polling thread pushes them. -/
def pushPoll (quiet : List α → Bool) (samples : List (Sample α)) (nativeRate : UInt32) :
    Pipeline α :=
  match s.dictation.detector.push (belowThreshold quiet) samples with
  | none => { s with
      dictation := { s.dictation with detector := s.dictation.detector.extend samples }
      poll := .hung }
  | some (chunk, d) => { s with
      dictation := { s.dictation with detector := d }
      poll := match chunk with
        | some chunk => .offering ⟨chunk, nativeRate, s.dictation.inAppMode⟩
        | none => .idle }

/-- `try_send`. -/
def offer (chunk : Chunk α) : Pipeline α :=
  if s.channel.length < channelCapacity then
    { s.enqueue chunk with poll := .idle }
  else
    { s with poll := .idle, ledger := s.ledger ++ [.dropped chunk s.channel.length] }

end Pipeline

/-- One step. -/
def step (quiet : List α → Bool) (s : Pipeline α) : Action α → Option (Pipeline α)
  | .audio mono => if s.recorder.stream then some (s.capture mono) else none
  | .press source =>
    match s.handler with
    | .idle =>
      if s.locked then none
      else if s.dictation.isRecording then some { s with handler := .stopping source }
      else some { s with handler := .starting source }
    | _ => none
  | .startRecorder answer =>
    match s.handler with
    | .starting source => some (s.startRecorder source answer)
    | _ => none
  | .beginRecording =>
    match s.handler with
    | .started source nativeRate =>
      if s.locked then none else some (s.beginRecording source nativeRate)
    | _ => none
  | .lockStop =>
    match s.handler with
    | .stopping source =>
      if s.locked then none
      else if s.dictation.inAppMode = source.inApp then some { s with handler := .draining source }
      else some { s with handler := .idle }
    | _ => none
  | .drainStop =>
    match s.handler with
    | .draining source => some { s with
        recorder := { s.recorder with buffer := [] }
        handler := .pushing source s.recorder.buffer s.recorder.nativeSampleRate
        drains := s.drains + 1 }
    | _ => none
  | .pushStop =>
    match s.handler with
    | .pushing source remaining nativeRate => some (s.pushStop quiet source remaining nativeRate)
    | _ => none
  | .stopRecorder =>
    match s.handler with
    | .stopped source chunk nativeRate => some (s.stopRecorder source chunk nativeRate)
    | _ => none
  | .send =>
    match s.handler with
    | .sending source chunk nativeRate =>
      if s.channel.length < channelCapacity then
        some { s.enqueue ⟨chunk, nativeRate, source.inApp⟩ with handler := .idle }
      else none
    | _ => none
  | .lockPoll =>
    match s.poll with
    | .idle =>
      if s.locked then none
      else if s.dictation.isRecording then some { s with poll := .draining }
      else some s
    | _ => none
  | .drainPoll =>
    match s.poll with
    | .draining => some s.drainPoll
    | _ => none
  | .pushPoll =>
    match s.poll with
    | .pushing samples nativeRate => some (s.pushPoll quiet samples nativeRate)
    | _ => none
  | .offer =>
    match s.poll with
    | .offering chunk => some (s.offer chunk)
    | _ => none
  | .receive =>
    match s.channel with
    | [] => none
    | chunk :: channel =>
      some { s with channel := channel, received := s.received ++ [chunk] }

/-! ## What a step can do -/

/-- The step was taken, and led to this state. -/
inductive Happened (quiet : List α → Bool) (s : Pipeline α) : Action α → Pipeline α → Prop where
  | audio (mono : List α) (hs : s.recorder.stream = true) :
      Happened quiet s (.audio mono) (s.capture mono)
  | pressStart (source : Source) (hh : s.handler = .idle) (hl : s.locked = false)
      (hr : s.dictation.isRecording = false) :
      Happened quiet s (.press source) { s with handler := .starting source }
  | pressStop (source : Source) (hh : s.handler = .idle) (hl : s.locked = false)
      (hr : s.dictation.isRecording = true) :
      Happened quiet s (.press source) { s with handler := .stopping source }
  | startRecorder (source : Source) (answer : MicAnswer) (hh : s.handler = .starting source) :
      Happened quiet s (.startRecorder answer) (s.startRecorder source answer)
  | beginRecording (source : Source) (nativeRate : UInt32)
      (hh : s.handler = .started source nativeRate) (hl : s.locked = false) :
      Happened quiet s .beginRecording (s.beginRecording source nativeRate)
  | lockStop (source : Source) (hh : s.handler = .stopping source) (hl : s.locked = false)
      (hm : s.dictation.inAppMode = source.inApp) :
      Happened quiet s .lockStop { s with handler := .draining source }
  | notOwner (source : Source) (hh : s.handler = .stopping source) (hl : s.locked = false)
      (hm : s.dictation.inAppMode ≠ source.inApp) :
      Happened quiet s .lockStop { s with handler := .idle }
  | drainStop (source : Source) (hh : s.handler = .draining source) :
      Happened quiet s .drainStop { s with
        recorder := { s.recorder with buffer := [] }
        handler := .pushing source s.recorder.buffer s.recorder.nativeSampleRate
        drains := s.drains + 1 }
  | stopHangs (source : Source) (remaining : List (Sample α)) (nativeRate : UInt32)
      (hh : s.handler = .pushing source remaining nativeRate)
      (hp : s.dictation.detector.push (belowThreshold quiet) remaining = none) :
      Happened quiet s .pushStop { s with
        dictation := { s.dictation with detector := s.dictation.detector.extend remaining }
        handler := .hung }
  | stopSplits (source : Source) (remaining : List (Sample α)) (nativeRate : UInt32)
      (d : SilenceDetector (Sample α)) (hh : s.handler = .pushing source remaining nativeRate)
      (hp : (s.dictation.detector.push (belowThreshold quiet) remaining).isSome = true)
      (hd : d.buffer = []) (hf : d.frameSize = s.dictation.detector.frameSize) :
      Happened quiet s .pushStop (s.releaseStop source nativeRate
        (some (s.dictation.detector.buffer ++ remaining)) d)
  | stopDiscards (source : Source) (remaining : List (Sample α)) (nativeRate : UInt32)
      (d : SilenceDetector (Sample α)) (speech minimum : Nat)
      (hh : s.handler = .pushing source remaining nativeRate)
      (hp : (s.dictation.detector.push (belowThreshold quiet) remaining).isSome = true)
      (hd : d.buffer = []) (hf : d.frameSize = s.dictation.detector.frameSize)
      (hspeech : speech < minimum) :
      Happened quiet s .pushStop { s.releaseStop source nativeRate none d with
        ledger := s.ledger ++
          [.discarded (s.dictation.detector.buffer ++ remaining) speech minimum] }
  | stopRecorder (source : Source) (chunk : Option (List (Sample α))) (nativeRate : UInt32)
      (hh : s.handler = .stopped source chunk nativeRate) :
      Happened quiet s .stopRecorder (s.stopRecorder source chunk nativeRate)
  | send (source : Source) (chunk : List (Sample α)) (nativeRate : UInt32)
      (hh : s.handler = .sending source chunk nativeRate)
      (hc : s.channel.length < channelCapacity) : Happened quiet s .send
        { s.enqueue ⟨chunk, nativeRate, source.inApp⟩ with handler := .idle }
  | lockPoll (hp : s.poll = .idle) (hl : s.locked = false)
      (hr : s.dictation.isRecording = true) :
      Happened quiet s .lockPoll { s with poll := .draining }
  | notRecording (hp : s.poll = .idle) (hr : s.dictation.isRecording = false) :
      Happened quiet s .lockPoll s
  | drainPoll (hp : s.poll = .draining) : Happened quiet s .drainPoll s.drainPoll
  | pollHangs (samples : List (Sample α)) (nativeRate : UInt32)
      (hp : s.poll = .pushing samples nativeRate) :
      Happened quiet s .pushPoll { s with
        dictation := { s.dictation with detector := s.dictation.detector.extend samples }
        poll := .hung }
  | pollKeeps (samples : List (Sample α)) (nativeRate : UInt32) (d : SilenceDetector (Sample α))
      (hp : s.poll = .pushing samples nativeRate)
      (hd : d.buffer = s.dictation.detector.buffer ++ samples)
      (hf : d.frameSize = s.dictation.detector.frameSize) :
      Happened quiet s .pushPoll { s with
        dictation := { s.dictation with detector := d }
        poll := .idle }
  | pollSplits (samples : List (Sample α)) (nativeRate : UInt32) (d : SilenceDetector (Sample α))
      (hp : s.poll = .pushing samples nativeRate) (hd : d.buffer = [])
      (hf : d.frameSize = s.dictation.detector.frameSize) :
      Happened quiet s .pushPoll { s with
        dictation := { s.dictation with detector := d }
        poll := .offering ⟨s.dictation.detector.buffer ++ samples, nativeRate,
          s.dictation.inAppMode⟩ }
  | offer (chunk : Chunk α) (hp : s.poll = .offering chunk) :
      Happened quiet s .offer (s.offer chunk)
  | receive (chunk : Chunk α) (channel : List (Chunk α)) (hc : s.channel = chunk :: channel) :
      Happened quiet s .receive
        { s with channel := channel, received := s.received ++ [chunk] }

section Cases

variable {quiet : List α → Bool} {s t : Pipeline α}

/-- What the stop hands out, discards, or hangs on. -/
theorem pushStop_cases {source : Source} {remaining : List (Sample α)} {nativeRate : UInt32}
    (hh : s.handler = .pushing source remaining nativeRate) :
    Happened quiet s .pushStop (s.pushStop quiet source remaining nativeRate) := by
  rw [Pipeline.pushStop]
  split
  · exact .stopHangs source remaining nativeRate hh ‹_›
  · rename_i chunk d hpush
    rcases SilenceDetector.push_conserves hpush with ⟨hc, hd⟩ | ⟨hc, -⟩
    · cases hc
      exact .stopSplits source remaining nativeRate d hh (by rw [hpush]; rfl) hd
        (SilenceDetector.frameSize_push hpush)
    · cases hc
  · rename_i d hpush
    have hsome : (s.dictation.detector.push (belowThreshold quiet) remaining).isSome = true := by
      rw [hpush]
      rfl
    have hd : d.buffer = s.dictation.detector.buffer ++ remaining := by
      rcases SilenceDetector.push_conserves hpush with ⟨hc, -⟩ | ⟨-, hd⟩
      · cases hc
      · exact hd
    have hf : d.cleared.frameSize = s.dictation.detector.frameSize := by
      rw [SilenceDetector.frameSize_cleared, SilenceDetector.frameSize_push hpush]
    rw [SilenceDetector.flush_eq, hd]
    by_cases hspeech : d.minChunkSamples ≤ d.speechSamples
    · rw [if_pos hspeech]
      exact .stopSplits source remaining nativeRate _ hh hsome rfl hf
    · rw [if_neg hspeech]
      exact .stopDiscards source remaining nativeRate _ _ _ hh hsome rfl hf
        (Nat.lt_of_not_le hspeech)

/-- What a tick keeps, hands out, or hangs on. -/
theorem pushPoll_cases {samples : List (Sample α)} {nativeRate : UInt32}
    (hp : s.poll = .pushing samples nativeRate) :
    Happened quiet s .pushPoll (s.pushPoll quiet samples nativeRate) := by
  rw [Pipeline.pushPoll]
  split
  · exact .pollHangs samples nativeRate hp
  · rename_i chunk d hpush
    rcases SilenceDetector.push_conserves hpush with ⟨rfl, hd⟩ | ⟨rfl, hd⟩
    · exact .pollSplits samples nativeRate d hp hd (SilenceDetector.frameSize_push hpush)
    · exact .pollKeeps samples nativeRate d hp hd (SilenceDetector.frameSize_push hpush)

/-- **What a step can do.** -/
theorem step_cases {a : Action α} (h : step quiet s a = some t) : Happened quiet s a t := by
  cases a with
  | audio mono =>
    obtain ⟨hs, h⟩ := Option.ite_none_right_eq_some.mp h
    cases h
    exact .audio mono hs
  | press source =>
    simp only [step] at h
    split at h
    · split_ifs at h with hl hr
      · cases h; exact .pressStop source ‹_› (Bool.eq_false_iff.mpr hl) hr
      · cases h
        exact .pressStart source ‹_› (Bool.eq_false_iff.mpr hl)
          (Bool.eq_false_iff.mpr hr)
    · cases h
  | startRecorder answer =>
    simp only [step] at h
    split at h
    · cases h; exact .startRecorder _ answer ‹_›
    · cases h
  | beginRecording =>
    simp only [step] at h
    split at h
    · obtain ⟨hl, h⟩ := Option.ite_none_left_eq_some.mp h
      cases h
      exact .beginRecording _ _ ‹_› (Bool.eq_false_iff.mpr hl)
    · cases h
  | lockStop =>
    simp only [step] at h
    split at h
    · split_ifs at h with hl hm
      · cases h; exact .lockStop _ ‹_› (Bool.eq_false_iff.mpr hl) hm
      · cases h; exact .notOwner _ ‹_› (Bool.eq_false_iff.mpr hl) hm
    · cases h
  | drainStop =>
    simp only [step] at h
    split at h
    · cases h; exact .drainStop _ ‹_›
    · cases h
  | pushStop =>
    simp only [step] at h
    split at h
    · cases h; exact pushStop_cases ‹_›
    · cases h
  | stopRecorder =>
    simp only [step] at h
    split at h
    · cases h; exact .stopRecorder _ _ _ ‹_›
    · cases h
  | send =>
    simp only [step] at h
    split at h
    · obtain ⟨hc, h⟩ := Option.ite_none_right_eq_some.mp h
      cases h
      exact .send _ _ _ ‹_› hc
    · cases h
  | lockPoll =>
    simp only [step] at h
    split at h
    · split_ifs at h with hl hr
      · cases h; exact .lockPoll ‹_› (Bool.eq_false_iff.mpr hl) hr
      · cases h; exact .notRecording ‹_› (Bool.eq_false_iff.mpr hr)
    · cases h
  | drainPoll =>
    simp only [step] at h
    split at h
    · cases h; exact .drainPoll ‹_›
    · cases h
  | pushPoll =>
    simp only [step] at h
    split at h
    · cases h; exact pushPoll_cases ‹_›
    · cases h
  | offer =>
    simp only [step] at h
    split at h
    · cases h; exact .offer _ ‹_›
    · cases h
  | receive =>
    simp only [step] at h
    split at h
    · cases h
    · cases h; exact .receive _ _ ‹_›

end Cases

end WorkWithMe.Dictation
