import Mathlib.Data.List.Basic
import Mathlib.Data.List.Infix
import WorkWithMe.Dictation.Pipeline

/-!
# Dictation conserves audio and routes it to its owner

Every sample captured between a start and the drain of its stop is to end up in one of three places:
in a chunk on the channel, in a chunk the polling thread reported dropped, or in a buffer that
`flush` discarded.  The ledger of the pipeline says what became of which samples, so `Conserves`
says that it holds all the samples of the recordings that are over, in the order of capture, or that
the stop that is under way and the worker can bring that about between them.

What lies between the recorder and the ledger is `inFlight`, and `Books` is the invariant: the
ledger and what is in flight are what was captured.  It holds in every run.  What can fail is the
end of the stop: the loop of `push` does not step on where the native rate is too low for a frame
of 20 ms to have a sample, and a stop that gets into it keeps the samples for good.

* `accounted_of_step` is the step lemma.
* `conserves_iff_guarded` says in which runs nothing is kept: those in which no stop drains into a
  detector whose loop does not end.
* `conserves_of_hasFrames`: these are all the runs on devices whose frames have samples, which
  those from 50 Hz on have.
-/

set_option autoImplicit false

namespace WorkWithMe.Dictation

universe u

variable {α : Type u}

/-! ## The law -/

/-- The steps with which a stop ends, and the receives that make room for its chunk. -/
def Action.completes : Action α → Bool
  | .pushStop | .stopRecorder | .send | .receive => true
  | _ => false

/-- The samples of the recordings that are over are in the ledger, once the stop that is under way
has come to its end. -/
def CanSettle (quiet : List α → Bool) (s : Pipeline α) : Prop :=
  ∃ as t, Machine.exec (step quiet) s as = some t ∧ (∀ a ∈ as, a.completes = true) ∧
    t.settled.filter (fun x ↦ x.run < s.drains) = s.matched

/-- The chunk has samples of a single recording, and goes to whoever started it. -/
def Chunk.FromRun (owners : List Source) (c : Chunk α) : Prop :=
  ∃ n source, owners[n]? = some source ∧ (∀ x ∈ c.samples, x.run = n) ∧
    c.emitEvent = source.inApp

/-- The entry is what it says. -/
def Entry.Sound (owners : List Source) : Entry α → Prop
  | .sent c => c.FromRun owners
  | .dropped c held => c.FromRun owners ∧ held = channelCapacity
  | .discarded _ speech minimum => speech < minimum

/-- **Audio is conserved and routed to its owner.** -/
structure Conserves (quiet : List α → Bool) (s : Pipeline α) : Prop where
  /-- When no stop is under way, the samples of the recordings that are over are in the ledger, in
  the order of capture. -/
  returned : s.handler.hasDrained = false →
    s.settled.filter (fun x ↦ x.run < s.drains) = s.matched
  /-- A stop that is under way can come to its end, and needs only the worker for it. -/
  ends : CanSettle quiet s
  /-- There is nothing else in it. -/
  inOrder : s.settled <+: s.window
  /-- No two samples are the same, so none is in two places. -/
  distinct : s.captured.Pairwise fun x y ↦ x.serial < y.serial
  /-- The chunks are of one recording and go to its owner, those that were dropped found the channel
  full, and the buffers that were discarded had too little speech in them. -/
  sound : ∀ e ∈ s.ledger, e.Sound s.owners
  /-- What was sent is what the worker receives. -/
  channelled : s.received ++ s.channel = s.ledger.filterMap Entry.sent?
  capacity : s.channel.length ≤ channelCapacity

/-- The condition on a step: a stop that drains the recorder has nothing to push, or enough for a
chunk, or a detector whose loop ends. -/
def StopGuard (s : Pipeline α) : Action α → Prop
  | .drainStop =>
    s.dictation.detector.buffer ++ s.recorder.buffer = [] ∨
      s.dictation.detector.maxChunkSamples ≤
        (s.dictation.detector.buffer ++ s.recorder.buffer).length ∨
      (s.dictation.detector.extend s.recorder.buffer).Ends
  | _ => True

/-! ## What is in flight -/

def Poll.outgoing : Poll α → List (Sample α)
  | .offering chunk => chunk.samples
  | _ => []

def Poll.incoming : Poll α → List (Sample α)
  | .pushing samples _ => samples
  | _ => []

def Handler.outgoing : Handler α → List (Sample α)
  | .stopped _ chunk _ => chunk.getD []
  | .sending _ chunk _ => chunk
  | _ => []

def Handler.incoming : Handler α → List (Sample α)
  | .pushing _ remaining _ => remaining
  | _ => []

/-- The samples between the recorder and the ledger. -/
def Pipeline.inFlight (s : Pipeline α) : List (Sample α) :=
  s.poll.outgoing ++ s.handler.outgoing ++ (s.dictation.detector.buffer ++
    (s.poll.incoming ++ s.handler.incoming ++ s.recorder.buffer.filter fun x ↦ !x.late))

/-- Once the recorder is drained, only the stop has something in hand. -/
theorem Pipeline.inFlight_of_drained {s : Pipeline α} (hp : s.poll = .idle)
    (hlate : (s.recorder.buffer.filter fun x ↦ !x.late) = []) : s.inFlight =
      s.handler.outgoing ++ (s.dictation.detector.buffer ++ s.handler.incoming) := by
  simp only [Pipeline.inFlight, hp, hlate, Poll.outgoing, Poll.incoming, List.nil_append,
    List.append_nil]

/-- **The books balance.**  The ledger and what is in flight are what was captured. -/
structure Books (s : Pipeline α) : Prop where
  order : s.settled ++ s.inFlight = s.window
  /-- Only the last recording is in flight. -/
  flight : ∀ x ∈ s.inFlight, x.run + 1 = s.owners.length
  serials : s.captured.map Sample.serial = List.range s.captured.length
  sound : ∀ e ∈ s.ledger, e.Sound s.owners
  channelled : s.received ++ s.channel = s.ledger.filterMap Entry.sent?
  capacity : s.channel.length ≤ channelCapacity

section Books

variable {s t : Pipeline α}

theorem books_init : Books (.init : Pipeline α) where
  order := rfl
  flight := by simp [Pipeline.inFlight, Pipeline.init, Poll.outgoing, Poll.incoming,
    Handler.outgoing, Handler.incoming]
  serials := rfl
  sound := by simp [Pipeline.init]
  channelled := rfl
  capacity := Nat.zero_le _

/-- A step that only moves samples from one place to the next. -/
theorem Books.of_eq (hs : Books s) (hflight : t.inFlight = s.inFlight)
    (hledger : t.ledger = s.ledger) (hcaptured : t.captured = s.captured)
    (howners : t.owners = s.owners)
    (hchannel : t.received ++ t.channel = s.received ++ s.channel)
    (hlength : t.channel.length ≤ s.channel.length) : Books t where
  order := by
    rw [hflight, Pipeline.settled, hledger, Pipeline.window, hcaptured]
    exact hs.order
  flight := by
    rw [hflight, howners]
    exact hs.flight
  serials := by
    rw [hcaptured]
    exact hs.serials
  sound := by
    rw [hledger, howners]
    exact hs.sound
  channelled := by
    rw [hchannel, hledger]
    exact hs.channelled
  capacity := Nat.le_trans hlength hs.capacity

/-- A step that settles samples. -/
theorem Books.settle (hs : Books s) {e : Entry α} (hflight : s.inFlight = e.samples ++ t.inFlight)
    (hledger : t.ledger = s.ledger ++ [e]) (hcaptured : t.captured = s.captured)
    (howners : t.owners = s.owners) (hsound : e.Sound s.owners)
    (hchannel : t.received ++ t.channel = s.received ++ s.channel ++ e.sent?.toList)
    (hlength : t.channel.length ≤ channelCapacity) : Books t where
  order := by
    rw [Pipeline.settled, hledger, List.flatMap_append, List.flatMap_singleton, List.append_assoc,
      ← hflight, Pipeline.window, hcaptured]
    exact hs.order
  flight x hx := by
    rw [howners]
    exact hs.flight x (by rw [hflight]; exact List.mem_append_right _ hx)
  serials := by
    rw [hcaptured]
    exact hs.serials
  sound e' he' := by
    rw [hledger, List.mem_append, List.mem_singleton] at he'
    rw [howners]
    rcases he' with he' | rfl
    · exact hs.sound e' he'
    · exact hsound
  channelled := by
    rw [hchannel, hledger, List.filterMap_append, hs.channelled]
    cases e <;> rfl
  capacity := hlength

/-- What is in flight goes to the owner of the last recording. -/
theorem Books.fromRun (hs : Books s) {source : Source} (howner : s.owners.getLast? = some source)
    {c : Chunk α} (hc : ∀ x ∈ c.samples, x ∈ s.inFlight) (hemit : c.emitEvent = source.inApp) :
    c.FromRun s.owners := by
  refine ⟨s.owners.length - 1, source, ?_, fun x hx ↦ ?_, hemit⟩
  · rw [← List.getLast?_eq_getElem?]
    exact howner
  · have hrun := hs.flight x (hc x hx)
    omega

/-- A recording more does not change who started the others. -/
theorem Chunk.FromRun.append {owners : List Source} {c : Chunk α} (hc : c.FromRun owners)
    (source : Source) : c.FromRun (owners ++ [source]) := by
  obtain ⟨n, owner, hn, hrun, hemit⟩ := hc
  have hlt : n < owners.length := (List.getElem?_eq_some_iff.mp hn).1
  exact ⟨n, owner, by rw [List.getElem?_append_left hlt, hn], hrun, hemit⟩

theorem Entry.Sound.append {owners : List Source} {e : Entry α} (he : e.Sound owners)
    (source : Source) : e.Sound (owners ++ [source]) := by
  cases e with
  | sent c => exact Chunk.FromRun.append he source
  | dropped c held => exact ⟨Chunk.FromRun.append he.1 source, he.2⟩
  | discarded buffer speech minimum => exact he

/-- The recorder is started while nothing is in flight. -/
theorem Books.start (hs : Books s) {source : Source} {rate : UInt32} (hflight : s.inFlight = [])
    (hp : s.poll = .idle) (hd : s.dictation.detector.buffer = []) (hb : s.recorder.buffer = []) :
    Books (s.startRecorder source (.streaming rate)) := by
  have hnone : (s.startRecorder source (.streaming rate)).inFlight = [] := by
    simp [Pipeline.inFlight, Pipeline.startRecorder, hp, hd, hb, Poll.outgoing, Poll.incoming,
      Handler.outgoing, Handler.incoming]
  exact {
    order := by
      rw [hnone, ← hflight]
      exact hs.order
    flight := by
      rw [hnone]
      exact fun _ hx ↦ absurd hx List.not_mem_nil
    serials := hs.serials
    sound := fun e he ↦ (hs.sound e he).append source
    channelled := hs.channelled
    capacity := hs.capacity }

/-! ### Capture -/

theorem run_of_mem_samplesFrom {run : Nat} {late : Bool} {serial : Nat} {mono : List α}
    {x : Sample α} (hx : x ∈ samplesFrom run late serial mono) : x.run = run ∧ x.late = late := by
  induction mono generalizing serial with
  | nil => cases hx
  | cons v vs ih =>
    rcases List.mem_cons.mp hx with rfl | hx
    · exact ⟨rfl, rfl⟩
    · exact ih hx

theorem length_samplesFrom (run : Nat) (late : Bool) (serial : Nat) (mono : List α) :
    (samplesFrom run late serial mono).length = mono.length := by
  induction mono generalizing serial with
  | nil => rfl
  | cons v vs ih => exact congrArg (· + 1) (ih (serial + 1))

/-- The samples of a callback are numbered on from the last. -/
theorem map_serial_samplesFrom (run : Nat) (late : Bool) (serial : Nat) (mono : List α) :
    (samplesFrom run late serial mono).map Sample.serial = List.range' serial mono.length := by
  induction mono generalizing serial with
  | nil => rfl
  | cons v vs ih => exact congrArg (serial :: ·) (ih (serial + 1))

/-- **The callback.**  What it appends is captured, and in flight unless it comes too late. -/
theorem Books.capture (hs : Books s) (howners : s.owners ≠ []) (mono : List α) :
    Books (s.capture mono) where
  order := by
    rw [Pipeline.window, Pipeline.capture, List.filter_append, ← Pipeline.window, ← hs.order]
    simp only [Pipeline.inFlight, Pipeline.settled, List.filter_append, List.append_assoc]
  flight x hx := by
    have hlength : s.owners.length ≠ 0 := fun h ↦ howners (List.length_eq_zero_iff.mp h)
    simp only [Pipeline.inFlight, Pipeline.capture, List.filter_append, ← List.append_assoc] at hx
    rcases List.mem_append.mp hx with hx | hx
    · refine hs.flight x ?_
      simpa only [Pipeline.inFlight, ← List.append_assoc] using hx
    · rw [(run_of_mem_samplesFrom (List.mem_of_mem_filter hx)).1]
      show s.owners.length - 1 + 1 = s.owners.length
      omega
  serials := by
    show (s.captured ++ _).map Sample.serial = List.range (s.captured ++ _).length
    rw [List.map_append, List.length_append, hs.serials, map_serial_samplesFrom,
      length_samplesFrom, List.range_eq_range', List.range_eq_range']
    simpa only [Nat.zero_add] using
      List.range'_append_1 (s := 0) (m := s.captured.length) (n := mono.length)
  sound := hs.sound
  channelled := hs.channelled
  capacity := hs.capacity

end Books

/-! ## Where the parties are -/

theorem Source.inApp_injective {a b : Source} (h : a.inApp = b.inApp) : a = b := by
  cases a <;> cases b <;> first | rfl | cases h

/-- Nothing is recorded. -/
structure Closed (s : Pipeline α) : Prop where
  recording : s.dictation.isRecording = false
  stream : s.recorder.stream = false
  poll : s.poll = .idle
  detector : s.dictation.detector.buffer = []
  drains : s.drains = s.owners.length

/-- The recorder is running, but the detector is still the old one. -/
structure Started (s : Pipeline α) (owner : Source) : Prop where
  recording : s.dictation.isRecording = false
  poll : s.poll = .idle
  detector : s.dictation.detector.buffer = []
  drains : s.drains + 1 = s.owners.length
  startedBy : s.owners.getLast? = some owner

/-- A recording of this source is under way. -/
structure Recording (s : Pipeline α) (owner : Source) : Prop where
  recording : s.dictation.isRecording = true
  mode : s.dictation.inAppMode = owner.inApp
  drains : s.drains + 1 = s.owners.length
  startedBy : s.owners.getLast? = some owner
  offered : ∀ chunk, s.poll = .offering chunk → chunk.emitEvent = owner.inApp

/-- The stop of a recording of this source has drained the recorder. -/
structure Drained (s : Pipeline α) (owner : Source) : Prop where
  poll : s.poll = .idle
  drains : s.drains = s.owners.length
  startedBy : s.owners.getLast? = some owner

/-- The stop has released the dictation lock. -/
structure Released (s : Pipeline α) : Prop where
  recording : s.dictation.isRecording = false
  detector : s.dictation.detector.buffer = []

/-- What these speak about, besides the handlers. -/
def Pipeline.parties (s : Pipeline α) :
    DictationState α × Poll α × List Source × Nat × Bool :=
  (s.dictation, s.poll, s.owners, s.drains, s.recorder.stream)

section Parties

variable {s t : Pipeline α} {owner : Source}

theorem Pipeline.parties_eq_iff : t.parties = s.parties ↔ t.dictation = s.dictation ∧
    t.poll = s.poll ∧ t.owners = s.owners ∧ t.drains = s.drains ∧
    t.recorder.stream = s.recorder.stream := by
  simp only [Pipeline.parties, Prod.mk.injEq]

theorem Closed.congr (hs : Closed s) (h : t.parties = s.parties) : Closed t := by
  obtain ⟨hd, hp, ho, hn, hr⟩ := Pipeline.parties_eq_iff.mp h
  obtain ⟨h₁, h₂, h₃, h₄, h₅⟩ := hs
  constructor <;> simp only [hd, hp, ho, hn, hr] <;> assumption

theorem Started.congr (hs : Started s owner) (h : t.parties = s.parties) : Started t owner := by
  obtain ⟨hd, hp, ho, hn, -⟩ := Pipeline.parties_eq_iff.mp h
  obtain ⟨h₁, h₂, h₃, h₄, h₅⟩ := hs
  constructor <;> simp only [hd, hp, ho, hn] <;> assumption

theorem Recording.congr (hs : Recording s owner) (h : t.parties = s.parties) :
    Recording t owner := by
  obtain ⟨hd, hp, ho, hn, -⟩ := Pipeline.parties_eq_iff.mp h
  obtain ⟨h₁, h₂, h₃, h₄, h₅⟩ := hs
  constructor <;> simp only [hd, hp, ho, hn] <;> assumption

theorem Drained.congr (hs : Drained s owner) (h : t.parties = s.parties) : Drained t owner := by
  obtain ⟨-, hp, ho, hn, -⟩ := Pipeline.parties_eq_iff.mp h
  obtain ⟨h₁, h₂, h₃⟩ := hs
  constructor <;> simp only [hp, ho, hn] <;> assumption

theorem Released.congr (hs : Released s) (h : t.parties = s.parties) : Released t := by
  obtain ⟨hd, -⟩ := Pipeline.parties_eq_iff.mp h
  obtain ⟨h₁, h₂⟩ := hs
  constructor <;> simp only [hd] <;> assumption

end Parties

/-- Where the parties can be, going by where the handlers are. -/
def Stage (quiet : List α → Bool) (s : Pipeline α) : Prop :=
  match s.handler with
  | .idle => Closed s ∨ ∃ owner, Recording s owner
  | .starting _ => Closed s
  | .started source _ => Started s source
  | .stopping _ => ∃ owner, Recording s owner
  | .draining source => Recording s source ∧ s.poll = .idle
  | .pushing source remaining _ => Drained s source ∧
      ((s.dictation.detector.push (belowThreshold quiet) remaining).isSome = true ∨
        s.dictation.detector.buffer ++ remaining = [])
  | .hung => ∃ source, Drained s source ∧ s.dictation.detector.buffer = []
  | .stopped source _ _ => Drained s source ∧ Released s
  | .sending source _ _ => Drained s source ∧ Released s ∧ s.recorder.stream = false

theorem Stage.congr {quiet : List α → Bool} {s t : Pipeline α} (hs : Stage quiet s)
    (hh : t.handler = s.handler) (h : t.parties = s.parties) : Stage quiet t := by
  obtain ⟨hd, -, -, -, hr⟩ := Pipeline.parties_eq_iff.mp h
  unfold Stage at hs ⊢
  rw [hh, hd, hr]
  split at hs
  · exact hs.imp (Closed.congr · h) fun ⟨owner, hs⟩ ↦ ⟨owner, hs.congr h⟩
  · exact Closed.congr hs h
  · exact Started.congr hs h
  · exact hs.imp fun owner hs ↦ hs.congr h
  · exact ⟨hs.1.congr h, (congrArg (·.2.1) h).trans hs.2⟩
  · exact ⟨hs.1.congr h, hs.2⟩
  · exact hs.imp fun owner hs ↦ ⟨hs.1.congr h, hs.2⟩
  · exact ⟨hs.1.congr h, hs.2.congr h⟩
  · exact ⟨hs.1.congr h, hs.2.1.congr h, hs.2.2⟩

/-- The invariant of all runs. -/
structure Accounted (quiet : List α → Bool) (s : Pipeline α) : Prop where
  books : Books s
  stage : Stage quiet s
  /-- The recorder has samples from before the drain, or from after it. -/
  late : ∀ x ∈ s.recorder.buffer, x.late = s.handler.hasDrained
  /-- Without a stream it has none. -/
  off : s.recorder.stream = false → s.recorder.buffer = []

section Accounted

variable {quiet : List α → Bool} {s t : Pipeline α}

theorem accounted_init : Accounted quiet (.init : Pipeline α) where
  books := books_init
  stage := Or.inl ⟨rfl, rfl, rfl, rfl, rfl⟩
  late := fun _ hx ↦ absurd hx List.not_mem_nil
  off := fun _ ↦ rfl

/-- A step that leaves the recorder alone, and does not pass the drain of a stop. -/
theorem Accounted.of_recorder (hs : Accounted quiet s) (hbooks : Books t) (hstage : Stage quiet t)
    (hr : t.recorder = s.recorder) (hh : t.handler.hasDrained = s.handler.hasDrained) :
    Accounted quiet t where
  books := hbooks
  stage := hstage
  late := by
    rw [hr, hh]
    exact hs.late
  off := by
    rw [hr]
    exact hs.off

/-- A step that empties the recorder. -/
theorem Accounted.of_empty (hbooks : Books t) (hstage : Stage quiet t)
    (hr : t.recorder.buffer = []) : Accounted quiet t where
  books := hbooks
  stage := hstage
  late := by
    rw [hr]
    exact fun _ hx ↦ absurd hx List.not_mem_nil
  off := fun _ ↦ hr

/-- Before the drain, the whole buffer of the recorder is from the recording. -/
theorem Accounted.filter_of_not_hasDrained (hs : Accounted quiet s)
    (hh : s.handler.hasDrained = false) :
    (s.recorder.buffer.filter fun x ↦ !x.late) = s.recorder.buffer :=
  List.filter_eq_self.mpr fun x hx ↦ by rw [hs.late x hx, hh]; rfl

/-- After it, none of it is. -/
theorem Accounted.filter_of_hasDrained (hs : Accounted quiet s)
    (hh : s.handler.hasDrained = true) :
    (s.recorder.buffer.filter fun x ↦ !x.late) = [] :=
  List.filter_eq_nil_iff.mpr fun x hx ↦ by rw [hs.late x hx, hh]; decide

/-- Nothing is in flight while nothing is recorded. -/
theorem Accounted.inFlight_of_closed (hs : Accounted quiet s) (hc : Closed s)
    (hout : s.handler.outgoing = []) (hin : s.handler.incoming = []) : s.inFlight = [] := by
  rw [Pipeline.inFlight, hc.poll, hout, hin, hc.detector, hs.off hc.stream]
  rfl

/-- While there is a stream, there is a recording. -/
theorem Accounted.owners_ne_nil (hs : Accounted quiet s) (hstream : s.recorder.stream = true) :
    s.owners ≠ [] := by
  have hclosed : ¬ Closed s := fun hc ↦ by
    rw [hc.stream] at hstream
    cases hstream
  have hsome : ∀ owner, s.owners.getLast? = some owner → s.owners ≠ [] := by
    rintro owner h hnil
    rw [hnil] at h
    cases h
  have hstage := hs.stage
  unfold Stage at hstage
  split at hstage
  · obtain ⟨owner, h⟩ := hstage.resolve_left hclosed
    exact hsome owner h.startedBy
  · exact absurd hstage hclosed
  · exact hsome _ hstage.startedBy
  · obtain ⟨owner, h⟩ := hstage
    exact hsome owner h.startedBy
  · exact hsome _ hstage.1.startedBy
  · exact hsome _ hstage.1.startedBy
  · obtain ⟨owner, h, -⟩ := hstage
    exact hsome owner h.startedBy
  · exact hsome _ hstage.1.startedBy
  · exact hsome _ hstage.1.startedBy

/-- The polling thread is at work, or the dictation lock is free while something is recorded. -/
theorem Accounted.recording (hs : Accounted quiet s)
    (h : s.poll ≠ .idle ∨ s.dictation.isRecording = true ∧ s.handler.holdsLock = false) :
    (∃ owner, Recording s owner) ∧
      (s.handler = .idle ∨ ∃ source, s.handler = .stopping source) := by
  have hidle : s.poll = .idle → s.dictation.isRecording = false → False := by
    rintro hp hr
    rcases h with h | ⟨h, -⟩
    · exact h hp
    · rw [hr] at h
      cases h
  have hlock : s.poll = .idle → s.handler.holdsLock = true → False := by
    rintro hp hl
    rcases h with h | ⟨-, h⟩
    · exact h hp
    · rw [hl] at h
      cases h
  have hstage := hs.stage
  unfold Stage at hstage
  split at hstage
  case h_1 hh =>
    refine ⟨hstage.resolve_left fun hc ↦ hidle hc.poll hc.recording, Or.inl hh⟩
  case h_2 => exact (hidle hstage.poll hstage.recording).elim
  case h_3 => exact (hidle hstage.poll hstage.recording).elim
  case h_4 source hh => exact ⟨hstage, Or.inr ⟨source, hh⟩⟩
  case h_5 hh => exact (hlock hstage.2 (by rw [hh]; rfl)).elim
  case h_6 hh => exact (hlock hstage.1.poll (by rw [hh]; rfl)).elim
  case h_7 hh =>
    obtain ⟨source, hd, -⟩ := hstage
    exact (hlock hd.poll (by rw [hh]; rfl)).elim
  case h_8 => exact (hidle hstage.1.poll hstage.2.recording).elim
  case h_9 => exact (hidle hstage.1.poll hstage.2.1.recording).elim

/-- A tick of the polling thread leaves the parties where they are. -/
theorem stage_of_recording {owner : Source} (ht : Recording t owner) (hh : t.handler = s.handler)
    (h : s.handler = .idle ∨ ∃ source, s.handler = .stopping source) : Stage quiet t := by
  rw [Stage]
  rcases h with h | ⟨source, h⟩
  · rw [hh, h]
    exact Or.inr ⟨owner, ht⟩
  · rw [hh, h]
    exact ⟨owner, ht⟩

/-! ## The steps -/

/-- The callback. -/
theorem Accounted.capture (hs : Accounted quiet s) (hstream : s.recorder.stream = true)
    (mono : List α) : Accounted quiet (s.capture mono) where
  books := hs.books.capture (hs.owners_ne_nil hstream) mono
  stage := hs.stage.congr rfl rfl
  late x hx := by
    rcases List.mem_append.mp hx with hx | hx
    · exact hs.late x hx
    · exact (run_of_mem_samplesFrom hx).2
  off h := by
    rw [show s.recorder.stream = false from h] at hstream
    cases hstream

/-- The handler goes on, without touching the samples. -/
theorem Accounted.of_handler (hs : Accounted quiet s) {h : Handler α}
    (hstage : Stage quiet { s with handler := h }) (hdrain : h.hasDrained = s.handler.hasDrained)
    (hout : h.outgoing = s.handler.outgoing) (hin : h.incoming = s.handler.incoming) :
    Accounted quiet { s with handler := h } := by
  refine hs.of_recorder (hs.books.of_eq ?_ rfl rfl rfl rfl (Nat.le_refl _)) hstage rfl hdrain
  simp only [Pipeline.inFlight, hout, hin]

theorem Accounted.press (hs : Accounted quiet s) (hh : s.handler = .idle) {source : Source} :
    (s.dictation.isRecording = false → Accounted quiet { s with handler := .starting source }) ∧
      (s.dictation.isRecording = true →
        Accounted quiet { s with handler := .stopping source }) := by
  have hstage := hs.stage
  rw [Stage, hh] at hstage
  constructor
  · intro hr
    refine hs.of_handler ?_ (by rw [hh]; rfl) (by rw [hh]; rfl) (by rw [hh]; rfl)
    refine Closed.congr (hstage.resolve_right ?_) rfl
    rintro ⟨owner, h⟩
    rw [h.recording] at hr
    cases hr
  · intro hr
    refine hs.of_handler ?_ (by rw [hh]; rfl) (by rw [hh]; rfl) (by rw [hh]; rfl)
    obtain ⟨owner, h⟩ := hstage.resolve_left fun hc ↦ by
      rw [hc.recording] at hr
      cases hr
    exact ⟨owner, h.congr rfl⟩

theorem Accounted.startRecorder (hs : Accounted quiet s) {source : Source}
    (hh : s.handler = .starting source) (answer : MicAnswer) :
    Accounted quiet (s.startRecorder source answer) := by
  have hc : Closed s := by simpa only [Stage, hh] using hs.stage
  have hflight : s.inFlight = [] :=
    hs.inFlight_of_closed hc (by rw [hh]; rfl) (by rw [hh]; rfl)
  have hbuffer : s.recorder.buffer = [] := hs.off hc.stream
  cases answer with
  | streaming rate =>
    refine .of_empty (hs.books.start hflight hc.poll hc.detector hbuffer) ?_ hbuffer
    exact {
      recording := hc.recording
      poll := hc.poll
      detector := hc.detector
      drains := by
        rw [show (s.startRecorder source (.streaming rate)).owners = s.owners ++ [source] from rfl,
          List.length_append]
        exact congrArg (· + 1) hc.drains
      startedBy := List.getLast?_concat }
  | failed rate =>
    refine .of_empty (hs.books.of_eq ?_ rfl rfl rfl rfl (Nat.le_refl _)) (Or.inl ?_) hbuffer
    · simp only [Pipeline.inFlight, Pipeline.startRecorder, hh]
      rfl
    · exact hc.congr rfl
  | noDevice =>
    refine hs.of_handler (Or.inl (hc.congr rfl)) ?_ ?_ ?_ <;> rw [hh] <;> rfl

theorem Accounted.beginRecording (hs : Accounted quiet s) {source : Source} {nativeRate : UInt32}
    (hh : s.handler = .started source nativeRate) :
    Accounted quiet (s.beginRecording source nativeRate) := by
  have hst : Started s source := by simpa only [Stage, hh] using hs.stage
  refine hs.of_recorder (hs.books.of_eq ?_ rfl rfl rfl rfl (Nat.le_refl _)) ?_ rfl (by rw [hh]; rfl)
  · simp only [Pipeline.inFlight, Pipeline.beginRecording, hh, hst.detector]
    rfl
  · exact Or.inr ⟨source, rfl, rfl, hst.drains, hst.startedBy, fun chunk hp ↦ by
      have hidle := hst.poll
      rw [show s.poll = .offering chunk from hp] at hidle
      cases hidle⟩

theorem Accounted.lockStop (hs : Accounted quiet s) {source : Source}
    (hh : s.handler = .stopping source) (hl : s.locked = false)
    (hm : s.dictation.inAppMode = source.inApp) :
    Accounted quiet { s with handler := .draining source } := by
  obtain ⟨owner, hr⟩ : ∃ owner, Recording s owner := by simpa only [Stage, hh] using hs.stage
  obtain rfl : owner = source := Source.inApp_injective (hr.mode.symm.trans hm)
  have hp : s.poll = .idle := by
    cases hp : s.poll <;> simp [Pipeline.locked, hp, Poll.holdsLock] at hl ⊢
  refine hs.of_handler ⟨hr.congr rfl, hp⟩ ?_ ?_ ?_ <;> rw [hh] <;> rfl

theorem Accounted.notOwner (hs : Accounted quiet s) {source : Source}
    (hh : s.handler = .stopping source) : Accounted quiet { s with handler := .idle } := by
  obtain ⟨owner, hr⟩ : ∃ owner, Recording s owner := by simpa only [Stage, hh] using hs.stage
  refine hs.of_handler (Or.inr ⟨owner, hr.congr rfl⟩) ?_ ?_ ?_ <;> rw [hh] <;> rfl

theorem belowThreshold_nil : belowThreshold quiet [] = true := rfl

/-- **The drain of a stop**, where the push that follows comes back or has nothing to lose. -/
theorem Accounted.drainStop (hs : Accounted quiet s) {source : Source}
    (hh : s.handler = .draining source) (hG : StopGuard s .drainStop) :
    Accounted quiet { s with
      recorder := { s.recorder with buffer := [] }
      handler := .pushing source s.recorder.buffer s.recorder.nativeSampleRate
      drains := s.drains + 1 } := by
  obtain ⟨hr, hp⟩ : Recording s source ∧ s.poll = .idle := by
    simpa only [Stage, hh] using hs.stage
  refine .of_empty (hs.books.of_eq ?_ rfl rfl rfl rfl (Nat.le_refl _)) ⟨?_, ?_⟩ rfl
  · simp only [Pipeline.inFlight, hh, hs.filter_of_not_hasDrained (by rw [hh]; rfl),
      Handler.outgoing, Handler.incoming, List.filter_nil, List.append_nil]
  · exact ⟨hp, hr.drains, hr.startedBy⟩
  · rcases hG with hnil | hends
    · exact Or.inr hnil
    · exact Or.inl ((SilenceDetector.isSome_push_iff belowThreshold_nil).mpr hends)

section Pushing

variable {source : Source} {remaining : List (Sample α)} {nativeRate : UInt32}

theorem Accounted.drained (hs : Accounted quiet s)
    (hh : s.handler = .pushing source remaining nativeRate) : Drained s source ∧
      ((s.dictation.detector.push (belowThreshold quiet) remaining).isSome = true ∨
        s.dictation.detector.buffer ++ remaining = []) := by
  simpa only [Stage, hh] using hs.stage

/-- What is in flight while a stop is about to push. -/
theorem Accounted.inFlight_of_pushing (hs : Accounted quiet s)
    (hh : s.handler = .pushing source remaining nativeRate) :
    s.inFlight = s.dictation.detector.buffer ++ remaining := by
  rw [Pipeline.inFlight_of_drained (hs.drained hh).1.poll
    (hs.filter_of_hasDrained (by rw [hh]; rfl)), hh]
  rfl

theorem Accounted.stopHangs (hs : Accounted quiet s)
    (hh : s.handler = .pushing source remaining nativeRate)
    (hpush : s.dictation.detector.push (belowThreshold quiet) remaining = none) :
    Accounted quiet { s with
      dictation := { s.dictation with detector := s.dictation.detector.extend remaining }
      handler := .hung } := by
  obtain ⟨hd, hends⟩ := hs.drained hh
  have hlate := hs.filter_of_hasDrained (by rw [hh]; rfl)
  have hnil : s.dictation.detector.buffer ++ remaining = [] := by
    refine hends.resolve_left fun h ↦ ?_
    rw [hpush] at h
    cases h
  refine hs.of_recorder (hs.books.of_eq ?_ rfl rfl rfl rfl (Nat.le_refl _)) ?_ rfl (by rw [hh]; rfl)
  · rw [hs.inFlight_of_pushing hh]
    refine Eq.trans (Pipeline.inFlight_of_drained hd.poll hlate) ?_
    exact List.append_nil _
  · exact ⟨source, ⟨hd.poll, hd.drains, hd.startedBy⟩, hnil⟩

theorem Accounted.stopSplits (hs : Accounted quiet s) {d : SilenceDetector (Sample α)}
    (hh : s.handler = .pushing source remaining nativeRate) (hbuffer : d.buffer = []) :
    Accounted quiet (s.releaseStop source nativeRate
      (some (s.dictation.detector.buffer ++ remaining)) d) := by
  obtain ⟨hd, -⟩ := hs.drained hh
  have hlate := hs.filter_of_hasDrained (by rw [hh]; rfl)
  refine hs.of_recorder (hs.books.of_eq ?_ rfl rfl rfl rfl (Nat.le_refl _)) ?_ rfl (by rw [hh]; rfl)
  · rw [hs.inFlight_of_pushing hh]
    refine Eq.trans (Pipeline.inFlight_of_drained hd.poll hlate) ?_
    show s.dictation.detector.buffer ++ remaining ++ (d.buffer ++ []) = _
    rw [hbuffer, List.append_nil, List.append_nil]
  · exact ⟨⟨hd.poll, hd.drains, hd.startedBy⟩, rfl, hbuffer⟩

theorem Accounted.stopDiscards (hs : Accounted quiet s) {d : SilenceDetector (Sample α)}
    {speech minimum : Nat} (hh : s.handler = .pushing source remaining nativeRate)
    (hbuffer : d.buffer = []) (hspeech : speech < minimum) :
    Accounted quiet { s.releaseStop source nativeRate none d with
      ledger := s.ledger ++
        [.discarded (s.dictation.detector.buffer ++ remaining) speech minimum] } := by
  obtain ⟨hd, -⟩ := hs.drained hh
  have hlate := hs.filter_of_hasDrained (by rw [hh]; rfl)
  refine hs.of_recorder (hs.books.settle ?_ rfl rfl rfl hspeech ?_ hs.books.capacity) ?_ rfl
    (by rw [hh]; rfl)
  · have hafter : (s.releaseStop source nativeRate none d).inFlight = [] := by
      refine Eq.trans (Pipeline.inFlight_of_drained hd.poll hlate) ?_
      show d.buffer ++ [] = []
      rw [hbuffer, List.append_nil]
    rw [hs.inFlight_of_pushing hh]
    exact (congrArg (_ ++ ·) hafter).trans (List.append_nil _) |>.symm
  · exact (List.append_nil _).symm
  · exact ⟨⟨hd.poll, hd.drains, hd.startedBy⟩, rfl, hbuffer⟩

end Pushing

theorem Accounted.stopRecorder (hs : Accounted quiet s) {source : Source}
    {chunk : Option (List (Sample α))} {nativeRate : UInt32}
    (hh : s.handler = .stopped source chunk nativeRate) :
    Accounted quiet (s.stopRecorder source chunk nativeRate) := by
  obtain ⟨hd, hr⟩ : Drained s source ∧ Released s := by simpa only [Stage, hh] using hs.stage
  have hlate := hs.filter_of_hasDrained (by rw [hh]; rfl)
  refine .of_empty (hs.books.of_eq ?_ rfl rfl rfl rfl (Nat.le_refl _)) ?_ rfl
  · rw [Pipeline.inFlight_of_drained hd.poll hlate, hh]
    refine Eq.trans (Pipeline.inFlight_of_drained hd.poll rfl) ?_
    cases chunk <;> rfl
  · cases chunk with
    | none => exact Or.inl ⟨hr.recording, rfl, hd.poll, hr.detector, hd.drains⟩
    | some chunk =>
      exact ⟨⟨hd.poll, hd.drains, hd.startedBy⟩, ⟨hr.recording, hr.detector⟩, rfl⟩

theorem Accounted.send (hs : Accounted quiet s) {source : Source} {chunk : List (Sample α)}
    {nativeRate : UInt32} (hh : s.handler = .sending source chunk nativeRate)
    (hc : s.channel.length < channelCapacity) :
    Accounted quiet
      { s.enqueue ⟨chunk, nativeRate, source.inApp⟩ with handler := .idle } := by
  obtain ⟨hd, hr, hstream⟩ : Drained s source ∧ Released s ∧ s.recorder.stream = false := by
    simpa only [Stage, hh] using hs.stage
  have hbuffer : s.recorder.buffer = [] := hs.off hstream
  have hflight : s.inFlight = chunk := by
    rw [Pipeline.inFlight_of_drained hd.poll (by rw [hbuffer]; rfl), hh, hr.detector]
    exact List.append_nil chunk
  refine .of_empty (hs.books.settle ?_ rfl rfl rfl ?_ ?_ ?_) (Or.inl ?_) hbuffer
  · have hafter : ({ s with handler := .idle } : Pipeline α).inFlight = [] := by
      refine Eq.trans (Pipeline.inFlight_of_drained hd.poll (by rw [hbuffer]; rfl)) ?_
      rw [hr.detector]
      rfl
    rw [hflight]
    exact (congrArg (chunk ++ ·) hafter).trans (List.append_nil _) |>.symm
  · exact hs.books.fromRun hd.startedBy (fun x hx ↦ by rwa [hflight]) rfl
  · exact (List.append_assoc ..).symm
  · show (s.channel ++ [_]).length ≤ channelCapacity
    rw [List.length_append]
    exact hc
  · exact ⟨hr.recording, hstream, hd.poll, hr.detector, hd.drains⟩

theorem Accounted.receive (hs : Accounted quiet s) {chunk : Chunk α} {channel : List (Chunk α)}
    (hc : s.channel = chunk :: channel) :
    Accounted quiet { s with channel := channel, received := s.received ++ [chunk] } := by
  refine hs.of_recorder (hs.books.of_eq rfl rfl rfl rfl ?_ ?_) (hs.stage.congr rfl rfl) rfl rfl
  · show s.received ++ [chunk] ++ channel = s.received ++ s.channel
    rw [hc, List.append_assoc, List.singleton_append]
  · rw [hc]
    exact Nat.le_succ _

/-! ### The polling thread -/

theorem Accounted.lockPoll (hs : Accounted quiet s) (hp : s.poll = .idle) (hl : s.locked = false)
    (hr : s.dictation.isRecording = true) : Accounted quiet { s with poll := .draining } := by
  have hlock : s.handler.holdsLock = false := (Bool.or_eq_false_iff.mp hl).2
  obtain ⟨⟨owner, h⟩, hidle⟩ := hs.recording (Or.inr ⟨hr, hlock⟩)
  refine hs.of_recorder (hs.books.of_eq ?_ rfl rfl rfl rfl (Nat.le_refl _)) ?_ rfl rfl
  · simp only [Pipeline.inFlight, hp]
    rfl
  · exact stage_of_recording ⟨h.recording, h.mode, h.drains, h.startedBy, fun _ hp ↦ by cases hp⟩
      rfl hidle

theorem Poll.ne_idle {p : Poll α} (h : p.holdsLock = true) : p ≠ .idle := by
  rintro rfl
  cases h

/-- The polling thread goes on, while something is recorded. -/
theorem Accounted.of_poll (hs : Accounted quiet s) (hp : s.poll ≠ .idle) (hbooks : Books t)
    (hr : t.recorder = s.recorder) (hh : t.handler = s.handler)
    (hstage : ∀ owner, Recording s owner → Recording t owner) : Accounted quiet t := by
  obtain ⟨⟨owner, h⟩, hidle⟩ := hs.recording (Or.inl hp)
  exact hs.of_recorder hbooks (stage_of_recording (hstage owner h) hh hidle) hr (by rw [hh])

/-- While the polling thread is at work, the handlers have nothing in hand. -/
theorem Accounted.inFlight_of_poll (hs : Accounted quiet s) (hp : s.poll ≠ .idle) :
    s.inFlight = s.poll.outgoing ++ (s.dictation.detector.buffer ++
      (s.poll.incoming ++ s.recorder.buffer)) ∧
      s.handler.outgoing = [] ∧ s.handler.incoming = [] := by
  obtain ⟨-, hh | ⟨source, hh⟩⟩ := hs.recording (Or.inl hp)
  all_goals
    refine ⟨?_, by rw [hh]; rfl, by rw [hh]; rfl⟩
    rw [Pipeline.inFlight, hs.filter_of_not_hasDrained (by rw [hh]; rfl), hh]
    simp only [Handler.outgoing, Handler.incoming, List.append_nil]

theorem Accounted.drainPoll (hs : Accounted quiet s) (hp : s.poll = .draining) :
    Accounted quiet s.drainPoll := by
  have hbusy : s.poll ≠ .idle := Poll.ne_idle (by rw [hp]; rfl)
  obtain ⟨⟨owner, h⟩, hidle⟩ := hs.recording (Or.inl hbusy)
  obtain ⟨hflight, hout, hin⟩ := hs.inFlight_of_poll hbusy
  refine .of_empty (hs.books.of_eq ?_ rfl rfl rfl rfl (Nat.le_refl _)) ?_ rfl
  · rw [hflight, hp]
    unfold Pipeline.inFlight Pipeline.drainPoll
    cases hb : s.recorder.buffer <;>
      simp [hout, hin, Poll.outgoing, Poll.incoming]
  · have hnext : Recording s.drainPoll owner := by
      refine ⟨h.recording, h.mode, h.drains, h.startedBy, fun chunk hc ↦ ?_⟩
      unfold Pipeline.drainPoll at hc
      split at hc <;> cases hc
    exact stage_of_recording hnext rfl hidle

/-- **The push of a tick.**  What was pushed is kept by the detector or about to be offered. -/
theorem Accounted.pushPoll (hs : Accounted quiet s) {samples : List (Sample α)}
    {nativeRate : UInt32} {d : SilenceDetector (Sample α)} {p : Poll α}
    (hp : s.poll = .pushing samples nativeRate) (hin : p.incoming = [])
    (hflight : p.outgoing ++ d.buffer = s.dictation.detector.buffer ++ samples)
    (hemit : ∀ chunk, p = .offering chunk → chunk.emitEvent = s.dictation.inAppMode) :
    Accounted quiet { s with dictation := { s.dictation with detector := d }, poll := p } := by
  have hbusy : s.poll ≠ .idle := Poll.ne_idle (by rw [hp]; rfl)
  have hpoll : s.poll.outgoing = [] ∧ s.poll.incoming = samples := by
    rw [hp]
    exact ⟨rfl, rfl⟩
  refine hs.of_poll hbusy (hs.books.of_eq ?_ rfl rfl rfl rfl (Nat.le_refl _)) rfl rfl ?_
  · obtain ⟨-, hout, hnone⟩ := hs.inFlight_of_poll hbusy
    simp only [Pipeline.inFlight, hpoll, hin, hout, hnone, List.nil_append, List.append_nil,
      ← List.append_assoc, hflight]
  · exact fun owner h ↦ ⟨h.recording, h.mode, h.drains, h.startedBy,
      fun chunk hc ↦ (hemit chunk hc).trans h.mode⟩

theorem Accounted.offer (hs : Accounted quiet s) {chunk : Chunk α}
    (hp : s.poll = .offering chunk) : Accounted quiet (s.offer chunk) := by
  have hbusy : s.poll ≠ .idle := Poll.ne_idle (by rw [hp]; rfl)
  obtain ⟨⟨owner, h⟩, -⟩ := hs.recording (Or.inl hbusy)
  have hrun : chunk.FromRun s.owners := by
    refine hs.books.fromRun h.startedBy (fun x hx ↦ ?_) (h.offered chunk hp)
    rw [(hs.inFlight_of_poll hbusy).1, hp]
    exact List.mem_append_left _ hx
  have hflight : s.inFlight = chunk.samples ++ { s with poll := .idle }.inFlight := by
    simp only [Pipeline.inFlight, hp, Poll.outgoing, Poll.incoming, List.append_assoc,
      List.nil_append]
  have hstage : ∀ owner, Recording s owner → Recording { s with poll := .idle } owner :=
    fun owner h ↦ ⟨h.recording, h.mode, h.drains, h.startedBy, fun _ hc ↦ by cases hc⟩
  rw [Pipeline.offer]
  split_ifs with hc
  · refine hs.of_poll hbusy (hs.books.settle (e := .sent chunk) hflight rfl rfl rfl hrun ?_ ?_) rfl
      rfl fun owner h ↦ (hstage owner h).congr rfl
    · exact (List.append_assoc ..).symm
    · show (s.channel ++ [chunk]).length ≤ channelCapacity
      rw [List.length_append]
      exact hc
  · have hfull : s.channel.length = channelCapacity :=
      Nat.le_antisymm hs.books.capacity (Nat.le_of_not_lt hc)
    refine hs.of_poll hbusy (hs.books.settle (e := .dropped chunk s.channel.length) hflight rfl rfl
      rfl ⟨hrun, hfull⟩ ?_ hs.books.capacity) rfl rfl fun owner h ↦ (hstage owner h).congr rfl
    exact (List.append_nil _).symm

/-- **The step lemma.**  Every allowed step keeps the invariant. -/
theorem accounted_of_step {a : Action α} (hs : Accounted quiet s) (hG : StopGuard s a)
    (h : step quiet s a = some t) : Accounted quiet t := by
  cases step_cases h with
  | audio mono hstream => exact hs.capture hstream mono
  | pressStart source hh hl hr => exact (hs.press hh).1 hr
  | pressStop source hh hl hr => exact (hs.press hh).2 hr
  | startRecorder source answer hh => exact hs.startRecorder hh answer
  | beginRecording source nativeRate hh hl => exact hs.beginRecording hh
  | lockStop source hh hl hm => exact hs.lockStop hh hl hm
  | notOwner source hh hl hm => exact hs.notOwner hh
  | drainStop source hh => exact hs.drainStop hh hG
  | stopHangs source remaining nativeRate hh hpush => exact hs.stopHangs hh hpush
  | stopSplits source remaining nativeRate d hh hpush hd hf => exact hs.stopSplits hh hd
  | stopDiscards source remaining nativeRate d speech minimum hh hpush hd hf hspeech =>
    exact hs.stopDiscards hh hd hspeech
  | stopRecorder source chunk nativeRate hh => exact hs.stopRecorder hh
  | send source chunk nativeRate hh hc => exact hs.send hh hc
  | lockPoll hp hl hr => exact hs.lockPoll hp hl hr
  | notRecording hp hr => exact hs
  | drainPoll hp => exact hs.drainPoll hp
  | pollHangs samples nativeRate hp => exact hs.pushPoll hp rfl rfl fun _ h ↦ by cases h
  | pollKeeps samples nativeRate d hp hd hf => exact hs.pushPoll hp rfl hd fun _ h ↦ by cases h
  | pollSplits samples nativeRate d hp hd hf =>
    refine hs.pushPoll hp rfl ?_ fun chunk h ↦ by cases h; rfl
    rw [hd, List.append_nil]
    rfl
  | offer chunk hp => exact hs.offer hp
  | receive chunk channel hc => exact hs.receive hc

/-! ## The end of a stop -/

/-- The ledger has the samples of the recordings that are over, unless some are in flight. -/
theorem Books.filter_settled (hs : Books s) (h : ∀ x ∈ s.inFlight, ¬ x.run < s.drains) :
    s.settled.filter (fun x ↦ x.run < s.drains) = s.matched := by
  have hnone : s.inFlight.filter (fun x ↦ decide (x.run < s.drains)) = [] :=
    List.filter_eq_nil_iff.mpr fun x hx ↦ by simpa using h x hx
  rw [Pipeline.matched, ← hs.order, List.filter_append, hnone, List.append_nil]

/-- While the last recording is under way, it alone is in flight. -/
theorem Books.filter_settled_of_drains (hs : Books s) (h : s.drains + 1 = s.owners.length) :
    s.settled.filter (fun x ↦ x.run < s.drains) = s.matched :=
  hs.filter_settled fun x hx hlt ↦ by
    have hrun := hs.flight x hx
    omega

theorem Books.filter_settled_of_nil (hs : Books s) (h : s.inFlight = []) :
    s.settled.filter (fun x ↦ x.run < s.drains) = s.matched :=
  hs.filter_settled fun x hx ↦ by
    rw [h] at hx
    cases hx

/-- **When no stop is under way, nothing of the recordings that are over is in flight.** -/
theorem Accounted.returned (hs : Accounted quiet s) (hh : s.handler.hasDrained = false) :
    s.settled.filter (fun x ↦ x.run < s.drains) = s.matched := by
  have hclosed : Closed s → s.handler.outgoing = [] → s.handler.incoming = [] →
      s.settled.filter (fun x ↦ x.run < s.drains) = s.matched :=
    fun hc hout hin ↦ hs.books.filter_settled_of_nil (hs.inFlight_of_closed hc hout hin)
  have hstage := hs.stage
  unfold Stage at hstage
  split at hstage
  case h_1 h =>
    rcases hstage with hc | ⟨owner, hr⟩
    · exact hclosed hc (by rw [h]; rfl) (by rw [h]; rfl)
    · exact hs.books.filter_settled_of_drains hr.drains
  case h_2 h => exact hclosed hstage (by rw [h]; rfl) (by rw [h]; rfl)
  case h_3 => exact hs.books.filter_settled_of_drains hstage.drains
  case h_4 =>
    obtain ⟨owner, hr⟩ := hstage
    exact hs.books.filter_settled_of_drains hr.drains
  case h_5 => exact hs.books.filter_settled_of_drains hstage.1.drains
  all_goals
    rename_i h
    rw [h] at hh
    cases hh

theorem Accounted.canSettle_of_returned (hs : Accounted quiet s)
    (hh : s.handler.hasDrained = false) : CanSettle quiet s :=
  ⟨[], s, rfl, List.forall_mem_nil _, hs.returned hh⟩

theorem Accounted.canSettle_of_nil (hs : Accounted quiet s) (h : s.inFlight = []) :
    CanSettle quiet s :=
  ⟨[], s, rfl, List.forall_mem_nil _, hs.books.filter_settled_of_nil h⟩

/-- These steps are all allowed. -/
theorem Accounted.of_completes (hs : Accounted quiet s) {a : Action α}
    (h : step quiet s a = some t) (ha : a.completes = true) : Accounted quiet t := by
  refine accounted_of_step hs ?_ h
  cases a <;> trivial

/-- A step of the stop, or of the worker. -/
theorem canSettle_of_step {a : Action α} (ha : a.completes = true) (h : step quiet s a = some t)
    (hdrains : t.drains = s.drains) (hcaptured : t.captured = s.captured)
    (ht : CanSettle quiet t) : CanSettle quiet s := by
  obtain ⟨as, r, hrun, has, hr⟩ := ht
  refine ⟨a :: as, r, Machine.exec_cons_eq_some.mpr ⟨t, h, hrun⟩,
    List.forall_mem_cons.mpr ⟨ha, has⟩, ?_⟩
  rw [hdrains, Pipeline.matched, Pipeline.window, hdrains, hcaptured] at hr
  exact hr

section Stop

variable {source : Source} {nativeRate : UInt32}

/-- The last chunk is sent, when there is room for it. -/
theorem Accounted.canSettle_of_room (hs : Accounted quiet s) {chunk : List (Sample α)}
    (hh : s.handler = .sending source chunk nativeRate)
    (hc : s.channel.length < channelCapacity) : CanSettle quiet s := by
  have hstep : step quiet s .send =
      some { s.enqueue ⟨chunk, nativeRate, source.inApp⟩ with handler := .idle } := by
    simp only [step, hh, if_pos hc]
  exact canSettle_of_step rfl hstep rfl rfl
    ((hs.of_completes hstep rfl).canSettle_of_returned rfl)

/-- The worker makes room for it. -/
theorem Accounted.canSettle_of_sending (hs : Accounted quiet s) {chunk : List (Sample α)}
    (hh : s.handler = .sending source chunk nativeRate) : CanSettle quiet s := by
  by_cases hc : s.channel.length < channelCapacity
  · exact hs.canSettle_of_room hh hc
  · cases hchannel : s.channel with
    | nil =>
      rw [hchannel] at hc
      exact absurd (Nat.zero_lt_succ 7) hc
    | cons c channel =>
      have hstep : step quiet s .receive =
          some { s with channel := channel, received := s.received ++ [c] } := by
        simp only [step, hchannel]
      refine canSettle_of_step rfl hstep rfl rfl
        ((hs.of_completes hstep rfl).canSettle_of_room hh ?_)
      have hle := hs.books.capacity
      rw [hchannel, List.length_cons] at hle
      exact hle

theorem Accounted.canSettle_of_stopped (hs : Accounted quiet s)
    {chunk : Option (List (Sample α))} (hh : s.handler = .stopped source chunk nativeRate) :
    CanSettle quiet s := by
  have hstep : step quiet s .stopRecorder = some (s.stopRecorder source chunk nativeRate) := by
    simp only [step, hh]
  have ht := hs.of_completes hstep rfl
  refine canSettle_of_step rfl hstep rfl rfl ?_
  cases chunk with
  | none => exact ht.canSettle_of_returned rfl
  | some chunk => exact ht.canSettle_of_sending rfl

theorem Accounted.canSettle_of_pushing (hs : Accounted quiet s) {remaining : List (Sample α)}
    (hh : s.handler = .pushing source remaining nativeRate) : CanSettle quiet s := by
  rcases (hs.drained hh).2 with hpush | hnil
  · have hstep : step quiet s .pushStop =
        some (s.pushStop quiet source remaining nativeRate) := by
      simp only [step, hh]
    generalize s.pushStop quiet source remaining nativeRate = t at hstep
    have ht := hs.of_completes hstep rfl
    cases step_cases hstep with
    | stopHangs source' remaining' nativeRate' hh' hnone =>
      cases hh.symm.trans hh'
      rw [hnone] at hpush
      cases hpush
    | stopSplits => exact canSettle_of_step rfl hstep rfl rfl (ht.canSettle_of_stopped rfl)
    | stopDiscards => exact canSettle_of_step rfl hstep rfl rfl (ht.canSettle_of_stopped rfl)
  · exact hs.canSettle_of_nil ((hs.inFlight_of_pushing hh).trans hnil)

/-- **Wherever the parties are, the stop comes to its end.** -/
theorem Accounted.canSettle (hs : Accounted quiet s) : CanSettle quiet s := by
  cases hh : s.handler with
  | pushing source remaining nativeRate => exact hs.canSettle_of_pushing hh
  | hung =>
    obtain ⟨owner, hd, hnil⟩ : ∃ source, Drained s source ∧ s.dictation.detector.buffer = [] := by
      simpa only [Stage, hh] using hs.stage
    refine hs.canSettle_of_nil ?_
    rw [Pipeline.inFlight_of_drained hd.poll (hs.filter_of_hasDrained (by rw [hh]; rfl)), hh, hnil]
    rfl
  | stopped source chunk nativeRate => exact hs.canSettle_of_stopped hh
  | sending source chunk nativeRate => exact hs.canSettle_of_sending hh
  | _ => exact hs.canSettle_of_returned (by rw [hh]; rfl)

end Stop

theorem Accounted.conserves (hs : Accounted quiet s) : Conserves quiet s where
  returned := hs.returned
  ends := hs.canSettle
  inOrder := ⟨s.inFlight, hs.books.order⟩
  distinct := by
    rw [← List.pairwise_map (f := Sample.serial) (R := (· < ·)), hs.books.serials]
    exact List.pairwise_lt_range
  sound := hs.books.sound
  channelled := hs.books.channelled
  capacity := hs.books.capacity

/-! ## A stop without an end -/

/-- The handler is in a push that does not come back, or about to make it. -/
def Stuck (s : Pipeline α) (source : Source) (remaining : List (Sample α)) (nativeRate : UInt32)
    (t : Pipeline α) : Prop :=
  t.ledger = s.ledger ∧ (t.handler = .hung ∨
    t.handler = .pushing source remaining nativeRate ∧ t.dictation = s.dictation)

theorem stuck_of_step {source : Source} {remaining : List (Sample α)} {nativeRate : UInt32}
    (hnone : s.dictation.detector.push (belowThreshold quiet) remaining = none) {r : Pipeline α}
    {a : Action α} (ht : Stuck s source remaining nativeRate t) (ha : a.completes = true)
    (h : step quiet t a = some r) : Stuck s source remaining nativeRate r := by
  obtain ⟨hledger, hh⟩ := ht
  have hpush : ∀ source' remaining' nativeRate',
      t.handler = .pushing source' remaining' nativeRate' →
        t.dictation.detector.push (belowThreshold quiet) remaining' = none := by
    intro source' remaining' nativeRate' hh'
    rcases hh with hh | ⟨hh, hd⟩
    · cases hh.symm.trans hh'
    · cases hh.symm.trans hh'
      rw [hd, hnone]
  cases step_cases h with
  | stopHangs => exact ⟨hledger, Or.inl rfl⟩
  | stopSplits source' remaining' nativeRate' d hh' hsome =>
    rw [hpush _ _ _ hh'] at hsome
    cases hsome
  | stopDiscards source' remaining' nativeRate' d speech minimum hh' hsome =>
    rw [hpush _ _ _ hh'] at hsome
    cases hsome
  | stopRecorder source' chunk nativeRate' hh' =>
    rcases hh with hh | ⟨hh, -⟩ <;> cases hh.symm.trans hh'
  | send source' chunk nativeRate' hh' =>
    rcases hh with hh | ⟨hh, -⟩ <;> cases hh.symm.trans hh'
  | receive => exact ⟨hledger, hh⟩
  | _ => cases ha

/-- **A stop that gets into a push without an end keeps its samples.** -/
theorem stopGuard_of_canSettle (hs : Accounted quiet s) {source : Source}
    (hh : s.handler = .draining source) (ht : CanSettle quiet { s with
      recorder := { s.recorder with buffer := [] }
      handler := .pushing source s.recorder.buffer s.recorder.nativeSampleRate
      drains := s.drains + 1 }) : StopGuard s .drainStop := by
  obtain ⟨hr, hp⟩ : Recording s source ∧ s.poll = .idle := by
    simpa only [Stage, hh] using hs.stage
  have hflight : s.inFlight = s.dictation.detector.buffer ++ s.recorder.buffer := by
    simp only [Pipeline.inFlight, hh, hp, hs.filter_of_not_hasDrained (by rw [hh]; rfl),
      Poll.outgoing, Poll.incoming, Handler.outgoing, Handler.incoming, List.nil_append]
  by_cases hpush :
      (s.dictation.detector.push (belowThreshold quiet) s.recorder.buffer).isSome = true
  · exact Or.inr ((SilenceDetector.isSome_push_iff belowThreshold_nil).mp hpush)
  · left
    have hnone := Option.not_isSome_iff_eq_none.mp hpush
    obtain ⟨as, r, hrun, has, hsettled⟩ := ht
    have hstuck : Stuck s source s.recorder.buffer s.recorder.nativeSampleRate r := by
      refine Machine.inv_of_guarded (G := fun _ a ↦ a.completes = true)
        (fun t a r ht ha h ↦ stuck_of_step hnone ht ha h) ?_
        (Machine.guarded_of_forall_mem (fun a ha _ ↦ has a ha) _) hrun
      exact ⟨rfl, Or.inr ⟨rfl, rfl⟩⟩
    -- The ledger stays as it was, so nothing of this recording can have been in flight.
    have hfilter : s.inFlight.filter (fun x ↦ decide (x.run < s.drains + 1)) = [] := by
      have hwindow : s.window.filter (fun x ↦ decide (x.run < s.drains + 1)) =
          s.settled.filter fun x ↦ decide (x.run < s.drains + 1) := by
        rw [Pipeline.settled, ← hstuck.1]
        exact hsettled.symm
      rw [← hs.books.order, List.filter_append] at hwindow
      exact List.append_right_eq_self.mp hwindow
    rw [← hflight]
    refine List.eq_nil_iff_forall_not_mem.mpr fun x hx ↦ ?_
    have hrun : x.run < s.drains + 1 := by
      have := hs.books.flight x hx
      have := hr.drains
      omega
    exact List.filter_eq_nil_iff.mp hfilter x hx (decide_eq_true hrun)

end Accounted

/-! ## The native rate -/

/-- The device has samples for a frame of 20 ms. -/
def Action.HasFrames : Action α → Prop
  | .startRecorder (.streaming rate) =>
    0 < (SilenceDetector.new rate 300 300 10000 : SilenceDetector (Sample α)).frameSize
  | _ => True

/-- The frames of the detector have samples, and so have those of the next one. -/
structure Framed (s : Pipeline α) : Prop where
  detector : 0 < s.dictation.detector.frameSize
  started : ∀ source nativeRate, s.handler = .started source nativeRate →
    0 < (SilenceDetector.new nativeRate 300 300 10000 : SilenceDetector (Sample α)).frameSize

section Framed

variable {quiet : List α → Bool} {s t : Pipeline α}

theorem framed_init : Framed (.init : Pipeline α) where
  detector := SilenceDetector.frameSize_new_pos (by decide) (by decide) 300 500 10000
  started := by simp [Pipeline.init]

theorem framed_of_step {a : Action α} (hs : Framed s) (ha : a.HasFrames)
    (h : step quiet s a = some t) : Framed t := by
  cases step_cases h with
  | audio => exact ⟨hs.detector, hs.started⟩
  | startRecorder source answer hh =>
    cases answer with
    | streaming rate =>
      refine ⟨hs.detector, fun source' nativeRate hh' ↦ ?_⟩
      cases hh'
      exact ha
    | failed rate => exact ⟨hs.detector, fun _ _ hh' ↦ by cases hh'⟩
    | noDevice => exact ⟨hs.detector, fun _ _ hh' ↦ by cases hh'⟩
  | beginRecording source nativeRate hh hl =>
    exact ⟨hs.started source nativeRate hh, fun _ _ hh' ↦ by cases hh'⟩
  | stopSplits source remaining nativeRate d hh hp hd hf =>
    exact ⟨hf ▸ hs.detector, fun _ _ hh' ↦ by cases hh'⟩
  | stopDiscards source remaining nativeRate d speech minimum hh hp hd hf hspeech =>
    exact ⟨hf ▸ hs.detector, fun _ _ hh' ↦ by cases hh'⟩
  | stopRecorder source chunk nativeRate hh =>
    refine ⟨hs.detector, fun _ _ hh' ↦ ?_⟩
    cases chunk <;> cases hh'
  | pollKeeps samples nativeRate d hp hd hf => exact ⟨hf ▸ hs.detector, hs.started⟩
  | pollSplits samples nativeRate d hp hd hf => exact ⟨hf ▸ hs.detector, hs.started⟩
  | offer chunk hp =>
    rw [Pipeline.offer]
    split_ifs <;> exact ⟨hs.detector, hs.started⟩
  | lockPoll | notRecording | drainPoll | pollHangs | receive => exact ⟨hs.detector, hs.started⟩
  | _ => exact ⟨hs.detector, fun _ _ hh' ↦ by cases hh'⟩

theorem Framed.stopGuard (hs : Framed s) (a : Action α) : StopGuard s a := by
  cases a with
  | drainStop => exact Or.inr (Or.inr (Or.inl hs.detector))
  | _ => trivial

/-- **On every device whose frames have samples, audio is conserved in all runs.** -/
theorem conserves_of_hasFrames {as : List (Action α)} (has : ∀ a ∈ as, a.HasFrames)
    (hrun : Machine.exec (step quiet) .init as = some t) : Conserves quiet t := by
  have hinv : Accounted quiet t ∧ Framed t := by
    refine Machine.inv_of_guarded (G := fun _ a ↦ a.HasFrames)
      (I := fun s ↦ Accounted quiet s ∧ Framed s) ?_ ⟨accounted_init, framed_init⟩
      (Machine.guarded_of_forall_mem (fun a ha _ ↦ has a ha) _) hrun
    exact fun s a t hs ha h ↦
      ⟨accounted_of_step hs.1 (hs.2.stopGuard a) h, framed_of_step hs.2 ha h⟩
  exact hinv.1.conserves

end Framed

/-! ## The runs -/

/-- **Dictation conserves audio, and routes it to its owner, all along a run if and only if no stop
in it drains into a detector whose loop does not end.** -/
theorem conserves_iff_guarded {quiet : List α → Bool} {as : List (Action α)} {t : Pipeline α}
    (hrun : Machine.exec (step quiet) .init as = some t) :
    (∀ pre post r, as = pre ++ post → Machine.exec (step quiet) .init pre = some r →
      Conserves quiet r) ↔
      Machine.Guarded (step quiet) StopGuard .init as := by
  refine Machine.forall_iff_guarded_of_inv (H := fun _ ↦ True) (I := Accounted quiet)
    (fun s a t hs _ hG h ↦ accounted_of_step hs hG h) (fun s hs ↦ hs.conserves) ?_
    accounted_init (fun _ _ ↦ trivial) hrun
  intro s a t hs h ht
  cases step_cases h with
  | drainStop source hh => exact stopGuard_of_canSettle hs hh ht.ends
  | _ => trivial

/-- The button starts a recording on a device of this rate, one sample is captured, and the button
is pressed again. -/
def exampleRecording (rate : UInt32) : List (Action Int) :=
  [.press .inAppButton, .startRecorder (.streaming rate), .beginRecording, .audio [1],
    .press .inAppButton, .lockStop, .drainStop]

theorem conserves_iff_guarded_example :
    ∃ t, Machine.exec (step fun _ ↦ false) .init (exampleRecording 44100) = some t ∧
      ((∀ pre post r, exampleRecording 44100 = pre ++ post →
          Machine.exec (step fun _ ↦ false) .init pre = some r →
          Conserves (fun _ ↦ false) r) ↔
        Machine.Guarded (step fun _ ↦ false) StopGuard .init (exampleRecording 44100)) := by
  obtain ⟨t, hrun⟩ : ∃ t, Machine.exec (step fun _ ↦ false) .init (exampleRecording 44100) =
      some t := ⟨_, rfl⟩
  exact ⟨t, hrun, conserves_iff_guarded hrun⟩

/-- **A sample can be lost when a recording is stopped.**  At 8 Hz no frame has a sample, and the
stop never comes back from its push. -/
theorem not_conserves_of_exec :
    ∃ t, Machine.exec (step fun _ ↦ false) .init (exampleRecording 8) = some t ∧
      t.matched.map Sample.value = [1] ∧ t.settled = [] ∧
      ¬ CanSettle (fun _ ↦ false) t ∧ ¬ Conserves (fun _ ↦ false) t := by
  let before := (exampleRecording 8).dropLast
  obtain ⟨s, hpre, hh, hbuffer, hmax, hcursor, hsize, hspeech⟩ :
      ∃ s, Machine.exec (step fun _ ↦ false) .init before = some s ∧
        s.handler = .draining .inAppButton ∧
        s.dictation.detector.buffer ++ s.recorder.buffer = [⟨1, 0, false, 0⟩] ∧
        s.dictation.detector.maxChunkSamples = 80 ∧ s.dictation.detector.cursor = 0 ∧
        s.dictation.detector.frameSize = 0 ∧
        s.dictation.detector.speechSamples < s.dictation.detector.minChunkSamples :=
    ⟨_, rfl, rfl, rfl, rfl, rfl, rfl, by decide⟩
  have hs : Accounted (fun _ ↦ false) s := by
    refine Machine.inv_of_guarded (fun s a t hs hG h ↦ accounted_of_step hs hG h) accounted_init
      (Machine.guarded_of_forall_mem ?_ _) hpre
    intro a ha s
    simp only [before, exampleRecording, List.dropLast, List.mem_cons, List.not_mem_nil,
      or_false] at ha
    rcases ha with rfl | rfl | rfl | rfl | rfl | rfl <;> trivial
  have hguard : ¬ StopGuard s .drainStop := by
    rintro (h | h | h | h | h)
    · rw [hbuffer] at h
      cases h
    · rw [hbuffer, hmax] at h
      exact absurd h (by decide)
    · rw [SilenceDetector.frameSize_extend, hsize] at h
      exact Nat.lt_irrefl 0 h
    · rw [SilenceDetector.buffer_extend, hbuffer] at h
      exact absurd (hcursor ▸ h) (Nat.not_lt_zero _)
    · exact Nat.not_le_of_lt hspeech h
  obtain ⟨t, ht, hmatched, hsettled⟩ : ∃ t,
      Machine.exec (step fun _ ↦ false) .init (exampleRecording 8) = some t ∧
        t.matched.map Sample.value = [1] ∧ t.settled = [] := ⟨_, rfl, rfl, rfl⟩
  have hend : ¬ CanSettle (fun _ ↦ false) t := by
    intro hend
    obtain ⟨r, hr, hstep⟩ := Machine.exec_concat_eq_some.mp
      (show Machine.exec (step fun _ ↦ false) .init (before ++ [.drainStop]) = some t from ht)
    cases hr.symm.trans hpre
    simp only [step, hh, Option.some_inj] at hstep
    exact hguard (stopGuard_of_canSettle hs hh (hstep ▸ hend))
  exact ⟨t, ht, hmatched, hsettled, hend, fun h ↦ hend h.ends⟩

end WorkWithMe.Dictation
