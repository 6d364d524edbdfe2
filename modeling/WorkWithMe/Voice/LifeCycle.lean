import WorkWithMe.Voice.Meeting

/-!
# The life of a meeting

A meeting is recorded, then transcribed, then complete or in error, and where it is shows in four
places: the slot `ACTIVE_MEETING`, the ffmpeg process, the row of the session and the transcription
thread.  `LifeCycle` says how they fit together between two commands.

Two steps break it.  `meeting_start` spawns ffmpeg before it creates the row, and when that fails it
returns and leaves the process to itself; `meeting_stop` empties the slot before it updates the row,
and when that fails there is nothing left for another `meeting_stop` to take.

* `Recorded` is the invariant at every step, also in the middle of a command.
* `lifeCycle_iff_guarded` says in which runs the four places fit together whenever no command is
  running: those in which neither of the two happens.  In these the status of a row only moves on.
-/

set_option autoImplicit false

namespace WorkWithMe.Voice

/-! ## The law -/

/-- The ffmpeg process of the session is running. -/
def Meetings.Running (σ : Meetings) (sid : String) : Prop :=
  ∃ f, σ.ffmpeg sid = some f ∧ f.isRunning = true

/-- The steps that `meeting_stop` consists of, and the exit of ffmpeg it waits for. -/
def MeetingAction.stops : MeetingAction → Bool
  | .stop | .waited | .finish .. | .ffmpegExits _ => true
  | _ => false

/-- A `meeting_stop` can finish the recording. -/
def Meetings.CanFinish (σ : Meetings) (sid : String) : Prop :=
  ∃ as τ, Machine.exec meetingStep σ as = some τ ∧ (∀ a ∈ as, a.stops = true) ∧
    τ.db.status sid = some "processing" ∧ τ.thread sid = some .transcribing

/-- **The slot, the process, the row and the thread fit together.** -/
structure LifeCycle (σ : Meetings) : Prop where
  /-- The session whose row says that it is recorded is the one in the slot. -/
  recording : ∀ sid, σ.db.status sid = some "recording" ↔ σ.active = some sid
  /-- A session whose row says that it is transcribed has a thread. -/
  processing : ∀ sid, σ.db.status sid = some "processing" → σ.thread sid = some .transcribing
  /-- A meeting that is recorded or transcribed has a row, unless it was deleted. -/
  row : ∀ sid, σ.active = some sid ∨ σ.Running sid ∨ σ.thread sid = some .transcribing →
    σ.deleted sid = false → ∃ st, σ.db.status sid = some st
  /-- The only process that is running is that of the session in the slot. -/
  process : ∀ sid, σ.Running sid → σ.active = some sid
  /-- A recording that could not be stopped can still be. -/
  stoppable : ∀ sid, σ.stopFailed sid = true → σ.CanFinish sid

/-- **The statuses only move on.** -/
def StatusAdvances (σ τ : Meetings) : Prop :=
  ∀ sid st, τ.db.status sid = some st → σ.db.status sid = some st ∨
    σ.db.status sid = none ∧ st = "recording" ∨
    σ.db.status sid = some "recording" ∧ st = "processing" ∨
    σ.db.status sid = some "processing" ∧ (st = "complete" ∨ st = "error")

/-- The condition on a step: the row of a new session is created, or ffmpeg has already exited, and
the row of a stopped one is updated. -/
def RowGuard (σ : Meetings) : MeetingAction → Prop
  | .createRow _ fault => fault = none ∨ ∀ sid title, σ.command = some (.starting sid title) →
      ¬ σ.Running sid
  | .finish _ _ fault => fault = none
  | _ => True

/-- The updates of the transcription threads succeed. -/
def MeetingAction.ThreadSucceeds : MeetingAction → Prop
  | .thread _ (.complete fault) | .thread _ (.fail fault) => fault = none
  | _ => True

/-! ## The invariant -/

/-- The session is in the slot, or `meeting_stop` has just taken it out. -/
def Meetings.Holds (σ : Meetings) (sid : String) : Prop :=
  σ.active = some sid ∨ σ.command = some (.stopping sid) ∨ σ.command = some (.finishing sid)

/-- How the four places fit together at every step. -/
structure Recorded (σ : Meetings) : Prop where
  /-- The row says that the session is recorded. -/
  recording : ∀ sid, σ.db.status sid = some "recording" ↔ σ.Holds sid
  /-- The row says that the session is transcribed. -/
  processing : ∀ sid, σ.db.status sid = some "processing" → σ.thread sid = some .transcribing
  /-- The session of a thread is as the thread expects it, or has been deleted. -/
  transcribing : ∀ sid, σ.thread sid = some .transcribing →
    σ.db.status sid = some "processing" ∨ σ.db.status sid = none ∧ σ.deleted sid = true
  /-- Every session and every thread comes from a `meeting_start`. -/
  started : ∀ sid, σ.ffmpeg sid = none → σ.db.status sid = none ∧ σ.thread sid = none
  /-- While a meeting is started, there is neither a row nor a thread of it, nor is the slot
  taken. -/
  starting : ∀ sid title, σ.command = some (.starting sid title) →
    σ.active = none ∧ σ.ffmpeg sid ≠ none ∧ σ.db.status sid = none ∧ σ.thread sid = none
  /-- While a meeting is stopped, the slot is empty. -/
  stopping : ∀ sid, σ.command = some (.stopping sid) ∨ σ.command = some (.finishing sid) →
    σ.active = none
  /-- What is deleted is not in the slot. -/
  deleting : ∀ sid, σ.command = some (.deleting sid) → σ.active ≠ some sid
  /-- A process that is running belongs to the meeting that is recorded, started or stopped. -/
  running : ∀ sid, σ.Running sid → σ.active = some sid ∨
    (∃ title, σ.command = some (.starting sid title)) ∨ σ.command = some (.stopping sid)
  /-- No `meeting_stop` has failed. -/
  stopped : ∀ sid, σ.stopFailed sid = false

section Recorded

variable {σ τ : Meetings}

theorem recorded_init : Recorded (.init .empty) := by
  constructor <;> simp [Meetings.init, VoiceDb.empty, VoiceDb.status, Meetings.Holds,
    Meetings.Running]

/-- Between two commands the invariant is the law. -/
theorem Recorded.lifeCycle (hσ : Recorded σ) (hc : σ.command = none) : LifeCycle σ where
  recording sid := by
    rw [hσ.recording, Meetings.Holds, hc]
    simp
  processing := hσ.processing
  row sid h hdel := by
    have hactive : σ.active = some sid → ∃ st, σ.db.status sid = some st :=
      fun ha ↦ ⟨_, (hσ.recording sid).mpr (Or.inl ha)⟩
    rcases h with h | h | h
    · exact hactive h
    · refine hactive ((hσ.running sid h).resolve_right ?_)
      simp [hc]
    · rcases hσ.transcribing sid h with h | ⟨-, h⟩
      · exact ⟨_, h⟩
      · rw [hdel] at h
        cases h
  process sid h := (hσ.running sid h).resolve_right (by simp [hc])
  stoppable sid h := by
    rw [hσ.stopped] at h
    cases h

/-- A step that leaves the four places alone. -/
theorem Recorded.of_eq (hσ : Recorded σ) (hs : τ.db.sessions = σ.db.sessions)
    (ha : τ.active = σ.active) (hf : τ.ffmpeg = σ.ffmpeg) (ht : τ.thread = σ.thread)
    (hd : τ.deleted = σ.deleted) (hstop : τ.stopFailed = σ.stopFailed)
    (hc : τ.command = σ.command) : Recorded τ := by
  have hst : ∀ sid, τ.db.status sid = σ.db.status sid := fun _ ↦ VoiceDb.status_congr hs
  constructor
  all_goals simp only [Meetings.Holds, Meetings.Running, hst, ha, hf, ht, hd, hstop, hc]
  · exact hσ.recording
  · exact hσ.processing
  · exact hσ.transcribing
  · exact hσ.started
  · exact hσ.starting
  · exact hσ.stopping
  · exact hσ.deleting
  · exact hσ.running
  · exact hσ.stopped

/-! ## What each command does -/

/-- No meeting is being started or stopped. -/
def idle : Option Command → Bool
  | some (.starting ..) | some (.stopping _) | some (.finishing _) => false
  | _ => true

/-- A command begins or ends that neither starts nor stops a meeting. -/
theorem Recorded.of_idle (hσ : Recorded σ) {c : Option Command} (hold : idle σ.command = true)
    (hnew : idle c = true) (hdel : ∀ sid, c = some (.deleting sid) → σ.active ≠ some sid) :
    Recorded { σ with command := c } where
  recording sid := by
    rw [show Meetings.Holds { σ with command := c } sid ↔ σ.Holds sid from ?_]
    · exact hσ.recording sid
    · rw [Meetings.Holds]
      refine or_congr Iff.rfl (iff_of_false ?_ ?_)
      · rintro (h | h) <;> simp_all [idle]
      · rintro (h | h) <;> simp_all [idle]
  processing := hσ.processing
  transcribing := hσ.transcribing
  started := hσ.started
  starting sid title h := by
    rw [show c = some (.starting sid title) from h] at hnew
    cases hnew
  stopping sid h := by
    rcases h with h | h
    · rw [show c = some (.stopping sid) from h] at hnew
      cases hnew
    · rw [show c = some (.finishing sid) from h] at hnew
      cases hnew
  deleting := hdel
  running sid h := by
    refine Or.inl ((hσ.running sid h).resolve_right ?_)
    rintro (⟨title, h⟩ | h) <;> simp_all [idle]
  stopped := hσ.stopped

/-- A process of ffmpeg goes on without its standard input, or exits. -/
theorem running_update_iff {sid j : String} {f : Ffmpeg} :
    Meetings.Running { σ with ffmpeg := Function.update σ.ffmpeg sid (some f) } j ↔
      j = sid ∧ f.isRunning = true ∨ j ≠ sid ∧ σ.Running j := by
  unfold Meetings.Running
  rcases eq_or_ne j sid with rfl | hj
  · simp
  · simp [hj]

/-- `meeting_start` spawns ffmpeg. -/
theorem Recorded.start (hσ : Recorded σ) {sid title : String} (hc : σ.command = none)
    (ha : σ.active = none) (hf : σ.ffmpeg sid = none) :
    Recorded { σ with
      ffmpeg := Function.update σ.ffmpeg sid (some (.running true))
      command := some (.starting sid title) } where
  recording j := by
    rw [hσ.recording]
    simp [Meetings.Holds, hc]
  processing := hσ.processing
  transcribing := hσ.transcribing
  started j hj := by
    refine hσ.started j ?_
    rcases eq_or_ne j sid with rfl | hne
    · exact hf
    · simpa [hne] using hj
  starting j title' h := by
    obtain ⟨rfl, rfl⟩ : sid = j ∧ title = title' := by simpa using h
    obtain ⟨hst, ht⟩ := hσ.started sid hf
    exact ⟨ha, by simp, hst, ht⟩
  stopping j h := ha
  deleting j h := by cases h
  running j h := by
    rcases running_update_iff.mp h with ⟨rfl, -⟩ | ⟨-, h⟩
    · exact Or.inr (Or.inl ⟨title, rfl⟩)
    · refine Or.inl ((hσ.running j h).resolve_right ?_)
      simp [hc]
  stopped := hσ.stopped

/-- An operation that touches the row of one session. -/
theorem status_split {f g h : String → Option String} {sid : String}
    (hst : ∀ j, f j = if j = sid then g j else h j) : f sid = g sid ∧ ∀ j, j ≠ sid → f j = h j :=
  ⟨by rw [hst, if_pos rfl], fun j hj ↦ by rw [hst, if_neg hj]⟩

/-- `meeting_start` creates the row. -/
theorem Recorded.created (hσ : Recorded σ) {sid title : String} {db : VoiceDb}
    (hc : σ.command = some (.starting sid title))
    (hst : ∀ j, db.status j = if j = sid then some "recording" else σ.db.status j) :
    Recorded { σ with db := db, active := some sid, command := none } := by
  obtain ⟨ha, hf, hnone, hthread⟩ := hσ.starting sid title hc
  obtain ⟨hown, hother⟩ := status_split hst
  constructor
  case recording =>
    intro j
    show db.status j = some "recording" ↔ Meetings.Holds _ j
    rcases eq_or_ne j sid with rfl | hj
    · exact iff_of_true hown (Or.inl rfl)
    · rw [hother j hj, hσ.recording]
      simp [Meetings.Holds, ha, hc, hj.symm]
  case processing =>
    intro j h
    rcases eq_or_ne j sid with rfl | hj
    · rw [show db.status j = _ from h] at hown
      simp at hown
    · exact hσ.processing j (hother j hj ▸ h)
  case transcribing =>
    intro j h
    have hj : j ≠ sid := by
      rintro rfl
      rw [hthread] at h
      cases h
    show db.status j = _ ∨ db.status j = _ ∧ _
    rw [hother j hj]
    exact hσ.transcribing j h
  case started =>
    intro j h
    have hj : j ≠ sid := fun hj ↦ hf (hj ▸ h)
    show db.status j = _ ∧ _
    rw [hother j hj]
    exact hσ.started j h
  case starting => intro j title' h; cases h
  case stopping => rintro j (h | h) <;> cases h
  case deleting => intro j h; cases h
  case running =>
    intro j h
    left
    rcases hσ.running j h with h | ⟨title', h⟩ | h
    · rw [ha] at h
      cases h
    · rw [hc] at h
      cases h
      rfl
    · rw [hc] at h
      cases h
  case stopped => exact hσ.stopped

/-- `meeting_start` could not create the row, and ffmpeg has already exited. -/
theorem Recorded.createFailed (hσ : Recorded σ) {sid title : String}
    (hc : σ.command = some (.starting sid title)) (hrun : ¬ σ.Running sid) :
    Recorded { σ with
      ffmpeg := Function.update σ.ffmpeg sid ((σ.ffmpeg sid).map Ffmpeg.closeStdin)
      command := none } := by
  obtain ⟨ha, hf, hnone, hthread⟩ := hσ.starting sid title hc
  obtain ⟨f, hf⟩ := Option.ne_none_iff_exists'.mp hf
  rw [hf, Option.map_some]
  constructor
  case recording =>
    intro j
    rw [hσ.recording]
    simp [Meetings.Holds, ha, hc]
  case processing => exact hσ.processing
  case transcribing => exact hσ.transcribing
  case started =>
    intro j hj
    refine hσ.started j ?_
    rcases eq_or_ne j sid with rfl | hne
    · simp at hj
    · simpa [hne] using hj
  case starting => intro j title' h; cases h
  case stopping => rintro j (h | h) <;> cases h
  case deleting => intro j h; cases h
  case running =>
    intro j h
    rcases running_update_iff.mp h with ⟨rfl, hclose⟩ | ⟨hne, h⟩
    · refine absurd ⟨f, hf, ?_⟩ hrun
      cases f with
      | running stdinOpen => rfl
      | exited => exact hclose
    · refine Or.inl ((hσ.running j h).resolve_right ?_)
      simp [hc, hne.symm]
  case stopped => exact hσ.stopped

/-- `meeting_stop` empties the slot. -/
theorem Recorded.stop (hσ : Recorded σ) {sid : String} (hc : σ.command = none)
    (ha : σ.active = some sid) :
    Recorded { σ with
      active := none
      ffmpeg := Function.update σ.ffmpeg sid ((σ.ffmpeg sid).map Ffmpeg.closeStdin)
      command := some (.stopping sid) } := by
  have hrec : σ.db.status sid = some "recording" := (hσ.recording sid).mpr (Or.inl ha)
  have hf : σ.ffmpeg sid ≠ none := by
    intro hf
    rw [(hσ.started sid hf).1] at hrec
    cases hrec
  obtain ⟨f, hf⟩ := Option.ne_none_iff_exists'.mp hf
  rw [hf, Option.map_some]
  constructor
  case recording =>
    intro j
    rw [hσ.recording]
    simp [Meetings.Holds, ha, hc]
  case processing => exact hσ.processing
  case transcribing => exact hσ.transcribing
  case started =>
    intro j hj
    refine hσ.started j ?_
    rcases eq_or_ne j sid with rfl | hne
    · simp at hj
    · simpa [hne] using hj
  case starting => intro j title' h; cases h
  case stopping => exact fun _ _ ↦ rfl
  case deleting => intro j h; cases h
  case running =>
    intro j h
    rcases running_update_iff.mp h with ⟨rfl, -⟩ | ⟨hne, h⟩
    · exact Or.inr (Or.inr rfl)
    · have hactive := (hσ.running j h).resolve_right (by simp [hc])
      rw [ha, Option.some_inj] at hactive
      exact absurd hactive.symm hne
  case stopped => exact hσ.stopped

/-- `meeting_stop` has waited for ffmpeg. -/
theorem Recorded.waited (hσ : Recorded σ) {sid : String} (hc : σ.command = some (.stopping sid))
    (hf : σ.ffmpeg sid = some .exited) :
    Recorded { σ with command := some (.finishing sid) } := by
  have ha := hσ.stopping sid (Or.inl hc)
  constructor
  case recording =>
    intro j
    rw [hσ.recording]
    simp [Meetings.Holds, ha, hc]
  case processing => exact hσ.processing
  case transcribing => exact hσ.transcribing
  case started => exact hσ.started
  case starting => intro j title h; cases h
  case stopping => exact fun _ _ ↦ ha
  case deleting => intro j h; cases h
  case running =>
    intro j h
    rcases hσ.running j h with h' | ⟨title, h'⟩ | h'
    · rw [ha] at h'
      cases h'
    · rw [hc] at h'
      cases h'
    · obtain rfl : sid = j := by simpa [hc] using h'
      obtain ⟨f, hf', hrun⟩ := h
      rw [show σ.ffmpeg sid = some f from hf', Option.some_inj] at hf
      rw [hf] at hrun
      cases hrun
  case stopped => exact hσ.stopped

/-- `meeting_stop` updates the row and spawns the thread. -/
theorem Recorded.finished (hσ : Recorded σ) {sid : String} {db : VoiceDb}
    (hc : σ.command = some (.finishing sid))
    (hst : ∀ j, db.status j =
      if j = sid then (σ.db.status j).map fun _ ↦ "processing" else σ.db.status j) :
    Recorded { σ with
      db := db, thread := Function.update σ.thread sid (some .transcribing),
      stopFailed := Function.update σ.stopFailed sid false, command := none } := by
  have ha := hσ.stopping sid (Or.inr hc)
  have hrec : σ.db.status sid = some "recording" := (hσ.recording sid).mpr (Or.inr (Or.inr hc))
  obtain ⟨hown, hother⟩ := status_split hst
  rw [hrec, Option.map_some] at hown
  constructor
  case recording =>
    intro j
    show db.status j = some "recording" ↔ Meetings.Holds _ j
    rcases eq_or_ne j sid with rfl | hj
    · rw [hown]
      simp [Meetings.Holds, ha]
    · rw [hother j hj, hσ.recording]
      simp [Meetings.Holds, ha, hc, hj.symm]
  case processing =>
    intro j h
    show Function.update σ.thread sid (some .transcribing) j = _
    rcases eq_or_ne j sid with rfl | hj
    · rw [Function.update_self]
    · rw [Function.update_of_ne hj]
      exact hσ.processing j (hother j hj ▸ h)
  case transcribing =>
    intro j h
    show db.status j = _ ∨ db.status j = _ ∧ _
    rcases eq_or_ne j sid with rfl | hj
    · exact Or.inl hown
    · rw [hother j hj]
      exact hσ.transcribing j (by simpa [hj] using h)
  case started =>
    intro j h
    have hj : j ≠ sid := by
      rintro rfl
      rw [(hσ.started j h).1] at hrec
      cases hrec
    show db.status j = _ ∧ Function.update σ.thread sid (some .transcribing) j = _
    rw [hother j hj, Function.update_of_ne hj]
    exact hσ.started j h
  case starting => intro j title h; cases h
  case stopping => rintro j (h | h) <;> cases h
  case deleting => intro j h; cases h
  case running =>
    intro j h
    refine Or.inl ((hσ.running j h).resolve_right ?_)
    simp [hc]
  case stopped =>
    intro j
    show Function.update σ.stopFailed sid false j = false
    rcases eq_or_ne j sid with rfl | hj
    · rw [Function.update_self]
    · rw [Function.update_of_ne hj, hσ.stopped]

/-- `meeting_delete` deletes the session. -/
theorem Recorded.deleted (hσ : Recorded σ) {sid : String} {db : VoiceDb}
    {saved : String → Option String} (hc : σ.command = some (.deleting sid))
    (hst : ∀ j, db.status j = if j = sid then none else σ.db.status j) :
    Recorded { σ with
      db := db, deleted := Function.update σ.deleted sid true, saved := saved,
      command := none } := by
  obtain ⟨hown, hother⟩ := status_split hst
  constructor
  case recording =>
    intro j
    show db.status j = some "recording" ↔ Meetings.Holds _ j
    rcases eq_or_ne j sid with rfl | hj
    · rw [hown]
      simp [Meetings.Holds, hσ.deleting j hc]
    · rw [hother j hj, hσ.recording]
      simp [Meetings.Holds, hc]
  case processing =>
    intro j h
    have hj : j ≠ sid := by
      rintro rfl
      rw [show db.status j = _ from h] at hown
      cases hown
    exact hσ.processing j (hother j hj ▸ h)
  case transcribing =>
    intro j h
    show db.status j = _ ∨ db.status j = _ ∧ Function.update σ.deleted sid true j = _
    rcases eq_or_ne j sid with rfl | hj
    · exact Or.inr ⟨hown, Function.update_self ..⟩
    · rw [hother j hj, Function.update_of_ne hj]
      exact hσ.transcribing j h
  case started =>
    intro j h
    show db.status j = _ ∧ _
    rcases eq_or_ne j sid with rfl | hj
    · exact ⟨hown, (hσ.started j h).2⟩
    · rw [hother j hj]
      exact hσ.started j h
  case starting => intro j title h; cases h
  case stopping => rintro j (h | h) <;> cases h
  case deleting => intro j h; cases h
  case running =>
    intro j h
    refine Or.inl ((hσ.running j h).resolve_right ?_)
    simp [hc]
  case stopped => exact hσ.stopped

/-- A process of ffmpeg exits. -/
theorem Recorded.ffmpegExits (hσ : Recorded σ) {sid : String} (hf : σ.ffmpeg sid ≠ none) :
    Recorded { σ with ffmpeg := Function.update σ.ffmpeg sid (some .exited) } := by
  have hkept : ∀ j, Function.update σ.ffmpeg sid (some .exited) j = none ↔ σ.ffmpeg j = none := by
    intro j
    rcases eq_or_ne j sid with rfl | hj
    · simp [hf]
    · simp [hj]
  constructor
  case recording => exact hσ.recording
  case processing => exact hσ.processing
  case transcribing => exact hσ.transcribing
  case started => exact fun j h ↦ hσ.started j ((hkept j).mp h)
  case starting =>
    intro j title h
    obtain ⟨ha, hne, hst, ht⟩ := hσ.starting j title h
    exact ⟨ha, fun h ↦ hne ((hkept j).mp h), hst, ht⟩
  case stopping => exact hσ.stopping
  case deleting => exact hσ.deleting
  case running =>
    intro j h
    rcases running_update_iff.mp h with ⟨-, h⟩ | ⟨-, h⟩
    · cases h
    · exact hσ.running j h
  case stopped => exact hσ.stopped

/-- A transcription thread ends. -/
theorem Recorded.threadEnds (hσ : Recorded σ) {sid status : String} {db : VoiceDb}
    (ht : σ.thread sid = some .transcribing) (hstatus : status = "complete" ∨ status = "error")
    (hst : ∀ j, db.status j =
      if j = sid then (σ.db.status j).map fun _ ↦ status else σ.db.status j) :
    Recorded { σ with db := db, thread := Function.update σ.thread sid (some .ended) } := by
  obtain ⟨hself, hother⟩ := status_split hst
  have hown : ∀ st, db.status sid = some st → st = "complete" ∨ st = "error" := by
    intro st h
    rw [hself, Option.map_eq_some_iff] at h
    obtain ⟨-, -, rfl⟩ := h
    exact hstatus
  have hnot : ¬ σ.Holds sid := by
    rw [← hσ.recording]
    rcases hσ.transcribing sid ht with h | ⟨h, -⟩ <;> simp [h]
  constructor
  case recording =>
    intro j
    show db.status j = some "recording" ↔ σ.Holds j
    rcases eq_or_ne j sid with rfl | hj
    · refine iff_of_false (fun h ↦ ?_) hnot
      simpa using hown _ h
    · rw [hother j hj, hσ.recording]
  case processing =>
    intro j h
    show Function.update σ.thread sid (some .ended) j = _
    rcases eq_or_ne j sid with rfl | hj
    · simpa using hown _ h
    · rw [Function.update_of_ne hj]
      exact hσ.processing j (hother j hj ▸ h)
  case transcribing =>
    intro j h
    have hj : j ≠ sid := by
      rintro rfl
      simp at h
    show db.status j = _ ∨ db.status j = _ ∧ _
    rw [hother j hj]
    exact hσ.transcribing j (by simpa [hj] using h)
  case started =>
    intro j h
    have hj : j ≠ sid := by
      rintro rfl
      rw [(hσ.started j h).2] at ht
      cases ht
    show db.status j = _ ∧ Function.update σ.thread sid (some .ended) j = _
    rw [hother j hj, Function.update_of_ne hj]
    exact hσ.started j h
  case starting =>
    intro j title h
    obtain ⟨ha, hf, hnone, hthread⟩ := hσ.starting j title h
    have hj : j ≠ sid := by
      rintro rfl
      rw [hthread] at ht
      cases ht
    show _ ∧ _ ∧ db.status j = _ ∧ Function.update σ.thread sid (some .ended) j = _
    rw [hother j hj, Function.update_of_ne hj]
    exact ⟨ha, hf, hnone, hthread⟩
  case stopping => exact hσ.stopping
  case deleting => exact hσ.deleting
  case running => exact hσ.running
  case stopped => exact hσ.stopped

/-! ## The condition, exactly -/

/-- **A step that meets the condition keeps the four places together.** -/
theorem recorded_step {a : MeetingAction} (hσ : Recorded σ) (hthread : a.ThreadSucceeds)
    (hG : RowGuard σ a) (h : meetingStep σ a = some τ) : Recorded τ := by
  cases meetingStep_cases h with
  | start sid title hc ha hf => exact hσ.start hc ha hf
  | created sid title now fault db hc hr => exact hσ.created hc (status_createSession hr)
  | createFailed sid title e now fault hc hr =>
    refine hσ.createFailed hc (hG.resolve_left ?_ sid title hc)
    -- without a fault there is nothing in the way of the row
    rintro rfl
    have hnew : sid ∉ σ.db.sessions.map VoiceSession.id := by
      rw [← VoiceDb.exists_status_iff, (hσ.starting sid title hc).2.2.1]
      simp
    rw [createSession_eq_ok.mpr ⟨rfl, hnew, rfl⟩] at hr
    cases hr
  | stop sid hc ha => exact hσ.stop hc ha
  | waited sid hc hf => exact hσ.waited hc hf
  | finished sid endedAt durationSec fault db hc hr =>
    exact hσ.finished hc (status_finishSession hr)
  | finishFailed sid e endedAt durationSec fault hc hr =>
    rw [finishSession_eq_ok.mpr ⟨hG, rfl⟩] at hr
    cases hr
  | delete sid hc ha =>
    refine hσ.of_idle (by rw [hc]; rfl) rfl fun j hj ↦ ?_
    obtain rfl : sid = j := by simpa using hj
    exact ha
  | deleted sid faults db hc hr => exact hσ.deleted hc (status_deleteSession hr)
  | deleteFailed sid e faults hc hr => exact hσ.of_idle (by rw [hc]; rfl) rfl (by simp)
  | saved sid notes uuid now fault db hc hr =>
    exact hσ.of_eq (sessions_upsertNotes hr) rfl rfl rfl rfl rfl rfl
  | saveFailed sid notes uuid e now fault hc hr => exact hσ
  | generate sid fault hc => exact hσ.of_idle (by rw [hc]; rfl) rfl (by simp)
  | generateRefused sid fault hc => exact hσ
  | spawned sid k notesFault configured hc hk =>
    exact (hσ.of_idle (c := none) (by rw [hc]; rfl) rfl (by simp)).of_eq rfl rfl rfl rfl rfl rfl rfl
  | spawnRefused sid k notesFault configured hc =>
    exact hσ.of_idle (by rw [hc]; rfl) rfl (by simp)
  | ffmpegExits sid hf => exact hσ.ffmpegExits hf
  | segment sid text startMs endMs uuid now faults ht =>
    refine hσ.of_eq ?_ rfl rfl rfl rfl rfl rfl
    exact Statement.settle_of (P := fun db : VoiceDb ↦ db.sessions = σ.db.sessions) rfl
      fun _ hr ↦ sessions_insertSegment hr
  | threadEnds sid status m fault hm ht =>
    have hfault : fault = none := by
      rcases hm with ⟨rfl, -⟩ | ⟨rfl, -⟩ <;> exact hthread
    obtain ⟨db, hr⟩ : ∃ db, updateSessionStatus sid status fault σ.db = .ok db :=
      ⟨_, updateSessionStatus_eq_ok.mpr ⟨hfault, rfl⟩⟩
    rw [hr, Statement.settle_ok]
    exact hσ.threadEnds ht (hm.imp And.right And.right) (status_updateSessionStatus hr)
  | moved k m t p ht hm hp => exact hσ.of_eq rfl rfl rfl rfl rfl rfl rfl
  | stored k m t out now fault db ht hm hr =>
    exact hσ.of_eq (sessions_updateAiOutput hr) rfl rfl rfl rfl rfl rfl
  | notesCreated k t out uuid now fault ht hp =>
    refine hσ.of_eq ?_ rfl rfl rfl rfl rfl rfl
    exact Statement.settle_of (P := fun db : VoiceDb ↦ db.sessions = σ.db.sessions) rfl
      fun _ hr ↦ sessions_upsertNotes hr

/-- **A step that does not meet it breaks the law at once.** -/
theorem rowGuard_of_lifeCycle {a : MeetingAction} (hσ : Recorded σ)
    (h : meetingStep σ a = some τ) (hτ : τ.command = none → LifeCycle τ) : RowGuard σ a := by
  cases meetingStep_cases h with
  | created sid title now fault db hc hr => exact Or.inl (createSession_eq_ok.mp hr).1
  | createFailed sid title e now fault hc hr =>
    refine Or.inr fun sid' title' hc' hrun ↦ ?_
    cases hc.symm.trans hc'
    obtain ⟨f, hf, hrunning⟩ := hrun
    -- the process goes on without being in the slot
    have hactive : σ.active = some sid := (hτ rfl).process sid ⟨f.closeStdin, by simp [hf], by
      cases f with
      | running stdinOpen => rfl
      | exited => cases hrunning⟩
    rw [(hσ.starting sid title hc).1] at hactive
    cases hactive
  | finished sid endedAt durationSec fault db hc hr => exact (finishSession_eq_ok.mp hr).1
  | finishFailed sid e endedAt durationSec fault hc hr =>
    -- the row says that the session is recorded, and it is not in the slot
    have hrec : σ.db.status sid = some "recording" := (hσ.recording sid).mpr (Or.inr (Or.inr hc))
    have hactive : σ.active = some sid := ((hτ rfl).recording sid).mp hrec
    rw [hσ.stopping sid (Or.inr hc)] at hactive
    cases hactive
  | _ => trivial

/-- The rows are the same, so their statuses are. -/
theorem statusAdvances_of_eq (h : τ.db.sessions = σ.db.sessions) : StatusAdvances σ τ := by
  intro sid st hst
  rw [VoiceDb.status_congr h] at hst
  exact Or.inl hst

/-- **In every step the statuses only move on.** -/
theorem statusAdvances_step {a : MeetingAction} (hσ : Recorded σ)
    (h : meetingStep σ a = some τ) : StatusAdvances σ τ := by
  cases meetingStep_cases h with
  | created sid title now fault db hc hr =>
    intro j st hst
    change db.status j = some st at hst
    rw [status_createSession hr] at hst
    split at hst
    · rename_i hj
      exact Or.inr (Or.inl ⟨hj ▸ (hσ.starting sid title hc).2.2.1, (Option.some.inj hst).symm⟩)
    · exact Or.inl hst
  | finished sid endedAt durationSec fault db hc hr =>
    intro j st hst
    change db.status j = some st at hst
    rw [status_finishSession hr] at hst
    split at hst
    · rename_i hj
      obtain ⟨-, -, rfl⟩ := Option.map_eq_some_iff.mp hst
      have hrec := (hσ.recording sid).mpr (Or.inr (Or.inr hc))
      exact Or.inr (Or.inr (Or.inl ⟨hj ▸ hrec, rfl⟩))
    · exact Or.inl hst
  | deleted sid faults db hc hr =>
    intro j st hst
    change db.status j = some st at hst
    rw [status_deleteSession hr] at hst
    split at hst
    · cases hst
    · exact Or.inl hst
  | threadEnds sid status m fault hm ht =>
    refine Statement.settle_of (P := fun db : VoiceDb ↦ ∀ τ : Meetings, τ.db = db →
      StatusAdvances σ τ) (fun τ h ↦ statusAdvances_of_eq (by rw [h])) ?_ _ rfl
    intro db hr τ hτ j st hst
    rw [hτ, status_updateSessionStatus hr] at hst
    split at hst
    · rename_i hj
      obtain ⟨st', hst', rfl⟩ := Option.map_eq_some_iff.mp hst
      have hproc := (hσ.transcribing sid ht).resolve_right fun h ↦ by
        rw [hj, h.1] at hst'
        cases hst'
      exact Or.inr (Or.inr (Or.inr ⟨hj ▸ hproc, hm.imp And.right And.right⟩))
    · exact Or.inl hst
  | saved sid notes uuid now fault db hc hr => exact statusAdvances_of_eq (sessions_upsertNotes hr)
  | stored k m t out now fault db ht hm hr =>
    exact statusAdvances_of_eq (sessions_updateAiOutput hr)
  | segment sid text startMs endMs uuid now faults ht =>
    exact statusAdvances_of_eq (Statement.settle_of
      (P := fun db : VoiceDb ↦ db.sessions = σ.db.sessions) rfl fun _ hr ↦
        sessions_insertSegment hr)
  | notesCreated k t out uuid now fault ht hp =>
    exact statusAdvances_of_eq (Statement.settle_of
      (P := fun db : VoiceDb ↦ db.sessions = σ.db.sessions) rfl fun _ hr ↦ sessions_upsertNotes hr)
  | _ => exact statusAdvances_of_eq rfl

/-- **The slot, the process, the row and the thread fit together between any two commands, and the
statuses only move on, in the runs in which `meeting_start` creates the row of whatever it leaves
running and `meeting_stop` updates the row of whatever it has taken out of the slot**, and in no
others. -/
theorem lifeCycle_iff_guarded (as : List MeetingAction) (final : Meetings)
    (hrun : Machine.exec meetingStep (.init .empty) as = some final)
    (hthreads : ∀ a ∈ as, a.ThreadSucceeds) :
    ((∀ pre post σ, as = pre ++ post → Machine.exec meetingStep (.init .empty) pre = some σ →
          σ.command = none → LifeCycle σ) ∧
        ∀ pre a post σ τ, as = pre ++ a :: post →
          Machine.exec meetingStep (.init .empty) pre = some σ → meetingStep σ a = some τ →
          StatusAdvances σ τ) ↔
      Machine.Guarded meetingStep RowGuard (.init .empty) as := by
  have hiff := Machine.forall_iff_guarded_of_inv (G := RowGuard) (I := Recorded)
    (P := fun σ ↦ σ.command = none → LifeCycle σ)
    (fun _ _ _ hσ hH hG h ↦ recorded_step hσ hH hG h) (fun _ hσ hc ↦ hσ.lifeCycle hc)
    (fun _ _ _ hσ h hτ ↦ rowGuard_of_lifeCycle hσ h hτ) recorded_init hthreads hrun
  refine ⟨fun h ↦ hiff.mp h.1, fun hG ↦ ⟨hiff.mpr hG, ?_⟩⟩
  rintro pre a post σ τ rfl hpre hstep
  have hpreH : Machine.Guarded meetingStep (fun _ b ↦ b.ThreadSucceeds) (.init .empty) pre :=
    Machine.guarded_of_forall_mem (fun b hb _ ↦ hthreads b (List.mem_append_left _ hb)) _
  have hσ : Recorded σ := Machine.inv_of_guarded
    (fun _ _ _ hσ hG h ↦ recorded_step hσ hG.2 hG.1 h) recorded_init
    ((Machine.guarded_append.mp hG).1.and hpreH) hpre
  exact statusAdvances_step hσ hstep

end Recorded

/-! ## Two ways to lose a recording -/

/-- A meeting is recorded and stopped, and its row cannot be updated. -/
def exampleStop (fault : Option String) : List MeetingAction :=
  [.start "s" "Stand-up", .createRow 10 none, .stop, .ffmpegExits "s", .waited,
    .finish 20 10 fault]

/-- A meeting whose row cannot be created is started, and then another one. -/
def exampleStart : List MeetingAction :=
  [.start "s" "Stand-up", .createRow 10 (some "database or disk is full"), .start "t" "Retro",
    .createRow 20 none]

theorem lifeCycle_iff_guarded_example :
    ∃ final, Machine.exec meetingStep (.init .empty) (exampleStop none) = some final ∧
      (((∀ pre post σ, exampleStop none = pre ++ post →
            Machine.exec meetingStep (.init .empty) pre = some σ → σ.command = none →
            LifeCycle σ) ∧
          ∀ pre a post σ τ, exampleStop none = pre ++ a :: post →
            Machine.exec meetingStep (.init .empty) pre = some σ → meetingStep σ a = some τ →
            StatusAdvances σ τ) ↔
        Machine.Guarded meetingStep RowGuard (.init .empty) (exampleStop none)) := by
  obtain ⟨final, hrun⟩ : ∃ final,
      Machine.exec meetingStep (.init .empty) (exampleStop none) = some final := ⟨_, rfl⟩
  exact ⟨final, hrun, lifeCycle_iff_guarded (exampleStop none) final hrun
    (by simp [exampleStop, MeetingAction.ThreadSucceeds])⟩

/-- With the slot empty a `meeting_stop` finishes nothing. -/
theorem not_canFinish {σ : Meetings} {sid : String} (ha : σ.active = none) (hc : σ.command = none)
    (ht : σ.thread sid = none) : ¬ σ.CanFinish sid := by
  rintro ⟨as, τ, hrun, hstops, -, hthread⟩
  have hkept : τ.active = none ∧ τ.command = none ∧ τ.thread sid = none := by
    refine Machine.inv_of_guarded (G := fun _ a ↦ a.stops = true)
      (I := fun σ ↦ σ.active = none ∧ σ.command = none ∧ σ.thread sid = none) ?_ ⟨ha, hc, ht⟩
      (Machine.guarded_of_forall_mem (fun a h _ ↦ hstops a h) σ) hrun
    rintro σ a τ ⟨ha, hc, ht⟩ hstop h
    cases meetingStep_cases h with
    | stop sid hc' ha' => rw [ha] at ha'; cases ha'
    | waited sid hc' hf => rw [hc] at hc'; cases hc'
    | finished sid endedAt durationSec fault db hc' hr => rw [hc] at hc'; cases hc'
    | finishFailed sid e endedAt durationSec fault hc' hr => rw [hc] at hc'; cases hc'
    | ffmpegExits sid hf => exact ⟨ha, hc, ht⟩
    | _ => cases hstop
  rw [hkept.2.2] at hthread
  cases hthread

/-- **A recording can be lost when it is stopped, and when it is started.**  In the first run the
row says that the session is recorded, but the slot is empty and no `meeting_stop` can finish it; in
the second one two processes are running. -/
theorem not_lifeCycle_of_exec :
    (∃ σ, Machine.exec meetingStep (.init .empty) (exampleStop (some "disk I/O error")) = some σ ∧
      σ.command = none ∧ σ.db.status "s" = some "recording" ∧ σ.active = none ∧
      σ.stopFailed "s" = true ∧ ¬ σ.CanFinish "s" ∧ ¬ LifeCycle σ) ∧
    ∃ σ, Machine.exec meetingStep (.init .empty) exampleStart = some σ ∧ σ.command = none ∧
      σ.Running "s" ∧ σ.Running "t" ∧ σ.db.status "s" = none ∧ ¬ LifeCycle σ := by
  constructor
  · obtain ⟨σ, hrun, hc, hst, ha, hstop, ht⟩ : ∃ σ,
        Machine.exec meetingStep (.init .empty) (exampleStop (some "disk I/O error")) = some σ ∧
          σ.command = none ∧ σ.db.status "s" = some "recording" ∧ σ.active = none ∧
          σ.stopFailed "s" = true ∧ σ.thread "s" = none := ⟨_, rfl, rfl, rfl, rfl, rfl, rfl⟩
    refine ⟨σ, hrun, hc, hst, ha, hstop, not_canFinish ha hc ht, fun h ↦ ?_⟩
    have hactive := (h.recording "s").mp hst
    rw [ha] at hactive
    cases hactive
  · obtain ⟨σ, hrun, hc, hs, ht, ha, hst⟩ : ∃ σ,
        Machine.exec meetingStep (.init .empty) exampleStart = some σ ∧ σ.command = none ∧
          σ.ffmpeg "s" = some (.running false) ∧ σ.ffmpeg "t" = some (.running true) ∧
          σ.active = some "t" ∧ σ.db.status "s" = none := ⟨_, rfl, rfl, rfl, rfl, rfl, rfl⟩
    refine ⟨σ, hrun, hc, ⟨_, hs, rfl⟩, ⟨_, ht, rfl⟩, hst, fun h ↦ ?_⟩
    have hactive := h.process "s" ⟨_, hs, rfl⟩
    rw [ha] at hactive
    simp at hactive

end WorkWithMe.Voice
