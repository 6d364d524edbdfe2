import Mathlib.Logic.Function.Basic
import WorkWithMe.Voice.Db

/-!
# Meetings: the commands, the transcription threads and the summary tasks

The commands of `meeting.rs` run one at a time, on the main thread.  Each is cut at its calls of the
database and at whatever else can fail or take time, and in between come the steps of the
transcription threads, of the summary tasks and of the ffmpeg processes, which run by themselves.
`Meetings` is the state of all of them and `meetingStep` takes one step.

A command that returns without having touched anything is no step: `meeting_start` while a meeting
is recorded, `meeting_stop` while none is, `meeting_delete` of the meeting that is recorded, and the
queries.

Three fields record what has happened: which notes the user has saved last, which sessions have been
deleted, and which recordings a `meeting_stop` has returned an error for.

`meetingStep_cases` says what a step can do.
-/

set_option autoImplicit false

namespace WorkWithMe.Voice

/-! ## The parties -/

/-- A process of ffmpeg that records a meeting. -/
inductive Ffmpeg where
  /-- It is running; its standard input is open until its end is to be brought about. -/
  | running (stdinOpen : Bool)
  /-- It has exited. -/
  | exited
  deriving DecidableEq

/-- The standard input of a process is closed. -/
def Ffmpeg.closeStdin : Ffmpeg → Ffmpeg
  | .running _ => .running false
  | .exited => .exited

/-- The process has not exited. -/
def Ffmpeg.isRunning : Ffmpeg → Bool
  | .running _ => true
  | .exited => false

/-- A command that has not returned yet. -/
inductive Command where
  /-- `meeting_start` has spawned ffmpeg and is about to create the row of the session. -/
  | starting (sessionId title : String)
  /-- `meeting_stop` has taken the meeting out of the slot and closed the standard input of ffmpeg,
  and waits for it to exit. -/
  | stopping (sessionId : String)
  /-- `meeting_stop` is about to update the row of the session. -/
  | finishing (sessionId : String)
  /-- `meeting_delete` is about to delete the session. -/
  | deleting (sessionId : String)
  /-- `meeting_generate_summary` has found segments. -/
  | generating (sessionId : String)
  deriving DecidableEq

/-- A transcription thread. -/
inductive Thread where
  /-- It is in `run_transcription`. -/
  | transcribing
  /-- It has ended. -/
  | ended
  deriving DecidableEq

/-- The summary, as `generate_summary_inner` returns it. -/
structure SummaryOutput where
  /-- The summary. -/
  summary : String
  /-- The action items. -/
  actionItems : String
  /-- The decisions. -/
  decisions : String
  deriving DecidableEq

/-- Where a summary task is. -/
inductive TaskPhase where
  /-- In `generate_summary_inner`. -/
  | prompting
  /-- About to store the output. -/
  | storing (out : SummaryOutput)
  /-- The output could not be stored; about to create the row of notes. -/
  | creating (out : SummaryOutput)
  /-- About to store the output for the second time. -/
  | retrying (out : SummaryOutput)
  /-- About to emit `meeting-summary-ready`. -/
  | announcing (out : SummaryOutput)
  /-- About to emit `meeting-summary-error`. -/
  | reporting (error : String)
  /-- It has ended. -/
  | ended
  deriving DecidableEq

/-- A summary task. -/
structure SummaryTask where
  /-- The session. -/
  sessionId : String
  /-- Where the task is. -/
  phase : TaskPhase
  deriving DecidableEq

/-- The state of the meetings. -/
structure Meetings where
  /-- The database. -/
  db : VoiceDb
  /-- `ACTIVE_MEETING`: the session of the meeting in the slot. -/
  active : Option String
  /-- The ffmpeg processes `meeting_start` has spawned, by their sessions. -/
  ffmpeg : String → Option Ffmpeg
  /-- The command that is running. -/
  command : Option Command
  /-- The transcription threads, by their sessions. -/
  thread : String → Option Thread
  /-- The summary tasks. -/
  tasks : ℕ → Option SummaryTask
  /-- For the record: the notes of a session when they were last saved. -/
  saved : String → Option String
  /-- For the record: the session has been deleted. -/
  deleted : String → Bool
  /-- For the record: a `meeting_stop` of the session has returned an error, and none has returned
  without one since. -/
  stopFailed : String → Bool

/-- The state at the start, over a database. -/
def Meetings.init (db : VoiceDb) : Meetings where
  db := db
  active := none
  ffmpeg _ := none
  command := none
  thread _ := none
  tasks _ := none
  saved := db.rawNotes
  deleted _ := false
  stopFailed _ := false

/-! ## The steps -/

/-- The steps of a transcription thread. -/
inductive ThreadMove where
  /-- It inserts a segment. -/
  | segment (text : String) (startMs endMs : ℤ) (uuid : String) (now : ℤ) (faults : TxFaults)
  /-- It has got through, and completes the session. -/
  | complete (fault : Option String)
  /-- It has failed, and says so. -/
  | fail (fault : Option String)

/-- The steps of a summary task. -/
inductive TaskMove where
  /-- `generate_summary_inner` returns. -/
  | answer (r : Except String SummaryOutput)
  /-- It calls `update_ai_output`. -/
  | store (now : ℤ) (fault : Option String)
  /-- It calls `upsert_notes`, whatever that returns. -/
  | create (uuid : String) (now : ℤ) (fault : Option String)
  /-- It calls `update_ai_output` again. -/
  | retry (now : ℤ) (fault : Option String)
  /-- It emits its event. -/
  | emit

/-- What can happen next. -/
inductive MeetingAction where
  /-- `meeting_start` spawns ffmpeg. -/
  | start (sessionId title : String)
  /-- `meeting_start` creates the row, and returns. -/
  | createRow (now : ℤ) (fault : Option String)
  /-- `meeting_stop` empties the slot. -/
  | stop
  /-- `meeting_stop` has waited for ffmpeg. -/
  | waited
  /-- `meeting_stop` updates the row, and returns. -/
  | finish (endedAt durationSec : ℤ) (fault : Option String)
  /-- `meeting_delete` has looked at the slot. -/
  | delete (sessionId : String)
  /-- `meeting_delete` deletes the session, and returns. -/
  | deleteRow (faults : TxFaults)
  /-- `meeting_save_notes`. -/
  | saveNotes (sessionId notes uuid : String) (now : ℤ) (fault : Option String)
  /-- `meeting_generate_summary` reads the segments. -/
  | generate (sessionId : String) (fault : Option QueryFault)
  /-- `meeting_generate_summary` reads the notes and the configuration, and spawns the task `k`
  unless one of them fails. -/
  | spawnSummary (k : ℕ) (notesFault : Option String) (configured : Bool)
  /-- A process of ffmpeg exits. -/
  | ffmpegExits (sessionId : String)
  /-- A transcription thread takes a step. -/
  | thread (sessionId : String) (m : ThreadMove)
  /-- A summary task takes a step. -/
  | task (k : ℕ) (m : TaskMove)

section Step

open Statement

/-- A task goes on to a phase. -/
def Meetings.goto (σ : Meetings) (k : ℕ) (t : SummaryTask) (p : TaskPhase) : Meetings :=
  { σ with tasks := Function.update σ.tasks k (some { t with phase := p }) }

/-- A step of a transcription thread.  Its errors are only logged. -/
def threadStep (σ : Meetings) (sid : String) : ThreadMove → Meetings
  | .segment text startMs endMs uuid now faults =>
    { σ with db := settle σ.db (insertSegment sid text startMs endMs uuid now faults σ.db) }
  | .complete fault =>
    { σ with
      db := settle σ.db (completeSession sid fault σ.db)
      thread := Function.update σ.thread sid (some .ended) }
  | .fail fault =>
    { σ with
      db := settle σ.db (updateSessionStatus sid "error" fault σ.db)
      thread := Function.update σ.thread sid (some .ended) }

/-- A call of `update_ai_output` by a task, and where the task goes when it fails. -/
def storeOutput (σ : Meetings) (k : ℕ) (t : SummaryTask) (out : SummaryOutput) (now : ℤ)
    (fault : Option String) (failed : String → TaskPhase) : Meetings :=
  match updateAiOutput t.sessionId out.summary out.actionItems out.decisions now fault σ.db with
  | .ok db => { σ with db := db }.goto k t (.announcing out)
  | .error e => σ.goto k t (failed e)

/-- A step of a summary task. -/
def taskStep (σ : Meetings) (k : ℕ) (t : SummaryTask) : TaskPhase → TaskMove → Option Meetings
  | .prompting, .answer (.ok out) => some (σ.goto k t (.storing out))
  | .prompting, .answer (.error e) => some (σ.goto k t (.reporting e))
  | .storing out, .store now fault =>
    some (storeOutput σ k t out now fault fun _ ↦ .creating out)
  | .creating out, .create uuid now fault =>
    some ({ σ with
      db := settle σ.db (upsertNotes t.sessionId none uuid now fault σ.db) }.goto k t
        (.retrying out))
  | .retrying out, .retry now fault =>
    some (storeOutput σ k t out now fault fun e ↦ .reporting ("Failed to save summary: " ++ e))
  | .announcing _, .emit => some (σ.goto k t .ended)
  | .reporting _, .emit => some (σ.goto k t .ended)
  | _, _ => none

/-- **One step of the meetings.** -/
def meetingStep (σ : Meetings) : MeetingAction → Option Meetings
  | .start sid title =>
    -- the id is a new UUID
    if σ.command = none ∧ σ.active = none ∧ σ.ffmpeg sid = none then
      some { σ with
        ffmpeg := Function.update σ.ffmpeg sid (some (.running true))
        command := some (.starting sid title) }
    else none
  | .createRow now fault =>
    match σ.command with
    | some (.starting sid title) =>
      match createSession sid title "meeting" now fault σ.db with
      | .ok db => some { σ with db := db, active := some sid, command := none }
      | .error _ =>
        some { σ with
          ffmpeg := Function.update σ.ffmpeg sid ((σ.ffmpeg sid).map Ffmpeg.closeStdin)
          command := none }
    | _ => none
  | .stop =>
    match σ.command, σ.active with
    | none, some sid =>
      some { σ with
        active := none
        ffmpeg := Function.update σ.ffmpeg sid ((σ.ffmpeg sid).map Ffmpeg.closeStdin)
        command := some (.stopping sid) }
    | _, _ => none
  | .waited =>
    match σ.command with
    | some (.stopping sid) =>
      if σ.ffmpeg sid = some .exited then some { σ with command := some (.finishing sid) } else none
    | _ => none
  | .finish endedAt durationSec fault =>
    match σ.command with
    | some (.finishing sid) =>
      match finishSession sid endedAt durationSec fault σ.db with
      | .ok db =>
        some { σ with
          db := db, thread := Function.update σ.thread sid (some .transcribing),
          stopFailed := Function.update σ.stopFailed sid false, command := none }
      | .error _ =>
        some { σ with stopFailed := Function.update σ.stopFailed sid true, command := none }
    | _ => none
  | .delete sid =>
    if σ.command = none ∧ σ.active ≠ some sid then
      some { σ with command := some (.deleting sid) }
    else none
  | .deleteRow faults =>
    match σ.command with
    | some (.deleting sid) =>
      match deleteSession sid faults σ.db with
      | .ok db =>
        some { σ with
          db := db, deleted := Function.update σ.deleted sid true,
          saved := Function.update σ.saved sid none, command := none }
      | .error _ => some { σ with command := none }
    | _ => none
  | .saveNotes sid notes uuid now fault =>
    if σ.command = none then
      match upsertNotes sid (some notes) uuid now fault σ.db with
      | .ok db => some { σ with db := db, saved := Function.update σ.saved sid (some notes) }
      | .error _ => some σ
    else none
  | .generate sid fault =>
    if σ.command = none then
      match getSegments sid fault σ.db with
      | .ok (_ :: _) => some { σ with command := some (.generating sid) }
      | _ => some σ
    else none
  | .spawnSummary k notesFault configured =>
    match σ.command, σ.tasks k with
    | some (.generating sid), none =>
      match getNotes sid notesFault σ.db, configured with
      | .ok _, true =>
        some { σ with
          tasks := Function.update σ.tasks k (some ⟨sid, .prompting⟩), command := none }
      | _, _ => some { σ with command := none }
    | _, _ => none
  | .ffmpegExits sid =>
    if σ.ffmpeg sid = none then none
    else some { σ with ffmpeg := Function.update σ.ffmpeg sid (some .exited) }
  | .thread sid m =>
    if σ.thread sid = some .transcribing then some (threadStep σ sid m) else none
  | .task k m => (σ.tasks k).bind fun t ↦ taskStep σ k t t.phase m

end Step

/-! ## What a step does -/

open Statement

/-- A step, one line for each thing that can come of it. -/
inductive Happened (σ : Meetings) : MeetingAction → Meetings → Prop where
  | start (sid title : String) (hc : σ.command = none) (ha : σ.active = none)
      (hf : σ.ffmpeg sid = none) : Happened σ (.start sid title) { σ with
        ffmpeg := Function.update σ.ffmpeg sid (some (.running true))
        command := some (.starting sid title) }
  | created (sid title : String) (now : ℤ) (fault : Option String) (db : VoiceDb)
      (hc : σ.command = some (.starting sid title))
      (hr : createSession sid title "meeting" now fault σ.db = .ok db) :
      Happened σ (.createRow now fault) { σ with db := db, active := some sid, command := none }
  | createFailed (sid title e : String) (now : ℤ) (fault : Option String)
      (hc : σ.command = some (.starting sid title))
      (hr : createSession sid title "meeting" now fault σ.db = .error e) :
      Happened σ (.createRow now fault) { σ with
        ffmpeg := Function.update σ.ffmpeg sid ((σ.ffmpeg sid).map Ffmpeg.closeStdin)
        command := none }
  | stop (sid : String) (hc : σ.command = none) (ha : σ.active = some sid) :
      Happened σ .stop { σ with
        active := none
        ffmpeg := Function.update σ.ffmpeg sid ((σ.ffmpeg sid).map Ffmpeg.closeStdin)
        command := some (.stopping sid) }
  | waited (sid : String) (hc : σ.command = some (.stopping sid))
      (hf : σ.ffmpeg sid = some .exited) :
      Happened σ .waited { σ with command := some (.finishing sid) }
  | finished (sid : String) (endedAt durationSec : ℤ) (fault : Option String) (db : VoiceDb)
      (hc : σ.command = some (.finishing sid))
      (hr : finishSession sid endedAt durationSec fault σ.db = .ok db) :
      Happened σ (.finish endedAt durationSec fault) { σ with
        db := db, thread := Function.update σ.thread sid (some .transcribing),
        stopFailed := Function.update σ.stopFailed sid false, command := none }
  | finishFailed (sid e : String) (endedAt durationSec : ℤ) (fault : Option String)
      (hc : σ.command = some (.finishing sid))
      (hr : finishSession sid endedAt durationSec fault σ.db = .error e) :
      Happened σ (.finish endedAt durationSec fault) { σ with
        stopFailed := Function.update σ.stopFailed sid true, command := none }
  | delete (sid : String) (hc : σ.command = none) (ha : σ.active ≠ some sid) :
      Happened σ (.delete sid) { σ with command := some (.deleting sid) }
  | deleted (sid : String) (faults : TxFaults) (db : VoiceDb)
      (hc : σ.command = some (.deleting sid)) (hr : deleteSession sid faults σ.db = .ok db) :
      Happened σ (.deleteRow faults) { σ with
        db := db, deleted := Function.update σ.deleted sid true,
        saved := Function.update σ.saved sid none, command := none }
  | deleteFailed (sid e : String) (faults : TxFaults) (hc : σ.command = some (.deleting sid))
      (hr : deleteSession sid faults σ.db = .error e) :
      Happened σ (.deleteRow faults) { σ with command := none }
  | saved (sid notes uuid : String) (now : ℤ) (fault : Option String) (db : VoiceDb)
      (hc : σ.command = none) (hr : upsertNotes sid (some notes) uuid now fault σ.db = .ok db) :
      Happened σ (.saveNotes sid notes uuid now fault)
        { σ with db := db, saved := Function.update σ.saved sid (some notes) }
  | saveFailed (sid notes uuid e : String) (now : ℤ) (fault : Option String)
      (hc : σ.command = none) (hr : upsertNotes sid (some notes) uuid now fault σ.db = .error e) :
      Happened σ (.saveNotes sid notes uuid now fault) σ
  | generate (sid : String) (fault : Option QueryFault) (hc : σ.command = none) :
      Happened σ (.generate sid fault) { σ with command := some (.generating sid) }
  | generateRefused (sid : String) (fault : Option QueryFault) (hc : σ.command = none) :
      Happened σ (.generate sid fault) σ
  | spawned (sid : String) (k : ℕ) (notesFault : Option String) (configured : Bool)
      (hc : σ.command = some (.generating sid)) (hk : σ.tasks k = none) :
      Happened σ (.spawnSummary k notesFault configured) { σ with
        tasks := Function.update σ.tasks k (some ⟨sid, .prompting⟩), command := none }
  | spawnRefused (sid : String) (k : ℕ) (notesFault : Option String) (configured : Bool)
      (hc : σ.command = some (.generating sid)) :
      Happened σ (.spawnSummary k notesFault configured) { σ with command := none }
  | ffmpegExits (sid : String) (hf : σ.ffmpeg sid ≠ none) : Happened σ (.ffmpegExits sid)
      { σ with ffmpeg := Function.update σ.ffmpeg sid (some .exited) }
  | segment (sid text : String) (startMs endMs : ℤ) (uuid : String) (now : ℤ) (faults : TxFaults)
      (ht : σ.thread sid = some .transcribing) :
      Happened σ (.thread sid (.segment text startMs endMs uuid now faults)) { σ with
        db := settle σ.db (insertSegment sid text startMs endMs uuid now faults σ.db) }
  | threadEnds (sid status : String) (m : ThreadMove) (fault : Option String)
      (hm : m = .complete fault ∧ status = "complete" ∨ m = .fail fault ∧ status = "error")
      (ht : σ.thread sid = some .transcribing) : Happened σ (.thread sid m) { σ with
        db := settle σ.db (updateSessionStatus sid status fault σ.db)
        thread := Function.update σ.thread sid (some .ended) }
  | moved (k : ℕ) (m : TaskMove) (t : SummaryTask) (p : TaskPhase) (ht : σ.tasks k = some t)
      (hm : ∀ now, m ≠ .store now none ∧ m ≠ .retry now none ∧
        ∀ uuid fault, m ≠ .create uuid now fault)
      (hp : ∀ out, p ≠ .announcing out) : Happened σ (.task k m) (σ.goto k t p)
  | stored (k : ℕ) (m : TaskMove) (t : SummaryTask) (out : SummaryOutput) (now : ℤ)
      (fault : Option String) (db : VoiceDb) (ht : σ.tasks k = some t)
      (hm : t.phase = .storing out ∧ m = .store now fault ∨
        t.phase = .retrying out ∧ m = .retry now fault)
      (hr : updateAiOutput t.sessionId out.summary out.actionItems out.decisions now fault σ.db =
        .ok db) :
      Happened σ (.task k m) ({ σ with db := db }.goto k t (.announcing out))
  | notesCreated (k : ℕ) (t : SummaryTask) (out : SummaryOutput) (uuid : String) (now : ℤ)
      (fault : Option String) (ht : σ.tasks k = some t) (hp : t.phase = .creating out) :
      Happened σ (.task k (.create uuid now fault)) ({ σ with
        db := settle σ.db (upsertNotes t.sessionId none uuid now fault σ.db) }.goto k t
          (.retrying out))

section Cases

variable {σ τ : Meetings}

/-- A call of `update_ai_output` leads to the announcement, or has failed. -/
theorem storeOutput_cases (σ : Meetings) (k : ℕ) (t : SummaryTask) (out : SummaryOutput) (now : ℤ)
    (fault : Option String) (failed : String → TaskPhase) :
    (∃ db, updateAiOutput t.sessionId out.summary out.actionItems out.decisions now fault σ.db =
        .ok db ∧ storeOutput σ k t out now fault failed =
          { σ with db := db }.goto k t (.announcing out)) ∨
      fault ≠ none ∧ ∃ e, storeOutput σ k t out now fault failed = σ.goto k t (failed e) := by
  rw [storeOutput]
  split
  · exact Or.inl ⟨_, ‹_›, rfl⟩
  · rename_i e he
    refine Or.inr ⟨?_, e, rfl⟩
    rintro rfl
    rw [updateAiOutput_eq_ok.mpr ⟨rfl, rfl⟩] at he
    cases he

theorem taskStep_cases {k : ℕ} {t : SummaryTask} {m : TaskMove} (ht : σ.tasks k = some t)
    (h : taskStep σ k t t.phase m = some τ) : Happened σ (.task k m) τ := by
  generalize hp : t.phase = p at h
  unfold taskStep at h
  split at h
  case h_1 => cases h; exact .moved k _ t _ ht (by simp) (by simp)
  case h_2 => cases h; exact .moved k _ t _ ht (by simp) (by simp)
  case h_3 out now fault =>
    cases h
    rcases storeOutput_cases σ k t out now fault fun _ ↦ .creating out with
      ⟨db, hr, hs⟩ | ⟨hf, e, hs⟩
    · rw [hs]
      exact .stored k _ t out now fault db ht (Or.inl ⟨hp, rfl⟩) hr
    · rw [hs]
      exact .moved k _ t _ ht (by simp [hf]) (by simp)
  case h_4 => cases h; exact .notesCreated k t _ _ _ _ ht hp
  case h_5 out now fault =>
    cases h
    rcases storeOutput_cases σ k t out now fault fun e ↦
        .reporting ("Failed to save summary: " ++ e) with ⟨db, hr, hs⟩ | ⟨hf, e, hs⟩
    · rw [hs]
      exact .stored k _ t out now fault db ht (Or.inr ⟨hp, rfl⟩) hr
    · rw [hs]
      exact .moved k _ t _ ht (by simp [hf]) (by simp)
  case h_6 => cases h; exact .moved k _ t _ ht (by simp) (by simp)
  case h_7 => cases h; exact .moved k _ t _ ht (by simp) (by simp)
  case h_8 => cases h

/-- **What a step can do.** -/
theorem meetingStep_cases {a : MeetingAction} (h : meetingStep σ a = some τ) : Happened σ a τ := by
  cases a with
  | start sid title =>
    obtain ⟨⟨hc, ha, hf⟩, h⟩ := Option.ite_none_right_eq_some.mp h
    cases h
    exact .start sid title hc ha hf
  | createRow now fault =>
    simp only [meetingStep] at h
    split at h
    · split at h
      · cases h; exact .created _ _ now fault _ ‹_› ‹_›
      · cases h; exact .createFailed _ _ _ now fault ‹_› ‹_›
    · cases h
  | stop =>
    simp only [meetingStep] at h
    split at h
    · cases h; exact .stop _ ‹_› ‹_›
    · cases h
  | waited =>
    simp only [meetingStep] at h
    split at h
    · obtain ⟨hf, h⟩ := Option.ite_none_right_eq_some.mp h
      cases h
      exact .waited _ ‹_› hf
    · cases h
  | finish endedAt durationSec fault =>
    simp only [meetingStep] at h
    split at h
    · split at h
      · cases h; exact .finished _ endedAt durationSec fault _ ‹_› ‹_›
      · cases h; exact .finishFailed _ _ endedAt durationSec fault ‹_› ‹_›
    · cases h
  | delete sid =>
    obtain ⟨⟨hc, ha⟩, h⟩ := Option.ite_none_right_eq_some.mp h
    cases h
    exact .delete sid hc ha
  | deleteRow faults =>
    simp only [meetingStep] at h
    split at h
    · split at h
      · cases h; exact .deleted _ faults _ ‹_› ‹_›
      · cases h; exact .deleteFailed _ _ faults ‹_› ‹_›
    · cases h
  | saveNotes sid notes uuid now fault =>
    obtain ⟨hc, h⟩ := Option.ite_none_right_eq_some.mp h
    split at h
    · cases h; exact .saved sid notes uuid now fault _ hc ‹_›
    · cases h; exact .saveFailed sid notes uuid _ now fault hc ‹_›
  | generate sid fault =>
    obtain ⟨hc, h⟩ := Option.ite_none_right_eq_some.mp h
    split at h
    · cases h; exact .generate sid fault hc
    · cases h; exact .generateRefused sid fault hc
  | spawnSummary k notesFault configured =>
    simp only [meetingStep] at h
    split at h
    · split at h
      · cases h; exact .spawned _ k notesFault _ ‹_› ‹_›
      · cases h; exact .spawnRefused _ k notesFault _ ‹_›
    · cases h
  | ffmpegExits sid =>
    obtain ⟨hf, h⟩ := Option.ite_none_left_eq_some.mp h
    cases h
    exact .ffmpegExits sid hf
  | thread sid m =>
    obtain ⟨ht, h⟩ := Option.ite_none_right_eq_some.mp h
    cases h
    cases m with
    | segment text startMs endMs uuid now faults =>
      exact .segment sid text startMs endMs uuid now faults ht
    | complete fault => exact .threadEnds sid "complete" _ fault (Or.inl ⟨rfl, rfl⟩) ht
    | fail fault => exact .threadEnds sid "error" _ fault (Or.inr ⟨rfl, rfl⟩) ht
  | task k m =>
    obtain ⟨t, ht, h⟩ := Option.bind_eq_some_iff.mp h
    exact taskStep_cases ht h

end Cases

end WorkWithMe.Voice
