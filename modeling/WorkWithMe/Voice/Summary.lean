import WorkWithMe.Voice.Meeting

/-!
# Summaries

A summary task stores its output with `update_ai_output`, which is an `UPDATE`: it succeeds when the
session has no row of notes, and then it has stored nothing.  When it fails the task calls
`upsert_notes` with no notes, in order that there is a row, and tries again; but when there was a
row, this call wipes the notes in it.

* `Meetings.Truthful` says that whatever a task is about to announce is in the database, and
  `truthful_iff_guarded` in which runs that is so all along.
* `Meetings.NotesKept` says that the notes of every session are those the user has saved last, and
  `notesKept_iff_guarded` in which runs that is so all along.

Both start from an arbitrary database, with any number of tasks and commands interleaved.
-/

set_option autoImplicit false

namespace WorkWithMe.Voice

/-! ## What concerns neither summaries nor notes -/

/-- The steps of `meeting_start`, `meeting_stop` and the transcription threads. -/
def MeetingAction.records : MeetingAction → Bool
  | .createRow .. | .finish .. | .thread .. => true
  | _ => false

/-- They leave the tasks and the notes alone. -/
theorem frame_of_records {σ τ : Meetings} {a : MeetingAction} (h : meetingStep σ a = some τ)
    (ha : a.records = true) :
    τ.tasks = σ.tasks ∧ τ.saved = σ.saved ∧ τ.db.notes = σ.db.notes := by
  cases meetingStep_cases h with
  | created sid title now fault db hc hr =>
    obtain ⟨-, -, rfl⟩ := createSession_eq_ok.mp hr
    exact ⟨rfl, rfl, rfl⟩
  | finished sid endedAt durationSec fault db hc hr =>
    obtain ⟨-, rfl⟩ := finishSession_eq_ok.mp hr
    exact ⟨rfl, rfl, rfl⟩
  | segment sid text startMs endMs uuid now faults ht =>
    refine ⟨rfl, rfl, ?_⟩
    refine Statement.settle_of (P := fun db : VoiceDb ↦ db.notes = σ.db.notes) rfl fun db hr ↦ ?_
    obtain ⟨-, -, -, rfl⟩ := insertSegment_eq_ok.mp hr
    rfl
  | threadEnds sid status m fault hm ht =>
    refine ⟨rfl, rfl, ?_⟩
    refine Statement.settle_of (P := fun db : VoiceDb ↦ db.notes = σ.db.notes) rfl fun db hr ↦ ?_
    obtain ⟨-, rfl⟩ := updateSessionStatus_eq_ok.mp hr
    rfl
  | createFailed => exact ⟨rfl, rfl, rfl⟩
  | finishFailed => exact ⟨rfl, rfl, rfl⟩
  | _ => cases ha

/-! ## Announcements -/

/-- The output is in the row of notes of the session. -/
def Stored (db : VoiceDb) (sid : String) (out : SummaryOutput) : Prop :=
  db.aiOutput sid = some (some out.summary, some out.actionItems, some out.decisions)

/-- The next step of the task `k` is to emit `meeting-summary-ready` for the session with this
output. -/
def Meetings.Announces (σ : Meetings) (k : ℕ) (sid : String) (out : SummaryOutput) : Prop :=
  σ.tasks k = some ⟨sid, .announcing out⟩

/-- **Whatever can be announced now is in the database.** -/
def Meetings.Truthful (σ : Meetings) : Prop :=
  ∀ k sid out, σ.Announces k sid out → Stored σ.db sid out

/-- The task finds a row to store its output in, and takes nothing from another task that is about
to announce. -/
def Meetings.StoresInRow (σ : Meetings) (k : ℕ) : Prop :=
  ∀ t out, σ.tasks k = some t → t.phase = .storing out ∨ t.phase = .retrying out →
    t.sessionId ∈ σ.db.notes.map SessionNotes.sessionId ∧
      ∀ k' out', σ.Announces k' t.sessionId out' → out' = out

/-- The condition on a step: an output is stored in a row that is there, and a session is not
deleted when its summary is about to be announced. -/
def StoreGuard (σ : Meetings) : MeetingAction → Prop
  | .task k (.store _ fault) | .task k (.retry _ fault) => fault = none → σ.StoresInRow k
  | .deleteRow faults => faults = .none → ∀ sid, σ.command = some (.deleting sid) →
      ∀ k out, ¬ σ.Announces k sid out
  | _ => True

section Truthful

variable {σ τ : Meetings} {k : ℕ} {sid : String} {out : SummaryOutput}

theorem truthful_init (db : VoiceDb) : (Meetings.init db).Truthful := fun _ _ _ h ↦ by cases h

/-- Nobody announces more than before, and what was stored for those who do still is. -/
theorem Meetings.Truthful.of_frame (hσ : σ.Truthful)
    (htasks : ∀ k sid out, τ.Announces k sid out → σ.Announces k sid out)
    (hdb : ∀ k sid out, σ.Announces k sid out → Stored σ.db sid out → Stored τ.db sid out) :
    τ.Truthful :=
  fun k sid out h ↦ hdb k sid out (htasks k sid out h) (hσ k sid out (htasks k sid out h))

/-- Nothing changes in the tasks and the notes. -/
theorem Meetings.Truthful.of_eq (hσ : σ.Truthful) (htasks : τ.tasks = σ.tasks)
    (hnotes : τ.db.notes = σ.db.notes) : τ.Truthful := by
  refine hσ.of_frame (fun k sid out h ↦ ?_) fun k sid out _ h ↦ ?_
  · rwa [Meetings.Announces, ← htasks]
  · rwa [Stored, (VoiceDb.notes_congr hnotes).2]

/-- Who announces something after a task has gone on. -/
theorem announces_goto {t : SummaryTask} {p : TaskPhase} {db : VoiceDb} {j : ℕ} :
    ({ σ with db := db }.goto k t p).Announces j sid out ↔
      j = k ∧ t.sessionId = sid ∧ p = .announcing out ∨ j ≠ k ∧ σ.Announces j sid out := by
  unfold Meetings.Announces Meetings.goto
  rcases eq_or_ne j k with rfl | hj
  · simp
  · simp [hj]

/-- A task goes on, not to an announcement. -/
theorem Meetings.Truthful.of_moved (hσ : σ.Truthful) {t : SummaryTask} {p : TaskPhase}
    (hp : ∀ out, p ≠ .announcing out) {db : VoiceDb}
    (hdb : ∀ k sid out, σ.Announces k sid out → Stored σ.db sid out → Stored db sid out) :
    ({ σ with db := db }.goto k t p).Truthful := by
  refine hσ.of_frame (fun j sid out h ↦ ?_) hdb
  rcases announces_goto.mp h with ⟨-, -, hp'⟩ | ⟨-, h⟩
  · exact absurd hp' (hp out)
  · exact h

/-- Writing to the user's notes leaves a stored output alone. -/
theorem stored_of_upsertNotes {rawNotes : Option String} {uuid : String} {now : ℤ}
    {fault : Option String} {db db' : VoiceDb} {j : String}
    (h : upsertNotes j rawNotes uuid now fault db = .ok db') (hs : Stored db sid out) :
    Stored db' sid out := by
  rw [Stored, (notes_upsertNotes h sid).2]
  split
  · rw [show db.aiOutput sid = _ from hs]
    rfl
  · exact hs

/-- A successful call of `update_ai_output` keeps everybody truthful exactly if it finds a row, and
no other task is about to announce something else. -/
theorem truthful_stored_iff (hσ : σ.Truthful) {t : SummaryTask} {now : ℤ} {fault : Option String}
    {db : VoiceDb} (ht : σ.tasks k = some t)
    (hp : t.phase = .storing out ∨ t.phase = .retrying out)
    (hr : updateAiOutput t.sessionId out.summary out.actionItems out.decisions now fault σ.db =
      .ok db) :
    ({ σ with db := db }.goto k t (.announcing out)).Truthful ↔ σ.StoresInRow k := by
  have houtput := fun j ↦ (notes_updateAiOutput hr j).2
  have hself : ∀ {j sid' out'}, σ.Announces j sid' out' → j ≠ k := by
    rintro j sid' out' hj rfl
    rw [Meetings.Announces, ht, Option.some_inj] at hj
    subst hj
    rcases hp with hp | hp <;> cases hp
  constructor
  · rintro h t' out' ht' hp'
    obtain rfl : t' = t := Option.some.inj (ht'.symm.trans ht)
    obtain rfl : out' = out := by rcases hp with hp | hp <;> rcases hp' with hp' | hp' <;>
      simp_all
    have hown := h k t'.sessionId out' (announces_goto.mpr (Or.inl ⟨rfl, rfl, rfl⟩))
    change db.aiOutput t'.sessionId = _ at hown
    refine ⟨?_, fun k' out'' hk' ↦ ?_⟩
    · rw [houtput, if_pos rfl, Option.map_eq_some_iff] at hown
      obtain ⟨o, ho, -⟩ := hown
      exact VoiceDb.exists_aiOutput_iff.mp ⟨o, ho⟩
    · have hother := h k' t'.sessionId out'' (announces_goto.mpr (Or.inr ⟨hself hk', hk'⟩))
      change db.aiOutput t'.sessionId = _ at hother
      rw [hown] at hother
      obtain ⟨summary, actionItems, decisions⟩ := out'
      obtain ⟨summary', actionItems', decisions'⟩ := out''
      simpa [eq_comm] using hother
  · intro hG j sid' out' hj
    obtain ⟨hrow, hsame⟩ := hG t out ht hp
    obtain ⟨o, ho⟩ := VoiceDb.exists_aiOutput_iff.mpr hrow
    have hown : Stored db t.sessionId out := by
      rw [Stored, houtput, if_pos rfl, ho, Option.map_some]
    show Stored db sid' out'
    rcases announces_goto.mp hj with ⟨rfl, rfl, hp'⟩ | ⟨hne, hj⟩
    · cases hp'
      exact hown
    · by_cases hsid : sid' = t.sessionId
      · subst hsid
        rwa [hsame j out' hj]
      · rw [Stored, houtput, if_neg hsid]
        exact hσ j sid' out' hj

/-- **A step keeps everybody truthful exactly if it meets the condition.** -/
theorem truthful_step_iff (hσ : σ.Truthful) {a : MeetingAction} (h : meetingStep σ a = some τ) :
    τ.Truthful ↔ StoreGuard σ a := by
  cases meetingStep_cases h with
  | created | finished | segment | threadEnds =>
    obtain ⟨htasks, -, hnotes⟩ := frame_of_records h rfl
    exact iff_of_true (hσ.of_eq htasks hnotes) trivial
  | deleted sid faults db hc hr =>
    obtain ⟨hfaults, -⟩ := deleteSession_eq_ok.mp hr
    constructor
    · intro h _ sid' hsid' j out hj
      obtain rfl : sid' = sid := by simpa [hc] using hsid'.symm
      have hstored := h j sid' out hj
      change db.aiOutput sid' = _ at hstored
      rw [(notes_deleteSession hr sid').2, if_pos rfl] at hstored
      cases hstored
    · intro hG j sid' out hj
      have hne : sid' ≠ sid := by
        rintro rfl
        exact hG hfaults sid' hc j out hj
      show db.aiOutput sid' = _
      rw [(notes_deleteSession hr sid').2, if_neg hne]
      exact hσ j sid' out hj
  | deleteFailed sid e faults hc hr =>
    refine iff_of_true (hσ.of_eq rfl rfl) ?_
    rintro rfl
    rw [deleteSession_eq_ok.mpr ⟨rfl, rfl⟩] at hr
    cases hr
  | saved sid notes uuid now fault db hc hr =>
    exact iff_of_true (hσ.of_frame (fun _ _ _ h ↦ h) fun _ _ _ _ hs ↦ stored_of_upsertNotes hr hs)
      trivial
  | spawned sid k notesFault configured hc hk =>
    refine iff_of_true (hσ.of_frame (fun j sid' out h ↦ ?_) fun _ _ _ _ hs ↦ hs) trivial
    change Function.update σ.tasks k (some ⟨sid, .prompting⟩) j = _ at h
    rcases eq_or_ne j k with rfl | hj
    · simp at h
    · rwa [Function.update_of_ne hj] at h
  | moved k m t p ht hm hp =>
    have hmoved : (σ.goto k t p).Truthful := hσ.of_moved hp fun _ _ _ _ hs ↦ hs
    refine iff_of_true hmoved ?_
    cases m with
    | store now fault => exact fun hf ↦ absurd (by rw [hf]) (hm now).1
    | retry now fault => exact fun hf ↦ absurd (by rw [hf]) (hm now).2.1
    | _ => trivial
  | stored k m t out now fault db ht hm hr =>
    have hfault := (updateAiOutput_eq_ok.mp hr).1
    have hguard : (fault = none → σ.StoresInRow k) ↔ σ.StoresInRow k :=
      ⟨fun h ↦ h hfault, fun h _ ↦ h⟩
    rcases hm with ⟨hp, rfl⟩ | ⟨hp, rfl⟩
    · exact (truthful_stored_iff hσ ht (Or.inl hp) hr).trans hguard.symm
    · exact (truthful_stored_iff hσ ht (Or.inr hp) hr).trans hguard.symm
  | notesCreated k t out uuid now fault ht hp =>
    refine iff_of_true (hσ.of_moved (by simp) fun _ sid out _ hs ↦ ?_) trivial
    exact Statement.settle_of (P := fun db ↦ Stored db sid out) hs fun _ hr ↦
      stored_of_upsertNotes hr hs
  | _ => exact iff_of_true (hσ.of_eq rfl rfl) trivial

/-- **What is announced is stored, in the runs in which each output that is stored finds a row and
nobody writes over it or deletes it before it is announced**, and in no others. -/
theorem truthful_iff_guarded (db : VoiceDb) (as : List MeetingAction) (final : Meetings)
    (hrun : Machine.exec meetingStep (.init db) as = some final) :
    (∀ pre post σ, as = pre ++ post → Machine.exec meetingStep (.init db) pre = some σ →
        σ.Truthful) ↔
      Machine.Guarded meetingStep StoreGuard (.init db) as :=
  Machine.inv_iff_guarded (fun _ _ _ hσ ↦ truthful_step_iff hσ) (truthful_init db) hrun

end Truthful

/-! ## A summary that is stored nowhere -/

/-- A session with a segment, and with these notes. -/
def exampleDb (notes : List SessionNotes) : VoiceDb where
  sessions := [⟨"s", "Stand-up", "meeting", "complete", 10, some 20, some 1, 10⟩]
  segments := [⟨"a", "s", "hello", 0, 900, 20⟩]
  notes := notes
  fts := [⟨"s", "hello"⟩]

/-- The user's notes on the session. -/
def exampleNotes : SessionNotes := ⟨"b", "s", some "mine", none, none, none, 30⟩

/-- What the model answers. -/
def exampleOutput : SummaryOutput := ⟨"A greeting.", "", ""⟩

/-- A summary is asked for, comes, and is stored. -/
def exampleSummary : List MeetingAction :=
  [.generate "s" none, .spawnSummary 0 none true, .task 0 (.answer (.ok exampleOutput)),
    .task 0 (.store 40 none)]

theorem truthful_iff_guarded_example :
    ∃ final, Machine.exec meetingStep (.init (exampleDb [exampleNotes])) exampleSummary =
        some final ∧
      ((∀ pre post σ, exampleSummary = pre ++ post →
          Machine.exec meetingStep (.init (exampleDb [exampleNotes])) pre = some σ → σ.Truthful) ↔
        Machine.Guarded meetingStep StoreGuard (.init (exampleDb [exampleNotes]))
          exampleSummary) := by
  obtain ⟨final, hrun⟩ : ∃ final, Machine.exec meetingStep (.init (exampleDb [exampleNotes]))
      exampleSummary = some final := ⟨_, rfl⟩
  exact ⟨final, hrun, truthful_iff_guarded _ exampleSummary final hrun⟩

/-- **A summary can be announced and be stored nowhere**: the user has not written any notes on the
session, so there is no row. -/
theorem not_truthful_of_exec : ∃ σ, Machine.exec meetingStep (.init (exampleDb [])) exampleSummary =
    some σ ∧ σ.Announces 0 "s" exampleOutput ∧ (meetingStep σ (.task 0 .emit)).isSome = true ∧
      σ.db.notes = [] ∧ ¬ σ.Truthful := by
  obtain ⟨σ, hrun, hann, hemit, hnotes⟩ : ∃ σ,
      Machine.exec meetingStep (.init (exampleDb [])) exampleSummary = some σ ∧
        σ.Announces 0 "s" exampleOutput ∧ (meetingStep σ (.task 0 .emit)).isSome = true ∧
        σ.db.notes = [] := ⟨_, rfl, rfl, rfl, rfl⟩
  refine ⟨σ, hrun, hann, hemit, hnotes, fun h ↦ ?_⟩
  have hstored := h 0 "s" exampleOutput hann
  rw [Stored, VoiceDb.aiOutput, hnotes] at hstored
  cases hstored

/-! ## The notes of the user -/

/-- **The notes of every session are those that were saved last.** -/
def Meetings.NotesKept (σ : Meetings) : Prop := ∀ sid, σ.db.rawNotes sid = σ.saved sid

/-- The condition on a step: a task creates a row of notes only for a session without notes. -/
def CreateGuard (σ : Meetings) : MeetingAction → Prop
  | .task k (.create _ _ fault) => fault = none → ∀ t, σ.tasks k = some t →
      σ.db.rawNotes t.sessionId = none
  | _ => True

section NotesKept

variable {σ τ : Meetings}

theorem notesKept_init (db : VoiceDb) : (Meetings.init db).NotesKept := fun _ ↦ rfl

/-- Nothing changes in the notes. -/
theorem Meetings.NotesKept.of_eq (hσ : σ.NotesKept) (hsaved : τ.saved = σ.saved)
    (hnotes : τ.db.notes = σ.db.notes) : τ.NotesKept := by
  intro sid
  rw [hsaved, (VoiceDb.notes_congr hnotes).1]
  exact hσ sid

/-- A call of `upsert_notes` with no notes leaves all notes alone exactly if there were none. -/
theorem rawNotes_create_iff {db : VoiceDb} {sid uuid : String} {now : ℤ} {fault : Option String} :
    (∀ j, (Statement.settle db (upsertNotes sid none uuid now fault db)).rawNotes j =
        db.rawNotes j) ↔ (fault = none → db.rawNotes sid = none) := by
  cases hr : upsertNotes sid none uuid now fault db with
  | ok db' =>
    have hraw := fun j ↦ (notes_upsertNotes hr j).1
    have hfault := (upsertNotes_eq_ok.mp hr).1
    rw [Statement.settle_ok]
    constructor
    · intro h _
      have hself := h sid
      rw [hraw, if_pos rfl] at hself
      exact hself.symm
    · intro h j
      rw [hraw]
      split
      · rename_i hj
        rw [hj, h hfault]
      · rfl
  | error e =>
    refine iff_of_true (fun _ ↦ rfl) fun hfault ↦ ?_
    -- with a row for the session the call would have succeeded
    by_contra hne
    obtain ⟨notes, hnotes⟩ := Option.ne_none_iff_exists'.mp hne
    obtain ⟨r, hr', -⟩ := Option.bind_eq_some_iff.mp hnotes
    rw [upsertNotes_eq_ok.mpr ⟨hfault, Or.inl ⟨Table.exists_lookup_iff.mp ⟨r, hr'⟩, rfl⟩⟩] at hr
    cases hr

/-- **A step keeps the notes exactly if it meets the condition.** -/
theorem notesKept_step_iff (hσ : σ.NotesKept) {a : MeetingAction}
    (h : meetingStep σ a = some τ) : τ.NotesKept ↔ CreateGuard σ a := by
  cases meetingStep_cases h with
  | created | finished | segment | threadEnds =>
    obtain ⟨-, hsaved, hnotes⟩ := frame_of_records h rfl
    exact iff_of_true (hσ.of_eq hsaved hnotes) trivial
  | deleted sid faults db hc hr =>
    refine iff_of_true (fun j ↦ ?_) trivial
    show db.rawNotes j = Function.update σ.saved sid none j
    rw [(notes_deleteSession hr j).1]
    rcases eq_or_ne j sid with rfl | hj
    · rw [if_pos rfl, Function.update_self]
    · rw [if_neg hj, Function.update_of_ne hj, hσ j]
  | saved sid notes uuid now fault db hc hr =>
    refine iff_of_true (fun j ↦ ?_) trivial
    show db.rawNotes j = Function.update σ.saved sid (some notes) j
    rw [(notes_upsertNotes hr j).1]
    rcases eq_or_ne j sid with rfl | hj
    · rw [if_pos rfl, Function.update_self]
    · rw [if_neg hj, Function.update_of_ne hj, hσ j]
  | moved k m t p ht hm hp =>
    refine iff_of_true (hσ.of_eq rfl rfl) ?_
    cases m with
    | create uuid now fault => exact fun _ ↦ absurd rfl ((hm now).2.2 uuid fault)
    | _ => trivial
  | stored k m t out now fault db ht hm hr =>
    have hkept : ({ σ with db := db }.goto k t (.announcing out)).NotesKept := by
      intro j
      show db.rawNotes j = σ.saved j
      rw [(notes_updateAiOutput hr j).1, hσ j]
    rcases hm with ⟨-, rfl⟩ | ⟨-, rfl⟩
    · exact iff_of_true hkept trivial
    · exact iff_of_true hkept trivial
  | notesCreated k t out uuid now fault ht hp =>
    have hguard : CreateGuard σ (.task k (.create uuid now fault)) ↔
        (fault = none → σ.db.rawNotes t.sessionId = none) := by
      refine ⟨fun h hf ↦ h hf t ht, fun h hf t' ht' ↦ ?_⟩
      rw [Option.some.inj (ht'.symm.trans ht)]
      exact h hf
    have hcreate := @rawNotes_create_iff σ.db t.sessionId uuid now fault
    rw [hguard, ← hcreate]
    refine forall_congr' fun j ↦ ?_
    rw [hσ j]
    rfl
  | _ => exact iff_of_true (hσ.of_eq rfl rfl) trivial

/-- **The notes are those that were saved last, in the runs in which no task creates a row of notes
for a session that has notes**, and in no others. -/
theorem notesKept_iff_guarded (db : VoiceDb) (as : List MeetingAction) (final : Meetings)
    (hrun : Machine.exec meetingStep (.init db) as = some final) :
    (∀ pre post σ, as = pre ++ post → Machine.exec meetingStep (.init db) pre = some σ →
        σ.NotesKept) ↔
      Machine.Guarded meetingStep CreateGuard (.init db) as :=
  Machine.inv_iff_guarded (fun _ _ _ hσ ↦ notesKept_step_iff hσ) (notesKept_init db) hrun

end NotesKept

/-! ## Notes that are wiped -/

/-- A summary is asked for and comes, and the first attempt to store it fails. -/
def exampleRetry : List MeetingAction :=
  [.generate "s" none, .spawnSummary 0 none true, .task 0 (.answer (.ok exampleOutput)),
    .task 0 (.store 40 (some "database is locked")), .task 0 (.create "c" 41 none),
    .task 0 (.retry 42 none), .task 0 .emit]

theorem notesKept_iff_guarded_example :
    ∃ final, Machine.exec meetingStep (.init (exampleDb [])) exampleRetry = some final ∧
      ((∀ pre post σ, exampleRetry = pre ++ post →
          Machine.exec meetingStep (.init (exampleDb [])) pre = some σ → σ.NotesKept) ↔
        Machine.Guarded meetingStep CreateGuard (.init (exampleDb [])) exampleRetry) := by
  obtain ⟨final, hrun⟩ : ∃ final, Machine.exec meetingStep (.init (exampleDb [])) exampleRetry =
      some final := ⟨_, rfl⟩
  exact ⟨final, hrun, notesKept_iff_guarded _ exampleRetry final hrun⟩

/-- **A summary can wipe the notes of the user.**  The task has ended, and nobody else has done
anything. -/
theorem not_notesKept_of_exec : ∃ σ,
    Machine.exec meetingStep (.init (exampleDb [exampleNotes])) exampleRetry = some σ ∧
      σ.tasks 0 = some ⟨"s", .ended⟩ ∧ σ.saved "s" = some "mine" ∧ σ.db.rawNotes "s" = none ∧
      ¬ σ.NotesKept := by
  obtain ⟨σ, hrun, hended, hsaved, hraw⟩ : ∃ σ,
      Machine.exec meetingStep (.init (exampleDb [exampleNotes])) exampleRetry = some σ ∧
        σ.tasks 0 = some ⟨"s", .ended⟩ ∧ σ.saved "s" = some "mine" ∧
        σ.db.rawNotes "s" = none := ⟨_, rfl, rfl, rfl, rfl⟩
  refine ⟨σ, hrun, hended, hsaved, hraw, fun h ↦ ?_⟩
  have hkept := h "s"
  rw [hraw, hsaved] at hkept
  cases hkept

end WorkWithMe.Voice
