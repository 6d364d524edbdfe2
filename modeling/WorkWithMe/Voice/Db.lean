import Mathlib.Data.Int.Notation
import Mathlib.Data.List.Perm.Basic
import Mathlib.Data.List.Sort
import WorkWithMe.Lib.Machine
import WorkWithMe.Lib.Statement
import WorkWithMe.Lib.Table

/-!
# The database of voice sessions

`VoiceDb` is the database of `voice_db.rs`: the three tables of the schema with their keys and
foreign keys, and the full-text index, which has none.  A foreign key to `voice_sessions` cascades:
deleting a session deletes its segments and its notes.  The index is kept in step by hand, in the
transactions of `insert_segment` and `delete_session`.

Each operation of the source is a function of the same name that returns the database it leads to
or the text of its error.  What the environment chooses is an argument: the clock, the next UUID,
and which statement fails.  `DbCall` is a call of one of the seven operations that write, and a
sequence of them is a run of the machine `dbStep`.

* `Consistent` is what holds of the database after every sequence of calls; `consistent_of_exec`
  is that.
* `consistent_and_complete` puts together what follows for deletions and for the search.
-/

set_option autoImplicit false

namespace WorkWithMe.Voice

/-! ## The tables -/

/-- A row of `voice_sessions`. -/
structure VoiceSession where
  /-- The primary key. -/
  id : String
  /-- The title. -/
  title : String
  /-- What was recorded. -/
  sessionType : String
  /-- Where the recording is in its life. -/
  status : String
  /-- When it began, in milliseconds. -/
  startedAt : ℤ
  /-- When it ended. -/
  endedAt : Option ℤ
  /-- How long it is. -/
  durationSec : Option ℤ
  /-- When the row was created. -/
  createdAt : ℤ
  deriving DecidableEq

/-- A row of `transcript_segments`. -/
structure TranscriptSegment where
  /-- The primary key. -/
  id : String
  /-- The session it is part of. -/
  sessionId : String
  /-- What was said. -/
  text : String
  /-- When it begins, in the recording. -/
  startMs : ℤ
  /-- When it ends, in the recording. -/
  endMs : ℤ
  /-- When the row was created. -/
  createdAt : ℤ
  deriving DecidableEq

/-- A row of `session_notes`. -/
structure SessionNotes where
  /-- The primary key. -/
  id : String
  /-- The session; no two rows have the same. -/
  sessionId : String
  /-- What the user wrote. -/
  rawNotes : Option String
  /-- The summary. -/
  aiSummary : Option String
  /-- The action items. -/
  aiActionItems : Option String
  /-- The decisions. -/
  aiDecisions : Option String
  /-- When the row was last written. -/
  updatedAt : ℤ
  deriving DecidableEq

/-- A row of `voice_fts`. -/
structure FtsRow where
  /-- The session. -/
  sessionId : String
  /-- The text that is searched. -/
  text : String
  deriving DecidableEq

/-- The database. -/
structure VoiceDb where
  /-- `voice_sessions`. -/
  sessions : List VoiceSession
  /-- `transcript_segments`. -/
  segments : List TranscriptSegment
  /-- `session_notes`. -/
  notes : List SessionNotes
  /-- `voice_fts`. -/
  fts : List FtsRow
  deriving DecidableEq

/-- The tables `apply_schema` creates. -/
def VoiceDb.empty : VoiceDb := ⟨[], [], [], []⟩

/-! ## The statements -/

/-- `INSERT INTO voice_sessions`. -/
def insertSession (row : VoiceSession) : Statement VoiceDb := fun db ↦
  if row.id ∈ db.sessions.map VoiceSession.id then
    .error "UNIQUE constraint failed: voice_sessions.id"
  else .ok { db with sessions := db.sessions ++ [row] }

/-- `UPDATE voice_sessions … WHERE id = ?`. -/
def updateSession (id : String) (f : VoiceSession → VoiceSession) : Statement VoiceDb := fun db ↦
  .ok { db with sessions := Table.updateAt VoiceSession.id id f db.sessions }

/-- `DELETE FROM voice_sessions WHERE id = ?`, which cascades. -/
def deleteSessionRow (id : String) : Statement VoiceDb := fun db ↦
  .ok { db with
    sessions := Table.deleteAt VoiceSession.id id db.sessions
    segments := Table.deleteAt TranscriptSegment.sessionId id db.segments
    notes := Table.deleteAt SessionNotes.sessionId id db.notes }

/-- `INSERT INTO transcript_segments`. -/
def insertSegmentRow (row : TranscriptSegment) : Statement VoiceDb := fun db ↦
  if row.id ∈ db.segments.map TranscriptSegment.id then
    .error "UNIQUE constraint failed: transcript_segments.id"
  else if row.sessionId ∉ db.sessions.map VoiceSession.id then
    .error "FOREIGN KEY constraint failed"
  else .ok { db with segments := db.segments ++ [row] }

/-- `INSERT INTO session_notes … ON CONFLICT(session_id) DO UPDATE`, with the columns the update
writes. -/
def upsertNotesRow (row : SessionNotes) : Statement VoiceDb := fun db ↦
  if row.sessionId ∈ db.notes.map SessionNotes.sessionId then
    .ok { db with
      notes := Table.updateAt SessionNotes.sessionId row.sessionId
        (fun r ↦ { r with rawNotes := row.rawNotes, updatedAt := row.updatedAt }) db.notes }
  else if row.id ∈ db.notes.map SessionNotes.id then
    .error "UNIQUE constraint failed: session_notes.id"
  else if row.sessionId ∉ db.sessions.map VoiceSession.id then
    .error "FOREIGN KEY constraint failed"
  else .ok { db with notes := db.notes ++ [row] }

/-- `UPDATE session_notes … WHERE session_id = ?`. -/
def updateNotes (sessionId : String) (f : SessionNotes → SessionNotes) : Statement VoiceDb :=
  fun db ↦ .ok { db with notes := Table.updateAt SessionNotes.sessionId sessionId f db.notes }

/-- `INSERT INTO voice_fts`. -/
def insertFtsRow (row : FtsRow) : Statement VoiceDb := fun db ↦
  .ok { db with fts := db.fts ++ [row] }

/-- `DELETE FROM voice_fts WHERE session_id = ?`. -/
def deleteFtsRows (id : String) : Statement VoiceDb := fun db ↦
  .ok { db with fts := Table.deleteAt FtsRow.sessionId id db.fts }

/-! ## The operations -/

/-- Which statements of a transaction the environment lets fail. -/
structure TxFaults where
  /-- The beginning. -/
  txn : Option String
  /-- The first statement. -/
  first : Option String
  /-- The second statement. -/
  second : Option String
  /-- The commit. -/
  commit : Option String
  deriving DecidableEq

/-- Nothing goes wrong. -/
def TxFaults.none : TxFaults := ⟨.none, .none, .none, .none⟩

open Statement

/-- `create_session`. -/
def createSession (id title sessionType : String) (now : ℤ) (fault : Option String) :
    Statement VoiceDb :=
  execute "create_session" fault
    (insertSession ⟨id, title, sessionType, "recording", now, none, none, now⟩)

/-- `delete_session`. -/
def deleteSession (id : String) (faults : TxFaults) : Statement VoiceDb :=
  runAll [("delete_session txn", faults.txn, .ok),
    ("delete_session fts", faults.first, deleteFtsRows id),
    ("delete_session", faults.second, deleteSessionRow id),
    ("delete_session commit", faults.commit, .ok)]

/-- `update_session_status`. -/
def updateSessionStatus (id status : String) (fault : Option String) : Statement VoiceDb :=
  execute "update_session_status" fault (updateSession id fun r ↦ { r with status := status })

/-- `finish_session`. -/
def finishSession (id : String) (endedAt durationSec : ℤ) (fault : Option String) :
    Statement VoiceDb :=
  execute "finish_session" fault (updateSession id fun r ↦
    { r with status := "processing", endedAt := some endedAt, durationSec := some durationSec })

/-- `complete_session`. -/
def completeSession (id : String) (fault : Option String) : Statement VoiceDb :=
  updateSessionStatus id "complete" fault

/-- `insert_segment`. -/
def insertSegment (sessionId text : String) (startMs endMs : ℤ) (uuid : String) (now : ℤ)
    (faults : TxFaults) : Statement VoiceDb :=
  runAll [("insert_segment txn", faults.txn, .ok),
    ("insert_segment", faults.first,
      insertSegmentRow ⟨uuid, sessionId, text, startMs, endMs, now⟩),
    ("insert_segment fts", faults.second, insertFtsRow ⟨sessionId, text⟩),
    ("insert_segment commit", faults.commit, .ok)]

/-- `upsert_notes`. -/
def upsertNotes (sessionId : String) (rawNotes : Option String) (uuid : String) (now : ℤ)
    (fault : Option String) : Statement VoiceDb :=
  execute "upsert_notes" fault
    (upsertNotesRow ⟨uuid, sessionId, rawNotes, none, none, none, now⟩)

/-- `update_ai_output`.  That there is no row to update is not an error. -/
def updateAiOutput (sessionId summary actions decisions : String) (now : ℤ)
    (fault : Option String) : Statement VoiceDb :=
  execute "update_ai_output" fault (updateNotes sessionId fun r ↦
    { r with
      aiSummary := some summary, aiActionItems := some actions, aiDecisions := some decisions,
      updatedAt := now })

/-! ## The queries -/

/-- Where a query fails, if it does, and what the engine says. -/
inductive QueryFault where
  /-- When the statement is prepared. -/
  | prepare (e : String)
  /-- When it is run. -/
  | query (e : String)
  deriving DecidableEq

/-- The error of a query. -/
def QueryFault.text (context : String) : QueryFault → String
  | .prepare e => context ++ " prepare: " ++ e
  | .query e => context ++ " query: " ++ e

/-- The rows of a table by the time at which they began, the latest first.  Rows with the same time
come in any order. -/
structure Listing (rows table : List VoiceSession) : Prop where
  /-- It has the rows of the table. -/
  perm : rows.Perm table
  /-- Later ones come first. -/
  sorted : rows.Pairwise fun a b ↦ b.startedAt ≤ a.startedAt

/-- `list_sessions`, where the engine sorts the table into `rows`. -/
def listSessions (fault : Option QueryFault) (rows : List VoiceSession) :
    Except String (List VoiceSession) :=
  match fault with
  | some e => .error (e.text "list_sessions")
  | none => .ok (rows.take 200)

/-- `get_session`. -/
def getSession (id : String) (fault : Option String) (db : VoiceDb) :
    Except String (Option VoiceSession) :=
  match fault with
  | some e => .error ("get_session: " ++ e)
  | none => .ok (Table.lookup VoiceSession.id id db.sessions)

/-- `get_segments`: the segments of a session, by the time at which they begin. -/
def getSegments (sessionId : String) (fault : Option QueryFault) (db : VoiceDb) :
    Except String (List TranscriptSegment) :=
  match fault with
  | some e => .error (e.text "get_segments")
  | none => .ok ((db.segments.filter fun r ↦ r.sessionId = sessionId).insertionSort
      fun a b ↦ a.startMs ≤ b.startMs)

/-- `get_notes`. -/
def getNotes (sessionId : String) (fault : Option String) (db : VoiceDb) :
    Except String (Option SessionNotes) :=
  match fault with
  | some e => .error ("get_notes: " ++ e)
  | none => .ok (Table.lookup SessionNotes.sessionId sessionId db.notes)

/-- The characters `trim` removes. -/
def isWhiteSpace (c : Char) : Bool :=
  (9 ≤ c.toNat && c.toNat ≤ 13) || (0x2000 ≤ c.toNat && c.toNat ≤ 0x200A) ||
    [0x20, 0x85, 0xA0, 0x1680, 0x2028, 0x2029, 0x202F, 0x205F, 0x3000].contains c.toNat

/-- The query as one FTS5 phrase: in quotes, with the quotes in it doubled. -/
def safeQuery (query : String) : String :=
  "\"" ++ .ofList (query.toList.flatMap fun c ↦ if c = '"' then ['"', '"'] else [c]) ++ "\""

section Search

-- the full-text engine: whether a `MATCH` pattern matches a text
variable (ftsMatch : String → String → Bool)

/-- `search_sessions`, where the engine visits the index in the order `rows`. -/
def searchSessions (query : String) (fault : Option QueryFault) (rows : List FtsRow) :
    Except String (List String) :=
  if query.toList.all isWhiteSpace then .ok []
  else match fault with
    | some e => .error (e.text "search_sessions")
    | none => .ok (((rows.filter fun r ↦ ftsMatch (safeQuery query) r.text).map
        FtsRow.sessionId).eraseDups.take 50)

/-- The sessions of some ids, as `meeting_search` collects them. -/
def getSessions (fault : String → Option String) (db : VoiceDb) :
    List String → Except String (List VoiceSession)
  | [] => .ok []
  | id :: ids =>
    (getSession id (fault id) db).bind fun row ↦
      (getSessions fault db ids).bind fun rest ↦ .ok (row.toList ++ rest)

/-- `meeting_search`.  The engine sorts the sessions into `listing` and visits the index in the
order `rows`; an error of one of the queries is passed on. -/
def meetingSearch (query : String) (fault : Option QueryFault)
    (getFault : String → Option String) (listing : List VoiceSession) (rows : List FtsRow)
    (db : VoiceDb) : Except String (List VoiceSession) :=
  if query = "" then listSessions fault listing
  else (searchSessions ftsMatch query fault rows).bind (getSessions getFault db)

end Search

/-! ## Runs -/

/-- A call of one of the operations that write, with what the environment makes of it. -/
inductive DbCall where
  | createSession (id title sessionType : String) (now : ℤ) (fault : Option String)
  | deleteSession (id : String) (faults : TxFaults)
  | insertSegment (sessionId text : String) (startMs endMs : ℤ) (uuid : String) (now : ℤ)
      (faults : TxFaults)
  | upsertNotes (sessionId : String) (rawNotes : Option String) (uuid : String) (now : ℤ)
      (fault : Option String)
  | updateAiOutput (sessionId summary actions decisions : String) (now : ℤ) (fault : Option String)
  | updateSessionStatus (id status : String) (fault : Option String)
  | finishSession (id : String) (endedAt durationSec : ℤ) (fault : Option String)

/-- What a call returns. -/
def DbCall.result : DbCall → Statement VoiceDb
  | .createSession id title sessionType now fault =>
    Voice.createSession id title sessionType now fault
  | .deleteSession id faults => Voice.deleteSession id faults
  | .insertSegment sessionId text startMs endMs uuid now faults =>
    Voice.insertSegment sessionId text startMs endMs uuid now faults
  | .upsertNotes sessionId rawNotes uuid now fault =>
    Voice.upsertNotes sessionId rawNotes uuid now fault
  | .updateAiOutput sessionId summary actions decisions now fault =>
    Voice.updateAiOutput sessionId summary actions decisions now fault
  | .updateSessionStatus id status fault => Voice.updateSessionStatus id status fault
  | .finishSession id endedAt durationSec fault =>
    Voice.finishSession id endedAt durationSec fault

/-- One call after another, whether it succeeds or fails. -/
def dbStep (db : VoiceDb) (c : DbCall) : Option VoiceDb := some (settle db (c.result db))

/-! ## What the operations do -/

section Operations

variable {db db' : VoiceDb} {id sessionId title sessionType status text uuid : String}
  {now startMs endMs endedAt durationSec : ℤ} {fault : Option String} {faults : TxFaults}

theorem createSession_eq_ok : createSession id title sessionType now fault db = .ok db' ↔
    fault = none ∧ id ∉ db.sessions.map VoiceSession.id ∧
      { db with
        sessions := db.sessions ++
          [⟨id, title, sessionType, "recording", now, none, none, now⟩] } = db' := by
  rw [createSession, execute_eq_ok, insertSession]
  split <;> simp_all

theorem deleteSession_eq_ok : deleteSession id faults db = .ok db' ↔
    faults = .none ∧
      ⟨Table.deleteAt VoiceSession.id id db.sessions,
        Table.deleteAt TranscriptSegment.sessionId id db.segments,
        Table.deleteAt SessionNotes.sessionId id db.notes,
        Table.deleteAt FtsRow.sessionId id db.fts⟩ = db' := by
  rcases faults with ⟨txn, first, second, commit⟩
  simp only [deleteSession, runAll_cons_eq_ok, runAll_nil_eq_ok, deleteFtsRows, deleteSessionRow,
    Except.ok.injEq, exists_eq_left', TxFaults.none, TxFaults.mk.injEq, and_assoc]

theorem updateSessionStatus_eq_ok : updateSessionStatus id status fault db = .ok db' ↔
    fault = none ∧
      { db with
        sessions := Table.updateAt VoiceSession.id id (fun r ↦ { r with status := status })
          db.sessions } = db' := by
  rw [updateSessionStatus, execute_eq_ok, updateSession, Except.ok.injEq]

theorem finishSession_eq_ok : finishSession id endedAt durationSec fault db = .ok db' ↔
    fault = none ∧
      { db with
        sessions := Table.updateAt VoiceSession.id id (fun r ↦
          { r with
            status := "processing", endedAt := some endedAt, durationSec := some durationSec })
          db.sessions } = db' := by
  rw [finishSession, execute_eq_ok, updateSession, Except.ok.injEq]

theorem insertSegment_eq_ok :
    insertSegment sessionId text startMs endMs uuid now faults db = .ok db' ↔
      faults = .none ∧ uuid ∉ db.segments.map TranscriptSegment.id ∧
        sessionId ∈ db.sessions.map VoiceSession.id ∧
        { db with
          segments := db.segments ++ [⟨uuid, sessionId, text, startMs, endMs, now⟩]
          fts := db.fts ++ [⟨sessionId, text⟩] } = db' := by
  rcases faults with ⟨txn, first, second, commit⟩
  simp only [insertSegment, runAll_cons_eq_ok, runAll_nil_eq_ok, insertFtsRow, insertSegmentRow,
    Except.ok.injEq, exists_eq_left', TxFaults.none, TxFaults.mk.injEq]
  split
  · simp_all
  · split
    · simp_all
    · simp_all [and_assoc]

theorem updateAiOutput_eq_ok {summary actions decisions : String} :
    updateAiOutput sessionId summary actions decisions now fault db = .ok db' ↔
      fault = none ∧
        { db with
          notes := Table.updateAt SessionNotes.sessionId sessionId (fun r ↦
            { r with
              aiSummary := some summary, aiActionItems := some actions,
              aiDecisions := some decisions, updatedAt := now }) db.notes } = db' := by
  rw [updateAiOutput, execute_eq_ok, updateNotes, Except.ok.injEq]

/-- `upsert_notes` writes to the notes of the session, or adds a row for it. -/
theorem upsertNotes_eq_ok {rawNotes : Option String} :
    upsertNotes sessionId rawNotes uuid now fault db = .ok db' ↔
      fault = none ∧
        (sessionId ∈ db.notes.map SessionNotes.sessionId ∧
            { db with
              notes := Table.updateAt SessionNotes.sessionId sessionId
                (fun r ↦ { r with rawNotes := rawNotes, updatedAt := now }) db.notes } = db' ∨
          sessionId ∉ db.notes.map SessionNotes.sessionId ∧
            uuid ∉ db.notes.map SessionNotes.id ∧ sessionId ∈ db.sessions.map VoiceSession.id ∧
            { db with
              notes := db.notes ++
                [⟨uuid, sessionId, rawNotes, none, none, none, now⟩] } = db') := by
  rw [upsertNotes, execute_eq_ok]
  refine and_congr_right fun _ ↦ ?_
  rw [upsertNotesRow]
  by_cases hrow : sessionId ∈ db.notes.map SessionNotes.sessionId
  · simp [hrow]
  · rw [if_neg hrow]
    by_cases hid : uuid ∈ db.notes.map SessionNotes.id
    · simp [hid, hrow]
    · rw [if_neg hid]
      by_cases hs : sessionId ∈ db.sessions.map VoiceSession.id
      · simp_all
      · simp_all

end Operations

/-! ## What one sees of a session -/

/-- The status of a session. -/
def VoiceDb.status (db : VoiceDb) (id : String) : Option String :=
  (Table.lookup VoiceSession.id id db.sessions).map VoiceSession.status

/-- The notes the user wrote, if there are any. -/
def VoiceDb.rawNotes (db : VoiceDb) (sessionId : String) : Option String :=
  (Table.lookup SessionNotes.sessionId sessionId db.notes).bind SessionNotes.rawNotes

/-- The summary, action items and decisions in the row of notes, if there is one. -/
def VoiceDb.aiOutput (db : VoiceDb) (sessionId : String) :
    Option (Option String × Option String × Option String) :=
  (Table.lookup SessionNotes.sessionId sessionId db.notes).map fun r ↦
    (r.aiSummary, r.aiActionItems, r.aiDecisions)

section Views

variable {db db' : VoiceDb} {id sessionId title sessionType status uuid : String}
  {now endedAt durationSec : ℤ} {fault : Option String} {faults : TxFaults}

theorem VoiceDb.exists_status_iff : (∃ st, db.status id = some st) ↔
    id ∈ db.sessions.map VoiceSession.id := by
  rw [← Table.exists_lookup_iff]
  simp [VoiceDb.status]

theorem VoiceDb.exists_aiOutput_iff : (∃ o, db.aiOutput sessionId = some o) ↔
    sessionId ∈ db.notes.map SessionNotes.sessionId := by
  rw [← Table.exists_lookup_iff]
  simp [VoiceDb.aiOutput]

theorem VoiceDb.status_congr (h : db'.sessions = db.sessions) : db'.status id = db.status id := by
  rw [VoiceDb.status, h, VoiceDb.status]

/-- What one sees of the notes depends on their table alone. -/
theorem VoiceDb.notes_congr (h : db'.notes = db.notes) :
    db'.rawNotes sessionId = db.rawNotes sessionId ∧
      db'.aiOutput sessionId = db.aiOutput sessionId := by
  simp only [VoiceDb.rawNotes, VoiceDb.aiOutput, h, and_self]

theorem status_createSession (h : createSession id title sessionType now fault db = .ok db')
    (j : String) : db'.status j = if j = id then some "recording" else db.status j := by
  obtain ⟨-, hnew, rfl⟩ := createSession_eq_ok.mp h
  rw [VoiceDb.status, Table.lookup_concat, VoiceDb.status]
  by_cases hj : j = id
  · rw [hj, Table.lookup_eq_none_iff.mpr hnew]
    simp
  · simp [hj, Ne.symm hj]

theorem status_deleteSession (h : deleteSession id faults db = .ok db') (j : String) :
    db'.status j = if j = id then none else db.status j := by
  obtain ⟨-, rfl⟩ := deleteSession_eq_ok.mp h
  rw [VoiceDb.status, Table.lookup_deleteAt, VoiceDb.status]
  split <;> rfl

theorem status_updateAt (f : VoiceSession → VoiceSession) (hid : ∀ r, (f r).id = r.id)
    (hf : ∀ r, (f r).status = status) (j : String) :
    VoiceDb.status { db with sessions := Table.updateAt VoiceSession.id id f db.sessions } j =
      if j = id then (db.status j).map fun _ ↦ status else db.status j := by
  rw [VoiceDb.status, Table.lookup_updateAt hid, VoiceDb.status]
  split
  · rw [Option.map_map, Option.map_map]
    congr 1
    funext r
    exact hf r
  · rfl

theorem status_updateSessionStatus (h : updateSessionStatus id status fault db = .ok db')
    (j : String) :
    db'.status j = if j = id then (db.status j).map fun _ ↦ status else db.status j := by
  obtain ⟨-, rfl⟩ := updateSessionStatus_eq_ok.mp h
  exact status_updateAt (fun r ↦ { r with status := status }) (fun _ ↦ rfl) (fun _ ↦ rfl) j

theorem status_finishSession (h : finishSession id endedAt durationSec fault db = .ok db')
    (j : String) :
    db'.status j = if j = id then (db.status j).map fun _ ↦ "processing" else db.status j := by
  obtain ⟨-, rfl⟩ := finishSession_eq_ok.mp h
  exact status_updateAt (fun r ↦
    { r with status := "processing", endedAt := some endedAt, durationSec := some durationSec })
    (fun _ ↦ rfl) (fun _ ↦ rfl) j

theorem sessions_insertSegment {text : String} {startMs endMs : ℤ}
    (h : insertSegment sessionId text startMs endMs uuid now faults db = .ok db') :
    db'.sessions = db.sessions := by
  obtain ⟨-, -, -, rfl⟩ := insertSegment_eq_ok.mp h
  rfl

theorem sessions_updateAiOutput {summary actions decisions : String}
    (h : updateAiOutput sessionId summary actions decisions now fault db = .ok db') :
    db'.sessions = db.sessions := by
  obtain ⟨-, rfl⟩ := updateAiOutput_eq_ok.mp h
  rfl

theorem sessions_upsertNotes {rawNotes : Option String}
    (h : upsertNotes sessionId rawNotes uuid now fault db = .ok db') :
    db'.sessions = db.sessions := by
  obtain ⟨-, ⟨-, rfl⟩ | ⟨-, -, -, rfl⟩⟩ := upsertNotes_eq_ok.mp h <;> rfl

theorem notes_deleteSession (h : deleteSession id faults db = .ok db') (j : String) :
    db'.rawNotes j = (if j = id then none else db.rawNotes j) ∧
      db'.aiOutput j = if j = id then none else db.aiOutput j := by
  obtain ⟨-, rfl⟩ := deleteSession_eq_ok.mp h
  simp only [VoiceDb.rawNotes, VoiceDb.aiOutput, Table.lookup_deleteAt]
  split <;> exact ⟨rfl, rfl⟩

/-- `update_ai_output` writes to the row of the session, if there is one, and to nothing else. -/
theorem notes_updateAiOutput {summary actions decisions : String}
    (h : updateAiOutput sessionId summary actions decisions now fault db = .ok db') (j : String) :
    db'.rawNotes j = db.rawNotes j ∧
      db'.aiOutput j = if j = sessionId
        then (db.aiOutput j).map fun _ ↦ (some summary, some actions, some decisions)
        else db.aiOutput j := by
  obtain ⟨-, rfl⟩ := updateAiOutput_eq_ok.mp h
  simp only [VoiceDb.rawNotes, VoiceDb.aiOutput, Table.lookup_updateAt, implies_true]
  split
  · cases Table.lookup SessionNotes.sessionId j db.notes <;> exact ⟨rfl, rfl⟩
  · exact ⟨rfl, rfl⟩

/-- `upsert_notes` writes the user's notes, and leaves the rest of the row alone if there is
one. -/
theorem notes_upsertNotes {rawNotes : Option String}
    (h : upsertNotes sessionId rawNotes uuid now fault db = .ok db') (j : String) :
    db'.rawNotes j = (if j = sessionId then rawNotes else db.rawNotes j) ∧
      db'.aiOutput j = if j = sessionId then some ((db.aiOutput j).getD (none, none, none))
        else db.aiOutput j := by
  obtain ⟨-, ⟨hrow, rfl⟩ | ⟨hrow, -, -, rfl⟩⟩ := upsertNotes_eq_ok.mp h
  · simp only [VoiceDb.rawNotes, VoiceDb.aiOutput, Table.lookup_updateAt, implies_true]
    by_cases hj : j = sessionId
    · obtain ⟨r, hr⟩ := Table.exists_lookup_iff.mpr hrow
      simp [hj, hr]
    · simp [hj]
  · simp only [VoiceDb.rawNotes, VoiceDb.aiOutput, Table.lookup_concat]
    by_cases hj : j = sessionId
    · simp [hj, Table.lookup_eq_none_iff.mpr hrow]
    · simp [hj, Ne.symm hj]

end Views

/-! ## What holds of the database -/

/-- What the index should have of a segment. -/
def TranscriptSegment.entry (r : TranscriptSegment) : String × String := (r.sessionId, r.text)

/-- What the index has. -/
def FtsRow.entry (r : FtsRow) : String × String := (r.sessionId, r.text)

/-- The tables fit together. -/
structure Consistent (db : VoiceDb) : Prop where
  /-- The index has the text of every segment, as often as it is there. -/
  index : (db.fts.map FtsRow.entry).Perm (db.segments.map TranscriptSegment.entry)
  /-- Every segment belongs to a session. -/
  segments : ∀ r ∈ db.segments, r.sessionId ∈ db.sessions.map VoiceSession.id
  /-- Every row of notes belongs to a session. -/
  notes : ∀ r ∈ db.notes, r.sessionId ∈ db.sessions.map VoiceSession.id
  /-- A session has at most one row of notes. -/
  unique : (db.notes.map SessionNotes.sessionId).Nodup

/-- Some table has the id of the session. -/
def VoiceDb.Mentions (db : VoiceDb) (id : String) : Prop :=
  id ∈ db.sessions.map VoiceSession.id ∨ id ∈ db.segments.map TranscriptSegment.sessionId ∨
    id ∈ db.notes.map SessionNotes.sessionId ∨ id ∈ db.fts.map FtsRow.sessionId

section Consistent

variable {db db' : VoiceDb} {id : String}

theorem consistent_empty : Consistent .empty := ⟨.nil, by simp [VoiceDb.empty],
  by simp [VoiceDb.empty], .nil⟩

/-- A session table with the ids of the old one, and maybe more. -/
theorem Consistent.of_sessions (hdb : Consistent db) {sessions : List VoiceSession}
    (h : ∀ id ∈ db.sessions.map VoiceSession.id, id ∈ sessions.map VoiceSession.id) :
    Consistent { db with sessions := sessions } where
  index := hdb.index
  segments r hr := h _ (hdb.segments r hr)
  notes r hr := h _ (hdb.notes r hr)
  unique := hdb.unique

/-- A notes table in which the sessions are the old ones. -/
theorem Consistent.of_notes (hdb : Consistent db) {notes : List SessionNotes}
    (h : notes.map SessionNotes.sessionId = db.notes.map SessionNotes.sessionId) :
    Consistent { db with notes := notes } where
  index := hdb.index
  segments := hdb.segments
  notes r hr := by
    have hmem : r.sessionId ∈ notes.map SessionNotes.sessionId := List.mem_map_of_mem hr
    rw [h] at hmem
    obtain ⟨r', hr', heq⟩ := List.mem_map.mp hmem
    exact heq ▸ hdb.notes r' hr'
  unique := by
    show (notes.map SessionNotes.sessionId).Nodup
    rw [h]
    exact hdb.unique

theorem Consistent.deleteSession (hdb : Consistent db) :
    Consistent ⟨Table.deleteAt VoiceSession.id id db.sessions,
      Table.deleteAt TranscriptSegment.sessionId id db.segments,
      Table.deleteAt SessionNotes.sessionId id db.notes,
      Table.deleteAt FtsRow.sessionId id db.fts⟩ where
  index := by
    have hfts : (Table.deleteAt FtsRow.sessionId id db.fts).map FtsRow.entry =
        (db.fts.map FtsRow.entry).filter fun c ↦ c.1 ≠ id :=
      Table.map_deleteAt_of_fst FtsRow.entry fun _ ↦ rfl
    have hseg : (Table.deleteAt TranscriptSegment.sessionId id db.segments).map
        TranscriptSegment.entry =
          (db.segments.map TranscriptSegment.entry).filter fun c ↦ c.1 ≠ id :=
      Table.map_deleteAt_of_fst TranscriptSegment.entry fun _ ↦ rfl
    rw [hfts, hseg]
    exact hdb.index.filter _
  segments r hr := by
    obtain ⟨hr, hne⟩ := Table.mem_deleteAt.mp hr
    rw [Table.map_deleteAt, List.mem_filter]
    exact ⟨hdb.segments r hr, by simpa using hne⟩
  notes r hr := by
    obtain ⟨hr, hne⟩ := Table.mem_deleteAt.mp hr
    rw [Table.map_deleteAt, List.mem_filter]
    exact ⟨hdb.notes r hr, by simpa using hne⟩
  unique := Table.nodup_deleteAt hdb.unique

/-- After a deletion no table has the id. -/
theorem not_mentions_of_deleteSession {faults : TxFaults}
    (h : Voice.deleteSession id faults db = .ok db') : ¬ db'.Mentions id := by
  obtain ⟨-, rfl⟩ := deleteSession_eq_ok.mp h
  simp only [VoiceDb.Mentions, Table.map_deleteAt, List.mem_filter]
  simp

theorem Consistent.insertSegment (hdb : Consistent db) {r : TranscriptSegment}
    (h : r.sessionId ∈ db.sessions.map VoiceSession.id) :
    Consistent { db with
      segments := db.segments ++ [r], fts := db.fts ++ [⟨r.sessionId, r.text⟩] } where
  index := by
    simp only [List.map_append, List.map_cons, List.map_nil]
    exact hdb.index.append_right _
  segments r' hr' := by
    rcases List.mem_append.mp hr' with hr' | hr'
    · exact hdb.segments r' hr'
    · rwa [List.mem_singleton.mp hr']
  notes := hdb.notes
  unique := hdb.unique

theorem Consistent.insertNotes (hdb : Consistent db) {r : SessionNotes}
    (h : r.sessionId ∈ db.sessions.map VoiceSession.id)
    (hnew : r.sessionId ∉ db.notes.map SessionNotes.sessionId) :
    Consistent { db with notes := db.notes ++ [r] } where
  index := hdb.index
  segments := hdb.segments
  notes r' hr' := by
    rcases List.mem_append.mp hr' with hr' | hr'
    · exact hdb.notes r' hr'
    · rwa [List.mem_singleton.mp hr']
  unique := Table.nodup_concat hdb.unique hnew

/-- **Each operation keeps the tables fitting together.** -/
theorem consistent_result {c : DbCall} (hdb : Consistent db) (h : c.result db = .ok db') :
    Consistent db' := by
  have hkeep : ∀ (id : String) (f : VoiceSession → VoiceSession), (∀ r, (f r).id = r.id) →
      Consistent { db with sessions := Table.updateAt VoiceSession.id id f db.sessions } := by
    intro id f hf
    exact hdb.of_sessions fun _ h ↦ by rwa [Table.map_updateAt _ hf]
  cases c with
  | createSession id title sessionType now fault =>
    obtain ⟨-, -, rfl⟩ := createSession_eq_ok.mp h
    exact hdb.of_sessions fun _ h ↦ by
      rw [List.map_append]
      exact List.mem_append_left _ h
  | deleteSession id faults =>
    obtain ⟨-, rfl⟩ := deleteSession_eq_ok.mp h
    exact hdb.deleteSession
  | insertSegment sessionId text startMs endMs uuid now faults =>
    obtain ⟨-, -, hs, rfl⟩ := insertSegment_eq_ok.mp h
    exact hdb.insertSegment (r := ⟨uuid, sessionId, text, startMs, endMs, now⟩) hs
  | upsertNotes sessionId rawNotes uuid now fault =>
    obtain ⟨-, ⟨-, rfl⟩ | ⟨hnew, -, hs, rfl⟩⟩ := upsertNotes_eq_ok.mp h
    · exact hdb.of_notes (Table.map_updateAt _ fun _ ↦ rfl)
    · exact hdb.insertNotes hs hnew
  | updateAiOutput sessionId summary actions decisions now fault =>
    obtain ⟨-, rfl⟩ := updateAiOutput_eq_ok.mp h
    exact hdb.of_notes (Table.map_updateAt _ fun _ ↦ rfl)
  | updateSessionStatus id status fault =>
    obtain ⟨-, rfl⟩ := updateSessionStatus_eq_ok.mp h
    exact hkeep id _ fun _ ↦ rfl
  | finishSession id endedAt durationSec fault =>
    obtain ⟨-, rfl⟩ := finishSession_eq_ok.mp h
    exact hkeep id _ fun _ ↦ rfl

theorem consistent_of_exec {as : List DbCall} (h : Machine.exec dbStep .empty as = some db) :
    Consistent db := by
  refine Machine.inv_of_exec (fun db c db' hdb hstep ↦ ?_) consistent_empty h
  rw [← Option.some.inj hstep]
  exact settle_of hdb fun _ h ↦ consistent_result hdb h

end Consistent

/-! ## The search -/

section Search

variable {ftsMatch : String → String → Bool} {db : VoiceDb} {query : String}
  {fault : Option QueryFault} {rows : List FtsRow} {ids : List String}

/-- What the search finds is in the index. -/
theorem mem_of_searchSessions (h : searchSessions ftsMatch query fault rows = .ok ids) :
    ∀ id ∈ ids, ∃ r ∈ rows, r.sessionId = id := by
  intro id hid
  unfold searchSessions at h
  split at h
  · cases h
    cases hid
  · cases fault with
    | some e => cases h
    | none =>
      cases h
      have hmem := List.mem_eraseDups.mp (List.mem_of_mem_take hid)
      obtain ⟨r, hr, rfl⟩ := List.mem_map.mp hmem
      exact ⟨r, (List.mem_filter.mp hr).1, rfl⟩

/-- **Whatever the search finds is there.** -/
theorem getSession_of_search (hdb : Consistent db) (hrows : rows.Perm db.fts)
    (h : searchSessions ftsMatch query fault rows = .ok ids) :
    ∀ id ∈ ids, ∃ s, getSession id none db = .ok (some s) ∧ s.id = id := by
  intro id hid
  obtain ⟨r, hr, rfl⟩ := mem_of_searchSessions h id hid
  have hentry : r.entry ∈ db.segments.map TranscriptSegment.entry :=
    hdb.index.subset (List.mem_map_of_mem (hrows.subset hr))
  obtain ⟨seg, hseg, heq⟩ := List.mem_map.mp hentry
  have hid : seg.sessionId = r.sessionId := congrArg Prod.fst heq
  obtain ⟨s, hs⟩ := Table.exists_lookup_iff.mpr (hid ▸ hdb.segments seg hseg)
  exact ⟨s, congrArg Except.ok hs, Table.col_of_lookup hs⟩

/-- Sessions that are all there are all returned. -/
theorem map_id_getSessions {getFault : String → Option String} {sessions : List VoiceSession}
    (hids : ∀ id ∈ ids, ∃ s, getSession id none db = .ok (some s) ∧ s.id = id)
    (h : getSessions getFault db ids = .ok sessions) : sessions.map VoiceSession.id = ids := by
  induction ids generalizing sessions with
  | nil =>
    cases h
    rfl
  | cons id ids ih =>
    obtain ⟨s, hs, hid⟩ := hids id List.mem_cons_self
    cases hf : getFault id with
    | some e =>
      rw [getSessions, hf] at h
      cases h
    | none =>
      rw [getSessions, hf, hs] at h
      cases hrest : getSessions getFault db ids with
      | error e =>
        rw [hrest] at h
        cases h
      | ok rest =>
        rw [hrest] at h
        cases h
        have htail := ih (fun id h ↦ hids id (List.mem_cons_of_mem _ h)) hrest
        rw [Option.toList_some, List.singleton_append, List.map_cons, hid, htail]

end Search

/-- **The tables fit together after every sequence of calls**, a deletion leaves nothing of a
session, and what the search finds is there, so that `meeting_search` drops no hit. -/
theorem consistent_and_complete (as : List DbCall) (db : VoiceDb)
    (hrun : Machine.exec dbStep .empty as = some db) :
    Consistent db ∧
      (∀ id faults db', deleteSession id faults db = .ok db' → ¬ db'.Mentions id) ∧
      ∀ (ftsMatch : String → String → Bool) (query : String) (fault : Option QueryFault)
        (rows : List FtsRow), rows.Perm db.fts →
        (∀ ids, searchSessions ftsMatch query fault rows = .ok ids →
          ∀ id ∈ ids, ∃ s, getSession id none db = .ok (some s) ∧ s.id = id) ∧
        ∀ getFault listing sessions, query ≠ "" →
          meetingSearch ftsMatch query fault getFault listing rows db = .ok sessions →
          searchSessions ftsMatch query fault rows = .ok (sessions.map VoiceSession.id) := by
  have hdb := consistent_of_exec hrun
  refine ⟨hdb, fun id faults db' h ↦ not_mentions_of_deleteSession h,
    fun ftsMatch query fault rows hrows ↦
      ⟨fun ids h ↦ getSession_of_search hdb hrows h, fun getFault listing sessions hq h ↦ ?_⟩⟩
  rw [meetingSearch, if_neg hq] at h
  cases hs : searchSessions ftsMatch query fault rows with
  | error e =>
    rw [hs] at h
    cases h
  | ok ids =>
    rw [hs] at h
    rw [map_id_getSessions (getSession_of_search hdb hrows hs) h]

/-- A session with a segment and notes, and the failed deletion of it. -/
def exampleCalls : List DbCall :=
  [.createSession "s" "Stand-up" "meeting" 10 none, .insertSegment "s" "hello" 0 900 "a" 20 .none,
    .upsertNotes "s" (some "mine") "b" 30 none,
    .deleteSession "s" ⟨none, none, some "disk I/O error", none⟩]

theorem consistent_and_complete_example :
    ∃ db, Machine.exec dbStep .empty exampleCalls = some db ∧ db.fts = [⟨"s", "hello"⟩] ∧
      Consistent db ∧
      (∀ id faults db', deleteSession id faults db = .ok db' → ¬ db'.Mentions id) ∧
      ∀ (ftsMatch : String → String → Bool) (query : String) (fault : Option QueryFault)
        (rows : List FtsRow), rows.Perm db.fts →
        (∀ ids, searchSessions ftsMatch query fault rows = .ok ids →
          ∀ id ∈ ids, ∃ s, getSession id none db = .ok (some s) ∧ s.id = id) ∧
        ∀ getFault listing sessions, query ≠ "" →
          meetingSearch ftsMatch query fault getFault listing rows db = .ok sessions →
          searchSessions ftsMatch query fault rows = .ok (sessions.map VoiceSession.id) := by
  obtain ⟨db, hrun, hfts⟩ : ∃ db, Machine.exec dbStep .empty exampleCalls = some db ∧
      db.fts = [⟨"s", "hello"⟩] := ⟨_, rfl, by decide⟩
  exact ⟨db, hrun, hfts, consistent_and_complete exampleCalls db hrun⟩

end WorkWithMe.Voice
