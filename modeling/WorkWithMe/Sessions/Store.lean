import WorkWithMe.Lib.JsonFile
import WorkWithMe.Server.AppState

/-!
# The session store

`Store` is what lies under `~/.pi/sessions`: the files `<id>.json` of that directory and of its
subdirectory `archive`, by id.  The functions are those of `server/sessions.rs`, and after them come
the endpoints of `sessions_endpoints.rs` and `agent_endpoints.rs` that create, replace or read
sessions.

What the environment contributes is passed in: the UUIDs that are drawn, the times, which id strings
`Uuid::parse_str` accepts (`parse`), and which file operations fail and with what message
(`JsonFile.Faults`).

* `setProjectStore` is the part of `set_project` that concerns the store; `setProject` is the whole.
* `loadSession_eq_ok_iff`, `updateSession_cases`, `archiveSession_cases` and
  `unarchiveSession_cases` say what the operations can do.
-/

set_option autoImplicit false

namespace WorkWithMe.Sessions

open JsonFile Server

/-! ## Files -/

/-- The session files. -/
structure Store where
  /-- The files of `sessions_dir`. -/
  active : SessionId → Option Contents
  /-- The files of `archive_dir`. -/
  archived : SessionId → Option Contents

/-- No files. -/
def Store.empty : Store where
  active _ := none
  archived _ := none

namespace Store

/-- Write the document of a session. -/
def write (st : Store) (id : SessionId) (v : Json) : Store :=
  { st with active := Function.update st.active id (some (.doc v)) }

/-- Move the file of a session into the archive. -/
def moveToArchive (st : Store) (id : SessionId) (c : Contents) : Store where
  active := Function.update st.active id none
  archived := Function.update st.archived id (some c)

/-- Move the file of a session out of the archive. -/
def moveFromArchive (st : Store) (id : SessionId) (c : Contents) : Store where
  active := Function.update st.active id (some c)
  archived := Function.update st.archived id none

section Frame

variable (st : Store) {id j : SessionId} (v : Json) (c : Contents)

@[simp] theorem active_write_self : (st.write id v).active id = some (.doc v) :=
  Function.update_self ..

@[simp] theorem active_write_of_ne (h : j ≠ id) : (st.write id v).active j = st.active j :=
  Function.update_of_ne h ..

@[simp] theorem archived_write : (st.write id v).archived = st.archived := rfl

@[simp] theorem active_moveToArchive_self : (st.moveToArchive id c).active id = none :=
  Function.update_self ..

@[simp] theorem active_moveToArchive_of_ne (h : j ≠ id) :
    (st.moveToArchive id c).active j = st.active j :=
  Function.update_of_ne h ..

@[simp] theorem archived_moveToArchive_self : (st.moveToArchive id c).archived id = some c :=
  Function.update_self ..

@[simp] theorem archived_moveToArchive_of_ne (h : j ≠ id) :
    (st.moveToArchive id c).archived j = st.archived j :=
  Function.update_of_ne h ..

@[simp] theorem active_moveFromArchive_self : (st.moveFromArchive id c).active id = some c :=
  Function.update_self ..

@[simp] theorem active_moveFromArchive_of_ne (h : j ≠ id) :
    (st.moveFromArchive id c).active j = st.active j :=
  Function.update_of_ne h ..

@[simp] theorem archived_moveFromArchive_self : (st.moveFromArchive id c).archived id = none :=
  Function.update_self ..

@[simp] theorem archived_moveFromArchive_of_ne (h : j ≠ id) :
    (st.moveFromArchive id c).archived j = st.archived j :=
  Function.update_of_ne h ..

end Frame

/-- What every file holds is as `P` says of its id. -/
def Holds (st : Store) (P : SessionId → Contents → Prop) : Prop :=
  ∀ id c, st.active id = some c ∨ st.archived id = some c → P id c

section Holds

variable {st : Store} {P : SessionId → Contents → Prop} {id : SessionId} {c : Contents} {v : Json}

theorem Holds.write (hst : st.Holds P) (hv : P id (.doc v)) : (st.write id v).Holds P := by
  intro j c hc
  rw [archived_write] at hc
  by_cases hj : j = id
  · subst hj
    rw [active_write_self] at hc
    obtain hc | hc := hc
    · exact Option.some.inj hc ▸ hv
    · exact hst j c (Or.inr hc)
  · rw [active_write_of_ne st v hj] at hc
    exact hst j c hc

theorem Holds.toArchive (hst : st.Holds P) (hc : st.active id = some c) :
    (st.moveToArchive id c).Holds P := by
  intro j d hd
  by_cases hj : j = id
  · subst hj
    rw [active_moveToArchive_self, archived_moveToArchive_self] at hd
    obtain hd | hd := hd
    · cases hd
    · exact Option.some.inj hd ▸ hst j c (Or.inl hc)
  · rw [active_moveToArchive_of_ne st c hj, archived_moveToArchive_of_ne st c hj] at hd
    exact hst j d hd

theorem Holds.fromArchive (hst : st.Holds P) (hc : st.archived id = some c) :
    (st.moveFromArchive id c).Holds P := by
  intro j d hd
  by_cases hj : j = id
  · subst hj
    rw [active_moveFromArchive_self, archived_moveFromArchive_self] at hd
    obtain hd | hd := hd
    · exact Option.some.inj hd ▸ hst j c (Or.inr hc)
    · cases hd
  · rw [active_moveFromArchive_of_ne st c hj, archived_moveFromArchive_of_ne st c hj] at hd
    exact hst j d hd

end Holds

end Store

/-! ## The operations -/

section Operations

-- the strings that `Uuid::parse_str` accepts
variable (parse : SessionId → Bool)

/-- `load_session`. -/
def loadSession (f : Faults) (id : SessionId) (st : Store) : Except String (Option Json) :=
  if parse id = false then .error "Invalid session ID format"
  else match st.active id with
    | none => .ok none
    | some c => (readFile f "Failed to read session: " "Invalid session JSON: " c).map some

/-- `create_session`: whatever the document is, it is written under the id that is drawn here. -/
def createSession (f : Faults) (uuid : Uuid) (created updated : String) (data : Json)
    (st : Store) : Except String SessionId × Store :=
  match f.dir, f.write with
  | some e, _ => (.error ("Failed to create sessions directory: " ++ e), st)
  | none, some e => (.error ("Failed to create session: " ++ e), st)
  | none, none =>
    (.ok uuid.text, st.write uuid.text (((data.insert "created_at" (.str created)).insert
      "updated_at" (.str updated)).insert "id" (.str uuid.text)))

/-- `update_session`. -/
def updateSession (f : Faults) (id : SessionId) (updated : String) (data : Json) (st : Store) :
    Except String Unit × Store :=
  if parse id = false then (.error "Invalid session ID format", st)
  else if st.active id = none then (.error ("Session not found: " ++ id), st)
  else match f.write with
    | some e => (.error ("Failed to update session: " ++ e), st)
    | none => (.ok (), st.write id (data.insert "updated_at" (.str updated)))

/-- What `archive_session` and `unarchive_session` share: the file is moved from one directory to
the other, if it is in the first. -/
def renameSession (file : Option Contents) (moved : Contents → Store) (noDir failed : String)
    (f : Faults) (id : SessionId) (st : Store) : Except String Bool × Store :=
  if parse id = false then (.error "Invalid session ID format", st)
  else match file with
    | none => (.ok false, st)
    | some c =>
      match f.dir, f.write with
      | some e, _ => (.error (noDir ++ e), st)
      | none, some e => (.error (failed ++ e), st)
      | none, none => (.ok true, moved c)

/-- `archive_session`. -/
def archiveSession (f : Faults) (id : SessionId) (st : Store) : Except String Bool × Store :=
  renameSession parse (st.active id) (st.moveToArchive id) "Failed to create archive directory: "
    "Failed to archive session: " f id st

/-- `unarchive_session`. -/
def unarchiveSession (f : Faults) (id : SessionId) (st : Store) : Except String Bool × Store :=
  renameSession parse (st.archived id) (st.moveFromArchive id)
    "Failed to create sessions directory: " "Failed to unarchive session: " f id st

end Operations

/-! ## What the operations can do -/

section Cases

variable {parse : SessionId → Bool} {f : Faults} {id : SessionId} {st : Store}

theorem loadSession_eq_ok_iff {v : Json} : loadSession parse f id st = .ok (some v) ↔
    parse id = true ∧ f.read = none ∧ st.active id = some (.doc v) := by
  rw [loadSession]
  by_cases hparse : parse id = true
  · rw [if_neg (by simp [hparse])]
    cases st.active id with
    | none => simp
    | some c => simp [readFile_map_some_eq_ok_iff, hparse]
  · rw [if_pos (by simpa using hparse)]
    simp [hparse]

variable (parse f id st)

/-- **What `update_session` can do**: write the document with its new time over the one that is
there, or nothing. -/
theorem updateSession_cases (updated : String) (data : Json) :
    (parse id = true ∧ st.active id ≠ none ∧ f.write = none ∧
        updateSession parse f id updated data st =
          (.ok (), st.write id (data.insert "updated_at" (.str updated)))) ∨
      (¬ (parse id = true ∧ st.active id ≠ none ∧ f.write = none) ∧
        ∃ e, updateSession parse f id updated data st = (.error e, st)) := by
  rw [updateSession]
  by_cases hparse : parse id = true
  · rw [if_neg (by simp [hparse])]
    by_cases hsome : st.active id = none
    · rw [if_pos hsome]
      exact Or.inr ⟨fun h ↦ h.2.1 hsome, _, rfl⟩
    · rw [if_neg hsome]
      cases f.write with
      | some e => exact Or.inr ⟨by simp, _, rfl⟩
      | none => exact Or.inl ⟨hparse, hsome, rfl, rfl⟩
  · rw [if_pos (by simpa using hparse)]
    exact Or.inr ⟨fun h ↦ hparse h.1, _, rfl⟩

theorem renameSession_cases (file : Option Contents) (moved : Contents → Store)
    (noDir failed : String) :
    (∃ r, r ≠ .ok true ∧ renameSession parse file moved noDir failed f id st = (r, st)) ∨
      ∃ c, parse id = true ∧ file = some c ∧
        renameSession parse file moved noDir failed f id st = (.ok true, moved c) := by
  unfold renameSession
  by_cases hparse : parse id = true
  · rw [if_neg (by simp [hparse])]
    cases file with
    | none => exact Or.inl ⟨_, by simp, rfl⟩
    | some c =>
      cases f.dir with
      | some e => exact Or.inl ⟨_, by simp, rfl⟩
      | none =>
        cases f.write with
        | some e => exact Or.inl ⟨_, by simp, rfl⟩
        | none => exact Or.inr ⟨c, hparse, rfl, rfl⟩
  · rw [if_pos (by simpa using hparse)]
    exact Or.inl ⟨_, by simp, rfl⟩

/-- When a file is moved. -/
theorem renameSession_of_faultless {file : Option Contents} (moved : Contents → Store)
    (noDir failed : String) (hparse : parse id = true) (hdir : f.dir = none)
    (hwrite : f.write = none) {c : Contents} (hfile : file = some c) :
    renameSession parse file moved noDir failed f id st = (.ok true, moved c) := by
  unfold renameSession
  rw [if_neg (by simp [hparse]), hfile, hdir, hwrite]

theorem archiveSession_of_faultless (hparse : parse id = true) (hdir : f.dir = none)
    (hwrite : f.write = none) {c : Contents} (hc : st.active id = some c) :
    archiveSession parse f id st = (.ok true, st.moveToArchive id c) :=
  renameSession_of_faultless parse f id st _ _ _ hparse hdir hwrite hc

theorem unarchiveSession_of_faultless (hparse : parse id = true) (hdir : f.dir = none)
    (hwrite : f.write = none) {c : Contents} (hc : st.archived id = some c) :
    unarchiveSession parse f id st = (.ok true, st.moveFromArchive id c) :=
  renameSession_of_faultless parse f id st _ _ _ hparse hdir hwrite hc

/-- A file is moved only so. -/
theorem faultless_of_renameSession {file : Option Contents} {moved : Contents → Store}
    {noDir failed : String}
    (h : (renameSession parse file moved noDir failed f id st).1 = .ok true) :
    parse id = true ∧ f.dir = none ∧ f.write = none ∧ file ≠ none := by
  unfold renameSession at h
  split at h
  · cases h
  · rename_i hparse
    split at h
    · cases h
    · split at h
      · cases h
      · cases h
      · rename_i hdir hwrite
        exact ⟨by simpa using hparse, hdir, hwrite, Option.some_ne_none _⟩

/-- **What `archive_session` can do**: move the file into the archive, or nothing. -/
theorem archiveSession_cases :
    (∃ r, r ≠ .ok true ∧ archiveSession parse f id st = (r, st)) ∨
      ∃ c, parse id = true ∧ st.active id = some c ∧
        archiveSession parse f id st = (.ok true, st.moveToArchive id c) :=
  renameSession_cases parse f id st _ _ _ _

/-- **What `unarchive_session` can do**: move the file out of the archive, or nothing. -/
theorem unarchiveSession_cases :
    (∃ r, r ≠ .ok true ∧ unarchiveSession parse f id st = (r, st)) ∨
      ∃ c, parse id = true ∧ st.archived id = some c ∧
        unarchiveSession parse f id st = (.ok true, st.moveFromArchive id c) :=
  renameSession_cases parse f id st _ _ _ _

/-- **What `create_session` can do**: write the document under the new id, or nothing. -/
theorem createSession_cases (uuid : Uuid) (created updated : String) (data : Json) :
    (f.dir = none ∧ f.write = none ∧ createSession f uuid created updated data st =
        (.ok uuid.text, st.write uuid.text (((data.insert "created_at" (.str created)).insert
          "updated_at" (.str updated)).insert "id" (.str uuid.text)))) ∨
      (¬ (f.dir = none ∧ f.write = none) ∧
        ∃ e, createSession f uuid created updated data st = (.error e, st)) := by
  rw [createSession]
  cases f.dir with
  | some e => exact Or.inr ⟨by simp, _, rfl⟩
  | none =>
    cases f.write with
    | some e => exact Or.inr ⟨by simp, _, rfl⟩
    | none => exact Or.inl ⟨rfl, rfl, rfl⟩

end Cases

/-! ## The endpoints -/

section Endpoints

variable (parse : SessionId → Bool)

/-- `create` of `sessions_endpoints.rs`. -/
def create (f : Faults) (uuid : Uuid) (created updated : String) (data : Json) (st : Store) :
    Response × Store :=
  match createSession f uuid created updated data st with
  | (.ok id, st) => (⟨201, .obj [("success", .bool true), ("id", .str id)]⟩, st)
  | (.error e, st) => (failure 500 e, st)

/-- `update` of `sessions_endpoints.rs`. -/
def update (f : Faults) (id : SessionId) (updated : String) (data : Json) (st : Store) :
    Response × Store :=
  match updateSession parse f id updated data st with
  | (.ok _, st) => (⟨200, .obj [("success", .bool true)]⟩, st)
  | (.error e, st) => (failure 500 e, st)

/-- `archive` of `sessions_endpoints.rs`. -/
def archive (f : Faults) (id : SessionId) (st : Store) : Response × Store :=
  match archiveSession parse f id st with
  | (.ok true, st) => (⟨200, .obj [("success", .bool true), ("archived", .bool true)]⟩, st)
  | (.ok false, st) => (failure 200 "Session not found", st)
  | (.error e, st) => (failure 200 e, st)

/-- `archive_by_path`, for the id that `set_archived_by_path` takes from the path. -/
def archiveByPath (f : Faults) (id : SessionId) (archived : Bool) (st : Store) : Response × Store :=
  match if archived then archiveSession parse f id st else unarchiveSession parse f id st with
  | (.ok true, st) => (⟨200, .obj [("success", .bool true)]⟩, st)
  | (.ok false, st) => (failure 404 "Session not found", st)
  | (.error e, st) => (failure 500 e, st)

/-- `load_session_by_path`, for the path of a session file and what the file there holds. -/
def loadSessionByPath (f : Faults) (path : String) (inArchive : Bool) (file : Option Contents) :
    Except String (Option Json) :=
  match file with
  | none => .error ("Session file not found: " ++ path)
  | some c => (readFile f "Failed to read session: " "Invalid session JSON: " c).map fun v ↦
    let v := v.insert "path" (.str path)
    some (if (v.get "archived").isSome then v else v.insert "archived" (.bool inArchive))

/-- The directory that `load` reads from a document. -/
def loadedCwd (v : Json) : String :=
  (((v.get "cwd").or (v.get "working_directory")).bind Json.asStr).getD ""

/-- `load` of `sessions_endpoints.rs`. -/
def load (f : Faults) (path : String) (inArchive : Bool) (file : Option Contents) : Response :=
  match loadSessionByPath f path inArchive file with
  | .ok (some v) =>
    ⟨200, .obj [("success", .bool true),
      ("sessionId", .str (((v.get "id").bind Json.asStr).getD "")),
      ("messages", (v.get "messages").getD (.arr [])),
      ("toolExecutions", ((v.get "toolExecutions").or (v.get "tool_executions")).getD (.arr [])),
      ("cwd", .str (loadedCwd v))]⟩
  | .ok none => failure 404 "Session not found"
  | .error e => failure 400 e

/-- The label of a new session: the one that was generated, or the beginning of its id. -/
def newLabel (label : Option String) (uuid : Uuid) : String :=
  label.getD ("session-" ++ String.ofList (uuid.text.toList.take 8))

/-- The document of `agent_endpoints::create_session`. -/
def agentSession (uuid : Uuid) (label : Option String) (now : String) (metadata : Option Json) :
    Json :=
  .obj [("id", .str uuid.text), ("created_at", .str now), ("updated_at", .str now),
    ("messages", .arr []),
    ("metadata", (metadata.getD (.obj [])).insert "label" (.str (newLabel label uuid)))]

/-- `create_session` of `agent_endpoints.rs`: it draws an id of its own, `create_session` of
`sessions.rs` draws another one, and the answer carries the first. -/
def createAgentSession (f : Faults) (uuid fileUuid : Uuid) (label : Option String)
    (now created updated : String) (metadata : Option Json) (st : Store) : Response × Store :=
  match createSession f fileUuid created updated (agentSession uuid label now metadata) st with
  | (.ok _, st) =>
    (⟨201, .obj [("success", .bool true), ("session", agentSession uuid label now metadata)]⟩, st)
  | (.error e, st) => (failure 500 e, st)

/-- The body of `POST /api/project`. -/
structure SetProjectRequest where
  /-- The directory. -/
  cwd : String
  /-- The session, or nothing for a new one. -/
  sessionId : Option SessionId

/-- The document of a session that `set_project` has not found. -/
def freshSession (uuid : Uuid) (now : String) : Json :=
  .obj [("id", .str uuid.text), ("created_at", .str now), ("updated_at", .str now),
    ("messages", .arr []), ("metadata", .obj [])]

/-- The document that `set_project` starts from: anything but a session that can be loaded counts as
one that does not exist. -/
def projectBase (f : Faults) (uuid : Uuid) (now : String) (req : SetProjectRequest) (st : Store) :
    Json :=
  match req.sessionId with
  | some sid =>
    match loadSession parse f sid st with
    | .ok (some v) => v
    | _ => freshSession uuid now
  | none => freshSession uuid now

/-- The document with the directory in its metadata. -/
def withProjectCwd (cwd : String) (v : Json) : Json :=
  match v.get "metadata" with
  | some m => v.insert "metadata" (m.insert "cwd" (.str cwd))
  | none => v.insert "metadata" (.obj [("cwd", .str cwd)])

/-- What `set_project` does to the store, and the id it answers with.  The outcome of
`update_session` is ignored. -/
def setProjectStore (f : Faults) (uuid fileUuid : Uuid) (now created updated : String)
    (req : SetProjectRequest) (st : Store) : Except String SessionId × Store :=
  match req.sessionId with
  | some sid =>
    (.ok sid, (updateSession parse f sid updated
      (withProjectCwd req.cwd (projectBase parse f uuid now req st)) st).2)
  | none =>
    createSession f fileUuid created updated
      (withProjectCwd req.cwd (projectBase parse f uuid now req st)) st

/-- `set_project`. -/
def setProject (f : Faults) (uuid fileUuid : Uuid) (now created updated : String)
    (req : SetProjectRequest) (app : AppState) (st : Store) : Response × AppState × Store :=
  match setProjectStore parse f uuid fileUuid now created updated req st with
  | (.ok sid, st) =>
    (⟨201, .obj [("success", .bool true), ("sessionId", .str sid), ("cwd", .str req.cwd)]⟩,
      setProjectTables app sid req.cwd, st)
  | (.error e, st) => (failure 500 e, app, st)

/-- What the environment contributes to one call. -/
structure Env where
  /-- The file operations that fail. -/
  faults : Faults
  /-- The UUID that the endpoint draws. -/
  uuid : Uuid
  /-- The UUID that `create_session` of `sessions.rs` draws. -/
  fileUuid : Uuid
  /-- The time that the endpoint reads. -/
  now : String
  /-- The time that goes into `created_at`. -/
  created : String
  /-- The time that goes into `updated_at`. -/
  updated : String
  /-- The label that was generated, if there is a key for it. -/
  label : Option String

/-- A call for which all goes well, and which draws two UUIDs. -/
def exampleEnv : Env where
  faults := .none
  uuid := ⟨"11111111-1111-4111-8111-111111111111", by decide⟩
  fileUuid := ⟨"22222222-2222-4222-8222-222222222222", by decide⟩
  now := "now"
  created := "now"
  updated := "now"
  label := none

/-- A call that writes to the store. -/
inductive StoreCall where
  /-- `POST /api/sessions`. -/
  | create (data : Json)
  /-- `POST /api/agent/session`. -/
  | createAgentSession (metadata : Option Json)
  /-- `PUT /api/sessions/{id}`. -/
  | update (id : SessionId) (data : Json)
  /-- `POST /api/project`. -/
  | setProject (req : SetProjectRequest)
  /-- `POST /api/sessions/{id}/archive`. -/
  | archive (id : SessionId)
  /-- `POST /api/sessions/archive`, into the archive or out of it. -/
  | archiveByPath (id : SessionId) (archived : Bool)

/-- Answer one call. -/
def serve (env : Env) (app : AppState) (st : Store) : StoreCall → Response × AppState × Store
  | .create data =>
    let r := create env.faults env.fileUuid env.created env.updated data st
    (r.1, app, r.2)
  | .createAgentSession metadata =>
    let r := createAgentSession env.faults env.uuid env.fileUuid env.label env.now env.created
      env.updated metadata st
    (r.1, app, r.2)
  | .update id data =>
    let r := update parse env.faults id env.updated data st
    (r.1, app, r.2)
  | .setProject req =>
    setProject parse env.faults env.uuid env.fileUuid env.now env.created env.updated req app st
  | .archive id =>
    let r := archive parse env.faults id st
    (r.1, app, r.2)
  | .archiveByPath id archived =>
    let r := archiveByPath parse env.faults id archived st
    (r.1, app, r.2)

/-- The id in the answer to a call that created a session, which says `CREATED`: `create` puts it
under `id`, `set_project` under `sessionId` and `create_session` into the session. -/
def createdId (r : Response) : Option SessionId :=
  if r.status = 201 then
    (((r.body.get "id").or (r.body.get "sessionId")).or
      ((r.body.get "session").bind fun v ↦ v.get "id")).bind Json.asStr
  else none

/-- The label of a session is there and is not empty. -/
def alreadyLabelled (v : Json) : Bool :=
  match ((v.get "metadata").bind fun m ↦ m.get "label").bind Json.asStr with
  | some label => label ≠ ""
  | none => false

/-- The document with a label, if its metadata is an object. -/
def withLabel (label : String) (v : Json) : Json :=
  match v.get "metadata" with
  | some m => v.insert "metadata" (m.insert "label" (.str label))
  | none => v

/-- The label step of `handle_prompt`. -/
def labelStep (f : Faults) (id : SessionId) (label updated : String) (st : Store) : Store :=
  match loadSession parse f id st with
  | .ok (some v) =>
    if alreadyLabelled v then st else (updateSession parse f id updated (withLabel label v) st).2
  | _ => st

end Endpoints

/-! ## What the endpoints do to the store -/

section EndpointStores

variable (parse : SessionId → Bool) (f : Faults) (uuid fileUuid : Uuid) (id : SessionId)
  (now created updated : String) (data : Json) (st : Store)

theorem create_store : (create f uuid created updated data st).2 =
    (createSession f uuid created updated data st).2 := by
  rw [create]
  split <;> simp only [*]

theorem createAgentSession_store (label : Option String) (metadata : Option Json) :
    (createAgentSession f uuid fileUuid label now created updated metadata st).2 =
      (createSession f fileUuid created updated (agentSession uuid label now metadata) st).2 := by
  rw [createAgentSession]
  split <;> simp only [*]

theorem update_store : (update parse f id updated data st).2 =
    (updateSession parse f id updated data st).2 := by
  rw [update]
  split <;> simp only [*]

theorem archive_store : (archive parse f id st).2 = (archiveSession parse f id st).2 := by
  rw [archive]
  split <;> simp only [*]

theorem archiveByPath_store (archived : Bool) : (archiveByPath parse f id archived st).2 =
    (if archived then archiveSession parse f id st else unarchiveSession parse f id st).2 := by
  rw [archiveByPath]
  split <;> simp only [*]

theorem setProject_store (req : SetProjectRequest) (app : AppState) :
    (setProject parse f uuid fileUuid now created updated req app st).2.2 =
      (setProjectStore parse f uuid fileUuid now created updated req st).2 := by
  rw [setProject]
  split <;> simp only [*]

end EndpointStores

theorem projectBase_of_load {parse : SessionId → Bool} {f : Faults} {sid : SessionId} {st : Store}
    {v : Json} (h : loadSession parse f sid st = .ok (some v)) (uuid : Uuid) (now cwd : String) :
    projectBase parse f uuid now ⟨cwd, some sid⟩ st = v := by
  simp [projectBase, h]

/-- A session that cannot be loaded counts as one that does not exist. -/
theorem projectBase_of_not_load {parse : SessionId → Bool} {f : Faults} {sid : SessionId}
    {st : Store} (h : ∀ v, loadSession parse f sid st ≠ .ok (some v)) (uuid : Uuid)
    (now cwd : String) :
    projectBase parse f uuid now ⟨cwd, some sid⟩ st = freshSession uuid now := by
  cases hload : loadSession parse f sid st with
  | error e => simp [projectBase, hload]
  | ok found =>
    cases found with
    | none => simp [projectBase, hload]
    | some v => exact absurd hload (h v)

/-! ## What the answers say -/

theorem createdId_failure (status : ℕ) (e : String) : createdId (failure status e) = none := by
  rw [createdId]
  split <;> rfl

/-- The directory does not depend on other members. -/
theorem loadedCwd_insert (v : Json) {k : String} (hcwd : "cwd" ≠ k) (hdir : "working_directory" ≠ k)
    (w : Json) : loadedCwd (v.insert k w) = loadedCwd v := by
  rw [loadedCwd, Json.get_insert_of_ne v hcwd, Json.get_insert_of_ne v hdir, loadedCwd]

/-- What `load` answers for the directory. -/
theorem get_load_cwd {path : String} {inArchive : Bool} {file : Option Contents} {cwd : String} :
    (load .none path inArchive file).body.get "cwd" = some (.str cwd) ↔
      ∃ v, file = some (.doc v) ∧ loadedCwd v = cwd := by
  obtain _ | v | e := file
  · have hbody : (load .none path inArchive none).body.get "cwd" = none := rfl
    simp [hbody]
  · -- the members that are added are not the ones that are read
    obtain ⟨v', hload, hcwd⟩ : ∃ v', loadSessionByPath .none path inArchive (some (.doc v)) =
        .ok (some v') ∧ loadedCwd v' = loadedCwd v := by
      refine ⟨_, rfl, ?_⟩
      split
      · exact loadedCwd_insert v (by decide) (by decide) _
      · rw [loadedCwd_insert _ (by decide) (by decide), loadedCwd_insert _ (by decide) (by decide)]
    have hbody : (load .none path inArchive (some (.doc v))).body.get "cwd" =
        some (.str (loadedCwd v)) := by
      rw [load, hload, ← hcwd]
      rfl
    simp [hbody]
  · have hbody : (load .none path inArchive (some (.garbled e))).body.get "cwd" = none := rfl
    simp [hbody]

/-! ## What the documents keep -/

@[simp] theorem isObject_withProjectCwd (cwd : String) (v : Json) :
    (withProjectCwd cwd v).isObject = v.isObject := by
  rw [withProjectCwd]
  split <;> exact Json.isObject_insert ..

/-- The directory goes into the metadata and nowhere else. -/
theorem get_withProjectCwd (cwd : String) (v : Json) {k : String} (hk : k ≠ "metadata") :
    (withProjectCwd cwd v).get k = v.get k := by
  rw [withProjectCwd]
  split <;> exact Json.get_insert_of_ne v hk _

/-- The label goes into the metadata and nowhere else. -/
theorem get_withLabel (label : String) (v : Json) {k : String} (hk : k ≠ "metadata") :
    (withLabel label v).get k = v.get k := by
  rw [withLabel]
  split
  · exact Json.get_insert_of_ne v hk _
  · rfl

end WorkWithMe.Sessions
