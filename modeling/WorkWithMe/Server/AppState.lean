import Mathlib.Logic.Function.Basic
import WorkWithMe.Lib.Json

/-!
# The application state and the handlers that read or write it in one go

`AppState` is the struct of `server/mod.rs`: four tables keyed by session id, shared by every HTTP
handler and every WebSocket connection.  Each of them sits behind a lock of its own that is held
for one read or one write only, so a handler that touches two tables does so in two steps.  This
file has the pieces that are one step each, or whose steps nothing can come between in a way that
matters to them; `WorkWithMe.Server.Hub` interleaves the rest.

* A `PiSessionHandle` is an `Arc` around a mutex around a pi session, so what it is is its
  identity: the call that created it, with the options the session was created with.
* `sessionOptions` is the part of `create_pi_session` in front of its `await`.
* `setModel`, `stopAgent` and `getProject` are the endpoints of those names, and `setProjectTables`
  is the part of `set_project` that concerns the tables.
-/

set_option autoImplicit false

namespace WorkWithMe.Server

/-! ## Identifiers -/

/-- The id of a chat session. -/
abbrev SessionId := String

/-- One call of a handler. -/
abbrev CallId := ℕ

/-- One WebSocket connection. -/
abbrev ConnId := ℕ

/-- The spelling of a UUID: 32 lower-case hexadecimal digits in five groups joined by hyphens. -/
def isHyphenated (s : String) : Bool :=
  s.toList.length == 36 && s.toList.zipIdx.all fun (c, i) ↦
    if i ∈ [8, 13, 18, 23] then c == '-' else "0123456789abcdef".toList.contains c

/-- What `Uuid::new_v4().to_string()` returns. -/
structure Uuid where
  /-- The text of the identifier. -/
  text : String
  /-- It has the form of one. -/
  hyphenated : isHyphenated text = true

theorem Uuid.text_ne_empty (u : Uuid) : u.text ≠ "" := by
  intro h
  have hu := u.hyphenated
  rw [h] at hu
  exact absurd hu (by decide)

/-! ## The tables -/

/-- The fields of `SessionOptions` that `create_pi_session` sets; the others keep their
defaults. -/
structure SessionOptions where
  /-- The key or token for the provider. -/
  apiKey : Option String
  /-- The provider, when a model was chosen. -/
  provider : Option String
  /-- The model, when one was chosen. -/
  model : Option String
  /-- The directory the agent is locked down to. -/
  workingDirectory : Option String
  /-- Whether the session is kept from being persisted. -/
  noSession : Bool
  deriving DecidableEq

/-- A handle of a pi session: the call that created it, and what it created it with. -/
structure PiSessionHandle where
  /-- The call of `create_pi_session` that created the session. -/
  creator : CallId
  /-- The options the session was created with. -/
  options : SessionOptions
  deriving DecidableEq

/-- The tables of `AppState`.  An abort handle is the run it aborts. -/
structure AppState where
  /-- Active pi agent sessions keyed by session id. -/
  sessionHandles : SessionId → Option PiSessionHandle
  /-- Abort handles for in-flight prompts. -/
  abortHandles : SessionId → Option CallId
  /-- Working directory per session. -/
  sessionCwd : SessionId → Option String
  /-- Session-scoped model override: provider and model id. -/
  sessionModel : SessionId → Option (String × String)

/-- `AppState::new`: all tables empty. -/
def AppState.new : AppState where
  sessionHandles _ := none
  abortHandles _ := none
  sessionCwd _ := none
  sessionModel _ := none

/-! ## Creating a pi session -/

section Create

-- `resolve_session_auth_token`, which asks the keychain and the environment
variable (authToken : String → Option String)

/-- The model override that applies to a session: its own entry, else the global one. -/
def resolveModel (app : AppState) (sessionId : SessionId) : Option (String × String) :=
  (app.sessionModel sessionId).or (app.sessionModel "__global__")

/-- The options `create_pi_session` creates a session with. -/
def sessionOptions (app : AppState) (sessionId : SessionId) (cwd : String) : SessionOptions where
  apiKey := authToken (((resolveModel app sessionId).map Prod.fst).getD "anthropic")
  provider := (resolveModel app sessionId).map Prod.fst
  model := (resolveModel app sessionId).map Prod.snd
  workingDirectory := if cwd = "" then none else some cwd
  noSession := false

end Create

/-! ## The endpoints -/

/-- What an endpoint answers with: a status code and a JSON body. -/
structure Response where
  /-- The HTTP status code. -/
  status : ℕ
  /-- The body. -/
  body : Json

/-- The answer of an endpoint that failed. -/
def failure (status : ℕ) (message : String) : Response :=
  ⟨status, .obj [("success", .bool false), ("error", .str message)]⟩

/-- The body of `POST /api/model`. -/
structure SetModelRequest where
  /-- The provider. -/
  provider : String
  /-- The model. -/
  modelId : String
  /-- The session, or nothing for the global default. -/
  sessionId : Option SessionId

/-- The key under which `set_model` stores a choice. -/
def SetModelRequest.key (req : SetModelRequest) : SessionId := req.sessionId.getD "__global__"

/-- `set_model`.  A model the registry does not know is accepted like any other. -/
def setModel (req : SetModelRequest) (app : AppState) : Response × AppState :=
  (⟨200, .obj [("success", .bool true), ("provider", .str req.provider),
      ("model_id", .str req.modelId)]⟩,
    { app with
      sessionModel := Function.update app.sessionModel req.key
        (some (req.provider, req.modelId)) })

/-- The session id that `stop_agent` reads from its body. -/
def stopSession (body : Json) : SessionId := ((body.get "sessionId").bind Json.asStr).getD ""

/-- `stop_agent`: the answer, and the run whose abort handle it fires. -/
def stopAgent (body : Json) (app : AppState) : Response × Option CallId :=
  if stopSession body = "" then
    (⟨400, .obj [("success", .bool false), ("error", .str "sessionId required")]⟩, none)
  else
    (⟨200, .obj [("success", .bool true),
      ("aborted", .bool (app.abortHandles (stopSession body)).isSome)]⟩,
      app.abortHandles (stopSession body))

/-- `get_project`: the directory of a session, or that of the process when no session is named. -/
def getProject (processCwd : Option String) (sessionId : Option SessionId) (app : AppState) :
    Json :=
  .obj [("cwd", .str (match sessionId with
    | some sid => (app.sessionCwd sid).getD "/"
    | none => processCwd.getD "/"))]

/-- What `set_project` does to the tables once it has saved the session. -/
def setProjectTables (app : AppState) (s : SessionId) (cwd : String) : AppState :=
  { app with
    sessionCwd := Function.update app.sessionCwd s (some cwd)
    sessionHandles := Function.update app.sessionHandles s none }

/-- A request to stop a session. -/
def stopRequest (sessionId : SessionId) : Json := .obj [("sessionId", .str sessionId)]

@[simp] theorem stopSession_stopRequest (s : SessionId) : stopSession (stopRequest s) = s := by
  simp [stopSession, stopRequest]

/-- With an entry in the table, a request to stop the session fires it. -/
theorem stopAgent_of_abortHandles {app : AppState} {s : SessionId} {c : CallId} (hs : s ≠ "")
    (h : app.abortHandles s = some c) :
    stopAgent (stopRequest s) app =
      (⟨200, .obj [("success", .bool true), ("aborted", .bool true)]⟩, some c) := by
  rw [stopAgent, stopSession_stopRequest, if_neg hs, h]
  rfl

end WorkWithMe.Server
