import Mathlib.Algebra.Group.Nat.Defs
import WorkWithMe.Client.Transcript
import WorkWithMe.Lib.Machine
import WorkWithMe.Server.Call

/-!
# The front end and its connection

The two ends of the WebSocket as one machine: `WebSocketContext.tsx` with its reconnects, the parts
of `ChatContext.tsx` and `SessionContext.tsx` that send something or change the session, and
`handle_socket` of `ws.rs`, which serves one message after the other.  A message waits in `up` until
the handler of the one before it has returned; what the server sends waits in `down`.

When the connection is lost, what is in either of them is lost, and so is the handler to the client:
on the next connection there is a new one.  The effect that joins a session when the session or the
connection has changed is part of the step that changes it.  Requests over HTTP are not in the two
queues; of them there are the ends of `handleStop` and of `loadSession`.

A run is a call of `handle_prompt` from when the prompt is read until `prompt_complete` is sent.
The label comes after it, and the next message only then.

`CharTable` has what `validate_ws_message` looks up, and `toLowercase` is `str::to_lowercase`.
-/

set_option autoImplicit false

namespace WorkWithMe.Client

open Server Machine

/-! ## The two ends -/

/-- The socket of the client. -/
inductive Socket where
  | connecting
  | opened
  /-- Closed, until the next attempt in so many milliseconds. -/
  | waiting (delay : ℕ)
  deriving DecidableEq

/-- What the server does for the connection. -/
inductive Serving where
  /-- It waits for a message. -/
  | idle
  /-- `handle_new_chat` creates the pi session. -/
  | creating (sid : SessionId) (cwd : String)
  /-- `handle_prompt` creates the pi session, if there is none. -/
  | opening (sid : SessionId)
  /-- `handle_prompt` forwards the events of the run. -/
  | running (sid : SessionId)
  /-- `handle_prompt` makes a label. -/
  | labelling (sid : SessionId)
  /-- It reads no more. -/
  | stopped
  deriving DecidableEq

/-- The session of the run that has not ended. -/
def Serving.run : Serving → Option SessionId
  | .opening sid | .running sid => some sid
  | _ => none

namespace Connection

structure State where
  chat : Chat
  currentSessionId : Option SessionId
  socket : Socket
  reconnectAttempts : ℕ
  /-- The error of the connection. -/
  error : Option String
  /-- How many requests of `loadSession` have not been answered. -/
  loading : ℕ
  /-- How many requests of `handleStop` have not been answered. -/
  stopping : ℕ
  /-- What is on its way to the server. -/
  up : List Outgoing
  /-- What is on its way to the client. -/
  down : List Json
  serving : Serving

/-- The front end when it starts. -/
def init : State where
  chat := .init
  currentSessionId := none
  socket := .connecting
  reconnectAttempts := 0
  error := none
  loading := 0
  stopping := 0
  up := []
  down := []
  serving := .idle

inductive Action where
  /-- `onopen`. -/
  | opened
  /-- `onclose`, of a connection or of an attempt. -/
  | closed
  /-- The timeout after which `connectWs` is called again. -/
  | reconnect
  | submit (c : Clock) (input : String) (attachments : List Image)
  /-- `createSession` -/
  | createSession (cwd : Option String)
  /-- `handleStop`, up to the request. -/
  | handleStop
  /-- The rest of it. -/
  | stopped (result : Except String Unit)
  /-- `loadSession`, up to the request. -/
  | loadSession
  /-- The rest of it. -/
  | loaded (result : Except String LoadedSession)
  /-- A timeout of the tool status goes off. -/
  | timeout (i : ℕ)
  /-- The next message for the client arrives. -/
  | deliver (c : Clock)
  /-- The server reads the next message, of so many bytes; `u` is the id of a session that it makes
  for it. -/
  | serve (size : ℕ) (u : Uuid)
  /-- The pi session of a new chat has been created. -/
  | created
  | createFailed (e : String)
  /-- The run of a prompt has its pi session. -/
  | ready
  | openFails (e : String)
  /-- The agent reports an event. -/
  | forward (e : AgentEvent)
  /-- The run ends. -/
  | finish (error : Option String)
  | label (text : Option String)

/-! ## The client -/

section Client

variable (s : State)

/-- `wsSend`. -/
def State.send (m : Outgoing) : State :=
  if s.socket = .opened then { s with up := s.up ++ [m] } else s

/-- The effect that joins the current session. -/
def State.join : State :=
  match s.currentSessionId with
  | some sid => if sid = "" then s else s.send (.join sid)
  | none => s

/-- `setCurrentSessionId`, with the effect if the session is another one. -/
def State.setCurrentSessionId (sid : Option SessionId) : State :=
  if sid = s.currentSessionId then s else { s with currentSessionId := sid }.join

/-- `onopen`. -/
def State.onOpen : State :=
  { s with
    socket := .opened, reconnectAttempts := 0, error := none
    up := [.newChat none], down := [], serving := .idle }.join

/-- The most attempts without an error. -/
def maxReconnectAttempts : ℕ := 5

/-- `onclose`. -/
def State.onClose : State :=
  { s with
    socket := .waiting (min (1000 * 2 ^ s.reconnectAttempts) 30000)
    reconnectAttempts := s.reconnectAttempts + 1
    error :=
      if maxReconnectAttempts ≤ s.reconnectAttempts then
        some ("Still trying to reach the backend server — port 4242 may be in use by another " ++
          "application. Try quitting and restarting WorkWithMe if this persists.")
      else s.error
    up := [], down := [], serving := .idle }

/-- `handleSubmit`. -/
def State.submit (c : Clock) (input : String) (attachments : List Image) : State :=
  let t := { s with chat := s.chat.submit c input attachments (s.socket = .opened) }
  match handleSubmit s.chat.isProcessing input attachments with
  | some m => t.send (.submitted m s.currentSessionId)
  | none => t

/-- The rest of `loadSession`. -/
def State.loaded (result : Except String LoadedSession) : State :=
  let t := { s with chat := s.chat.loaded result, loading := s.loading - 1 }
  match result with
  | .ok data =>
    if data.success then
      let t := if data.sessionId.getD "" = "" then t else t.send (.join (data.sessionId.getD ""))
      t.setCurrentSessionId data.sessionId
    else t
  | .error _ => t

/-- `onmessage`. -/
def State.onMessage (c : Clock) (v : Json) : State :=
  let t := { s with chat := s.chat.onMessage c v }
  match readEvent v with
  | some (.chatCleared sid) => t.setCurrentSessionId (some sid)
  | _ => t

end Client

/-! ## The server -/

section Server

variable (s : State)

/-- Send some messages to the client. -/
def State.reply (vs : List Json) : State := { s with down := s.down ++ vs }

/-- `dispatch_message`; `u` is the id of a session that it makes. -/
def State.dispatch (u : Uuid) (msg : Envelope) : State :=
  match route msg.type with
  | .join => s.reply [(Reply.joinAck msg.sessionId).toJson]
  | .newChat => { s with serving := .creating u.text msg.cwd }
  | .prompt =>
    if msg.userText = "" then s.reply [(Reply.error "prompt requires non-empty text").toJson]
    else if msg.sessionId = "" then
      { s.reply [(Frame.chatCleared u.text "").toJson] with serving := .opening u.text }
    else { s with serving := .opening msg.sessionId }
  | .steer => s.reply [(Reply.steerAck msg.sessionId).toJson]
  -- the client sends none of these here
  | .approval => s
  | .unknown => s.reply [(Reply.error ("Unknown message type: " ++ msg.type)).toJson]

/-- An iteration of the loop of `handle_socket`. -/
def State.serve (t : CharTable) (size : ℕ) (u : Uuid) (m : Outgoing) : State :=
  match receive t (.text size (some m.toJson)) with
  | .stop replies => { s.reply (replies.map Reply.toJson) with serving := .stopped }
  | .answer replies => s.reply (replies.map Reply.toJson)
  | .dispatch msg => s.dispatch u msg

end Server

/-! ## Steps -/

/-- One step. -/
def step (t : CharTable) (toLowercase : String → String) (s : State) : Action → Option State
  | .opened => if s.socket = .connecting then some s.onOpen else none
  | .closed =>
    match s.socket with
    | .waiting _ => none
    | _ => some s.onClose
  | .reconnect =>
    match s.socket with
    | .waiting _ => some { s with socket := .connecting }
    | _ => none
  | .submit c input attachments => some (s.submit c input attachments)
  | .createSession cwd => some (s.send (.newChat cwd))
  | .handleStop => some { s with stopping := s.stopping + 1 }
  | .stopped result =>
    if 0 < s.stopping then
      some { s with chat := s.chat.stopped result, stopping := s.stopping - 1 }
    else none
  | .loadSession =>
    some { s with chat := { s.chat with isLoadingSession := true }, loading := s.loading + 1 }
  | .loaded result => if 0 < s.loading then some (s.loaded result) else none
  | .timeout i => if i ∈ s.chat.timeouts then some { s with chat := s.chat.timeout i } else none
  | .deliver c =>
    match s.down with
    | v :: down => some ({ s with down := down }.onMessage c v)
    | [] => none
  | .serve size u =>
    match s.serving, s.up with
    | .idle, m :: up => some ({ s with up := up }.serve t size u m)
    | _, _ => none
  | .created =>
    match s.serving with
    | .creating sid cwd =>
      some { s.reply [(Frame.chatCleared sid cwd).toJson] with serving := .idle }
    | _ => none
  | .createFailed e =>
    match s.serving with
    | .creating _ _ =>
      some { s.reply [(Frame.error ("Failed to create session: " ++ e)).toJson] with
             serving := .idle }
    | _ => none
  | .ready =>
    match s.serving with
    | .opening sid => some { s with serving := .running sid }
    | _ => none
  | .openFails e =>
    match s.serving with
    | .opening _ =>
      some { s.reply [(Frame.error ("Could not create session: " ++ e)).toJson] with
             serving := .idle }
    | _ => none
  | .forward e =>
    match s.serving with
    | .running sid => some (s.reply (piEventToWsJson toLowercase e sid).toList)
    | _ => none
  | .finish error =>
    match s.serving with
    | .running sid =>
      some { s.reply ((errorFrames error ++ [Frame.promptComplete sid]).map Frame.toJson) with
             serving := .labelling sid }
    | _ => none
  | .label text =>
    match s.serving with
    | .labelling sid =>
      some { s.reply ((labelFrames sid text).map Frame.toJson) with serving := .idle }
    | _ => none

section Step

variable (t : CharTable) (toLowercase : String → String) {s : State} {sid : SessionId}

theorem step_createFailed {cwd : String} (hs : s.serving = .creating sid cwd) (e : String) :
    step t toLowercase s (.createFailed e) =
      some { s.reply [(Frame.error ("Failed to create session: " ++ e)).toJson] with
             serving := .idle } := by
  simp only [step, hs]

theorem step_openFails (hs : s.serving = .opening sid) (e : String) :
    step t toLowercase s (.openFails e) =
      some { s.reply [(Frame.error ("Could not create session: " ++ e)).toJson] with
             serving := .idle } := by
  simp only [step, hs]

theorem step_finish (hs : s.serving = .running sid) (error : Option String) :
    step t toLowercase s (.finish error) =
      some { s.reply ((errorFrames error ++ [Frame.promptComplete sid]).map Frame.toJson) with
             serving := .labelling sid } := by
  simp only [step, hs]

theorem step_label (hs : s.serving = .labelling sid) (text : Option String) :
    step t toLowercase s (.label text) =
      some { s.reply ((labelFrames sid text).map Frame.toJson) with serving := .idle } := by
  simp only [step, hs]

/-- What a step is when it is enabled. -/
inductive Happened (s : State) : Action → State → Prop where
  | opened (hs : s.socket = .connecting) : Happened s .opened s.onOpen
  | closed (hs : ∀ k, s.socket ≠ .waiting k) : Happened s .closed s.onClose
  | reconnect {k : ℕ} (hs : s.socket = .waiting k) :
      Happened s .reconnect { s with socket := .connecting }
  | submit (c : Clock) (input : String) (attachments : List Image) :
      Happened s (.submit c input attachments) (s.submit c input attachments)
  | createSession (cwd : Option String) :
      Happened s (.createSession cwd) (s.send (.newChat cwd))
  | handleStop : Happened s .handleStop { s with stopping := s.stopping + 1 }
  | stopped (result : Except String Unit) : Happened s (.stopped result)
      { s with chat := s.chat.stopped result, stopping := s.stopping - 1 }
  | loadSession : Happened s .loadSession
      { s with chat := { s.chat with isLoadingSession := true }, loading := s.loading + 1 }
  | loaded (result : Except String LoadedSession) : Happened s (.loaded result) (s.loaded result)
  | timeout (i : ℕ) : Happened s (.timeout i) { s with chat := s.chat.timeout i }
  | deliver (c : Clock) {v : Json} {down : List Json} (hdown : s.down = v :: down) :
      Happened s (.deliver c) ({ s with down := down }.onMessage c v)
  | serve (size : ℕ) (u : Uuid) {m : Outgoing} {up : List Outgoing} (hs : s.serving = .idle)
      (hup : s.up = m :: up) : Happened s (.serve size u) ({ s with up := up }.serve t size u m)
  | created {sid : SessionId} {cwd : String} (hs : s.serving = .creating sid cwd) :
      Happened s .created
        { s.reply [(Frame.chatCleared sid cwd).toJson] with serving := .idle }
  | createFailed (e : String) {sid : SessionId} {cwd : String}
      (hs : s.serving = .creating sid cwd) : Happened s (.createFailed e)
        { s.reply [(Frame.error ("Failed to create session: " ++ e)).toJson] with
          serving := .idle }
  | ready {sid : SessionId} (hs : s.serving = .opening sid) :
      Happened s .ready { s with serving := .running sid }
  | openFails (e : String) {sid : SessionId} (hs : s.serving = .opening sid) :
      Happened s (.openFails e)
        { s.reply [(Frame.error ("Could not create session: " ++ e)).toJson] with
          serving := .idle }
  | forward (e : AgentEvent) {sid : SessionId} (hs : s.serving = .running sid) :
      Happened s (.forward e) (s.reply (piEventToWsJson toLowercase e sid).toList)
  | finish (error : Option String) {sid : SessionId} (hs : s.serving = .running sid) :
      Happened s (.finish error)
        { s.reply ((errorFrames error ++ [Frame.promptComplete sid]).map Frame.toJson) with
          serving := .labelling sid }
  | label (text : Option String) {sid : SessionId} (hs : s.serving = .labelling sid) :
      Happened s (.label text)
        { s.reply ((labelFrames sid text).map Frame.toJson) with serving := .idle }

variable {t toLowercase}

/-- **What a step can do.** -/
theorem step_cases {a : Action} {r : State} (h : step t toLowercase s a = some r) :
    Happened t toLowercase s a r := by
  cases a with
  | opened =>
    obtain ⟨hs, h⟩ := Option.ite_none_right_eq_some.mp h
    cases h; exact .opened hs
  | closed =>
    rw [step] at h
    split at h
    case h_1 => cases h
    case h_2 hs => cases h; exact .closed hs
  | reconnect =>
    rw [step] at h
    split at h
    case h_1 k hs => cases h; exact .reconnect hs
    case h_2 => cases h
  | submit c input attachments => cases h; exact .submit c input attachments
  | createSession cwd => cases h; exact .createSession cwd
  | handleStop => cases h; exact .handleStop
  | stopped result =>
    obtain ⟨-, h⟩ := Option.ite_none_right_eq_some.mp h
    cases h; exact .stopped result
  | loadSession => cases h; exact .loadSession
  | loaded result =>
    obtain ⟨-, h⟩ := Option.ite_none_right_eq_some.mp h
    cases h; exact .loaded result
  | timeout i =>
    obtain ⟨-, h⟩ := Option.ite_none_right_eq_some.mp h
    cases h; exact .timeout i
  | deliver c =>
    rw [step] at h
    split at h
    case h_1 hdown => cases h; exact .deliver c hdown
    case h_2 => cases h
  | serve size u =>
    rw [step] at h
    split at h
    case h_1 hs hup => cases h; exact .serve size u hs hup
    case h_2 => cases h
  | created =>
    rw [step] at h
    split at h
    case h_1 hs => cases h; exact .created hs
    case h_2 => cases h
  | createFailed e =>
    rw [step] at h
    split at h
    case h_1 hs => cases h; exact .createFailed e hs
    case h_2 => cases h
  | ready =>
    rw [step] at h
    split at h
    case h_1 hs => cases h; exact .ready hs
    case h_2 => cases h
  | openFails e =>
    rw [step] at h
    split at h
    case h_1 hs => cases h; exact .openFails e hs
    case h_2 => cases h
  | forward e =>
    rw [step] at h
    split at h
    case h_1 hs => cases h; exact .forward e hs
    case h_2 => cases h
  | finish error =>
    rw [step] at h
    split at h
    case h_1 hs => cases h; exact .finish error hs
    case h_2 => cases h
  | label text =>
    rw [step] at h
    split at h
    case h_1 hs => cases h; exact .label text hs
    case h_2 => cases h

end Step

/-! ## What a step leaves alone -/

section Frame

variable (s : State)

@[simp] theorem send_chat (m : Outgoing) : (s.send m).chat = s.chat := by
  rw [State.send]
  split <;> rfl

@[simp] theorem join_chat : s.join.chat = s.chat := by
  rw [State.join]
  split
  · split
    · rfl
    · exact send_chat _ _
  · rfl

@[simp] theorem setCurrentSessionId_chat (sid : Option SessionId) :
    (s.setCurrentSessionId sid).chat = s.chat := by
  rw [State.setCurrentSessionId]
  split
  · rfl
  · exact join_chat _

/-- Which session is shown does not depend on what is on its way, nor the other way round. -/
theorem setCurrentSessionId_with (sid : Option SessionId) (down : List Json) (chat : Chat) :
    State.setCurrentSessionId { s with down := down, chat := chat } sid =
      { s.setCurrentSessionId sid with down := down, chat := chat } := by
  rw [State.setCurrentSessionId, State.setCurrentSessionId, State.join, State.join]
  dsimp only
  split
  · rfl
  · split
    · split
      · rfl
      · rw [State.send, State.send]
        dsimp only
        split <;> rfl
    · rfl

@[simp] theorem send_currentSessionId (m : Outgoing) :
    (s.send m).currentSessionId = s.currentSessionId := by
  rw [State.send]
  split <;> rfl

@[simp] theorem join_currentSessionId : s.join.currentSessionId = s.currentSessionId := by
  rw [State.join]
  split
  · split
    · rfl
    · exact send_currentSessionId _ _
  · rfl

theorem setCurrentSessionId_currentSessionId (sid : Option SessionId) :
    (s.setCurrentSessionId sid).currentSessionId = sid := by
  rw [State.setCurrentSessionId]
  split
  · rename_i h
    exact h.symm
  · exact join_currentSessionId _

@[simp] theorem send_down (m : Outgoing) : (s.send m).down = s.down := by
  rw [State.send]
  split <;> rfl

@[simp] theorem send_serving (m : Outgoing) : (s.send m).serving = s.serving := by
  rw [State.send]
  split <;> rfl

@[simp] theorem join_down : s.join.down = s.down := by
  rw [State.join]
  split
  · split
    · rfl
    · exact send_down _ _
  · rfl

@[simp] theorem join_serving : s.join.serving = s.serving := by
  rw [State.join]
  split
  · split
    · rfl
    · exact send_serving _ _
  · rfl

@[simp] theorem setCurrentSessionId_down (sid : Option SessionId) :
    (s.setCurrentSessionId sid).down = s.down := by
  rw [State.setCurrentSessionId]
  split
  · rfl
  · exact join_down _

@[simp] theorem setCurrentSessionId_serving (sid : Option SessionId) :
    (s.setCurrentSessionId sid).serving = s.serving := by
  rw [State.setCurrentSessionId]
  split
  · rfl
  · exact join_serving _

@[simp] theorem submit_down (c : Clock) (input : String) (attachments : List Image) :
    (s.submit c input attachments).down = s.down := by
  rw [State.submit]
  split
  · exact send_down _ _
  · rfl

@[simp] theorem submit_serving (c : Clock) (input : String) (attachments : List Image) :
    (s.submit c input attachments).serving = s.serving := by
  rw [State.submit]
  split
  · exact send_serving _ _
  · rfl

@[simp] theorem loaded_down (result : Except String LoadedSession) :
    (s.loaded result).down = s.down := by
  cases result with
  | ok data =>
    rw [State.loaded]
    split
    · rw [setCurrentSessionId_down]
      split
      · rfl
      · exact send_down _ _
    · rfl
  | error e => rfl

@[simp] theorem loaded_serving (result : Except String LoadedSession) :
    (s.loaded result).serving = s.serving := by
  cases result with
  | ok data =>
    rw [State.loaded]
    split
    · rw [setCurrentSessionId_serving]
      split
      · rfl
      · exact send_serving _ _
    · rfl
  | error e => rfl

@[simp] theorem onMessage_down (c : Clock) (v : Json) : (s.onMessage c v).down = s.down := by
  rw [State.onMessage]
  split
  · exact setCurrentSessionId_down _ _
  · rfl

@[simp] theorem onMessage_serving (c : Clock) (v : Json) :
    (s.onMessage c v).serving = s.serving := by
  rw [State.onMessage]
  split
  · exact setCurrentSessionId_serving _ _
  · rfl

/-- What becomes of the chat is a matter of the chat and the message. -/
@[simp] theorem onMessage_chat (c : Clock) (v : Json) :
    (s.onMessage c v).chat = s.chat.onMessage c v := by
  rw [State.onMessage]
  split
  · exact setCurrentSessionId_chat _ _
  · rfl

end Frame

/-! ## What the client reads of what the server sends -/

@[simp] theorem readEvent_error (e : String) :
    readEvent (Reply.error e).toJson = some (.error e) := rfl

@[simp] theorem readEvent_joinAck (sid : SessionId) :
    readEvent (Reply.joinAck sid).toJson = none := rfl

@[simp] theorem readEvent_steerAck (sid : SessionId) :
    readEvent (Reply.steerAck sid).toJson = none := rfl

@[simp] theorem readEvent_errorFrame (e : String) :
    readEvent (Frame.error e).toJson = some (.error e) := rfl

@[simp] theorem readEvent_chatCleared (sid : SessionId) (cwd : String) :
    readEvent (Frame.chatCleared sid cwd).toJson = some (.chatCleared sid) := rfl

@[simp] theorem readEvent_promptComplete (sid : SessionId) :
    readEvent (Frame.promptComplete sid).toJson = some .promptComplete := rfl

@[simp] theorem readEvent_sessionLabelUpdated (sid : SessionId) (label : String) :
    readEvent (Frame.sessionLabelUpdated sid label).toJson = none := rfl

/-- No event of the agent announces a session. -/
theorem readEvent_ne_chatCleared {toLowercase : String → String} {e : AgentEvent}
    {sid sid' : SessionId} {v : Json} (h : piEventToWsJson toLowercase e sid = some v) :
    readEvent v ≠ some (.chatCleared sid') := by
  have hread := readEvent_piEventToWsJson toLowercase e sid
  rw [h, Option.bind_some] at hread
  rw [hread]
  cases e with
  | messageUpdate event => cases event <;> nofun
  | _ => nofun

/-! ## What the server makes of a message -/

section Serve

variable (t : CharTable) (size : ℕ) (u : Uuid) (s : State)

/-- **What becomes of a message**: the server refuses it and hangs up, it refuses it, or it goes to
its handler. -/
theorem serve_cases (m : Outgoing) :
    (∃ e, s.serve t size u m = { s.reply [(Reply.error e).toJson] with serving := .stopped }) ∨
      (∃ e, s.serve t size u m = s.reply [(Reply.error e).toJson]) ∨
      s.serve t size u m = s.dispatch u m.envelope := by
  rw [State.serve, receive]
  by_cases hsize : maxMessageSize < size
  · rw [if_pos hsize]
    exact Or.inl ⟨_, rfl⟩
  rw [if_neg hsize, Option.bind_some, decode_toJson]
  cases hv : validateWsMessage t m.envelope with
  | some e => exact Or.inr (Or.inl ⟨e, by simp only [hv, List.map_cons, List.map_nil]⟩)
  | none => exact Or.inr (Or.inr (by simp only [hv]))

@[simp] theorem dispatch_join (sid : SessionId) :
    s.dispatch u (Outgoing.join sid).envelope = s.reply [(Reply.joinAck sid).toJson] := rfl

@[simp] theorem dispatch_newChat (cwd : Option String) :
    s.dispatch u (Outgoing.newChat cwd).envelope =
      { s with serving := .creating u.text (cwd.getD "") } := rfl

@[simp] theorem dispatch_steer (text : String) (sid : Option SessionId) :
    s.dispatch u (Outgoing.submitted (.steer text) sid).envelope =
      s.reply [(Reply.steerAck (sid.getD "")).toJson] := rfl

/-- A prompt. -/
theorem dispatch_prompt (text : String) (images : List Image) (sid : Option SessionId) :
    s.dispatch u (Outgoing.submitted (.prompt text images) sid).envelope =
      if text = "" then s.reply [(Reply.error "prompt requires non-empty text").toJson]
      else if sid.getD "" = "" then
        { s.reply [(Frame.chatCleared u.text "").toJson] with serving := .opening u.text }
      else { s with serving := .opening (sid.getD "") } := by
  have htext : (Outgoing.submitted (.prompt text images) sid).envelope.userText = text := by
    rw [WsMessage.userText]
    split
    · rfl
    · rename_i h
      exact (not_not.mp h).symm
  rw [State.dispatch, htext]
  rfl

/-- The server has no part in the chat. -/
theorem serve_chat (m : Outgoing) : (s.serve t size u m).chat = s.chat := by
  rcases serve_cases t size u s m with ⟨e, h⟩ | ⟨e, h⟩ | h
  · rw [h]
    rfl
  · rw [h]
    rfl
  · rw [h]
    cases m with
    | join sid => rfl
    | newChat cwd => rfl
    | submitted m sid =>
      cases m with
      | steer text => rfl
      | prompt text images =>
        rw [dispatch_prompt]
        split
        · rfl
        · split <;> rfl

end Serve

end Connection

end WorkWithMe.Client
