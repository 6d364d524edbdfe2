import WorkWithMe.Server.AppState

/-!
# One call of a WebSocket handler, and its agent task

A `Call` is one run of `handle_prompt` or `handle_new_chat`, cut at the points at which another
task can come in between: every `await`, every acquisition of a lock.  A call of `handle_prompt`
has three parts, and each has its own states and its own steps.

* `Opening` is the way to a handle: the look-up in `session_handles` and, when it finds nothing,
  the steps of `create_pi_session`.  `openStep` is its step function.
* `Stage` is the handler after that, from the insertion of the abort handle to the label.
  `handlerStep` is its step function.
* `Task` is the spawned agent task, from waiting for the mutex of the handle to the end of the
  block.  `agentStep` is its step function.

The mutexes (`Agents`) also carry two records that the program keeps only in part: the turns each
pi session has seen, which is its conversation, and the turns of each chat session in the order in
which they ran.

`openStep_cases`, `handlerStep_cases` and `agentStep_cases` say what a step can do; no later proof
looks into the step functions again.
-/

set_option autoImplicit false

namespace WorkWithMe.Server

/-! ## Messages -/

/-- The fields of an incoming message that the two handlers read. -/
structure WsMessage where
  /-- The session, or the empty text. -/
  sessionId : SessionId
  /-- The text of the prompt in older clients. -/
  content : String
  /-- The text of the prompt. -/
  text : String
  /-- The directory of a new chat. -/
  cwd : String

/-- The text of a prompt: `text`, or `content` when that is empty. -/
def WsMessage.userText (msg : WsMessage) : String :=
  if msg.text ≠ "" then msg.text else msg.content

/-- A frame sent to the client. -/
inductive Frame where
  /-- An event of the agent, as JSON. -/
  | event (payload : Json)
  /-- An error. -/
  | error (message : String)
  /-- A new session. -/
  | chatCleared (sessionId : SessionId) (cwd : String)
  /-- The end of a prompt. -/
  | promptComplete (sessionId : SessionId)
  /-- A new label. -/
  | sessionLabelUpdated (sessionId : SessionId) (label : String)

/-- The JSON of a frame. -/
def Frame.toJson : Frame → Json
  | .event payload => payload
  | .error message => .obj [("type", .str "error"), ("message", .str message)]
  | .chatCleared sid cwd =>
    .obj [("type", .str "chat_cleared"), ("sessionId", .str sid), ("cwd", .str cwd)]
  | .promptComplete sid => .obj [("type", .str "prompt_complete"), ("session_id", .str sid)]
  | .sessionLabelUpdated sid label =>
    .obj [("type", .str "session_label_updated"), ("sessionId", .str sid), ("label", .str label)]

/-- The frame that reports the failure of an agent. -/
def agentError (message : String) : Frame := .error ("Agent error: " ++ message)

/-! ## The parts of a call -/

/-- On the way to a handle. -/
inductive Opening where
  /-- About to look the session up in `session_handles`. -/
  | lookup
  /-- `handle_new_chat`: about to write the directory. -/
  | writeCwd (cwd : String)
  /-- About to read the directory of the session. -/
  | readCwd
  /-- About to read the model of the session. -/
  | readModel (cwd : String)
  /-- Waiting for `create_agent_session`. -/
  | create (options : SessionOptions)
  /-- About to store the handle. -/
  | store (handle : PiSessionHandle)

/-- `handle_prompt` with a handle in hand. -/
inductive Stage where
  /-- About to insert the abort handle. -/
  | insertAbort
  /-- About to spawn the agent task. -/
  | spawn
  /-- In the loop that forwards events. -/
  | forward
  /-- About to ask the error channel. -/
  | report
  /-- About to send `prompt_complete`. -/
  | complete
  /-- About to remove the abort handle. -/
  | cleanup
  /-- Generating the label. -/
  | label
  /-- Returned. -/
  | done
  deriving DecidableEq

/-- Where a handler is. -/
inductive Phase where
  /-- On the way to a handle. -/
  | opening (o : Opening)
  /-- `handle_prompt` with the handle `h`. -/
  | running (h : PiSessionHandle) (stage : Stage)
  /-- `handle_new_chat`, about to announce the session. -/
  | announcing
  /-- Returned without a run. -/
  | returned

/-- What `prompt_with_abort` returns. -/
inductive TurnResult where
  /-- The turn went through. -/
  | ok
  /-- It failed, with this message. -/
  | error (message : String)
  deriving DecidableEq

/-- Where the agent task of a prompt is. -/
inductive Task where
  /-- Not spawned yet. -/
  | unspawned
  /-- Waiting for the mutex of the handle. -/
  | waiting
  /-- In `prompt_with_abort`. -/
  | prompting
  /-- `prompt_with_abort` has returned. -/
  | settled (r : TurnResult)
  /-- The error has been sent. -/
  | reported (message : String)
  /-- The task has ended, and has released the mutex. -/
  | finished (r : TurnResult)
  deriving DecidableEq

/-- The task holds the mutex of its handle. -/
def Task.executing : Task → Bool
  | .prompting | .settled _ | .reported _ => true
  | _ => false

/-- The task has been spawned and has not finished. -/
def Task.unfinished : Task → Bool
  | .waiting | .prompting | .settled _ | .reported _ => true
  | _ => false

/-- What `prompt_with_abort` returned to the task, once it has. -/
def Task.result : Task → Option TurnResult
  | .settled r | .finished r => some r
  | .reported e => some (.error e)
  | _ => none

/-- What was asked for. -/
inductive Request where
  /-- A prompt with its text. -/
  | prompt (text : String)
  /-- A new chat in a directory. -/
  | newChat (cwd : String)

/-- One call of `handle_prompt` or `handle_new_chat`. -/
structure Call (Event : Type) where
  /-- What was asked for. -/
  request : Request
  /-- The connection it came in on. -/
  conn : ConnId
  /-- The session it is for. -/
  session : SessionId
  /-- Where the handler is. -/
  phase : Phase
  /-- Where the agent task is. -/
  task : Task
  /-- The sending half of the event channel is alive. -/
  sender : Bool
  /-- The events in the channel. -/
  queue : List Event
  /-- What is in the error channel. -/
  errors : Option String
  /-- The frames the client has received from this call. -/
  delivered : List Frame
  /-- The conversation the turn started from. -/
  seen : Option (List CallId)

namespace Call

variable {Event : Type}

/-- Send some frames, which arrive if the client is connected. -/
def send (online : Bool) (fs : List Frame) (k : Call Event) : Call Event :=
  { k with delivered := k.delivered ++ if online then fs else [] }

/-- The handler goes on to a stage. -/
def goto (k : Call Event) (h : PiSessionHandle) (stage : Stage) : Call Event :=
  { k with phase := .running h stage }

/-- The handler has returned. -/
def hasReturned (k : Call Event) : Bool :=
  match k.phase with
  | .returned | .running _ .done => true
  | _ => false

end Call

/-! ## Opening -/

/-- What a step on the way to a handle leads to. -/
inductive Opened where
  /-- It goes on. -/
  | pending (o : Opening)
  /-- There is a handle. -/
  | handle (h : PiSessionHandle)
  /-- `create_agent_session` failed. -/
  | failed (message : String)

/-- The steps on the way to a handle. -/
inductive OpenAction where
  | lookup
  | writeCwd
  | readCwd
  | readModel
  | created
  | createFailed (message : String)
  | store
  deriving DecidableEq

/-- One step on the way to a handle, of the call `c` for the session `s`. -/
def openStep (authToken : String → Option String) (app : AppState) (c : CallId) (s : SessionId) :
    Opening → OpenAction → Option (AppState × Opened)
  | .lookup, .lookup =>
    some (app, match app.sessionHandles s with
      | some h => .handle h
      | none => .pending .readCwd)
  | .writeCwd cwd, .writeCwd =>
    some ({ app with sessionCwd := Function.update app.sessionCwd s (some cwd) },
      .pending (.readModel cwd))
  | .readCwd, .readCwd => some (app, .pending (.readModel ((app.sessionCwd s).getD "")))
  | .readModel cwd, .readModel =>
    some (app, .pending (.create (sessionOptions authToken app s cwd)))
  | .create options, .created => some (app, .pending (.store ⟨c, options⟩))
  | .create _, .createFailed message => some (app, .failed ("pi session init: " ++ message))
  | .store h, .store =>
    some ({ app with sessionHandles := Function.update app.sessionHandles s (some h) }, .handle h)
  | _, _ => none

/-- **What a step on the way to a handle can do.** -/
theorem openStep_cases {authToken : String → Option String} {app app' : AppState} {c : CallId}
    {s : SessionId} {o : Opening} {a : OpenAction} {r : Opened}
    (h : openStep authToken app c s o a = some (app', r)) :
    app'.abortHandles = app.abortHandles ∧ app'.sessionModel = app.sessionModel ∧
      ((∃ hd, a = .store ∧ o = .store hd ∧ r = .handle hd ∧
          app'.sessionHandles = Function.update app.sessionHandles s (some hd)) ∨
        (a ≠ .store ∧ app'.sessionHandles = app.sessionHandles ∧
          (∀ hd, r = .handle hd → app.sessionHandles s = some hd) ∧
          ∀ hd, r = .pending (.store hd) → hd.creator = c)) := by
  cases o <;> cases a <;> simp only [openStep, reduceCtorEq, Option.some_inj, Prod.mk.injEq] at h
  all_goals obtain ⟨rfl, rfl⟩ := h
  case lookup.lookup =>
    refine ⟨rfl, rfl, Or.inr ⟨by simp, rfl, fun hd ↦ ?_, fun hd ↦ ?_⟩⟩
    · cases app.sessionHandles s <;> simp
    · cases app.sessionHandles s <;> simp
  case store.store hd => exact ⟨rfl, rfl, Or.inl ⟨hd, rfl, rfl, rfl, rfl⟩⟩
  all_goals exact ⟨rfl, rfl, Or.inr ⟨by simp, rfl, by simp, by simp⟩⟩

/-! ## The handler with a handle in hand -/

/-- The steps of the handler. -/
inductive HandlerAction where
  | insertAbort
  | spawn
  | forward
  | forwardFails
  | loopClosed
  | report
  | complete
  | cleanup
  | label (text : Option String)
  deriving DecidableEq

section Handler

variable {Event : Type}

/-- The frame for the outcome of the label step, when there is one. -/
def labelFrames (s : SessionId) (text : Option String) : List Frame :=
  (text.map (Frame.sessionLabelUpdated s)).toList

/-- The frame for what the error channel holds, when it holds something. -/
def errorFrames (errors : Option String) : List Frame := (errors.map agentError).toList

/-- The frame for an event: `pi_event_to_ws_json` (`toWs`) turns some events into JSON and drops
the others. -/
def eventFrames (toWs : Event → SessionId → Option Json) (s : SessionId) (e : Event) :
    List Frame := ((toWs e s).map Frame.event).toList

/-- One step of the handler of the call `c`, whose handle is `h`. -/
def handlerStep (toWs : Event → SessionId → Option Json) (online : Bool) (app : AppState)
    (c : CallId) (k : Call Event) (h : PiSessionHandle) :
    Stage → HandlerAction → Option (AppState × Call Event)
  | .insertAbort, .insertAbort =>
    some ({ app with abortHandles := Function.update app.abortHandles k.session (some c) },
      k.goto h .spawn)
  | .spawn, .spawn => some (app, { k with task := .waiting, sender := true }.goto h .forward)
  | .forward, .forward =>
    match k.queue with
    | e :: queue => some (app,
      ({ k with queue := queue }.send online (eventFrames toWs k.session e)).goto h .forward)
    | [] => none
  | .forward, .forwardFails =>
    match k.queue with
    | e :: queue =>
      -- a send can only fail for a frame there is, to a client that is gone
      if (toWs e k.session).isSome ∧ online = false then
        some (app, { k with queue := queue }.goto h .report)
      else none
    | [] => none
  | .forward, .loopClosed =>
    if k.queue = [] ∧ k.sender = false then some (app, k.goto h .report) else none
  | .report, .report => some (app, (k.send online (errorFrames k.errors)).goto h .complete)
  | .complete, .complete => some (app, (k.send online [.promptComplete k.session]).goto h .cleanup)
  | .cleanup, .cleanup =>
    some ({ app with abortHandles := Function.update app.abortHandles k.session none },
      k.goto h .label)
  | .label, .label text => some (app, (k.send online (labelFrames k.session text)).goto h .done)
  | _, _ => none

/-- What a step of the handler does, one line for each. -/
inductive Handled (toWs : Event → SessionId → Option Json) (online : Bool) (app : AppState)
    (c : CallId) (k : Call Event) (h : PiSessionHandle) :
    Stage → HandlerAction → AppState → Call Event → Prop where
  | insertAbort : Handled toWs online app c k h .insertAbort .insertAbort
      { app with abortHandles := Function.update app.abortHandles k.session (some c) }
      (k.goto h .spawn)
  | spawn : Handled toWs online app c k h .spawn .spawn app
      ({ k with task := .waiting, sender := true }.goto h .forward)
  | forward (e : Event) (queue : List Event) (hq : k.queue = e :: queue) :
      Handled toWs online app c k h .forward .forward app
        (({ k with queue := queue }.send online (eventFrames toWs k.session e)).goto h .forward)
  | forwardFails (e : Event) (queue : List Event) (hq : k.queue = e :: queue)
      (hoff : online = false) : Handled toWs online app c k h .forward .forwardFails app
        ({ k with queue := queue }.goto h .report)
  | loopClosed (hq : k.queue = []) (hs : k.sender = false) :
      Handled toWs online app c k h .forward .loopClosed app (k.goto h .report)
  | report : Handled toWs online app c k h .report .report app
      ((k.send online (errorFrames k.errors)).goto h .complete)
  | complete : Handled toWs online app c k h .complete .complete app
      ((k.send online [.promptComplete k.session]).goto h .cleanup)
  | cleanup : Handled toWs online app c k h .cleanup .cleanup
      { app with abortHandles := Function.update app.abortHandles k.session none } (k.goto h .label)
  | label (text : Option String) : Handled toWs online app c k h .label (.label text) app
      ((k.send online (labelFrames k.session text)).goto h .done)

/-- **What a step of the handler can do.** -/
theorem handlerStep_cases {toWs : Event → SessionId → Option Json} {online : Bool}
    {app app' : AppState} {c : CallId} {k k' : Call Event} {h : PiSessionHandle} {stage : Stage}
    {a : HandlerAction} (hstep : handlerStep toWs online app c k h stage a = some (app', k')) :
    Handled toWs online app c k h stage a app' k' := by
  unfold handlerStep at hstep
  split at hstep
  case h_3 =>
    split at hstep
    · rename_i e queue hq
      obtain ⟨rfl, rfl⟩ := Prod.mk.inj (Option.some.inj hstep)
      exact .forward e queue hq
    · cases hstep
  case h_4 =>
    split at hstep
    · rename_i e queue hq
      split at hstep
      · rename_i hoff
        obtain ⟨rfl, rfl⟩ := Prod.mk.inj (Option.some.inj hstep)
        exact .forwardFails e queue hq hoff.2
      · cases hstep
    · cases hstep
  case h_5 =>
    split at hstep
    · rename_i hq
      obtain ⟨rfl, rfl⟩ := Prod.mk.inj (Option.some.inj hstep)
      exact .loopClosed hq.1 hq.2
    · cases hstep
  case h_10 => cases hstep
  all_goals
    obtain ⟨rfl, rfl⟩ := Prod.mk.inj (Option.some.inj hstep)
    constructor

end Handler

/-! ## The agent task -/

/-- The steps of the agent task. -/
inductive AgentAction (Event : Type) where
  | acquire
  | emit (e : Event)
  | dropCallback
  | settle (r : TurnResult)
  | sendErr
  | finish
  deriving DecidableEq

/-- The mutexes of the pi sessions, by the call that created the session, and what has run under
them. -/
structure Agents where
  /-- The call that holds the mutex of a pi session. -/
  holder : CallId → Option CallId
  /-- The turns a pi session has seen. -/
  conversation : CallId → List CallId
  /-- The turns of a chat session. -/
  history : SessionId → List CallId

/-- Nothing has run yet. -/
def Agents.init : Agents where
  holder _ := none
  conversation _ := []
  history _ := []

namespace Agents

/-- The call `c` takes the mutex of `h` for a turn of the session `s`. -/
def acquire (ag : Agents) (c : CallId) (s : SessionId) (h : PiSessionHandle) : Agents where
  holder := Function.update ag.holder h.creator (some c)
  conversation := Function.update ag.conversation h.creator (ag.conversation h.creator ++ [c])
  history := Function.update ag.history s (ag.history s ++ [c])

/-- The mutex of `h` is given back. -/
def release (ag : Agents) (h : PiSessionHandle) : Agents :=
  { ag with holder := Function.update ag.holder h.creator none }

end Agents

section Agent

variable {Event : Type}

/-- One step of the agent task of the call `c`, whose handle is `h`.  The callback, and with it the
sender, is dropped at the latest when `prompt_with_abort` returns. -/
def agentStep (ag : Agents) (c : CallId) (k : Call Event) (h : PiSessionHandle) :
    Task → AgentAction Event → Option (Agents × Call Event)
  | .waiting, .acquire =>
    if ag.holder h.creator = none then
      some (ag.acquire c k.session h,
        { k with task := .prompting, seen := some (ag.conversation h.creator) })
    else none
  | .prompting, .emit e =>
    if k.sender then some (ag, { k with queue := k.queue ++ [e] }) else none
  | .prompting, .dropCallback => some (ag, { k with sender := false })
  | .prompting, .settle r => some (ag, { k with task := .settled r, sender := false })
  | .settled (.error e), .sendErr => some (ag, { k with task := .reported e, errors := some e })
  | .settled .ok, .finish => some (ag.release h, { k with task := .finished .ok })
  | .reported e, .finish => some (ag.release h, { k with task := .finished (.error e) })
  | _, _ => none

/-- What a step of the agent task does, one line for each. -/
inductive Acted (ag : Agents) (c : CallId) (k : Call Event) (h : PiSessionHandle) :
    Task → AgentAction Event → Agents → Call Event → Prop where
  | acquire (hfree : ag.holder h.creator = none) : Acted ag c k h .waiting .acquire
      (ag.acquire c k.session h)
      { k with task := .prompting, seen := some (ag.conversation h.creator) }
  | emit (e : Event) (hs : k.sender = true) : Acted ag c k h .prompting (.emit e) ag
      { k with queue := k.queue ++ [e] }
  | dropCallback : Acted ag c k h .prompting .dropCallback ag { k with sender := false }
  | settle (r : TurnResult) : Acted ag c k h .prompting (.settle r) ag
      { k with task := .settled r, sender := false }
  | sendErr (e : String) : Acted ag c k h (.settled (.error e)) .sendErr ag
      { k with task := .reported e, errors := some e }
  | finishOk : Acted ag c k h (.settled .ok) .finish (ag.release h)
      { k with task := .finished .ok }
  | finishError (e : String) : Acted ag c k h (.reported e) .finish (ag.release h)
      { k with task := .finished (.error e) }

/-- **What a step of the agent task can do.** -/
theorem agentStep_cases {ag ag' : Agents} {c : CallId} {k k' : Call Event} {h : PiSessionHandle}
    {task : Task} {a : AgentAction Event} (hstep : agentStep ag c k h task a = some (ag', k')) :
    Acted ag c k h task a ag' k' := by
  unfold agentStep at hstep
  split at hstep
  case h_1 =>
    split at hstep
    · rename_i hfree
      obtain ⟨rfl, rfl⟩ := Prod.mk.inj (Option.some.inj hstep)
      exact .acquire hfree
    · cases hstep
  case h_2 =>
    split at hstep
    · rename_i hs
      obtain ⟨rfl, rfl⟩ := Prod.mk.inj (Option.some.inj hstep)
      exact .emit _ hs
    · cases hstep
  case h_8 => cases hstep
  all_goals
    obtain ⟨rfl, rfl⟩ := Prod.mk.inj (Option.some.inj hstep)
    constructor

end Agent

end WorkWithMe.Server
