import WorkWithMe.Lib.Machine
import WorkWithMe.Server.Call

/-!
# The server: all calls, interleaved

The `Hub` is the application state with all calls, mutexes and connections, and `step` takes one
step of it.  A schedule is a list of `Action`s, and `Machine.exec` runs it from `Hub.init`.  A
connection serves one message at a time, so it takes up the next one when the handler of the last
one has returned; the agent task of that one may still be running.

`step_cases` is the inversion lemma on which every proof about the hub rests.

A UUID is whatever the environment chooses, so a schedule may also use one twice; and the two
writes of `set_project` are two separate actions.  Both only add schedules to those the program
has.
-/

set_option autoImplicit false

namespace WorkWithMe.Server

/-! ## The state -/

/-- The application state, the mutexes, the connections and the calls. -/
structure Hub (Event : Type) where
  /-- The tables of `AppState`. -/
  app : AppState
  /-- The mutexes of the pi sessions. -/
  agents : Agents
  /-- The client of a connection is still there. -/
  connected : ConnId → Bool
  /-- The call a connection is serving. -/
  busy : ConnId → Option CallId
  /-- The abort handle of a call has been fired. -/
  fired : CallId → Bool
  /-- The calls so far. -/
  calls : CallId → Option (Call Event)

/-- What can happen next. -/
inductive Action (Event : Type) where
  /-- A connection takes up a `prompt` message. -/
  | prompt (c : CallId) (conn : ConnId) (msg : WsMessage) (uuid : Uuid)
  /-- A connection takes up a `new_chat` message. -/
  | newChat (c : CallId) (conn : ConnId) (msg : WsMessage) (uuid : Uuid)
  /-- A call takes a step on the way to its handle. -/
  | opening (c : CallId) (a : OpenAction)
  /-- A call of `handle_prompt` takes a step with its handle. -/
  | handler (c : CallId) (a : HandlerAction)
  /-- A call of `handle_new_chat` announces its session. -/
  | announce (c : CallId)
  /-- The agent task of a call takes a step. -/
  | agent (c : CallId) (a : AgentAction Event)
  /-- The client of a connection goes away. -/
  | disconnect (conn : ConnId)
  /-- `POST /api/stop`. -/
  | stop (body : Json)
  /-- `POST /api/model`. -/
  | setModel (req : SetModelRequest)
  /-- `POST /api/project` writes the directory. -/
  | setProjectCwd (s : SessionId) (cwd : String)
  /-- `POST /api/project` drops the handle. -/
  | dropHandle (s : SessionId)

section Step

variable {Event : Type}

/-- The state at the start of the process. -/
def Hub.init : Hub Event where
  app := .new
  agents := .init
  connected _ := true
  busy _ := none
  fired _ := false
  calls _ := none

/-- A call is where it is now. -/
def Hub.put (hub : Hub Event) (c : CallId) (k : Call Event) : Hub Event :=
  { hub with calls := Function.update hub.calls c (some k) }

/-- A call is where it is now, and its connection goes on serving it until it returns. -/
def Hub.serve (hub : Hub Event) (c : CallId) (k : Call Event) : Hub Event :=
  { hub.put c k with
    busy := Function.update hub.busy k.conn (if k.hasReturned then none else some c) }

/-! ## The start of a call -/

/-- A call at its start. -/
def Call.start (request : Request) (conn : ConnId) (session : SessionId) (phase : Phase) :
    Call Event where
  request := request
  conn := conn
  session := session
  phase := phase
  task := .unspawned
  sender := false
  queue := []
  errors := none
  delivered := []
  seen := none

/-- The session of a prompt: a new one if the message names none. -/
def promptSession (msg : WsMessage) (uuid : Uuid) : SessionId :=
  if msg.sessionId = "" then uuid.text else msg.sessionId

theorem promptSession_ne_empty (msg : WsMessage) (uuid : Uuid) : promptSession msg uuid ≠ "" := by
  rw [promptSession]
  split
  · exact uuid.text_ne_empty
  · assumption

/-- `handle_prompt` up to its first look at the tables: a prompt without a text is refused, and a
client that named no session is told of the new one. -/
def promptCall (online : Bool) (conn : ConnId) (msg : WsMessage) (uuid : Uuid) : Call Event :=
  let start := Call.start (.prompt msg.userText) conn (promptSession msg uuid)
  if msg.userText = "" then
    (start .returned).send online [.error "prompt requires non-empty text"]
  else if msg.sessionId = "" then
    (start (.opening .lookup)).send online [.chatCleared uuid.text ""]
  else start (.opening .lookup)

/-- `handle_new_chat` up to its first write. -/
def newChatCall (conn : ConnId) (msg : WsMessage) (uuid : Uuid) : Call Event :=
  .start (.newChat msg.cwd) conn uuid.text (.opening (.writeCwd msg.cwd))

/-- What a call makes of a step on the way to its handle. -/
def Call.opened (online : Bool) (k : Call Event) : Opened → Call Event
  | .pending o => { k with phase := .opening o }
  | .handle h =>
    match k.request with
    | .prompt _ => k.goto h .insertAbort
    | .newChat _ => { k with phase := .announcing }
  | .failed message =>
    { k with phase := .returned }.send online [.error (match k.request with
      | .prompt _ => "Could not create session: " ++ message
      | .newChat _ => "Failed to create session: " ++ message)]

/-- `handle_new_chat` tells the client of its session. -/
def Call.announce (online : Bool) (k : Call Event) : Call Event :=
  { k with phase := .returned }.send online [.chatCleared k.session (match k.request with
    | .newChat cwd => cwd
    | .prompt _ => "")]

/-! ## The step function -/

/-- Where a call on the way to its handle is. -/
def Phase.isOpening : Phase → Option Opening
  | .opening o => some o
  | _ => none

/-- The handle and the stage of a call that has its handle. -/
def Phase.isRunning : Phase → Option (PiSessionHandle × Stage)
  | .running h stage => some (h, stage)
  | _ => none

variable (authToken : String → Option String) (toWs : Event → SessionId → Option Json)

/-- **One step of the server.** -/
def step (hub : Hub Event) : Action Event → Option (Hub Event)
  | .prompt c conn msg uuid =>
    if (hub.calls c).isNone ∧ hub.busy conn = none then
      some (hub.serve c (promptCall (hub.connected conn) conn msg uuid))
    else none
  | .newChat c conn msg uuid =>
    if (hub.calls c).isNone ∧ hub.busy conn = none then
      some (hub.serve c (newChatCall conn msg uuid))
    else none
  | .opening c a =>
    (hub.calls c).bind fun k ↦ k.phase.isOpening.bind fun o ↦
      (openStep authToken hub.app c k.session o a).map fun r ↦
        { hub with app := r.1 }.serve c (k.opened (hub.connected k.conn) r.2)
  | .handler c a =>
    (hub.calls c).bind fun k ↦ k.phase.isRunning.bind fun p ↦
      (handlerStep toWs (hub.connected k.conn) hub.app c k p.1 p.2 a).map fun r ↦
        { hub with app := r.1 }.serve c r.2
  | .announce c =>
    (hub.calls c).bind fun k ↦
      match k.phase with
      | .announcing => some (hub.serve c (k.announce (hub.connected k.conn)))
      | _ => none
  | .agent c a =>
    (hub.calls c).bind fun k ↦ k.phase.isRunning.bind fun p ↦
      (agentStep hub.agents c k p.1 k.task a).map fun r ↦ { hub with agents := r.1 }.put c r.2
  | .disconnect conn => some { hub with connected := Function.update hub.connected conn false }
  | .stop body =>
    some { hub with
      fired := match (stopAgent body hub.app).2 with
        | some c => Function.update hub.fired c true
        | none => hub.fired }
  | .setModel req => some { hub with app := (setModel req hub.app).2 }
  | .setProjectCwd s cwd =>
    some { hub with
      app := { hub.app with sessionCwd := Function.update hub.app.sessionCwd s (some cwd) } }
  | .dropHandle s =>
    some { hub with
      app := { hub.app with sessionHandles := Function.update hub.app.sessionHandles s none } }

/-- What a step does, one line for each kind. -/
inductive Stepped (hub : Hub Event) : Action Event → Hub Event → Prop where
  | prompt (c : CallId) (conn : ConnId) (msg : WsMessage) (uuid : Uuid)
      (hnew : hub.calls c = none) : Stepped hub (.prompt c conn msg uuid)
        (hub.serve c (promptCall (hub.connected conn) conn msg uuid))
  | newChat (c : CallId) (conn : ConnId) (msg : WsMessage) (uuid : Uuid)
      (hnew : hub.calls c = none) : Stepped hub (.newChat c conn msg uuid)
        (hub.serve c (newChatCall conn msg uuid))
  | opening (c : CallId) (a : OpenAction) (k : Call Event) (o : Opening) (app : AppState)
      (r : Opened) (hk : hub.calls c = some k) (hp : k.phase = .opening o)
      (ho : openStep authToken hub.app c k.session o a = some (app, r)) :
      Stepped hub (.opening c a)
        ({ hub with app := app }.serve c (k.opened (hub.connected k.conn) r))
  | handler (c : CallId) (a : HandlerAction) (k : Call Event) (h : PiSessionHandle)
      (stage : Stage) (app : AppState) (k' : Call Event) (hk : hub.calls c = some k)
      (hp : k.phase = .running h stage)
      (hh : Handled toWs (hub.connected k.conn) hub.app c k h stage a app k') :
      Stepped hub (.handler c a) ({ hub with app := app }.serve c k')
  | announce (c : CallId) (k : Call Event) (hk : hub.calls c = some k)
      (hp : k.phase = .announcing) :
      Stepped hub (.announce c) (hub.serve c (k.announce (hub.connected k.conn)))
  | agent (c : CallId) (a : AgentAction Event) (k : Call Event) (h : PiSessionHandle)
      (stage : Stage) (ag : Agents) (k' : Call Event) (hk : hub.calls c = some k)
      (hp : k.phase = .running h stage) (ha : Acted hub.agents c k h k.task a ag k') :
      Stepped hub (.agent c a) ({ hub with agents := ag }.put c k')
  | disconnect (conn : ConnId) : Stepped hub (.disconnect conn)
      { hub with connected := Function.update hub.connected conn false }
  | stop (body : Json) (fired : CallId → Bool) :
    Stepped hub (.stop body) { hub with fired := fired }
  | setModel (req : SetModelRequest) :
      Stepped hub (.setModel req) { hub with app := (Server.setModel req hub.app).2 }
  | setProjectCwd (s : SessionId) (cwd : String) : Stepped hub (.setProjectCwd s cwd)
      { hub with
        app := { hub.app with sessionCwd := Function.update hub.app.sessionCwd s (some cwd) } }
  | dropHandle (s : SessionId) : Stepped hub (.dropHandle s)
      { hub with
        app := { hub.app with sessionHandles := Function.update hub.app.sessionHandles s none } }

variable {authToken toWs}

theorem Phase.isOpening_eq_some {p : Phase} {o : Opening} :
    p.isOpening = some o ↔ p = .opening o := by
  cases p <;> simp [Phase.isOpening]

theorem Phase.isRunning_eq_some {p : Phase} {h : PiSessionHandle} {stage : Stage} :
    p.isRunning = some (h, stage) ↔ p = .running h stage := by
  cases p <;> simp [Phase.isRunning]

/-- **What a step can do.** -/
theorem step_cases {hub hub' : Hub Event} {a : Action Event}
    (h : step authToken toWs hub a = some hub') : Stepped authToken toWs hub a hub' := by
  cases a with
  | prompt c conn msg uuid =>
    rw [step, Option.ite_none_right_eq_some] at h
    obtain ⟨⟨hnew, -⟩, h⟩ := h
    cases h
    exact .prompt c conn msg uuid (by simpa using hnew)
  | newChat c conn msg uuid =>
    rw [step, Option.ite_none_right_eq_some] at h
    obtain ⟨⟨hnew, -⟩, h⟩ := h
    cases h
    exact .newChat c conn msg uuid (by simpa using hnew)
  | opening c a =>
    rw [step, Option.bind_eq_some_iff] at h
    obtain ⟨k, hk, h⟩ := h
    obtain ⟨o, hp, h⟩ := Option.bind_eq_some_iff.mp h
    obtain ⟨⟨app, r⟩, ho, rfl⟩ := Option.map_eq_some_iff.mp h
    exact .opening c a k o app r hk (Phase.isOpening_eq_some.mp hp) ho
  | handler c a =>
    rw [step, Option.bind_eq_some_iff] at h
    obtain ⟨k, hk, h⟩ := h
    obtain ⟨⟨hd, stage⟩, hp, h⟩ := Option.bind_eq_some_iff.mp h
    obtain ⟨⟨app, k'⟩, hh, rfl⟩ := Option.map_eq_some_iff.mp h
    exact .handler c a k hd stage app k' hk (Phase.isRunning_eq_some.mp hp) (handlerStep_cases hh)
  | announce c =>
    rw [step, Option.bind_eq_some_iff] at h
    obtain ⟨k, hk, h⟩ := h
    split at h
    · rename_i hp
      cases h
      exact .announce c k hk hp
    · cases h
  | agent c a =>
    rw [step, Option.bind_eq_some_iff] at h
    obtain ⟨k, hk, h⟩ := h
    obtain ⟨⟨hd, stage⟩, hp, h⟩ := Option.bind_eq_some_iff.mp h
    obtain ⟨⟨ag, k'⟩, ha, rfl⟩ := Option.map_eq_some_iff.mp h
    exact .agent c a k hd stage ag k' hk (Phase.isRunning_eq_some.mp hp) (agentStep_cases ha)
  | disconnect conn => cases h; exact .disconnect conn
  | stop body => cases h; exact .stop body _
  | setModel req => cases h; exact .setModel req
  | setProjectCwd s cwd => cases h; exact .setProjectCwd s cwd
  | dropHandle s => cases h; exact .dropHandle s

/-- A connection takes up a prompt when it serves no other call. -/
theorem step_prompt_eq_some {hub hub' : Hub Event} {c : CallId} {conn : ConnId} {msg : WsMessage}
    {uuid : Uuid} : step authToken toWs hub (.prompt c conn msg uuid) = some hub' ↔
      hub.calls c = none ∧ hub.busy conn = none ∧
        hub.serve c (promptCall (hub.connected conn) conn msg uuid) = hub' := by
  rw [step, Option.ite_none_right_eq_some, Option.isNone_iff_eq_none, Option.some_inj, and_assoc]

/-- A connection takes up a new chat when it serves no other call. -/
theorem step_newChat_eq_some {hub hub' : Hub Event} {c : CallId} {conn : ConnId} {msg : WsMessage}
    {uuid : Uuid} : step authToken toWs hub (.newChat c conn msg uuid) = some hub' ↔
      hub.calls c = none ∧ hub.busy conn = none ∧
        hub.serve c (newChatCall conn msg uuid) = hub' := by
  rw [step, Option.ite_none_right_eq_some, Option.isNone_iff_eq_none, Option.some_inj, and_assoc]

/-! ## What a step leaves alone -/

section Frame

variable {k k' : Call Event} {online : Bool} {app app' : AppState} {ag ag' : Agents} {c : CallId}
  {h : PiSessionHandle} {stage : Stage}

@[simp] theorem Hub.app_serve (hub : Hub Event) (c : CallId) (k : Call Event) :
    (hub.serve c k).app = hub.app := rfl

@[simp] theorem Hub.agents_serve (hub : Hub Event) (c : CallId) (k : Call Event) :
    (hub.serve c k).agents = hub.agents := rfl

@[simp] theorem Hub.connected_serve (hub : Hub Event) (c : CallId) (k : Call Event) :
    (hub.serve c k).connected = hub.connected := rfl

@[simp] theorem Hub.calls_serve (hub : Hub Event) (c : CallId) (k : Call Event) :
    (hub.serve c k).calls = Function.update hub.calls c (some k) := rfl

@[simp] theorem Hub.busy_serve (hub : Hub Event) (c : CallId) (k : Call Event) :
    (hub.serve c k).busy =
      Function.update hub.busy k.conn (if k.hasReturned then none else some c) := rfl

@[simp] theorem Hub.busy_put (hub : Hub Event) (c : CallId) (k : Call Event) :
    (hub.put c k).busy = hub.busy := rfl

@[simp] theorem Hub.app_put (hub : Hub Event) (c : CallId) (k : Call Event) :
    (hub.put c k).app = hub.app := rfl

@[simp] theorem Hub.agents_put (hub : Hub Event) (c : CallId) (k : Call Event) :
    (hub.put c k).agents = hub.agents := rfl

@[simp] theorem Hub.connected_put (hub : Hub Event) (c : CallId) (k : Call Event) :
    (hub.put c k).connected = hub.connected := rfl

@[simp] theorem Hub.calls_put (hub : Hub Event) (c : CallId) (k : Call Event) :
    (hub.put c k).calls = Function.update hub.calls c (some k) := rfl

/-- The calls after one of them has moved. -/
theorem calls_update_eq_some {calls : CallId → Option (Call Event)} {c d : CallId}
    {k l : Call Event} (h : Function.update calls c (some k) d = some l) :
    (d = c ∧ l = k) ∨ (d ≠ c ∧ calls d = some l) := by
  by_cases hd : d = c
  · subst hd
    rw [Function.update_self] at h
    exact Or.inl ⟨rfl, (Option.some.inj h).symm⟩
  · rw [Function.update_of_ne hd] at h
    exact Or.inr ⟨hd, h⟩

/-- On the way to its handle a call changes nothing but where it is and what it has sent. -/
theorem Call.opened_frame (online : Bool) (k : Call Event) (r : Opened) :
    (k.opened online r).session = k.session ∧ (k.opened online r).task = k.task ∧
      (k.opened online r).seen = k.seen := by
  cases r with
  | pending o => exact ⟨rfl, rfl, rfl⟩
  | handle h => rw [Call.opened]; split <;> exact ⟨rfl, rfl, rfl⟩
  | failed message => exact ⟨rfl, rfl, rfl⟩

/-- The phases that a step on the way to a handle can lead to. -/
theorem Call.opened_phase (online : Bool) (k : Call Event) (r : Opened) :
    (∃ o, r = .pending o ∧ (k.opened online r).phase = .opening o) ∨
      (∃ h, r = .handle h ∧ (k.opened online r).phase = .running h .insertAbort) ∨
      (k.opened online r).phase = .announcing ∨ (k.opened online r).phase = .returned := by
  cases r with
  | pending o => exact Or.inl ⟨o, rfl, rfl⟩
  | handle h =>
    rw [Call.opened]
    split
    · exact Or.inr (Or.inl ⟨h, rfl, rfl⟩)
    · exact Or.inr (Or.inr (Or.inl rfl))
  | failed message => exact Or.inr (Or.inr (Or.inr rfl))

theorem Call.opened_eq_opening {r : Opened} {o : Opening}
    (h : (k.opened online r).phase = .opening o) : r = .pending o := by
  obtain ⟨o', hr, hp⟩ | ⟨h', -, hp⟩ | hp | hp := k.opened_phase online r
  · rw [hp, Phase.opening.injEq] at h
    exact h ▸ hr
  all_goals simp [hp] at h

theorem Call.opened_eq_running {r : Opened} (hr : (k.opened online r).phase = .running h stage) :
    r = .handle h := by
  obtain ⟨o', -, hp⟩ | ⟨h', hr', hp⟩ | hp | hp := k.opened_phase online r
  · simp [hp] at hr
  · rw [hp, Phase.running.injEq] at hr
    exact hr.1 ▸ hr'
  all_goals simp [hp] at hr

theorem Call.isOpening_opened_handle (online : Bool) (k : Call Event) (h : PiSessionHandle) :
    (k.opened online (.handle h)).phase.isOpening = none := by
  rw [Call.opened]
  split <;> rfl

variable (Event) in
theorem promptCall_frame (online : Bool) (conn : ConnId) (msg : WsMessage) (uuid : Uuid) :
    (promptCall online conn msg uuid : Call Event).session = promptSession msg uuid ∧
      (promptCall online conn msg uuid : Call Event).task = .unspawned ∧
      (promptCall online conn msg uuid : Call Event).seen = none := by
  rw [promptCall]
  split
  · exact ⟨rfl, rfl, rfl⟩
  · split <;> exact ⟨rfl, rfl, rfl⟩

variable (Event) in
theorem promptCall_phase (online : Bool) (conn : ConnId) (msg : WsMessage) (uuid : Uuid) :
    (promptCall online conn msg uuid : Call Event).phase = .returned ∨
      (promptCall online conn msg uuid : Call Event).phase = .opening .lookup := by
  rw [promptCall]
  split
  · exact Or.inl rfl
  · split <;> exact Or.inr rfl

/-- The handler keeps its handle, and touches neither the turn nor any table but that of the abort
handles. -/
theorem Handled.frame {a : HandlerAction}
    (hh : Handled toWs online app c k h stage a app' k') :
    k'.session = k.session ∧ k'.seen = k.seen ∧ (∃ stage', k'.phase = .running h stage') ∧
      app'.sessionHandles = app.sessionHandles := by
  cases hh <;> exact ⟨rfl, rfl, ⟨_, rfl⟩, rfl⟩

/-- The agent task does not move the handler. -/
theorem Acted.frame {task : Task} {a : AgentAction Event}
    (ha : Acted ag c k h task a ag' k') : k'.session = k.session ∧ k'.phase = k.phase := by
  cases ha <;> exact ⟨rfl, rfl⟩

end Frame

/-! ## A call over time -/

/-- What a call keeps: its session, that it has left the way to its handle, and the handle. -/
structure Call.Follows (k k' : Call Event) : Prop where
  /-- The session stays. -/
  session : k'.session = k.session
  /-- No call goes back. -/
  opened : k.phase.isOpening = none → k'.phase.isOpening = none
  /-- The handle stays. -/
  running : ∀ h stage, k.phase = .running h stage → ∃ stage', k'.phase = .running h stage'

theorem Call.Follows.refl (k : Call Event) : k.Follows k := ⟨rfl, id, fun _ stage hp ↦ ⟨stage, hp⟩⟩

/-- **What a step keeps of every call.** -/
theorem follows_step {hub hub' : Hub Event} {a : Action Event} {d : CallId} {l : Call Event}
    (hl : hub.calls d = some l) (h : step authToken toWs hub a = some hub') :
    ∃ l', hub'.calls d = some l' ∧ l.Follows l' := by
  have hput : ∀ {c : CallId} {k k' : Call Event}, hub.calls c = some k → k.Follows k' →
      ∃ l', Function.update hub.calls c (some k') d = some l' ∧ l.Follows l' := by
    intro c k k' hk hf
    by_cases hd : d = c
    · subst hd
      obtain rfl : k = l := Option.some.inj (hk.symm.trans hl)
      exact ⟨k', Function.update_self .., hf⟩
    · exact ⟨l, by rw [Function.update_of_ne hd, hl], .refl l⟩
  have hstart : ∀ {c : CallId} {k' : Call Event}, hub.calls c = none →
      ∃ l', Function.update hub.calls c (some k') d = some l' ∧ l.Follows l' := by
    intro c k' hnew
    have hd : d ≠ c := by
      rintro rfl
      rw [hnew] at hl
      cases hl
    exact ⟨l, by rw [Function.update_of_ne hd, hl], .refl l⟩
  cases step_cases h with
  | prompt c conn msg uuid hnew => exact hstart hnew
  | newChat c conn msg uuid hnew => exact hstart hnew
  | opening c a k o app r hk hp ho =>
    refine hput hk ⟨(k.opened_frame _ r).1, fun hop ↦ ?_, fun hd stage hrun ↦ ?_⟩
    · simp [hp, Phase.isOpening] at hop
    · simp [hp] at hrun
  | handler c a k hd stage app k' hk hp hh =>
    obtain ⟨hs, -, ⟨stage', hp'⟩, -⟩ := hh.frame
    refine hput hk ⟨hs, fun _ ↦ by rw [hp']; rfl, fun hd' st hrun ↦ ?_⟩
    rw [hp] at hrun
    obtain ⟨rfl, -⟩ := Phase.running.inj hrun
    exact ⟨stage', hp'⟩
  | announce c k hk hp =>
    exact hput hk ⟨rfl, fun _ ↦ rfl, fun hd stage hrun ↦ by simp [hp] at hrun⟩
  | agent c a k hd stage ag k' hk hp ha =>
    obtain ⟨hs, hp'⟩ := ha.frame
    exact hput hk ⟨hs, fun hop ↦ by rw [hp', hop], fun _ st hrun ↦ ⟨st, hp'.trans hrun⟩⟩
  | disconnect conn => exact ⟨l, hl, .refl l⟩
  | stop body fired => exact ⟨l, hl, .refl l⟩
  | setModel req => exact ⟨l, hl, .refl l⟩
  | setProjectCwd s cwd => exact ⟨l, hl, .refl l⟩
  | dropHandle s => exact ⟨l, hl, .refl l⟩

/-! ## Every call was started -/

/-- The call that an action starts. -/
def Action.starts : Action Event → Option CallId
  | .prompt c _ _ _ | .newChat c _ _ _ => some c
  | _ => none

/-- A step that does not start a call does not create it. -/
theorem calls_eq_none_step {hub hub' : Hub Event} {a : Action Event} {d : CallId}
    (hd : hub.calls d = none) (ha : a.starts ≠ some d)
    (h : step authToken toWs hub a = some hub') : hub'.calls d = none := by
  have hput : ∀ {c : CallId} {k : Call Event}, c ≠ d →
      Function.update hub.calls c (some k) d = none := by
    intro c k hc
    rw [Function.update_of_ne (Ne.symm hc), hd]
  have hold : ∀ {c : CallId} {k : Call Event}, hub.calls c = some k → c ≠ d := by
    rintro c k hk rfl
    rw [hd] at hk
    cases hk
  cases step_cases h with
  | prompt c conn msg uuid hnew => exact hput fun hc ↦ ha (congrArg some hc)
  | newChat c conn msg uuid hnew => exact hput fun hc ↦ ha (congrArg some hc)
  | opening c a k o app r hk hp ho => exact hput (hold hk)
  | handler c a k hh stage app k' hk hp hs => exact hput (hold hk)
  | announce c k hk hp => exact hput (hold hk)
  | agent c a k hh stage ag k' hk hp hs => exact hput (hold hk)
  | disconnect conn => exact hd
  | stop body fired => exact hd
  | setModel req => exact hd
  | setProjectCwd s cwd => exact hd
  | dropHandle s => exact hd

/-- A call that no action of a run starts does not exist. -/
theorem calls_eq_none_of_exec {as : List (Action Event)} {hub : Hub Event} {d : CallId}
    (hrun : Machine.exec (step authToken toWs) .init as = some hub)
    (hd : ∀ a ∈ as, a.starts ≠ some d) : hub.calls d = none := by
  have hG : Machine.Guarded (step authToken toWs) (fun _ a ↦ a.starts ≠ some d) .init as :=
    Machine.guarded_of_forall_mem (fun a ha _ ↦ hd a ha) _
  exact Machine.inv_of_guarded (I := fun hub ↦ hub.calls d = none)
    (fun _ _ _ hs ha hstep ↦ calls_eq_none_step hs ha hstep) rfl hG hrun

/-! ## Schedules of one prompt -/

/-- The steps of a prompt whose session has no handle, up to the spawning of its agent task. -/
def firstPrompt (c : CallId) (conn : ConnId) (msg : WsMessage) (uuid : Uuid) :
    List (Action Event) :=
  [.prompt c conn msg uuid, .opening c .lookup, .opening c .readCwd, .opening c .readModel,
    .opening c .created, .opening c .store, .handler c .insertAbort, .handler c .spawn]

/-- The steps of a prompt whose session has a handle, up to the spawning of its agent task. -/
def nextPrompt (c : CallId) (conn : ConnId) (msg : WsMessage) (uuid : Uuid) :
    List (Action Event) :=
  [.prompt c conn msg uuid, .opening c .lookup, .handler c .insertAbort, .handler c .spawn]

end Step

/-- A UUID. -/
def exampleUuid : Uuid := ⟨"0f8fad5b-d9cb-469f-a165-70867728950e", by decide⟩

/-- A prompt. -/
def exampleMessage : WsMessage := ⟨"s", "", "hello", ""⟩

end WorkWithMe.Server
