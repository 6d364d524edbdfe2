import WorkWithMe.Server.Approval
import WorkWithMe.Server.Hub

/-!
# The connections: queues of frames, and the loops that read them

`Sockets` puts the read loops of `handle_socket` in front of the `Hub`.  The frames a client has
sent wait in the queue of its connection.  The loop takes the next one when the handler of the last
one has returned, since it awaits `dispatch_message`; whatever else the server does goes on in
between.

Two records go along: the frames a connection has been served, with what was answered, and the
calls whose text has been handed to a pi session.

* `canTake_iff`: as long as frames are waiting, the loop can take the next one exactly when no
  handler of the connection is pending.
* `free_iff_guarded` says in which runs the loop is free whenever a frame waits while a run of the
  connection is unfinished: those in which no frame waits while a handler is pending.  The handler
  of a prompt stays pending for as long as the run it has spawned can send events to a client that
  is there.
-/

set_option autoImplicit false

namespace WorkWithMe.Server

/-! ## The state -/

/-- A frame that has been served. -/
structure Served where
  /-- The frame. -/
  frame : Incoming
  /-- What was answered at once. -/
  replies : List Reply
  /-- The call that was started for it. -/
  call : Option CallId

/-- The server with its connections. -/
structure Sockets (Event : Type) where
  /-- The handlers and the agent tasks. -/
  hub : Hub Event
  /-- The frames the client of a connection has sent and the loop has not taken. -/
  queue : ConnId → List Incoming
  /-- The loop of a connection is running. -/
  reading : ConnId → Bool
  /-- The approvals. -/
  approvals : ApprovalManager
  /-- The frames a connection has been served. -/
  log : ConnId → List Served
  /-- The calls of a connection whose text has been handed to a pi session. -/
  handed : ConnId → List CallId

/-- What can happen next. -/
inductive SocketAction (Event : Type) where
  /-- A frame of the client arrives. -/
  | arrive (conn : ConnId) (f : Incoming)
  /-- The loop takes the next frame and dispatches it. -/
  | take (conn : ConnId) (c : CallId) (uuid : Uuid)
  /-- The handlers, the tasks and the endpoints go on. -/
  | hub (a : Action Event)

section Step

variable {Event : Type}

/-- The state at the start of the process. -/
def Sockets.init : Sockets Event where
  hub := .init
  queue _ := []
  reading _ := true
  approvals := .new
  log _ := []
  handed _ := []

namespace Sockets

/-- A frame has been taken and served; the frames `q` are left. -/
def served (s : Sockets Event) (conn : ConnId) (q : List Incoming) (e : Served) : Sockets Event :=
  { s with
    queue := Function.update s.queue conn q
    log := Function.update s.log conn (s.log conn ++ [e]) }

/-- The calls whose text has been handed over, after a step of the hub. -/
def handOver (s : Sockets Event) : Action Event → ConnId → List CallId
  | .agent c .acquire =>
    match s.hub.calls c with
    | some k => Function.update s.handed k.conn (s.handed k.conn ++ [c])
    | none => s.handed
  | _ => s.handed

section Transition

variable (t : CharTable) (authToken : String → Option String)
  (toWs : Event → SessionId → Option Json)

/-- One iteration of the loop: it takes the frame `f`, and leaves the frames `q`.  When the loop
ends, the connection is closed and what was left is gone. -/
def serveFrame (s : Sockets Event) (conn : ConnId) (f : Incoming) (q : List Incoming) (c : CallId)
    (uuid : Uuid) : Option (Sockets Event) :=
  match receive t f with
  | .stop replies =>
    some { s.served conn [] ⟨f, replies, none⟩ with
      reading := Function.update s.reading conn false }
  | .answer replies => some (s.served conn q ⟨f, replies, none⟩)
  | .dispatch msg =>
    match dispatchMessage msg s.approvals with
    | .answer replies m => some { s.served conn q ⟨f, replies, none⟩ with approvals := m }
    | .newChat =>
      (Server.step authToken toWs s.hub (.newChat c conn msg.toWsMessage uuid)).map fun hub ↦
        { s.served conn q ⟨f, [], some c⟩ with hub := hub }
    | .prompt =>
      (Server.step authToken toWs s.hub (.prompt c conn msg.toWsMessage uuid)).map fun hub ↦
        { s.served conn q ⟨f, [], some c⟩ with hub := hub }

/-- **One step of the server with its connections.** -/
def step (s : Sockets Event) : SocketAction Event → Option (Sockets Event)
  | .arrive conn f =>
    if s.reading conn = true ∧ s.hub.connected conn = true then
      some { s with queue := Function.update s.queue conn (s.queue conn ++ [f]) }
    else none
  | .take conn c uuid =>
    if s.reading conn = true ∧ s.hub.busy conn = none then
      match s.queue conn with
      | f :: q => s.serveFrame t authToken toWs conn f q c uuid
      | [] => none
    else none
  | .hub a =>
    if a.starts = none then
      (Server.step authToken toWs s.hub a).map fun hub ↦
        { s with hub := hub, handed := s.handOver a }
    else none

end Transition

end Sockets

/-! ## What a step can do -/

variable {t : CharTable} {authToken : String → Option String}
  {toWs : Event → SessionId → Option Json} {s s' : Sockets Event}

/-- The frame starts a call that does not return at once. -/
def StartsCall (t : CharTable) (f : Incoming) : Prop :=
  ∃ msg, receive t f = .dispatch msg ∧
    (route msg.type = .newChat ∨ route msg.type = .prompt ∧ msg.userText ≠ "")

/-- The frame starts no call. -/
def StartsNoCall (t : CharTable) (f : Incoming) : Prop :=
  ∀ msg, receive t f = .dispatch msg → route msg.type ≠ .prompt ∧ route msg.type ≠ .newChat

/-- What an iteration of the loop does, one line for each kind. -/
inductive Taken (t : CharTable) (s : Sockets Event) (conn : ConnId) (f : Incoming)
    (q : List Incoming) (c : CallId) (uuid : Uuid) : Sockets Event → Prop where
  | stop (hf : StartsNoCall t f) (replies : List Reply)
      (hr : (answerFrame t f s.approvals).1 = replies) :
      Taken t s conn f q c uuid { s.served conn [] ⟨f, replies, none⟩ with
        reading := Function.update s.reading conn false }
  | answer (hf : StartsNoCall t f) (replies : List Reply) (m : ApprovalManager)
      (hr : answerFrame t f s.approvals = (replies, m)) :
      Taken t s conn f q c uuid { s.served conn q ⟨f, replies, none⟩ with approvals := m }
  | newChat (msg : Envelope) (hr : receive t f = .dispatch msg) (hroute : route msg.type = .newChat)
      (hnew : s.hub.calls c = none) : Taken t s conn f q c uuid
        { s.served conn q ⟨f, [], some c⟩ with
          hub := s.hub.serve c (newChatCall conn msg.toWsMessage uuid) }
  | prompt (msg : Envelope) (hr : receive t f = .dispatch msg) (hroute : route msg.type = .prompt)
      (hnew : s.hub.calls c = none) : Taken t s conn f q c uuid
        { s.served conn q ⟨f, [], some c⟩ with
          hub := s.hub.serve c
            (promptCall (s.hub.connected conn) conn msg.toWsMessage uuid) }

theorem StartsNoCall.not_startsCall {f : Incoming} (h : StartsNoCall t f) : ¬StartsCall t f := by
  rintro ⟨msg, hr, hroute | ⟨hroute, -⟩⟩
  · exact (h msg hr).2 hroute
  · exact (h msg hr).1 hroute

theorem startsNoCall_of_receive {f : Incoming} (h : ∀ msg, receive t f ≠ .dispatch msg) :
    StartsNoCall t f := fun msg hr ↦ absurd hr (h msg)

theorem startsNoCall_of_answer {f : Incoming} {msg : Envelope} {m m' : ApprovalManager}
    {replies : List Reply} (hr : receive t f = .dispatch msg)
    (hd : dispatchMessage msg m = .answer replies m') : StartsNoCall t f := by
  intro msg' hr'
  obtain rfl := Received.dispatch.inj (hr.symm.trans hr')
  unfold dispatchMessage at hd
  constructor
  · intro h
    rw [h] at hd
    cases hd
  · intro h
    rw [h] at hd
    cases hd

theorem route_of_newChat {msg : Envelope} {m : ApprovalManager}
    (h : dispatchMessage msg m = .newChat) : route msg.type = .newChat := by
  unfold dispatchMessage at h
  split at h <;> first | assumption | cases h

theorem route_of_prompt {msg : Envelope} {m : ApprovalManager}
    (h : dispatchMessage msg m = .prompt) : route msg.type = .prompt := by
  unfold dispatchMessage at h
  split at h <;> first | assumption | cases h

/-- **What an iteration of the loop can do.** -/
theorem serveFrame_cases {conn : ConnId} {f : Incoming} {q : List Incoming} {c : CallId}
    {uuid : Uuid} (h : s.serveFrame t authToken toWs conn f q c uuid = some s') :
    Taken t s conn f q c uuid s' := by
  unfold Sockets.serveFrame at h
  split at h
  · rename_i replies hr
    cases h
    exact .stop (startsNoCall_of_receive (by simp [hr])) replies (by simp [answerFrame, hr])
  · rename_i replies hr
    cases h
    exact .answer (startsNoCall_of_receive (by simp [hr])) replies s.approvals
      (by simp [answerFrame, hr])
  · rename_i msg hr
    split at h
    · rename_i replies m hd
      cases h
      exact .answer (startsNoCall_of_answer hr hd) replies m (by simp [answerFrame, hr, hd])
    · rename_i hd
      obtain ⟨hub, hs, rfl⟩ := Option.map_eq_some_iff.mp h
      obtain ⟨hnew, -, rfl⟩ := step_newChat_eq_some.mp hs
      exact .newChat msg hr (route_of_newChat hd) hnew
    · rename_i hd
      obtain ⟨hub, hs, rfl⟩ := Option.map_eq_some_iff.mp h
      obtain ⟨hnew, -, rfl⟩ := step_prompt_eq_some.mp hs
      exact .prompt msg hr (route_of_prompt hd) hnew

/-- What a step does, one line for each kind. -/
inductive SocketStepped (t : CharTable) (authToken : String → Option String)
    (toWs : Event → SessionId → Option Json) (s : Sockets Event) :
    SocketAction Event → Sockets Event → Prop where
  | arrive (conn : ConnId) (f : Incoming) (hr : s.reading conn = true) :
      SocketStepped t authToken toWs s (.arrive conn f)
        { s with queue := Function.update s.queue conn (s.queue conn ++ [f]) }
  | take (conn : ConnId) (c : CallId) (uuid : Uuid) (f : Incoming) (q : List Incoming)
      (s' : Sockets Event) (hr : s.reading conn = true) (hb : s.hub.busy conn = none)
      (hq : s.queue conn = f :: q) (ht : Taken t s conn f q c uuid s') :
      SocketStepped t authToken toWs s (.take conn c uuid) s'
  | hub (a : Action Event) (hub : Hub Event) (ha : a.starts = none)
      (hs : Server.step authToken toWs s.hub a = some hub) :
      SocketStepped t authToken toWs s (.hub a) { s with hub := hub, handed := s.handOver a }

/-- **What a step can do.** -/
theorem socketStep_cases {a : SocketAction Event} (h : s.step t authToken toWs a = some s') :
    SocketStepped t authToken toWs s a s' := by
  cases a with
  | arrive conn f =>
    rw [Sockets.step, Option.ite_none_right_eq_some] at h
    obtain ⟨⟨hr, -⟩, h⟩ := h
    cases h
    exact .arrive conn f hr
  | take conn c uuid =>
    rw [Sockets.step, Option.ite_none_right_eq_some] at h
    obtain ⟨⟨hr, hb⟩, h⟩ := h
    split at h
    · rename_i f q hq
      exact .take conn c uuid f q s' hr hb hq (serveFrame_cases h)
    · cases h
  | hub a =>
    rw [Sockets.step, Option.ite_none_right_eq_some] at h
    obtain ⟨ha, h⟩ := h
    obtain ⟨hub, hs, rfl⟩ := Option.map_eq_some_iff.mp h
    exact .hub a hub ha hs

/-! ## What a step of the hub does to the calls of a connection -/

/-- A connection serves the call whose handler has not returned. -/
def Serves (hub : Hub Event) : Prop :=
  ∀ c k, hub.calls c = some k → k.hasReturned = false → hub.busy k.conn = some c

theorem Call.conn_opened (online : Bool) (k : Call Event) (r : Opened) :
    (k.opened online r).conn = k.conn := by
  cases r with
  | pending o => rfl
  | handle h => rw [Call.opened]; split <;> rfl
  | failed message => rfl

theorem conn_promptCall (online : Bool) (conn : ConnId) (msg : WsMessage) (uuid : Uuid) :
    (promptCall online conn msg uuid : Call Event).conn = conn := by
  rw [promptCall]
  split
  · rfl
  · split <;> rfl

theorem Handled.conn_eq {online : Bool} {app app' : AppState} {c : CallId} {k k' : Call Event}
    {h : PiSessionHandle} {stage : Stage} {a : HandlerAction}
    (hh : Handled toWs online app c k h stage a app' k') : k'.conn = k.conn := by
  cases hh <;> rfl

theorem Acted.conn_eq {ag ag' : Agents} {c : CallId} {k k' : Call Event} {h : PiSessionHandle}
    {task : Task} {a : AgentAction Event} (ha : Acted ag c k h task a ag' k') :
    k'.conn = k.conn := by
  cases ha <;> rfl

/-- Only a task that has been spawned takes steps. -/
theorem Acted.unfinished {ag ag' : Agents} {c : CallId} {k k' : Call Event} {h : PiSessionHandle}
    {task : Task} {a : AgentAction Event} (ha : Acted ag c k h task a ag' k') :
    task.unfinished = true := by
  cases ha <;> rfl

/-- A handler that takes a step has not returned. -/
theorem Handled.hasReturned_eq {online : Bool} {app app' : AppState} {c : CallId}
    {k k' : Call Event} {h : PiSessionHandle} {stage : Stage} {a : HandlerAction}
    (hh : Handled toWs online app c k h stage a app' k') (hp : k.phase = .running h stage) :
    k.hasReturned = false := by
  cases hh <;> simp [Call.hasReturned, hp]

/-- Nothing but its spawning makes a task unfinished. -/
theorem Handled.unfinished_of_ne {online : Bool} {app app' : AppState} {c : CallId}
    {k k' : Call Event} {h : PiSessionHandle} {stage : Stage} {a : HandlerAction}
    (hh : Handled toWs online app c k h stage a app' k') (ha : a ≠ .spawn) :
    k'.task = k.task := by
  cases hh with
  | spawn => exact absurd rfl ha
  | _ => rfl

/-- A call that its connection is serving, or that it takes up now, moves. -/
theorem serves_serve (hub : Hub Event) (hS : Serves hub) {c : CallId} {k' : Call Event}
    (hb : hub.busy k'.conn = some c ∨ hub.busy k'.conn = none) : Serves (hub.serve c k') := by
  intro d l hd hl
  rw [Hub.calls_serve] at hd
  rw [Hub.busy_serve]
  obtain ⟨rfl, rfl⟩ | ⟨hdc, hd⟩ := calls_update_eq_some hd
  · rw [hl, Function.update_self]
    rfl
  · have hld : hub.busy l.conn = some d := hS d l hd hl
    have hconn : l.conn ≠ k'.conn := by
      intro he
      rw [he] at hld
      rcases hb with hb | hb
      · exact hdc (Option.some.inj (hld.symm.trans hb))
      · cases hld.symm.trans hb
    rw [Function.update_of_ne hconn, hld]

/-- Every step of the hub that starts no call. -/
theorem serves_step {hub hub' : Hub Event} {a : Action Event} (hS : Serves hub)
    (ha : a.starts = none) (h : Server.step authToken toWs hub a = some hub') : Serves hub' := by
  cases step_cases h with
  | prompt c conn msg uuid hnew => cases ha
  | newChat c conn msg uuid hnew => cases ha
  | opening c a k o app r hk hp ho =>
    refine serves_serve { hub with app := app } hS (Or.inl ?_)
    rw [k.conn_opened]
    exact hS c k hk (by simp [Call.hasReturned, hp])
  | handler c a k hd stage app k' hk hp hh =>
    refine serves_serve { hub with app := app } hS (Or.inl ?_)
    rw [hh.conn_eq]
    exact hS c k hk (hh.hasReturned_eq hp)
  | announce c k hk hp =>
    exact serves_serve hub hS (Or.inl (hS c k hk (by simp [Call.hasReturned, hp])))
  | agent c a k hd stage ag k' hk hp ha =>
    intro d l hd hl
    obtain ⟨rfl, rfl⟩ | ⟨-, hd⟩ := calls_update_eq_some hd
    · have hret : k.hasReturned = false := by
        rw [← hl, Call.hasReturned, Call.hasReturned, ha.frame.2]
      rw [ha.conn_eq]
      exact hS d k hk hret
    · exact hS d l hd hl
  | disconnect conn => exact hS
  | stop body fired => exact hS
  | setModel req => exact hS
  | setProjectCwd s cwd => exact hS
  | dropHandle s => exact hS

/-- Where a call comes from: it was there before, and its task is unfinished because it was so
before, or because it has been spawned now. -/
theorem exists_call_of_step {hub hub' : Hub Event} {a : Action Event} {d : CallId}
    {l' : Call Event} (ha : a.starts = none)
    (h : Server.step authToken toWs hub a = some hub') (hd : hub'.calls d = some l') :
    ∃ l, hub.calls d = some l ∧ l'.conn = l.conn ∧
      (l'.task.unfinished = true → l.task.unfinished = true ∨ a = .handler d .spawn) := by
  have hput : ∀ {c : CallId} {k k' : Call Event}, hub.calls c = some k → k'.conn = k.conn →
      (k'.task.unfinished = true → k.task.unfinished = true ∨ a = .handler c .spawn) →
      Function.update hub.calls c (some k') d = some l' → ∃ l, hub.calls d = some l ∧
        l'.conn = l.conn ∧
        (l'.task.unfinished = true → l.task.unfinished = true ∨ a = .handler d .spawn) := by
    intro c k k' hk hconn htask hd
    obtain ⟨rfl, rfl⟩ | ⟨-, hd⟩ := calls_update_eq_some hd
    · exact ⟨k, hk, hconn, htask⟩
    · exact ⟨l', hd, rfl, Or.inl⟩
  cases step_cases h with
  | prompt c conn msg uuid hnew => cases ha
  | newChat c conn msg uuid hnew => cases ha
  | opening c a k o app r hk hp ho =>
    exact hput hk (k.conn_opened _ r) (fun hu ↦ Or.inl ((k.opened_frame _ r).2.1 ▸ hu)) hd
  | handler c a k hh stage app k' hk hp hs =>
    refine hput hk hs.conn_eq (fun hu ↦ ?_) hd
    by_cases hsp : a = .spawn
    · exact Or.inr (by rw [hsp])
    · exact Or.inl (hs.unfinished_of_ne hsp ▸ hu)
  | announce c k hk hp =>
    exact hput hk (show (k.announce (hub.connected k.conn)).conn = k.conn from rfl) Or.inl hd
  | agent c a k hh stage ag k' hk hp hs =>
    exact hput hk hs.conn_eq (fun _ ↦ Or.inl hs.unfinished) hd
  | disconnect conn => exact ⟨l', hd, rfl, Or.inl⟩
  | stop body fired => exact ⟨l', hd, rfl, Or.inl⟩
  | setModel req => exact ⟨l', hd, rfl, Or.inl⟩
  | setProjectCwd s cwd => exact ⟨l', hd, rfl, Or.inl⟩
  | dropHandle s => exact ⟨l', hd, rfl, Or.inl⟩

/-- A connection takes up no call by itself. -/
theorem busy_of_step {hub hub' : Hub Event} {a : Action Event} (hS : Serves hub)
    (ha : a.starts = none) (h : Server.step authToken toWs hub a = some hub') (conn : ConnId) :
    hub'.busy conn = hub.busy conn ∨ hub'.busy conn = none := by
  have hput : ∀ {c : CallId} {k k' : Call Event}, hub.calls c = some k → k.hasReturned = false →
      k'.conn = k.conn →
      Function.update hub.busy k'.conn (if k'.hasReturned then none else some c) conn =
          hub.busy conn ∨
        Function.update hub.busy k'.conn (if k'.hasReturned then none else some c) conn = none := by
    intro c k k' hk hret hconn
    by_cases hne : conn = k'.conn
    · subst hne
      rw [Function.update_self, hconn, hS c k hk hret]
      split
      · exact Or.inr rfl
      · exact Or.inl rfl
    · exact Or.inl (Function.update_of_ne hne ..)
  cases step_cases h with
  | prompt c conn msg uuid hnew => cases ha
  | newChat c conn msg uuid hnew => cases ha
  | opening c a k o app r hk hp ho =>
    exact hput hk (by simp [Call.hasReturned, hp]) (k.conn_opened _ r)
  | handler c a k hh stage app k' hk hp hs => exact hput hk (hs.hasReturned_eq hp) hs.conn_eq
  | announce c k hk hp => exact hput hk (by simp [Call.hasReturned, hp]) rfl
  | agent c a k hh stage ag k' hk hp hs => exact Or.inl rfl
  | disconnect conn => exact Or.inl rfl
  | stop body fired => exact Or.inl rfl
  | setModel req => exact Or.inl rfl
  | setProjectCwd s cwd => exact Or.inl rfl
  | dropHandle s => exact Or.inl rfl

/-! ## What holds in every reachable state -/

/-- What the loops rely on. -/
structure Sockets.Sound (s : Sockets Event) : Prop where
  /-- A connection serves the call whose handler has not returned. -/
  serves : Serves s.hub
  /-- There have been finitely many calls. -/
  finite : ∃ n, ∀ c, n ≤ c → s.hub.calls c = none
  /-- A loop that has ended leaves nothing in its queue. -/
  closed : ∀ conn, s.reading conn = false → s.queue conn = []

theorem Sockets.sound_init : (Sockets.init : Sockets Event).Sound where
  serves _ _ h := by cases h
  finite := ⟨0, fun _ _ ↦ rfl⟩
  closed _ _ := rfl

/-- The calls stay finitely many when one of them is new or moves. -/
theorem finite_update {calls : CallId → Option (Call Event)} (h : ∃ n, ∀ c, n ≤ c → calls c = none)
    (c : CallId) (k : Call Event) :
    ∃ n, ∀ d, n ≤ d → Function.update calls c (some k) d = none := by
  obtain ⟨n, hn⟩ := h
  refine ⟨max n (c + 1), fun d hd ↦ ?_⟩
  obtain ⟨hnd, hcd⟩ := Nat.max_le.mp hd
  rw [Function.update_of_ne (Nat.ne_of_gt hcd), hn d hnd]

/-- The loop has taken a frame of which the queue `q` is left. -/
theorem closed_served {s : Sockets Event} (hc : ∀ conn, s.reading conn = false → s.queue conn = [])
    {conn : ConnId} (hr : s.reading conn = true) (q : List Incoming) {d : ConnId}
    (hd : s.reading d = false) : Function.update s.queue conn q d = [] := by
  have hne : d ≠ conn := by
    rintro rfl
    rw [hr] at hd
    cases hd
  rw [Function.update_of_ne hne, hc d hd]

theorem Taken.sound (hS : s.Sound) {conn : ConnId} {f : Incoming} {q : List Incoming} {c : CallId}
    {uuid : Uuid} (hr : s.reading conn = true) (hb : s.hub.busy conn = none)
    (h : Taken t s conn f q c uuid s') : s'.Sound := by
  cases h with
  | stop hf replies hrep =>
    refine ⟨hS.serves, hS.finite, fun d hd ↦ ?_⟩
    by_cases hdc : d = conn
    · subst hdc
      exact Function.update_self ..
    · have hd' : s.reading d = false := (Function.update_of_ne hdc ..).symm.trans hd
      exact closed_served hS.closed hr [] hd'
  | answer hf replies m hrep =>
    exact ⟨hS.serves, hS.finite, fun d hd ↦ closed_served hS.closed hr q hd⟩
  | newChat msg hrec hroute hnew =>
    exact ⟨serves_serve s.hub hS.serves (Or.inr hb), finite_update hS.finite c _,
      fun d hd ↦ closed_served hS.closed hr q hd⟩
  | prompt msg hrec hroute hnew =>
    refine ⟨serves_serve s.hub hS.serves (Or.inr ?_), finite_update hS.finite c _,
      fun d hd ↦ closed_served hS.closed hr q hd⟩
    rw [conn_promptCall, hb]

theorem Sockets.sound_step {a : SocketAction Event} (hS : s.Sound)
    (h : s.step t authToken toWs a = some s') : s'.Sound := by
  cases socketStep_cases h with
  | arrive conn f hr =>
    exact ⟨hS.serves, hS.finite, fun d hd ↦ closed_served hS.closed hr _ hd⟩
  | take conn c uuid f q s' hr hb hq ht => exact ht.sound hS hr hb
  | hub a hub ha hs =>
    refine ⟨serves_step hS.serves ha hs, ?_, hS.closed⟩
    obtain ⟨n, hn⟩ := hS.finite
    exact ⟨n, fun d hd ↦ calls_eq_none_step (hn d hd) (by simp [ha]) hs⟩

/-! ## When the loop can take a frame -/

variable (t authToken toWs) in
/-- The loop can take the next frame and dispatch it. -/
def CanTake (s : Sockets Event) (conn : ConnId) : Prop :=
  ∃ c uuid s', s.step t authToken toWs (.take conn c uuid) = some s'

/-- An iteration of the loop that finds the connection free goes through. -/
theorem exists_serveFrame (conn : ConnId) (hb : s.hub.busy conn = none) (f : Incoming)
    (q : List Incoming) {c : CallId} (hc : s.hub.calls c = none) (uuid : Uuid) :
    ∃ s', s.serveFrame t authToken toWs conn f q c uuid = some s' := by
  rw [Sockets.serveFrame]
  split
  · exact ⟨_, rfl⟩
  · exact ⟨_, rfl⟩
  · split
    · exact ⟨_, rfl⟩
    · exact ⟨_, Option.map_eq_some_iff.mpr ⟨_, step_newChat_eq_some.mpr ⟨hc, hb, rfl⟩, rfl⟩⟩
    · exact ⟨_, Option.map_eq_some_iff.mpr ⟨_, step_prompt_eq_some.mpr ⟨hc, hb, rfl⟩, rfl⟩⟩

/-- **When the loop can take a frame**: when no handler of the connection is pending. -/
theorem canTake_iff (hS : s.Sound) {conn : ConnId} (hq : s.queue conn ≠ []) :
    CanTake t authToken toWs s conn ↔ s.hub.busy conn = none := by
  constructor
  · rintro ⟨c, uuid, s', h⟩
    rw [Sockets.step, Option.ite_none_right_eq_some] at h
    exact h.1.2
  · intro hb
    obtain ⟨n, hn⟩ := hS.finite
    obtain ⟨f, q, hfq⟩ := List.exists_cons_of_ne_nil hq
    have hr : s.reading conn = true := by
      by_contra hne
      exact hq (hS.closed conn (by simpa using hne))
    obtain ⟨s', hs'⟩ : ∃ s', s.serveFrame t authToken toWs conn f q n exampleUuid = some s' :=
      exists_serveFrame conn hb f q (hn n (Nat.le_refl n)) exampleUuid
    refine ⟨n, exampleUuid, s', ?_⟩
    rw [Sockets.step, if_pos ⟨hr, hb⟩]
    simp only [hfq, hs']

/-- A run that the connection has started is unfinished. -/
def Running (s : Sockets Event) (conn : ConnId) : Prop :=
  ∃ c k, s.hub.calls c = some k ∧ k.conn = conn ∧ k.task.unfinished = true

variable (t authToken toWs) in
/-- While a run of a connection is unfinished, its loop is free to take what waits. -/
def Free (s : Sockets Event) : Prop :=
  ∀ conn, Running s conn → s.queue conn ≠ [] → CanTake t authToken toWs s conn

variable (t) in
/-- The condition on a step: nothing comes to wait behind a pending handler while a run of the
connection is unfinished. -/
def FreeGuard (s : Sockets Event) : SocketAction Event → Prop
  | .arrive conn _ => Running s conn → s.hub.busy conn = none
  | .take conn _ _ => ∀ f q, s.queue conn = f :: q → StartsCall t f → Running s conn → q = []
  | .hub a => ∀ c k, a = .handler c .spawn → s.hub.calls c = some k → s.queue k.conn = []

theorem free_iff (hS : s.Sound) : Free t authToken toWs s ↔
    ∀ conn, Running s conn → s.hub.busy conn ≠ none → s.queue conn = [] := by
  refine forall_congr' fun conn ↦ forall_congr' fun _ ↦ ?_
  by_cases hq : s.queue conn = []
  · simp [hq]
  · rw [canTake_iff hS hq]
    simp [hq]

/-! ### A frame arrives -/

theorem free_arrive_iff (hP : Free t authToken toWs s) (hS : s.Sound) {conn : ConnId} {f : Incoming}
    (hS' : ({ s with
      queue := Function.update s.queue conn (s.queue conn ++ [f]) } : Sockets Event).Sound) :
    Free t authToken toWs { s with
        queue := Function.update s.queue conn (s.queue conn ++ [f]) } ↔
      (Running s conn → s.hub.busy conn = none) := by
  rw [free_iff hS] at hP
  rw [free_iff hS']
  constructor
  · intro h hrun
    by_contra hb
    have hq : Function.update s.queue conn (s.queue conn ++ [f]) conn = [] := h conn hrun hb
    rw [Function.update_self] at hq
    simp at hq
  · intro h d hrun hb
    by_cases hd : d = conn
    · subst hd
      exact absurd (h hrun) hb
    · show Function.update s.queue conn (s.queue conn ++ [f]) d = []
      rw [Function.update_of_ne hd]
      exact hP d hrun hb

/-! ### The loop takes a frame -/

/-- The runs of a connection after it has taken up a call. -/
theorem running_serve_iff {hub : Hub Event} {c : CallId} {k : Call Event} (hc : hub.calls c = none)
    (hk : k.task = .unspawned) (conn : ConnId) :
    (∃ d l, (hub.serve c k).calls d = some l ∧ l.conn = conn ∧ l.task.unfinished = true) ↔
      ∃ d l, hub.calls d = some l ∧ l.conn = conn ∧ l.task.unfinished = true := by
  constructor
  · rintro ⟨d, l, hd, hconn, hu⟩
    obtain ⟨rfl, rfl⟩ | ⟨-, hd⟩ := calls_update_eq_some hd
    · rw [hk] at hu
      cases hu
    · exact ⟨d, l, hd, hconn, hu⟩
  · rintro ⟨d, l, hd, hconn, hu⟩
    refine ⟨d, l, ?_, hconn, hu⟩
    have hne : d ≠ c := by
      rintro rfl
      rw [hc] at hd
      cases hd
    rw [Hub.calls_serve, Function.update_of_ne hne, hd]

/-- The connection takes up a call that is pending afterwards. -/
theorem free_serve_iff (hP : Free t authToken toWs s) (hS : s.Sound) (hS' : s'.Sound)
    {conn : ConnId} {q : List Incoming} {c : CallId} {k : Call Event} (hc : s.hub.calls c = none)
    (hconn : k.conn = conn) (hret : k.hasReturned = false) (hk : k.task = .unspawned)
    (hhub : s'.hub = s.hub.serve c k) (hqueue : s'.queue = Function.update s.queue conn q) :
    Free t authToken toWs s' ↔ (Running s conn → q = []) := by
  have hrun : ∀ d, Running s' d ↔ Running s d := by
    intro d
    rw [Running, hhub]
    exact running_serve_iff hc hk d
  rw [free_iff hS] at hP
  rw [free_iff hS', hhub, hqueue, Hub.busy_serve, hret, hconn]
  simp only [hrun]
  constructor
  · intro h hr
    have := h conn hr (by simp)
    rwa [Function.update_self] at this
  · intro h d hr hb
    by_cases hd : d = conn
    · subst hd
      rw [Function.update_self]
      exact h hr
    · rw [Function.update_of_ne hd] at hb ⊢
      exact hP d hr hb

/-- The loop takes a frame and no handler is pending afterwards. -/
theorem free_of_not_pending (hP : Free t authToken toWs s) (hS : s.Sound) (hS' : s'.Sound)
    {conn : ConnId} {q : List Incoming} (hrun : ∀ d, Running s' d → Running s d)
    (hconn : s'.hub.busy conn = none) (hbusy : ∀ d, d ≠ conn → s'.hub.busy d = s.hub.busy d)
    (hqueue : s'.queue = Function.update s.queue conn q) : Free t authToken toWs s' := by
  rw [free_iff hS] at hP
  rw [free_iff hS']
  intro d hr hb
  by_cases hd : d = conn
  · subst hd
    exact absurd hconn hb
  · rw [hqueue, Function.update_of_ne hd]
    exact hP d (hrun d hr) (hbusy d hd ▸ hb)

theorem free_taken_iff (hP : Free t authToken toWs s) (hS : s.Sound) (hS' : s'.Sound)
    {conn : ConnId} {f : Incoming} {q : List Incoming} {c : CallId} {uuid : Uuid}
    (hb : s.hub.busy conn = none) (h : Taken t s conn f q c uuid s') :
    Free t authToken toWs s' ↔ (StartsCall t f → Running s conn → q = []) := by
  cases h with
  | stop hf replies hr =>
    exact iff_of_true (free_of_not_pending hP hS hS' (fun _ h ↦ h) hb (fun _ _ ↦ rfl) rfl)
      fun h ↦ absurd h hf.not_startsCall
  | answer hf replies m hr =>
    exact iff_of_true (free_of_not_pending hP hS hS' (fun _ h ↦ h) hb (fun _ _ ↦ rfl) rfl)
      fun h ↦ absurd h hf.not_startsCall
  | newChat msg hr hroute hnew =>
    rw [free_serve_iff hP hS hS' hnew rfl rfl rfl rfl rfl]
    exact ⟨fun h _ ↦ h, fun h ↦ h ⟨msg, hr, Or.inl hroute⟩⟩
  | prompt msg hr hroute hnew =>
    have hk := (promptCall_frame Event (s.hub.connected conn) conn msg.toWsMessage uuid).2.1
    have hconn : (promptCall (s.hub.connected conn) conn msg.toWsMessage uuid : Call Event).conn =
        conn := conn_promptCall ..
    by_cases htext : msg.userText = ""
    · -- the prompt is refused, and its handler has returned
      have hf : ¬StartsCall t f := by
        rintro ⟨msg', hr', hroute'⟩
        obtain rfl := Received.dispatch.inj (hr.symm.trans hr')
        rw [hroute] at hroute'
        exact hroute'.elim (by simp) fun h ↦ h.2 htext
      have hret : (promptCall (s.hub.connected conn) conn msg.toWsMessage uuid :
          Call Event).hasReturned = true := by
        rw [promptCall, if_pos htext]
        rfl
      refine iff_of_true (free_of_not_pending hP hS hS' (fun d ↦ (running_serve_iff hnew hk d).mp)
        ?_ (fun d hd ↦ ?_) rfl) fun h ↦ absurd h hf
      · show (s.hub.serve c _).busy conn = none
        rw [Hub.busy_serve, hret, hconn, Function.update_self]
        rfl
      · show (s.hub.serve c _).busy d = s.hub.busy d
        rw [Hub.busy_serve, hconn, Function.update_of_ne hd]
    · have hret : (promptCall (s.hub.connected conn) conn msg.toWsMessage uuid :
          Call Event).hasReturned = false := by
        rw [promptCall, if_neg htext]
        split <;> rfl
      rw [free_serve_iff hP hS hS' hnew hconn hret hk rfl rfl]
      exact ⟨fun h _ ↦ h, fun h ↦ h ⟨msg, hr, Or.inr ⟨hroute, htext⟩⟩⟩

/-! ### The server goes on -/

theorem free_hub_iff (hP : Free t authToken toWs s) (hS : s.Sound) {a : Action Event}
    {hub : Hub Event} (ha : a.starts = none) (hs : Server.step authToken toWs s.hub a = some hub)
    (hS' : ({ s with hub := hub, handed := s.handOver a } : Sockets Event).Sound) :
    Free t authToken toWs { s with hub := hub, handed := s.handOver a } ↔
      ∀ c k, a = .handler c .spawn → s.hub.calls c = some k → s.queue k.conn = [] := by
  rw [free_iff hS] at hP
  rw [free_iff hS']
  constructor
  · rintro h c k rfl hk
    cases step_cases hs with
    | handler c a k' hd stage app k'' hk' hp hh =>
      obtain rfl := Option.some.inj (hk.symm.trans hk')
      cases hh with
      | spawn =>
        refine h k.conn ⟨c, _, Function.update_self .., rfl, rfl⟩ ?_
        show Function.update s.hub.busy k.conn _ k.conn ≠ none
        rw [Function.update_self]
        simp
  · rintro h conn ⟨c, k', hk', hconn, hu⟩ hb
    obtain ⟨k, hk, hkc, hu'⟩ := exists_call_of_step ha hs hk'
    have hkconn : k.conn = conn := hkc ▸ hconn
    rcases hu' hu with hu | rfl
    · refine hP conn ⟨c, k, hk, hkconn, hu⟩ fun hb' ↦ hb ?_
      exact (busy_of_step hS.serves ha hs conn).elim (fun h ↦ h.trans hb') id
    · exact hkconn ▸ h c k rfl hk

/-! ### All steps -/

/-- A step leaves the loops free exactly when it meets the condition. -/
theorem free_step_iff {a : SocketAction Event} (hS : s.Sound) (hP : Free t authToken toWs s)
    (h : s.step t authToken toWs a = some s') :
    Free t authToken toWs s' ↔ FreeGuard t s a := by
  have hS' := Sockets.sound_step hS h
  cases socketStep_cases h with
  | arrive conn f hr => exact free_arrive_iff hP hS hS'
  | take conn c uuid f q s' hr hb hq ht =>
    rw [free_taken_iff hP hS hS' hb ht, FreeGuard, hq]
    constructor
    · rintro h f' q' hfq
      obtain ⟨rfl, rfl⟩ := List.cons.inj hfq
      exact h
    · exact fun h ↦ h f q rfl
  | hub a hub ha hs => exact free_hub_iff hP hS ha hs hS'

/-- **In which runs the loops are free.**  In every state that a run reaches, the loop of every
connection with an unfinished run can take the frame that waits: that is so exactly when no step of
the run lets a frame wait behind a pending handler of a connection with an unfinished run. -/
theorem free_iff_guarded (as : List (SocketAction Event)) (final : Sockets Event)
    (hrun : Machine.exec (Sockets.step t authToken toWs) .init as = some final) :
    (∀ pre post s, as = pre ++ post →
        Machine.exec (Sockets.step t authToken toWs) .init pre = some s →
        Free t authToken toWs s) ↔
      Machine.Guarded (Sockets.step t authToken toWs) (FreeGuard t) .init as :=
  Machine.forall_iff_guarded (fun _ _ _ hS ↦ Sockets.sound_step hS)
    (fun _ _ _ hS hP hs ↦ free_step_iff hS hP hs) Sockets.sound_init
    (fun _ _ hq ↦ absurd rfl hq) hrun

/-! ## How long a handler is pending -/

/-- While its run can send events to a client that is there, a handler forwards them. -/
def Forwarding (hub : Hub Event) : Prop :=
  ∀ c k, hub.calls c = some k → k.sender = true →
    (∃ h, k.phase = .running h .forward) ∨ hub.connected k.conn = false

theorem Call.sender_opened (online : Bool) (k : Call Event) (r : Opened) :
    (k.opened online r).sender = k.sender := by
  cases r with
  | pending o => rfl
  | handle h => rw [Call.opened]; split <;> rfl
  | failed message => rfl

theorem sender_promptCall (online : Bool) (conn : ConnId) (msg : WsMessage) (uuid : Uuid) :
    (promptCall online conn msg uuid : Call Event).sender = false := by
  rw [promptCall]
  split
  · rfl
  · split <;> rfl

/-- The handler leaves its loop when the events are over or the client is gone. -/
theorem Handled.forwarding {online : Bool} {app app' : AppState} {c : CallId} {k k' : Call Event}
    {h : PiSessionHandle} {stage : Stage} {a : HandlerAction}
    (hh : Handled toWs online app c k h stage a app' k')
    (hk : k.sender = true → stage = .forward ∨ online = false) (hs : k'.sender = true) :
    k'.phase = .running h .forward ∨ online = false := by
  cases hh with
  | spawn => exact Or.inl rfl
  | forward e queue hq => exact Or.inl rfl
  | forwardFails e queue hq hoff => exact Or.inr hoff
  | loopClosed hq hsender =>
    have hs' : k.sender = true := hs
    rw [hsender] at hs'
    cases hs'
  | _ => exact (hk hs).elim (by simp) Or.inr

theorem forwarding_step {hub hub' : Hub Event} {a : Action Event} (hF : Forwarding hub)
    (h : Server.step authToken toWs hub a = some hub') : Forwarding hub' := by
  have hput : ∀ {c : CallId} {k' : Call Event}, (k'.sender = true →
      (∃ h, k'.phase = .running h .forward) ∨ hub.connected k'.conn = false) →
      ∀ d l, Function.update hub.calls c (some k') d = some l → l.sender = true →
        (∃ h, l.phase = .running h .forward) ∨ hub.connected l.conn = false := by
    intro c k' hk' d l hd
    obtain ⟨-, rfl⟩ | ⟨-, hd⟩ := calls_update_eq_some hd
    · exact hk'
    · exact hF d l hd
  cases step_cases h with
  | prompt c conn msg uuid hnew =>
    refine hput fun hs ↦ ?_
    rw [sender_promptCall] at hs
    cases hs
  | newChat c conn msg uuid hnew => exact hput fun hs ↦ by cases hs
  | opening c a k o app r hk hp ho =>
    refine hput fun hs ↦ Or.inr ?_
    rw [k.sender_opened] at hs
    rw [k.conn_opened]
    refine (hF c k hk hs).resolve_left ?_
    rw [hp]
    simp
  | handler c a k hd stage app k' hk hp hh =>
    refine hput fun hs ↦ ?_
    rw [hh.conn_eq]
    refine (hh.forwarding (fun hs ↦ ?_) hs).imp_left fun h ↦ ⟨hd, h⟩
    refine (hF c k hk hs).imp_left ?_
    rintro ⟨hd', hp'⟩
    exact (Phase.running.inj (hp.symm.trans hp')).2
  | announce c k hk hp =>
    refine hput fun hs ↦ Or.inr ((hF c k hk hs).resolve_left ?_)
    rw [hp]
    simp
  | agent c a k hd stage ag k' hk hp ha =>
    refine hput fun hs ↦ ?_
    have hsender : k.sender = true := by
      generalize k.task = task at ha
      cases ha with
      | dropCallback => cases hs
      | settle r => cases hs
      | _ => exact hs
    rw [ha.conn_eq, ha.frame.2]
    exact hF c k hk hsender
  | disconnect conn =>
    intro d l hd hs
    refine (hF d l hd hs).imp_right fun hoff ↦ ?_
    show Function.update hub.connected conn false l.conn = false
    by_cases hc : l.conn = conn
    · rw [hc, Function.update_self]
    · rw [Function.update_of_ne hc, hoff]
  | stop body fired => exact hF
  | setModel req => exact hF
  | setProjectCwd s cwd => exact hF
  | dropHandle s => exact hF

/-- The same for a step of the server with its connections. -/
theorem forwarding_socketStep {a : SocketAction Event} (hF : Forwarding s.hub)
    (h : s.step t authToken toWs a = some s') : Forwarding s'.hub := by
  have hnew : ∀ {c : CallId} {k : Call Event}, k.sender = false → Forwarding (s.hub.serve c k) := by
    intro c k hk d l hd hs
    obtain ⟨-, rfl⟩ | ⟨-, hd⟩ := calls_update_eq_some hd
    · rw [hk] at hs
      cases hs
    · exact hF d l hd hs
  cases socketStep_cases h with
  | arrive conn f hr => exact hF
  | take conn c uuid f q s' hr hb hq ht =>
    cases ht with
    | stop hf replies hr => exact hF
    | answer hf replies m hr => exact hF
    | newChat msg hr hroute hc => exact hnew rfl
    | prompt msg hr hroute hc => exact hnew (sender_promptCall _ conn msg.toWsMessage uuid)
  | hub a hub ha hs => exact forwarding_step hF hs

/-- **A run holds up its connection** for as long as it can send events to a client that is
there: whatever waits is not taken. -/
theorem not_canTake_of_sender (as : List (SocketAction Event)) (s : Sockets Event) (c : CallId)
    (k : Call Event) (hrun : Machine.exec (Sockets.step t authToken toWs) .init as = some s)
    (hk : s.hub.calls c = some k) (hsender : k.sender = true)
    (honline : s.hub.connected k.conn = true) (hq : s.queue k.conn ≠ []) :
    ¬CanTake t authToken toWs s k.conn := by
  have hS : s.Sound :=
    Machine.inv_of_exec (fun _ _ _ hS ↦ Sockets.sound_step hS) Sockets.sound_init hrun
  have hF : Forwarding s.hub := Machine.inv_of_exec (I := fun s ↦ Forwarding s.hub)
    (fun _ _ _ hF ↦ forwarding_socketStep hF) (fun _ _ h ↦ by cases h) hrun
  obtain ⟨hd, hp⟩ := (hF c k hk hsender).resolve_right (by simp [honline])
  rw [canTake_iff hS hq, hS.serves c k hk (by simp [Call.hasReturned, hp])]
  simp

end Step

/-! ## A steering message during a run -/

/-- A prompt of the client, its run, and a steering message while it is going. -/
def exampleSteering : List (SocketAction Unit) :=
  [.arrive 0 (.text 48 (some (Client.promptMessage "hello" (some "s") []))),
    .take 0 0 exampleUuid, .hub (.opening 0 .lookup), .hub (.opening 0 .readCwd),
    .hub (.opening 0 .readModel), .hub (.opening 0 .created), .hub (.opening 0 .store),
    .hub (.handler 0 .insertAbort), .hub (.handler 0 .spawn), .hub (.agent 0 .acquire),
    .arrive 0 (.text 46 (some (Client.steerMessage "stop" (some "s"))))]

theorem free_iff_guarded_example :
    ∃ final, Machine.exec (Sockets.step .asciiOnly (fun _ ↦ none) fun (_ : Unit) _ ↦ none) .init
        exampleSteering = some final ∧
      ((∀ pre post s, exampleSteering = pre ++ post →
          Machine.exec (Sockets.step .asciiOnly (fun _ ↦ none) fun (_ : Unit) _ ↦ none) .init pre =
            some s →
          Free .asciiOnly (fun _ ↦ none) (fun _ _ ↦ none) s) ↔
        Machine.Guarded (Sockets.step .asciiOnly (fun _ ↦ none) fun (_ : Unit) _ ↦ none)
          (FreeGuard .asciiOnly) .init exampleSteering) := by
  obtain ⟨final, hrun⟩ : ∃ final, Machine.exec
      (Sockets.step .asciiOnly (fun _ ↦ none) fun (_ : Unit) _ ↦ none) .init exampleSteering =
        some final := ⟨_, rfl⟩
  exact ⟨final, hrun, free_iff_guarded exampleSteering final hrun⟩

/-- **The loops are not always free.**  The steering message waits behind the handler of the prompt
whose run it is meant for. -/
theorem not_free_of_exec :
    ¬ ∀ (as : List (SocketAction Unit)) (s : Sockets Unit),
      Machine.exec (Sockets.step .asciiOnly (fun _ ↦ none) fun _ _ ↦ none) .init as = some s →
        Free .asciiOnly (fun _ ↦ none) (fun _ _ ↦ none) s := by
  intro h
  obtain ⟨s, hrun, hgoing, hq, hb⟩ : ∃ s : Sockets Unit,
      Machine.exec (Sockets.step .asciiOnly (fun _ ↦ none) fun _ _ ↦ none) .init exampleSteering =
        some s ∧ Running s 0 ∧
      s.queue 0 = [.text 46 (some (Client.steerMessage "stop" (some "s")))] ∧
      s.hub.busy 0 = some 0 := ⟨_, rfl, ⟨0, _, rfl, rfl, rfl⟩, rfl, rfl⟩
  have hne : s.queue 0 ≠ [] := by
    rw [hq]
    simp
  have hS : s.Sound :=
    Machine.inv_of_exec (fun _ _ _ hS ↦ Sockets.sound_step hS) Sockets.sound_init hrun
  have hfree := (canTake_iff hS hne).mp (h exampleSteering s hrun 0 hgoing hne)
  rw [hb] at hfree
  cases hfree

end WorkWithMe.Server
