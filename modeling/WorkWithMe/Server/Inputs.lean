import WorkWithMe.Lib.Lists
import WorkWithMe.Server.AgentErrors
import WorkWithMe.Server.Socket

/-!
# What becomes of the user's inputs

The front end sends the inputs of the user as prompts, with a text and perhaps images, and as
steering messages.  The server hands the text of a prompt to the pi session (`prompt_with_abort`);
it acknowledges a steering message and does nothing else with it, and the envelope has no member
for images.

The file follows the inputs of one connection over a run.  `Sockets.Ordered` is the invariant: the
calls of the connection whose text has been handed over are those in the log whose task has had the
mutex, in the order of the log, since the handler of a prompt does not return before.

* `handedInputs_eq_iff`: where the server has accepted all inputs of a connection, they have been
  handed over as they were sent if and only if all of them are prompts without images.
-/

set_option autoImplicit false

namespace WorkWithMe.Server

open Client

/-! ## Inputs -/

/-- An input of the user. -/
structure UserInput where
  /-- Its text. -/
  text : String
  /-- The attached images. -/
  images : List Image
  deriving DecidableEq

/-- The input that a message of the front end carries. -/
def sentInput : Sent → UserInput
  | .steer text => ⟨text, []⟩
  | .prompt text images => ⟨text, images⟩

/-- A frame of the front end: an input of the user, or a frame that carries none. -/
inductive Submission (t : CharTable) where
  /-- An input, in a message of `size` bytes for a session. -/
  | input (size : ℕ) (sessionId : Option SessionId) (sent : Sent)
  /-- Another frame. -/
  | other (f : Incoming) (hf : ∀ msg, receive t f = .dispatch msg →
      route msg.type ≠ .prompt ∧ route msg.type ≠ .steer)

/-- The frame itself. -/
def Submission.frame {t : CharTable} : Submission t → Incoming
  | .input size sessionId sent => .text size (some (sent.toJson sessionId))
  | .other f _ => f

/-- The input, when there is one. -/
def Submission.input? {t : CharTable} : Submission t → Option UserInput
  | .input _ _ sent => some (sentInput sent)
  | .other _ _ => none

/-- The frame is a prompt without images, or carries no input. -/
def Submission.plain {t : CharTable} : Submission t → Bool
  | .input _ _ (.steer _) => false
  | .input _ _ (.prompt _ images) => images.isEmpty
  | .other _ _ => true

/-- What is kept of the input: the text of a prompt. -/
def Submission.kept {t : CharTable} : Submission t → Option UserInput
  | .input _ _ (.prompt text _) => some ⟨text, []⟩
  | .input _ _ (.steer _) | .other _ _ => none

/-! ## What is handed over -/

/-- The task has taken the mutex and handed over its text. -/
def Task.handed : Task → Bool
  | .prompting | .settled _ | .reported _ | .finished _ => true
  | .unspawned | .waiting => false

section Run

variable {Event : Type}

/-- What a call hands to its pi session: the text alone. -/
def Call.input? (k : Call Event) : Option UserInput :=
  match k.request with
  | .prompt text => some ⟨text, []⟩
  | .newChat _ => none

/-- The inputs a connection has handed over. -/
def handedInputs (s : Sockets Event) (conn : ConnId) : List UserInput :=
  (s.handed conn).filterMap fun c ↦ (s.hub.calls c).bind Call.input?

/-- The input was accepted: it was acknowledged, or its prompt went through without an error. -/
def Accepted (s : Sockets Event) (e : Served) : Prop :=
  (∃ sid, .steerAck sid ∈ e.replies) ∨
    ∃ c k, e.call = some c ∧ s.hub.calls c = some k ∧ (∃ sid, .promptComplete sid ∈ k.delivered) ∧
      ∀ message, .error message ∉ k.delivered

/-! ## A call hands its text over before its handler returns -/

/-- The handler has spawned the task. -/
def Phase.spawned : Phase → Bool
  | .running _ .insertAbort | .running _ .spawn => false
  | .running _ _ => true
  | _ => false

/-- **How the handler and the task of a call keep step.** -/
structure Call.Handing (k : Call Event) : Prop where
  /-- The task is there once the handler has spawned it. -/
  spawned : k.task = .unspawned ↔ k.phase.spawned = false
  /-- A task that is not there has sent nothing. -/
  fresh : k.task = .unspawned → k.queue = []
  /-- While the task waits for the mutex, the handler waits for its events. -/
  waiting : k.task = .waiting → (∃ h, k.phase = .running h .forward) ∧ k.sender = true ∧
    k.queue = []
  /-- The end of a prompt is announced once its text has been handed over. -/
  complete : ∀ sid, .promptComplete sid ∈ k.delivered → k.task.handed = true

variable {toWs : Event → SessionId → Option Json} {k k' : Call Event}

theorem Task.handed_of_ne {task : Task} (hu : task ≠ .unspawned) (hw : task ≠ .waiting) :
    task.handed = true := by
  cases task with
  | unspawned => exact absurd rfl hu
  | waiting => exact absurd rfl hw
  | _ => rfl

/-- A call whose text has been handed over. -/
theorem Call.handing_of_handed (hs : k.phase.spawned = true) (hh : k.task.handed = true) :
    k.Handing where
  spawned := by
    refine iff_of_false (fun hu ↦ ?_) (by simp [hs])
    rw [hu] at hh
    cases hh
  fresh hu := by
    rw [hu] at hh
    cases hh
  waiting hw := by
    rw [hw] at hh
    cases hh
  complete _ _ := hh

/-- A call whose task has not been spawned. -/
theorem Call.handing_of_unspawned (hs : k.phase.spawned = false) (hu : k.task = .unspawned)
    (hq : k.queue = []) (hd : ∀ sid, .promptComplete sid ∉ k.delivered) : k.Handing where
  spawned := iff_of_true hu hs
  fresh _ := hq
  waiting hw := by
    rw [hu] at hw
    cases hw
  complete sid h := absurd h (hd sid)

/-- Nothing has been completed by a call whose task has not been spawned. -/
theorem Call.Handing.notMem (hk : k.Handing) (hu : k.task = .unspawned) (sid : SessionId) :
    .promptComplete sid ∉ k.delivered := by
  intro h
  have hh := hk.complete sid h
  rw [hu] at hh
  cases hh

/-- A handler that has spawned its task and has left the loop: the text has been handed over. -/
theorem Call.Handing.handed (hk : k.Handing) {h : PiSessionHandle} {stage : Stage}
    (hp : k.phase = .running h stage) (hs : k.phase.spawned = true) (hf : stage ≠ .forward) :
    k.task.handed = true := by
  refine Task.handed_of_ne (fun hu ↦ ?_) fun hw ↦ ?_
  · rw [hk.spawned.mp hu] at hs
    cases hs
  · obtain ⟨⟨h', hp'⟩, -⟩ := hk.waiting hw
    exact hf (Phase.running.inj (hp.symm.trans hp')).2

/-- In the loop that forwards events, once there is one or there will be none any more. -/
theorem Call.Handing.handed_of_forward (hk : k.Handing) (hs : k.phase.spawned = true)
    (he : k.queue ≠ [] ∨ k.sender = false) : k.task.handed = true := by
  refine Task.handed_of_ne (fun hu ↦ ?_) fun hw ↦ ?_
  · rw [hk.spawned.mp hu] at hs
    cases hs
  · obtain ⟨-, hsend, hq⟩ := hk.waiting hw
    rcases he with he | he
    · exact he hq
    · rw [hsend] at he
      cases he

/-! ### The steps of a call -/

theorem Call.Handing.handler (hk : k.Handing) {online : Bool} {app app' : AppState} {c : CallId}
    {h : PiSessionHandle} {stage : Stage} {a : HandlerAction} (hp : k.phase = .running h stage)
    (hh : Handled toWs online app c k h stage a app' k') : k'.Handing := by
  cases hh with
  | insertAbort =>
    have hu : k.task = .unspawned := hk.spawned.mpr (by rw [hp]; rfl)
    exact Call.handing_of_unspawned rfl hu (hk.fresh hu) (hk.notMem hu)
  | spawn =>
    have hu : k.task = .unspawned := hk.spawned.mpr (by rw [hp]; rfl)
    exact ⟨by simp [Call.goto, Phase.spawned], fun hw ↦ (hk.fresh hu), fun _ ↦
      ⟨⟨h, rfl⟩, rfl, hk.fresh hu⟩, fun sid hs ↦ absurd hs (hk.notMem hu sid)⟩
  | forward e queue hq =>
    exact Call.handing_of_handed rfl
      (hk.handed_of_forward (by rw [hp]; rfl) (Or.inl (by simp [hq])))
  | forwardFails e queue hq hoff =>
    exact Call.handing_of_handed rfl
      (hk.handed_of_forward (by rw [hp]; rfl) (Or.inl (by simp [hq])))
  | loopClosed hq hs =>
    exact Call.handing_of_handed rfl (hk.handed_of_forward (by rw [hp]; rfl) (Or.inr hs))
  | report => exact Call.handing_of_handed rfl (hk.handed hp (by rw [hp]; rfl) (by simp))
  | complete => exact Call.handing_of_handed rfl (hk.handed hp (by rw [hp]; rfl) (by simp))
  | cleanup => exact Call.handing_of_handed rfl (hk.handed hp (by rw [hp]; rfl) (by simp))
  | label text => exact Call.handing_of_handed rfl (hk.handed hp (by rw [hp]; rfl) (by simp))

theorem Call.Handing.agent (hk : k.Handing) {ag ag' : Agents} {c : CallId} {h : PiSessionHandle}
    {a : AgentAction Event} (ha : Acted ag c k h k.task a ag' k') :
    k'.Handing ∧ k'.task.handed = true := by
  have hs : k.phase.spawned = true := by
    by_contra hs
    have hu : k.task.unfinished = true := ha.unfinished
    rw [hk.spawned.mpr (by simpa using hs)] at hu
    cases hu
  have hh : k'.task.handed = true := by
    generalize ht : k.task = task at ha
    cases ha with
    | emit e hs => exact (congrArg Task.handed ht).trans rfl
    | dropCallback => exact (congrArg Task.handed ht).trans rfl
    | _ => rfl
  exact ⟨Call.handing_of_handed (by rw [ha.frame.2, hs]) hh, hh⟩

theorem Call.request_opened (online : Bool) (k : Call Event) (r : Opened) :
    (k.opened online r).request = k.request := by
  cases r with
  | pending o => rfl
  | handle h => rw [Call.opened]; split <;> rfl
  | failed message => rfl

theorem Handled.request_eq {online : Bool} {app app' : AppState} {c : CallId}
    {h : PiSessionHandle} {stage : Stage} {a : HandlerAction}
    (hh : Handled toWs online app c k h stage a app' k') : k'.request = k.request := by
  cases hh <;> rfl

theorem Acted.request_eq {ag ag' : Agents} {c : CallId} {h : PiSessionHandle} {task : Task}
    {a : AgentAction Event} (ha : Acted ag c k h task a ag' k') : k'.request = k.request := by
  cases ha <;> rfl

theorem Call.Handing.opened (hk : k.Handing) {o : Opening} (hp : k.phase = .opening o)
    (online : Bool) (r : Opened) : (k.opened online r).Handing := by
  have hu : k.task = .unspawned := hk.spawned.mpr (by rw [hp]; rfl)
  cases r with
  | pending o => exact Call.handing_of_unspawned rfl hu (hk.fresh hu) (hk.notMem hu)
  | handle h =>
    rw [Call.opened]
    split
    · exact Call.handing_of_unspawned rfl hu (hk.fresh hu) (hk.notMem hu)
    · exact Call.handing_of_unspawned rfl hu (hk.fresh hu) (hk.notMem hu)
  | failed message =>
    refine Call.handing_of_unspawned rfl hu (hk.fresh hu) fun sid hs ↦ hk.notMem hu sid ?_
    refine (List.mem_append.mp hs).resolve_right ?_
    split <;> simp

theorem Call.Handing.announce (hk : k.Handing) (hp : k.phase = .announcing) (online : Bool) :
    (k.announce online).Handing := by
  have hu : k.task = .unspawned := hk.spawned.mpr (by rw [hp]; rfl)
  refine Call.handing_of_unspawned rfl hu (hk.fresh hu) fun sid hs ↦ hk.notMem hu sid ?_
  refine (List.mem_append.mp hs).resolve_right ?_
  split <;> simp

theorem handing_promptCall (online : Bool) (conn : ConnId) (msg : WsMessage) (uuid : Uuid) :
    (promptCall online conn msg uuid : Call Event).Handing := by
  rw [promptCall]
  split
  · exact Call.handing_of_unspawned rfl rfl rfl fun sid ↦ by cases online <;> simp [Call.send,
      Call.start]
  · split
    · exact Call.handing_of_unspawned rfl rfl rfl fun sid ↦ by cases online <;> simp [Call.send,
        Call.start]
    · exact Call.handing_of_unspawned rfl rfl rfl fun sid ↦ by simp [Call.start]

theorem handing_newChatCall (conn : ConnId) (msg : WsMessage) (uuid : Uuid) :
    (newChatCall conn msg uuid : Call Event).Handing :=
  Call.handing_of_unspawned rfl rfl rfl fun sid ↦ by simp [newChatCall, Call.start]

/-! ### The steps of the hub -/

variable {authToken : String → Option String} {hub hub' : Hub Event} {a : Action Event}

theorem handing_step (hH : ∀ c k, hub.calls c = some k → k.Handing)
    (h : Server.step authToken toWs hub a = some hub') :
    ∀ c k, hub'.calls c = some k → k.Handing := by
  have hput : ∀ {c : CallId} {k' : Call Event}, k'.Handing →
      ∀ d l, Function.update hub.calls c (some k') d = some l → l.Handing := by
    intro c k' hk' d l hd
    obtain ⟨-, rfl⟩ | ⟨-, hd⟩ := calls_update_eq_some hd
    · exact hk'
    · exact hH d l hd
  cases step_cases h with
  | prompt c conn msg uuid hnew => exact hput (handing_promptCall _ conn msg uuid)
  | newChat c conn msg uuid hnew => exact hput (handing_newChatCall conn msg uuid)
  | opening c a k o app r hk hp ho => exact hput ((hH c k hk).opened hp _ r)
  | handler c a k hd stage app k' hk hp hh => exact hput ((hH c k hk).handler hp hh)
  | announce c k hk hp => exact hput ((hH c k hk).announce hp _)
  | agent c a k hd stage ag k' hk hp ha => exact hput ((hH c k hk).agent ha).1
  | disconnect conn => exact hH
  | stop body fired => exact hH
  | setModel req => exact hH
  | setProjectCwd s cwd => exact hH
  | dropHandle s => exact hH

/-- Nothing but the acquisition of the mutex hands a text over. -/
theorem Call.Handing.handed_of_handler (hk : k.Handing) {online : Bool} {app app' : AppState}
    {c : CallId} {h : PiSessionHandle} {stage : Stage} {b : HandlerAction}
    (hp : k.phase = .running h stage) (hh : Handled toWs online app c k h stage b app' k') :
    k'.task.handed = k.task.handed := by
  cases hh with
  | spawn => rw [hk.spawned.mpr (by rw [hp]; rfl)]; rfl
  | _ => rfl

theorem Acted.handed_of_ne {ag ag' : Agents} {c : CallId} {h : PiSessionHandle}
    {b : AgentAction Event} (ha : Acted ag c k h k.task b ag' k') (hb : b ≠ .acquire) :
    k'.task.handed = k.task.handed := by
  generalize ht : k.task = task at ha
  cases ha with
  | acquire hfree => exact absurd rfl hb
  | emit e hs => exact congrArg Task.handed ht
  | dropCallback => exact congrArg Task.handed ht
  | _ => rfl

/-- **What becomes of a call.** -/
theorem call_of_step {d : CallId} {l : Call Event}
    (hH : ∀ c k, hub.calls c = some k → k.Handing) (hl : hub.calls d = some l)
    (h : Server.step authToken toWs hub a = some hub') :
    ∃ l', hub'.calls d = some l' ∧ l'.conn = l.conn ∧ l'.request = l.request ∧
      (a ≠ .agent d .acquire → l'.task.handed = l.task.handed) := by
  have hput : ∀ {c : CallId} {k k' : Call Event}, hub.calls c = some k → k'.conn = k.conn →
      k'.request = k.request →
      (a ≠ .agent c .acquire → k'.task.handed = k.task.handed) →
      ∃ l', Function.update hub.calls c (some k') d = some l' ∧ l'.conn = l.conn ∧
        l'.request = l.request ∧ (a ≠ .agent d .acquire → l'.task.handed = l.task.handed) := by
    intro c k k' hk hconn hreq hhand
    by_cases hd : d = c
    · subst hd
      obtain rfl := Option.some.inj (hk.symm.trans hl)
      exact ⟨k', Function.update_self .., hconn, hreq, hhand⟩
    · exact ⟨l, by rw [Function.update_of_ne hd, hl], rfl, rfl, fun _ ↦ rfl⟩
  have hnew : ∀ {c : CallId} {k' : Call Event}, hub.calls c = none →
      ∃ l', Function.update hub.calls c (some k') d = some l' ∧ l'.conn = l.conn ∧
        l'.request = l.request ∧ (a ≠ .agent d .acquire → l'.task.handed = l.task.handed) := by
    intro c k' hc
    have hd : d ≠ c := by
      rintro rfl
      rw [hc] at hl
      cases hl
    exact ⟨l, by rw [Function.update_of_ne hd, hl], rfl, rfl, fun _ ↦ rfl⟩
  cases step_cases h with
  | prompt c conn msg uuid hc => exact hnew hc
  | newChat c conn msg uuid hc => exact hnew hc
  | opening c b k o app r hk hp ho =>
    exact hput hk (k.conn_opened _ r) (k.request_opened _ r) fun _ ↦
      congrArg Task.handed (k.opened_frame _ r).2.1
  | handler c b k hd stage app k' hk hp hh =>
    exact hput hk hh.conn_eq hh.request_eq fun _ ↦ (hH c k hk).handed_of_handler hp hh
  | announce c k hk hp =>
    exact hput hk (show (k.announce (hub.connected k.conn)).conn = k.conn from rfl) rfl
      fun _ ↦ rfl
  | agent c b k hd stage ag k' hk hp ha =>
    exact hput hk ha.conn_eq ha.request_eq fun hb ↦
      ha.handed_of_ne fun he ↦ hb (by rw [he])
  | disconnect conn => exact ⟨l, hl, rfl, rfl, fun _ ↦ rfl⟩
  | stop body fired => exact ⟨l, hl, rfl, rfl, fun _ ↦ rfl⟩
  | setModel req => exact ⟨l, hl, rfl, rfl, fun _ ↦ rfl⟩
  | setProjectCwd s cwd => exact ⟨l, hl, rfl, rfl, fun _ ↦ rfl⟩
  | dropHandle s => exact ⟨l, hl, rfl, rfl, fun _ ↦ rfl⟩

/-! ## The log of a connection -/

/-- The calls that were started for the frames of a connection. -/
def callsOf (log : List Served) : List CallId := log.filterMap Served.call

/-- The text of the call has been handed over. -/
def wasHanded (hub : Hub Event) (c : CallId) : Bool :=
  ((hub.calls c).map fun k ↦ k.task.handed).getD false

/-- What a line of the log says: the frame has started the call it asks for, or it was answered and
was no prompt. -/
inductive Logged (t : CharTable) (hub : Hub Event) (conn : ConnId) (e : Served) : Prop where
  | prompt (c : CallId) (k : Call Event) (msg : Envelope) (he : e.call = some c)
      (hk : hub.calls c = some k) (hconn : k.conn = conn) (hr : receive t e.frame = .dispatch msg)
      (hroute : route msg.type = .prompt) (hreq : k.request = .prompt msg.userText)
      (hrep : e.replies = [])
  | newChat (c : CallId) (k : Call Event) (msg : Envelope) (he : e.call = some c)
      (hk : hub.calls c = some k) (hconn : k.conn = conn) (hr : receive t e.frame = .dispatch msg)
      (hroute : route msg.type = .newChat) (hreq : k.request = .newChat msg.cwd)
      (hrep : e.replies = [])
  | answer (m : ApprovalManager) (he : e.call = none)
      (hf : ∀ msg, receive t e.frame = .dispatch msg → route msg.type ≠ .prompt)
      (hrep : e.replies = (answerFrame t e.frame m).1)

/-- **The order in which texts are handed over.** -/
structure Sockets.Ordered (t : CharTable) (s : Sockets Event) : Prop where
  /-- Handlers and tasks keep step. -/
  handing : ∀ c k, s.hub.calls c = some k → k.Handing
  /-- Every line of the log is true. -/
  logged : ∀ conn e, e ∈ s.log conn → Logged t s.hub conn e
  /-- No call is logged twice. -/
  nodup : ∀ conn, (callsOf (s.log conn)).Nodup
  /-- The call that is served is the last one. -/
  last : ∀ conn c, s.hub.busy conn = some c → ∃ l, callsOf (s.log conn) = l ++ [c]
  /-- The texts are handed over in the order of the log. -/
  handed : ∀ conn, s.handed conn = (callsOf (s.log conn)).filter (wasHanded s.hub)

theorem Sockets.ordered_init (t : CharTable) : (Sockets.init : Sockets Event).Ordered t where
  handing _ _ h := by cases h
  logged _ _ h := by cases h
  nodup _ := List.nodup_nil
  last _ _ h := by cases h
  handed _ := rfl

theorem callsOf_concat (log : List Served) (e : Served) :
    callsOf (log ++ [e]) = callsOf log ++ e.call.toList := by
  rw [callsOf, List.filterMap_append, callsOf]
  cases h : e.call <;> simp [h]

variable {t : CharTable} {s s' : Sockets Event} {conn : ConnId} {c : CallId}

/-- A call of the log is there. -/
theorem Logged.exists_call {e : Served} (h : Logged t hub conn e) (he : e.call = some c) :
    ∃ k, hub.calls c = some k ∧ k.conn = conn := by
  cases h with
  | prompt c' k msg he' hk hconn hr hroute hreq hrep =>
    obtain rfl := Option.some.inj (he.symm.trans he')
    exact ⟨k, hk, hconn⟩
  | newChat c' k msg he' hk hconn hr hroute hreq hrep =>
    obtain rfl := Option.some.inj (he.symm.trans he')
    exact ⟨k, hk, hconn⟩
  | answer m he' hf hrep => cases he.symm.trans he'

theorem Sockets.Ordered.exists_call (hO : s.Ordered t) (hc : c ∈ callsOf (s.log conn)) :
    ∃ k, s.hub.calls c = some k ∧ k.conn = conn := by
  obtain ⟨e, he, hec⟩ := List.mem_filterMap.mp hc
  exact (hO.logged conn e he).exists_call hec

/-- A line of the log stays true when the calls only move. -/
theorem Logged.of_moves {e : Served} (h : Logged t hub conn e)
    (hm : ∀ c k, hub.calls c = some k →
      ∃ k', hub'.calls c = some k' ∧ k'.conn = k.conn ∧ k'.request = k.request) :
    Logged t hub' conn e := by
  cases h with
  | prompt c k msg he hk hconn hr hroute hreq hrep =>
    obtain ⟨k', hk', hc', hr'⟩ := hm c k hk
    exact .prompt c k' msg he hk' (hc'.trans hconn) hr hroute (hr'.trans hreq) hrep
  | newChat c k msg he hk hconn hr hroute hreq hrep =>
    obtain ⟨k', hk', hc', hr'⟩ := hm c k hk
    exact .newChat c k' msg he hk' (hc'.trans hconn) hr hroute (hr'.trans hreq) hrep
  | answer m he hf hrep => exact .answer m he hf hrep

/-! ### A frame is taken -/

/-- A frame is answered at once. -/
theorem Sockets.Ordered.of_answered (hO : s.Ordered t) (hhub : s'.hub = s.hub)
    (hhanded : s'.handed = s.handed) {e : Served} (he : e.call = none)
    (hlog : s'.log = Function.update s.log conn (s.log conn ++ [e]))
    (hlogged : Logged t s.hub conn e) : s'.Ordered t := by
  have hcalls : ∀ d, callsOf (s'.log d) = callsOf (s.log d) := by
    intro d
    rw [hlog]
    by_cases hd : d = conn
    · subst hd
      rw [Function.update_self, callsOf_concat, he, Option.toList_none, List.append_nil]
    · rw [Function.update_of_ne hd]
  refine ⟨hhub ▸ hO.handing, fun d e' he' ↦ ?_, fun d ↦ hcalls d ▸ hO.nodup d, fun d c hb ↦ ?_,
    fun d ↦ ?_⟩
  · rw [hhub]
    rw [hlog] at he'
    by_cases hd : d = conn
    · subst hd
      rw [Function.update_self, List.mem_append, List.mem_singleton] at he'
      rcases he' with he' | rfl
      · exact hO.logged d e' he'
      · exact hlogged
    · rw [Function.update_of_ne hd] at he'
      exact hO.logged d e' he'
  · rw [hcalls]
    exact hO.last d c (hhub ▸ hb)
  · rw [hcalls, hhub, hhanded]
    exact hO.handed d

/-- A frame starts a call. -/
theorem Sockets.Ordered.of_started (hO : s.Ordered t) {k : Call Event} (hk : k.Handing)
    (hu : k.task = .unspawned) (hconn : k.conn = conn) (hc : s.hub.calls c = none) {e : Served}
    (he : e.call = some c) (hhub : s'.hub = s.hub.serve c k) (hhanded : s'.handed = s.handed)
    (hlog : s'.log = Function.update s.log conn (s.log conn ++ [e]))
    (hlogged : Logged t s'.hub conn e) : s'.Ordered t := by
  have hfresh : ∀ {d l}, s.hub.calls d = some l → d ≠ c := by
    rintro d l hd rfl
    rw [hc] at hd
    cases hd
  have hold : ∀ d l, s.hub.calls d = some l →
      ∃ l', s'.hub.calls d = some l' ∧ l'.conn = l.conn ∧ l'.request = l.request := by
    intro d l hd
    refine ⟨l, ?_, rfl, rfl⟩
    rw [hhub, Hub.calls_serve, Function.update_of_ne (hfresh hd), hd]
  have hnot : c ∉ callsOf (s.log conn) := by
    intro hmem
    obtain ⟨l, hl, -⟩ := hO.exists_call hmem
    exact hfresh hl rfl
  have hsame : ∀ d, (callsOf (s.log d)).filter (wasHanded s'.hub) =
      (callsOf (s.log d)).filter (wasHanded s.hub) := by
    intro d
    refine List.filter_congr fun c' hc' ↦ ?_
    obtain ⟨l, hl, -⟩ := hO.exists_call hc'
    rw [wasHanded, wasHanded, hhub, Hub.calls_serve, Function.update_of_ne (hfresh hl)]
  have hnew : wasHanded s'.hub c = false := by
    rw [wasHanded, hhub, Hub.calls_serve, Function.update_self, Option.map_some, hu]
    rfl
  refine ⟨fun d l hd ↦ ?_, fun d e' he' ↦ ?_, fun d ↦ ?_, fun d c' hb ↦ ?_, fun d ↦ ?_⟩
  · rw [hhub] at hd
    obtain ⟨-, rfl⟩ | ⟨-, hd⟩ := calls_update_eq_some hd
    · exact hk
    · exact hO.handing d l hd
  · rw [hlog] at he'
    by_cases hd : d = conn
    · subst hd
      rw [Function.update_self, List.mem_append, List.mem_singleton] at he'
      rcases he' with he' | rfl
      · exact (hO.logged d e' he').of_moves hold
      · exact hlogged
    · rw [Function.update_of_ne hd] at he'
      exact (hO.logged d e' he').of_moves hold
  · rw [hlog]
    by_cases hd : d = conn
    · subst hd
      rw [Function.update_self, callsOf_concat, he]
      exact List.nodup_append.mpr ⟨hO.nodup d, by simp, fun x hx y hy hxy ↦ hnot
        (by rw [Option.toList_some, List.mem_singleton] at hy; exact hy ▸ hxy ▸ hx)⟩
    · rw [Function.update_of_ne hd]
      exact hO.nodup d
  · rw [hhub, Hub.busy_serve, hconn] at hb
    rw [hlog]
    by_cases hd : d = conn
    · subst hd
      rw [Function.update_self] at hb ⊢
      split at hb
      · cases hb
      · obtain rfl := Option.some.inj hb
        exact ⟨callsOf (s.log d), by rw [callsOf_concat, he]; rfl⟩
    · rw [Function.update_of_ne hd] at hb ⊢
      exact hO.last d c' hb
  · rw [hhanded, hO.handed d, ← hsame d, hlog]
    by_cases hd : d = conn
    · subst hd
      rw [Function.update_self, callsOf_concat, he, Option.toList_some, List.filter_append]
      simp [hnew]
    · rw [Function.update_of_ne hd]

theorem request_promptCall (online : Bool) (conn : ConnId) (msg : WsMessage) (uuid : Uuid) :
    (promptCall online conn msg uuid : Call Event).request = .prompt msg.userText := by
  rw [promptCall]
  split
  · rfl
  · split <;> rfl

theorem Taken.ordered (hO : s.Ordered t) {f : Incoming} {q : List Incoming} {uuid : Uuid}
    (h : Taken t s conn f q c uuid s') : s'.Ordered t := by
  cases h with
  | stop hf replies hr =>
    exact hO.of_answered rfl rfl (e := ⟨f, replies, none⟩) rfl rfl
      (.answer s.approvals rfl (fun msg hm ↦ (hf msg hm).1) hr.symm)
  | answer hf replies m hr =>
    exact hO.of_answered rfl rfl (e := ⟨f, replies, none⟩) rfl rfl
      (.answer s.approvals rfl (fun msg hm ↦ (hf msg hm).1) (by rw [hr]))
  | newChat msg hr hroute hnew =>
    exact hO.of_started (e := ⟨f, [], some c⟩) (handing_newChatCall conn msg.toWsMessage uuid) rfl
      rfl hnew rfl rfl rfl rfl
      (.newChat c _ msg rfl (Function.update_self ..) rfl hr hroute rfl rfl)
  | prompt msg hr hroute hnew =>
    have hconn : (promptCall (s.hub.connected conn) conn msg.toWsMessage uuid : Call Event).conn =
        conn := conn_promptCall ..
    exact hO.of_started (e := ⟨f, [], some c⟩) (handing_promptCall _ conn msg.toWsMessage uuid)
      (promptCall_frame Event _ conn msg.toWsMessage uuid).2.1 hconn hnew rfl rfl rfl rfl
      (.prompt c _ msg rfl (Function.update_self ..) hconn hr hroute
        (request_promptCall _ conn msg.toWsMessage uuid) rfl)

/-! ### The server goes on -/

/-- The calls that are left when one more has been handed over, which is the last of them. -/
theorem filter_concat_of_last {l : List CallId} {p p' : CallId → Bool} (hnd : (l ++ [c]).Nodup)
    (hc : p c = false) (hc' : p' c = true) (hp : ∀ d ∈ l, d ≠ c → p' d = p d) :
    (l ++ [c]).filter p' = (l ++ [c]).filter p ++ [c] := by
  have hl : l.filter p' = l.filter p := by
    refine List.filter_congr fun d hd ↦ hp d hd ?_
    rintro rfl
    exact (List.nodup_append.mp hnd).2.2 d hd d (List.mem_singleton_self d) rfl
  rw [List.filter_append, List.filter_append, hl]
  simp [hc, hc']

/-- Whether a call has been handed over stays as it is, but for the one that acquires. -/
theorem wasHanded_step (hH : ∀ c k, hub.calls c = some k → k.Handing)
    (h : Server.step authToken toWs hub a = some hub') {d : CallId} {l : Call Event}
    (hl : hub.calls d = some l) (ha : a ≠ .agent d .acquire) :
    wasHanded hub' d = wasHanded hub d := by
  obtain ⟨l', hl', -, -, hh⟩ := call_of_step hH hl h
  rw [wasHanded, wasHanded, hl, hl', Option.map_some, Option.map_some, hh ha]

theorem Sockets.handOver_acquire {k : Call Event} (hk : s.hub.calls c = some k) :
    s.handOver (.agent c .acquire) =
      Function.update s.handed k.conn (s.handed k.conn ++ [c]) := by
  simp only [Sockets.handOver, hk]

theorem Sockets.handOver_of_ne (ha : ∀ c, a ≠ .agent c .acquire) : s.handOver a = s.handed := by
  unfold Sockets.handOver
  split
  · rename_i c
    exact absurd rfl (ha c)
  · rfl

/-- The call `c` takes the mutex: its text is handed over, and it is the last of its connection. -/
theorem Sockets.Ordered.handed_acquire (hS : s.Sound) (hO : s.Ordered t) {hub : Hub Event}
    (hs : Server.step authToken toWs s.hub (.agent c .acquire) = some hub) (d : ConnId) :
    s.handOver (.agent c .acquire) d = (callsOf (s.log d)).filter (wasHanded hub) := by
  have hsame : ∀ d, ∀ c' ∈ callsOf (s.log d), c' ≠ c → wasHanded hub c' = wasHanded s.hub c' := by
    intro d c' hc' hne
    obtain ⟨l, hl, -⟩ := hO.exists_call hc'
    exact wasHanded_step hO.handing hs hl (by simp [Ne.symm hne])
  have hcases := step_cases hs
  generalize hb : (AgentAction.acquire : AgentAction Event) = b at hcases
  cases hcases with
  | agent c b k hd stage ag k' hk hp ha =>
    have hH := hO.handing c k hk
    subst hb
    generalize ht : k.task = task at ha
    cases ha with
    | acquire hfree =>
      rw [Sockets.handOver_acquire hk]
      by_cases hdc : d = k.conn
      · subst hdc
        obtain ⟨⟨h', hp'⟩, -⟩ := hH.waiting ht
        obtain ⟨l, hl⟩ := hO.last k.conn c
          (hS.serves c k hk (by simp [Call.hasReturned, hp']))
        have hnd := hO.nodup k.conn
        have hsame' := hsame k.conn
        rw [hl] at hnd hsame'
        rw [Function.update_self, hO.handed, hl]
        refine (filter_concat_of_last hnd ?_ ?_ fun c' hc' ↦
          hsame' c' (List.mem_append_left [c] hc')).symm
        · rw [wasHanded, hk, Option.map_some, ht]
          rfl
        · rw [wasHanded, Hub.calls_put, Function.update_self]
          rfl
      · rw [Function.update_of_ne hdc, hO.handed]
        refine (List.filter_congr fun c' hc' ↦ hsame d c' hc' ?_).symm
        rintro rfl
        obtain ⟨l, hl, hlc⟩ := hO.exists_call hc'
        obtain rfl := Option.some.inj (hl.symm.trans hk)
        exact hdc hlc.symm

theorem Sockets.Ordered.of_hub (hS : s.Sound) (hO : s.Ordered t) {a : Action Event}
    {hub : Hub Event} (ha : a.starts = none) (hs : Server.step authToken toWs s.hub a = some hub) :
    ({ s with hub := hub, handed := s.handOver a } : Sockets Event).Ordered t := by
  have hmoves : ∀ c k, s.hub.calls c = some k →
      ∃ k', hub.calls c = some k' ∧ k'.conn = k.conn ∧ k'.request = k.request := by
    intro c k hk
    obtain ⟨k', hk', hc, hr, -⟩ := call_of_step hO.handing hk hs
    exact ⟨k', hk', hc, hr⟩
  refine ⟨handing_step hO.handing hs, fun d e he ↦ (hO.logged d e he).of_moves hmoves, hO.nodup,
    fun d c hb ↦ hO.last d c ?_, fun d ↦ ?_⟩
  · rcases busy_of_step hS.serves ha hs d with h | h
    · exact h.symm.trans hb
    · cases h.symm.trans hb
  · by_cases hacq : ∃ c, a = .agent c .acquire
    · obtain ⟨c, rfl⟩ := hacq
      exact hO.handed_acquire hS hs d
    · rw [not_exists] at hacq
      show s.handOver a d = _
      rw [Sockets.handOver_of_ne hacq, hO.handed]
      refine (List.filter_congr fun c hc ↦ ?_).symm
      obtain ⟨l, hl, -⟩ := hO.exists_call hc
      exact wasHanded_step hO.handing hs hl (hacq c)

theorem Sockets.ordered_step {a : SocketAction Event} (hS : s.Sound) (hO : s.Ordered t)
    (h : s.step t authToken toWs a = some s') : s'.Ordered t := by
  cases socketStep_cases h with
  | arrive conn f hr => exact ⟨hO.handing, hO.logged, hO.nodup, hO.last, hO.handed⟩
  | take conn c uuid f q s' hr hb hq ht => exact ht.ordered hO
  | hub a hub ha hs => exact hO.of_hub hS ha hs

theorem Sockets.ordered_of_exec {as : List (SocketAction Event)}
    (hrun : Machine.exec (Sockets.step t authToken toWs) .init as = some s) : s.Ordered t :=
  (Machine.inv_of_exec (I := fun s ↦ s.Sound ∧ s.Ordered t)
    (fun _ _ _ hI hs ↦ ⟨Sockets.sound_step hI.1 hs, Sockets.ordered_step hI.1 hI.2 hs⟩)
    ⟨Sockets.sound_init, Sockets.ordered_init t⟩ hrun).2

/-! ## What the server keeps of an input -/

/-- The envelope in which an input arrives. -/
def sentEnvelope (sid : Option SessionId) : Sent → Envelope
  | .steer text => ⟨⟨sid.getD "", "", text, ""⟩, "steer", .null⟩
  | .prompt text _ => ⟨⟨sid.getD "", "", text, ""⟩, "prompt", .null⟩

/-- A message of the front end that is dispatched arrives as it was sent, but for its images. -/
theorem envelope_of_sent {size : ℕ} {sid : Option SessionId} {sent : Sent} {msg : Envelope}
    (h : receive t (.text size (some (sent.toJson sid))) = .dispatch msg) :
    msg = sentEnvelope sid sent := by
  obtain ⟨size', v, hf, -, hd, -⟩ := receive_eq_dispatch h
  obtain ⟨-, hv⟩ := Incoming.text.inj hf
  obtain rfl := Option.some.inj hv
  cases sent with
  | steer text => exact Option.some.inj (hd.symm.trans (decode_steerMessage text sid))
  | prompt text images =>
    exact Option.some.inj (hd.symm.trans (decode_promptMessage text sid images))

/-- A frame that is not dispatched is no steering message. -/
theorem steerAck_notMem_receive {f : Incoming} {replies : List Reply}
    (h : receive t f = .stop replies ∨ receive t f = .answer replies) (sid : SessionId) :
    .steerAck sid ∉ replies := by
  cases f with
  | text size body =>
    rw [receive] at h
    split at h
    · rcases h with h | h
      · cases h
        simp
      · cases h
    · split at h
      · split at h
        · rcases h with h | h
          · cases h
          · cases h
            simp
        · rcases h with h | h <;> cases h
      · rcases h with h | h
        · cases h
        · cases h
          simp
  | _ =>
    rcases h with h | h <;> cases h
    all_goals simp

/-- What a line of the log has handed over. -/
def handedInput (s : Sockets Event) (e : Served) : Option UserInput :=
  e.call.bind fun c ↦ if wasHanded s.hub c then (s.hub.calls c).bind Call.input? else none

/-- An accepted prompt hands its text over. -/
theorem handedInput_prompt (hO : s.Ordered t) {e : Served} (he : e ∈ s.log conn) {size : ℕ}
    {sid : Option SessionId} {text : String} {images : List Image}
    (hf : e.frame = .text size (some ((Sent.prompt text images).toJson sid)))
    (hacc : Accepted s e) : handedInput s e = some ⟨text, []⟩ := by
  cases hO.logged conn e he with
  | prompt c k msg hec hk hconn hr hroute hreq hrep =>
    rw [hf] at hr
    have htext : msg.userText = text := by
      rw [envelope_of_sent hr, sentEnvelope, WsMessage.userText]
      split
      · rfl
      · rename_i hne
        exact (not_not.mp hne).symm
    have hhanded : k.task.handed = true := by
      rcases hacc with ⟨sid', hs⟩ | ⟨c', k', hec', hk', ⟨sid', hs⟩, -⟩
      · rw [hrep] at hs
        cases hs
      · obtain rfl := Option.some.inj (hec.symm.trans hec')
        obtain rfl := Option.some.inj (hk.symm.trans hk')
        exact (hO.handing c k hk).complete sid' hs
    rw [handedInput, hec, Option.bind_some, wasHanded, hk, Option.map_some, Option.getD_some,
      if_pos hhanded, Option.bind_some, Call.input?, hreq, htext]
  | newChat c k msg hec hk hconn hr hroute hreq hrep =>
    rw [hf] at hr
    rw [envelope_of_sent hr] at hroute
    cases hroute
  | answer m hec hnot hrep =>
    rcases hacc with ⟨sid', hs⟩ | ⟨c', k', hec', -⟩
    · rw [hrep, answerFrame] at hs
      split at hs
      · rename_i replies hr
        exact absurd hs (steerAck_notMem_receive (Or.inl hr) sid')
      · rename_i replies hr
        exact absurd hs (steerAck_notMem_receive (Or.inr hr) sid')
      · rename_i msg hr
        refine absurd ?_ (hnot msg hr)
        rw [hf] at hr
        rw [envelope_of_sent hr]
        rfl
    · cases hec.symm.trans hec'

/-- Nothing but a prompt hands a text over. -/
theorem handedInput_eq_none (hO : s.Ordered t) {e : Served} (he : e ∈ s.log conn)
    (hf : ∀ msg, receive t e.frame = .dispatch msg → route msg.type ≠ .prompt) :
    handedInput s e = none := by
  cases hO.logged conn e he with
  | prompt c k msg hec hk hconn hr hroute hreq hrep => exact absurd hroute (hf msg hr)
  | newChat c k msg hec hk hconn hr hroute hreq hrep =>
    rw [handedInput, hec, Option.bind_some, hk, Option.bind_some, Call.input?, hreq]
    simp
  | answer m hec hnot hrep => rw [handedInput, hec]; rfl

/-- What the line of a submission has handed over. -/
theorem handedInput_eq_kept (hO : s.Ordered t) {e : Served} (he : e ∈ s.log conn)
    {x : Submission t} (hf : e.frame = x.frame) (hacc : x.input?.isSome → Accepted s e) :
    handedInput s e = x.kept := by
  cases x with
  | input size sid sent =>
    cases sent with
    | steer text =>
      refine handedInput_eq_none hO he fun msg hr ↦ ?_
      rw [hf] at hr
      rw [envelope_of_sent hr]
      show route "steer" ≠ .prompt
      decide
    | prompt text images => exact handedInput_prompt hO he hf (hacc rfl)
  | other f hne =>
    refine handedInput_eq_none hO he fun msg hr ↦ ?_
    rw [hf] at hr
    exact (hne msg hr).1

/-! ## All inputs of a connection -/

/-- The inputs handed over, line by line of the log. -/
theorem handedInputs_eq_filterMap (hO : s.Ordered t) (conn : ConnId) :
    handedInputs s conn = (s.log conn).filterMap (handedInput s) := by
  rw [handedInputs, hO.handed]
  induction s.log conn with
  | nil => rfl
  | cons e log ih =>
    cases hec : e.call with
    | none =>
      rw [callsOf, List.filterMap_cons_none hec, ← callsOf, ih,
        List.filterMap_cons_none (by rw [handedInput, hec]; rfl)]
    | some c =>
      rw [callsOf, List.filterMap_cons_some hec, ← callsOf, List.filterMap_cons, List.filter_cons]
      simp only [handedInput, hec, Option.bind_some]
      split
      · rw [List.filterMap_cons, ih]
      · rw [ih]

theorem Submission.kept_eq_input?_iff (x : Submission t) : x.kept = x.input? ↔ x.plain = true := by
  cases x with
  | input size sid sent =>
    cases sent with
    | steer text => simp [kept, input?, plain]
    | prompt text images =>
      rw [kept, input?, plain, sentInput, Option.some_inj, UserInput.mk.injEq, List.isEmpty_iff]
      exact ⟨fun h ↦ h.2.symm, fun h ↦ ⟨rfl, h.symm⟩⟩
  | other f hne => simp [kept, input?, plain]

/-- **What becomes of the inputs of a connection.**  Where the server has accepted all of them, the
inputs handed to the pi session are those that were sent if and only if every one is a prompt
without images. -/
theorem handedInputs_eq_iff (as : List (SocketAction Event)) (s : Sockets Event) (conn : ConnId)
    (subs : List (Submission t))
    (hrun : Machine.exec (Sockets.step t authToken toWs) .init as = some s)
    (hlog : (s.log conn).map Served.frame = subs.map Submission.frame)
    (hacc : ∀ e ∈ s.log conn, ∀ x ∈ subs, e.frame = x.frame → x.input?.isSome → Accepted s e) :
    handedInputs s conn = subs.filterMap Submission.input? ↔ ∀ x ∈ subs, x.plain = true := by
  have hO := Sockets.ordered_of_exec hrun
  rw [handedInputs_eq_filterMap hO, Lists.filterMap_eq_of_map_eq hlog fun e he x hx hf ↦
    handedInput_eq_kept hO he hf (hacc e he x hx hf), Lists.filterMap_eq_filterMap_iff]
  · exact forall₂_congr fun x _ ↦ x.kept_eq_input?_iff
  · intro x _ hx
    cases x with
    | input size sid sent => rfl
    | other f hne => cases hx

end Run

/-! ## A prompt with an image, and a steering message -/

/-- The frames of the client. -/
def exampleSubmissions : List (Submission .asciiOnly) :=
  [.input 121 (some "s") (.prompt "hello" [⟨"image/png", "iVBORw0KGgo="⟩]),
    .input 46 (some "s") (.steer "stop")]

/-- The client sends a prompt with an image and, during its run, a steering message. -/
def exampleConversation : List (SocketAction Unit) :=
  exampleSubmissions.map (fun x ↦ .arrive 0 x.frame) ++
  [.take 0 0 exampleUuid, .hub (.opening 0 .lookup), .hub (.opening 0 .readCwd),
    .hub (.opening 0 .readModel), .hub (.opening 0 .created), .hub (.opening 0 .store),
    .hub (.handler 0 .insertAbort), .hub (.handler 0 .spawn), .hub (.agent 0 .acquire),
    .hub (.agent 0 (.settle .ok)), .hub (.agent 0 .finish), .hub (.handler 0 .loopClosed),
    .hub (.handler 0 .report), .hub (.handler 0 .complete), .hub (.handler 0 .cleanup),
    .hub (.handler 0 (.label none)), .take 0 1 exampleUuid]

/-- Where the conversation ends: both messages were accepted, and the pi session was handed the text
of the first. -/
theorem exec_exampleConversation : ∃ s : Sockets Unit,
    Machine.exec (Sockets.step .asciiOnly (fun _ ↦ none) fun _ _ ↦ none) .init
      exampleConversation = some s ∧
    (s.log 0).map Served.frame = exampleSubmissions.map Submission.frame ∧
    (∀ e ∈ s.log 0, Accepted s e) ∧ handedInputs s 0 = [⟨"hello", []⟩] := by
  obtain ⟨s, hrun, hlog, k, hk, hd, hh⟩ : ∃ s : Sockets Unit,
      Machine.exec (Sockets.step .asciiOnly (fun _ ↦ none) fun _ _ ↦ none) .init
        exampleConversation = some s ∧
      s.log 0 = [⟨.text 121 (some ((Sent.prompt "hello" [⟨"image/png", "iVBORw0KGgo="⟩]).toJson
          (some "s"))), [], some 0⟩,
        ⟨.text 46 (some ((Sent.steer "stop").toJson (some "s"))), [.steerAck "s"], none⟩] ∧
      ∃ k, s.hub.calls 0 = some k ∧ k.delivered = [.promptComplete "s"] ∧
        handedInputs s 0 = [⟨"hello", []⟩] :=
    ⟨_, rfl, rfl, _, rfl, rfl, rfl⟩
  refine ⟨s, hrun, by rw [hlog]; rfl, fun e he ↦ ?_, hh⟩
  rw [hlog, List.mem_cons, List.mem_singleton] at he
  rcases he with rfl | rfl
  · exact Or.inr ⟨0, k, rfl, hk, ⟨"s", by simp [hd]⟩, by simp [hd]⟩
  · exact Or.inl ⟨"s", by simp⟩

theorem handedInputs_eq_iff_example : ∃ s : Sockets Unit,
    Machine.exec (Sockets.step .asciiOnly (fun _ ↦ none) fun _ _ ↦ none) .init
      exampleConversation = some s ∧
    (handedInputs s 0 = exampleSubmissions.filterMap Submission.input? ↔
      ∀ x ∈ exampleSubmissions, x.plain = true) := by
  obtain ⟨s, hrun, hlog, hacc, -⟩ := exec_exampleConversation
  exact ⟨s, hrun, handedInputs_eq_iff exampleConversation s 0 exampleSubmissions hrun hlog
    fun e he _ _ _ _ ↦ hacc e he⟩

/-- **Accepted inputs are lost**: the image of the prompt, and the steering message. -/
theorem not_handedInputs_eq_of_exec :
    ¬ ∀ (as : List (SocketAction Unit)) (s : Sockets Unit) (conn : ConnId)
      (subs : List (Submission .asciiOnly)),
      Machine.exec (Sockets.step .asciiOnly (fun _ ↦ none) fun _ _ ↦ none) .init as = some s →
      (s.log conn).map Served.frame = subs.map Submission.frame →
      (∀ e ∈ s.log conn, ∀ x ∈ subs, e.frame = x.frame → x.input?.isSome → Accepted s e) →
      handedInputs s conn = subs.filterMap Submission.input? := by
  intro h
  obtain ⟨s, hrun, hlog, hacc, hh⟩ := exec_exampleConversation
  have heq := h exampleConversation s 0 exampleSubmissions hrun hlog fun e he _ _ _ _ ↦ hacc e he
  rw [hh] at heq
  exact absurd heq (by decide)

end WorkWithMe.Server
