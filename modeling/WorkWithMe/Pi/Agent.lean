import WorkWithMe.Lib.Dialog
import WorkWithMe.Pi.Model

/-!
# The agent, and what it asks of the world

An agent has a provider, tools, the messages so far and a queue of messages that were put in while
it was busy.  During a run it waits for the provider, for the tools, for the hooks of extensions,
for whoever may have put in further messages, and looks whether somebody has stopped it.  `Answer`
is what can come of all that, `Effect` is what the agent does to others, and a program of type `Go`
is a part of a run.

That a run is to be stopped is a flag that is set once and for all, at any moment.  The agent knows
of it when it has seen it, so `signal` is what it has seen.

* `wp_isAborted`, `wp_drainMessages` are the rules for the two questions that come up everywhere.
-/

set_option autoImplicit false

namespace WorkWithMe.Pi

open Dialog

/-! ## The queue of messages -/

/-- `QueueMode`. -/
inductive QueueMode where
  | all
  | oneAtATime
  deriving DecidableEq

/-- `QueueKind`: for as soon as possible, or for when the agent has nothing more to do. -/
inductive QueueKind where
  | steering
  | followUp
  deriving DecidableEq

/-- `MessageQueue`. -/
structure MessageQueue where
  steering : List Message
  followUp : List Message
  steeringMode : QueueMode
  followUpMode : QueueMode

namespace MessageQueue

/-- The messages of a kind. -/
def queued (q : MessageQueue) : QueueKind → List Message
  | .steering => q.steering
  | .followUp => q.followUp

/-- How messages of a kind are given out. -/
def mode (q : MessageQueue) : QueueKind → QueueMode
  | .steering => q.steeringMode
  | .followUp => q.followUpMode

/-- The messages of a kind become others. -/
def set (q : MessageQueue) : QueueKind → List Message → MessageQueue
  | .steering, ms => { q with steering := ms }
  | .followUp, ms => { q with followUp := ms }

/-- `push_steering` and `push_follow_up`, for some messages in turn. -/
def push (q : MessageQueue) (k : QueueKind) (ms : List Message) : MessageQueue :=
  q.set k (q.queued k ++ ms)

/-- `pop_kind`: what is given out. -/
def popKind (q : MessageQueue) (k : QueueKind) : List Message :=
  match q.mode k with
  | .all => q.queued k
  | .oneAtATime => (q.queued k).take 1

/-- `pop_kind`: what is left. -/
def afterPop (q : MessageQueue) (k : QueueKind) : MessageQueue :=
  match q.mode k with
  | .all => q.set k []
  | .oneAtATime => q.set k ((q.queued k).drop 1)

variable (q : MessageQueue) (k k' : QueueKind) (ms : List Message)

@[simp] theorem queued_set_self : (q.set k ms).queued k = ms := by cases k <;> rfl

theorem queued_set_of_ne (h : k' ≠ k) : (q.set k ms).queued k' = q.queued k' := by
  cases k <;> cases k' <;> first | exact absurd rfl h | rfl

@[simp] theorem mode_set : (q.set k ms).mode k' = q.mode k' := by cases k <;> cases k' <;> rfl

theorem queued_push_self : (q.push k ms).queued k = q.queued k ++ ms := queued_set_self ..

theorem queued_push_of_ne (h : k' ≠ k) : (q.push k ms).queued k' = q.queued k' :=
  queued_set_of_ne q k k' _ h

/-- Nothing is lost between what is given out and what is left. -/
theorem popKind_append_afterPop : q.popKind k ++ (q.afterPop k).queued k = q.queued k := by
  rw [popKind, afterPop]
  cases q.mode k
  · simp
  · simpa using List.take_append_drop 1 (q.queued k)

theorem queued_afterPop_of_ne (h : k' ≠ k) : (q.afterPop k).queued k' = q.queued k' := by
  rw [afterPop]
  cases q.mode k <;> exact queued_set_of_ne q k k' _ h

/-- Nothing is given out only if there is nothing. -/
theorem queued_eq_nil_of_popKind (h : q.popKind k = []) : q.queued k = [] := by
  rw [popKind] at h
  cases hm : q.mode k <;> rw [hm] at h
  · exact h
  · simpa using h

end MessageQueue

/-! ## The agent -/

/-- `AgentConfig`. -/
structure AgentConfig where
  systemPrompt : Option String
  maxToolIterations : ℕ
  sessionId : Option String
  blockImages : Bool

/-- A tool, as it is described to a provider, and whether it is read-only. -/
structure Tool where
  name : String
  description : String
  parameters : Json
  isReadOnly : Bool

/-- `Agent`.  Of the provider only the names are here, of extensions whether there are any, and of
the fetchers how many. -/
structure Agent where
  api : String
  providerName : String
  modelId : String
  tools : List Tool
  config : AgentConfig
  extensions : Bool
  messages : List Message
  steeringFetchers : ℕ
  followUpFetchers : ℕ
  messageQueue : MessageQueue

/-- `MAX_CONCURRENT_TOOLS`. -/
def maxConcurrentTools : ℕ := 8

/-- `Context`. -/
structure Context where
  systemPrompt : Option String
  messages : List Message
  tools : List Tool

namespace Agent

/-- `ToolRegistry::get`. -/
def getTool (a : Agent) (name : String) : Option Tool := a.tools.find? (·.name = name)

/-- The tool is there, and is read-only. -/
def isReadOnly (a : Agent) (name : String) : Bool := (a.getTool name).any Tool.isReadOnly

/-- `build_context`. -/
def buildContext (a : Agent) : Context :=
  ⟨a.config.systemPrompt, providerMessages a.config.blockImages a.messages, a.tools⟩

/-- The number of the fetchers. -/
def fetchers (a : Agent) : QueueKind → ℕ
  | .steering => a.steeringFetchers
  | .followUp => a.followUpFetchers

/-- The id of the session in the events. -/
def sessionId (a : Agent) : String := a.config.sessionId.getD ""

end Agent

/-! ## Runs -/

/-- The state of a run. -/
structure Running where
  agent : Agent
  /-- The signal, if there is one, and then whether it was seen to be set. -/
  signal : Option Bool
  /-- `new_messages`. -/
  newMessages : List Message

/-- What the agent does to others. -/
inductive Effect where
  /-- An event is reported. -/
  | event (e : AgentEvent)
  /-- The provider is called. -/
  | stream (context : Context)
  /-- A tool is started for the call of this number. -/
  | execute (index : ℕ) (call : ToolCall)

/-- What the agent waits for. -/
inductive Answer where
  /-- The flag was read. -/
  | flag (aborted : Bool)
  /-- A fetcher has given some messages. -/
  | fetched (k : QueueKind) (ms : List Message)
  /-- The call of the provider has led to a stream, or to an error. -/
  | opened (error : Option String)
  /-- The flag was set while the agent waited. -/
  | abort
  | item (e : StreamEvent)
  /-- The stream has broken off. -/
  | failed (error : String)
  /-- The stream has come to its end. -/
  | closed
  /-- The execution of a call has got its first turn. -/
  | polled (index : ℕ)
  /-- What the hook says of a call: whether it is blocked, and why. -/
  | hooked (index : ℕ) (result : Option (Bool × Option String))
  | update (index : ℕ) (content : List ContentBlock) (details : Option Json)
  /-- A tool has come to an end. -/
  | returned (index : ℕ) (result : Except String ToolOutput)
  /-- What the hook makes of an output. -/
  | resultHooked (index : ℕ) (content : Option (List ContentBlock)) (details : Option Json)

/-- A part of a run. -/
abbrev Go := Prog Running Effect Answer

/-- A moment of a run. -/
abbrev Moment := World Running Effect Answer

/-- `on_event`. -/
def onEvent (e : AgentEvent) : Go PUnit := Prog.say (.event e)

/-- The messages become others. -/
def Running.setMessages (s : Running) (ms : List Message) : Running :=
  { s with agent := { s.agent with messages := ms } }

/-- `self.messages.push`. -/
def Running.push (s : Running) (m : Message) : Running := s.setMessages (s.agent.messages ++ [m])

/-- `new_messages.push`. -/
def Running.note (s : Running) (m : Message) : Running :=
  { s with newMessages := s.newMessages ++ [m] }

/-- The queue becomes another. -/
def Running.setQueue (s : Running) (f : MessageQueue → MessageQueue) : Running :=
  { s with agent := { s.agent with messageQueue := f s.agent.messageQueue } }

/-- `is_aborted`.  Who has seen the flag set sees it set. -/
def isAborted : Go Bool := do
  match (← Prog.read).signal with
  | none => return false
  | some seen => Prog.ask fun s i ↦ match i with
    | .flag b => if seen && !b then none else some (b, { s with signal := some b })
    | _ => none

/-- `fetch_messages`, of one fetcher. -/
def fetchMessages (k : QueueKind) : Go (List Message) :=
  Prog.ask fun s i ↦ match i with
    | .fetched k' ms => if k' = k then some (ms, s) else none
    | _ => none

/-- `drain_steering_messages` and `drain_follow_up_messages`. -/
def drainMessages (k : QueueKind) : Go (List Message) := do
  let fetchers := (← Prog.read).agent.fetchers k
  Prog.each (fun _ ↦ do
    let ms ← fetchMessages k
    Prog.change fun s ↦ s.setQueue fun q ↦ q.push k ms) (List.replicate fetchers ())
  let queue := (← Prog.read).agent.messageQueue
  Prog.change fun s ↦ s.setQueue fun q ↦ q.afterPop k
  return queue.popKind k

/-! ## Rules -/

section Rules

variable {ok : Answer → Prop} {R : Moment → Prop} {w : Moment}

@[simp] theorem wp_onEvent {e : AgentEvent} {Q : PUnit → Moment → Prop} :
    (onEvent e).wp ok Q R w ↔ Q ⟨⟩ (w.say (.event e)) := Prog.wp_say

@[simp] theorem wp_onEvent_bind {α : Type} {e : AgentEvent} {f : PUnit → Go α}
    {Q : α → Moment → Prop} :
    (onEvent e >>= f).wp ok Q R w ↔ (f ⟨⟩).wp ok Q R (w.say (.event e)) := Prog.wp_say_bind

/-- Whether a run without a signal, or one with a signal, has seen that it is to stop. -/
theorem wp_isAborted {Q : Bool → Moment → Prop} (hR : R w)
    (hnone : w.state.signal = none → Q false w)
    (hsome : ∀ seen b, w.state.signal = some seen → (seen = true → b = true) →
      Q b (w.hear (.flag b) { w.state with signal := some b })) : isAborted.wp ok Q R w := by
  rw [isAborted, Prog.wp_read_bind]
  cases hs : w.state.signal with
  | none => simpa using hnone hs
  | some seen =>
    refine Prog.wp_ask.mpr ⟨hR, fun i a s _ hi ↦ ?_⟩
    cases i with
    | flag b =>
      dsimp only at hi
      split at hi
      · cases hi
      · rename_i hb
        simp only [Option.some.injEq, Prod.mk.injEq] at hi
        obtain ⟨rfl, rfl⟩ := hi
        exact hsome seen b hs fun h ↦ by simpa [h] using hb
    | _ => cases hi

/-- **What is drained**: `I` is what holds while the fetchers are asked. -/
theorem wp_drainMessages {k : QueueKind} {Q : List Message → Moment → Prop} {I : Moment → Prop}
    (h : I w) (hR : ∀ v, I v → R v)
    (hfetch : ∀ v ms, I v → ok (.fetched k ms) →
      I (v.hear (.fetched k ms) (v.state.setQueue fun q ↦ q.push k ms)))
    (hpop : ∀ v, I v → Q (v.state.agent.messageQueue.popKind k)
      (v.change fun s ↦ s.setQueue fun q ↦ q.afterPop k)) : (drainMessages k).wp ok Q R w := by
  rw [drainMessages, Prog.wp_read_bind]
  refine Prog.wp_call (Prog.wp_each (I := fun _ v ↦ I v) (fun _ _ v hv ↦ ?_) [] h)
    fun _ v hv ↦ ?_
  · refine Prog.wp_ask_bind.mpr ⟨hR v hv, fun i a s hi hf ↦ ?_⟩
    cases i with
    | fetched k' ms =>
      dsimp only at hf
      split at hf
      · rename_i hk
        simp only [Option.some.injEq, Prod.mk.injEq] at hf
        obtain ⟨rfl, rfl⟩ := hf
        subst hk
        exact Prog.wp_change.mpr (hfetch v ms hv hi)
      · cases hf
    | _ => cases hf
  · simpa only [Prog.wp_read_bind, Prog.wp_change_bind, Prog.wp_pure] using hpop v hv

end Rules

end WorkWithMe.Pi
