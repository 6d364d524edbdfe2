import WorkWithMe.Pi.Agent

/-!
# The protocol of a run

What a run of an agent looks like from outside, as a machine that follows the log: which events are
told, when the provider is called and tools are started, and what may come in between.  Nothing is
said here of how the agent gets there.  A run begins, the prompts are told, and turns follow.  In a
turn messages are put in, the provider gives a reply, all its calls are announced, then they are
executed, then each call is reported and its result told, and the turn ends.

* `Move` is what may be said, `State.hear` what an answer changes, `State.Admits` which answers may
  come, and `Reaches` says that a log is one of the protocol.
-/

set_option autoImplicit false

namespace WorkWithMe.Pi

open Dialog

/-! ## What was said and heard -/

/-- An entry of the log of a run. -/
abbrev LogEntry := Entry Effect Answer

/-- The log of a run, of which the newest entry comes first. -/
abbrev Log := List LogEntry

/-! ## The states of a run -/

/-- What goes on. -/
inductive Phase where
  /-- Nothing has been said. -/
  | idle
  /-- The run has begun, and the prompts are told. -/
  | begun
  /-- Between two turns; another one is due, as there were calls in the last one. -/
  | pause (due : Bool)
  /-- In a turn, before the reply; something is still owed that is put in. -/
  | turn (owed : Bool)
  /-- The start of a message was told that is put in. -/
  | given (m : Message) (inTurn : Bool)
  /-- The start of the reply was told that says that the run was stopped. -/
  | stopping (a : AssistantMessage)
  /-- The provider was called. -/
  | asked
  /-- The start of a reply has come, and was not told. -/
  | started
  /-- The start of a reply was told, one that the provider has `begun` or another one. -/
  | writing (begun : Bool)
  /-- There is a reply. -/
  | written (a : AssistantMessage)
  /-- Calls are announced, and `rest` are still to be. -/
  | announcing (a : AssistantMessage) (rest : List ToolCall)
  /-- Calls are executed: `flying` are running, and all that ever ran are `started`. -/
  | working (a : AssistantMessage) (flying started : List ℕ)
  /-- What has come of the calls is told, and `rest` are still to be. -/
  | settling (a : AssistantMessage) (rest : List ToolCall) (results : List ToolResultMessage)
  /-- The end of the execution was told, and the result `r` is not yet. -/
  | told (a : AssistantMessage) (rest : List ToolCall) (results : List ToolResultMessage)
      (r : ToolResultMessage)
  /-- The start of the result was told. -/
  | telling (a : AssistantMessage) (rest : List ToolCall) (results : List ToolResultMessage)
      (r : ToolResultMessage)
  /-- The last turn has ended. -/
  | closing (error : Option String)
  /-- The run has ended, perhaps in a turn, and there may be a reply that is not finished. -/
  | ended (inTurn unfinished : Bool)

/-- Where a run is. -/
structure State where
  phase : Phase
  /-- It is known that the run is to stop. -/
  aborted : Bool
  /-- The messages of this run. -/
  history : List Message
  /-- How many turns have ended. -/
  turns : ℕ
  /-- In how many turns calls were announced. -/
  callTurns : ℕ

/-- The beginning of a run. -/
def State.start : State := ⟨.idle, false, [], 0, 0⟩

/-- The calls that are running. -/
def Phase.flying : Phase → List ℕ
  | .working _ flying _ => flying
  | _ => []

/-- What an answer changes. -/
def State.hear (s : State) : Answer → State
  | .flag b => { s with aborted := b }
  | .abort =>
    { s with
      aborted := true
      phase := match s.phase with
        | .working a _ started => .working a [] started
        | p => p }
  | .returned i _ =>
    { s with
      phase := match s.phase with
        | .working a flying started => .working a (flying.filter (· ≠ i)) started
        | p => p }
  | .item (.start _) =>
    { s with
      phase := match s.phase with
        | .asked | .writing true => .started
        | p => p }
  | _ => s

/-- It may become known that the run is to stop. -/
def Phase.listens : Phase → Bool
  | .turn false | .asked | .started | .writing _ | .working _ _ _ | .settling _ _ _ => true
  | _ => false

/-- The answer can come.  The flag stays as it was seen once it was seen to be set. -/
def State.Admits (s : State) : Answer → Prop
  | .flag b => s.phase.listens = true ∧ (s.aborted = true → b = true)
  | .abort => s.phase.listens = true
  | _ => True

/-- The call of this number may be executed beside those that are running. -/
def MayFly (agent : Agent) (a : AssistantMessage) (flying : List ℕ) (call : ToolCall) : Prop :=
  flying = [] ∨
    agent.isReadOnly call.name = true ∧ flying.length < maxConcurrentTools ∧
      ∀ i ∈ flying, ∀ other, a.calls[i]? = some other → agent.isReadOnly other.name = true

/-! ## Moves -/

section Moves

-- The agent at the beginning of the run.
variable (agent : Agent)

/-- Something that may be said, and what it changes. -/
inductive Move : State → Effect → State → Prop where
  | agentStart {s : State} (h : s.phase = .idle) :
    Move s (.event (.agentStart agent.sessionId)) { s with phase := .begun }
  | promptStart {s : State} {m : Message} (h : s.phase = .begun) (hm : m.isInput = true) :
    Move s (.event (.messageStart m)) { s with phase := .given m false }
  | promptEnd {s : State} {m : Message} (h : s.phase = .given m false) :
    Move s (.event (.messageEnd m)) { s with phase := .begun, history := s.history ++ [m] }
  | turnStart {s : State} {due : Bool} (h : s.phase = .pause due) :
    Move s (.event (.turnStart agent.sessionId s.turns)) { s with phase := .turn !due }
  | inputStart {s : State} {owed : Bool} {m : Message} (h : s.phase = .turn owed)
      (hm : m.isInput = true) :
    Move s (.event (.messageStart m)) { s with phase := .given m true }
  | inputEnd {s : State} {m : Message} (h : s.phase = .given m true) :
    Move s (.event (.messageEnd m)) { s with phase := .turn false, history := s.history ++ [m] }
  | stopStart {s : State} {a : AssistantMessage} (h : s.phase = .turn false)
      (hs : s.aborted = true) (ha : a.stopReason = .aborted) :
    Move s (.event (.messageStart (.assistant a))) { s with phase := .stopping a }
  | stopEnd {s : State} {a : AssistantMessage} (h : s.phase = .stopping a) :
    Move s (.event (.messageEnd (.assistant a)))
      { s with phase := .written a, history := s.history ++ [.assistant a] }
  | stream {s : State} (h : s.phase = .turn false) (hs : s.aborted = false) :
    Move s (.stream { agent with messages := agent.messages ++ s.history }.buildContext)
      { s with phase := .asked }
  | replyStart {s : State} {a : AssistantMessage} (h : s.phase = .started) :
    Move s (.event (.messageStart (.assistant a))) { s with phase := .writing true }
  /-- There is a reply that the provider has not begun. -/
  | ownStart {s : State} {a : AssistantMessage} (h : s.phase = .asked) :
    Move s (.event (.messageStart (.assistant a))) { s with phase := .writing false }
  | replyUpdate {s : State} {begun : Bool} {a : AssistantMessage} {e : AssistantMessageEvent}
      (h : s.phase = .writing begun) : Move s (.event (.messageUpdate (.assistant a) e)) s
  | replyEnd {s : State} {begun : Bool} {a : AssistantMessage} (h : s.phase = .writing begun)
      (ha : s.aborted = true → a.stopReason = .aborted) :
    Move s (.event (.messageEnd (.assistant a)))
      { s with phase := .written a, history := s.history ++ [.assistant a] }
  | notAnswered {s : State} {error : String} (h : s.phase = .asked) (hs : s.aborted = false) :
    Move s (.event (.agentEnd agent.sessionId s.history (some error)))
      { s with phase := .ended true false }
  | brokenOff {s : State} {begun : Bool} {error : String} (h : s.phase = .writing begun)
      (hs : s.aborted = false) :
    Move s (.event (.agentEnd agent.sessionId s.history (some error)))
      { s with phase := .ended true true }
  | turnFailed {s : State} {a : AssistantMessage} (h : s.phase = .written a)
      (ha : a.failed = true) :
    Move s (.event (.turnEnd agent.sessionId s.turns (.assistant a) []))
      { s with phase := .closing a.errorMessage, turns := s.turns + 1 }
  | turnPlain {s : State} {a : AssistantMessage} (h : s.phase = .written a)
      (ha : a.failed = false) (hc : a.calls = []) :
    Move s (.event (.turnEnd agent.sessionId s.turns (.assistant a) []))
      { s with phase := .pause false, turns := s.turns + 1 }
  /-- There were too many calls, and the reply becomes one that failed. -/
  | turnExceeded {s : State} {a b : AssistantMessage} (h : s.phase = .written a)
      (ha : a.failed = false) (hc : a.calls ≠ [])
      (hk : agent.config.maxToolIterations ≤ s.callTurns) (hb : b.failed = true)
      (hcontent : b.content = a.content) :
    Move s (.event (.turnEnd agent.sessionId s.turns (.assistant b) []))
      { s with
        phase := .closing b.errorMessage
        history := s.history.dropLast ++ [.assistant b]
        turns := s.turns + 1 }
  | announce {s : State} {a : AssistantMessage} {call : ToolCall} {rest : List ToolCall}
      (h : s.phase = .announcing a (call :: rest)) :
    Move s (.event (.toolExecutionStart call.id call.name call.arguments))
      { s with phase := .announcing a rest }
  | execute {s : State} {a : AssistantMessage} {flying started : List ℕ} {i : ℕ} {call : ToolCall}
      (h : s.phase = .working a flying started) (hs : s.aborted = false)
      (hi : a.calls[i]? = some call) (hnew : i ∉ started) (hmay : MayFly agent a flying call) :
    Move s (.execute i call) { s with phase := .working a (i :: flying) (i :: started) }
  | update {s : State} {a : AssistantMessage} {flying started : List ℕ} {i : ℕ} {call : ToolCall}
      {output : ToolOutput} (h : s.phase = .working a flying started) (hi : i ∈ flying)
      (hcall : a.calls[i]? = some call) :
    Move s (.event (.toolExecutionUpdate call.id call.name call.arguments output)) s
  | lateUpdate {s : State} {a : AssistantMessage} {call : ToolCall} {rest : List ToolCall}
      {results : List ToolResultMessage} {output : ToolOutput}
      (h : s.phase = .settling a (call :: rest) results) :
    Move s (.event (.toolExecutionUpdate call.id call.name call.arguments output)) s
  | toolEnd {s : State} {a : AssistantMessage} {call : ToolCall} {rest : List ToolCall}
      {results : List ToolResultMessage} {output : ToolOutput}
      (h : s.phase = .settling a (call :: rest) results) :
    Move s (.event (.toolExecutionEnd call.id call.name output output.isError))
      { s with
        phase := .told a rest results
          ⟨call.id, call.name, output.content, output.details, output.isError⟩ }
  | resultStart {s : State} {a : AssistantMessage} {rest : List ToolCall}
      {results : List ToolResultMessage} {r : ToolResultMessage}
      (h : s.phase = .told a rest results r) :
    Move s (.event (.messageStart (.toolResult r))) { s with phase := .telling a rest results r }
  | resultEnd {s : State} {a : AssistantMessage} {rest : List ToolCall}
      {results : List ToolResultMessage} {r : ToolResultMessage}
      (h : s.phase = .telling a rest results r) :
    Move s (.event (.messageEnd (.toolResult r)))
      { s with
        phase := .settling a rest (results ++ [r])
        history := s.history ++ [.toolResult r] }
  | turnDone {s : State} {a : AssistantMessage} {results : List ToolResultMessage}
      (h : s.phase = .settling a [] results) :
    Move s (.event (.turnEnd agent.sessionId s.turns (.assistant a) (results.map .toolResult)))
      { s with phase := .pause true, turns := s.turns + 1 }
  | agentEnd {s : State} (h : s.phase = .pause false) :
    Move s (.event (.agentEnd agent.sessionId s.history none)) { s with phase := .ended false false }
  | agentFailed {s : State} {error : Option String} (h : s.phase = .closing error) :
    Move s (.event (.agentEnd agent.sessionId s.history error)) { s with phase := .ended false false }

/-- What goes on becomes something else, and nothing is said. -/
inductive Silent : State → State → Prop where
  | noMorePrompts {s : State} (h : s.phase = .begun) (hne : s.history ≠ []) :
    Silent s { s with phase := .pause true }
  | calls {s : State} {a : AssistantMessage} (h : s.phase = .written a) (ha : a.failed = false)
      (hc : a.calls ≠ []) (hk : s.callTurns < agent.config.maxToolIterations) :
    Silent s { s with phase := .announcing a a.calls, callTurns := s.callTurns + 1 }
  | announced {s : State} {a : AssistantMessage} (h : s.phase = .announcing a []) :
    Silent s { s with phase := .working a [] [] }
  | worked {s : State} {a : AssistantMessage} {started : List ℕ}
      (h : s.phase = .working a [] started) :
    Silent s { s with phase := .settling a a.calls [] }

/-- **The log is one of the protocol**, and leads to this state. -/
inductive Reaches : Log → State → Prop where
  | start : Reaches [] .start
  | silent {l : Log} {s t : State} (h : Reaches l s) (hs : Silent agent s t) : Reaches l t
  | said {l : Log} {s t : State} {e : Effect} (h : Reaches l s) (hm : Move agent s e t) :
    Reaches (.said e :: l) t
  | heard {l : Log} {s : State} {i : Answer} (h : Reaches l s) (hi : s.Admits i) :
    Reaches (.heard i :: l) (s.hear i)

end Moves

end WorkWithMe.Pi
