import WorkWithMe.Pi.Stream
import WorkWithMe.Pi.Tools

/-!
# The main loop of the agent

`runLoop` takes some prompts and goes on, turn by turn, until the provider has nothing more to do
and nobody has put in anything further.  A turn puts in what there is to be put in, gets a reply,
and executes the calls in it.  A reply that failed or was stopped ends the run, and so does the
wish that it stop, an error of the provider, and a reply with calls after too many of them.
-/

set_option autoImplicit false

namespace WorkWithMe.Pi

open Dialog

/-! ## Beginnings and ends -/

/-- A message that was put in becomes one of the conversation. -/
def pushMessage (m : Message) : Go PUnit := do
  Prog.change fun s ↦ s.push m
  onEvent (.messageStart m)
  onEvent (.messageEnd m)
  Prog.change fun s ↦ s.note m

/-- The end of a run is reported. -/
def endRun (error : Option String) : Go PUnit := do
  let s ← Prog.read
  Prog.change fun s ↦ { s with newMessages := [] }
  onEvent (.agentEnd s.agent.sessionId s.newMessages error)

/-- The end of a turn is reported. -/
def endTurn (turnIndex : ℕ) (message : AssistantMessage) (results : List ToolResultMessage) :
    Go PUnit := do
  let s ← Prog.read
  onEvent (.turnEnd s.agent.sessionId turnIndex (.assistant message) (results.map .toolResult))

/-- The text for too many calls. -/
def iterationsExceeded (maxToolIterations : ℕ) : String :=
  s!"Maximum tool iterations ({maxToolIterations}) exceeded"

/-- The last of the new messages becomes another, if it is a reply. -/
def Running.renote (s : Running) (a : AssistantMessage) : Running :=
  match s.newMessages.getLast? with
  | some (.assistant _) => { s with newMessages := s.newMessages.dropLast ++ [.assistant a] }
  | _ => s

/-- The last message becomes another, if it is a reply. -/
def Running.replaceReply (s : Running) (a : AssistantMessage) : Running :=
  if s.agent.lastReply.isSome then s.setLast (.assistant a) else s

/-! ## Turns -/

/-- What the loop knows between two turns. -/
structure Progress where
  /-- `pending_messages`. -/
  pending : List Message
  /-- `has_more_tool_calls`. -/
  hasMoreToolCalls : Bool
  iterations : ℕ
  turnIndex : ℕ
  lastAssistant : Option AssistantMessage

/-- How a run ends: with a reply, or with an error. -/
abbrev RunResult := Except String AssistantMessage

/-- The run is to stop. -/
def stopRun (turnIndex : ℕ) : Go RunResult := do
  let message := (← Prog.read).agent.buildAbortMessage none
  Prog.change fun s ↦ (s.push (.assistant message)).note (.assistant message)
  onEvent (.messageStart (.assistant message))
  onEvent (.messageEnd (.assistant message))
  endTurn turnIndex message []
  endRun (some (message.errorMessage.getD "Aborted"))
  return .ok message

/-- The reply has failed. -/
def failRun (turnIndex : ℕ) (message : AssistantMessage) : Go RunResult := do
  endTurn turnIndex message []
  endRun message.errorMessage
  return .ok message

/-- There were too many calls. -/
def exceedRun (turnIndex : ℕ) (message : AssistantMessage) : Go RunResult := do
  let text := iterationsExceeded (← Prog.read).agent.config.maxToolIterations
  let message := { message with stopReason := .error, errorMessage := some text }
  -- What is kept is kept in step with what is reported.
  Prog.change fun s ↦ (s.replaceReply message).renote message
  endTurn turnIndex message []
  endRun (some text)
  return .ok message

/-- The end of a turn with a good reply: `steering` is what was put in while tools were executed. -/
def nextTurn (p : Progress) (message : AssistantMessage) (results : List ToolResultMessage)
    (steering : Option (List Message)) : Go Progress := do
  endTurn p.turnIndex message results
  let pending ← match steering with
    | some steering => pure steering
    | none => drainMessages .steering
  return { p with
    pending, hasMoreToolCalls := !message.calls.isEmpty, turnIndex := p.turnIndex + 1,
    lastAssistant := some message }

section Trim

variable (trim : String → String)

/-- What is done with a reply. -/
def onReply (p : Progress) (message : AssistantMessage) : Go (Progress ⊕ RunResult) := do
  Prog.change fun s ↦ s.note (.assistant message)
  if message.failed then do
    let r ← failRun p.turnIndex message
    return .inr r
  else if message.calls.isEmpty then do
    let p ← nextTurn p message [] none
    return .inl p
  else if (← Prog.read).agent.config.maxToolIterations < p.iterations + 1 then do
    let r ← exceedRun p.turnIndex message
    return .inr r
  else do
    let outcome ← executeToolCalls trim message.calls
    let p ← nextTurn { p with iterations := p.iterations + 1 } message outcome.toolResults
      outcome.steeringMessages
    return .inl p

/-- One turn. -/
def runTurn (p : Progress) : Go (Progress ⊕ RunResult) := do
  onEvent (.turnStart (← Prog.read).agent.sessionId p.turnIndex)
  Prog.each pushMessage p.pending
  if ← isAborted then do
    let r ← stopRun p.turnIndex
    return .inr r
  else
    match ← streamAssistantResponse with
    | .error error =>
      endRun (some error)
      return .inr (.error error)
    | .ok message => onReply trim p message

/-- One round of the inner loop: a turn, if there is a reason for one. -/
def innerRound (p : Progress) : Go (Progress ⊕ (Progress ⊕ RunResult)) := do
  if p.hasMoreToolCalls || !p.pending.isEmpty then
    match ← runTurn trim p with
    | .inl p => return .inl p
    | .inr r => return .inr (.inr r)
  else return .inr (.inl p)

/-- The end of a run in which all is done. -/
def finishRun (p : Progress) : Go RunResult := do
  match p.lastAssistant with
  | none => return .error (apiError "Agent completed without assistant message")
  | some message =>
    endRun none
    return .ok message

/-- One round of the outer loop: turns as long as there is a reason for them, and then a look at
what was put in for when they are over. -/
def outerRound (p : Progress) : Go (Progress ⊕ RunResult) := do
  match ← Prog.loop (innerRound trim) { p with hasMoreToolCalls := true } with
  | .inr r => return .inr r
  | .inl p =>
    let followUp ← drainMessages .followUp
    if followUp.isEmpty then do
      let r ← finishRun p
      return .inr r
    else return .inl { p with pending := followUp }

/-- `run_loop`. -/
def runLoop (prompts : List Message) : Go RunResult := do
  onEvent (.agentStart (← Prog.read).agent.sessionId)
  Prog.each pushMessage prompts
  let pending ← drainMessages .steering
  Prog.loop (outerRound trim) ⟨pending, true, 0, 0, none⟩

end Trim

/-! ## Runs of an agent -/

/-- The beginning of a run. -/
def Agent.begin (a : Agent) (signal : Bool) : Moment :=
  ⟨⟨a, if signal then some false else none, []⟩, []⟩

end WorkWithMe.Pi
