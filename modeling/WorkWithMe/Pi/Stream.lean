import WorkWithMe.Pi.Agent

/-!
# One reply of the provider

`streamAssistantResponse` calls the provider and follows the stream it gets.  The reply, as far as
it has come, is the last of the messages of the agent, and each item of the stream changes it there.
The first item is meant to be a start, which puts the reply there.

* `StreamEvent.onReply` is what an item makes of a reply.
* `streamRound` is what is done with the next thing that happens: an item, the end of the stream, or
  that the run is to stop.
-/

set_option autoImplicit false

namespace WorkWithMe.Pi

open Dialog

/-! ## What an item makes of a reply -/

/-- A block is begun, if it is the next one. -/
def AssistantMessage.begin (a : AssistantMessage) (contentIndex : ℕ) (block : ContentBlock) :
    AssistantMessage :=
  if contentIndex = a.content.length then { a with content := a.content ++ [block] } else a

/-- A block becomes another. -/
def AssistantMessage.edit (a : AssistantMessage) (contentIndex : ℕ)
    (f : ContentBlock → ContentBlock) : AssistantMessage :=
  { a with content := a.content.modify contentIndex f }

/-- The text of a block of text becomes another. -/
def ContentBlock.editText (f : String → String) : ContentBlock → ContentBlock
  | .text t => .text { t with text := f t.text }
  | b => b

/-- The text of a block of thinking becomes another. -/
def ContentBlock.editThinking (f : String → String) : ContentBlock → ContentBlock
  | .thinking t => .thinking { t with thinking := f t.thinking }
  | b => b

/-- A call becomes another. -/
def ContentBlock.setToolCall (call : ToolCall) : ContentBlock → ContentBlock
  | .toolCall _ => .toolCall call
  | b => b

/-- What an item makes of the reply that is there, and what is told of it.  A start and an end
are no such items. -/
def StreamEvent.onReply : StreamEvent → AssistantMessage →
    Option (AssistantMessage × (AssistantMessage → AssistantMessageEvent))
  | .textStart i, a => some (a.begin i (.text { text := "" }), .textStart i)
  | .textDelta i delta, a => some (a.edit i (.editText (· ++ delta)), .textDelta i delta)
  | .textEnd i content, a => some (a.edit i (.editText fun _ ↦ content), .textEnd i content)
  | .thinkingStart i, a => some (a.begin i (.thinking { thinking := "" }), .thinkingStart i)
  | .thinkingDelta i delta, a =>
    some (a.edit i (.editThinking (· ++ delta)), .thinkingDelta i delta)
  | .thinkingEnd i content, a =>
    some (a.edit i (.editThinking fun _ ↦ content), .thinkingEnd i content)
  | .toolCallStart i, a =>
    some (a.begin i (.toolCall { id := "", name := "", arguments := .null }), .toolCallStart i)
  -- The arguments stay as they are until the end of the call.
  | .toolCallDelta i delta, a => some (a, .toolCallDelta i delta)
  | .toolCallEnd i call, a => some (a.edit i (.setToolCall call), .toolCallEnd i call)
  | .start _, _ | .done _ _, _ | .error _ _, _ => none

/-! ## The last of the messages -/

/-- The last message, if it is a reply. -/
def Agent.lastReply (a : Agent) : Option AssistantMessage :=
  match a.messages.getLast? with
  | some (.assistant m) => some m
  | _ => none

/-- The last message becomes another. -/
def Running.setLast (s : Running) (m : Message) : Running :=
  s.setMessages (s.agent.messages.dropLast ++ [m])

/-- `update_partial_message` and the beginning of `finalize_assistant_message`: the reply takes the
place of the last message if that is meant to be it, and it is one. -/
def Running.putReply (s : Running) (added : Bool) (a : AssistantMessage) : Running :=
  let before :=
    if added && s.agent.lastReply.isSome then s.agent.messages.dropLast else s.agent.messages
  s.setMessages (before ++ [.assistant a])

/-- `build_abort_message`. -/
def Agent.buildAbortMessage (agent : Agent) (reply : Option AssistantMessage) : AssistantMessage :=
  let message := reply.getD
    { content := [], api := agent.api, provider := agent.providerName, model := agent.modelId,
      usage := {}, stopReason := .aborted, errorMessage := some "Aborted" }
  { message with stopReason := .aborted, errorMessage := some "Aborted" }

/-- `finalize_assistant_message`. -/
def finalizeAssistantMessage (message : AssistantMessage) (added : Bool) :
    Go AssistantMessage := do
  let s ← Prog.read
  Prog.change fun s ↦ s.putReply added message
  if added && s.agent.lastReply.isSome then
    onEvent (.messageEnd (.assistant message))
  else do
    onEvent (.messageStart (.assistant message))
    onEvent (.messageEnd (.assistant message))
  return message

/-! ## The stream -/

/-- What happens next. -/
inductive Polled where
  | abort
  | failed (error : String)
  | closed
  | item (e : StreamEvent)

/-- The next item of the stream, or that the run is to stop, which comes first if it is known. -/
def poll : Go Polled :=
  Prog.ask fun s i ↦ match s.signal, i with
    | some _, .abort => some (.abort, { s with signal := some true })
    | some true, _ => none
    | _, .item e => some (.item e, s)
    | _, .failed error => some (.failed error, s)
    | _, .closed => some (.closed, s)
    | _, _ => none

/-- The call of the provider, and the error it may lead to. -/
def openStream : Go (Option String) := do
  Prog.say (.stream (← Prog.read).agent.buildContext)
  Prog.ask fun s i ↦ match i with
    | .opened error => some (error, s)
    | _ => none

/-- `Error::api`, as a text. -/
def apiError (message : String) : String := "API error: " ++ message

/-- The text for a stream that ends too early. -/
def endedWithoutDone : String := "Stream ended without Done event"

/-- How far the reply has come: it is there, and its start was told. -/
structure StreamState where
  added : Bool
  sentStart : Bool

/-- What is done when the run is to stop. -/
def onAbort (st : StreamState) : Go AssistantMessage := do
  let agent := (← Prog.read).agent
  let abortMessage := agent.buildAbortMessage (if st.added then agent.lastReply else none)
  if st.sentStart then
    onEvent (.messageUpdate (.assistant abortMessage) (.error .aborted abortMessage))
    finalizeAssistantMessage abortMessage st.added
  else do
    onEvent (.messageStart (.assistant abortMessage))
    Prog.change fun s ↦ s.push (.assistant abortMessage)
    onEvent (.messageUpdate (.assistant abortMessage) (.error .aborted abortMessage))
    finalizeAssistantMessage abortMessage true

/-- What is done when the stream has ended. -/
def onClosed (st : StreamState) : Go (Except String AssistantMessage) := do
  let agent := (← Prog.read).agent
  match if st.added then agent.lastReply else none with
  | some last =>
    let message ← finalizeAssistantMessage
      { last with stopReason := .error, errorMessage := some endedWithoutDone } true
    return .ok message
  | none => return .error (apiError endedWithoutDone)

/-- What is done with the start of a reply. -/
def onStart (st : StreamState) (message : AssistantMessage) : Go StreamState := do
  Prog.change fun s ↦ s.putReply st.added message
  onEvent (.messageStart (.assistant message))
  onEvent (.messageUpdate (.assistant message) (.start message))
  return ⟨true, true⟩

/-- What is done with a piece of a reply.  Without a reply it is ignored. -/
def onPiece (st : StreamState) (e : StreamEvent) : Go StreamState := do
  match (← Prog.read).agent.lastReply.bind e.onReply with
  | none => return st
  | some (message, event) =>
    Prog.change fun s ↦ s.setLast (.assistant message)
    if st.sentStart then
      onEvent (.messageUpdate (.assistant message) (event message))
    else do
      onEvent (.messageStart (.assistant message))
      onEvent (.messageUpdate (.assistant message) (event message))
    return { st with sentStart := true }

/-- One round of the loop. -/
def streamRound (st : StreamState) : Go (StreamState ⊕ Except String AssistantMessage) := do
  match ← poll with
  | .abort =>
    let message ← onAbort st
    return .inr (.ok message)
  | .failed error => return .inr (.error error)
  | .closed =>
    let r ← onClosed st
    return .inr r
  | .item (.done _ message) | .item (.error _ message) =>
    let message ← finalizeAssistantMessage message st.added
    return .inr (.ok message)
  | .item (.start message) =>
    let st ← onStart st message
    return .inl st
  | .item e =>
    let st ← onPiece st e
    return .inl st

/-- `stream_assistant_response`. -/
def streamAssistantResponse : Go (Except String AssistantMessage) := do
  match ← openStream with
  | some error => return .error error
  | none => Prog.loop streamRound ⟨false, false⟩

end WorkWithMe.Pi
