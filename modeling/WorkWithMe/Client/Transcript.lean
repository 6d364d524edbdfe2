import WorkWithMe.Client.Messages
import WorkWithMe.Lib.Lists
import WorkWithMe.Server.Events

/-!
# What the chat shows, and what an event makes of it

`useChatWebSocketSubscriptions.ts` has a handler for each type of message from the back end;
`readEvent` is what they read of the JSON, and `Chat.handle` is what they do.  The other functions
that change the transcript are those of `ChatContext.tsx`: `handleSubmit`, the end of `handleStop`
and the end of `loadSession`.

A handler reads the clock for an id and, when React gets to it, once more for a timestamp; `Clock`
has both readings.  A timeout that clears the tool status is known by its number.

* `Chat.handle_messages`: what an event makes of the transcript is a matter of the transcript alone.
* `readEvent_piEventToWsJson`: what the handlers read of an event of the agent.
-/

set_option autoImplicit false

namespace WorkWithMe.Client

open Server

/-! ## The transcript -/

inductive Role where
  | user
  | assistant
  deriving DecidableEq

inductive ToolStatus where
  | running
  | done
  | error
  deriving DecidableEq

/-- A call of a tool. -/
structure ToolExecution where
  id : String
  name : String
  /-- The arguments, or `undefined`. -/
  args : Option Json
  status : ToolStatus
  /-- The result, or `undefined`. -/
  result : Option Json

/-- An entry of the transcript.  Thinking content that is not there is empty, and so are tool
steps. -/
structure Message where
  id : String
  role : Role
  content : String
  thinkingContent : String := ""
  isStreaming : Bool := false
  timestamp : Option ℕ := none
  toolSteps : List ToolExecution := []
  statusMessage : Option String := none

attribute [ext] Message

/-- An assistant entry that is being written. -/
def Message.isOpen (m : Message) : Bool := m.role = .assistant && m.isStreaming

/-- There is nothing to see in it. -/
def Message.isBlank (m : Message) : Bool := trim m.content = "" && m.thinkingContent = ""

/-- `updateLastStreamingMsg`. -/
def updateLastStreamingMsg (msgs : List Message) (update : Message → Message) : List Message :=
  Lists.modifyLast Message.isOpen update msgs

/-- The clock, in milliseconds, when an action begins and when React gets to its update. -/
structure Clock where
  now : ℕ
  later : ℕ
  deriving DecidableEq

/-- The id of an assistant entry that was begun at `now`. -/
def asstId (now : ℕ) : String := "asst_" ++ toString now

/-- The `MESSAGE_START` handler. -/
def messageStart (id : Option String) (role : Option String) (c : Clock) (prev : List Message) :
    List Message :=
  if role = some "user" then prev
  else
    let newId := id.getD (asstId c.now)
    if prev.any (·.id = newId) then prev
    else if prev.getLast?.any fun last ↦ last.isOpen && last.content = "" then
      Lists.modifyLast (fun _ ↦ true) (fun m ↦ { m with id := newId }) prev
    else
      prev ++ [{ id := newId, role := .assistant, content := "", isStreaming := true,
                 timestamp := some c.later }]

/-- What an end leaves of an entry: one that was being written no longer is, and one in which there
is nothing to see goes. -/
def endMessage (id : Option String) (msg : Message) : Option Message :=
  let updated :=
    if (id.getD "" ≠ "" ∧ msg.id = id.getD "") ∨ msg.isOpen = true then
      { msg with isStreaming := false }
    else msg
  if updated.role = .user ∨ updated.isStreaming = true ∨ updated.isBlank = false then some updated
  else none

/-- The `MESSAGE_END` handler. -/
def messageEnd (id : Option String) (prev : List Message) : List Message :=
  prev.filterMap (endMessage id)

/-- The `patch` of `TOOL_EXECUTION_UPDATE`. -/
def updateTool (toolCallId : String) (args partialResult : Option Json) (t : ToolExecution) :
    ToolExecution :=
  if t.id = toolCallId then { t with args := args, result := partialResult } else t

/-- The `patch` of `TOOL_EXECUTION_END`. -/
def endTool (toolCallId : String) (isError : Bool) (result : Option Json) (t : ToolExecution) :
    ToolExecution :=
  if t.id = toolCallId then
    { t with status := if isError then .error else .done, result := result }
  else t

/-! ## Errors -/

/-- `l` has `needle`, which is in lower case, at its beginning, in any case. -/
def startsWithIgnoringCase (needle : String) (l : List Char) : Bool :=
  needle.toList.isPrefixOf (l.map Char.toLower)

/-- The test for `/token_expired|401|unauthorized|authentication/i`. -/
def isAuthError (raw : String) : Bool :=
  ["token_expired", "401", "unauthorized", "authentication"].any fun needle ↦
    raw.toList.tails.any (startsWithIgnoringCase needle)

/-- `\w` and the hyphen. -/
def isNameChar (c : Char) : Bool := c.isAlphanum || c = '_' || c = '-'

/-- What `/Provider error:\s*([\w-]+)/i` captures. -/
def providerMatch (raw : String) : Option String :=
  raw.toList.tails.findSome? fun l ↦
    let name := ((l.drop "provider error:".length).dropWhile isWhiteSpace).takeWhile isNameChar
    if startsWithIgnoringCase "provider error:" l && !name.isEmpty then some (.ofList name)
    else none

/-- The error that is shown. -/
def chatErrorOf (raw : String) : String :=
  if isAuthError raw then
    "Your " ++ (providerMatch raw).getD "provider" ++
      " session has expired. Go to Settings → Connections to reconnect."
  else raw

/-! ## Events -/

structure ApprovalRequest where
  id : String
  operationType : String
  description : String
  details : Option Json

/-- What a handler finds in a message. -/
inductive ChatEvent where
  | chatCleared (sessionId : SessionId)
  | messageStart (id role : Option String)
  | textDelta (text : String)
  | thinkingDelta (thinking : String)
  | messageEnd (id : Option String)
  | agentEnd
  | agentStatus (message : Option String)
  | promptComplete
  | toolExecutionStart (toolCallId toolName : String) (args : Option Json) (status : Option String)
  | toolExecutionUpdate (toolCallId : String) (args partialResult : Option Json)
  | toolExecutionEnd (toolCallId : String) (isError : Bool) (result : Option Json)
  | error (message : String)
  | sandboxApprovalRequest (request : ApprovalRequest)

/-- The text at `k`. -/
def textAt (v : Json) (k : String) : Option String := (v.get k).bind Json.asStr

/-- What the handlers of the chat read of a message.  A message that no handler is for, or in
which a handler finds nothing to do, is nothing, and so is one without the texts that its type
promises. -/
def readEvent (v : Json) : Option ChatEvent :=
  match textAt v "type" with
  | some "chat_cleared" => (textAt v "sessionId").map .chatCleared
  | some "message_start" =>
    some (.messageStart ((v.get "message").bind (textAt · "id"))
      ((v.get "message").bind (textAt · "role")))
  | some "message_update" =>
    match textAt v "eventType" with
    | some "text_delta" => ((v.get "delta").bind (textAt · "text")).map .textDelta
    | some "thinking_delta" => ((v.get "delta").bind (textAt · "thinking")).map .thinkingDelta
    | _ => none
  | some "message_end" => some (.messageEnd ((v.get "message").bind (textAt · "id")))
  | some "agent_end" => some .agentEnd
  | some "agent_status" => some (.agentStatus (textAt v "message"))
  | some "prompt_complete" => some .promptComplete
  | some "tool_execution_start" => do
    let toolCallId ← textAt v "toolCallId"
    let toolName ← textAt v "toolName"
    return .toolExecutionStart toolCallId toolName (v.get "args") (textAt v "status")
  | some "tool_execution_update" => do
    let toolCallId ← textAt v "toolCallId"
    return .toolExecutionUpdate toolCallId (v.get "args") (v.get "partialResult")
  | some "tool_execution_end" => do
    let toolCallId ← textAt v "toolCallId"
    return .toolExecutionEnd toolCallId (match v.get "isError" with
      | some (.bool b) => b
      | _ => false) (v.get "result")
  | some "error" => some (.error ((textAt v "message").getD ""))
  | some "sandbox_approval_request" => do
    let id ← textAt v "id"
    let operationType ← textAt v "operation_type"
    let description ← textAt v "description"
    return .sandboxApprovalRequest ⟨id, operationType, description, v.get "details"⟩
  | _ => none

/-- What an event makes of the transcript. -/
def ChatEvent.onMessages (c : Clock) : ChatEvent → List Message → List Message
  | .chatCleared _, _ => []
  | .messageStart id role, prev => Client.messageStart id role c prev
  | .textDelta text, prev =>
    updateLastStreamingMsg prev fun m ↦ { m with content := m.content ++ text }
  | .thinkingDelta thinking, prev =>
    updateLastStreamingMsg prev fun m ↦
      { m with thinkingContent := m.thinkingContent ++ thinking }
  | .messageEnd id, prev => Client.messageEnd id prev
  | .agentStatus message, prev =>
    updateLastStreamingMsg prev fun m ↦ { m with statusMessage := message }
  | .toolExecutionStart toolCallId toolName args _, prev =>
    updateLastStreamingMsg prev fun m ↦
      { m with toolSteps := m.toolSteps ++ [⟨toolCallId, toolName, args, .running, none⟩] }
  | .toolExecutionUpdate toolCallId args partialResult, prev =>
    updateLastStreamingMsg prev fun m ↦
      { m with toolSteps := m.toolSteps.map (updateTool toolCallId args partialResult) }
  | .toolExecutionEnd toolCallId isError result, prev =>
    updateLastStreamingMsg prev fun m ↦
      { m with toolSteps := m.toolSteps.map (endTool toolCallId isError result) }
  | .agentEnd, prev => prev
  | .promptComplete, prev => prev
  | .error _, prev => prev
  | .sandboxApprovalRequest _, prev => prev

/-! ## The chat -/

/-- The state of the chat. -/
structure Chat where
  messages : List Message
  toolExecutions : List ToolExecution
  isProcessing : Bool
  isLoadingSession : Bool
  isSteering : Bool
  currentToolStatus : Option String
  approvalRequest : Option ApprovalRequest
  chatError : Option String
  /-- The timeout that was set last. -/
  toolStatusClearRef : Option ℕ
  /-- The timeouts that have neither gone off nor been cleared. -/
  timeouts : List ℕ
  /-- How many timeouts there have been. -/
  timeoutCount : ℕ

namespace Chat

/-- An empty chat. -/
def init : Chat where
  messages := []
  toolExecutions := []
  isProcessing := false
  isLoadingSession := false
  isSteering := false
  currentToolStatus := none
  approvalRequest := none
  chatError := none
  toolStatusClearRef := none
  timeouts := []
  timeoutCount := 0

/-- Clear the timeout in `toolStatusClearRef`. -/
def clearTimeout (s : Chat) : Chat :=
  { s with timeouts := s.timeouts.filter fun i ↦ s.toolStatusClearRef ≠ some i }

/-- Set a timeout. -/
def setTimeout (s : Chat) : Chat :=
  { s with
    toolStatusClearRef := some s.timeoutCount
    timeouts := s.timeouts ++ [s.timeoutCount]
    timeoutCount := s.timeoutCount + 1 }

/-- `clearMessages`. -/
def clearMessages (s : Chat) : Chat := { s with messages := [], toolExecutions := [] }

/-- What an event makes of the state, the transcript apart. -/
def onRest : ChatEvent → Chat → Chat
  | .chatCleared _, s => s.clearMessages
  | .agentEnd, s =>
    { s.clearTimeout with isProcessing := false, isSteering := false, currentToolStatus := none }
  | .promptComplete, s => { s with isProcessing := false }
  | .toolExecutionStart toolCallId toolName args status, s =>
    { s.clearTimeout with
      toolExecutions := s.toolExecutions ++ [⟨toolCallId, toolName, args, .running, none⟩]
      currentToolStatus := some (status.getD toolName) }
  | .toolExecutionUpdate toolCallId args partialResult, s =>
    { s with toolExecutions := s.toolExecutions.map (updateTool toolCallId args partialResult) }
  | .toolExecutionEnd toolCallId isError result, s =>
    { s.setTimeout with
      toolExecutions := s.toolExecutions.map (endTool toolCallId isError result) }
  | .error message, s => { s with chatError := some (chatErrorOf message), isProcessing := false }
  | .sandboxApprovalRequest request, s => { s with approvalRequest := some request }
  | .messageStart _ _, s => s
  | .textDelta _, s => s
  | .thinkingDelta _, s => s
  | .messageEnd _, s => s
  | .agentStatus _, s => s

/-- The handlers. -/
def handle (c : Clock) (e : ChatEvent) (s : Chat) : Chat :=
  { s.onRest e with messages := e.onMessages c s.messages }

/-- A message arrives, with the JSON `v`. -/
def onMessage (c : Clock) (v : Json) (s : Chat) : Chat :=
  match readEvent v with
  | some e => s.handle c e
  | none => s

/-- A timeout goes off. -/
def timeout (i : ℕ) (s : Chat) : Chat :=
  { s with timeouts := s.timeouts.erase i, currentToolStatus := none }

end Chat

/-! ## What the user does -/

/-- The id of a prompt that was submitted at `now`. -/
def userId (now : ℕ) : String := "user_" ++ toString now

/-- The id of a steering input. -/
def steerId (now : ℕ) : String := "steer_" ++ toString now

/-- The prompt in the transcript; `text` is trimmed. -/
def displayContent (text : String) (attachments : ℕ) : String :=
  text ++ if 0 < attachments then "\n[Attached " ++ toString attachments ++ " file(s)]" else ""

/-- A prompt is added to the transcript, unless there is one of the same time. -/
def addPrompt (c : Clock) (content : String) (prev : List Message) : List Message :=
  if prev.any (·.id = userId c.now) then prev
  else prev ++ [{ id := userId c.now, role := .user, content := content,
                  timestamp := some c.later }]

/-- A steering input is added. -/
def addSteering (c : Clock) (input : String) (prev : List Message) : List Message :=
  prev ++ [{ id := steerId c.later, role := .user, content := "(Steering) " ++ input,
             timestamp := some c.later }]

namespace Chat

/-- What `handleSubmit` does here; `sent` is what `wsSend` answered. -/
def submit (c : Clock) (input : String) (attachments : List Image) (sent : Bool) (s : Chat) :
    Chat :=
  match handleSubmit s.isProcessing input attachments with
  | none => s
  | some (.steer text) =>
    { s with isSteering := true, messages := addSteering c text s.messages }
  | some (.prompt text images) =>
    let s := { s with
      messages := addPrompt c (displayContent text images.length) s.messages
      isProcessing := true
      chatError := none }
    if sent then s
    else
      { s with
        isProcessing := false
        chatError := some "Connection lost — please retry."
        messages := s.messages.filter (·.id ≠ userId c.now) }

/-- An entry that was being written, stopped. -/
def markStopped (m : Message) : Message :=
  if m.isStreaming then
    { m with isStreaming := false, content := m.content ++ "\n\n*(Stopped)*" }
  else m

/-- The rest of `handleStop`, when the request has been answered or has failed. -/
def stopped : Except String Unit → Chat → Chat
  | .ok _, s =>
    { s with isProcessing := false, isSteering := false, messages := s.messages.map markStopped }
  | .error e, s => { s with chatError := some e }

end Chat

/-- The answer to a request to load a session. -/
structure LoadedSession where
  success : Bool
  sessionId : Option SessionId
  messages : List Message
  toolExecutions : List ToolExecution
  cwd : Option String

/-- The rest of `loadSession`, when the request has been answered or has failed. -/
def Chat.loaded : Except String LoadedSession → Chat → Chat
  | .ok data, s =>
    if data.success then
      { s with
        messages := data.messages
        toolExecutions := data.toolExecutions
        isLoadingSession := false }
    else { s with isLoadingSession := false }
  | .error e, s => { s with chatError := some e, isLoadingSession := false }

/-! ## Events of the agent -/

/-- **What an event makes of the transcript** is a matter of the transcript alone. -/
@[simp] theorem Chat.handle_messages (c : Clock) (e : ChatEvent) (s : Chat) :
    (s.handle c e).messages = e.onMessages c s.messages := rfl

/-- What the handlers read of an event of the agent. -/
def readAgentEvent (toLowercase : String → String) : AgentEvent → Option ChatEvent
  | .messageStart => some (.messageStart none (some "assistant"))
  | .messageUpdate (.textDelta delta) => some (.textDelta delta)
  | .messageUpdate (.thinkingDelta delta) => some (.thinkingDelta delta)
  | .messageUpdate _ => none
  | .messageEnd => some (.messageEnd none)
  | .toolExecutionStart toolName toolCallId args =>
    some (.toolExecutionStart toolCallId toolName (some args)
      (some (deriveStatusFromTool toLowercase toolName)))
  | .toolExecutionUpdate _ toolCallId partialResult =>
    -- the back end sends no arguments
    some (.toolExecutionUpdate toolCallId none (some (.str (toolOutputText partialResult))))
  | .toolExecutionEnd _ toolCallId result isError =>
    some (.toolExecutionEnd toolCallId isError (some (.str (toolOutputText result))))
  | .agentEnd => some .agentEnd
  | .other => none

/-- **The two ends of the protocol.**  What `pi_event_to_ws_json` writes, the handlers read. -/
theorem readEvent_piEventToWsJson (toLowercase : String → String) (e : AgentEvent)
    (sid : SessionId) :
    (piEventToWsJson toLowercase e sid).bind readEvent = readAgentEvent toLowercase e := by
  cases e with
  | messageUpdate event => cases event <;> rfl
  | _ => rfl

end WorkWithMe.Client
