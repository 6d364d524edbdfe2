import WorkWithMe.Server.AppState

/-!
# The events of an agent, as the front end gets them

`pi_event_to_ws_json` turns an event of the agent into the JSON that the client gets, and drops the
events that the client has no use for.  Of the agent's types only what it looks at is here, so all
events that it drops are one constructor.  What it says in a log is left out.

`str::to_lowercase` is the parameter `toLowercase`.

* `sessionId_piEventToWsJson`: whatever is sent names the session.
-/

set_option autoImplicit false

namespace WorkWithMe.Server

/-! ## What the agent reports -/

/-- A block of a tool's output. -/
inductive ContentBlock where
  | text (text : String)
  | other
  deriving DecidableEq

/-- `ToolOutput`. -/
structure ToolOutput where
  content : List ContentBlock
  deriving DecidableEq

/-- What an assistant message is made of, piece by piece. -/
inductive AssistantMessageEvent where
  | textStart
  | textDelta (delta : String)
  | thinkingStart
  | thinkingDelta (delta : String)
  | toolCallStart
  | toolCallDelta (delta : String)
  | toolCallEnd (id name : String) (arguments : Json)
  | other

/-- An event of an agent. -/
inductive AgentEvent where
  | messageStart
  | messageUpdate (event : AssistantMessageEvent)
  | messageEnd
  | toolExecutionStart (toolName toolCallId : String) (args : Json)
  | toolExecutionUpdate (toolName toolCallId : String) (partialResult : ToolOutput)
  | toolExecutionEnd (toolName toolCallId : String) (result : ToolOutput) (isError : Bool)
  | agentEnd
  | other

/-! ## Its JSON -/

/-- `str::contains`. -/
def contains (s needle : String) : Bool := s.toList.tails.any fun l ↦ needle.toList.isPrefixOf l

/-- `derive_status_from_tool`. -/
def deriveStatusFromTool (toLowercase : String → String) (toolName : String) : String :=
  let nameLower : String :=
    .ofList ((toLowercase toolName).toList.map fun c ↦ if c = '_' then '-' else c)
  let has := contains nameLower
  if has "read" || has "file" then "Reading files..."
  else if has "glob" || has "find" then "Finding files..."
  else if has "grep" || has "search" then "Searching codebase..."
  else if has "web-search" || has "web_search" then "Searching the web..."
  else if has "web-fetch" || has "web_fetch" then "Fetching content..."
  else if has "bash" || has "shell" || has "exec" then "Running commands..."
  else if has "write" || has "create" then "Writing files..."
  else if has "edit" || has "patch" then "Editing files..."
  else if has "mcp" then
    if has "read" then "Reading files..."
    else if has "write" then "Writing files..."
    else if has "list" || has "dir" then "Listing directory..."
    else if has "search" then "Searching..."
    else "Working..."
  else "Working on your request..."

/-- `tool_output_text`: the texts of all text blocks. -/
def toolOutputText (output : ToolOutput) : String :=
  String.join (output.content.filterMap fun
    | .text t => some t
    | .other => none)

/-- The kind and the payload of an update. -/
def AssistantMessageEvent.payload : AssistantMessageEvent → Option (String × Json)
  | .textDelta delta => some ("text_delta", .obj [("type", .str "text"), ("text", .str delta)])
  | .thinkingDelta delta =>
    some ("thinking_delta", .obj [("type", .str "thinking"), ("thinking", .str delta)])
  | .toolCallDelta delta =>
    some ("toolcall_delta", .obj [("type", .str "tool_call_delta"), ("delta", .str delta)])
  | .toolCallEnd id name arguments =>
    some ("toolcall_end", .obj [("type", .str "tool_call"), ("toolCallId", .str id),
      ("toolName", .str name), ("input", arguments)])
  | .textStart | .thinkingStart | .toolCallStart => none
  | .other => none

/-- `pi_event_to_ws_json`. -/
def piEventToWsJson (toLowercase : String → String) : AgentEvent → SessionId → Option Json
  | .messageStart, sid => some <| .obj [("type", .str "message_start"), ("sessionId", .str sid),
      ("message", .obj [("role", .str "assistant")])]
  | .messageUpdate event, sid => event.payload.map fun p ↦ .obj
      [("type", .str "message_update"), ("sessionId", .str sid), ("eventType", .str p.1),
        ("delta", p.2)]
  | .messageEnd, sid => some <| .obj [("type", .str "message_end"), ("sessionId", .str sid),
      ("message", .obj [])]
  | .toolExecutionStart toolName toolCallId args, sid => some <| .obj
      [("type", .str "tool_execution_start"), ("sessionId", .str sid),
        ("toolCallId", .str toolCallId), ("toolName", .str toolName), ("args", args),
        ("status", .str (deriveStatusFromTool toLowercase toolName))]
  | .toolExecutionUpdate toolName toolCallId partialResult, sid => some <| .obj
      [("type", .str "tool_execution_update"), ("sessionId", .str sid),
        ("toolCallId", .str toolCallId), ("toolName", .str toolName),
        ("partialResult", .str (toolOutputText partialResult))]
  | .toolExecutionEnd toolName toolCallId result isError, sid => some <| .obj
      [("type", .str "tool_execution_end"), ("sessionId", .str sid),
        ("toolCallId", .str toolCallId), ("toolName", .str toolName),
        ("result", .str (toolOutputText result)), ("isError", .bool isError)]
  | .agentEnd, sid => some <| .obj [("type", .str "agent_end"), ("sessionId", .str sid)]
  | .other, _ => none

/-- **Whatever is sent names the session.** -/
theorem sessionId_piEventToWsJson {toLowercase : String → String} {e : AgentEvent}
    {sid : SessionId} {v : Json} (h : piEventToWsJson toLowercase e sid = some v) :
    v.get "sessionId" = some (.str sid) := by
  cases e with
  | messageUpdate event =>
    obtain ⟨p, -, rfl⟩ := Option.map_eq_some_iff.mp h
    rfl
  | other => cases h
  | _ =>
    cases h
    rfl

end WorkWithMe.Server
