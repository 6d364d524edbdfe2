import Mathlib.Data.List.Induction
import WorkWithMe.Lib.Json

/-!
# What the agent and its provider speak of

The types of `model.rs`, the events of `agent.rs`, and what is done with messages before they go to
a provider.  Readings of the clock are left out, and of what a reply has cost only the tokens are
here.

* `extractToolCalls` finds the calls of a reply.
* `providerMessages` is what a provider gets of the history, and `providerMessages_noImages` says
  that no image is left in it if images are blocked.
-/

set_option autoImplicit false

namespace WorkWithMe.Pi

/-! ## Messages -/

/-- `TextContent`. -/
structure TextContent where
  text : String
  textSignature : Option String := none

/-- `ThinkingContent`. -/
structure ThinkingContent where
  thinking : String
  thinkingSignature : Option String := none

/-- `ImageContent`. -/
structure ImageContent where
  data : String
  mimeType : String

/-- `ToolCall`. -/
structure ToolCall where
  id : String
  name : String
  arguments : Json
  thoughtSignature : Option String := none

/-- `ContentBlock`. -/
inductive ContentBlock where
  | text (text : TextContent)
  | thinking (thinking : ThinkingContent)
  | image (image : ImageContent)
  | toolCall (call : ToolCall)

/-- `StopReason`. -/
inductive StopReason where
  | stop
  | length
  | toolUse
  | error
  | aborted
  deriving DecidableEq

/-- `Usage`, without the costs. -/
structure Usage where
  input : ℕ := 0
  output : ℕ := 0
  cacheRead : ℕ := 0
  cacheWrite : ℕ := 0
  totalTokens : ℕ := 0

/-- `UserContent`. -/
inductive UserContent where
  | text (text : String)
  | blocks (blocks : List ContentBlock)

/-- `AssistantMessage`. -/
structure AssistantMessage where
  content : List ContentBlock
  api : String
  provider : String
  model : String
  usage : Usage
  stopReason : StopReason
  errorMessage : Option String

/-- `ToolResultMessage`. -/
structure ToolResultMessage where
  toolCallId : String
  toolName : String
  content : List ContentBlock
  details : Option Json
  isError : Bool

/-- `CustomMessage`. -/
structure CustomMessage where
  content : String
  customType : String
  display : Bool
  details : Option Json

/-- `Message`. -/
inductive Message where
  | user (content : UserContent)
  | assistant (message : AssistantMessage)
  | toolResult (message : ToolResultMessage)
  | custom (message : CustomMessage)

/-- A message that somebody has put in: it is neither a reply nor what a tool has come to. -/
def Message.isInput : Message → Bool
  | .user _ | .custom _ => true
  | .assistant _ | .toolResult _ => false

/-- `extract_tool_calls`. -/
def extractToolCalls (content : List ContentBlock) : List ToolCall :=
  content.filterMap fun
    | .toolCall call => some call
    | _ => none

/-- The calls of a reply. -/
def AssistantMessage.calls (a : AssistantMessage) : List ToolCall := extractToolCalls a.content

/-- The reply has failed, or somebody has stopped it. -/
def AssistantMessage.failed (a : AssistantMessage) : Bool :=
  a.stopReason = .error || a.stopReason = .aborted

/-- `ToolOutput`. -/
structure ToolOutput where
  content : List ContentBlock
  details : Option Json
  isError : Bool

/-- An output that is a text, and an error. -/
def ToolOutput.failure (text : String) : ToolOutput := ⟨[.text { text }], none, true⟩

/-! ## Events -/

/-- `StreamEvent`: what comes from a provider. -/
inductive StreamEvent where
  | start (message : AssistantMessage)
  | textStart (contentIndex : ℕ)
  | textDelta (contentIndex : ℕ) (delta : String)
  | textEnd (contentIndex : ℕ) (content : String)
  | thinkingStart (contentIndex : ℕ)
  | thinkingDelta (contentIndex : ℕ) (delta : String)
  | thinkingEnd (contentIndex : ℕ) (content : String)
  | toolCallStart (contentIndex : ℕ)
  | toolCallDelta (contentIndex : ℕ) (delta : String)
  | toolCallEnd (contentIndex : ℕ) (toolCall : ToolCall)
  | done (reason : StopReason) (message : AssistantMessage)
  | error (reason : StopReason) (error : AssistantMessage)

/-- `AssistantMessageEvent`: what is told of it, with the reply as it stands. -/
inductive AssistantMessageEvent where
  | start (message : AssistantMessage)
  | textStart (contentIndex : ℕ) (message : AssistantMessage)
  | textDelta (contentIndex : ℕ) (delta : String) (message : AssistantMessage)
  | textEnd (contentIndex : ℕ) (content : String) (message : AssistantMessage)
  | thinkingStart (contentIndex : ℕ) (message : AssistantMessage)
  | thinkingDelta (contentIndex : ℕ) (delta : String) (message : AssistantMessage)
  | thinkingEnd (contentIndex : ℕ) (content : String) (message : AssistantMessage)
  | toolCallStart (contentIndex : ℕ) (message : AssistantMessage)
  | toolCallDelta (contentIndex : ℕ) (delta : String) (message : AssistantMessage)
  | toolCallEnd (contentIndex : ℕ) (toolCall : ToolCall) (message : AssistantMessage)
  | done (reason : StopReason) (message : AssistantMessage)
  | error (reason : StopReason) (error : AssistantMessage)

/-- `AgentEvent`, as far as a run of the agent has them. -/
inductive AgentEvent where
  | agentStart (sessionId : String)
  | agentEnd (sessionId : String) (messages : List Message) (error : Option String)
  | turnStart (sessionId : String) (turnIndex : ℕ)
  | turnEnd (sessionId : String) (turnIndex : ℕ) (message : Message) (toolResults : List Message)
  | messageStart (message : Message)
  | messageUpdate (message : Message) (event : AssistantMessageEvent)
  | messageEnd (message : Message)
  | toolExecutionStart (toolCallId toolName : String) (args : Json)
  | toolExecutionUpdate (toolCallId toolName : String) (args : Json) (partialResult : ToolOutput)
  | toolExecutionEnd (toolCallId toolName : String) (result : ToolOutput) (isError : Bool)

/-! ## What a provider gets -/

/-- `BLOCK_IMAGES_PLACEHOLDER`. -/
def blockImagesPlaceholder : String := "Image reading is disabled."

/-- The block is the one that stands for images. -/
def ContentBlock.isPlaceholder : ContentBlock → Bool
  | .text t => t.text = blockImagesPlaceholder
  | _ => false

/-- `filter_image_blocks`: images become a text, but no second one directly behind it.  Also how
many there were. -/
def filterImageBlocks (blocks : List ContentBlock) : List ContentBlock × ℕ :=
  blocks.foldl (fun (filtered, removed) block ↦
    match block with
    | .image _ =>
      if filtered.getLast?.any ContentBlock.isPlaceholder then (filtered, removed + 1)
      else (filtered ++ [.text { text := blockImagesPlaceholder }], removed + 1)
    | other => (filtered ++ [other], removed)) ([], 0)

/-- `filter_images_from_message`, without the count. -/
def filterImagesFromMessage : Message → Message
  | .user (.text t) => .user (.text t)
  | .user (.blocks bs) => .user (.blocks (filterImageBlocks bs).1)
  | .assistant a => .assistant { a with content := (filterImageBlocks a.content).1 }
  | .toolResult r => .toolResult { r with content := (filterImageBlocks r.content).1 }
  | .custom c => .custom c

/-- The message is not a hidden one. -/
def Message.isShown : Message → Bool
  | .custom c => c.display
  | _ => true

/-- The messages of `build_context`. -/
def providerMessages (blockImages : Bool) (messages : List Message) : List Message :=
  let shown := messages.filter Message.isShown
  if blockImages then shown.map filterImagesFromMessage else shown

/-- The blocks of a message. -/
def Message.blocks : Message → List ContentBlock
  | .user (.text _) | .custom _ => []
  | .user (.blocks bs) => bs
  | .assistant a => a.content
  | .toolResult r => r.content

/-- The block is an image. -/
def ContentBlock.isImage : ContentBlock → Bool
  | .image _ => true
  | _ => false

theorem filterImageBlocks_noImages (blocks : List ContentBlock) :
    ∀ b ∈ (filterImageBlocks blocks).1, b.isImage = false := by
  induction blocks using List.reverseRecOn with
  | nil => simp [filterImageBlocks]
  | append_singleton blocks block ih =>
    rw [filterImageBlocks, List.foldl_append] at *
    generalize List.foldl _ ([], 0) blocks = acc at ih ⊢
    cases block with
    | image i =>
      simp only [List.foldl_cons, List.foldl_nil]
      split
      · exact ih
      · simpa [ContentBlock.isImage, or_imp, forall_and] using ih
    | _ => simpa [ContentBlock.isImage, or_imp, forall_and] using ih

/-- The calls of a message that is a reply. -/
theorem extractToolCalls_filterImageBlocks (blocks : List ContentBlock) :
    extractToolCalls (filterImageBlocks blocks).1 = extractToolCalls blocks := by
  induction blocks using List.reverseRecOn with
  | nil => rfl
  | append_singleton blocks block ih =>
    rw [filterImageBlocks, List.foldl_append] at *
    generalize List.foldl _ ([], 0) blocks = acc at ih ⊢
    rw [extractToolCalls] at ih ⊢
    cases block with
    | image i =>
      simp only [List.foldl_cons, List.foldl_nil]
      split <;> simp [extractToolCalls] at ih ⊢ <;> exact ih
    | _ => simp [extractToolCalls] at ih ⊢; exact ih

/-- No message that is hidden is left. -/
theorem isShown_of_mem_providerMessages {blockImages : Bool} {messages : List Message}
    {m : Message} (hm : m ∈ providerMessages blockImages messages) : m.isShown = true := by
  cases blockImages with
  | false => exact (List.mem_filter.mp hm).2
  | true =>
    obtain ⟨m, hmem, rfl⟩ := List.mem_map.mp hm
    have := (List.mem_filter.mp hmem).2
    cases m with
    | user content => cases content <;> rfl
    | _ => exact this

/-- **No image is left if images are blocked.** -/
theorem providerMessages_noImages (messages : List Message) :
    ∀ m ∈ providerMessages true messages, ∀ b ∈ m.blocks, b.isImage = false := by
  intro m hm b hb
  simp only [providerMessages, if_true, List.mem_map] at hm
  obtain ⟨m, -, rfl⟩ := hm
  cases m with
  | user content =>
    cases content with
    | text t => simp [filterImagesFromMessage, Message.blocks] at hb
    | blocks bs => exact filterImageBlocks_noImages bs b hb
  | assistant a => exact filterImageBlocks_noImages a.content b hb
  | toolResult r => exact filterImageBlocks_noImages r.content b hb
  | custom c => simp [filterImagesFromMessage, Message.blocks] at hb

end WorkWithMe.Pi
