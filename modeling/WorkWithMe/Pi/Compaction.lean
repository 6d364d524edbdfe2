import Mathlib.Algebra.Ring.Nat
import WorkWithMe.Lib.JsonText
import WorkWithMe.Pi.Session

/-!
# Compaction

When a conversation comes near to what a model can take, the earlier part of it is summarized.
`prepareCompaction` decides whether that is to be done, and where the part that is kept begins:
`findCutPoint` goes back from the end until enough is kept, and never begins with the result of a
call.  Where the cut is within a turn, what comes before it in the turn is summarized on its own.

A provider writes the summaries, so `compact` has them as parameters.
-/

set_option autoImplicit false

namespace WorkWithMe.Pi

/-- `ResolvedCompactionSettings`. -/
structure CompactionSettings where
  enabled : Bool
  contextWindowTokens : ℕ
  reserveTokens : ℕ
  keepRecentTokens : ℕ

/-! ## Tokens -/

/-- `CHARS_PER_TOKEN_ESTIMATE`. -/
def charsPerTokenEstimate : ℕ := 3

/-- `IMAGE_CHAR_ESTIMATE`, for the 1200 of `IMAGE_TOKEN_ESTIMATE`. -/
def imageCharEstimate : ℕ := 1200 * charsPerTokenEstimate

/-- `json_byte_len`. -/
def jsonByteLen (value : Json) : ℕ := (String.ofList value.compact).utf8ByteSize

/-- What a block counts for. -/
def ContentBlock.chars : ContentBlock → ℕ
  | .text block => block.text.utf8ByteSize
  | .image _ => imageCharEstimate
  | .thinking block => block.thinking.utf8ByteSize
  | .toolCall call => call.name.utf8ByteSize + jsonByteLen call.arguments

/-- What a message counts for. -/
def SessionMessage.chars : SessionMessage → ℕ
  | .user (.text text) => text.utf8ByteSize
  | .user (.blocks blocks) => (blocks.map ContentBlock.chars).sum
  | .assistant message => (message.content.map ContentBlock.chars).sum
  | .toolResult message => (message.content.map ContentBlock.chars).sum
  | .custom message => message.content.utf8ByteSize
  | .bashExecution b => b.command.utf8ByteSize + b.output.utf8ByteSize
  | .branchSummary summary _ => summary.utf8ByteSize
  | .compactionSummary summary _ => summary.utf8ByteSize

/-- `estimate_tokens`. -/
def estimateTokens (message : SessionMessage) : ℕ :=
  (message.chars + (charsPerTokenEstimate - 1)) / charsPerTokenEstimate

/-- `calculate_context_tokens`. -/
def calculateContextTokens (usage : Usage) : ℕ :=
  if 0 < usage.totalTokens then usage.totalTokens else usage.input + usage.output

/-- `get_assistant_usage`. -/
def getAssistantUsage : SessionMessage → Option Usage
  | .assistant message => if message.failed then none else some message.usage
  | _ => none

/-- `estimate_context_tokens`: what the last reply has reported, and an estimate of what came
after it. -/
def estimateContextTokens (messages : List SessionMessage) : ℕ :=
  match messages.zipIdx.reverse.findSome? fun (m, idx) ↦ (getAssistantUsage m).map (·, idx) with
  | none => (messages.map estimateTokens).sum
  | some (usage, idx) =>
    calculateContextTokens usage + ((messages.drop (idx + 1)).map estimateTokens).sum

/-- `should_compact`. -/
def shouldCompact (contextTokens contextWindow : ℕ) (settings : CompactionSettings) : Bool :=
  settings.enabled && decide (contextWindow - settings.reserveTokens < contextTokens)

/-! ## Where to cut -/

/-- `message_from_entry`. -/
def messageFromEntry (e : SessionEntry) : Option SessionMessage :=
  match e.payload with
  | .message message => some message
  | .branchSummary fromId summary _ _ => some (.branchSummary summary fromId)
  | .compaction c => some (.compactionSummary c.summary c.tokensBefore)
  | _ => none

/-- The message of an entry that is one. -/
def SessionEntry.message? (e : SessionEntry) : Option SessionMessage :=
  match e.payload with
  | .message message => some message
  | _ => none

/-- `entry_is_message_like`. -/
def SessionEntry.isMessageLike (e : SessionEntry) : Bool :=
  match e.payload with
  | .message _ | .branchSummary .. => true
  | _ => false

/-- `entry_is_compaction_boundary`. -/
def SessionEntry.isCompactionBoundary (e : SessionEntry) : Bool := e.compaction?.isSome

/-- A cut may come before the entry. -/
def SessionEntry.isCutPoint (e : SessionEntry) : Bool :=
  match e.payload with
  | .message (.toolResult _) => false
  | .message _ | .branchSummary .. => true
  | _ => false

/-- `is_user_turn_start`. -/
def SessionEntry.isUserTurnStart (e : SessionEntry) : Bool :=
  match e.payload with
  | .branchSummary .. | .message (.user _) | .message (.bashExecution _) => true
  | _ => false

/-- `find_valid_cut_points`. -/
def findValidCutPoints (entries : List SessionEntry) (startIndex endIndex : ℕ) : List ℕ :=
  ((entries.zipIdx.take endIndex).drop startIndex).filterMap fun (e, idx) ↦
    if e.isCutPoint then some idx else none

/-- `find_turn_start_index`. -/
def findTurnStartIndex (entries : List SessionEntry) (entryIndex startIndex : ℕ) : Option ℕ :=
  (List.range' startIndex (entryIndex + 1 - startIndex)).reverse.find? fun idx ↦
    entries[idx]?.any SessionEntry.isUserTurnStart

/-- The loop of `find_cut_point` that goes back until enough is kept: it has come across so many
tokens, and these indices are to come. -/
def findCutIndex (entries : List SessionEntry) (cutPoints : List ℕ)
    (keepRecentTokens cutIndex : ℕ) : ℕ → List ℕ → ℕ
  | _, [] => cutIndex
  | accumulatedTokens, i :: indices =>
    match entries[i]?.bind SessionEntry.message? with
    | none => findCutIndex entries cutPoints keepRecentTokens cutIndex accumulatedTokens indices
    | some message =>
      let accumulatedTokens := min (accumulatedTokens + estimateTokens message) (2 ^ 64 - 1)
      if keepRecentTokens ≤ accumulatedTokens then
        (cutPoints.takeWhile (· ≤ i)).getLast?.getD cutIndex
      else findCutIndex entries cutPoints keepRecentTokens cutIndex accumulatedTokens indices

/-- The loop of `find_cut_point` that takes along what is no message and comes before the cut. -/
def takeAlong (entries : List SessionEntry) (startIndex : ℕ) : ℕ → ℕ
  | 0 => 0
  | cutIndex + 1 =>
    if startIndex < cutIndex + 1 then
      if entries[cutIndex]?.any fun prev ↦ prev.isCompactionBoundary || prev.isMessageLike then
        cutIndex + 1
      else takeAlong entries startIndex cutIndex
    else cutIndex + 1

/-- `CutPointResult`. -/
structure CutPointResult where
  firstKeptEntryIndex : ℕ
  turnStartIndex : Option ℕ
  isSplitTurn : Bool

/-- `find_cut_point`. -/
def findCutPoint (entries : List SessionEntry) (startIndex endIndex keepRecentTokens : ℕ) :
    CutPointResult :=
  match findValidCutPoints entries startIndex endIndex with
  | [] => ⟨startIndex, none, false⟩
  | first :: rest =>
    let cutIndex := takeAlong entries startIndex
      (findCutIndex entries (first :: rest) keepRecentTokens first 0
        (List.range' startIndex (endIndex - startIndex)).reverse)
    let isUserMessage := entries[cutIndex]?.any SessionEntry.isUserTurnStart
    let turnStartIndex :=
      if isUserMessage then none else findTurnStartIndex entries cutIndex startIndex
    ⟨cutIndex, turnStartIndex, !isUserMessage && turnStartIndex.isSome⟩

/-! ## Files -/

/-- `FileOperations`, of which the lists have nothing twice. -/
structure FileOperations where
  read : List String
  written : List String
  edited : List String

/-- `build_tool_status_map`. -/
def buildToolStatusMap (messages : List SessionMessage) (status : String → Option Bool) :
    String → Option Bool :=
  messages.foldl (fun status message ↦
    match message with
    | .toolResult result => Function.update status result.toolCallId (some (!result.isError))
    | _ => status) status

/-- What a call says of files. -/
def FileOperations.addCall (toolStatus : String → Option Bool) (ops : FileOperations)
    (call : ToolCall) : FileOperations :=
  if (toolStatus call.id).getD false then
    match (call.arguments.get "path").bind Json.asStr with
    | none => ops
    | some path =>
      if call.name ∈ ["read", "grep", "find", "ls"] then { ops with read := ops.read.insert path }
      else if call.name = "write" then { ops with written := ops.written.insert path }
      else if call.name = "edit" then { ops with edited := ops.edited.insert path }
      else ops
  else ops

/-- `extract_file_ops_from_message`. -/
def extractFileOpsFromMessage (toolStatus : String → Option Bool) (ops : FileOperations) :
    SessionMessage → FileOperations
  | .assistant message => message.calls.foldl (.addCall toolStatus) ops
  | _ => ops

/-- The strings of an array that is a member of the document. -/
def memberStrings (details : Json) (name : String) : List String :=
  match details.get name with
  | some (.arr elems) => elems.filterMap Json.asStr
  | _ => []

/-- The files that an earlier compaction has reported, unless a hook has written it. -/
def FileOperations.ofCompaction (c : Compaction) : FileOperations :=
  if c.fromHook.getD false then ⟨[], [], []⟩
  else
    let details := c.details.getD .null
    ⟨(memberStrings details "readFiles").foldl (fun l path ↦ l.insert path) [], [],
      (memberStrings details "modifiedFiles").foldl (fun l path ↦ l.insert path) []⟩

/-- `compute_file_lists`. -/
def computeFileLists (ops : FileOperations) : List String × List String :=
  let modified := ops.edited ∪ ops.written
  ((ops.read.filter (· ∉ modified)).mergeSort (· ≤ ·), modified.mergeSort (· ≤ ·))

/-- `write_escaped_file_list`. -/
def writeEscapedFileList (tag : String) (files : List String) : String :=
  "<" ++ tag ++ ">\n" ++ "\n".intercalate (files.map fun file ↦
    String.join (file.toList.map fun c ↦
      if c = '<' then "&lt;" else if c = '>' then "&gt;" else c.toString)) ++ "\n</" ++ tag ++ ">"

/-- `format_file_operations`. -/
def formatFileOperations (readFiles modifiedFiles : List String) : String :=
  if readFiles.isEmpty && modifiedFiles.isEmpty then ""
  else "\n\n" ++
    (if readFiles.isEmpty then "" else writeEscapedFileList "read-files" readFiles) ++
    if modifiedFiles.isEmpty then ""
    else (if readFiles.isEmpty then "" else "\n\n") ++
      writeEscapedFileList "modified-files" modifiedFiles

/-! ## What is to be done -/

/-- `CompactionPreparation`. -/
structure CompactionPreparation where
  firstKeptEntryId : String
  messagesToSummarize : List SessionMessage
  turnPrefixMessages : List SessionMessage
  isSplitTurn : Bool
  tokensBefore : ℕ
  previousSummary : Option String
  fileOps : FileOperations
  settings : CompactionSettings

/-- The messages of the entries from the one index up to the other. -/
def messagesBetween (entries : List SessionEntry) (first last : ℕ) : List SessionMessage :=
  ((entries.take last).drop first).filterMap messageFromEntry

/-- The files of the messages, and of the compaction before them. -/
def gatherFileOps (previous : Option Compaction) (messages turnPrefix : List SessionMessage) :
    FileOperations :=
  let toolStatus := buildToolStatusMap turnPrefix (buildToolStatusMap messages fun _ ↦ none)
  turnPrefix.foldl (extractFileOpsFromMessage toolStatus)
    (messages.foldl (extractFileOpsFromMessage toolStatus)
      ((previous.map FileOperations.ofCompaction).getD ⟨[], [], []⟩))

/-- `prepare_compaction`. -/
def prepareCompaction (entries : List SessionEntry) (settings : CompactionSettings) :
    Option CompactionPreparation :=
  if entries.getLast?.all SessionEntry.isCompactionBoundary then none
  else
    let previous := lastCompaction entries
    let boundaryStart := (previous.map fun p ↦ p.1 + 1).getD 0
    let boundaryEnd := entries.length
    let tokensBefore := estimateContextTokens
      (messagesBetween entries ((previous.map Prod.fst).getD 0) boundaryEnd)
    if shouldCompact tokensBefore settings.contextWindowTokens settings then
      let cutPoint := findCutPoint entries boundaryStart boundaryEnd settings.keepRecentTokens
      match entries[cutPoint.firstKeptEntryIndex]?.bind SessionEntry.id with
      | none => none
      | some firstKeptEntryId =>
        let turnStart := if cutPoint.isSplitTurn then cutPoint.turnStartIndex
          else some cutPoint.firstKeptEntryIndex
        match turnStart with
        | none => none
        | some historyEnd =>
          let messagesToSummarize := messagesBetween entries boundaryStart historyEnd
          let turnPrefixMessages := messagesBetween entries historyEnd cutPoint.firstKeptEntryIndex
          if messagesToSummarize.isEmpty && turnPrefixMessages.isEmpty then none
          else
            some
              { firstKeptEntryId := firstKeptEntryId
                messagesToSummarize := messagesToSummarize
                turnPrefixMessages := turnPrefixMessages
                isSplitTurn := cutPoint.isSplitTurn
                tokensBefore := tokensBefore
                previousSummary := previous.map fun p ↦ p.2.summary
                fileOps := gatherFileOps (previous.map Prod.snd) messagesToSummarize
                  turnPrefixMessages
                settings := settings }
    else none

/-! ## What is done -/

/-- `CompactionResult`. -/
structure CompactionResult where
  summary : String
  firstKeptEntryId : String
  tokensBefore : ℕ
  readFiles : List String
  modifiedFiles : List String

/-- `compact`, with what writes the summaries. -/
def compact
    (generateSummary : List SessionMessage → CompactionSettings → Option String →
      Except String String)
    (generateTurnPrefixSummary : List SessionMessage → CompactionSettings → Except String String)
    (preparation : CompactionPreparation) : Except String CompactionResult := do
  let summary ←
    if preparation.isSplitTurn && !preparation.turnPrefixMessages.isEmpty then do
      let historySummary ←
        if preparation.messagesToSummarize.isEmpty then .ok "No prior history."
        else
          generateSummary preparation.messagesToSummarize preparation.settings
            preparation.previousSummary
      let turnPrefixSummary ←
        generateTurnPrefixSummary preparation.turnPrefixMessages preparation.settings
      .ok (historySummary ++ "\n\n---\n\n**Turn Context (split turn):**\n\n" ++ turnPrefixSummary)
    else
      generateSummary preparation.messagesToSummarize preparation.settings
        preparation.previousSummary
  let files := computeFileLists preparation.fileOps
  return {
    summary := summary ++ formatFileOperations files.1 files.2
    firstKeptEntryId := preparation.firstKeptEntryId
    tokensBefore := preparation.tokensBefore
    readFiles := files.1
    modifiedFiles := files.2 }

/-- `compaction_details_to_value`. -/
def CompactionResult.details (result : CompactionResult) : Json :=
  .obj [("readFiles", .arr (result.readFiles.map .str)),
    ("modifiedFiles", .arr (result.modifiedFiles.map .str))]

end WorkWithMe.Pi
