import Mathlib.Data.Int.Notation
import Mathlib.Logic.Function.Basic
import WorkWithMe.Pi.Model

/-!
# Sessions

A session is a log of entries.  Each entry names the one it goes on from, so that a user who goes
back to an earlier entry begins another branch, and the session has a leaf, which is the entry that
the next one goes on from.  What a provider gets of it is what leads to the leaf.

* `Session.append` is what the functions that add an entry have in common.
* `Session.entriesForCurrentPath` and `Session.getPathToEntry` go from child to parent, unless the
  session is marked as one without branches.
* `toMessagesFromPath` leaves out what a compaction has summarized.
* `finalizeLoadedEntries` computes in one pass what a session keeps beside its entries.

The readings of the clock are left out, and so is the hydration of a part of a session from a second
store.
-/

set_option autoImplicit false

namespace WorkWithMe.Pi

/-! ## Entries -/

/-- `SessionMessage::BashExecution`. -/
structure BashExecution where
  command : String
  output : String
  exitCode : ℤ
  cancelled : Option Bool
  truncated : Option Bool
  fullOutputPath : Option String
  extra : List (String × Json)

/-- `SessionMessage`. -/
inductive SessionMessage where
  | user (content : UserContent)
  | assistant (message : AssistantMessage)
  | toolResult (message : ToolResultMessage)
  | custom (message : CustomMessage)
  | bashExecution (execution : BashExecution)
  | branchSummary (summary fromId : String)
  | compactionSummary (summary : String) (tokensBefore : ℕ)

/-- `CompactionEntry`, but for what all entries have. -/
structure Compaction where
  summary : String
  firstKeptEntryId : String
  tokensBefore : ℕ
  details : Option Json
  fromHook : Option Bool

/-- What an entry has beside its identifier and its parent. -/
inductive Payload where
  | message (message : SessionMessage)
  | modelChange (provider modelId : String)
  | thinkingLevelChange (thinkingLevel : String)
  | compaction (compaction : Compaction)
  | branchSummary (fromId summary : String) (details : Option Json) (fromHook : Option Bool)
  | label (targetId : String) (label : Option String)
  | sessionInfo (name : Option String)
  | custom (customType : String) (data : Option Json)

/-- `SessionEntry`. -/
structure SessionEntry where
  id : Option String
  parentId : Option String
  payload : Payload

/-- The entry is a message. -/
def SessionEntry.isMessage (e : SessionEntry) : Bool :=
  match e.payload with
  | .message _ => true
  | _ => false

/-- The entry is a compaction. -/
def SessionEntry.compaction? (e : SessionEntry) : Option Compaction :=
  match e.payload with
  | .compaction c => some c
  | _ => none

/-- The name that an entry gives to the session. -/
def SessionEntry.info? (e : SessionEntry) : Option String :=
  match e.payload with
  | .sessionInfo name => name
  | _ => none

/-! ## Messages of a session -/

/-- `From<Message>`. -/
def SessionMessage.ofMessage : Message → SessionMessage
  | .user content => .user content
  | .assistant message => .assistant message
  | .toolResult message => .toolResult message
  | .custom message => .custom message

/-- `bash_execution_to_text`. -/
def bashExecutionToText (b : BashExecution) : String :=
  "Ran `" ++ b.command ++ "`\n" ++
    (if b.output.isEmpty then "(no output)"
    else "```\n" ++ b.output ++ (if b.output.endsWith "\n" then "" else "\n") ++ "```") ++
    (if b.cancelled.getD false then "\n\n(command cancelled)"
    else if b.exitCode ≠ 0 then "\n\nCommand exited with code " ++ toString b.exitCode else "") ++
    match b.fullOutputPath with
    | some path =>
      if b.truncated.getD false then "\n\n[Output truncated. Full output: " ++ path ++ "]" else ""
    | none => ""

/-- `COMPACTION_SUMMARY_PREFIX`. -/
def compactionSummaryPrefix : String :=
  "The conversation history before this point was compacted into the following summary:" ++
    "\n\n<summary>\n"

/-- `COMPACTION_SUMMARY_SUFFIX`. -/
def compactionSummarySuffix : String := "\n</summary>"

/-- `BRANCH_SUMMARY_PREFIX`. -/
def branchSummaryPrefix : String :=
  "The following is a summary of a branch that this conversation came back from:" ++
    "\n\n<summary>\n"

/-- `BRANCH_SUMMARY_SUFFIX`. -/
def branchSummarySuffix : String := "</summary>"

/-- `session_message_to_model`. -/
def sessionMessageToModel : SessionMessage → Option Message
  | .user content => some (.user content)
  | .assistant message => some (.assistant message)
  | .toolResult message => some (.toolResult message)
  | .custom message => some (.custom message)
  | .bashExecution b =>
    match b.extra.lookup "excludeFromContext" with
    | some (.bool true) => none
    | _ => some (.user (.blocks [.text { text := bashExecutionToText b }]))
  | .branchSummary summary _ => some (.user (.blocks
      [.text { text := branchSummaryPrefix ++ summary ++ branchSummarySuffix }]))
  | .compactionSummary summary _ => some (.user (.blocks
      [.text { text := compactionSummaryPrefix ++ summary ++ compactionSummarySuffix }]))

/-- A message that was put into a session comes out of it as it was. -/
@[simp] theorem sessionMessageToModel_ofMessage (m : Message) :
    sessionMessageToModel (.ofMessage m) = some m := by cases m <;> rfl

/-- `append_model_message_for_entry`: what a provider gets of an entry. -/
def SessionEntry.modelMessage (e : SessionEntry) : Option Message :=
  match e.payload with
  | .message m => sessionMessageToModel m
  | .branchSummary fromId summary _ _ => sessionMessageToModel (.branchSummary summary fromId)
  | _ => none

/-! ## The queue of what is to be saved -/

/-- `AutosaveFlushTrigger`. -/
inductive AutosaveFlushTrigger where
  | manual
  | periodic
  | shutdown
  deriving DecidableEq

/-- `AutosaveQueue`, without the times. -/
structure AutosaveQueue where
  pendingMutations : ℕ
  maxPendingMutations : ℕ
  coalescedMutations : ℕ
  backpressureEvents : ℕ
  flushStarted : ℕ
  flushSucceeded : ℕ
  flushFailed : ℕ
  lastFlushBatchSize : ℕ
  lastFlushTrigger : Option AutosaveFlushTrigger

namespace AutosaveQueue

/-- A queue with this limit. -/
def new (maxPendingMutations : ℕ) : AutosaveQueue :=
  ⟨0, maxPendingMutations, 0, 0, 0, 0, 0, 0, none⟩

variable (q : AutosaveQueue)

/-- `enqueue_mutation`. -/
def enqueueMutation : AutosaveQueue :=
  if q.pendingMutations = 0 then { q with pendingMutations := 1 }
  else if q.pendingMutations < q.maxPendingMutations then
    { q with
      coalescedMutations := q.coalescedMutations + 1
      pendingMutations := q.pendingMutations + 1 }
  else
    { q with
      coalescedMutations := q.coalescedMutations + 1
      backpressureEvents := q.backpressureEvents + 1 }

/-- `begin_flush`, with the size of the batch that the ticket has. -/
def beginFlush (trigger : AutosaveFlushTrigger) : Option (ℕ × AutosaveQueue) :=
  if q.pendingMutations = 0 then none
  else some (q.pendingMutations,
    { q with
      pendingMutations := 0
      flushStarted := q.flushStarted + 1
      lastFlushBatchSize := q.pendingMutations
      lastFlushTrigger := some trigger })

/-- `finish_flush`. -/
def finishFlush (batchSize : ℕ) (trigger : AutosaveFlushTrigger) (success : Bool) :
    AutosaveQueue :=
  if success then
    { q with lastFlushTrigger := some trigger, flushSucceeded := q.flushSucceeded + 1 }
  else
    let restored := min batchSize (q.maxPendingMutations - q.pendingMutations)
    { q with
      lastFlushTrigger := some trigger
      flushFailed := q.flushFailed + 1
      pendingMutations := q.pendingMutations + restored
      backpressureEvents := q.backpressureEvents + (batchSize - restored)
      coalescedMutations := q.coalescedMutations + (batchSize - restored) }

end AutosaveQueue

/-! ## Sessions -/

/-- `SessionHeader`. -/
structure SessionHeader where
  version : Option ℕ
  id : String
  cwd : String
  provider : Option String
  modelId : Option String
  thinkingLevel : Option String
  parentSession : Option String

/-- `Session`.  A `HashMap` is a function here, and a `HashSet` a list. -/
structure Session where
  header : SessionHeader
  entries : List SessionEntry
  leafId : Option String
  entryIds : List String
  isLinear : Bool
  entryIndex : String → Option ℕ
  cachedMessageCount : ℕ
  cachedName : Option String
  autosaveQueue : AutosaveQueue
  persistedEntryCount : ℕ
  headerDirty : Bool
  appendsSinceCheckpoint : ℕ

/-- `generate_entry_id`: the first one of a hundred short identifiers that is not taken, or else a
long one.  The UUIDs that are drawn are given. -/
def generateEntryId (existing : List String) (uuid : ℕ → String) : String :=
  (((List.range 100).map fun i ↦ ((uuid i).take 8).copy).find? (· ∉ existing)).getD (uuid 100)

namespace Session

/-- `create_with_dir_and_store`, `in_memory`: a session without entries. -/
def create (header : SessionHeader) (maxPendingMutations : ℕ) : Session where
  header := header
  entries := []
  leafId := none
  entryIds := []
  isLinear := true
  entryIndex := fun _ ↦ none
  cachedMessageCount := 0
  cachedName := none
  autosaveQueue := .new maxPendingMutations
  persistedEntryCount := 0
  headerDirty := false
  appendsSinceCheckpoint := 0

variable (s : Session)

/-! ## Entries that are added -/

/-- `next_entry_id`. -/
def nextEntryId (uuid : ℕ → String) : String := generateEntryId s.entryIds uuid

/-- What is done for each entry that is added.  The identifier of it is then the leaf. -/
def append (uuid : ℕ → String) (payload : Payload) : Session :=
  let id := s.nextEntryId uuid
  { s with
    leafId := some id
    entries := s.entries ++ [⟨some id, s.leafId, payload⟩]
    entryIndex := Function.update s.entryIndex id (some s.entries.length)
    entryIds := id :: s.entryIds
    autosaveQueue := s.autosaveQueue.enqueueMutation }

/-- `append_message`. -/
def appendMessage (uuid : ℕ → String) (message : SessionMessage) : Session :=
  { s.append uuid (.message message) with cachedMessageCount := s.cachedMessageCount + 1 }

/-- `append_model_message`. -/
def appendModelMessage (uuid : ℕ → String) (message : Message) : Session :=
  s.appendMessage uuid (.ofMessage message)

/-- `append_bash_execution`. -/
def appendBashExecution (uuid : ℕ → String) (command output : String) (exitCode : ℤ)
    (cancelled truncated : Bool) (fullOutputPath : Option String) : Session :=
  s.appendMessage uuid (.bashExecution
    ⟨command, output, exitCode, some cancelled, some truncated, fullOutputPath, []⟩)

/-- `append_model_change`. -/
def appendModelChange (uuid : ℕ → String) (provider modelId : String) : Session :=
  s.append uuid (.modelChange provider modelId)

/-- `append_thinking_level_change`. -/
def appendThinkingLevelChange (uuid : ℕ → String) (thinkingLevel : String) : Session :=
  s.append uuid (.thinkingLevelChange thinkingLevel)

/-- `append_session_info`. -/
def appendSessionInfo (uuid : ℕ → String) (name : Option String) : Session :=
  { s.append uuid (.sessionInfo name) with cachedName := name.or s.cachedName }

/-- `append_custom_entry`. -/
def appendCustomEntry (uuid : ℕ → String) (customType : String) (data : Option Json) : Session :=
  s.append uuid (.custom customType data)

/-- `append_compaction`. -/
def appendCompaction (uuid : ℕ → String) (compaction : Compaction) : Session :=
  s.append uuid (.compaction compaction)

/-- `append_branch_summary`. -/
def appendBranchSummary (uuid : ℕ → String) (fromId summary : String) (details : Option Json)
    (fromHook : Option Bool) : Session :=
  s.append uuid (.branchSummary fromId summary details fromHook)

/-- `get_entry`. -/
def getEntry (id : String) : Option SessionEntry := (s.entryIndex id).bind (s.entries[·]?)

/-- `add_label`. -/
def addLabel (uuid : ℕ → String) (targetId : String) (label : Option String) : Option Session :=
  (s.getEntry targetId).map fun _ ↦ s.append uuid (.label targetId label)

/-! ## The leaf and the header -/

/-- `navigate_to`, `create_branch_from`. -/
def navigateTo (id : String) : Option Session :=
  if (s.entryIndex id).isSome then
    some { s with
      leafId := some id
      isLinear := s.isLinear && decide (s.entries.getLast?.bind SessionEntry.id = some id) }
  else none

/-- `reset_leaf`. -/
def resetLeaf : Session := { s with leafId := none, isLinear := false }

/-- `set_model_header`. -/
def setModelHeader (provider modelId thinkingLevel : Option String) : Session :=
  let changed := provider.isSome || modelId.isSome || thinkingLevel.isSome
  { s with
    header := { s.header with
      provider := provider.or s.header.provider
      modelId := modelId.or s.header.modelId
      thinkingLevel := thinkingLevel.or s.header.thinkingLevel }
    headerDirty := s.headerDirty || changed
    autosaveQueue := if changed then s.autosaveQueue.enqueueMutation else s.autosaveQueue }

/-- `set_branched_from`. -/
def setBranchedFrom (path : Option String) : Session :=
  { s with
    header := { s.header with parentSession := path }
    headerDirty := true
    autosaveQueue := s.autosaveQueue.enqueueMutation }

end Session

/-! ## What is computed from the entries -/

/-- Give an identifier to each entry that has none. -/
def assignEntryIds (uuid : ℕ → ℕ → String) : List String → List SessionEntry → List SessionEntry
  | _, [] => []
  | existing, e :: l =>
    match e.id with
    | some _ => e :: assignEntryIds uuid existing l
    | none =>
      let id := generateEntryId existing (uuid l.length)
      { e with id := some id } :: assignEntryIds uuid (id :: existing) l

/-- `entry_id_set`. -/
def entryIdSet (entries : List SessionEntry) : List String := entries.filterMap SessionEntry.id

/-- `LoadFinalization`, and what the pass counts. -/
structure LoadFinalization where
  leafId : Option String
  entryIndex : String → Option ℕ
  messageCount : ℕ
  name : Option String
  orphans : List (String × String)
  childCount : Option String → ℕ
  hasBranching : Bool

/-- What an entry adds. -/
def LoadFinalization.add (entryIds : List String) (f : LoadFinalization) (e : SessionEntry)
    (idx : ℕ) : LoadFinalization :=
  match e.id with
  | none => f
  | some id =>
    { leafId := some id
      entryIndex := Function.update f.entryIndex id (some idx)
      messageCount := if e.isMessage then f.messageCount + 1 else f.messageCount
      name := e.info?.or f.name
      orphans := f.orphans ++ match e.parentId with
        | some parent => if parent ∈ entryIds then [] else [(id, parent)]
        | none => []
      childCount := if f.hasBranching then f.childCount
        else Function.update f.childCount e.parentId (f.childCount e.parentId + 1)
      hasBranching := f.hasBranching || decide (1 < f.childCount e.parentId + 1) }

/-- The pass over the entries, of which the first one has this index. -/
def LoadFinalization.scan (entryIds : List String) (f : LoadFinalization) :
    List SessionEntry → ℕ → LoadFinalization
  | [], _ => f
  | e :: l, idx => LoadFinalization.scan entryIds (f.add entryIds e idx) l (idx + 1)

/-- `finalize_loaded_entries`, with the entries as they are then. -/
def finalizeLoadedEntries (uuid : ℕ → ℕ → String) (entries : List SessionEntry) :
    List SessionEntry × LoadFinalization :=
  let entries := assignEntryIds uuid (entryIdSet entries) entries
  (entries, LoadFinalization.scan (entryIdSet entries)
    ⟨none, fun _ ↦ none, 0, none, [], fun _ ↦ 0, false⟩ entries 0)

/-- `ensure_entry_ids`, `rebuild_all_caches`. -/
def Session.ensureEntryIds (s : Session) (uuid : ℕ → ℕ → String) : Session :=
  let (entries, f) := finalizeLoadedEntries uuid s.entries
  { s with
    entries := entries
    entryIds := entryIdSet entries
    entryIndex := f.entryIndex
    cachedMessageCount := f.messageCount
    cachedName := f.name
    isLinear := !f.hasBranching && decide (s.leafId = f.leafId) }

/-! ## What leads to an entry -/

namespace Session

variable (s : Session)

/-- The loop of `entries_for_current_path`, with at most so many rounds, and its path in the order in
which it was found. -/
def collectEntries : ℕ → List String → Option String → List SessionEntry → List SessionEntry
  | 0, _, _, path => path
  | _ + 1, _, none, path => path
  | n + 1, visited, some id, path =>
    if id ∈ visited then path
    else
      match s.getEntry id with
      | none => path
      | some e => collectEntries n (id :: visited) e.parentId (path ++ [e])

/-- `entries_for_current_path`. -/
def entriesForCurrentPath : List SessionEntry :=
  match s.leafId with
  | none => []
  | some _ =>
    if s.isLinear then s.entries
    else (s.collectEntries (s.entries.length + 1) [] s.leafId []).reverse

/-- The loop of `get_path_to_entry`, with at most so many rounds. -/
def collectIds : ℕ → List String → Option String → List String → List String
  | 0, _, _, path => path
  | _ + 1, _, none, path => path
  | n + 1, visited, some id, path =>
    if id ∈ visited then path
    else
      collectIds n (id :: visited) ((s.getEntry id).bind SessionEntry.parentId) (path ++ [id])

/-- `get_path_to_entry`. -/
def getPathToEntry (id : String) : List String :=
  match if s.isLinear then s.entryIndex id else none with
  | some idx => (s.entries.take (idx + 1)).filterMap SessionEntry.id
  | none => (s.collectIds (s.entries.length + 2) [] (some id) []).reverse

/-- `get_children`. -/
def getChildren (id : Option String) : List String :=
  s.entries.filterMap fun e ↦ if e.parentId = id then e.id else none

/-- `list_leaves`. -/
def listLeaves : List String :=
  s.entries.filterMap fun e ↦
    e.id.filter fun id ↦ s.entries.all fun child ↦ child.parentId ≠ some id

end Session

/-! ## What a provider gets -/

/-- The last compaction, with its index. -/
def lastCompaction (path : List SessionEntry) : Option (ℕ × Compaction) :=
  path.zipIdx.reverse.findSome? fun (e, idx) ↦ e.compaction?.map fun c ↦ (idx, c)

/-- The loop of `to_messages_from_path` behind a compaction, from the entry of this index on. -/
def keepMessages (compactionIdx : ℕ) (firstKeptEntryId : String) (hasKeptEntry : Bool) :
    Bool → List SessionEntry → ℕ → List Message
  | _, [], _ => []
  | true, e :: path, idx =>
    e.modelMessage.toList ++
      keepMessages compactionIdx firstKeptEntryId hasKeptEntry true path (idx + 1)
  | false, e :: path, idx =>
    if if hasKeptEntry then e.id = some firstKeptEntryId else compactionIdx ≤ idx then
      e.modelMessage.toList ++
        keepMessages compactionIdx firstKeptEntryId hasKeptEntry true path (idx + 1)
    else keepMessages compactionIdx firstKeptEntryId hasKeptEntry false path (idx + 1)

/-- `to_messages_from_path`. -/
def toMessagesFromPath (path : List SessionEntry) : List Message :=
  match lastCompaction path with
  | some (idx, c) =>
    (sessionMessageToModel (.compactionSummary c.summary c.tokensBefore)).toList ++
      keepMessages idx c.firstKeptEntryId (path.any fun e ↦ e.id = some c.firstKeptEntryId)
        false path 0
  | none => path.filterMap SessionEntry.modelMessage

namespace Session

variable (s : Session)

/-- `to_messages_for_current_path`. -/
def toMessagesForCurrentPath : List Message :=
  match s.leafId with
  | none => []
  | some _ =>
    if s.isLinear then toMessagesFromPath s.entries
    else toMessagesFromPath s.entriesForCurrentPath

/-- `to_messages`. -/
def toMessages : List Message :=
  s.entries.filterMap fun e ↦
    match e.payload with
    | .message m => sessionMessageToModel m
    | _ => none

end Session

/-! ## Forks -/

/-- `content_blocks_to_text`, from what was written before. -/
def contentBlocksToText : String → List ContentBlock → String
  | output, [] => output
  | output, block :: blocks =>
    contentBlocksToText ((if output.isEmpty then output else output ++ "\n") ++
      match block with
      | .text block => block.text
      | .image image => "[image: " ++ image.mimeType ++ "]"
      | .thinking block => block.thinking
      | .toolCall call => "[tool call: " ++ call.name ++ "]") blocks

/-- `user_content_to_text`. -/
def userContentToText : UserContent → String
  | .text text => text
  | .blocks blocks => contentBlocksToText "" blocks

/-- `ForkPlan`. -/
structure ForkPlan where
  entries : List SessionEntry
  leafId : Option String
  selectedText : String

namespace Session

variable (s : Session)

/-- The entries that a fork takes along. -/
def forkEntries : Option String → Except String (List SessionEntry)
  | none => .ok []
  | some leafId =>
    if s.isLinear then
      match s.entryIndex leafId with
      | some idx => .ok (s.entries.take (idx + 1))
      | none => .error ("Failed to build fork: missing entry " ++ leafId)
    else
      (s.getPathToEntry leafId).mapM fun id ↦
        match s.getEntry id with
        | some e => .ok e
        | none => .error ("Failed to build fork: missing entry " ++ id)

/-- `plan_fork_from_user_message`. -/
def planForkFromUserMessage (entryId : String) : Except String ForkPlan :=
  match s.getEntry entryId with
  | none => .error ("Fork target not found: " ++ entryId)
  | some e =>
    match e.payload with
    | .message (.user content) =>
      (s.forkEntries e.parentId).map fun entries ↦
        ⟨entries, e.parentId, userContentToText content⟩
    | .message _ => .error ("Fork target is not a user message: " ++ entryId)
    | _ => .error ("Fork target is not a message entry: " ++ entryId)

end Session

end WorkWithMe.Pi
