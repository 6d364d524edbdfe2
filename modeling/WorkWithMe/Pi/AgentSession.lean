import WorkWithMe.Pi.Compaction
import WorkWithMe.Pi.Runs
import WorkWithMe.Pi.SessionFile

/-!
# Prompts of a session

What is done for a prompt: a compaction that is ready is applied and perhaps a new one is started,
the agent gets what is on the current path, the prompt is added to the session and saved, the agent
runs, and then all that the run has added is added to the session.

Compactions are made by a thread of their own, and a prompt does not wait for them.
-/

set_option autoImplicit false

namespace WorkWithMe.Pi

/-! ## The thread that makes compactions -/

/-- `CompactionQuota`, in milliseconds. -/
structure CompactionQuota where
  cooldown : ℕ
  timeout : ℕ
  maxAttemptsPerSession : ℕ

/-- `PendingCompaction`. -/
structure PendingCompaction where
  preparation : CompactionPreparation
  startedAt : ℕ

/-- What has come from the thread.  If it is done, it is known what has written the summaries. -/
inductive Received where
  | empty
  | disconnected
  | poisoned
  | finished
      (generateSummary : List SessionMessage → CompactionSettings → Option String →
        Except String String)
      (generateTurnPrefixSummary : List SessionMessage → CompactionSettings →
        Except String String)

/-- `CompactionWorkerState`. -/
structure CompactionWorkerState where
  pending : Option PendingCompaction
  lastStart : Option ℕ
  attemptCount : ℕ
  quota : CompactionQuota

namespace CompactionWorkerState

variable (w : CompactionWorkerState) (now : ℕ)

/-- `can_start`. -/
def canStart : Bool :=
  w.pending.isNone && decide (w.attemptCount < w.quota.maxAttemptsPerSession) &&
    w.lastStart.all fun last ↦ decide (w.quota.cooldown ≤ now - last)

/-- `try_recv`. -/
def tryRecv (received : Received) :
    Option (Except String CompactionResult) × CompactionWorkerState :=
  match w.pending with
  | none => (none, w)
  | some p =>
    if w.quota.timeout < now - p.startedAt then
      (some (.error "Session error: Background compaction timed out"), { w with pending := none })
    else
      match received with
      | .empty => (none, w)
      | .disconnected =>
        (some (.error "Session error: Background compaction worker disconnected"),
          { w with pending := none })
      | .poisoned =>
        (some (.error "Session error: Background compaction receiver mutex poisoned"),
          { w with pending := none })
      | .finished generateSummary generateTurnPrefixSummary =>
        (some (compact generateSummary generateTurnPrefixSummary p.preparation),
          { w with pending := none })

/-- `start`. -/
def start (preparation : CompactionPreparation) : CompactionWorkerState :=
  { w with
    pending := some ⟨preparation, now⟩
    lastStart := some now
    attemptCount := min (w.attemptCount + 1) (2 ^ 32 - 1) }

end CompactionWorkerState

/-! ## Sessions with an agent -/

/-- What is told of compactions. -/
inductive AutoCompaction where
  | start (reason : String)
  | finish (result : Option Json) (aborted willRetry : Bool) (errorMessage : Option String)

/-- `AgentSession`. -/
structure AgentSession where
  agent : Agent
  stored : Stored
  saveEnabled : Bool
  compactionSettings : CompactionSettings
  compactionWorker : CompactionWorkerState
  compactions : List AutoCompaction

/-- A provider, as far as it says what it is. -/
structure ProviderInfo where
  api : String
  name : String
  modelId : String

/-- What is drawn and what fails while something is done. -/
structure Chance where
  /-- The UUIDs that are drawn for each entry that is added: a compaction, the prompt, and what the
  run adds. -/
  uuids : ℕ → ℕ → String
  /-- The UUIDs that are drawn for entries without an identifier, and the writes that fail, of each
  time that the session is saved. -/
  savedUuids : ℕ → ℕ → ℕ → String
  faults : ℕ → Option ℕ

/-- A prompt, and what is come across until it is dealt with. -/
structure Prompt extends Chance where
  content : UserContent
  /-- The clock, as it is read when a compaction may be ready, may be started, and is started. -/
  clock : ℕ → ℕ
  received : Received
  signal : Bool
  answers : List Answer

/-- The message of the prompt. -/
def Prompt.message (p : Prompt) : Message := .user p.content

/-- What the run of the agent is given. -/
def Prompt.script (p : Prompt) : Script := ⟨[p.message], p.signal, p.answers⟩

/-- What comes of a prompt: the session could not be saved, the run goes on, or it has ended. -/
inductive Response where
  | notSaved
  | waiting
  | returned (result : RunResult)

/-- Where it has come with a prompt. -/
structure Asked where
  session : AgentSession
  log : Log
  response : Response

/-- The messages are added one after the other. -/
def Session.appendModelMessages (uuids : ℕ → ℕ → String) : ℕ → List Message → Session → Session
  | _, [], s => s
  | n, m :: ms, s => appendModelMessages uuids (n + 1) ms (s.appendModelMessage (uuids n) m)

namespace AgentSession

-- How an entry is a line, after how many saves all is written again, how a tool's name is trimmed,
-- and the provider that can be made for a model.
variable (codec : Codec) (interval : ℕ) (trim : String → String)
  (createProvider : String → String → Option ProviderInfo)

/-- The session is saved if that is to be done. -/
def flush (s : AgentSession) (x : Chance) (n : ℕ) (trigger : AutosaveFlushTrigger) :
    AgentSession × Bool :=
  if s.saveEnabled then
    let (stored, outcome) := s.stored.flushAutosave codec interval (x.savedUuids n) (x.faults n)
      trigger
    ({ s with stored := stored }, outcome.isOk)
  else (s, true)

/-- The session becomes another one, in the same file. -/
def setSession (s : AgentSession) (session : Session) : AgentSession :=
  { s with stored := ⟨session, s.stored.file⟩ }

/-- `apply_session_model_selection`, for the model that the session names. -/
def applySessionModelSelection (s : AgentSession) : AgentSession :=
  match s.stored.session.header.provider, s.stored.session.header.modelId with
  | some providerId, some modelId =>
    if s.agent.providerName = providerId ∧ s.agent.modelId = modelId then s
    else
      match createProvider providerId modelId with
      | none => s
      | some provider =>
        { s with
          agent := { s.agent with
            api := provider.api
            providerName := provider.name
            modelId := provider.modelId } }
  | _, _ => s

/-- `apply_compaction_result`. -/
def applyCompactionResult (s : AgentSession) (x : Chance) (result : CompactionResult) :
    AgentSession × Bool :=
  let t := s.setSession (s.stored.session.appendCompaction (x.uuids 0)
    ⟨result.summary, result.firstKeptEntryId, result.tokensBefore, some result.details, none⟩)
  let (t, saved) := t.flush codec interval x 0 .periodic
  if saved then
    ({ t with compactions := t.compactions ++ [.finish (some result.details) false false none] },
      true)
  else (t, false)

/-- The first phase of `maybe_compact`: a compaction that is ready is applied. -/
def receiveCompaction (s : AgentSession) (p : Prompt) : AgentSession × Bool :=
  let (outcome, worker) := s.compactionWorker.tryRecv (p.clock 0) p.received
  let s := { s with compactionWorker := worker }
  match outcome with
  | none => (s, true)
  | some (.ok result) => s.applyCompactionResult codec interval p.toChance result
  | some (.error e) =>
    ({ s with compactions := s.compactions ++ [.finish none false false (some e)] }, true)

/-- The second phase of `maybe_compact`: a compaction is started. -/
def startCompaction (s : AgentSession) (p : Prompt) : AgentSession :=
  if s.compactionWorker.canStart (p.clock 1) then
    match prepareCompaction s.stored.session.entriesForCurrentPath s.compactionSettings with
    | none => s
    | some preparation =>
      { s with
        compactions := s.compactions ++ [.start "threshold"]
        compactionWorker := s.compactionWorker.start (p.clock 2) preparation }
  else s

/-- `maybe_compact`. -/
def maybeCompact (s : AgentSession) (p : Prompt) : AgentSession × Bool :=
  if s.compactionSettings.enabled then
    let (s, ok) := s.receiveCompaction codec interval p
    if ok then (s.startCompaction p, true) else (s, false)
  else (s, true)

/-- `compact_synchronous`, and `compact_now`, with what writes the summaries. -/
def compactSynchronous (s : AgentSession) (x : Chance)
    (generateSummary : List SessionMessage → CompactionSettings → Option String →
      Except String String)
    (generateTurnPrefixSummary : List SessionMessage → CompactionSettings → Except String String) :
    AgentSession × Bool :=
  if s.compactionSettings.enabled then
    match prepareCompaction s.stored.session.entriesForCurrentPath s.compactionSettings with
    | none => (s, true)
    | some preparation =>
      let s : AgentSession := { s with compactions := s.compactions ++ [.start "threshold"] }
      match compact generateSummary generateTurnPrefixSummary preparation with
      | .ok result => s.applyCompactionResult codec interval x result
      | .error e =>
        ({ s with compactions := s.compactions ++ [.finish none false false (some e)] }, false)
  else (s, true)

/-- The agent gets what is on the current path. -/
def replaceMessages (s : AgentSession) : AgentSession :=
  { s with agent := { s.agent with messages := s.stored.session.toMessagesForCurrentPath } }

/-- The prompt is added, and saved. -/
def appendPrompt (s : AgentSession) (p : Prompt) : AgentSession × Bool :=
  (s.setSession (s.stored.session.appendModelMessage (p.uuids 1) p.message)).flush codec interval
    p.toChance 1 .manual

/-- `persist_new_messages`. -/
def persistNewMessages (s : AgentSession) (p : Prompt) (startLen : ℕ) : AgentSession × Bool :=
  (s.setSession (s.stored.session.appendModelMessages p.uuids 2
    (s.agent.messages.drop startLen))).flush codec interval p.toChance 2 .periodic

/-- The run of the agent, and what is done when it is over.  What a run has added that ended with an
error is not added to the session. -/
def runAgent (s : AgentSession) (p : Prompt) (startLen : ℕ) : Asked :=
  match s.agent.run trim p.script with
  | .waiting w => ⟨{ s with agent := w.state.agent }, w.log, .waiting⟩
  | .done (.error e) w _ => ⟨{ s with agent := w.state.agent }, w.log, .returned (.error e)⟩
  | .done (.ok a) w _ =>
    let (t, saved) := { s with agent := w.state.agent }.persistNewMessages codec interval p
      (startLen + 1)
    ⟨t, w.log, if saved then .returned (.ok a) else .notSaved⟩

/-- `run_agent_with_text`, `run_agent_with_content`. -/
def runAgentWithContent (s : AgentSession) (p : Prompt) : Asked :=
  let (s, ok) := (s.applySessionModelSelection createProvider).maybeCompact codec interval p
  if ok then
    let s := s.replaceMessages
    let startLen := s.agent.messages.length
    let (s, saved) := s.appendPrompt codec interval p
    if saved then s.runAgent codec interval trim p startLen else ⟨s, [], .notSaved⟩
  else ⟨s, [], .notSaved⟩

end AgentSession

end WorkWithMe.Pi
