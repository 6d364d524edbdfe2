import WorkWithMe.Pi.Agent

/-!
# The execution of tools

`executeToolCalls` has three phases.  All calls are announced; then they are executed, those of
read-only tools side by side and the others alone; then what has come of them is reported and put
into the conversation, in the order of the calls.  A message that somebody puts in for the agent
ends the second phase, and so does the wish that the run stop; calls that were not executed by then
are reported as errors.

* `Batch` is a number of calls that are executed side by side, and `batchRound` is what is done with
  the next thing that happens in it.
* `runTools` is the second phase, and `settle` the third.
-/

set_option autoImplicit false

namespace WorkWithMe.Pi

open Dialog

/-! ## What a call comes to without a tool -/

/-- `tool_not_found_output`. -/
def toolNotFoundOutput (toolName : String) : ToolOutput :=
  .failure s!"Error: Tool '{toolName}' not found"

/-- `tool_call_blocked_output`.  Trimming is a parameter. -/
def toolCallBlockedOutput (trim : String → String) (reason : Option String) : ToolOutput :=
  .failure (match (reason.map trim).filter (· ≠ "") with
    | none => "Tool execution was blocked by an extension"
    | some reason => s!"Tool execution blocked: {reason}")

/-- What the hook for outputs makes of one. -/
def ToolOutput.patch (output : ToolOutput) (content : Option (List ContentBlock))
    (details : Option Json) : ToolOutput :=
  { output with content := content.getD output.content, details := details.or output.details }

/-- The message for an output. -/
def toolResult (call : ToolCall) (output : ToolOutput) (isError : Bool) : ToolResultMessage :=
  ⟨call.id, call.name, output.content, output.details, isError⟩

/-! ## Calls side by side -/

/-- How far the execution of a call has come. -/
inductive Stage where
  /-- It has not had its turn. -/
  | fresh
  /-- It waits for the hook for calls. -/
  | hooking
  /-- The tool is running. -/
  | executing
  /-- It waits for the hook for outputs. -/
  | finishing (output : ToolOutput) (isError : Bool)

/-- The execution of a call. -/
structure Execution where
  index : ℕ
  call : ToolCall
  stage : Stage

/-- What a call has come to. -/
structure Result where
  index : ℕ
  output : ToolOutput
  isError : Bool

/-- Calls that are executed side by side. -/
structure Batch where
  waiting : List (ℕ × ToolCall)
  flying : List Execution
  finished : List Result

namespace Batch

/-- The waiting calls take up the room that there is. -/
def fill (b : Batch) : Batch :=
  let room := maxConcurrentTools - b.flying.length
  { b with
    waiting := b.waiting.drop room
    flying := b.flying ++ (b.waiting.take room).map fun (i, call) ↦ ⟨i, call, .fresh⟩ }

/-- The execution moves on. -/
def advance (b : Batch) (index : ℕ) (stage : Stage) : Batch :=
  { b with flying := b.flying.map fun x ↦ if x.index = index then { x with stage } else x }

/-- The execution has ended. -/
def finish (b : Batch) (index : ℕ) (output : ToolOutput) (isError : Bool) : Batch :=
  { b with
    flying := b.flying.filter (·.index ≠ index)
    finished := b.finished ++ [⟨index, output, isError⟩] }

/-- The tool has ended, or there is none: the hook for outputs is next, if there are hooks. -/
def afterTool (b : Batch) (extensions : Bool) (index : ℕ) (output : ToolOutput) (isError : Bool) :
    Batch :=
  if extensions then b.advance index (.finishing output isError) else b.finish index output isError

end Batch

/-- What happens in a batch. -/
inductive Occurrence where
  | abort
  | polled (index : ℕ) (call : ToolCall)
  | hooked (index : ℕ) (call : ToolCall) (result : Option (Bool × Option String))
  | update (call : ToolCall) (content : List ContentBlock) (details : Option Json)
  | returned (index : ℕ) (result : Except String ToolOutput)
  | resultHooked (index : ℕ) (output : ToolOutput) (isError : Bool)

/-- What an answer is to the execution of a call. -/
def Execution.occurrence (x : Execution) : Answer → Option Occurrence
  | .polled i => match x.stage with
    | .fresh => if i = x.index then some (.polled i x.call) else none
    | _ => none
  | .hooked i result => match x.stage with
    | .hooking => if i = x.index then some (.hooked i x.call result) else none
    | _ => none
  | .update i content details => match x.stage with
    | .executing => if i = x.index then some (.update x.call content details) else none
    | _ => none
  | .returned i result => match x.stage with
    | .executing => if i = x.index then some (.returned i result) else none
    | _ => none
  | .resultHooked i content details => match x.stage with
    | .finishing output isError =>
      if i = x.index then some (.resultHooked i (output.patch content details) isError) else none
    | _ => none
  | _ => none

/-- The next thing that happens in a batch.  Only a batch that is `abortable` looks out for the
wish that the run stop. -/
def nextOccurrence (abortable : Bool) (flying : List Execution) : Go Occurrence :=
  Prog.ask fun s i ↦ match i with
    | .abort =>
      if abortable && s.signal.isSome then some (.abort, { s with signal := some true }) else none
    | i => (flying.findSome? fun x ↦ x.occurrence i).map fun o ↦ (o, s)

section Calls

variable (trim : String → String)

/-- `execute_tool_without_hooks`, up to where it waits for the tool. -/
def startTool (b : Batch) (index : ℕ) (call : ToolCall) : Go Batch := do
  let agent := (← Prog.read).agent
  match agent.getTool call.name with
  | some _ =>
    Prog.say (.execute index call)
    return b.advance index .executing
  | none => return b.afterTool agent.extensions index (toolNotFoundOutput call.name) true

/-- What is done with what has happened.  There are no results of a batch that was stopped. -/
def onOccurrence (b : Batch) : Occurrence → Go (Batch ⊕ List Result)
  | .abort => return .inr []
  | .polled index call => do
    if (← Prog.read).agent.extensions then return .inl (b.advance index .hooking)
    else do
      let b ← startTool b index call
      return .inl b
  -- A hook that fails, and one that has nothing to say, does not block.
  | .hooked index _ (some (true, reason)) => do
    let extensions := (← Prog.read).agent.extensions
    return .inl (b.afterTool extensions index (toolCallBlockedOutput trim reason) true)
  | .hooked index call _ => do
    let b ← startTool b index call
    return .inl b
  | .update call content details => do
    onEvent (.toolExecutionUpdate call.id call.name call.arguments ⟨content, details, false⟩)
    return .inl b
  | .returned index result => do
    let extensions := (← Prog.read).agent.extensions
    return .inl (match result with
      | .ok output => b.afterTool extensions index output output.isError
      | .error e => b.afterTool extensions index (.failure s!"Error: {e}") true)
  | .resultHooked index output isError => return .inl (b.finish index output isError)

/-- One round of a batch: the calls that wait take up the room that there is, and then something
happens, unless all have ended. -/
def batchRound (abortable : Bool) (b : Batch) : Go (Batch ⊕ List Result) := do
  let b := b.fill
  if b.flying.isEmpty then return .inr b.finished
  else do
    let o ← nextOccurrence abortable b.flying
    onOccurrence trim b o

/-- `execute_parallel_batch`. -/
def executeParallelBatch (batch : List (ℕ × ToolCall)) : Go (List Result) :=
  Prog.loop (batchRound trim true) ⟨batch, [], []⟩

/-- `execute_tool`. -/
def executeTool (index : ℕ) (call : ToolCall) : Go (List Result) :=
  Prog.loop (batchRound trim false) ⟨[(index, call)], [], []⟩

/-! ## The second phase -/

/-- `tool_outputs`: what the calls have come to so far. -/
abbrev Outputs := List (Option (ToolOutput × Bool))

/-- Further calls have come to something. -/
def Outputs.record (outputs : Outputs) (results : List Result) : Outputs :=
  results.foldl (fun outputs r ↦ outputs.set r.index (some (r.output, r.isError))) outputs

/-- How far the second phase has come. -/
structure Executed where
  /-- `pending_parallel`. -/
  pending : List (ℕ × ToolCall)
  outputs : Outputs
  /-- `steering_messages`. -/
  steering : Option (List Message)

/-- The calls that wait to be executed side by side are executed. -/
def flush (pending : List (ℕ × ToolCall)) (outputs : Outputs) : Go Outputs := do
  if pending.isEmpty then return outputs
  else do
    let results ← executeParallelBatch trim pending
    return outputs.record results

/-- The execution of the calls up to the last one that is not read-only. -/
def runTools : List (ℕ × ToolCall) → List (ℕ × ToolCall) → Outputs → Go Executed
  | [], pending, outputs => return ⟨pending, outputs, none⟩
  | (index, call) :: calls, pending, outputs => do
    if ← isAborted then return ⟨pending, outputs, none⟩
    else if (← Prog.read).agent.isReadOnly call.name then
      runTools calls (pending ++ [(index, call)]) outputs
    else do
      let steering ← drainMessages .steering
      if !steering.isEmpty then return ⟨pending, outputs, some steering⟩
      else do
        let outputs ← flush trim pending outputs
        if ← isAborted then return ⟨[], outputs, none⟩
        else do
          let steering ← drainMessages .steering
          if !steering.isEmpty then return ⟨[], outputs, some steering⟩
          else do
            let results ← executeTool trim index call
            runTools calls [] (outputs.record results)

/-- The execution of the calls behind the last one that is not read-only. -/
def finalFlush (x : Executed) : Go Executed := do
  if x.pending.isEmpty then return x
  else if ← isAborted then return x
  else if x.steering.isSome then return x
  else do
    let steering ← drainMessages .steering
    if steering.isEmpty then do
      let results ← executeParallelBatch trim x.pending
      return { x with pending := [], outputs := x.outputs.record results }
    else return { x with pending := [], steering := some steering }

end Calls

/-! ## The third phase -/

/-- A result becomes a message. -/
def pushToolResult (r : ToolResultMessage) : Go PUnit := do
  Prog.change fun s ↦ (s.push (.toolResult r)).note (.toolResult r)
  onEvent (.messageStart (.toolResult r))
  onEvent (.messageEnd (.toolResult r))

/-- A call that was not executed is reported. -/
def reportFailure (call : ToolCall) (text : String) : Go ToolResultMessage := do
  let output := ToolOutput.failure text
  onEvent (.toolExecutionUpdate call.id call.name call.arguments output)
  onEvent (.toolExecutionEnd call.id call.name output true)
  pushToolResult (toolResult call output true)
  return toolResult call output true

/-- `skip_tool_call`. -/
def skipToolCall (call : ToolCall) : Go ToolResultMessage :=
  reportFailure call "Skipped due to queued user message."

/-- What is done with one call: it is reported what has come of it. -/
def reportToolCall (call : ToolCall) (output : Option (ToolOutput × Bool)) (steering : Bool) :
    Go ToolResultMessage := do
  match output with
  | some (output, isError) =>
    onEvent (.toolExecutionEnd call.id call.name { output with isError } isError)
    pushToolResult (toolResult call output isError)
    return toolResult call output isError
  | none =>
    if steering then skipToolCall call
    else reportFailure call "Tool execution aborted"

/-- Whether something was put in in the meantime, unless that is known or the run is to stop. -/
def checkSteering (steering : Option (List Message)) : Go (Option (List Message)) := do
  if steering.isSome then return steering
  else if ← isAborted then return none
  else do
    let ms ← drainMessages .steering
    return if ms.isEmpty then none else some ms

/-- `ToolExecutionOutcome`. -/
structure ToolExecutionOutcome where
  toolResults : List ToolResultMessage
  steeringMessages : Option (List Message)

/-- The third phase. -/
def settle : List (ToolCall × Option (ToolOutput × Bool)) → ToolExecutionOutcome →
    Go ToolExecutionOutcome
  | [], x => return x
  | (call, output) :: calls, x => do
    let steering ← checkSteering x.steeringMessages
    let r ← reportToolCall call output steering.isSome
    settle calls ⟨x.toolResults ++ [r], steering⟩

/-- A call is announced. -/
def announce (call : ToolCall) : Go PUnit :=
  onEvent (.toolExecutionStart call.id call.name call.arguments)

/-- `execute_tool_calls`. -/
def executeToolCalls (trim : String → String) (calls : List ToolCall) :
    Go ToolExecutionOutcome := do
  Prog.each announce calls
  let x ← runTools trim (calls.zipIdx.map Prod.swap) [] (List.replicate calls.length none)
  let x ← finalFlush trim x
  settle (calls.zip x.outputs) ⟨[], x.steering⟩

end WorkWithMe.Pi
