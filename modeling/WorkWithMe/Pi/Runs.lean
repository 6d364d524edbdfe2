import WorkWithMe.Pi.Refinement

/-!
# What is known of every run

A run of an agent is given by what it is asked and by what comes of everything that it waits for, its
script.  What is said here holds of every script, and of every moment of a run at which the agent
waits, as the script may be at its end there.

* `Agent.run_meets`: a run is one of the protocol, and ends where the protocol ends.
* `Agent.run_quiet`, `Agent.run_aborted`: what follows when it is known that the run is to stop.
* `Agent.run_exclusive`, `Agent.run_reported`: how tools are executed, and that each call is reported.
* `Agent.run_request`, `Agent.run_requests_le`: what a provider gets, and how often it is called.
* `Agent.run_nesting`, `Agent.run_end`: how events lie in one another, and what the last one says.
-/

set_option autoImplicit false

namespace WorkWithMe.Pi

open Dialog

/-- What a run is asked, whether there is somebody who can stop it, and what it comes across. -/
structure Script where
  prompts : List Message
  signal : Bool
  answers : List Answer

/-- Something is asked, and what was put in and is put in are inputs. -/
structure Script.Fair (x : Script) (agent : Agent) : Prop where
  asked : x.prompts ≠ []
  prompts : ∀ m ∈ x.prompts, m.isInput = true
  queue : ∀ k, ∀ m ∈ agent.messageQueue.queued k, m.isInput = true
  answers : ∀ i ∈ x.answers, i.IsFair

/-- A run of the agent. -/
def Agent.run (trim : String → String) (agent : Agent) (x : Script) :
    Outcome Running Effect Answer RunResult :=
  (runLoop trim x.prompts).run (agent.begin x.signal) x.answers

/-! ## A run with two calls -/

/-- An agent with a tool that is read-only and one that is not. -/
def exampleAgent : Agent where
  api := "messages"
  providerName := "p"
  modelId := "m"
  tools := [⟨"read", "", .null, true⟩, ⟨"edit", "", .null, false⟩]
  config := ⟨none, 5, none, true⟩
  extensions := false
  messages := []
  steeringFetchers := 0
  followUpFetchers := 0
  messageQueue := ⟨[], [], .all, .all⟩

/-- A reply with this content. -/
def exampleReply (content : List ContentBlock) (stopReason : StopReason) : AssistantMessage :=
  ⟨content, "messages", "p", "m", {}, stopReason, none⟩

/-- Something is to be read and something to be edited. -/
def exampleCalls : AssistantMessage :=
  exampleReply [.toolCall ⟨"1", "read", .null, none⟩, .toolCall ⟨"2", "edit", .null, none⟩] .toolUse

/-- What comes of it. -/
def exampleOutput : ToolOutput := ⟨[.text { text := "done" }], none, false⟩

/-- A run in which both are done, and the provider has then nothing more to do. -/
def exampleScript : Script where
  prompts := [.user (.text "Go on")]
  signal := true
  answers := [.flag false, .opened none, .item (.start (exampleReply [] .stop)),
    .item (.done .toolUse exampleCalls), .flag false, .flag false, .polled 0,
    .returned 0 (.ok exampleOutput), .flag false, .polled 1, .returned 1 (.ok exampleOutput),
    .flag false, .flag false, .flag false, .opened none, .item (.start (exampleReply [] .stop)),
    .item (.done .stop (exampleReply [] .stop))]

/-- The log of the example. -/
def exampleLog : Log := (exampleAgent.run id exampleScript).world.log

theorem exampleScript_fair : exampleScript.Fair exampleAgent where
  asked := nofun
  prompts := by simp [exampleScript, Message.isInput]
  queue k m hm := by cases k <;> cases hm
  answers := by simp [exampleScript, Answer.IsFair]

section Runs

variable (trim : String → String) {agent : Agent} {x : Script}

/-! ## The protocol -/

theorem Agent.meets_run (h : x.Fair agent) :
    (agent.run trim x).Meets (Ended agent) (Lawful agent) :=
  wp_runLoop trim h.prompts h.asked h.queue x.signal x.answers h.answers

/-- The log of a run is one of the protocol. -/
theorem Agent.lawful_run (h : x.Fair agent) :
    ∃ s, Reaches agent (agent.run trim x).world.log s := by
  have hmeets := Agent.meets_run trim h
  cases hr : agent.run trim x with
  | waiting w => rw [hr] at hmeets; exact hmeets
  | done r w rest =>
    rw [hr] at hmeets
    cases r with
    | ok a =>
      obtain ⟨s, _, hover, -⟩ := hmeets
      exact ⟨s, hover.reaches⟩
    | error e =>
      obtain ⟨s, _, hover, -⟩ := hmeets
      exact ⟨s, hover.reaches⟩

/-- A run that has ended has come to the end of the protocol. -/
theorem Agent.over_run (h : x.Fair agent) {r : RunResult} {w : Moment} {rest : List Answer}
    (hr : agent.run trim x = .done r w rest) :
    ∃ s inTurn unreported error, Over agent s inTurn unreported error w ∧
      match r with
      | .ok a => inTurn = false ∧ unreported = [] ∧ EndsWith s.history a ∧
          error = if a.failed then a.errorMessage else none
      | .error e => error = some e ∧ s.aborted = false ∧
          (unreported = [] ∨ ∃ a, unreported = [.assistant a]) := by
  have hmeets := Agent.meets_run trim h
  rw [hr] at hmeets
  cases r with
  | ok a =>
    obtain ⟨s, error, hover, hlast, herror⟩ := hmeets
    exact ⟨s, false, [], error, hover, rfl, rfl, hlast, herror⟩
  | error e =>
    obtain ⟨s, unreported, hover, hs, hrest⟩ := hmeets
    exact ⟨s, true, unreported, some e, hover, rfl, hs, hrest⟩

/-- **Every run is one of the protocol**, at every moment at which the agent waits, and one that has
ended has come to the end of it. -/
theorem Agent.run_meets (h : x.Fair agent) :
    (agent.run trim x).Meets (Ended agent) (Lawful agent) := Agent.meets_run trim h

theorem exampleRun_meets : (exampleAgent.run id exampleScript).Meets (Ended exampleAgent)
    (Lawful exampleAgent) := Agent.run_meets id exampleScript_fair

/-! ## The wish that a run stop -/

/-- **Once it is known that the run is to stop**, neither the provider is called nor a tool. -/
theorem Agent.run_quiet (h : x.Fair agent) {post pre : Log} {e : Effect}
    (hl : (agent.run trim x).world.log = post ++ .said e :: pre) (he : e.isCall = true) :
    ∀ i ∈ pre, ¬ TellsAbort i := by
  obtain ⟨s, hs⟩ := Agent.lawful_run trim h
  exact hs.quiet hl he

theorem exampleRun_quiet : ∃ call, exampleLog[21]? = some (.said (.execute 1 call)) ∧
    ∀ i ∈ exampleLog.drop 22, ¬ TellsAbort i :=
  ⟨_, rfl, Agent.run_quiet id exampleScript_fair
    (show exampleLog = exampleLog.take 21 ++ .said _ :: exampleLog.drop 22 from rfl) rfl⟩

/-- **A run of which it is known that it is to stop** ends well, with a reply that says so. -/
theorem Agent.run_aborted (h : x.Fair agent) {r : RunResult} {w : Moment} {rest : List Answer}
    (hr : agent.run trim x = .done r w rest) (hl : ∃ i ∈ w.log, TellsAbort i) :
    ∃ a, r = .ok a ∧ a.stopReason = .aborted := by
  obtain ⟨s, inTurn, unreported, error, hover, hresult⟩ := Agent.over_run trim h hr
  cases r with
  | error e =>
    have := hover.reaches.aborted_of_tellsAbort hl
    rw [hresult.2.1] at this
    cases this
  | ok a =>
    have hphase : s.phase.isOver = true := by rw [hover.phase]; rfl
    obtain ⟨-, b, hlast, hb⟩ := hover.reaches.aborted_over hphase hl
    exact ⟨a, rfl, EndsWith.unique hresult.2.2.1 hlast ▸ hb⟩

/-- A run that is stopped while the provider replies. -/
def exampleStopped : Script where
  prompts := [.user (.text "Go on")]
  signal := true
  answers := [.flag false, .opened none, .item (.start exampleCalls), .abort]

theorem exampleStopped_fair : exampleStopped.Fair exampleAgent where
  asked := nofun
  prompts := by simp [exampleStopped, Message.isInput]
  queue k m hm := by cases k <;> cases hm
  answers := by simp [exampleStopped, Answer.IsFair]

theorem exampleStopped_aborted : ∃ r w, exampleAgent.run id exampleStopped = .done r w [] ∧
    ∃ a, r = .ok a ∧ a.stopReason = .aborted :=
  ⟨_, _, rfl, Agent.run_aborted id exampleStopped_fair rfl ⟨.heard .abort, by simp, trivial⟩⟩

/-! ## Tools -/

/-- **A tool that is not read-only runs alone**, and of the others at most `maxConcurrentTools` run
side by side. -/
theorem Agent.run_exclusive (h : x.Fair agent) {post pre : Log} {i : ℕ} {call : ToolCall}
    (hl : (agent.run trim x).world.log = post ++ .said (.execute i call) :: pre) :
    running pre = [] ∨
      agent.isReadOnly call.name = true ∧ (running pre).length < maxConcurrentTools ∧
        ∀ c ∈ running pre, agent.isReadOnly c.2.name = true := by
  obtain ⟨s, hs⟩ := Agent.lawful_run trim h
  exact hs.exclusive hl

theorem exampleRun_exclusive : running (exampleLog.drop 22) = [] ∨
    exampleAgent.isReadOnly "edit" = true ∧
      (running (exampleLog.drop 22)).length < maxConcurrentTools ∧
        ∀ c ∈ running (exampleLog.drop 22), exampleAgent.isReadOnly c.2.name = true :=
  Agent.run_exclusive id exampleScript_fair
    (show exampleLog = exampleLog.take 21 ++ .said _ :: exampleLog.drop 22 from rfl)

/-- **Each call that is announced is reported once**, in the order in which they were announced, and
at the end of a run none is left. -/
theorem Agent.run_reported (h : x.Fair agent) :
    ends (agent.run trim x).world.log <+: starts (agent.run trim x).world.log ∧
      ∀ r w rest, agent.run trim x = .done r w rest → ends w.log = starts w.log := by
  obtain ⟨s, hs⟩ := Agent.lawful_run trim h
  refine ⟨hs.ends_prefix, fun r w rest hr ↦ ?_⟩
  obtain ⟨s, inTurn, unreported, error, hover, -⟩ := Agent.over_run trim h hr
  exact (hover.reaches.starts_eq (by rw [hover.phase]; rfl)).symm

theorem exampleRun_reported : ends exampleLog <+: starts exampleLog ∧
    ∀ r w rest, exampleAgent.run id exampleScript = .done r w rest → ends w.log = starts w.log :=
  Agent.run_reported id exampleScript_fair

/-! ## Requests -/

/-- **What a provider gets** is a conversation in which each reply with calls has their results
directly behind it, unless it failed; there is no image in it if images are blocked, and no message
that is hidden. -/
theorem Agent.run_request (h : x.Fair agent) (hmessages : Conversation agent.messages)
    {post pre : Log} {context : Context}
    (hl : (agent.run trim x).world.log = post ++ .said (.stream context) :: pre) :
    Conversation context.messages ∧ (∀ m ∈ context.messages, m.isShown = true) ∧
      (agent.config.blockImages = true →
        ∀ m ∈ context.messages, ∀ b ∈ m.blocks, b.isImage = false) := by
  obtain ⟨s, hs⟩ := Agent.lawful_run trim h
  refine ⟨hs.request hmessages hl, ?_⟩
  obtain ⟨r, r', -, hm⟩ := hs.said_inv hl
  cases hm with
  | stream =>
    refine ⟨fun m ↦ isShown_of_mem_providerMessages, fun hblock ↦ ?_⟩
    rw [Agent.buildContext, hblock]
    exact providerMessages_noImages _

theorem exampleRun_request : ∃ context, exampleLog[8]? = some (.said (.stream context)) ∧
    Conversation context.messages ∧ (∀ m ∈ context.messages, m.isShown = true) ∧
      (true = true → ∀ m ∈ context.messages, ∀ b ∈ m.blocks, b.isImage = false) :=
  ⟨_, rfl, Agent.run_request id exampleScript_fair .nil
    (show exampleLog = exampleLog.take 8 ++ .said _ :: exampleLog.drop 9 from rfl)⟩

/-- **The provider is not called more often** than turns with calls are allowed and messages were
put in. -/
theorem Agent.run_requests_le (h : x.Fair agent) :
    requests (agent.run trim x).world.log ≤
      agent.config.maxToolIterations + inputs (agent.run trim x).world.log := by
  obtain ⟨s, hs⟩ := Agent.lawful_run trim h
  exact hs.requests_le

theorem exampleRun_requests_le : requests exampleLog ≤ 5 + inputs exampleLog :=
  Agent.run_requests_le id exampleScript_fair

/-! ## Events -/

/-- **The end of a run** is reported once, and nothing is said after it.  It reports the messages
that the run has added, which are the ones that were told, but for the error of a reply with too
many calls; only an error of the provider leaves one that was neither finished nor reported. -/
theorem Agent.run_end (h : x.Fair agent) {r : RunResult} {w : Moment} {rest : List Answer}
    (hr : agent.run trim x = .done r w rest) :
    ∃ messages error l unreported,
      w.log = .said (.event (.agentEnd agent.sessionId messages error)) :: l ∧
      (∀ i ∈ l, ¬ IsEnd i) ∧ Retold messages (told l) ∧
      w.state.agent.messages = agent.messages ++ messages ++ unreported ∧
      match r with
      | .ok a => unreported = [] ∧ EndsWith messages a ∧
          error = if a.failed then a.errorMessage else none
      | .error e => error = some e ∧ (unreported = [] ∨ ∃ a, unreported = [.assistant a]) := by
  obtain ⟨s, inTurn, unreported, error, hover, hresult⟩ := Agent.over_run trim h hr
  obtain ⟨l, hl⟩ := hover.said
  have htells := hover.reaches.tells
  rw [State.Tells, hover.phase, hl] at htells
  refine ⟨s.history, error, l, unreported, hl, ?_, htells, hover.messages, ?_⟩
  · obtain ⟨t, t', ht, hm⟩ := hover.reaches.said_inv (hl.trans (List.nil_append _).symm)
    intro i hi hend
    have := ht.isOver_iff.mpr ⟨i, hi, hend⟩
    rw [hm.isOver.1] at this
    cases this
  · cases r with
    | ok a => exact hresult.2
    | error e => exact ⟨hresult.1, hresult.2.2⟩

theorem exampleRun_end : ∃ a w, exampleAgent.run id exampleScript = .done (.ok a) w [] ∧
    ∃ messages error l unreported,
      w.log = .said (.event (.agentEnd exampleAgent.sessionId messages error)) :: l ∧
      (∀ i ∈ l, ¬ IsEnd i) ∧ Retold messages (told l) ∧
      w.state.agent.messages = exampleAgent.messages ++ messages ++ unreported ∧
      unreported = [] ∧ EndsWith messages a ∧
        error = if a.failed then a.errorMessage else none :=
  ⟨_, _, rfl, Agent.run_end id exampleScript_fair rfl⟩

end Runs

end WorkWithMe.Pi
