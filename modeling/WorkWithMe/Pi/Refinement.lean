import WorkWithMe.Pi.Loop
import WorkWithMe.Pi.ProtocolLaws
import WorkWithMe.Pi.ToolRules

/-!
# Every run is one of the protocol

The main loop, on top of what is known of a reply and of the execution of calls.  `Between` is what
holds between two turns, and `Ended` what is left when a run is over.

* `wp_runLoop`: the log of every run is one of the protocol at every moment at which the agent waits,
  and a run that has ended has come to the end of the protocol.
-/

set_option autoImplicit false

namespace WorkWithMe.Pi

open Dialog

section Runs

variable {agent : Agent} {s : State} {w : Moment} {p : Progress}

/-- The last of the messages so far is no reply. -/
def NoReply (agent : Agent) (history : List Message) : Prop :=
  { agent with messages := agent.messages ++ history }.lastReply = none

theorem Kept.lastReply (h : Kept agent s w) :
    w.state.agent.lastReply = { agent with messages := agent.messages ++ s.history }.lastReply := by
  rw [Agent.lastReply, Agent.lastReply, h.messages]

theorem noReply_concat {history : List Message} {m : Message} (hm : m.isInput = true) :
    NoReply agent (history ++ [m]) := by
  rw [NoReply, Agent.lastReply, ← List.append_assoc, List.getLast?_concat]
  cases m <;> first | rfl | cases hm

theorem noReply_append {history ms : List Message} (hms : ∀ m ∈ ms, m.isInput = true)
    (h : ms = [] → NoReply agent history) : NoReply agent (history ++ ms) := by
  induction ms using List.reverseRecOn with
  | nil => simpa using h rfl
  | append_singleton ms m _ =>
    rw [← List.append_assoc]
    exact noReply_concat (hms m (by simp))

/-! ## Messages that are put in -/

theorem wp_pushMessage {m : Message} {t : State} {Q : PUnit → Moment → Prop}
    (h : Kept agent s w) (ht : t.aborted = s.aborted) (hh : t.history = s.history ++ [m])
    (hreaches : Reaches agent
      (.said (.event (.messageEnd m)) :: .said (.event (.messageStart m)) :: w.log) t)
    (hQ : ∀ v, Kept agent t v → Q ⟨⟩ v) :
    (pushMessage m).wp Answer.IsFair Q (Lawful agent) w := by
  simp only [pushMessage, Prog.wp_change_bind, wp_onEvent_bind, Prog.wp_change]
  refine hQ _ ⟨⟨hreaches, h.aborted.trans ht.symm, h.setup, h.queue, ?_⟩, ?_⟩
  · rw [hh]
    exact congrArg (· ++ [m]) h.noted
  · rw [hh, ← List.append_assoc]
    exact congrArg (· ++ [m]) h.messages

theorem wp_pushPrompts {prompts : List Message} (hprompts : ∀ m ∈ prompts, m.isInput = true)
    (h : Kept agent { s with phase := .begun } w) :
    (Prog.each pushMessage prompts).wp Answer.IsFair
      (fun _ ↦ Kept agent { s with phase := .begun, history := s.history ++ prompts })
      (Lawful agent) w := by
  induction prompts generalizing s w with
  | nil => simpa [Prog.each] using h
  | cons m prompts ih =>
    have hm := hprompts m List.mem_cons_self
    refine Prog.wp_bind (wp_pushMessage
      (t := { s with phase := .begun, history := s.history ++ [m] }) h rfl rfl
      ((h.reaches.said (.promptStart rfl hm)).said (.promptEnd rfl)) fun v hv ↦ ?_)
    have := ih (s := { s with history := s.history ++ [m] })
      (fun m hm ↦ hprompts m (List.mem_cons_of_mem _ hm)) hv
    simpa using this

theorem wp_pushPending {pending : List Message} {owed : Bool}
    (hpending : ∀ m ∈ pending, m.isInput = true) (howed : owed = true → pending ≠ [])
    (h : Kept agent { s with phase := .turn owed } w) :
    (Prog.each pushMessage pending).wp Answer.IsFair
      (fun _ ↦ Kept agent { s with phase := .turn false, history := s.history ++ pending })
      (Lawful agent) w := by
  induction pending generalizing s w owed with
  | nil =>
    cases owed with
    | true => exact absurd rfl (howed rfl)
    | false => simpa [Prog.each] using h
  | cons m pending ih =>
    have hm := hpending m List.mem_cons_self
    refine Prog.wp_bind (wp_pushMessage
      (t := { s with phase := .turn false, history := s.history ++ [m] }) h rfl rfl
      ((h.reaches.said (.inputStart rfl hm)).said (.inputEnd rfl)) fun v hv ↦ ?_)
    have := ih (s := { s with history := s.history ++ [m] })
      (fun m hm ↦ hpending m (List.mem_cons_of_mem _ hm)) (absurd · Bool.false_ne_true) hv
    simpa using this

/-! ## Ends -/

variable (agent) in
/-- A run has ended, perhaps in a turn: `s` is where the protocol is, and `rest` are the messages
that were left and not reported. -/
structure Over (s : State) (inTurn : Bool) (rest : List Message) (error : Option String)
    (w : Moment) : Prop where
  reaches : Reaches agent w.log s
  phase : s.phase = .ended inTurn (!rest.isEmpty)
  said : ∃ l, w.log = .said (.event (.agentEnd agent.sessionId s.history error)) :: l
  setup : w.state.agent.setup = agent.setup
  queue : ∀ k, ∀ m ∈ w.state.agent.messageQueue.queued k, m.isInput = true
  messages : w.state.agent.messages = agent.messages ++ s.history ++ rest

variable (agent) in
/-- How a run has ended: with the last of the messages, or with an error, which may leave a reply
that was not finished. -/
def Ended (r : RunResult) (w : Moment) : Prop :=
  match r with
  | .ok a => ∃ s error, Over agent s false [] error w ∧ EndsWith s.history a ∧
      error = if a.failed then a.errorMessage else none
  | .error e => ∃ s rest, Over agent s true rest (some e) w ∧ s.aborted = false ∧
      (rest = [] ∨ ∃ a, rest = [.assistant a])

theorem wp_endRun (inTurn : Bool) (rest : List Message) {error : Option String} (h : Follows agent s w)
    (hm : Move agent s (.event (.agentEnd agent.sessionId s.history error))
      { s with phase := .ended inTurn (!rest.isEmpty) })
    (hmessages : w.state.agent.messages = agent.messages ++ s.history ++ rest) :
    (endRun error).wp Answer.IsFair
      (fun _ ↦ Over agent { s with phase := .ended inTurn (!rest.isEmpty) } inTurn rest error)
      (Lawful agent) w := by
  simp only [endRun, Prog.wp_read_bind, Prog.wp_change_bind, wp_onEvent]
  rw [h.sessionId, h.noted]
  exact ⟨h.reaches.said hm, rfl, ⟨w.log, rfl⟩, h.setup, h.queue, hmessages⟩

theorem wp_endTurn {a : AssistantMessage} {results : List ToolResultMessage} {n : ℕ} {t : State}
    (h : Kept agent s w) (hn : s.turns = n)
    (hm : Move agent s
      (.event (.turnEnd agent.sessionId s.turns (.assistant a) (results.map .toolResult))) t)
    (ht : t.aborted = s.aborted) (hh : t.history = s.history) :
    (endTurn n a results).wp Answer.IsFair (fun _ ↦ Kept agent t) (Lawful agent) w := by
  subst hn
  simp only [endTurn, Prog.wp_read_bind, wp_onEvent]
  rw [h.sessionId]
  exact h.say hm ht hh

theorem wp_stopRun {n : ℕ} (h : Kept agent { s with phase := .turn false, aborted := true } w)
    (hn : s.turns = n) : (stopRun n).wp Answer.IsFair (Ended agent) (Lawful agent) w := by
  rw [stopRun, Prog.wp_read_bind]
  dsimp only
  generalize ha : w.state.agent.buildAbortMessage none = a
  have hfailed : a.failed = true := by rw [← ha]; rfl
  have haborted : a.stopReason = .aborted := by rw [← ha]; rfl
  simp only [Prog.wp_change_bind, wp_onEvent_bind]
  have hwritten : Kept agent
      { s with phase := .written a, aborted := true, history := s.history ++ [.assistant a] }
      (((w.change fun r ↦ (r.push (.assistant a)).note (.assistant a)).say
        (.event (.messageStart (.assistant a)))).say (.event (.messageEnd (.assistant a)))) := by
    refine ⟨⟨(h.reaches.said (.stopStart rfl rfl haborted)).said (.stopEnd rfl), h.aborted, h.setup,
      h.queue, ?_⟩, ?_⟩
    · exact congrArg (· ++ [Message.assistant a]) h.noted
    · rw [← List.append_assoc]
      exact congrArg (· ++ [Message.assistant a]) h.messages
  refine Prog.wp_call (wp_endTurn hwritten hn (.turnFailed rfl hfailed) rfl rfl)
    fun _ v hv ↦ ?_
  have herror : some (a.errorMessage.getD "Aborted") = a.errorMessage := by rw [← ha]; rfl
  rw [herror]
  refine Prog.wp_call (wp_endRun false [] hv.toFollows (.agentFailed rfl) ?_) fun _ v hv ↦ ?_
  · simpa using hv.messages
  · exact (Prog.wp_pure _).mpr ⟨_, _, hv, ⟨s.history, rfl⟩, by rw [hfailed, if_pos rfl]⟩

theorem wp_failRun {a : AssistantMessage} {n : ℕ} (ha : a.failed = true)
    (h : Kept agent { s with phase := .written a, history := s.history ++ [.assistant a] } w)
    (hn : s.turns = n) : (failRun n a).wp Answer.IsFair (Ended agent) (Lawful agent) w := by
  refine Prog.wp_call (wp_endTurn h hn (.turnFailed rfl ha) rfl rfl) fun _ v hv ↦ ?_
  refine Prog.wp_call (wp_endRun false [] hv.toFollows (.agentFailed rfl) ?_) fun _ v hv ↦ ?_
  · simpa using hv.messages
  · exact (Prog.wp_pure _).mpr ⟨_, _, hv, ⟨s.history, rfl⟩, by rw [ha, if_pos rfl]⟩

/-- The last message and the last new message become the reply that failed. -/
theorem renote_replaceReply {r : Running} {l k : List Message} {a b : AssistantMessage}
    (hl : r.agent.messages = l ++ [.assistant a]) (hk : r.newMessages = k ++ [.assistant a]) :
    (r.replaceReply b).renote b =
      { r.setMessages (l ++ [.assistant b]) with newMessages := k ++ [.assistant b] } := by
  rw [Running.replaceReply, lastReply_of_messages hl, Option.isSome_some, if_pos rfl,
    Running.setLast, hl, List.dropLast_concat, Running.renote]
  simp [Running.setMessages, hk]

theorem wp_exceedRun {a : AssistantMessage} {n : ℕ} (ha : a.failed = false) (hc : a.calls ≠ [])
    (hk : agent.config.maxToolIterations ≤ s.callTurns)
    (h : Kept agent { s with phase := .written a, history := s.history ++ [.assistant a] } w)
    (hn : s.turns = n) : (exceedRun n a).wp Answer.IsFair (Ended agent) (Lawful agent) w := by
  have hmessages := h.messages
  rw [← List.append_assoc] at hmessages
  rw [exceedRun, Prog.wp_read_bind]
  dsimp only
  generalize iterationsExceeded w.state.agent.config.maxToolIterations = text
  generalize hb : { a with stopReason := .error, errorMessage := some text } = b
  have hfailed : b.failed = true := by rw [← hb]; rfl
  have herror : some text = b.errorMessage := by rw [← hb]
  have hmove : Move agent
      { s with phase := .written a, history := s.history ++ [.assistant a] } _ _ :=
    .turnExceeded rfl ha hc hk hfailed (by rw [← hb])
  simp only [List.dropLast_concat] at hmove
  have hstate := renote_replaceReply (b := b) hmessages h.noted
  have hturn : Follows agent
      { s with
        phase := .closing b.errorMessage, history := s.history ++ [.assistant b]
        turns := s.turns + 1 }
      ((w.change fun r ↦ (r.replaceReply b).renote b).say
        (.event (.turnEnd agent.sessionId s.turns (.assistant b) []))) := by
    refine ⟨h.reaches.said hmove, ?_, ?_, fun k m hm ↦ h.queue k m ?_, ?_⟩
    · rw [World.state_say, World.state_change, hstate]; exact h.aborted
    · rw [World.state_say, World.state_change, hstate]; exact h.setup
    · rw [World.state_say, World.state_change, hstate] at hm; exact hm
    · rw [World.state_say, World.state_change, hstate]
  have hsession : (w.change fun r ↦ (r.replaceReply b).renote b).state.agent.sessionId =
    agent.sessionId := hturn.sessionId
  rw [Prog.wp_change_bind, endTurn, bind_assoc, Prog.wp_read_bind, wp_onEvent_bind, hsession,
    ← hn, herror]
  refine Prog.wp_call (wp_endRun false [] hturn (.agentFailed rfl) ?_) fun _ v hv ↦ ?_
  · rw [World.state_say, World.state_change, hstate]
    simp [Running.setMessages]
  · exact (Prog.wp_pure _).mpr ⟨_, _, hv, ⟨s.history, rfl⟩, by rw [hfailed, if_pos rfl]⟩

/-! ## Turns -/

variable (agent) in
/-- What holds between two turns. -/
structure Between (p : Progress) (w : Moment) : Prop where
  pending : ∀ m ∈ p.pending, m.isInput = true
  state : ∃ s, Kept agent s w ∧ s.turns = p.turnIndex ∧ s.callTurns = p.iterations ∧
    (s.phase = .pause true ∧ p.hasMoreToolCalls = true ∧ NoReply agent s.history ∨
      s.phase = .pause false ∧ (p.hasMoreToolCalls = true → p.pending ≠ []) ∧
        ∃ a l, p.lastAssistant = some a ∧ s.history = l ++ [.assistant a])

theorem Between.lawful (h : Between agent p w) : Lawful agent w := by
  obtain ⟨-, s, hs, -⟩ := h
  exact hs.lawful

/-- The end of a turn, after which `t` is the state of the protocol. -/
theorem wp_nextTurn {a : AssistantMessage} (results : List ToolResultMessage)
    {steering : Option (List Message)} {t : State} (h : Kept agent s w)
    (hn : s.turns = p.turnIndex) (hinput : AllInput steering)
    (hm : Move agent s
      (.event (.turnEnd agent.sessionId s.turns (.assistant a) (results.map .toolResult))) t)
    (ha : t.aborted = s.aborted) (hh : t.history = s.history) (ht : t.turns = s.turns + 1)
    (hk : t.callTurns = p.iterations)
    (hnext : t.phase = .pause true ∧ a.calls ≠ [] ∧ NoReply agent t.history ∨
      t.phase = .pause false ∧ a.calls = [] ∧ ∃ l, t.history = l ++ [.assistant a]) :
    (nextTurn p a results steering).wp Answer.IsFair (Between agent) (Lawful agent) w := by
  have hbetween : ∀ pending v, (∀ m ∈ pending, m.isInput = true) → Kept agent t v →
      Between agent
        { p with
          pending, hasMoreToolCalls := !a.calls.isEmpty, turnIndex := p.turnIndex + 1,
          lastAssistant := some a } v := by
    intro pending v hpending hv
    refine ⟨hpending, t, hv, by rw [ht, hn], hk, ?_⟩
    obtain ⟨hphase, hc, hlast⟩ | ⟨hphase, hc, l, hl⟩ := hnext
    · exact .inl ⟨hphase, by simpa using hc, hlast⟩
    · exact .inr ⟨hphase, by simp [hc], a, l, rfl, hl⟩
  rw [nextTurn]
  refine Prog.wp_call (wp_endTurn h hn hm ha hh) fun _ v hv ↦ ?_
  cases steering with
  | some steering =>
    exact (Prog.wp_pure _).mpr (hbetween steering v (hinput _ rfl) hv)
  | none =>
    exact Prog.wp_call (wp_drainMessages_kept hv _) fun ms v hv ↦
      (Prog.wp_pure _).mpr (hbetween ms v hv.1 hv.2)

variable (agent) in
/-- What a turn comes to. -/
def Turned (r : Progress ⊕ RunResult) (w : Moment) : Prop :=
  r.elim (fun p ↦ Between agent p w) fun r ↦ Ended agent r w

variable (trim : String → String)

theorem wp_onReply {a : AssistantMessage} (h : Replied agent s a w)
    (hn : s.turns = p.turnIndex) (hk : s.callTurns = p.iterations) :
    (onReply trim p a).wp Answer.IsFair (Turned agent) (Lawful agent) w := by
  obtain ⟨ab, h⟩ := h
  rw [onReply, Prog.wp_change_bind, Prog.wp_ite]
  split
  · rename_i ha
    exact Prog.wp_call (wp_failRun (s := { s with aborted := ab }) ha h hn) fun r v hv ↦
      (Prog.wp_pure _).mpr hv
  · rename_i ha
    rw [Bool.not_eq_true] at ha
    rw [Prog.wp_ite]
    split
    · rename_i hc
      rw [List.isEmpty_iff] at hc
      refine Prog.wp_call (wp_nextTurn (p := p) [] h hn nofun (.turnPlain rfl ha hc)
        rfl rfl rfl hk (.inr ⟨rfl, hc, s.history, rfl⟩)) fun p v hv ↦ ?_
      exact (Prog.wp_pure _).mpr hv
    · rename_i hc
      rw [List.isEmpty_iff] at hc
      have hmax : (w.change fun r ↦ r.note (.assistant a)).state.agent.config = agent.config :=
        (congrArg Agent.config h.setup :)
      rw [Prog.wp_read_bind, hmax, Prog.wp_ite]
      split
      · rename_i hlt
        have hle : agent.config.maxToolIterations ≤ s.callTurns := by omega
        exact Prog.wp_call (wp_exceedRun (s := { s with aborted := ab }) ha hc hle h hn) fun r v hv ↦
          (Prog.wp_pure _).mpr hv
      · rename_i hlt
        have hannouncing := h.silent (.calls rfl ha hc (by dsimp only; omega)) rfl rfl
        refine Prog.wp_call (wp_executeToolCalls (s := { s with
          aborted := ab, history := s.history ++ [.assistant a], callTurns := s.callTurns + 1 })
          trim hc hannouncing) fun x v hv ↦ ?_
        obtain ⟨hinput, hlast, ab', history, hv⟩ := hv
        rw [hv.lastReply] at hlast
        refine Prog.wp_call (wp_nextTurn (p := { p with iterations := p.iterations + 1 }) _ hv hn
          hinput (.turnDone rfl) rfl rfl rfl (congrArg (· + 1) hk) (.inl ⟨rfl, hc, hlast⟩))
          fun p v hv ↦ ?_
        exact (Prog.wp_pure _).mpr hv

theorem wp_runTurn (h : Between agent p w)
    (hreason : p.hasMoreToolCalls = true ∨ p.pending ≠ []) :
    (runTurn trim p).wp Answer.IsFair (Turned agent) (Lawful agent) w := by
  obtain ⟨hpending, s, hs, hn, hk, hphase⟩ := h
  have hturn : ∃ due, s.phase = .pause due ∧ ((!due) = true → p.pending ≠ []) ∧
      (p.pending = [] → NoReply agent s.history) := by
    obtain ⟨hp, hmore, hlast⟩ | ⟨hp, hmore, -⟩ := hphase
    · exact ⟨true, hp, nofun, fun _ ↦ hlast⟩
    · have hne : p.pending ≠ [] := hreason.elim hmore id
      exact ⟨false, hp, fun _ ↦ hne, fun hnil ↦ absurd hnil hne⟩
  obtain ⟨due, hdue, howed, hlast⟩ := hturn
  rw [runTurn, Prog.wp_read_bind, wp_onEvent_bind, hs.sessionId, ← hn]
  refine Prog.wp_call (wp_pushPending hpending howed (hs.say (.turnStart hdue) rfl rfl))
    fun _ v hv ↦ ?_
  refine Prog.wp_call (wp_isAborted_kept hv rfl) fun b v hv ↦ ?_
  cases b with
  | true =>
    simp only [if_true]
    exact Prog.wp_call (wp_stopRun (s := { s with history := s.history ++ p.pending }) hv rfl)
      fun r v hv ↦ (Prog.wp_pure _).mpr hv
  | false =>
    simp only [Bool.false_eq_true, if_false]
    have hno : v.state.agent.lastReply = none := by
      rw [hv.lastReply]
      exact noReply_append hpending hlast
    refine Prog.wp_call (wp_streamAssistantResponse
      (s := { s with aborted := false, history := s.history ++ p.pending }) hv rfl hno)
      fun r v hv ↦ ?_
    cases r with
    | ok a => exact wp_onReply trim hv hn hk
    | error error =>
      obtain ⟨hs, begun, hv⟩ := hv
      obtain ⟨rest, hmessages, hrest⟩ := hv.messages
      refine Prog.wp_call (wp_endRun true rest hv.follows ?_ hmessages) fun _ v hv ↦
        (Prog.wp_pure _).mpr ⟨_, rest, hv, hs, ?_⟩
      · cases begun with
        | false => rw [hrest.1]; exact .notAnswered rfl hs
        | true =>
          obtain ⟨a, rfl⟩ := hrest
          exact .brokenOff rfl hs
      · cases begun with
        | false => exact .inl hrest.1
        | true => exact .inr hrest

/-! ## The loops -/

theorem wp_innerLoop (h : Between agent p w) :
    (Prog.loop (innerRound trim) p).wp Answer.IsFair
      (fun r v ↦ r.elim (fun p ↦ Between agent p v ∧ p.hasMoreToolCalls = false ∧ p.pending = [])
        fun r ↦ Ended agent r v) (Lawful agent) w := by
  refine Prog.wp_loop (I := Between agent) (fun p v hv ↦ ?_) (fun p v ↦ Between.lawful) h
  rw [innerRound, Prog.wp_ite]
  split
  · rename_i hreason
    refine Prog.wp_call (wp_runTurn trim hv (by simpa using hreason)) fun r v hv ↦ ?_
    cases r with
    | inl p => exact (Prog.wp_pure _).mpr hv
    | inr r => exact (Prog.wp_pure _).mpr hv
  · rename_i hreason
    exact (Prog.wp_pure _).mpr ⟨hv, by simpa using hreason⟩

theorem wp_outerRound
    (h : Between agent p w ∧ (p.hasMoreToolCalls = true ∨ p.pending ≠ [])) :
    (outerRound trim p).wp Answer.IsFair
      (fun r v ↦ r.elim
        (fun p ↦ Between agent p v ∧ (p.hasMoreToolCalls = true ∨ p.pending ≠ []))
        fun r ↦ Ended agent r v) (Lawful agent) w := by
  obtain ⟨⟨hpending, s, hs, hn, hk, hphase⟩, hreason⟩ := h
  have hbegin : Between agent { p with hasMoreToolCalls := true } w := by
    refine ⟨hpending, s, hs, hn, hk, ?_⟩
    obtain ⟨hp, -, hlast⟩ | ⟨hp, hmore, ha⟩ := hphase
    · exact .inl ⟨hp, rfl, hlast⟩
    · exact .inr ⟨hp, fun _ ↦ hreason.elim hmore id, ha⟩
  rw [outerRound]
  refine Prog.wp_call (wp_innerLoop trim hbegin) fun r v hv ↦ ?_
  cases r with
  | inr r => exact (Prog.wp_pure _).mpr hv
  | inl p =>
    obtain ⟨⟨-, s, hs, hn, hk, hphase⟩, hmore, -⟩ := hv
    obtain ⟨-, hmore', -⟩ | ⟨hp, -, a, l, ha, hl⟩ := hphase
    · rw [hmore] at hmore'
      cases hmore'
    · have hgood : a.failed = false := by
        have hcloses := hs.reaches.closes
        rw [State.Closes, hp] at hcloses
        obtain ⟨-, b, hlast, hb⟩ := hcloses
        rwa [EndsWith.unique ⟨l, hl⟩ hlast]
      refine Prog.wp_call (wp_drainMessages_kept hs _) fun ms v hv ↦ ?_
      rw [Prog.wp_ite]
      split
      · rw [finishRun, ha]
        have hend := wp_endRun false [] hv.2.toFollows (.agentEnd hp)
          (by simpa using hv.2.messages)
        rw [bind_assoc]
        refine Prog.wp_call hend fun _ v hv ↦ (Prog.wp_pure _).mpr ?_
        exact ⟨_, _, hv, ⟨l, hl⟩, by rw [hgood, if_neg Bool.false_ne_true]⟩
      · rename_i hne
        refine (Prog.wp_pure _).mpr ⟨⟨hv.1, s, hv.2, hn, hk, ?_⟩, .inr (by simpa using hne)⟩
        exact .inr ⟨hp, fun _ ↦ by simpa using hne, a, l, ha, hl⟩

/-- **A run of the agent**, from its beginning to its end. -/
theorem wp_runLoop {prompts : List Message} (hprompts : ∀ m ∈ prompts, m.isInput = true)
    (hne : prompts ≠ []) (hqueue : ∀ k, ∀ m ∈ agent.messageQueue.queued k, m.isInput = true)
    (signal : Bool) :
    (runLoop trim prompts).wp Answer.IsFair (Ended agent) (Lawful agent) (agent.begin signal) := by
  have hidle : Kept agent .start (agent.begin signal) := by
    refine ⟨⟨.start, ?_, rfl, hqueue, rfl⟩, (List.append_nil _).symm⟩
    cases signal <;> rfl
  rw [runLoop, Prog.wp_read_bind, wp_onEvent_bind]
  refine Prog.wp_call (wp_pushPrompts hprompts (hidle.say (.agentStart rfl) rfl rfl))
    fun _ v hv ↦ ?_
  have hpause := hv.silent (.noMorePrompts rfl fun h ↦ hne (List.append_eq_nil_iff.mp h).2) rfl rfl
  refine Prog.wp_call (wp_drainMessages_kept hpause _) fun ms v hv ↦ ?_
  refine Prog.wp_loop (I := fun p v ↦ Between agent p v ∧ _) (fun p v hv ↦ wp_outerRound trim hv)
    (fun p v hv ↦ hv.1.lawful) ⟨⟨hv.1, _, hv.2, rfl, rfl, .inl ⟨rfl, rfl, ?_⟩⟩, .inl rfl⟩
  exact noReply_append hprompts fun h ↦ absurd h hne

end Runs

end WorkWithMe.Pi
