import WorkWithMe.Client.Transcript
import WorkWithMe.Lib.Machine

/-!
# Events of other sessions

Whatever a run of the agent sends names the session of the run, in the JSON of its events or, for
an error, only in the mind of the back end.  The handlers of the chat do not look at it: an event
has its effect on whatever is shown when it arrives.  Meanwhile the user may have gone to another
session, by loading one or by starting a new chat, and nothing keeps the run from going on.

* `shown_handle_eq_iff`: the events that have no effect.
* `separate_iff_guarded`: in which runs no session shows what belongs to another.
-/

set_option autoImplicit false

namespace WorkWithMe.Client

open Server Machine

namespace Tags

/-! ## Sessions and events -/

/-- The chat, and the session it is shown for. -/
structure State where
  chat : Chat
  currentSessionId : Option SessionId
  /-- How many requests of `loadSession` have not been answered. -/
  loading : ℕ

def init : State := ⟨.init, none, 0⟩

inductive Action where
  /-- What a run of the session `sid` has sent arrives. -/
  | event (c : Clock) (sid : SessionId) (v : Json)
  /-- A timeout goes off. -/
  | timeout (i : ℕ)
  /-- `handleSubmit`; `sent` is what `wsSend` answers. -/
  | submit (c : Clock) (input : String) (attachments : List Image) (sent : Bool)
  /-- `loadSession`, up to the request. -/
  | loadSession
  /-- The rest of it. -/
  | loaded (result : Except String LoadedSession)
  /-- A new chat: `chat_cleared` arrives. -/
  | newChat (sid : SessionId)

/-- The session that has been loaded. -/
def State.loaded (s : State) : Except String LoadedSession → State
  | .ok data =>
    { chat := s.chat.loaded (.ok data)
      currentSessionId := if data.success then data.sessionId else s.currentSessionId
      loading := s.loading - 1 }
  | .error e => { s with chat := s.chat.loaded (.error e), loading := s.loading - 1 }

/-- One step.  No run sends `chat_cleared`. -/
def step (s : State) : Action → Option State
  | .event c _ v =>
    if textAt v "type" = some "chat_cleared" then none
    else some { s with chat := s.chat.onMessage c v }
  | .timeout i => if i ∈ s.chat.timeouts then some { s with chat := s.chat.timeout i } else none
  | .submit c input attachments sent =>
    some { s with chat := s.chat.submit c input attachments sent }
  | .loadSession =>
    some { s with chat := { s.chat with isLoadingSession := true }, loading := s.loading + 1 }
  | .loaded result => if 0 < s.loading then some (s.loaded result) else none
  | .newChat sid => some { s with chat := s.chat.clearMessages, currentSessionId := some sid }

/-! ## Events without an effect -/

/-- The entry that is being written. -/
def lastStreaming (msgs : List Message) : Option Message := msgs.reverse.find? Message.isOpen

/-- The event finds nothing to do in the chat. -/
def Idle (c : Clock) (s : Chat) : ChatEvent → Prop
  | .chatCleared _ => s.messages = [] ∧ s.toolExecutions = []
  | .messageStart id role =>
    role = some "user" ∨ ∃ m ∈ s.messages, m.id = id.getD (asstId c.now)
  | .textDelta text => ∀ m, lastStreaming s.messages = some m → text = ""
  | .thinkingDelta thinking => ∀ m, lastStreaming s.messages = some m → thinking = ""
  | .messageEnd id =>
    ∀ m ∈ s.messages, m.isOpen = false ∧
      (id.getD "" ≠ "" → m.id = id.getD "" → m.isStreaming = false) ∧
      (m.role = .user ∨ m.isStreaming = true ∨ m.isBlank = false)
  | .agentEnd => s.isProcessing = false ∧ s.currentToolStatus = none
  | .agentStatus message =>
    ∀ m, lastStreaming s.messages = some m → m.statusMessage = message
  | .promptComplete => s.isProcessing = false
  | .toolExecutionStart _ _ _ _ => False
  | .toolExecutionUpdate toolCallId args partialResult =>
    (∀ t ∈ s.toolExecutions, updateTool toolCallId args partialResult t = t) ∧
      ∀ m, lastStreaming s.messages = some m →
        ∀ t ∈ m.toolSteps, updateTool toolCallId args partialResult t = t
  | .toolExecutionEnd toolCallId isError result =>
    (∀ t ∈ s.toolExecutions, endTool toolCallId isError result t = t) ∧
      ∀ m, lastStreaming s.messages = some m →
        ∀ t ∈ m.toolSteps, endTool toolCallId isError result t = t
  | .error message => s.chatError = some (chatErrorOf message) ∧ s.isProcessing = false
  | .sandboxApprovalRequest _ => True

/-- What is shown of a session. -/
def shown (s : Chat) :
    List Message × List ToolExecution × Bool × Option String × Option String :=
  (s.messages, s.toolExecutions, s.isProcessing, s.currentToolStatus, s.chatError)

theorem updateLastStreamingMsg_eq_self_iff {msgs : List Message} {f : Message → Message} :
    updateLastStreamingMsg msgs f = msgs ↔ ∀ m, lastStreaming msgs = some m → f m = m :=
  Lists.modifyLast_eq_self_iff

/-- A start has no effect if the id is there. -/
theorem messageStart_eq_self_iff {id role : Option String} {c : Clock} {prev : List Message} :
    messageStart id role c prev = prev ↔
      role = some "user" ∨ ∃ m ∈ prev, m.id = id.getD (asstId c.now) := by
  rw [messageStart]
  split
  · rename_i hrole
    exact iff_of_true rfl (Or.inl hrole)
  rename_i hrole
  rw [or_iff_right hrole]
  dsimp only
  split
  · rename_i hany
    exact iff_of_true rfl (by simpa using hany)
  rename_i hany
  have hnone : ¬∃ m ∈ prev, m.id = id.getD (asstId c.now) := by simpa using hany
  refine iff_of_false (fun h ↦ ?_) hnone
  split at h
  · rename_i hlast
    -- the entry that is there would have had the id already
    cases hget : prev.getLast? with
    | none =>
      rw [hget] at hlast
      cases hlast
    | some last =>
      obtain ⟨l, rfl⟩ := List.getLast?_eq_some_iff.mp hget
      have hid := Lists.modifyLast_eq_self_iff.mp h last (by simp)
      exact hnone ⟨last, by simp, (congrArg Message.id hid).symm⟩
  · have := congrArg List.length h
    rw [List.length_append, List.length_singleton] at this
    omega

theorem messageEnd_eq_self_iff {id : Option String} {prev : List Message} :
    messageEnd id prev = prev ↔ ∀ m ∈ prev, m.isOpen = false ∧
      (id.getD "" ≠ "" → m.id = id.getD "" → m.isStreaming = false) ∧
      (m.role = .user ∨ m.isStreaming = true ∨ m.isBlank = false) := by
  rw [messageEnd, Lists.filterMap_eq_self_iff]
  refine forall₂_congr fun m _ ↦ ?_
  rw [endMessage]
  by_cases hend : (id.getD "" ≠ "" ∧ m.id = id.getD "") ∨ m.isOpen = true
  · -- the entry that ends stays as it is only if nothing was being written
    rw [if_pos hend, Option.ite_none_right_eq_some]
    constructor
    · rintro ⟨hkeep, h⟩
      have hstream : m.isStreaming = false := congrArg Message.isStreaming (Option.some.inj h).symm
      rw [Option.some.inj h] at hkeep
      exact ⟨by rw [Message.isOpen, hstream, Bool.and_false], fun _ _ ↦ hstream, hkeep⟩
    · rintro ⟨hopen, hid, hkeep⟩
      obtain ⟨hne, heq⟩ := hend.resolve_right (by simp [hopen])
      have hm : { m with isStreaming := false } = m := by rw [← hid hne heq]
      rw [hm]
      exact ⟨hkeep, rfl⟩
  · rw [if_neg hend, Option.ite_none_right_eq_some, and_iff_left rfl]
    obtain ⟨hid, hopen⟩ := not_or.mp hend
    have hopen : m.isOpen = false := by simpa using hopen
    exact ⟨fun hkeep ↦ ⟨hopen, fun hne heq ↦ absurd ⟨hne, heq⟩ hid, hkeep⟩, fun h ↦ h.2.2⟩

/-- **The events that have no effect** are those that find nothing to do. -/
theorem shown_handle_eq_iff {c : Clock} {s : Chat} {e : ChatEvent} :
    shown (s.handle c e) = shown s ↔ Idle c s e := by
  simp only [shown, Chat.handle, Prod.mk.injEq]
  cases e with
  | chatCleared sid =>
    simp [Chat.onRest, ChatEvent.onMessages, Chat.clearMessages, Idle, eq_comm (a := [])]
  | messageStart id role =>
    simp [Chat.onRest, ChatEvent.onMessages, Idle, messageStart_eq_self_iff]
  | textDelta text | thinkingDelta thinking =>
    simp [Chat.onRest, ChatEvent.onMessages, Idle, updateLastStreamingMsg_eq_self_iff,
      Message.ext_iff]
  | messageEnd id =>
    simp [Chat.onRest, ChatEvent.onMessages, Idle, messageEnd_eq_self_iff]
  | agentEnd =>
    simp [Chat.onRest, ChatEvent.onMessages, Idle, Chat.clearTimeout, eq_comm (a := false),
      eq_comm (a := none)]
  | agentStatus message =>
    simp [Chat.onRest, ChatEvent.onMessages, Idle, updateLastStreamingMsg_eq_self_iff,
      Message.ext_iff, eq_comm (a := message)]
  | promptComplete => simp [Chat.onRest, ChatEvent.onMessages, Idle, eq_comm (a := false)]
  | toolExecutionStart toolCallId toolName args status => simp [Chat.onRest, Idle]
  | toolExecutionUpdate toolCallId args partialResult =>
    simp [Chat.onRest, ChatEvent.onMessages, Idle, updateLastStreamingMsg_eq_self_iff,
      Message.ext_iff, Lists.map_eq_self_iff, and_comm]
  | toolExecutionEnd toolCallId isError result =>
    simp [Chat.onRest, ChatEvent.onMessages, Idle, Chat.setTimeout,
      updateLastStreamingMsg_eq_self_iff, Message.ext_iff, Lists.map_eq_self_iff, and_comm]
  | error message =>
    simp [Chat.onRest, ChatEvent.onMessages, Idle, eq_comm (a := false),
      eq_comm (a := some (chatErrorOf message)), and_comm]
  | sandboxApprovalRequest request => simp [Chat.onRest, ChatEvent.onMessages, Idle]

/-- A message has no effect if no handler reads an event of it that has one. -/
theorem shown_onMessage_eq_iff {c : Clock} {s : Chat} {v : Json} :
    shown (s.onMessage c v) = shown s ↔ ∀ e, readEvent v = some e → Idle c s e := by
  rw [Chat.onMessage]
  cases readEvent v with
  | none => simp
  | some e => simp [shown_handle_eq_iff]

/-! ## What is shown for a session -/

variable {s t : State} {a : Action} {as : List Action}

/-- The step is as it should be: an event changes what is shown only if it is of the current
session. -/
def OwnOnly (s : State) (a : Action) (t : State) : Prop :=
  ∀ c sid v, a = .event c sid v → shown t.chat ≠ shown s.chat → s.currentSessionId = some sid

/-- An event arrives only if it is of the current session, or finds nothing to do. -/
def Allowed (s : State) : Action → Prop
  | .event c sid v => s.currentSessionId = some sid ∨ ∀ e, readEvent v = some e → Idle c s.chat e
  | _ => True

/-- **A step** is as it should be if and only if it is allowed. -/
theorem ownOnly_iff (h : step s a = some t) : OwnOnly s a t ↔ Allowed s a := by
  cases a with
  | event c sid v =>
    obtain ⟨-, h⟩ := Option.ite_none_left_eq_some.mp h
    cases h
    rw [Allowed, ← shown_onMessage_eq_iff, or_iff_not_imp_right]
    constructor
    · exact fun h hne ↦ h c sid v rfl hne
    · rintro h _ _ _ ⟨⟩ hne
      exact h hne
  | _ => exact iff_of_true nofun trivial

/-- The action puts another transcript in the place of the one that is shown. -/
def Action.replaces : Action → Bool
  | .newChat _ => true
  | .loaded (.ok data) => data.success
  | _ => false

/-- Nothing else changes the session. -/
theorem currentSessionId_of_step (ha : a.replaces = false) (h : step s a = some t) :
    t.currentSessionId = s.currentSessionId := by
  cases a with
  | event c sid v =>
    obtain ⟨-, h⟩ := Option.ite_none_left_eq_some.mp h
    cases h
    rfl
  | timeout i =>
    obtain ⟨-, h⟩ := Option.ite_none_right_eq_some.mp h
    cases h
    rfl
  | loaded result =>
    obtain ⟨-, h⟩ := Option.ite_none_right_eq_some.mp h
    cases h
    cases result with
    | ok data => exact if_neg (Bool.not_eq_true _ ▸ ha)
    | error e => rfl
  | newChat sid => cases ha
  | submit | loadSession =>
    obtain rfl := Option.some.inj h
    rfl

/-- As long as the transcript is not replaced, the session is the same. -/
theorem currentSessionId_of_exec (has : ∀ a ∈ as, a.replaces = false)
    (h : exec step s as = some t) : t.currentSessionId = s.currentSessionId :=
  inv_of_guarded (G := fun _ a ↦ a.replaces = false)
    (I := fun r ↦ r.currentSessionId = s.currentSessionId)
    (fun _ _ _ hI ha h ↦ (currentSessionId_of_step ha h).trans hI) rfl
    (guarded_of_forall_mem (fun a ha _ ↦ has a ha) s) h

/-- No session shows what belongs to another, in the run `as`. -/
structure Separate (as : List Action) : Prop where
  /-- Events change what is shown only of their own session. -/
  own : ∀ pre a post r r', as = pre ++ a :: post → exec step init pre = some r →
    step r a = some r' → OwnOnly r a r'
  /-- What an event has written to the transcript is shown for the session of the event, until
  another transcript is there. -/
  text : ∀ pre c sid v mid post r r' t, as = pre ++ .event c sid v :: (mid ++ post) →
    exec step init pre = some r → step r (.event c sid v) = some r' →
    r'.chat.messages ≠ r.chat.messages → (∀ a ∈ mid, a.replaces = false) →
    exec step r' mid = some t → t.currentSessionId = some sid

/-- **No session shows what belongs to another** if and only if every event is of the session that
is current when it arrives, or finds nothing to do. -/
theorem separate_iff_guarded (hrun : exec step init as = some t) :
    Separate as ↔ Guarded step Allowed init as := by
  have hown := forall_steps_iff_guarded (G := Allowed) (P := OwnOnly)
    (fun _ _ _ h ↦ ownOnly_iff h) hrun
  refine ⟨fun h ↦ hown.mp h.own, fun hG ↦ ⟨hown.mpr hG, ?_⟩⟩
  intro pre c sid v mid post r r' t has hr hr' hne hmid ht
  have hsid : r.currentSessionId = some sid :=
    hown.mpr hG pre _ _ r r' has hr hr' c sid v rfl fun h ↦ hne (congrArg Prod.fst h)
  rw [currentSessionId_of_exec hmid ht, currentSessionId_of_step rfl hr', hsid]

/-- What a run of the session `sid` sends for an event of the agent. -/
def agentEvent (c : Clock) (sid : SessionId) (e : AgentEvent) : Action :=
  .event c sid ((piEventToWsJson id e sid).getD .null)

/-- A prompt and the beginning of the answer. -/
def exampleChat : List Action :=
  [.newChat "a", .submit ⟨1, 1⟩ "Hi" [] true, agentEvent ⟨2, 2⟩ "a" .messageStart,
    agentEvent ⟨3, 3⟩ "a" (.messageUpdate (.textDelta "Hello"))]

theorem separate_iff_guarded_example :
    ∃ t, exec step init exampleChat = some t ∧ Separate exampleChat := by
  refine ⟨_, rfl, (separate_iff_guarded rfl).mpr ?_⟩
  exact .cons rfl trivial <| .cons rfl trivial <| .cons rfl (Or.inl rfl) <|
    .cons rfl (Or.inl rfl) trivial

/-- **The answer goes into another session**, which the user has loaded meanwhile. -/
theorem not_separate_of_exec :
    ∃ r t, exec step init
        [.newChat "a", .submit ⟨1, 1⟩ "Hi" [] true, .loadSession,
          .loaded (.ok ⟨true, some "b", [], [], none⟩)] = some r ∧
      step r (agentEvent ⟨2, 2⟩ "a" .messageStart) = some t ∧
      ¬OwnOnly r (agentEvent ⟨2, 2⟩ "a" .messageStart) t := by
  refine ⟨_, _, rfl, rfl, fun h ↦ ?_⟩
  have hsid := h _ _ _ rfl fun heq ↦ absurd (congrArg (List.length ∘ Prod.fst) heq) (by decide)
  exact absurd hsid (by decide)

end Tags

end WorkWithMe.Client
