import WorkWithMe.Pi.Protocol
import WorkWithMe.Pi.Stream

/-!
# A reply, in the protocol

The functions that ask for a reply, one after another: from where the protocol stands before a call
to where it stands after it.  `Kept` is what holds between two steps of a run: the log has led to the
state of the protocol, and the agent has the messages that it should have.  While a reply comes it
has one more, and `Replying` says so.

* `wp_isAborted_kept` and `wp_drainMessages_kept`: a look at the flag, and at what was put in.
* `wp_streamAssistantResponse`: the agent ends up with the reply and nothing else, or the call of the
  provider ends with an error.
-/

set_option autoImplicit false

namespace WorkWithMe.Pi

open Dialog

/-- Of an agent, what no run changes. -/
def Agent.setup (a : Agent) : Agent :=
  { a with messages := [], messageQueue := ⟨[], [], .all, .all⟩ }

/-- A fetcher gives messages that somebody has put in. -/
def Answer.IsFair : Answer → Prop
  | .fetched _ ms => ∀ m ∈ ms, m.isInput = true
  | _ => True

section Runs

variable (agent : Agent)

/-- The log is one of the protocol. -/
def Lawful (w : Moment) : Prop := ∃ s, Reaches agent w.log s

/-- The log has led here, and the agent knows as much. -/
structure Follows (s : State) (w : Moment) : Prop where
  reaches : Reaches agent w.log s
  aborted : w.state.signal.getD false = s.aborted
  setup : w.state.agent.setup = agent.setup
  queue : ∀ k, ∀ m ∈ w.state.agent.messageQueue.queued k, m.isInput = true
  noted : w.state.newMessages = s.history

/-- The agent has also the messages that it should have. -/
structure Kept (s : State) (w : Moment) : Prop extends Follows agent s w where
  messages : w.state.agent.messages = agent.messages ++ s.history

variable {agent} {s : State} {w : Moment} {p : Phase}

theorem Follows.lawful (h : Follows agent s w) : Lawful agent w := ⟨s, h.reaches⟩

theorem Follows.say {t : State} {e : Effect} (h : Follows agent s w) (hm : Move agent s e t)
    (ha : t.aborted = s.aborted) (hh : t.history = s.history) : Follows agent t (w.say e) :=
  ⟨h.reaches.said hm, h.aborted.trans ha.symm, h.setup, h.queue, h.noted.trans hh.symm⟩

theorem Kept.say {t : State} {e : Effect} (h : Kept agent s w) (hm : Move agent s e t)
    (ha : t.aborted = s.aborted) (hh : t.history = s.history) : Kept agent t (w.say e) :=
  ⟨h.toFollows.say hm ha hh, by rw [hh]; exact h.messages⟩

theorem Kept.silent {t : State} (h : Kept agent s w) (hs : Silent agent s t)
    (ha : t.aborted = s.aborted) (hh : t.history = s.history) : Kept agent t w :=
  ⟨⟨h.reaches.silent hs, h.aborted.trans ha.symm, h.setup, h.queue, h.noted.trans hh.symm⟩,
    by rw [hh]; exact h.messages⟩

theorem Follows.sessionId (h : Follows agent s w) :
    w.state.agent.sessionId = agent.sessionId :=
  (congrArg Agent.sessionId h.setup :)

theorem Follows.isReadOnly (h : Follows agent s w) (name : String) :
    w.state.agent.isReadOnly name = agent.isReadOnly name :=
  (congrArg (fun a ↦ a.isReadOnly name) h.setup :)

/-! ## Questions -/

theorem wp_isAborted_kept (h : Kept agent s w) (hp : s.phase.listens = true) :
    isAborted.wp Answer.IsFair (fun b v ↦ Kept agent { s with aborted := b } v) (Lawful agent) w := by
  refine wp_isAborted h.lawful (fun hs ↦ ?_) fun seen b hs hb ↦ ?_
  · have ha := h.aborted
    rw [hs] at ha
    rw [show ({ s with aborted := false } : State) = s by cases s; cases ha; rfl]
    exact h
  · have hseen : s.aborted = seen := by rw [← h.aborted, hs]; rfl
    have hadmits : s.Admits (.flag b) := ⟨hp, fun ha ↦ hb (hseen ▸ ha)⟩
    exact ⟨⟨h.reaches.heard hadmits, rfl, h.setup, h.queue, h.noted⟩, h.messages⟩

theorem wp_drainMessages_kept (h : Kept agent s w) (k : QueueKind) :
    (drainMessages k).wp Answer.IsFair
      (fun ms v ↦ (∀ m ∈ ms, m.isInput = true) ∧ Kept agent s v) (Lawful agent) w := by
  refine wp_drainMessages h (fun v hv ↦ hv.lawful) (fun v ms hv hms ↦ ?_) fun v hv ↦ ⟨?_, ?_⟩
  · refine ⟨⟨hv.reaches.heard (i := .fetched k ms) trivial, hv.aborted, hv.setup, ?_,
      hv.noted⟩, hv.messages⟩
    intro k' m hm
    by_cases hk : k' = k
    · subst hk
      rw [World.state_hear, Running.setQueue, MessageQueue.queued_push_self] at hm
      exact (List.mem_append.mp hm).elim (hv.queue _ m) (hms m)
    · rw [World.state_hear, Running.setQueue, MessageQueue.queued_push_of_ne _ _ _ _ hk] at hm
      exact hv.queue k' m hm
  · intro m hm
    refine hv.queue k m ?_
    rw [← MessageQueue.popKind_append_afterPop]
    exact List.mem_append_left _ hm
  · refine ⟨⟨hv.reaches, hv.aborted, hv.setup, fun k' m hm ↦ ?_, hv.noted⟩, hv.messages⟩
    refine hv.queue k' m ?_
    by_cases hk : k' = k
    · subst hk
      rw [← MessageQueue.popKind_append_afterPop]
      exact List.mem_append_right _ hm
    · rw [World.state_change, Running.setQueue, MessageQueue.queued_afterPop_of_ne _ _ _ hk] at hm
      exact hm

/-! ## Replies -/

variable (agent s) in
/-- The provider was called, and the reply has begun or not. -/
structure Replying (begun : Bool) (w : Moment) : Prop where
  follows : Follows agent { s with phase := if begun then .writing true else .asked } w
  messages : ∃ rest, w.state.agent.messages = agent.messages ++ s.history ++ rest ∧
    if begun then ∃ a, rest = [.assistant a] else rest = [] ∧ w.state.agent.lastReply = none

variable (agent s) in
/-- There is a reply, which is still to be noted. -/
def Replied (a : AssistantMessage) (w : Moment) : Prop :=
  ∃ ab, Kept agent
    { s with phase := .written a, aborted := ab, history := s.history ++ [.assistant a] }
    (w.change fun r ↦ r.note (.assistant a))

theorem lastReply_of_messages {a : Agent} {l : List Message} {m : AssistantMessage}
    (h : a.messages = l ++ [.assistant m]) : a.lastReply = some m := by
  rw [Agent.lastReply, h, List.getLast?_concat]

/-- The reply takes its place. -/
theorem Replying.messages_putReply {begun : Bool} (h : Replying agent s begun w)
    (a : AssistantMessage) : (w.state.putReply begun a).agent.messages =
      agent.messages ++ s.history ++ [.assistant a] := by
  obtain ⟨rest, hm, hrest⟩ := h.messages
  cases begun with
  | false =>
    obtain ⟨rfl, -⟩ := hrest
    simp [Running.putReply, Running.setMessages, hm]
  | true =>
    obtain ⟨b, rfl⟩ := hrest
    simp [Running.putReply, lastReply_of_messages hm, Running.setMessages, hm]

theorem Replying.lastReply {begun : Bool} (h : Replying agent s begun w) :
    w.state.agent.lastReply.isSome = begun := by
  obtain ⟨rest, hm, hrest⟩ := h.messages
  cases begun with
  | false => rw [hrest.2]; rfl
  | true =>
    obtain ⟨b, rfl⟩ := hrest
    rw [lastReply_of_messages hm]; rfl

/-- Only the messages become others. -/
theorem Follows.setMessages (h : Follows agent s w) (g : Running → List Message) :
    Follows agent s (w.change fun r ↦ r.setMessages (g r)) :=
  ⟨h.reaches, h.aborted, h.setup, h.queue, h.noted⟩

theorem replied_of_writing {begun : Bool} {a : AssistantMessage}
    (h : Follows agent { s with phase := .writing begun } w)
    (ha : s.aborted = true → a.stopReason = .aborted)
    (hm : w.state.agent.messages = agent.messages ++ s.history ++ [.assistant a]) :
    Replied agent s a (w.say (.event (.messageEnd (.assistant a)))) := by
  refine ⟨s.aborted, ⟨h.reaches.said (.replyEnd rfl ha), h.aborted, h.setup, h.queue, ?_⟩, ?_⟩
  · simpa [Running.note] using h.noted
  · exact hm.trans (List.append_assoc ..)

/-- **The end of a reply** of which the start was told. -/
theorem wp_finalizeAssistantMessage_true {begun : Bool}
    (h : Follows agent { s with phase := .writing begun } w) {b : AssistantMessage}
    (hm : w.state.agent.messages = agent.messages ++ s.history ++ [.assistant b])
    (a : AssistantMessage) (ha : s.aborted = true → a.stopReason = .aborted) :
    (finalizeAssistantMessage a true).wp Answer.IsFair (fun b v ↦ b = a ∧ Replied agent s a v)
      (Lawful agent) w := by
  rw [finalizeAssistantMessage, Prog.wp_read_bind, Prog.wp_change_bind]
  simp only [lastReply_of_messages hm, Option.isSome_some, Bool.and_self, if_true, wp_onEvent_bind,
    Prog.wp_pure]
  refine ⟨trivial, replied_of_writing (h.setMessages _) ha ?_⟩
  simp [Running.putReply, lastReply_of_messages hm, Running.setMessages, hm]

/-- **The end of a reply.** -/
theorem wp_finalizeAssistantMessage {begun : Bool} (h : Replying agent s begun w)
    (a : AssistantMessage) (ha : s.aborted = true → a.stopReason = .aborted) :
    (finalizeAssistantMessage a begun).wp Answer.IsFair
      (fun b v ↦ b = a ∧ Replied agent s a v) (Lawful agent) w := by
  cases begun with
  | true =>
    obtain ⟨rest, hm, b, rfl⟩ := h.messages
    exact wp_finalizeAssistantMessage_true (s := s) h.follows hm a ha
  | false =>
    have hput : Follows agent { s with phase := .asked } (w.change fun r ↦ r.putReply false a) :=
      h.follows.setMessages _
    rw [finalizeAssistantMessage, Prog.wp_read_bind, Prog.wp_change_bind]
    simp only [Bool.false_and, Bool.false_eq_true, if_false, wp_onEvent_bind, Prog.wp_pure]
    exact ⟨trivial, replied_of_writing (s := s) (hput.say (.ownStart rfl) rfl rfl) ha
      (h.messages_putReply a)⟩

/-- The run is to stop, and the reply ends here. -/
theorem wp_onAbort {begun : Bool} (h : Replying agent s begun w) :
    (onAbort ⟨begun, begun⟩).wp Answer.IsFair (fun a v ↦ Replied agent s a v) (Lawful agent) w := by
  rw [onAbort, Prog.wp_read_bind]
  dsimp only
  generalize hb : w.state.agent.buildAbortMessage _ = a
  have ha : s.aborted = true → a.stopReason = .aborted := fun _ ↦ hb ▸ rfl
  obtain ⟨rest, hm, hrest⟩ := h.messages
  cases begun with
  | true =>
    obtain ⟨b, rfl⟩ := hrest
    simp only [if_true, wp_onEvent_bind]
    exact Prog.wp_mono (wp_finalizeAssistantMessage_true (s := s)
      (h.follows.say (.replyUpdate rfl) rfl rfl) hm a ha) (fun _ _ hv ↦ hv.1 ▸ hv.2) fun _ ↦ id
  | false =>
    obtain ⟨rfl, -⟩ := hrest
    simp only [Bool.false_eq_true, if_false, wp_onEvent_bind, Prog.wp_change_bind]
    have hstart : Follows agent { s with phase := .writing false }
        (w.say (.event (.messageStart (.assistant a)))) :=
      h.follows.say (.ownStart rfl) rfl rfl
    refine Prog.wp_mono (wp_finalizeAssistantMessage_true (s := s) (b := a)
      ((hstart.setMessages _).say (.replyUpdate rfl) rfl rfl) ?_ a ha) (fun _ _ hv ↦ hv.1 ▸ hv.2)
      fun _ ↦ id
    rw [List.append_nil] at hm
    exact congrArg (· ++ [Message.assistant a]) hm

variable (agent s) in
/-- How the call of the provider ends. -/
def Answered (r : Except String AssistantMessage) (w : Moment) : Prop :=
  match r with
  | .ok a => Replied agent s a w
  | .error _ => s.aborted = false ∧ ∃ begun, Replying agent s begun w

theorem wp_onClosed {begun : Bool} (h : Replying agent s begun w) (hs : s.aborted = false) :
    (onClosed ⟨begun, begun⟩).wp Answer.IsFair (Answered agent s) (Lawful agent) w := by
  rw [onClosed, Prog.wp_read_bind]
  cases begun with
  | true =>
    obtain ⟨last, hlast⟩ := Option.isSome_iff_exists.mp h.lastReply
    simp only [if_true, hlast]
    exact Prog.wp_call (wp_finalizeAssistantMessage h _ (by simp [hs])) fun b v hv ↦
      (Prog.wp_pure _).mpr (hv.1 ▸ hv.2)
  | false =>
    simp only [Bool.false_eq_true, if_false, Prog.wp_pure]
    exact ⟨hs, false, h⟩

theorem wp_onStart {begun : Bool} (h : Replying agent s begun w) (a : AssistantMessage) :
    (onStart ⟨begun, begun⟩ a).wp Answer.IsFair
      (fun st v ↦ st = ⟨true, true⟩ ∧ Replying agent s true v) (Lawful agent)
      (w.hear (.item (.start a)) w.state) := by
  have hstarted : Follows agent { s with phase := .started }
      (w.hear (.item (.start a)) w.state) := by
    refine ⟨?_, h.follows.aborted, h.follows.setup, h.follows.queue, h.follows.noted⟩
    have := h.follows.reaches.heard (i := .item (.start a)) trivial
    cases begun <;> exact this
  simp only [onStart, Prog.wp_change_bind, wp_onEvent_bind, Prog.wp_pure, true_and]
  have hstart : Follows agent { s with phase := .writing true }
      (((w.hear (.item (.start a)) w.state).change fun r ↦ r.putReply begun a).say
        (.event (.messageStart (.assistant a)))) :=
    (hstarted.setMessages fun r ↦ (r.putReply begun a).agent.messages).say (.replyStart rfl) rfl rfl
  exact ⟨hstart.say (.replyUpdate rfl) rfl rfl, _, h.messages_putReply a, a, rfl⟩

theorem wp_onPiece {begun : Bool} (h : Replying agent s begun w) (e : StreamEvent) :
    (onPiece ⟨begun, begun⟩ e).wp Answer.IsFair
      (fun st v ↦ st = ⟨begun, begun⟩ ∧ Replying agent s begun v) (Lawful agent) w := by
  rw [onPiece, Prog.wp_read_bind]
  cases hpiece : w.state.agent.lastReply.bind e.onReply with
  | none => exact (Prog.wp_pure _).mpr ⟨rfl, h⟩
  | some r =>
    obtain ⟨a, event⟩ := r
    obtain ⟨last, hlast, -⟩ := Option.bind_eq_some_iff.mp hpiece
    have hbegun : begun = true := by rw [← h.lastReply, hlast]; rfl
    subst hbegun
    obtain ⟨rest, hm, b, rfl⟩ := h.messages
    simp only [Prog.wp_change_bind, if_true, wp_onEvent_bind, Prog.wp_pure, true_and]
    refine ⟨(h.follows.setMessages _).say (.replyUpdate rfl) rfl rfl, [.assistant a], ?_, a, rfl⟩
    simp [Running.setLast, Running.setMessages, hm]

/-- The answer that says so. -/
def Polled.answer : Polled → Answer
  | .abort => .abort
  | .failed error => .failed error
  | .closed => .closed
  | .item e => .item e

theorem wp_poll {Q : Polled → Moment → Prop} {R : Moment → Prop} (hR : R w)
    (habort : Q .abort (w.hear .abort { w.state with signal := some true }))
    (hother : ∀ o, o ≠ .abort → Q o (w.hear o.answer w.state)) :
    poll.wp Answer.IsFair Q R w := by
  refine Prog.wp_ask.mpr ⟨hR, fun i o t _ hi ↦ ?_⟩
  split at hi
  · obtain ⟨rfl, rfl⟩ := Prod.mk.inj (Option.some.inj hi)
    exact habort
  · cases hi
  · obtain ⟨rfl, rfl⟩ := Prod.mk.inj (Option.some.inj hi)
    exact hother (.item _) nofun
  · obtain ⟨rfl, rfl⟩ := Prod.mk.inj (Option.some.inj hi)
    exact hother (.failed _) nofun
  · obtain ⟨rfl, rfl⟩ := Prod.mk.inj (Option.some.inj hi)
    exact hother .closed nofun
  · cases hi

theorem Replying.hear {begun : Bool} (h : Replying agent s begun w) {i : Answer}
    (hi : ∀ t : State, t.hear i = t ∧ t.Admits i) :
    Replying agent s begun (w.hear i w.state) := by
  refine ⟨⟨?_, h.follows.aborted, h.follows.setup, h.follows.queue, h.follows.noted⟩, h.messages⟩
  have := h.follows.reaches.heard (hi _).2
  rwa [(hi _).1] at this

theorem Replying.abort {begun : Bool} (h : Replying agent s begun w) :
    Replying agent { s with aborted := true } begun
      (w.hear .abort { w.state with signal := some true }) := by
  refine ⟨⟨?_, rfl, h.follows.setup, h.follows.queue, h.follows.noted⟩, h.messages⟩
  have := h.follows.reaches.heard (i := .abort) (by cases begun <;> rfl)
  cases begun <;> exact this

theorem wp_streamRound {begun : Bool} (h : Replying agent s begun w) (hs : s.aborted = false) :
    (streamRound ⟨begun, begun⟩).wp Answer.IsFair
      (fun r v ↦ r.elim (fun st ↦ ∃ b, st = ⟨b, b⟩ ∧ Replying agent s b v)
        fun r ↦ Answered agent s r v) (Lawful agent) w := by
  rw [streamRound]
  refine Prog.wp_bind (wp_poll h.follows.lawful ?_ fun o ho ↦ ?_)
  · refine Prog.wp_call (wp_onAbort h.abort) fun a v hv ↦ (Prog.wp_pure _).mpr ?_
    exact hv
  · have hitem : ∀ e : StreamEvent, (∀ a, e ≠ .start a) →
        Replying agent s begun (w.hear (.item e) w.state) := by
      intro e he
      refine h.hear fun t ↦ ⟨?_, trivial⟩
      cases e with
      | start a => exact absurd rfl (he a)
      | _ => rfl
    cases o with
    | abort => exact absurd rfl ho
    | failed error =>
      exact (Prog.wp_pure _).mpr
        ⟨hs, begun, h.hear (i := .failed error) fun _ ↦ ⟨rfl, trivial⟩⟩
    | closed =>
      exact Prog.wp_call (wp_onClosed (h.hear (i := .closed) fun _ ↦ ⟨rfl, trivial⟩) hs) fun r v hv ↦
        (Prog.wp_pure _).mpr hv
    | item e =>
      cases e with
      | start a =>
        exact Prog.wp_call (wp_onStart h a) fun st v hv ↦ (Prog.wp_pure _).mpr ⟨true, hv⟩
      | done reason a =>
        have hdone := hitem (.done reason a) (by rintro _ ⟨⟩)
        exact Prog.wp_call (wp_finalizeAssistantMessage hdone a (by simp [hs])) fun b v hv ↦
          (Prog.wp_pure _).mpr (hv.1 ▸ hv.2)
      | error reason a =>
        have hdone := hitem (.error reason a) (by rintro _ ⟨⟩)
        exact Prog.wp_call (wp_finalizeAssistantMessage hdone a (by simp [hs])) fun b v hv ↦
          (Prog.wp_pure _).mpr (hv.1 ▸ hv.2)
      | _ =>
        refine Prog.wp_call (wp_onPiece (hitem _ ?_) _) fun st v hv ↦
          (Prog.wp_pure _).mpr ⟨begun, hv⟩
        rintro _ ⟨⟩

/-- **A reply of the provider.** -/
theorem wp_streamAssistantResponse (h : Kept agent { s with phase := .turn false } w)
    (hs : s.aborted = false) (hlast : w.state.agent.lastReply = none) :
    streamAssistantResponse.wp Answer.IsFair (Answered agent s) (Lawful agent) w := by
  have hcontext : w.state.agent.buildContext =
      { agent with messages := agent.messages ++ s.history }.buildContext := by
    rw [← h.messages]
    exact (congrArg (fun a ↦ { a with messages := w.state.agent.messages }.buildContext) h.setup :)
  have hasked : Replying agent s false (w.say (.stream w.state.agent.buildContext)) := by
    rw [hcontext]
    exact ⟨h.toFollows.say (.stream rfl hs) rfl rfl, [], by simpa using h.messages, rfl, hlast⟩
  rw [streamAssistantResponse, openStream]
  simp only [bind_assoc, Prog.wp_read_bind, Prog.wp_say_bind]
  refine Prog.wp_ask_bind.mpr ⟨hasked.follows.lawful, fun i error t _ hi ↦ ?_⟩
  cases i with
  | opened o =>
    obtain ⟨rfl, rfl⟩ := Prod.mk.inj (Option.some.inj hi)
    have hopened : Replying agent s false
        ((w.say (.stream w.state.agent.buildContext)).hear (.opened o) w.state) :=
      hasked.hear fun t ↦ ⟨rfl, trivial⟩
    cases o with
    | some error => exact (Prog.wp_pure _).mpr ⟨hs, false, hopened⟩
    | none =>
      refine Prog.wp_loop (I := fun st v ↦ ∃ b, st = ⟨b, b⟩ ∧ Replying agent s b v) ?_ ?_
        ⟨false, rfl, hopened⟩
      · rintro st v ⟨b, rfl, hv⟩
        exact wp_streamRound hv hs
      · rintro st v ⟨b, rfl, hv⟩
        exact hv.follows.lawful
  | _ => cases hi

end Runs

end WorkWithMe.Pi
