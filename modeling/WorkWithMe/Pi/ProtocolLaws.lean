import Mathlib.Data.List.Nodup
import WorkWithMe.Pi.Protocol

/-!
# What the protocol promises

Consequences of the protocol, for every log that is one of it.

* `Reaches.quiet`: once it is known that the run is to stop, neither the provider nor a tool is
  called.
* `Reaches.exclusive`: a tool that is not read-only runs alone, and never more than
  `maxConcurrentTools` run side by side.
* `Reaches.starts_eq`: each call that is announced is reported once, in the order in which they were
  announced.
* `Reaches.converses`: each reply with calls has their results directly behind it, unless it
  failed.
* `Reaches.requests_le`: there are no more calls of the provider than turns with calls are allowed
  and messages were put in.
* `Reaches.aborted_over`: a run that was told to stop ends with a reply that says so.
* `Reaches.tells`: the messages that are told are those the conversation consists of.
* `Reaches.nests`: starts and ends of runs, turns, messages and calls are nested.
-/

set_option autoImplicit false

namespace WorkWithMe.Pi

open Dialog

variable {agent : Agent} {l : Log} {s t : State}

/-! ## What was said at a moment -/

/-- What was said was allowed when it was said. -/
theorem Reaches.said_inv (h : Reaches agent l s) {post pre : Log} {e : Effect}
    (hl : l = post ++ .said e :: pre) : ∃ r r', Reaches agent pre r ∧ Move agent r e r' := by
  induction h generalizing post with
  | start => simp at hl
  | silent h _ ih => exact ih hl
  | @said l s t e' h hm ih =>
    cases post with
    | nil =>
      obtain ⟨he, rfl⟩ := List.cons.inj hl
      cases he
      exact ⟨s, t, h, hm⟩
    | cons x post => exact ih (List.cons.inj hl).2
  | heard h _ ih =>
    cases post with
    | nil => cases (List.cons.inj hl).1
    | cons x post => exact ih (List.cons.inj hl).2

/-- What an answer changes of what goes on. -/
theorem State.hear_cases (s : State) (i : Answer) :
    ∃ p ab, s.hear i = { s with phase := p, aborted := ab } ∧
      (p = s.phase ∨
        (∃ a flying flying' started, s.phase = .working a flying started ∧
          p = .working a flying' started) ∨
        (∃ a, i = .item (.start a)) ∧ (s.phase = .asked ∨ s.phase = .writing true) ∧
          p = .started) := by
  cases i with
  | flag b => exact ⟨s.phase, b, rfl, .inl rfl⟩
  | abort =>
    cases hp : s.phase with
    | working a flying started =>
      refine ⟨_, true, rfl, .inr (.inl ⟨a, flying, [], started, rfl, ?_⟩)⟩
      rw [hp]
    | _ => exact ⟨_, true, rfl, .inl (by rw [hp])⟩
  | returned i r =>
    cases hp : s.phase with
    | working a flying started =>
      refine ⟨_, s.aborted, rfl,
        .inr (.inl ⟨a, flying, flying.filter (· ≠ i), started, rfl, ?_⟩)⟩
      rw [hp]
    | _ => exact ⟨_, s.aborted, rfl, .inl (by rw [hp])⟩
  | item e =>
    cases e with
    | start a =>
      refine ⟨_, s.aborted, rfl, ?_⟩
      split
      · exact .inr (.inr ⟨⟨a, rfl⟩, .inl ‹_›, rfl⟩)
      · exact .inr (.inr ⟨⟨a, rfl⟩, .inr ‹_›, rfl⟩)
      · exact .inl rfl
    | _ => exact ⟨s.phase, s.aborted, rfl, .inl rfl⟩
  | _ => exact ⟨s.phase, s.aborted, rfl, .inl rfl⟩

/-! ## The wish that a run stop -/

/-- The entry tells that the run is to stop. -/
def TellsAbort : LogEntry → Prop
  | .heard .abort | .heard (.flag true) => True
  | _ => False

/-- Somebody else is called. -/
def Effect.isCall : Effect → Bool
  | .stream _ | .execute _ _ => true
  | .event _ => false

theorem Move.aborted {e : Effect} (h : Move agent s e t) : t.aborted = s.aborted := by
  cases h <;> rfl

theorem Silent.aborted (h : Silent agent s t) : t.aborted = s.aborted := by cases h <;> rfl

theorem State.aborted_hear {i : Answer} (hi : s.Admits i) (h : s.aborted = true) :
    (s.hear i).aborted = true := by
  cases i with
  | flag b => exact hi.2 h
  | abort => rfl
  | item e => cases e <;> exact h
  | _ => exact h

/-- Who was told knows. -/
theorem Reaches.aborted_of_tellsAbort (h : Reaches agent l s) (hl : ∃ x ∈ l, TellsAbort x) :
    s.aborted = true := by
  induction h with
  | start => simp at hl
  | silent _ hs ih => rw [hs.aborted]; exact ih hl
  | said _ hm ih =>
    obtain ⟨x, hx, hab⟩ := hl
    obtain rfl | hx := List.mem_cons.mp hx
    · cases hab
    · rw [hm.aborted]; exact ih ⟨x, hx, hab⟩
  | @heard l s i h hi ih =>
    obtain ⟨x, hx, hab⟩ := hl
    obtain rfl | hx := List.mem_cons.mp hx
    · cases i with
      | flag b => cases b <;> first | rfl | cases hab
      | abort => rfl
      | _ => cases hab
    · exact State.aborted_hear hi (ih ⟨x, hx, hab⟩)

/-- **Once it is known that the run is to stop, nobody else is called.** -/
theorem Reaches.quiet (h : Reaches agent l s) {post pre : Log} {e : Effect}
    (hl : l = post ++ .said e :: pre) (he : e.isCall = true) : ∀ x ∈ pre, ¬ TellsAbort x := by
  intro x hx hab
  obtain ⟨r, r', hr, hm⟩ := h.said_inv hl
  have hknown := hr.aborted_of_tellsAbort ⟨x, hx, hab⟩
  cases hm with
  | stream _ hs => rw [hs] at hknown; cases hknown
  | execute _ hs => rw [hs] at hknown; cases hknown
  | _ => cases he

/-! ## Tools that are running -/

/-- The calls for which a tool is running. -/
def running : Log → List (ℕ × ToolCall)
  | [] => []
  | .said (.execute i call) :: l => (i, call) :: running l
  | .heard (.returned i _) :: l => (running l).filter fun c ↦ c.1 ≠ i
  | .heard .abort :: _ => []
  | _ :: l => running l

/-- The protocol knows what is running. -/
def State.Runs (s : State) (cs : List (ℕ × ToolCall)) : Prop :=
  s.phase.flying = cs.map Prod.fst ∧
    ∀ a flying started, s.phase = .working a flying started → ∀ c ∈ cs, a.calls[c.1]? = some c.2

/-- A step after which no calls are executed, or the same ones. -/
theorem Move.runs {e : Effect} {cs : List (ℕ × ToolCall)} (hm : Move agent s e t)
    (he : e.isCall = false) (h : s.Runs cs) : t.Runs cs := by
  cases hm with
  | execute => cases he
  | update => exact h
  | _ => simp_all [State.Runs, Phase.flying]

theorem Silent.runs {cs : List (ℕ × ToolCall)} (hs : Silent agent s t) (h : s.Runs cs) :
    t.Runs cs := by
  cases hs <;> simp_all [State.Runs, Phase.flying]

theorem State.Runs.hear {i : Answer} (h : s.Runs (running l)) :
    (s.hear i).Runs (running (.heard i :: l)) := by
  obtain ⟨hflying, hcalls⟩ := h
  cases i with
  | abort =>
    refine ⟨?_, nofun⟩
    cases hp : s.phase <;> simp [State.hear, hp, Phase.flying, running]
  | returned i r =>
    cases hp : s.phase with
    | working a flying started =>
      rw [hp] at hflying
      refine ⟨?_, fun b _ _ hb c hc ↦ ?_⟩
      · simp only [State.hear, hp, running]
        rw [Phase.flying] at hflying ⊢
        rw [hflying, List.filter_map]
        rfl
      · simp only [State.hear, hp, Phase.working.injEq] at hb
        exact hb.1 ▸ hcalls a flying started hp c (List.mem_of_mem_filter hc)
    | _ =>
      have hnil : running l = [] := by simpa [hp, Phase.flying] using hflying.symm
      simp [State.Runs, State.hear, hp, Phase.flying, running, hnil]
  | item e =>
    cases e with
    | start m =>
      have hrunning : running (.heard (.item (.start m)) :: l) = running l := rfl
      rw [hrunning]
      by_cases hp : s.phase = .asked ∨ s.phase = .writing true
      · have hnil : running l = [] := by
          rcases hp with hp | hp <;> simpa [hp, Phase.flying] using hflying.symm
        rcases hp with hp | hp <;> simp [State.Runs, State.hear, hp, Phase.flying, hnil]
      · have heq : s.hear (.item (.start m)) = s := by
          simp only [State.hear]
          split <;> simp_all
        rw [heq]
        exact ⟨hflying, hcalls⟩
    | _ => exact ⟨hflying, hcalls⟩
  | _ => exact ⟨hflying, hcalls⟩

theorem Reaches.runs (h : Reaches agent l s) : s.Runs (running l) := by
  induction h with
  | start => exact ⟨rfl, nofun⟩
  | silent _ hs ih => exact hs.runs ih
  | heard _ _ ih => exact ih.hear
  | @said l s t e _ hm ih =>
    cases e with
    | event e => exact hm.runs rfl ih
    | stream context =>
      cases hm with
      | stream hp =>
        have hnil : running l = [] := by simpa [hp, Phase.flying] using ih.1.symm
        simp [State.Runs, Phase.flying, running, hnil]
    | execute i call =>
      cases hm with
      | execute hp _ hi =>
        obtain ⟨hflying, hcalls⟩ := ih
        rw [hp] at hflying
        refine ⟨congrArg (i :: ·) hflying, fun b _ _ hb c hc ↦ ?_⟩
        obtain rfl := (Phase.working.inj hb).1
        obtain rfl | hc := List.mem_cons.mp hc
        · exact hi
        · exact hcalls _ _ _ hp c hc

/-- **A tool that is not read-only runs alone**, and at most `maxConcurrentTools` of the others run
side by side. -/
theorem Reaches.exclusive (h : Reaches agent l s) {post pre : Log} {i : ℕ} {call : ToolCall}
    (hl : l = post ++ .said (.execute i call) :: pre) :
    running pre = [] ∨
      agent.isReadOnly call.name = true ∧ (running pre).length < maxConcurrentTools ∧
        ∀ c ∈ running pre, agent.isReadOnly c.2.name = true := by
  obtain ⟨r, r', hr, hm⟩ := h.said_inv hl
  cases hm with
  | execute hp _ _ _ hmay =>
    obtain ⟨hflying, hcalls⟩ := hr.runs
    rw [hp, Phase.flying] at hflying
    subst hflying
    refine hmay.imp (by simp) fun ⟨hro, hlen, hothers⟩ ↦ ⟨hro, by simpa using hlen, fun c hc ↦ ?_⟩
    exact hothers c.1 (List.mem_map_of_mem hc) c.2 (hcalls _ _ _ hp c hc)

/-! ## Calls that are announced and reported -/

/-- By what the events know a call. -/
def ToolCall.key (call : ToolCall) : String × String := (call.id, call.name)

@[inherit_doc ToolCall.key]
def ToolResultMessage.key (r : ToolResultMessage) : String × String := (r.toolCallId, r.toolName)

/-- The calls that were announced, the oldest one first. -/
def starts : Log → List (String × String)
  | [] => []
  | .said (.event (.toolExecutionStart id name _)) :: l => starts l ++ [(id, name)]
  | _ :: l => starts l

/-- The calls of which the end was reported, the oldest one first. -/
def ends : Log → List (String × String)
  | [] => []
  | .said (.event (.toolExecutionEnd id name _ _)) :: l => ends l ++ [(id, name)]
  | _ :: l => ends l

/-- The calls that are announced and not yet reported, when the ones that are still to be announced
are counted as well. -/
def Phase.open : Phase → List ToolCall
  | .announcing a _ | .working a _ _ => a.calls
  | .settling _ rest _ | .told _ rest _ _ | .telling _ rest _ _ => rest
  | _ => []

/-- The calls that are still to be announced. -/
def Phase.unannounced : Phase → List ToolCall
  | .announcing _ rest => rest
  | _ => []

/-- The events have told so much of the calls. -/
def State.Counts (s : State) (starts ends : List (String × String)) : Prop :=
  starts ++ s.phase.unannounced.map ToolCall.key = ends ++ s.phase.open.map ToolCall.key

theorem State.phase_hear (i : Answer) :
    (s.hear i).phase.open = s.phase.open ∧ (s.hear i).phase.unannounced = s.phase.unannounced := by
  obtain ⟨p, ab, heq, rfl | ⟨a, _, _, _, hp, rfl⟩ | ⟨-, hp, rfl⟩⟩ := s.hear_cases i
  · simp [heq]
  · simp [heq, hp, Phase.open, Phase.unannounced]
  · rcases hp with hp | hp <;> simp [heq, hp, Phase.open, Phase.unannounced]

theorem Reaches.counts (h : Reaches agent l s) : s.Counts (starts l) (ends l) := by
  induction h with
  | start => rfl
  | @silent l s t _ hs ih =>
    cases hs <;> simp_all [State.Counts, Phase.open, Phase.unannounced]
  | @heard l s i _ _ ih =>
    rw [State.Counts, (State.phase_hear i).1, (State.phase_hear i).2]
    exact ih
  | @said l s t e _ hm ih =>
    cases hm with
    | _ =>
      simp_all [State.Counts, Phase.open, Phase.unannounced, starts, ends, ToolCall.key]

theorem Reaches.unannounced_suffix (h : Reaches agent l s) :
    s.phase.unannounced <:+ s.phase.open ∨ s.phase.unannounced = [] := by
  induction h with
  | start => exact .inr rfl
  | @silent l s t _ hs ih =>
    cases hs <;> simp_all [Phase.open, Phase.unannounced, List.suffix_rfl]
  | @heard l s i _ _ ih => rw [(State.phase_hear i).1, (State.phase_hear i).2]; exact ih
  | @said l s t e _ hm ih =>
    cases hm with
    | announce hp =>
      refine .inl ?_
      rw [hp] at ih
      exact (List.suffix_cons ..).trans (ih.resolve_right nofun)
    | replyUpdate => exact ih
    | update => exact ih
    | lateUpdate => exact ih
    | _ => exact .inr rfl

/-- **Each call that is announced is reported once**, in the order in which they were announced. -/
theorem Reaches.ends_prefix (h : Reaches agent l s) : ends l <+: starts l := by
  have hcounts := h.counts
  rw [State.Counts] at hcounts
  have hends : ends l <+: starts l ++ s.phase.unannounced.map ToolCall.key :=
    hcounts ▸ List.prefix_append ..
  refine List.prefix_of_prefix_length_le hends (List.prefix_append ..) ?_
  have hlen := congrArg List.length hcounts
  simp only [List.length_append, List.length_map] at hlen
  obtain hsuffix | hnil := h.unannounced_suffix
  · have := hsuffix.length_le
    omega
  · rw [hnil, List.length_nil] at hlen
    omega

/-- When nothing is open, all that was announced was reported. -/
theorem Reaches.starts_eq (h : Reaches agent l s) (hopen : s.phase.open = []) :
    starts l = ends l := by
  have hcounts := h.counts
  have hnil : s.phase.unannounced = [] := by
    obtain hsuffix | hnil := h.unannounced_suffix
    · exact List.suffix_nil.mp (hopen ▸ hsuffix)
    · exact hnil
  simpa [State.Counts, hopen, hnil] using hcounts

/-! ## The conversation -/

/-- A conversation in which each reply with calls has their results directly behind it, unless it
failed. -/
inductive Conversation : List Message → Prop where
  | nil : Conversation []
  | input {l : List Message} {m : Message} (h : Conversation l) (hm : m.isInput = true) :
    Conversation (l ++ [m])
  | reply {l : List Message} {a : AssistantMessage} (h : Conversation l)
      (ha : a.failed = true ∨ a.calls = []) : Conversation (l ++ [.assistant a])
  | calls {l : List Message} {a : AssistantMessage} {rs : List ToolResultMessage}
      (h : Conversation l) (hrs : rs.map ToolResultMessage.key = a.calls.map ToolCall.key) :
    Conversation (l ++ .assistant a :: rs.map .toolResult)

theorem Conversation.append {l m : List Message} (hl : Conversation l) (hm : Conversation m) :
    Conversation (l ++ m) := by
  induction hm with
  | nil => simpa using hl
  | input _ hm ih => rw [← List.append_assoc]; exact ih.input hm
  | reply _ ha ih => rw [← List.append_assoc]; exact ih.reply ha
  | calls _ hrs ih => rw [← List.append_assoc]; exact ih.calls hrs

/-- The filters leave a message what it is. -/
theorem isInput_filterImagesFromMessage (m : Message) :
    (filterImagesFromMessage m).isInput = m.isInput := by
  cases m with
  | user content => cases content <;> rfl
  | _ => rfl

/-- **What a provider gets of a conversation** is one, too. -/
theorem Conversation.providerMessages {l : List Message} (h : Conversation l)
    (blockImages : Bool) : Conversation (Pi.providerMessages blockImages l) := by
  have happend : ∀ l l' : List Message, Pi.providerMessages blockImages (l ++ l') =
      Pi.providerMessages blockImages l ++ Pi.providerMessages blockImages l' := by
    intro l l'
    cases blockImages <;> simp [Pi.providerMessages]
  induction h with
  | nil => cases blockImages <;> exact .nil
  | @input l m h hm ih =>
    rw [happend]
    refine ih.append ?_
    cases hs : m.isShown with
    | false => cases blockImages <;> simpa [Pi.providerMessages, hs] using Conversation.nil
    | true =>
      cases blockImages with
      | false => simpa [Pi.providerMessages, hs] using Conversation.nil.input hm
      | true =>
        rw [← isInput_filterImagesFromMessage] at hm
        simpa [Pi.providerMessages, hs] using Conversation.nil.input hm
  | @reply l a h ha ih =>
    rw [happend]
    refine ih.append ?_
    cases blockImages with
    | false => exact Conversation.nil.reply ha
    | true =>
      refine Conversation.nil.reply (ha.imp id fun hc ↦ ?_)
      exact (extractToolCalls_filterImageBlocks a.content).trans hc
  | @calls l a rs h hrs ih =>
    rw [happend]
    refine ih.append ?_
    have hshown : (Message.assistant a :: rs.map Message.toolResult).filter Message.isShown =
        .assistant a :: rs.map .toolResult := by
      simp [Message.isShown]
    cases blockImages with
    | false => simpa [Pi.providerMessages, hshown] using Conversation.nil.calls hrs
    | true =>
      have hmap : (Message.assistant a :: rs.map Message.toolResult).map filterImagesFromMessage =
          .assistant { a with content := (filterImageBlocks a.content).1 } ::
            (rs.map fun r ↦ { r with content := (filterImageBlocks r.content).1 }).map
              .toolResult := by
        simp [filterImagesFromMessage]
      simp only [Pi.providerMessages, hshown, if_true, hmap]
      refine Conversation.nil.calls ?_
      rw [List.map_map, AssistantMessage.calls, extractToolCalls_filterImageBlocks]
      exact hrs

/-- A conversation that ends with a reply of which some of the calls have their results, `results`,
and `keys` have not. -/
def Unfinished (history : List Message) (a : AssistantMessage) (results : List ToolResultMessage)
    (keys : List (String × String)) : Prop :=
  ∃ l, history = l ++ .assistant a :: results.map .toolResult ∧ Conversation l ∧
    results.map ToolResultMessage.key ++ keys = a.calls.map ToolCall.key

/-- What the messages of the run are. -/
def State.Converses (s : State) : Prop :=
  match s.phase with
  | .written a | .announcing a _ | .working a _ _ =>
    Unfinished s.history a [] (a.calls.map ToolCall.key)
  | .settling a rest results => Unfinished s.history a results (rest.map ToolCall.key)
  | .told a rest results r | .telling a rest results r =>
    Unfinished s.history a results (r.key :: rest.map ToolCall.key)
  | .given m _ => Conversation s.history ∧ m.isInput = true
  | _ => Conversation s.history

theorem Conversation.unfinished {history : List Message} (h : Conversation history)
    (a : AssistantMessage) :
    Unfinished (history ++ [.assistant a]) a [] (a.calls.map ToolCall.key) :=
  ⟨history, rfl, h, rfl⟩

theorem Unfinished.conversation {history : List Message} {a : AssistantMessage}
    {results : List ToolResultMessage} (h : Unfinished history a results []) :
    Conversation history := by
  obtain ⟨l, rfl, hl, hkeys⟩ := h
  exact hl.calls (by simpa using hkeys)

/-- The last message is the reply, as long as no result is there. -/
theorem Unfinished.dropLast {history : List Message} {a : AssistantMessage}
    {keys : List (String × String)} (h : Unfinished history a [] keys) :
    Conversation history.dropLast ∧ history = history.dropLast ++ [.assistant a] := by
  obtain ⟨l, rfl, hl, -⟩ := h
  simpa using hl

theorem Unfinished.result {history : List Message} {a : AssistantMessage}
    {results : List ToolResultMessage} {r : ToolResultMessage} {keys : List (String × String)}
    (h : Unfinished history a results (r.key :: keys)) :
    Unfinished (history ++ [.toolResult r]) a (results ++ [r]) keys := by
  obtain ⟨l, rfl, hl, hkeys⟩ := h
  exact ⟨l, by simp, hl, by simpa using hkeys⟩

theorem State.converses_hear {i : Answer} (h : s.Converses) : (s.hear i).Converses := by
  obtain ⟨p, ab, heq, rfl | ⟨a, _, _, _, hp, rfl⟩ | ⟨-, hp, rfl⟩⟩ := s.hear_cases i
  · rw [heq]
    exact h
  · simpa only [heq, State.Converses, hp] using h
  · rcases hp with hp | hp <;> simpa only [heq, State.Converses, hp] using h

theorem Move.converses {e : Effect} (hm : Move agent s e t) (h : s.Converses) : t.Converses := by
  cases hm with
  | promptStart hp hm => simp_all [State.Converses]
  | inputStart hp hm => simp_all [State.Converses]
  | promptEnd hp =>
    rw [State.Converses, hp] at h
    exact h.1.input h.2
  | inputEnd hp =>
    rw [State.Converses, hp] at h
    exact h.1.input h.2
  | stopEnd hp =>
    rw [State.Converses, hp] at h
    exact h.unfinished _
  | replyEnd hp =>
    rw [State.Converses, hp] at h
    exact h.unfinished _
  | turnFailed hp ha =>
    rw [State.Converses, hp] at h
    obtain ⟨hl, heq⟩ := h.dropLast
    have := hl.reply (.inl ha)
    rwa [← heq] at this
  | turnPlain hp ha hc =>
    rw [State.Converses, hp] at h
    obtain ⟨hl, heq⟩ := h.dropLast
    have := hl.reply (.inr hc)
    rwa [← heq] at this
  | turnExceeded hp ha hc hk hb _ =>
    rw [State.Converses, hp] at h
    exact h.dropLast.1.reply (.inl hb)
  | toolEnd hp =>
    rw [State.Converses, hp] at h
    exact h
  | resultEnd hp =>
    rw [State.Converses, hp] at h
    exact h.result
  | turnDone hp =>
    rw [State.Converses, hp] at h
    exact h.conversation
  | _ => simp_all [State.Converses]

theorem Reaches.converses (h : Reaches agent l s) : s.Converses := by
  induction h with
  | start => exact .nil
  | heard _ _ ih => exact State.converses_hear ih
  | said _ hm ih => exact hm.converses ih
  | @silent l s t _ hs ih =>
    cases hs with
    | worked hp =>
      rw [State.Converses, hp] at ih
      exact ih
    | _ => simp_all [State.Converses]

/-- **Every request is a conversation**, if what there was before is one. -/
theorem Reaches.request (h : Reaches agent l s) (hmessages : Conversation agent.messages)
    {post pre : Log} {context : Context} (hl : l = post ++ .said (.stream context) :: pre) :
    Conversation context.messages := by
  obtain ⟨r, r', hr, hm⟩ := h.said_inv hl
  cases hm with
  | stream hp =>
    have hconverses := hr.converses
    rw [State.Converses, hp] at hconverses
    exact (hmessages.append hconverses).providerMessages _

/-! ## Requests -/

/-- The calls of the provider. -/
def requests : Log → ℕ
  | [] => 0
  | .said (.stream _) :: l => requests l + 1
  | _ :: l => requests l

/-- The messages that were put in, the prompts among them. -/
def inputs : Log → ℕ
  | [] => 0
  | .said (.event (.messageEnd m)) :: l => if m.isInput then inputs l + 1 else inputs l
  | _ :: l => inputs l

/-- How many calls of the provider there may have been, where `n` messages were put in. -/
def State.Affords (s : State) (k n : ℕ) : Prop :=
  match s.phase with
  | .idle => k = 0 ∧ n = 0 ∧ s.callTurns = 0 ∧ s.history = []
  | .begun => k = 0 ∧ s.callTurns = 0 ∧ s.history.length = n
  | .given m false => k = 0 ∧ s.callTurns = 0 ∧ s.history.length = n ∧ m.isInput = true
  | .given m true => k ≤ s.callTurns + n ∧ m.isInput = true
  | .pause true | .turn false | .announcing _ _ | .working _ _ _ | .settling _ _ _
  | .told _ _ _ _ | .telling _ _ _ _ => k + 1 ≤ s.callTurns + n
  | _ => k ≤ s.callTurns + n

theorem Reaches.affords (h : Reaches agent l s) :
    s.Affords (requests l) (inputs l) ∧ s.callTurns ≤ agent.config.maxToolIterations := by
  induction h with
  | start => exact ⟨⟨rfl, rfl, rfl, rfl⟩, Nat.zero_le _⟩
  | @silent l s t _ hs ih =>
    cases hs with
    | noMorePrompts hp hne =>
      have := List.length_pos_iff.mpr hne
      simp_all [State.Affords]
      omega
    | calls hp _ _ hk =>
      refine ⟨?_, hk⟩
      simp_all [State.Affords]
      omega
    | _ => simp_all [State.Affords]
  | @heard l s i _ _ ih =>
    change (s.hear i).Affords (requests l) (inputs l) ∧ _
    obtain ⟨p, ab, heq, rfl | ⟨a, _, _, _, hp, rfl⟩ | ⟨-, hp, rfl⟩⟩ := s.hear_cases i
    · rw [heq]
      exact ih
    · simpa only [heq, State.Affords, hp] using ih
    · rcases hp with hp | hp <;> simpa only [heq, State.Affords, hp] using ih
  | @said l s t e _ hm ih =>
    obtain ⟨ih, hk⟩ := ih
    refine ⟨?_, by cases hm <;> exact hk⟩
    cases hm with
    | @turnStart due hp => cases due <;> simp_all [State.Affords, requests, inputs]
    | @inputStart owed _ hp hm =>
      cases owed <;> simp_all [State.Affords, requests, inputs]
      omega
    | _ => simp_all [State.Affords, requests, inputs, Message.isInput] <;> omega

/-- **The provider is not called more often** than turns with calls are allowed and messages were
put in. -/
theorem Reaches.requests_le (h : Reaches agent l s) :
    requests l ≤ agent.config.maxToolIterations + inputs l := by
  obtain ⟨hs, hk⟩ := h.affords
  have hle : requests l ≤ s.callTurns + inputs l := by
    rw [State.Affords] at hs
    split at hs <;> omega
  omega

/-! ## The end -/

/-- The entry reports the end of the run. -/
def IsEnd : LogEntry → Prop
  | .said (.event (.agentEnd _ _ _)) => True
  | _ => False

/-- The run has ended. -/
def Phase.isOver : Phase → Bool
  | .ended _ _ => true
  | _ => false

theorem State.isOver_hear {i : Answer} : (s.hear i).phase.isOver = s.phase.isOver := by
  obtain ⟨p, ab, heq, rfl | ⟨a, _, _, _, hp, rfl⟩ | ⟨-, hp, rfl⟩⟩ := s.hear_cases i
  · rw [heq]
  · rw [heq, hp]
    rfl
  · rcases hp with hp | hp <;> rw [heq, hp] <;> rfl

/-- What is said ends the run if it reports the end, and nothing is said when the run has ended. -/
theorem Move.isOver {e : Effect} (hm : Move agent s e t) :
    s.phase.isOver = false ∧ (t.phase.isOver = true ↔ IsEnd (.said e)) := by
  cases hm <;> simp_all [IsEnd, Phase.isOver]

/-- **The end is reported once**, and nothing is said after it. -/
theorem Reaches.isOver_iff (h : Reaches agent l s) :
    s.phase.isOver = true ↔ ∃ x ∈ l, IsEnd x := by
  induction h with
  | start => simp [State.start, Phase.isOver]
  | @silent l s t _ hs ih =>
    rw [← ih]
    cases hs <;> simp_all [Phase.isOver]
  | @heard l s i _ _ ih => simp [State.isOver_hear, ih, IsEnd]
  | @said l s t e _ hm ih =>
    obtain ⟨hfalse, hiff⟩ := hm.isOver
    have hnone : ¬ ∃ x ∈ l, IsEnd x := by rw [← ih, hfalse]; nofun
    simp only [List.mem_cons, exists_eq_or_imp, hnone, or_false, hiff]

/-! ## How a run comes to its end -/

/-- The last of the messages is the reply. -/
def EndsWith (history : List Message) (a : AssistantMessage) : Prop :=
  ∃ l, history = l ++ [.assistant a]

theorem EndsWith.unique {history : List Message} {a b : AssistantMessage} (ha : EndsWith history a)
    (hb : EndsWith history b) : a = b := by
  obtain ⟨l, rfl⟩ := ha
  obtain ⟨l', hl'⟩ := hb
  exact Message.assistant.inj (List.append_singleton_inj.mp hl').2

/-- What is known of the last of the messages when a run comes to its end. -/
def State.Closes (s : State) : Prop :=
  match s.phase with
  | .written a => EndsWith s.history a ∧ (s.aborted = true → a.stopReason = .aborted)
  | .stopping a => a.stopReason = .aborted
  | .pause false => s.aborted = false ∧ ∃ a, EndsWith s.history a ∧ a.failed = false
  | .closing error => ∃ a, EndsWith s.history a ∧ a.failed = true ∧ a.errorMessage = error ∧
      (s.aborted = true → a.stopReason = .aborted)
  | .ended inTurn unfinished => s.aborted = true → inTurn = false ∧ unfinished = false ∧
      ∃ a, EndsWith s.history a ∧ a.stopReason = .aborted
  | _ => True

theorem failed_of_aborted {a : AssistantMessage} (h : a.stopReason = .aborted) :
    a.failed = true := by simp [AssistantMessage.failed, h]

/-- Who does not listen does not learn that the run is to stop. -/
theorem State.hear_of_not_listens {i : Answer} (hi : s.Admits i) (h : s.phase.listens = false) :
    s.hear i = s := by
  cases i with
  | flag b => rw [State.Admits, h] at hi; cases hi.1
  | abort => rw [State.Admits, h] at hi; cases hi
  | returned i r =>
    obtain ⟨phase, _⟩ := s
    cases phase <;> first | rfl | cases h
  | item e =>
    obtain ⟨phase, _⟩ := s
    cases e <;> first | rfl | (cases phase <;> first | rfl | cases h)
  | _ => rfl

theorem State.closes_of_listens (h : s.phase.listens = true) : s.Closes := by
  obtain ⟨phase, _⟩ := s
  cases phase <;> trivial

theorem State.listens_hear (i : Answer) (h : s.phase.listens = true) :
    (s.hear i).phase.listens = true := by
  obtain ⟨p, ab, heq, rfl | ⟨_, _, _, _, _, rfl⟩ | ⟨-, _, rfl⟩⟩ := s.hear_cases i
  · rwa [heq]
  · rw [heq]; rfl
  · rw [heq]; rfl

theorem State.closes_hear {i : Answer} (hi : s.Admits i) (h : s.Closes) : (s.hear i).Closes := by
  cases hl : s.phase.listens with
  | true => exact State.closes_of_listens (State.listens_hear i hl)
  | false => rwa [State.hear_of_not_listens hi hl]

theorem Move.closes {e : Effect} (hm : Move agent s e t) (h : s.Closes) : t.Closes := by
  cases hm with
  | stopStart hp hs ha => exact ha
  | stopEnd hp => exact ⟨⟨_, rfl⟩, fun _ ↦ by rwa [State.Closes, hp] at h⟩
  | replyEnd hp ha => exact ⟨⟨_, rfl⟩, ha⟩
  | turnFailed hp ha =>
    rw [State.Closes, hp] at h
    exact ⟨_, h.1, ha, rfl, h.2⟩
  | turnPlain hp ha hc =>
    rw [State.Closes, hp] at h
    refine ⟨?_, _, h.1, ha⟩
    by_contra hs
    rw [failed_of_aborted (h.2 (by simpa using hs))] at ha
    cases ha
  | turnExceeded hp ha hc hk hb _ =>
    rw [State.Closes, hp] at h
    refine ⟨_, ⟨_, rfl⟩, hb, rfl, fun hs ↦ ?_⟩
    rw [failed_of_aborted (h.2 hs)] at ha
    cases ha
  | agentEnd hp =>
    rw [State.Closes, hp] at h
    exact fun hs ↦ absurd (h.1.symm.trans hs) Bool.false_ne_true
  | agentFailed hp =>
    rw [State.Closes, hp] at h
    obtain ⟨a, ha, -, -, hs⟩ := h
    exact fun ht ↦ ⟨rfl, rfl, a, ha, hs ht⟩
  | notAnswered hp hs => exact fun ht ↦ absurd (hs.symm.trans ht) Bool.false_ne_true
  | brokenOff hp hs => exact fun ht ↦ absurd (hs.symm.trans ht) Bool.false_ne_true
  | replyUpdate => exact h
  | update => exact h
  | lateUpdate => exact h
  | _ => trivial

theorem Reaches.closes (h : Reaches agent l s) : s.Closes := by
  induction h with
  | start => trivial
  | @silent l s t _ hs ih => cases hs <;> trivial
  | heard _ hi ih => exact State.closes_hear hi ih
  | said _ hm ih => exact hm.closes ih

/-- **A run of which it is known that it is to stop** ends with a reply that says so. -/
theorem Reaches.aborted_over (h : Reaches agent l s) (hover : s.phase.isOver = true)
    (hl : ∃ x ∈ l, TellsAbort x) :
    s.phase = .ended false false ∧ ∃ a, EndsWith s.history a ∧ a.stopReason = .aborted := by
  have hs := h.aborted_of_tellsAbort hl
  have hcloses := h.closes
  cases hp : s.phase with
  | ended inTurn b =>
    rw [State.Closes, hp] at hcloses
    obtain ⟨rfl, rfl, ha⟩ := hcloses hs
    exact ⟨rfl, ha⟩
  | _ => rw [hp] at hover; cases hover

/-! ## What was told -/

/-- The messages of which the end was told, the oldest one first. -/
def told : Log → List Message
  | [] => []
  | .said (.event (.messageEnd m)) :: l => told l ++ [m]
  | _ :: l => told l

/-- The messages are the ones that were told, but the last one may have become a reply that failed,
with the same content. -/
def Retold (history told : List Message) : Prop :=
  history = told ∨ ∃ l a b, told = l ++ [.assistant a] ∧ history = l ++ [.assistant b] ∧
    b.content = a.content ∧ a.failed = false ∧ b.failed = true

/-- The messages of the run, and those that were told. -/
def State.Tells (s : State) (told : List Message) : Prop :=
  match s.phase with
  | .closing _ | .ended _ _ => Retold s.history told
  | .written a => s.history = told ∧ EndsWith s.history a
  | _ => s.history = told

theorem Reaches.tells (h : Reaches agent l s) : s.Tells (told l) := by
  induction h with
  | start => rfl
  | @silent l s t _ hs ih => cases hs <;> simp_all [State.Tells]
  | @heard l s i _ _ ih =>
    change (s.hear i).Tells (told l)
    obtain ⟨p, ab, heq, rfl | ⟨_, _, _, _, hp, rfl⟩ | ⟨-, hp, rfl⟩⟩ := s.hear_cases i
    · rw [heq]
      exact ih
    · simpa only [heq, State.Tells, hp] using ih
    · rcases hp with hp | hp <;> simpa only [heq, State.Tells, hp] using ih
  | @said l s t e _ hm ih =>
    cases hm with
    | turnExceeded hp ha hc hk hb hcontent =>
      rw [State.Tells, hp] at ih
      obtain ⟨htold, k, hk⟩ := ih
      refine .inr ⟨k, _, _, ?_, ?_, hcontent, ha, hb⟩
      · exact htold.symm.trans hk
      · rw [hk, List.dropLast_concat]
    | turnFailed hp => exact .inl (by simp_all [State.Tells, told])
    | agentEnd hp => exact .inl (by simp_all [State.Tells, told])
    | notAnswered hp => exact .inl (by simp_all [State.Tells, told])
    | brokenOff hp => exact .inl (by simp_all [State.Tells, told])
    | _ => simp_all [State.Tells, told, EndsWith]

/-! ## Brackets -/

/-- In the stream that was opened last a reply has begun. -/
def begun : Log → Bool
  | [] => false
  | .said (.stream _) :: _ => false
  | .heard (.item (.start _)) :: _ => true
  | _ :: l => begun l

/-- No stream begins a second reply. -/
def Orderly : Log → Prop
  | [] => True
  | .heard (.item (.start _)) :: l => begun l = false ∧ Orderly l
  | _ :: l => Orderly l

/-- What is open: how many turns have ended, whether one has begun, and whether a message has. -/
structure Nesting where
  turns : ℕ
  inTurn : Bool
  inMessage : Bool
  deriving DecidableEq

/-- What an event opens and closes, if it may come.  Turns are numbered, messages do not lie in one
another, updates lie in messages, and the execution of tools lies in a turn and not in a message. -/
def AgentEvent.nest : AgentEvent → Nesting → Option Nesting
  | .turnStart _ i, n =>
    if i = n.turns ∧ n.inTurn = false ∧ n.inMessage = false then some { n with inTurn := true }
    else none
  | .turnEnd _ i _ _, n =>
    if i = n.turns ∧ n.inTurn = true ∧ n.inMessage = false then some ⟨n.turns + 1, false, false⟩
    else none
  | .messageStart _, n => if n.inMessage then none else some { n with inMessage := true }
  | .messageUpdate _ _, n => if n.inMessage then some n else none
  | .messageEnd _, n => if n.inMessage then some { n with inMessage := false } else none
  | .toolExecutionStart _ _ _, n | .toolExecutionUpdate _ _ _ _, n
  | .toolExecutionEnd _ _ _ _, n => if n.inTurn && !n.inMessage then some n else none
  | .agentStart _, n | .agentEnd _ _ _, n => some n

/-- What is open after what was said. -/
def nesting : Log → Option Nesting
  | [] => some ⟨0, false, false⟩
  | .said (.event e) :: l => (nesting l).bind e.nest
  | _ :: l => nesting l

/-- The start of a message was told and its end was not. -/
def Phase.inMessage : Phase → Bool
  | .given _ _ | .stopping _ | .writing _ | .telling _ _ _ _ => true
  | .ended _ unfinished => unfinished
  | _ => false

/-- The start of a turn was told and its end was not. -/
def Phase.inTurn : Phase → Bool
  | .idle | .begun | .pause _ | .given _ false | .closing _ => false
  | .ended inTurn _ => inTurn
  | _ => true

/-- What is open, in the protocol. -/
def State.nesting (s : State) : Nesting := ⟨s.turns, s.phase.inTurn, s.phase.inMessage⟩

/-- The provider has begun a reply, where it matters. -/
def Phase.Begun (p : Phase) (b : Bool) : Prop :=
  match p with
  | .started | .writing true => b = true
  | _ => True

theorem Move.nests {e : Effect} (hm : Move agent s e t) (hl : nesting l = some s.nesting)
    (hb : s.phase.Begun (begun l)) :
    nesting (.said e :: l) = some t.nesting ∧ t.phase.Begun (begun (.said e :: l)) := by
  cases hm <;>
    simp_all [State.nesting, Phase.Begun, begun, nesting, AgentEvent.nest, Phase.inMessage,
      Phase.inTurn]

/-- **The events of a run lie in one another as they should**, if no stream begins a second
reply. -/
theorem Reaches.nests (h : Reaches agent l s) (ho : Orderly l) :
    nesting l = some s.nesting ∧ s.phase.Begun (begun l) := by
  induction h with
  | start => exact ⟨rfl, trivial⟩
  | @silent l s t _ hs ih =>
    obtain ⟨hl, hb⟩ := ih ho
    refine ⟨hl.trans ?_, ?_⟩
    · cases hs <;> simp_all [State.nesting, Phase.inMessage, Phase.inTurn]
    · cases hs <;> trivial
  | said _ hm ih =>
    obtain ⟨hl, hb⟩ := ih ho
    exact hm.nests hl hb
  | @heard l s i _ _ ih =>
    by_cases hi : ∃ a, i = .item (.start a)
    · obtain ⟨a, rfl⟩ := hi
      obtain ⟨hbegun, ho⟩ := ho
      obtain ⟨hl, hb⟩ := ih ho
      rw [hbegun] at hb
      have hphase : (s.phase = .asked ∧ s.hear (.item (.start a)) = { s with phase := .started }) ∨
          s.hear (.item (.start a)) = s := by
        obtain ⟨phase, _⟩ := s
        cases phase with
        | asked => exact .inl ⟨rfl, rfl⟩
        | writing begun =>
          cases begun with
          | true => cases hb
          | false => exact .inr rfl
        | _ => exact .inr rfl
      obtain ⟨hp, heq⟩ | heq := hphase
      · rw [heq]
        refine ⟨hl.trans ?_, rfl⟩
        simp [State.nesting, hp, Phase.inMessage, Phase.inTurn]
      · rw [heq]
        refine ⟨hl, ?_⟩
        have hcons : begun (.heard (.item (.start a)) :: l) = true := rfl
        rw [hcons]
        cases hp : s.phase with
        | writing b => cases b <;> first | rfl | trivial
        | _ => first | rfl | trivial
    · obtain ⟨hcons, hbegun, ho⟩ : nesting (.heard i :: l) = nesting l ∧
          begun (.heard i :: l) = begun l ∧ Orderly l := by
        cases i with
        | item e =>
          cases e with
          | start a => exact absurd ⟨a, rfl⟩ hi
          | _ => exact ⟨rfl, rfl, ho⟩
        | _ => exact ⟨rfl, rfl, ho⟩
      rw [hcons, hbegun]
      obtain ⟨hl, hb⟩ := ih ho
      obtain ⟨p, ab, heq, rfl | ⟨_, _, _, _, hp, rfl⟩ | ⟨hstart, -⟩⟩ := s.hear_cases i
      · rw [heq]
        exact ⟨hl, hb⟩
      · rw [heq]
        refine ⟨hl.trans ?_, trivial⟩
        simp [State.nesting, hp, Phase.inMessage, Phase.inTurn]
      · exact absurd hstart hi

end WorkWithMe.Pi
