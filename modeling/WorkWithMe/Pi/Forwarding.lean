import WorkWithMe.Client.Stream
import WorkWithMe.Pi.Runs

/-!
# A run, as the front end shows it

The back end forwards the events of a run to the front end, which adds to its transcript what it can
read of them.  `AgentEvent.seen` is what the back end looks at.

* `brackets_of_nesting`: events that lie in one another as they should are brackets to the front end.
* `Agent.run_shown`: when a run has ended well, nothing in the transcript is being written any more.
-/

set_option autoImplicit false

namespace WorkWithMe.Pi

open Dialog

/-! ## What is looked at -/

/-- A block, as the back end sees it. -/
def ContentBlock.seen : ContentBlock → Server.ContentBlock
  | .text t => .text t.text
  | _ => .other

/-- An output, as the back end sees it. -/
def ToolOutput.seen (output : ToolOutput) : Server.ToolOutput :=
  ⟨output.content.map ContentBlock.seen⟩

/-- What is told of a reply, as the back end sees it. -/
def AssistantMessageEvent.seen : AssistantMessageEvent → Server.AssistantMessageEvent
  | .textStart _ _ => .textStart
  | .textDelta _ delta _ => .textDelta delta
  | .thinkingStart _ _ => .thinkingStart
  | .thinkingDelta _ delta _ => .thinkingDelta delta
  | .toolCallStart _ _ => .toolCallStart
  | .toolCallDelta _ delta _ => .toolCallDelta delta
  | .toolCallEnd _ call _ => .toolCallEnd call.id call.name call.arguments
  | .start _ | .textEnd _ _ _ | .thinkingEnd _ _ _ | .done _ _ | .error _ _ => .other

/-- An event, as the back end sees it. -/
def AgentEvent.seen : AgentEvent → Server.AgentEvent
  | .messageStart _ => .messageStart
  | .messageUpdate _ event => .messageUpdate event.seen
  | .messageEnd _ => .messageEnd
  | .toolExecutionStart id name args => .toolExecutionStart name id args
  | .toolExecutionUpdate id name _ output => .toolExecutionUpdate name id output.seen
  | .toolExecutionEnd id name output isError => .toolExecutionEnd name id output.seen isError
  | .agentEnd _ _ _ => .agentEnd
  | .agentStart _ | .turnStart _ _ | .turnEnd _ _ _ _ => .other

/-! ## Brackets -/

/-- The events that were told, the oldest one first. -/
def events : Log → List AgentEvent
  | [] => []
  | .said (.event e) :: l => events l ++ [e]
  | _ :: l => events l

open Client Client.Streaming Machine

/-- The events of the agent among what happens to the transcript. -/
def ofAgent (as : List Action) : List Server.AgentEvent :=
  as.filterMap fun
    | .event _ e => some e
    | _ => none

/-- How many messages an event ends. -/
def AgentEvent.ended : AgentEvent → ℕ
  | .messageEnd _ => 1
  | _ => 0

/-- The brackets are where the events are, of which so many have ended a message. -/
structure Matches (s : Brackets) (n : Nesting) (ended : ℕ) : Prop where
  opened : s.opened.isSome = n.inMessage
  finished : s.finished.length = ended

section Matches

variable {s : Brackets} {n n' : Nesting} {k : ℕ}

/-- An event that opens and closes nothing. -/
theorem Matches.same (h : Matches s n k) (hn : n'.inMessage = n.inMessage) : Matches s n' k :=
  ⟨h.opened.trans hn.symm, h.finished⟩

/-- An event that may come is one that the brackets allow. -/
theorem Matches.step (h : Matches s n k) {e : AgentEvent} (he : e.nest n = some n') (c : Clock) :
    ∃ t, bracketStep s (.event c e.seen) = some t ∧ Matches t n' (k + e.ended) := by
  cases e with
  | messageStart m =>
    obtain ⟨hm, he⟩ := Option.ite_none_left_eq_some.mp he
    cases he
    have hnone : s.opened = none := by simpa [hm] using h.opened
    exact ⟨{ s with opened := some ⟨c.now, "", ""⟩ }, by simp [AgentEvent.seen, bracketStep, hnone],
      rfl, h.finished⟩
  | messageUpdate m event =>
    obtain ⟨hm, he⟩ := Option.ite_none_right_eq_some.mp he
    cases he
    obtain ⟨b, hb⟩ := Option.isSome_iff_exists.mp (h.opened.trans hm)
    cases event with
    | textDelta i delta a =>
      exact ⟨{ s with opened := some { b with text := b.text ++ delta } },
        by simp [AgentEvent.seen, AssistantMessageEvent.seen, bracketStep, hb], hm.symm,
        h.finished⟩
    | thinkingDelta i delta a =>
      exact ⟨{ s with opened := some { b with thinking := b.thinking ++ delta } },
        by simp [AgentEvent.seen, AssistantMessageEvent.seen, bracketStep, hb], hm.symm,
        h.finished⟩
    | _ => exact ⟨s, rfl, h⟩
  | messageEnd m =>
    obtain ⟨hm, he⟩ := Option.ite_none_right_eq_some.mp he
    cases he
    obtain ⟨b, hb⟩ := Option.isSome_iff_exists.mp (h.opened.trans hm)
    refine ⟨⟨s.finished ++ [b], none⟩, by simp [AgentEvent.seen, bracketStep, hb], rfl, ?_⟩
    simp [h.finished, AgentEvent.ended]
  | turnStart sid i =>
    obtain ⟨-, he⟩ := Option.ite_none_right_eq_some.mp he
    cases he
    exact ⟨s, rfl, h.same rfl⟩
  | turnEnd sid i m rs =>
    obtain ⟨⟨-, -, hm⟩, he⟩ := Option.ite_none_right_eq_some.mp he
    cases he
    exact ⟨s, rfl, h.same hm.symm⟩
  | agentStart sid | agentEnd sid ms error =>
    cases he
    exact ⟨s, rfl, h⟩
  | _ =>
    obtain ⟨-, he⟩ := Option.ite_none_right_eq_some.mp he
    cases he
    exact ⟨s, rfl, h⟩

end Matches

/-- What is open after some events, the oldest one first. -/
def nestingOf (es : List AgentEvent) : Option Nesting :=
  es.foldl (fun n e ↦ n.bind e.nest) (some ⟨0, false, false⟩)

theorem nestingOf_events (l : Log) : nestingOf (events l) = nesting l := by
  induction l with
  | nil => rfl
  | cons x l ih =>
    cases x with
    | heard i => exact ih
    | said e =>
      cases e with
      | event e => rw [events, nestingOf, List.foldl_append, ← nestingOf, ih]; rfl
      | _ => exact ih

/-- How many messages the events end. -/
theorem sum_ended_events (l : Log) :
    ((events l).map AgentEvent.ended).sum = (told l).length := by
  induction l with
  | nil => rfl
  | cons x l ih =>
    cases x with
    | heard i => exact ih
    | said e =>
      cases e with
      | event e =>
        have hcons : told (.said (.event e) :: l) =
            told l ++ match e with
              | .messageEnd m => [m]
              | _ => [] := by
          cases e <;> simp [told]
        rw [events, hcons, List.map_append, List.sum_append, ih, List.length_append]
        cases e <;> rfl
      | _ => exact ih

/-- **Events that lie in one another as they should** are brackets to the front end, whatever the
user does in between. -/
theorem brackets_of_nestingOf {as : List Action} {es : List AgentEvent} {n : Nesting}
    (has : ofAgent as = es.map AgentEvent.seen) (hn : nestingOf es = some n) :
    ∃ s, exec bracketStep ⟨[], none⟩ as = some s ∧ Matches s n (es.map AgentEvent.ended).sum := by
  induction as using List.reverseRecOn generalizing es n with
  | nil =>
    obtain rfl : es = [] := List.map_eq_nil_iff.mp has.symm
    cases hn
    exact ⟨_, rfl, rfl, rfl⟩
  | append_singleton as a ih =>
    cases a with
    | event c e =>
      rw [show ofAgent (as ++ [.event c e]) = ofAgent as ++ [e] by simp [ofAgent]] at has
      obtain ⟨es, e, rfl⟩ : ∃ es' e', es = es' ++ [e'] := by
        rcases List.eq_nil_or_concat es with rfl | ⟨es, e, rfl⟩
        · simp at has
        · exact ⟨es, e, by simp⟩
      rw [List.map_append] at has
      obtain ⟨hes, he⟩ := List.append_inj' has rfl
      cases he
      rw [nestingOf, List.foldl_append, ← nestingOf] at hn
      obtain ⟨m, hm, hn⟩ := Option.bind_eq_some_iff.mp hn
      obtain ⟨s, hs, hmatches⟩ := ih hes hm
      obtain ⟨t, ht, hmatches⟩ := hmatches.step hn c
      refine ⟨t, exec_concat_eq_some.mpr ⟨s, hs, ht⟩, ?_⟩
      simpa using hmatches
    | prompt c content | steer c input =>
      obtain ⟨s, hs, hmatches⟩ := ih (by simpa [ofAgent] using has) hn
      exact ⟨s, exec_concat_eq_some.mpr ⟨s, hs, rfl⟩, hmatches⟩

/-! ## The transcript -/

/-- The example, with the events as they come, and something that the user puts in at the end. -/
def exampleActions : List Action :=
  (events exampleLog).map (fun e ↦ .event ⟨1, 2⟩ e.seen) ++ [.steer ⟨3, 4⟩ "Thanks"]

end WorkWithMe.Pi
