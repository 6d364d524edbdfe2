import WorkWithMe.Pi.Loop
import WorkWithMe.Pi.ProtocolLaws
import WorkWithMe.Pi.ReplyRules

/-!
# What most parts of a run have nothing to do with

Most of what a run says and hears is of no concern to somebody who follows only the messages that are
put in, or only what comes of the tools.  `Frame f` is that `f` is a matter of the rest: of the inputs
that are told, of the calls that are announced and reported, of what fetchers give and of what comes
of tools, and of the queue.  The parts of a run that deal with replies, with the end of a turn and
with the end of a run leave such an `f` as it is.
-/

set_option autoImplicit false

namespace WorkWithMe.Pi

open Dialog Prog

/-! ## What is of no concern -/

/-- The event tells no input, and neither announces nor reports a call. -/
def AgentEvent.isPlain : AgentEvent → Bool
  | .messageEnd m => !m.isInput
  | .toolExecutionStart _ _ _ | .toolExecutionEnd _ _ _ _ => false
  | _ => true

/-- The answer is from nobody who fetches messages or executes calls. -/
def Answer.isPlain : Answer → Bool
  | .flag _ | .opened _ | .abort | .item _ | .failed _ | .closed => true
  | _ => false

/-- The states have the same agent, but for its messages. -/
def Running.Alike (s t : Running) : Prop :=
  s.agent.messageQueue = t.agent.messageQueue ∧ s.agent.setup = t.agent.setup

/-- Only what is of concern can change `f`. -/
structure Frame {θ : Type} (f : Moment → θ) : Prop where
  event : ∀ w e, e.isPlain = true → f (w.say (.event e)) = f w
  call : ∀ w e, e.isCall = true → f (w.say e) = f w
  hear : ∀ w i s, i.isPlain = true → s.Alike w.state → f (w.hear i s) = f w
  change : ∀ w g, (g w.state).Alike w.state → f (w.change g) = f w

namespace Frame

variable {θ : Type} {f : Moment → θ}

theorem onEvent (hf : Frame f) {e : AgentEvent} (he : e.isPlain = true) :
    Keeps f (onEvent e) := keeps_say fun w ↦ hf.event w e he

theorem setState (hf : Frame f) {g : Running → Running} (hg : ∀ s, (g s).Alike s) :
    Keeps f (Prog.change g) := keeps_change fun w ↦ hf.change w g (hg w.state)

theorem isAborted (hf : Frame f) : Keeps f isAborted := by
  refine keeps_read_bind fun s ↦ ?_
  cases s.signal with
  | none => exact keeps_pure _
  | some seen =>
    refine keeps_ask fun w i b t hi ↦ ?_
    cases i with
    | flag b =>
      obtain ⟨-, hi⟩ := Option.ite_none_left_eq_some.mp hi
      cases hi
      exact hf.hear w _ _ rfl ⟨rfl, rfl⟩
    | _ => cases hi

/-! ## Ends -/

theorem endRun (hf : Frame f) (error : Option String) : Keeps f (endRun error) :=
  keeps_read_bind fun _ ↦ keeps_bind (hf.setState fun _ ↦ ⟨rfl, rfl⟩) fun _ ↦ hf.onEvent rfl

theorem endTurn (hf : Frame f) (n : ℕ) (a : AssistantMessage)
    (results : List ToolResultMessage) : Keeps f (endTurn n a results) :=
  keeps_read_bind fun _ ↦ hf.onEvent rfl

theorem stopRun (hf : Frame f) (n : ℕ) : Keeps f (stopRun n) :=
  keeps_read_bind fun _ ↦ keeps_bind (hf.setState fun _ ↦ ⟨rfl, rfl⟩) fun _ ↦
    keeps_bind (hf.onEvent rfl) fun _ ↦ keeps_bind (hf.onEvent rfl) fun _ ↦
      keeps_bind (hf.endTurn _ _ _) fun _ ↦ keeps_bind (hf.endRun _) fun _ ↦ keeps_pure _

theorem failRun (hf : Frame f) (n : ℕ) (a : AssistantMessage) : Keeps f (failRun n a) :=
  keeps_bind (hf.endTurn _ _ _) fun _ ↦ keeps_bind (hf.endRun _) fun _ ↦ keeps_pure _

theorem alike_renote_replaceReply (s : Running) (a : AssistantMessage) :
    ((s.replaceReply a).renote a).Alike s := by
  rw [Running.renote, Running.replaceReply]
  split <;> split <;> exact ⟨rfl, rfl⟩

theorem exceedRun (hf : Frame f) (n : ℕ) (a : AssistantMessage) : Keeps f (exceedRun n a) :=
  keeps_read_bind fun _ ↦ keeps_bind (hf.setState fun _ ↦ alike_renote_replaceReply _ _) fun _ ↦
    keeps_bind (hf.endTurn _ _ _) fun _ ↦ keeps_bind (hf.endRun _) fun _ ↦ keeps_pure _

theorem pushToolResult (hf : Frame f) (r : ToolResultMessage) : Keeps f (pushToolResult r) :=
  keeps_bind (hf.setState fun _ ↦ ⟨rfl, rfl⟩) fun _ ↦ keeps_bind (hf.onEvent rfl) fun _ ↦
    hf.onEvent rfl

/-! ## Replies -/

theorem finalizeAssistantMessage (hf : Frame f) (a : AssistantMessage) (added : Bool) :
    Keeps f (finalizeAssistantMessage a added) := by
  refine keeps_read_bind fun s ↦ keeps_bind (hf.setState fun _ ↦ ⟨rfl, rfl⟩) fun _ ↦
    keeps_ite (keeps_bind (hf.onEvent rfl) fun _ ↦ keeps_pure _) ?_
  exact keeps_bind (hf.onEvent rfl) fun _ ↦
    keeps_bind (hf.onEvent rfl) fun _ ↦ keeps_pure _

theorem onAbort (hf : Frame f) (st : StreamState) : Keeps f (onAbort st) := by
  refine keeps_read_bind fun s ↦ ?_
  refine keeps_ite (keeps_bind (hf.onEvent rfl) fun _ ↦ hf.finalizeAssistantMessage _ _) ?_
  exact keeps_bind (hf.onEvent rfl) fun _ ↦ keeps_bind (hf.setState fun _ ↦ ⟨rfl, rfl⟩) fun _ ↦
    keeps_bind (hf.onEvent rfl) fun _ ↦ hf.finalizeAssistantMessage _ _

theorem onClosed (hf : Frame f) (st : StreamState) : Keeps f (onClosed st) := by
  refine keeps_read_bind fun s ↦ ?_
  dsimp only
  generalize (if st.added then s.agent.lastReply else none) = last
  cases last with
  | some last => exact keeps_bind (hf.finalizeAssistantMessage _ _) fun _ ↦ keeps_pure _
  | none => exact keeps_pure _

theorem onStart (hf : Frame f) (st : StreamState) (a : AssistantMessage) : Keeps f (onStart st a) :=
  keeps_bind (hf.setState fun _ ↦ ⟨rfl, rfl⟩) fun _ ↦ keeps_bind (hf.onEvent rfl) fun _ ↦
    keeps_bind (hf.onEvent rfl) fun _ ↦ keeps_pure _

theorem onPiece (hf : Frame f) (st : StreamState) (e : StreamEvent) : Keeps f (onPiece st e) := by
  refine keeps_read_bind fun s ↦ ?_
  split
  · exact keeps_pure _
  · refine keeps_bind (hf.setState fun _ ↦ ⟨rfl, rfl⟩) fun _ ↦
      keeps_ite (keeps_bind (hf.onEvent rfl) fun _ ↦ keeps_pure _) ?_
    exact keeps_bind (hf.onEvent rfl) fun _ ↦ keeps_bind (hf.onEvent rfl) fun _ ↦
      keeps_pure _

theorem poll (hf : Frame f) : Keeps f poll := by
  refine keeps_ask fun w i o t hi ↦ ?_
  split at hi <;> cases hi <;> exact hf.hear _ _ _ rfl ⟨rfl, rfl⟩

theorem streamRound (hf : Frame f) (st : StreamState) : Keeps f (streamRound st) := by
  refine keeps_bind hf.poll fun o ↦ ?_
  split
  · exact keeps_bind (hf.onAbort st) fun _ ↦ keeps_pure _
  · exact keeps_pure _
  · exact keeps_bind (hf.onClosed st) fun _ ↦ keeps_pure _
  · exact keeps_bind (hf.finalizeAssistantMessage _ _) fun _ ↦ keeps_pure _
  · exact keeps_bind (hf.finalizeAssistantMessage _ _) fun _ ↦ keeps_pure _
  · exact keeps_bind (hf.onStart st _) fun _ ↦ keeps_pure _
  · exact keeps_bind (hf.onPiece st _) fun _ ↦ keeps_pure _

theorem streamAssistantResponse (hf : Frame f) : Keeps f streamAssistantResponse := by
  refine keeps_bind ?_ fun error ↦ ?_
  · refine keeps_read_bind fun s ↦ keeps_bind (keeps_say fun w ↦ hf.call w _ rfl) fun _ ↦
      keeps_ask fun w i o t hi ↦ ?_
    cases i with
    | opened error =>
      cases hi
      exact hf.hear _ _ _ rfl ⟨rfl, rfl⟩
    | _ => cases hi
  · cases error with
    | some error => exact keeps_pure _
    | none => exact keeps_loop hf.streamRound _

end Frame

end WorkWithMe.Pi
