import WorkWithMe.Client.Transcript

/-!
# What becomes of the input when a message cannot be sent

`onSubmit` of `MessageInput.tsx` hands the text and the attachments to `handleSubmit` of
`ChatContext.tsx` and then clears them, and `handleSubmit` hands a message to `wsSend`, which sends
it if the socket is open.  Whether it is open and what `isConnected` says need not be the same: a
socket that is closing is not open any more, and `onclose` comes later.

* `Kept` is that nothing is lost: the transcript is as it was, an error is shown, and the input is
  still there.
* `chat_onSubmit_prompt`: a prompt that is not sent is taken out of the transcript again.
* `chat_onSubmit_steer`: a steering input that is not sent stays there, and no error is shown.
* **`failedSendKept_iff`**: the input is lost whenever a message cannot be sent.
-/

set_option autoImplicit false

namespace WorkWithMe.Client

/-! ## The composer -/

/-- `WebSocket.readyState`. -/
inductive ReadyState where
  | connecting
  | opened
  | closing
  | closed
  deriving DecidableEq

/-- The composer, with what it has from the contexts. -/
structure Composer where
  /-- The text. -/
  input : String
  /-- The attachments. -/
  attachments : List Image
  /-- The context of the chat. -/
  chat : Chat
  /-- What the context of the socket says. -/
  isConnected : Bool
  /-- `wsRef.current?.readyState`. -/
  socket : Option ReadyState

namespace Composer

/-- What `wsSend` answers. -/
def wsSend (s : Composer) : Bool := s.socket = some .opened

/-- There is nothing to be submitted. -/
def Nothing (s : Composer) : Prop := trim s.input = "" ∧ s.attachments = []

instance (s : Composer) : Decidable s.Nothing :=
  inferInstanceAs (Decidable (trim s.input = "" ∧ s.attachments = []))

/-- `onSubmit`. -/
def onSubmit (c : Clock) (s : Composer) : Composer :=
  if s.Nothing ∨ s.isConnected = false then s
  else
    { s with
      chat := s.chat.submit c s.input s.attachments s.wsSend
      input := ""
      attachments := [] }

/-- **Nothing is lost.** -/
structure Kept (s t : Composer) : Prop where
  /-- The transcript is as it was. -/
  messages : t.chat.messages = s.chat.messages
  /-- So is what is under way. -/
  isProcessing : t.chat.isProcessing = s.chat.isProcessing
  /-- An error is shown. -/
  chatError : t.chat.chatError ≠ none
  /-- The text is still there. -/
  input : t.input = s.input
  /-- So are the attachments. -/
  attachments : t.attachments = s.attachments

/-- **A failed send loses no input**: where `wsSend` is called and does not send. -/
def FailedSendKept (c : Clock) (s : Composer) : Prop :=
  ¬ s.Nothing → s.wsSend = false → Kept s (s.onSubmit c)

/-! ## What is lost -/

section Submit

variable {c : Clock} {s : Composer}

theorem onSubmit_of_not_nothing (hsome : ¬ s.Nothing) (hconnected : s.isConnected = true) :
    s.onSubmit c =
      { s with
        chat := s.chat.submit c s.input s.attachments s.wsSend
        input := ""
        attachments := [] } := by
  refine if_neg ?_
  rintro (hnothing | hclosed)
  · exact hsome hnothing
  · rw [hconnected] at hclosed
    cases hclosed

/-- **A prompt** that is not sent is taken out of the transcript again, and an error is shown. -/
theorem chat_onSubmit_prompt (hsome : ¬ s.Nothing) (hconnected : s.isConnected = true)
    (hidle : s.chat.isProcessing = false) (hfailed : s.wsSend = false)
    (hnew : ∀ m ∈ s.chat.messages, m.id ≠ userId c.now) : (s.onSubmit c).chat =
      { s.chat with chatError := some "Connection lost — please retry." } := by
  have hsubmit : handleSubmit false s.input s.attachments =
      some (.prompt (trim s.input) s.attachments) := if_neg hsome
  have hany : s.chat.messages.any (·.id = userId c.now) = false := by
    simpa using hnew
  have hmessages : (addPrompt c (displayContent (trim s.input) s.attachments.length)
      s.chat.messages).filter (·.id ≠ userId c.now) = s.chat.messages := by
    rw [addPrompt, hany, if_neg (by decide), List.filter_append, List.filter_eq_self.mpr]
    · simp
    · simpa using hnew
  rw [onSubmit_of_not_nothing hsome hconnected, hfailed]
  dsimp only [Chat.submit]
  rw [hidle, hsubmit]
  dsimp only
  rw [if_neg (by decide), hmessages, ← hidle]

/-- **A steering input** that is not sent stays in the transcript, and no error is shown. -/
theorem chat_onSubmit_steer (hsome : ¬ s.Nothing) (hconnected : s.isConnected = true)
    (hbusy : s.chat.isProcessing = true) : (s.onSubmit c).chat =
      { s.chat with isSteering := true, messages := addSteering c s.input s.chat.messages } := by
  have hsubmit : handleSubmit true s.input s.attachments = some (.steer s.input) :=
    (if_neg hsome).trans (if_pos rfl)
  rw [onSubmit_of_not_nothing hsome hconnected]
  dsimp only [Chat.submit]
  rw [hbusy, hsubmit]

/-- **The input is lost whenever there is something to be submitted.** -/
theorem not_kept (hsome : ¬ s.Nothing) (hconnected : s.isConnected = true) :
    ¬ Kept s (s.onSubmit c) := by
  intro h
  have hinput := h.input
  have hattachments := h.attachments
  rw [onSubmit_of_not_nothing hsome hconnected] at hinput hattachments
  have htrim : trim "" = "" := rfl
  exact hsome ⟨by rw [← hinput, htrim], hattachments.symm⟩

end Submit

/-- **A failed send loses no input** exactly where no send fails: the socket is open, or there is
nothing to be submitted. -/
theorem failedSendKept_iff (c : Clock) (s : Composer) (hconnected : s.isConnected = true) :
    FailedSendKept c s ↔ s.socket = some .opened ∨ trim s.input = "" ∧ s.attachments = [] := by
  constructor
  · intro h
    by_contra hnot
    rw [not_or] at hnot
    exact not_kept hnot.2 hconnected (h hnot.2 (decide_eq_false hnot.1))
  · rintro (hopened | hnothing) hsome hfailed
    · exact absurd hopened (of_decide_eq_false hfailed)
    · exact absurd hnothing hsome

/-- A prompt in the composer, while the socket is closing. -/
def exampleComposer (socket : ReadyState) : Composer where
  input := "hello"
  attachments := []
  chat := .init
  isConnected := true
  socket := some socket

theorem failedSendKept_iff_example : (exampleComposer .opened).isConnected = true ∧
    FailedSendKept ⟨0, 0⟩ (exampleComposer .opened) :=
  ⟨rfl, (failedSendKept_iff ⟨0, 0⟩ (exampleComposer .opened) rfl).mpr (.inl rfl)⟩

/-- **The socket is closing**: the prompt is lost. -/
theorem not_failedSendKept : (exampleComposer .closing).isConnected = true ∧
    ¬ FailedSendKept ⟨0, 0⟩ (exampleComposer .closing) :=
  ⟨rfl, fun h ↦ not_kept (by decide) rfl (h (by decide) rfl)⟩

end Composer

end WorkWithMe.Client
