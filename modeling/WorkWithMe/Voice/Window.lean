import Mathlib.Data.Int.Notation
import WorkWithMe.Client.Messages
import WorkWithMe.Lib.Machine

/-!
# The meeting window

`MeetingWindow.tsx` listens to five events of the back end, all of which name a session.  React
registers the listeners anew whenever the session of the window has changed, so a listener compares
an event with the session it was registered under, and it takes some time until the old ones are
gone.  Three of them let everything through that names no other session than theirs; under no
session that is everything.  The two for summaries compare nothing.

* `shown_handle` says what an event makes of what is shown, `OwnOnly` what it may make of it.
* `ownOnly_iff_guarded`: in which runs the window shows its own meeting only.
-/

set_option autoImplicit false

namespace WorkWithMe.MeetingWindow

open Machine

/-! ## What the window shows -/

/-- The `WindowState`. -/
inductive Stage where
  | idle
  | recording
  | processing
  | complete
  | error
  deriving DecidableEq

structure TranscriptSegment where
  text : String
  startMs : ℤ
  endMs : ℤ
  deriving DecidableEq

structure SummaryResult where
  summary : String
  actionItems : String
  decisions : String
  deriving DecidableEq

/-- What events may change. -/
structure Shown where
  state : Stage
  segments : List TranscriptSegment
  summary : Option SummaryResult
  summaryLoading : Bool
  error : Option String
  deriving DecidableEq

attribute [ext] Shown

/-! ## Events -/

/-- The names of the events. -/
inductive Topic where
  | transcriptSegment
  | transcriptionComplete
  | summaryReady
  | summaryError
  | transcriptionError
  deriving DecidableEq

/-- What an event brings, its session apart.  An error text may be missing. -/
inductive Payload where
  | transcriptSegment (segment : TranscriptSegment)
  | transcriptionComplete
  | summaryReady (result : SummaryResult)
  | summaryError (error : Option String)
  | transcriptionError (error : Option String)
  deriving DecidableEq

/-- The name of the event. -/
def Payload.topic : Payload → Topic
  | .transcriptSegment _ => .transcriptSegment
  | .transcriptionComplete => .transcriptionComplete
  | .summaryReady _ => .summaryReady
  | .summaryError _ => .summaryError
  | .transcriptionError _ => .transcriptionError

structure Event where
  sessionId : String
  payload : Payload
  deriving DecidableEq

/-- Whether a listener lets an event of the session `sid` through, if it was registered under the
session `captured`.  The empty string counts as no session. -/
def Topic.passes (captured : Option String) (sid : String) : Topic → Bool
  | .summaryReady | .summaryError => true
  | .transcriptSegment | .transcriptionComplete | .transcriptionError =>
    sid == "" || captured.getD "" == "" || captured == some sid

/-- What a listener does that lets it through. -/
def Payload.handle : Payload → Shown → Shown
  | .transcriptSegment segment, s => { s with segments := s.segments ++ [segment] }
  | .transcriptionComplete, s => { s with state := .complete }
  | .summaryReady result, s => { s with summary := some result, summaryLoading := false }
  | .summaryError error, s =>
    { s with error := some (error.getD "Summary failed"), summaryLoading := false }
  | .transcriptionError error, s =>
    { s with error := some (error.getD "Transcription failed"), state := .error }

/-! ## The window -/

structure Window where
  shown : Shown
  title : String
  sessionId : Option String
  /-- The sessions that the window has had, under which listeners may still be registered. -/
  sessions : List (Option String)
  /-- The listeners, and the sessions they were registered under. -/
  listeners : List (Topic × Option String)
  /-- How many calls of `meeting_start` have not returned. -/
  starting : ℕ
  /-- How many calls of `meeting_stop` have not returned. -/
  stopping : ℕ
  /-- How many calls of `meeting_generate_summary` have not returned. -/
  generating : ℕ
  deriving DecidableEq

namespace Window

/-- A window that was just opened. -/
def init : Window where
  shown := {
    state := .idle, segments := [], summary := none, summaryLoading := false, error := none }
  title := ""
  sessionId := none
  sessions := [none]
  listeners := []
  starting := 0
  stopping := 0
  generating := 0

inductive Action where
  | event (e : Event)
  /-- A listener is registered. -/
  | listen (topic : Topic) (captured : Option String)
  /-- A listener is taken away. -/
  | unlisten (topic : Topic) (captured : Option String)
  | typeTitle (title : String)
  /-- `handleStart`, up to the call of `meeting_start`. -/
  | handleStart
  /-- The rest of it, with the session or the error. -/
  | started (result : Except String String)
  /-- `handleStop`, up to the call of `meeting_stop`. -/
  | handleStop
  | stopped (result : Except String Unit)
  /-- `handleGenerateSummary`, up to the call of `meeting_generate_summary`. -/
  | handleGenerateSummary
  | generated (result : Except String Unit)
  | handleReset

variable (s : Window)

/-- The listeners that let the event through. -/
def heardBy (e : Event) : List (Topic × Option String) :=
  s.listeners.filter fun l ↦ l.1 = e.payload.topic ∧ l.1.passes l.2 e.sessionId = true

/-- An event, with one listener after the other. -/
def handle (e : Event) : Window :=
  { s with shown := (s.heardBy e).foldl (fun shown _ ↦ e.payload.handle shown) s.shown }

/-- `setSessionId`. -/
def setSessionId (sid : Option String) : Window :=
  { s with sessionId := sid, sessions := s.sessions ++ [sid] }

/-- The rest of `handleStart`. -/
def started : Except String String → Window
  | .ok sid =>
    { s.setSessionId (some sid) with
      shown := { s.shown with state := .recording, segments := [], summary := none }
      starting := s.starting - 1 }
  | .error e =>
    { s with shown := { s.shown with error := some e }, starting := s.starting - 1 }

/-- The rest of `handleStop`. -/
def stopped : Except String Unit → Window
  | .ok _ => { s with stopping := s.stopping - 1 }
  | .error e =>
    { s with
      shown := { s.shown with error := some e, state := .recording }
      stopping := s.stopping - 1 }

/-- The rest of `handleGenerateSummary`. -/
def generated : Except String Unit → Window
  | .ok _ => { s with generating := s.generating - 1 }
  | .error e =>
    { s with
      shown := { s.shown with error := some e, summaryLoading := false }
      generating := s.generating - 1 }

/-- One step. -/
def step (s : Window) : Action → Option Window
  | .event e => some (s.handle e)
  | .listen topic captured =>
    if captured ∈ s.sessions then
      some { s with listeners := s.listeners ++ [(topic, captured)] }
    else none
  | .unlisten topic captured =>
    some { s with listeners := s.listeners.erase (topic, captured) }
  | .typeTitle title => some { s with title := title }
  | .handleStart => some
    { s with
      shown := { s.shown with error := none }
      title := if Client.trim s.title = "" then "Untitled Meeting" else s.title
      starting := s.starting + 1 }
  | .started result => if 0 < s.starting then some (s.started result) else none
  | .handleStop => some
    { s with shown := { s.shown with state := .processing }, stopping := s.stopping + 1 }
  | .stopped result => if 0 < s.stopping then some (s.stopped result) else none
  | .handleGenerateSummary => some
    { s with
      shown := { s.shown with summaryLoading := true, error := none }
      generating := s.generating + 1 }
  | .generated result => if 0 < s.generating then some (s.generated result) else none
  | .handleReset => some
    { s.setSessionId none with
      shown := { s.shown with state := .idle, error := none, segments := [], summary := none } }

end Window

/-! ## What an event does -/

/-- Handling an event twice is handling it once, segments apart. -/
theorem Payload.handle_handle {p : Payload} (hp : p.topic ≠ .transcriptSegment) (s : Shown) :
    p.handle (p.handle s) = p.handle s := by
  cases p with
  | transcriptSegment segment => exact absurd rfl hp
  | _ => rfl

namespace Window

variable {s t : Window} {e : Event}

/-- The event reaches a listener that lets it through. -/
def Heard (s : Window) (e : Event) : Prop :=
  ∃ captured, (e.payload.topic, captured) ∈ s.listeners ∧
    e.payload.topic.passes captured e.sessionId = true

theorem heard_iff : s.Heard e ↔ s.heardBy e ≠ [] := by
  rw [ne_eq, List.eq_nil_iff_forall_not_mem, not_forall_not, Heard]
  constructor
  · rintro ⟨captured, hmem, hp⟩
    exact ⟨(e.payload.topic, captured), List.mem_filter.mpr ⟨hmem, by simpa using hp⟩⟩
  · rintro ⟨⟨topic, captured⟩, h⟩
    obtain ⟨hmem, hp⟩ := List.mem_filter.mp h
    obtain ⟨rfl, hp⟩ : topic = e.payload.topic ∧ topic.passes captured e.sessionId = true := by
      simpa using hp
    exact ⟨captured, hmem, hp⟩

/-- An event that nobody lets through. -/
theorem shown_handle_of_not_heard (h : ¬s.Heard e) : (s.handle e).shown = s.shown := by
  rw [heard_iff, ne_eq, not_not] at h
  rw [handle, h, List.foldl_nil]

/-- Segments are appended, once for each listener. -/
theorem segments_foldl (segment : TranscriptSegment) (l : List (Topic × Option String))
    (shown : Shown) :
    l.foldl (fun shown _ ↦ (Payload.transcriptSegment segment).handle shown) shown =
      { shown with segments := shown.segments ++ List.replicate l.length segment } := by
  induction l generalizing shown with
  | nil => simp
  | cons a l ih =>
    rw [List.foldl_cons, ih]
    simp [Payload.handle, List.replicate_succ]

/-- Any other event may as well have one listener. -/
theorem foldl_handle {p : Payload} (hp : p.topic ≠ .transcriptSegment)
    {l : List (Topic × Option String)} (hl : l ≠ []) (shown : Shown) :
    l.foldl (fun shown _ ↦ p.handle shown) shown = p.handle shown := by
  obtain ⟨a, l, rfl⟩ := List.exists_cons_of_ne_nil hl
  rw [List.foldl_cons]
  clear hl
  induction l generalizing shown with
  | nil => rfl
  | cons b l ih => rw [List.foldl_cons, Payload.handle_handle hp, ih]

/-- What is shown after an event that somebody lets through. -/
theorem shown_handle (h : s.Heard e) (hp : e.payload.topic ≠ .transcriptSegment) :
    (s.handle e).shown = e.payload.handle s.shown :=
  foldl_handle hp (heard_iff.mp h) s.shown

/-! ## Only its own meeting -/

/-- The step is as it should be: an event changes what is shown only if it is of the current
session, and a meeting becomes complete or an error only if it was being processed. -/
def OwnOnly (s : Window) (a : Action) (t : Window) : Prop :=
  (∀ e, a = .event e → t.shown ≠ s.shown → s.sessionId = some e.sessionId) ∧
    (t.shown.state = .complete ∨ t.shown.state = .error → t.shown.state ≠ s.shown.state →
      s.shown.state = .processing)

/-- The event brings nothing that is not shown already. -/
def AlreadyShown (s : Shown) : Payload → Prop
  | .transcriptSegment _ => False
  | .transcriptionComplete => s.state = .complete
  | .summaryReady result => s.summary = some result ∧ s.summaryLoading = false
  | .summaryError error =>
    s.error = some (error.getD "Summary failed") ∧ s.summaryLoading = false
  | .transcriptionError error =>
    s.error = some (error.getD "Transcription failed") ∧ s.state = .error

/-- The transcription is under way, or has already ended in this way. -/
def InTime (s : Shown) : Payload → Prop
  | .transcriptionComplete => s.state = .processing ∨ s.state = .complete
  | .transcriptionError _ => s.state = .processing ∨ s.state = .error
  | _ => True

/-- An event is let through only if it is of the current session and in time, or else brings
nothing new. -/
def Allowed (s : Window) : Action → Prop
  | .event e => s.Heard e → AlreadyShown s.shown e.payload ∨
      s.sessionId = some e.sessionId ∧ InTime s.shown e.payload
  | _ => True

theorem handle_eq_self_iff {p : Payload} {shown : Shown} :
    p.handle shown = shown ↔ AlreadyShown shown p := by
  obtain ⟨state, segments, summary, loading, error⟩ := shown
  cases p <;> simp [Payload.handle, AlreadyShown, eq_comm, and_comm]

theorem inTime_iff {p : Payload} {shown : Shown} :
    InTime shown p ↔ ((p.handle shown).state = .complete ∨ (p.handle shown).state = .error →
      (p.handle shown).state ≠ shown.state → shown.state = .processing) := by
  cases p with
  | transcriptionComplete => simp [Payload.handle, InTime, or_iff_not_imp_right, eq_comm]
  | transcriptionError error => simp [Payload.handle, InTime, or_iff_not_imp_right, eq_comm]
  | _ => simp [Payload.handle, InTime]

theorem AlreadyShown.inTime {p : Payload} {shown : Shown} (h : AlreadyShown shown p) :
    InTime shown p := by
  cases p with
  | transcriptionComplete => exact Or.inr h
  | transcriptionError error => exact Or.inr h.2
  | _ => trivial

/-- An event. -/
theorem ownOnly_handle : OwnOnly s (.event e) (s.handle e) ↔ Allowed s (.event e) := by
  have hown : OwnOnly s (.event e) (s.handle e) ↔
      ((s.handle e).shown ≠ s.shown → s.sessionId = some e.sessionId) ∧
        ((s.handle e).shown.state = .complete ∨ (s.handle e).shown.state = .error →
          (s.handle e).shown.state ≠ s.shown.state → s.shown.state = .processing) := by
    simp [OwnOnly]
  rw [hown, Allowed]
  by_cases hheard : s.Heard e
  · rw [imp_iff_right hheard]
    by_cases hp : e.payload.topic = .transcriptSegment
    · -- a segment is always something new
      obtain ⟨sid, p⟩ := e
      cases p with
      | transcriptSegment segment =>
        have hne : (s.heardBy ⟨sid, .transcriptSegment segment⟩).length ≠ 0 := by
          simpa using heard_iff.mp hheard
        simp [handle, segments_foldl, AlreadyShown, InTime, Shown.ext_iff, hne]
      | _ => cases hp
    · rw [shown_handle hheard hp, ne_eq, handle_eq_self_iff, ← inTime_iff]
      have htime : AlreadyShown s.shown e.payload → InTime s.shown e.payload :=
        AlreadyShown.inTime
      tauto
  · rw [shown_handle_of_not_heard hheard]
    simp [hheard]

/-- What is not an event does not complete a meeting, or fail it. -/
theorem state_step {a : Action} (ha : ∀ e, a ≠ .event e) (h : step s a = some t) :
    t.shown.state = s.shown.state ∨ t.shown.state ≠ .complete ∧ t.shown.state ≠ .error := by
  cases a with
  | event e => exact absurd rfl (ha e)
  | listen topic captured =>
    obtain ⟨-, h⟩ := Option.ite_none_right_eq_some.mp h
    cases h
    exact Or.inl rfl
  | started result =>
    obtain ⟨-, h⟩ := Option.ite_none_right_eq_some.mp h
    cases h
    cases result with
    | ok sid => exact Or.inr ⟨nofun, nofun⟩
    | error e => exact Or.inl rfl
  | stopped result =>
    obtain ⟨-, h⟩ := Option.ite_none_right_eq_some.mp h
    cases h
    cases result with
    | ok _ => exact Or.inl rfl
    | error e => exact Or.inr ⟨nofun, nofun⟩
  | generated result =>
    obtain ⟨-, h⟩ := Option.ite_none_right_eq_some.mp h
    cases h
    cases result with
    | ok _ => exact Or.inl rfl
    | error e => exact Or.inl rfl
  | handleStop | handleReset =>
    cases h
    exact Or.inr ⟨nofun, nofun⟩
  | unlisten | typeTitle | handleStart | handleGenerateSummary =>
    cases h
    exact Or.inl rfl

/-- **A step** is as it should be if and only if it is allowed. -/
theorem ownOnly_iff {a : Action} (h : step s a = some t) : OwnOnly s a t ↔ Allowed s a := by
  by_cases ha : ∃ e, a = .event e
  · obtain ⟨e, rfl⟩ := ha
    cases h
    exact ownOnly_handle
  · have ha : ∀ e, a ≠ .event e := not_exists.mp ha
    refine iff_of_true ⟨fun e he ↦ absurd he (ha e), fun hend hne ↦ ?_⟩ ?_
    · rcases state_step ha h with heq | ⟨hc, he⟩
      · exact absurd heq hne
      · exact absurd hend (not_or.mpr ⟨hc, he⟩)
    · cases a with
      | event e => exact absurd rfl (ha e)
      | _ => trivial

/-- **The window shows only its own meeting**, from when it was opened, if and only if every event
that is let through is of the session that the window has then and in time, or brings nothing
new. -/
theorem ownOnly_iff_guarded {as : List Action} (hrun : exec step init as = some t) :
    (∀ pre a post r r', as = pre ++ a :: post → exec step init pre = some r →
      step r a = some r' → OwnOnly r a r') ↔ Guarded step Allowed init as :=
  forall_steps_iff_guarded (G := Allowed) (P := OwnOnly) (fun _ _ _ h ↦ ownOnly_iff h) hrun

/-- A meeting is recorded and transcribed in a window that was opened for it. -/
def exampleMeeting : List Action :=
  [.handleStart, .started (.ok "m"), .listen .transcriptionComplete (some "m"), .handleStop,
    .stopped (.ok ()), .event ⟨"m", .transcriptionComplete⟩]

theorem ownOnly_iff_guarded_example :
    ∃ t, exec step init exampleMeeting = some t ∧ t.shown.state = .complete ∧
      ∀ pre a post r r', exampleMeeting = pre ++ a :: post → exec step init pre = some r →
        step r a = some r' → OwnOnly r a r' := by
  obtain ⟨t, hrun, hstate⟩ : ∃ t, exec step init exampleMeeting = some t ∧
      t.shown.state = .complete := ⟨_, rfl, rfl⟩
  refine ⟨t, hrun, hstate, (ownOnly_iff_guarded hrun).mpr ?_⟩
  refine .cons rfl trivial <| .cons rfl trivial <| .cons rfl trivial <| .cons rfl trivial <|
    .cons rfl trivial <| .cons rfl ?_ trivial
  exact fun _ ↦ Or.inr ⟨rfl, Or.inl rfl⟩

/-- **A window that was just opened shows the segments of an earlier meeting**, which is still being
transcribed. -/
theorem not_ownOnly_of_exec : ∃ r t,
    exec step init [.listen .transcriptSegment none] = some r ∧
      step r (.event ⟨"m", .transcriptSegment ⟨"Good morning", 0, 30000⟩⟩) = some t ∧
      ¬OwnOnly r (.event ⟨"m", .transcriptSegment ⟨"Good morning", 0, 30000⟩⟩) t := by
  refine ⟨_, _, rfl, rfl, fun h ↦ ?_⟩
  have hsid := h.1 _ rfl (by decide)
  cases hsid

end Window

end WorkWithMe.MeetingWindow
