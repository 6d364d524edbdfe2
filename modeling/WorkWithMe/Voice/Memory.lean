import WorkWithMe.Client.Messages
import WorkWithMe.Lib.Machine
import WorkWithMe.Voice.Db

/-!
# The window for voice memories

`VoiceMemoryWindow.tsx` shows a list of sessions and the details of one of them.  The list is read
again when the window is mounted, when a transcription is complete, and a third of a second after
the last edit of the query; the details are read when a session is selected.  What is read comes
later, in any order.  The answer to a search is dropped if another search has been sent since then;
the other two kinds of answers are taken as they come.

A run is any sequence of edits, reloads, selections and answers, with the timer of the query in
between.

* `Right` is that the list is the answer to the query, and the details those of the session that is
  selected.  It need not be so when nothing is under way any more: `not_right_of_quiet`.
* `Coming` is the invariant of the runs in which it is: what is not right yet will be.
* **`right_of_guarded`** says in which runs what is shown is right once nothing is under way.
-/

set_option autoImplicit false

namespace WorkWithMe.Voice.Memory

open Client

/-! ## The window -/

/-- The details of a session. -/
structure MeetingDetail where
  /-- The session. -/
  session : VoiceSession
  /-- What was said. -/
  segments : List TranscriptSegment
  /-- The notes. -/
  notes : Option SessionNotes
  deriving DecidableEq

/-- What the back end answers, from a database that stays as it is. -/
structure Backend where
  /-- `meeting_list`. -/
  meetingList : List VoiceSession
  /-- `meeting_search`. -/
  meetingSearch : String → List VoiceSession
  /-- `meeting_get`. -/
  meetingGet : String → MeetingDetail

/-- What is shown of a session. -/
inductive DetailTab where
  | summary
  | transcript
  | notes
  deriving DecidableEq

/-- The window, and what it waits for. -/
structure Window where
  /-- The list. -/
  sessions : List VoiceSession
  /-- The list is being read. -/
  loading : Bool
  /-- The query, as it is typed. -/
  query : String
  /-- The session that is selected. -/
  selectedSession : Option VoiceSession
  /-- The details. -/
  detail : Option MeetingDetail
  /-- The details are being read. -/
  detailLoading : Bool
  /-- The tab of the details. -/
  activeTab : DetailTab
  /-- `debounceRef`: a timer is set, for the query. -/
  debounce : Bool
  /-- `searchGenRef`. -/
  searchGen : ℕ
  /-- The calls of `meeting_list` that have not been answered. -/
  lists : ℕ
  /-- Those of `meeting_search`, each with the number it was given. -/
  searches : List (ℕ × String)
  /-- Those of `meeting_get`. -/
  gets : List String
  deriving DecidableEq

/-- What it answers to a query. -/
def Backend.answer (b : Backend) (query : String) : List VoiceSession :=
  if trim query = "" then b.meetingList else b.meetingSearch (trim query)

namespace Window

/-- The window is mounted: the list is being read, and the timer is set. -/
def init : Window where
  sessions := []
  loading := true
  query := ""
  selectedSession := none
  detail := none
  detailLoading := false
  activeTab := .summary
  debounce := true
  searchGen := 0
  lists := 1
  searches := []
  gets := []

/-- What may happen. -/
inductive Action where
  /-- The query is edited. -/
  | setQuery (query : String)
  /-- The timer fires. -/
  | timeout
  /-- `meeting-transcription-complete` arrives. -/
  | transcriptionComplete
  /-- A session of the list is clicked. -/
  | handleSelectSession (session : VoiceSession)
  /-- A tab is clicked. -/
  | setActiveTab (tab : DetailTab)
  /-- A call of `meeting_list` is answered. -/
  | listed
  /-- A call of `meeting_search` is answered. -/
  | found (gen : ℕ) (query : String)
  /-- A call of `meeting_get` is answered. -/
  | got (sessionId : String)

/-- `loadSessions`, up to its call. -/
def loadSessions (w : Window) : Window := { w with loading := true, lists := w.lists + 1 }

/-- What the timer does. -/
def search (w : Window) : Window :=
  if trim w.query ≠ "" then
    { w with
      searchGen := w.searchGen + 1
      searches := w.searches ++ [(w.searchGen + 1, trim w.query)] }
  else w.loadSessions

/-- One thing after another. -/
def step (b : Backend) (w : Window) : Action → Option Window
  | .setQuery query => some (if query = w.query then w else { w with query, debounce := true })
  | .timeout => if w.debounce then some { w with debounce := false }.search else none
  | .transcriptionComplete => some w.loadSessions
  | .handleSelectSession session =>
    if session ∈ w.sessions ∧ w.loading = false then
      some { w with
        selectedSession := some session
        activeTab := .summary
        detailLoading := true
        gets := w.gets ++ [session.id] }
    else none
  | .setActiveTab tab => some { w with activeTab := tab }
  | .listed =>
    if 0 < w.lists then
      some { w with sessions := b.meetingList, loading := false, lists := w.lists - 1 }
    else none
  | .found gen query =>
    if (gen, query) ∈ w.searches then
      some { w with
        sessions := if gen = w.searchGen then b.meetingSearch query else w.sessions
        searches := w.searches.erase (gen, query) }
    else none
  | .got sessionId =>
    if sessionId ∈ w.gets then
      some { w with
        detail := some (b.meetingGet sessionId)
        detailLoading := false
        gets := w.gets.erase sessionId }
    else none

/-! ## The law -/

/-- **What is shown is right.** -/
structure Right (b : Backend) (w : Window) : Prop where
  /-- The list is the answer to the query. -/
  sessions : w.sessions = b.answer w.query
  /-- The details are those of the session that is selected. -/
  detail : ∀ session, w.selectedSession = some session →
    w.detail = some (b.meetingGet session.id)

/-- Nothing is under way. -/
structure Quiet (w : Window) : Prop where
  /-- The timer is not set. -/
  debounce : w.debounce = false
  /-- No call of `meeting_list` is under way. -/
  lists : w.lists = 0
  /-- No call of `meeting_search`. -/
  searches : w.searches = []
  /-- No call of `meeting_get`. -/
  gets : w.gets = []

/-- The answer to the query is under way, or its timer is set. -/
def Awaited (w : Window) : Prop :=
  w.debounce = true ∨
    if trim w.query = "" then 0 < w.lists else (w.searchGen, trim w.query) ∈ w.searches

/-- **What may be done**: an answer that is not for the query as it is now, or not for the session
that is selected, comes where the right one is under way. -/
def Allowed (w : Window) : Action → Prop
  | .listed => trim w.query ≠ "" → w.Awaited
  | .found gen _ => gen = w.searchGen → trim w.query = "" → w.Awaited
  | .got sessionId => ∀ session, w.selectedSession = some session →
      session.id = sessionId ∨ session.id ∈ w.gets.erase sessionId
  | _ => True

/-! ## The invariant -/

/-- **What is not right will be.** -/
structure Coming (b : Backend) (w : Window) : Prop where
  /-- The list is right, or the answer is under way. -/
  sessions : w.sessions = b.answer w.query ∨ w.Awaited
  /-- So are the details. -/
  detail : ∀ session, w.selectedSession = some session →
    w.detail = some (b.meetingGet session.id) ∨ session.id ∈ w.gets
  /-- The searches have been numbered. -/
  numbered : ∀ p ∈ w.searches, p.1 ≤ w.searchGen
  /-- The last one is for the query, unless that is blank or its timer is set. -/
  last : w.debounce = false → trim w.query ≠ "" →
    ∀ p ∈ w.searches, p.1 = w.searchGen → p.2 = trim w.query

section Step

variable {b : Backend} {w v : Window} {a : Action}

theorem coming_init (b : Backend) : Coming b init where
  sessions := .inr (.inl rfl)
  detail _ h := by cases h
  numbered _ h := by cases h
  last h := by cases h

theorem Coming.right (h : Coming b w) (hquiet : Quiet w) : Right b w := by
  constructor
  · refine h.sessions.resolve_right fun hawaited ↦ ?_
    rcases hawaited with hdebounce | hcall
    · rw [hquiet.debounce] at hdebounce
      cases hdebounce
    · rw [hquiet.lists, hquiet.searches] at hcall
      split at hcall <;> cases hcall
  · intro session hsession
    refine (h.detail session hsession).resolve_right fun hget ↦ ?_
    rw [hquiet.gets] at hget
    cases hget

/-- A call of `meeting_list` more. -/
theorem Awaited.loadSessions (h : w.Awaited) : w.loadSessions.Awaited := by
  refine h.imp_right fun hcall ↦ ?_
  by_cases hblank : trim w.query = ""
  · rw [if_pos hblank] at hcall
    exact (if_pos hblank).mpr (Nat.succ_pos _)
  · rw [if_neg hblank] at hcall
    exact (if_neg hblank).mpr hcall

theorem Coming.loadSessions (h : Coming b w) : Coming b w.loadSessions where
  sessions := h.sessions.imp_right Awaited.loadSessions
  detail := h.detail
  numbered := h.numbered
  last := h.last

/-- The timer fires: the answer to the query is under way then. -/
theorem Coming.timeout (h : Coming b w) : Coming b { w with debounce := false }.search := by
  rw [search]
  by_cases hblank : trim w.query = ""
  · rw [if_neg (not_not_intro hblank)]
    exact ⟨.inr (.inr ((if_pos hblank).mpr (Nat.succ_pos _))), h.detail, h.numbered,
      fun _ hne ↦ absurd hblank hne⟩
  · rw [if_pos hblank]
    refine ⟨.inr (.inr ?_), h.detail, fun p hp ↦ ?_, fun _ _ p hp hgen ↦ ?_⟩
    · exact (if_neg hblank).mpr (List.mem_append_right _ List.mem_cons_self)
    · rcases List.mem_append.mp hp with hp | hp
      · exact (h.numbered p hp).trans (Nat.le_succ _)
      · rw [List.mem_singleton.mp hp]
    · rcases List.mem_append.mp hp with hp | hp
      · have hle := h.numbered p hp
        have hgen : p.1 = w.searchGen + 1 := hgen
        omega
      · rw [List.mem_singleton.mp hp]

/-- The full list arrives. -/
theorem Coming.listed (h : Coming b w) (hallowed : Allowed w .listed) :
    Coming b { w with sessions := b.meetingList, loading := false, lists := w.lists - 1 } := by
  refine ⟨?_, h.detail, h.numbered, h.last⟩
  by_cases hblank : trim w.query = ""
  · exact .inl (if_pos hblank).symm
  · refine .inr ((hallowed hblank).imp_right fun hcall ↦ ?_)
    rw [if_neg hblank] at hcall
    exact (if_neg hblank).mpr hcall

/-- What a search has found arrives. -/
theorem Coming.found (h : Coming b w) {gen : ℕ} {query : String}
    (hcall : (gen, query) ∈ w.searches) (hallowed : Allowed w (.found gen query)) :
    Coming b { w with
      sessions := if gen = w.searchGen then b.meetingSearch query else w.sessions
      searches := w.searches.erase (gen, query) } := by
  refine ⟨?_, h.detail, fun p hp ↦ h.numbered p (List.mem_of_mem_erase hp),
    fun hd hne p hp ↦ h.last hd hne p (List.mem_of_mem_erase hp)⟩
  -- one that is awaited otherwise is so still
  have hkept : w.Awaited → (trim w.query = "" ∨ gen ≠ w.searchGen) →
      Awaited { w with
        sessions := if gen = w.searchGen then b.meetingSearch query else w.sessions
        searches := w.searches.erase (gen, query) } := by
    intro hawaited hother
    refine hawaited.imp_right fun hcall ↦ ?_
    by_cases hblank : trim w.query = ""
    · rw [if_pos hblank] at hcall
      exact (if_pos hblank).mpr hcall
    · rw [if_neg hblank] at hcall
      refine (if_neg hblank).mpr ((List.mem_erase_of_ne fun heq ↦ ?_).mpr hcall)
      exact hother.resolve_left hblank (Prod.mk.inj heq).1.symm
  by_cases hgen : gen = w.searchGen
  · by_cases hblank : trim w.query = ""
    · exact .inr (hkept (hallowed hgen hblank) (.inl hblank))
    · cases hdebounce : w.debounce with
      | true => exact .inr (.inl rfl)
      | false =>
        -- it is the search for the query
        have hquery : query = trim w.query := h.last hdebounce hblank _ hcall hgen
        refine .inl ?_
        dsimp only
        rw [if_pos hgen, Backend.answer, if_neg hblank, hquery]
  · refine h.sessions.imp (fun hsame ↦ ?_) fun hawaited ↦ hkept hawaited (.inr hgen)
    dsimp only
    rw [if_neg hgen, hsame]

/-- **One step**: what is not right will be, after each step that may be taken. -/
theorem Coming.step (h : Coming b w) (hallowed : Allowed w a) (hstep : step b w a = some v) :
    Coming b v := by
  cases a with
  | setQuery query =>
    obtain rfl := Option.some.inj hstep
    split
    · exact h
    · exact ⟨.inr (.inl rfl), h.detail, h.numbered, fun hd ↦ by cases hd⟩
  | timeout =>
    rw [Window.step, Option.ite_none_right_eq_some, Option.some_inj] at hstep
    obtain ⟨-, rfl⟩ := hstep
    exact h.timeout
  | transcriptionComplete =>
    obtain rfl := Option.some.inj hstep
    exact h.loadSessions
  | handleSelectSession session =>
    rw [Window.step, Option.ite_none_right_eq_some, Option.some_inj] at hstep
    obtain ⟨-, rfl⟩ := hstep
    refine ⟨h.sessions, fun selected hselected ↦ ?_, h.numbered, h.last⟩
    obtain rfl := Option.some.inj hselected
    exact .inr (List.mem_append_right _ List.mem_cons_self)
  | setActiveTab tab =>
    obtain rfl := Option.some.inj hstep
    exact ⟨h.sessions, h.detail, h.numbered, h.last⟩
  | listed =>
    rw [Window.step, Option.ite_none_right_eq_some, Option.some_inj] at hstep
    obtain ⟨-, rfl⟩ := hstep
    exact h.listed hallowed
  | found gen query =>
    rw [Window.step, Option.ite_none_right_eq_some, Option.some_inj] at hstep
    obtain ⟨hcall, rfl⟩ := hstep
    exact h.found hcall hallowed
  | got sessionId =>
    rw [Window.step, Option.ite_none_right_eq_some, Option.some_inj] at hstep
    obtain ⟨-, rfl⟩ := hstep
    refine ⟨h.sessions, fun session hsession ↦ ?_, h.numbered, h.last⟩
    refine (hallowed session hsession).imp_left fun hid ↦ ?_
    rw [hid]

end Step

/-! ## Runs -/

/-- **What is shown is right once nothing is under way**, all along a run in which every step is
allowed. -/
theorem right_of_guarded (b : Backend) (as : List Action)
    (hallowed : Machine.Guarded (step b) Allowed init as) :
    ∀ pre post w, as = pre ++ post → Machine.exec (step b) init pre = some w → Quiet w →
      Right b w := by
  rintro pre post w rfl hw hquiet
  exact (Machine.inv_of_guarded (fun _ _ _ h hG ↦ h.step hG) (coming_init b)
    (Machine.guarded_append.mp hallowed).1 hw).right hquiet

/-! ## Two sessions -/

/-- A meeting. -/
def exampleSession (id : String) : VoiceSession :=
  ⟨id, "Meeting " ++ id, "meeting", "complete", 0, some 60000, some 60, 0⟩

/-- A database of two meetings, of which a search finds the first. -/
def exampleBackend : Backend where
  meetingList := [exampleSession "a", exampleSession "b"]
  meetingSearch _ := [exampleSession "a"]
  meetingGet id := ⟨exampleSession id, [], none⟩

/-- The window is mounted, and one session is selected after the other. -/
def twoSelections : List Action :=
  [.listed, .timeout, .listed, .handleSelectSession (exampleSession "a"),
    .handleSelectSession (exampleSession "b")]

theorem right_of_guarded_example :
    ∃ s, Machine.exec (step exampleBackend) init (twoSelections ++ [.got "a", .got "b"]) = some s ∧
      Right exampleBackend s := by
  obtain ⟨s, hrun, hquiet⟩ : ∃ s, Machine.exec (step exampleBackend) init
      (twoSelections ++ [.got "a", .got "b"]) = some s ∧ Quiet s :=
    ⟨_, rfl, rfl, rfl, rfl, rfl⟩
  have hallowed : Machine.Guarded (step exampleBackend) Allowed init
      (twoSelections ++ [.got "a", .got "b"]) := by
    refine .cons rfl (fun hne ↦ (hne rfl).elim) (.cons rfl trivial (.cons rfl
      (fun hne ↦ (hne rfl).elim) (.cons rfl trivial (.cons rfl trivial (.cons rfl ?_
        (.cons rfl ?_ trivial))))))
    · intro session hsession
      obtain rfl := Option.some.inj hsession
      exact .inr (by decide)
    · intro session hsession
      obtain rfl := Option.some.inj hsession
      exact .inl rfl
  exact ⟨s, hrun, right_of_guarded exampleBackend _ hallowed _ [] s
    (List.append_nil _).symm hrun hquiet⟩

/-- **The details of the first session arrive last**, and stay. -/
theorem not_right_of_quiet :
    ∃ s, Machine.exec (step exampleBackend) init (twoSelections ++ [.got "b", .got "a"]) = some s ∧
      Quiet s ∧ ¬ Right exampleBackend s := by
  refine ⟨_, rfl, ⟨rfl, rfl, rfl, rfl⟩, fun h ↦ ?_⟩
  have hdetail := h.detail (exampleSession "b") rfl
  exact absurd hdetail (by decide)

end Window

end WorkWithMe.Voice.Memory
