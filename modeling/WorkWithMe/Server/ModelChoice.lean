import WorkWithMe.Server.Hub

/-!
# When a model change takes effect

`POST /api/model` writes `session_model`, and `create_pi_session` is the only reader of it.  So the
model a prompt runs on was chosen when the handle in the table was created, by the first prompt of
the session or by its `new_chat`; and of the two endpoints that change what a session runs with,
only `POST /api/project` drops that handle.

Here the calls come one after the other, and a history of them is a list with the latest first.

* `exec_openSchedule` connects the calls with the interleaved ones of `WorkWithMe.Server.Hub`: what
  they compute is what the steps of a prompt that nothing comes between compute.
* `resolveModel_stateAfter` and `openedAt_stateAfter` say what a history leaves in the
  tables: the most recent choice, and a handle created with the choice of that time.
* `promptHandle_createdWith_iff` says exactly which prompts run on the model that was chosen last.
* `not_promptHandle_createdWith` is a prompt that does not.
-/

set_option autoImplicit false

namespace WorkWithMe.Server

/-! ## The calls -/

/-- One call of the API, with what the environment contributes to it: the UUIDs, and whether
`create_agent_session` and the saving of the session succeed. -/
inductive ApiCall where
  /-- A `new_chat` message. -/
  | newChat (msg : WsMessage) (uuid : Uuid) (created : Bool)
  /-- A `prompt` message. -/
  | prompt (msg : WsMessage) (uuid : Uuid) (created : Bool)
  /-- `POST /api/project`, with the id it saved the session under, if it did. -/
  | setProject (saved : Option SessionId) (cwd : String)
  /-- `POST /api/model`. -/
  | setModel (req : SetModelRequest)

section Calls

variable (authToken : String → Option String)

/-- `create_pi_session`. -/
def createPiSession (app : AppState) (c : CallId) (s : SessionId) (cwd : String)
    (created : Bool) : AppState × Option PiSessionHandle :=
  if created then
    let h : PiSessionHandle := ⟨c, sessionOptions authToken app s cwd⟩
    ({ app with sessionHandles := Function.update app.sessionHandles s (some h) }, some h)
  else (app, none)

/-- `handle_prompt` up to its handle. -/
def openPrompt (app : AppState) (c : CallId) (s : SessionId) (created : Bool) :
    AppState × Option PiSessionHandle :=
  match app.sessionHandles s with
  | some h => (app, some h)
  | none => createPiSession authToken app c s ((app.sessionCwd s).getD "") created

/-- `handle_new_chat`. -/
def openNewChat (app : AppState) (c : CallId) (s : SessionId) (cwd : String) (created : Bool) :
    AppState × Option PiSessionHandle :=
  createPiSession authToken
    { app with sessionCwd := Function.update app.sessionCwd s (some cwd) } c s cwd created

/-- One call. -/
def applyCall (app : AppState) (c : CallId) : ApiCall → AppState
  | .newChat msg uuid created => (openNewChat authToken app c uuid.text msg.cwd created).1
  | .prompt msg uuid created =>
    if msg.userText = "" then app
    else (openPrompt authToken app c (promptSession msg uuid) created).1
  | .setProject (some s) cwd => setProjectTables app s cwd
  | .setProject none _ => app
  | .setModel req => (setModel req app).2

/-- The tables after a history of calls. -/
def stateAfter : List ApiCall → AppState
  | [] => .new
  | call :: cs => applyCall authToken (stateAfter cs) cs.length call

/-- The handle that a prompt of the session runs on after a history. -/
def promptHandle (cs : List ApiCall) (s : SessionId) (created : Bool) : Option PiSessionHandle :=
  (openPrompt authToken (stateAfter authToken cs) cs.length s created).2

end Calls

/-! ## The calls are runs of steps that nothing comes between -/

section Connection

variable {Event : Type} {authToken : String → Option String}
  {toWs : Event → SessionId → Option Json}

/-- A step that leaves the call on the way to its handle. -/
theorem step_pending {hub : Hub Event} {c : CallId} {k : Call Event} {o o' : Opening}
    {a : OpenAction} {app : AppState} (hk : hub.calls c = some k) (hp : k.phase = .opening o)
    (ho : openStep authToken hub.app c k.session o a = some (app, .pending o')) :
    ∃ hub', step authToken toWs hub (.opening c a) = some hub' ∧ hub'.app = app ∧
      hub'.calls c = some { k with phase := .opening o' } :=
  ⟨{ hub with app := app }.serve c { k with phase := .opening o' },
    by simp [step, hk, hp, Phase.isOpening, ho, Call.opened], rfl, Function.update_self ..⟩

/-- A step that gives a prompt its handle. -/
theorem step_handle {hub : Hub Event} {c : CallId} {k : Call Event} {o : Opening} {a : OpenAction}
    {app : AppState} {h : PiSessionHandle} {text : String} (hk : hub.calls c = some k)
    (hp : k.phase = .opening o) (hreq : k.request = .prompt text)
    (ho : openStep authToken hub.app c k.session o a = some (app, .handle h)) :
    ∃ hub', step authToken toWs hub (.opening c a) = some hub' ∧ hub'.app = app ∧
      hub'.calls c = some (k.goto h .insertAbort) :=
  ⟨{ hub with app := app }.serve c (k.goto h .insertAbort),
    by simp [step, hk, hp, Phase.isOpening, ho, Call.opened, hreq], rfl, Function.update_self ..⟩

/-- The steps of a prompt up to its handle. -/
def openSchedule (cached : Option PiSessionHandle) (c : CallId) : List (Action Event) :=
  match cached with
  | some _ => [.opening c .lookup]
  | none => [.opening c .lookup, .opening c .readCwd, .opening c .readModel, .opening c .created,
      .opening c .store]

/-- **A prompt that nothing comes between opens as `openPrompt` says.** -/
theorem exec_openSchedule {hub : Hub Event} {c : CallId} {k : Call Event} {text : String}
    (hk : hub.calls c = some k) (hp : k.phase = .opening .lookup)
    (hreq : k.request = .prompt text) :
    ∃ hub' k' h, Machine.exec (step authToken toWs) hub
        (openSchedule (hub.app.sessionHandles k.session) c) = some hub' ∧
      openPrompt authToken hub.app c k.session true = (hub'.app, some h) ∧
      hub'.calls c = some k' ∧ k'.phase = .running h .insertAbort := by
  cases hcached : hub.app.sessionHandles k.session with
  | some h =>
    have hfound : openStep authToken hub.app c k.session .lookup .lookup =
        some (hub.app, .handle h) := by rw [openStep, hcached]
    obtain ⟨hub1, h1, happ, hk1⟩ := step_handle hk hp hreq hfound
    refine ⟨hub1, _, h, Machine.exec_cons_eq_some.mpr ⟨hub1, h1, rfl⟩, ?_, hk1, rfl⟩
    simp [openPrompt, hcached, happ]
  | none =>
    have hmissing : openStep authToken hub.app c k.session .lookup .lookup =
        some (hub.app, .pending .readCwd) := by rw [openStep, hcached]
    obtain ⟨hub1, h1, happ1, hk1⟩ := step_pending hk hp hmissing
    obtain ⟨hub2, h2, happ2, hk2⟩ := step_pending hk1 rfl (a := .readCwd) rfl
    obtain ⟨hub3, h3, happ3, hk3⟩ := step_pending hk2 rfl (a := .readModel) rfl
    obtain ⟨hub4, h4, happ4, hk4⟩ := step_pending hk3 rfl (a := .created) rfl
    obtain ⟨hub5, h5, happ5, hk5⟩ := step_handle hk4 rfl hreq (a := .store) rfl
    rw [happ4, happ3, happ2, happ1] at happ5
    rw [happ2, happ1] at hk5
    refine ⟨hub5, _, _, ?_, ?_, hk5, rfl⟩
    · simp only [openSchedule, Machine.exec_cons_eq_some, Machine.exec_nil]
      exact ⟨hub1, h1, hub2, h2, hub3, h3, hub4, h4, hub5, h5, rfl⟩
    · simp [openPrompt, createPiSession, hcached, happ5]

end Connection

/-! ## What a history chooses, and what it opens -/

/-- The model that was last set under a key. -/
def lastChoice (key : SessionId) : List ApiCall → Option (String × String)
  | [] => none
  | .setModel req :: cs =>
    if req.key = key then some (req.provider, req.modelId) else lastChoice key cs
  | _ :: cs => lastChoice key cs

/-- The model that was most recently chosen for a session: its own, else the global one. -/
def mostRecentChoice (s : SessionId) (cs : List ApiCall) : Option (String × String) :=
  (lastChoice s cs).or (lastChoice "__global__" cs)

/-- The history at the end of which the handle of a session was opened that is now in the table:
`new_chat` opens one, a prompt opens one if there is none, and `set_project` drops it. -/
def openedWith (s : SessionId) : List ApiCall → Option (List ApiCall)
  | [] => none
  | .newChat _ uuid created :: cs =>
    if uuid.text = s ∧ created = true then some cs else openedWith s cs
  | .prompt msg uuid created :: cs =>
    if msg.userText ≠ "" ∧ promptSession msg uuid = s then
      (openedWith s cs).or (if created then some cs else none)
    else openedWith s cs
  | .setProject saved _ :: cs => if saved = some s then none else openedWith s cs
  | .setModel _ :: cs => openedWith s cs

/-- The pi session of the handle was created with this model. -/
def PiSessionHandle.CreatedWith (h : PiSessionHandle) (choice : Option (String × String)) : Prop :=
  h.options.provider = choice.map Prod.fst ∧ h.options.model = choice.map Prod.snd

theorem PiSessionHandle.CreatedWith.unique {h : PiSessionHandle}
    {choice choice' : Option (String × String)} (h1 : h.CreatedWith choice)
    (h2 : h.CreatedWith choice') : choice = choice' := by
  obtain ⟨hp1, hm1⟩ := h1
  obtain ⟨hp2, hm2⟩ := h2
  rw [hp1] at hp2
  rw [hm1] at hm2
  cases choice <;> cases choice' <;> simp_all [Prod.ext_iff]

section History

variable {authToken : String → Option String}

theorem createPiSession_sessionModel (app : AppState) (c : CallId) (s : SessionId) (cwd : String)
    (created : Bool) : (createPiSession authToken app c s cwd created).1.sessionModel =
      app.sessionModel := by
  rw [createPiSession]
  split <;> rfl

theorem openPrompt_sessionModel (app : AppState) (c : CallId) (s : SessionId) (created : Bool) :
    (openPrompt authToken app c s created).1.sessionModel = app.sessionModel := by
  rw [openPrompt]
  split
  · rfl
  · exact createPiSession_sessionModel ..

/-- **The table of models after a history.** -/
theorem sessionModel_stateAfter (key : SessionId) (cs : List ApiCall) :
    (stateAfter authToken cs).sessionModel key = lastChoice key cs := by
  induction cs with
  | nil => rfl
  | cons call cs ih =>
    rw [stateAfter]
    cases call with
    | newChat msg uuid created =>
      rw [applyCall, openNewChat, createPiSession_sessionModel]
      exact ih
    | prompt msg uuid created =>
      rw [applyCall]
      split
      · exact ih
      · rw [openPrompt_sessionModel]
        exact ih
    | setProject saved cwd =>
      cases saved with
      | none => exact ih
      | some s => exact ih
    | setModel req =>
      rw [lastChoice]
      show Function.update _ req.key _ key = _
      by_cases hk : req.key = key
      · subst hk
        rw [Function.update_self, if_pos rfl]
      · rw [Function.update_of_ne (Ne.symm hk), if_neg hk]
        exact ih

variable (authToken) in
/-- The model that `create_pi_session` finds is the one that was most recently chosen. -/
theorem resolveModel_stateAfter (s : SessionId) (cs : List ApiCall) :
    resolveModel (stateAfter authToken cs) s = mostRecentChoice s cs := by
  rw [resolveModel, sessionModel_stateAfter, sessionModel_stateAfter, mostRecentChoice]

/-- A pi session that is created at the end of a history is created with the model that applies
then. -/
theorem createdWith_mostRecentChoice {app : AppState} {c : CallId} {s : SessionId} {cwd : String}
    {cs : List ApiCall} (happ : app.sessionModel = (stateAfter authToken cs).sessionModel) :
    (PiSessionHandle.mk c (sessionOptions authToken app s cwd)).CreatedWith
      (mostRecentChoice s cs) := by
  have hres : resolveModel app s = mostRecentChoice s cs := by
    rw [← resolveModel_stateAfter authToken, resolveModel, happ, resolveModel]
  rw [← hres]
  exact ⟨rfl, rfl⟩

/-- What the table holds for a session after a history, in terms of when it was opened. -/
def OpenedAt (s : SessionId) (cached : Option PiSessionHandle) (opened : Option (List ApiCall)) :
    Prop :=
  match cached, opened with
  | none, none => True
  | some h, some pre => h.CreatedWith (mostRecentChoice s pre)
  | _, _ => False

/-- A prompt of another session leaves the entry of this one alone. -/
theorem openPrompt_sessionHandles_of_ne {app : AppState} {c : CallId} {s s' : SessionId}
    (hs : s' ≠ s) (created : Bool) :
    (openPrompt authToken app c s' created).1.sessionHandles s = app.sessionHandles s := by
  rw [openPrompt]
  split
  · rfl
  · rw [createPiSession]
    split
    · exact Function.update_of_ne (Ne.symm hs) ..
    · rfl

/-- A prompt of the session opens it, if it was not open. -/
theorem OpenedAt.prompt {s : SessionId} {cs : List ApiCall}
    (h : OpenedAt s ((stateAfter authToken cs).sessionHandles s) (openedWith s cs))
    (created : Bool) :
    OpenedAt s
      ((openPrompt authToken (stateAfter authToken cs) cs.length s created).1.sessionHandles s)
      ((openedWith s cs).or (if created then some cs else none)) := by
  rw [openPrompt]
  cases hcached : (stateAfter authToken cs).sessionHandles s with
  | some hd =>
    rw [hcached] at h
    cases hopen : openedWith s cs with
    | none => simp [hopen, OpenedAt] at h
    | some pre => simpa [hopen, hcached] using h
  | none =>
    rw [hcached] at h
    cases hopen : openedWith s cs with
    | some pre => simp [hopen, OpenedAt] at h
    | none =>
      rw [createPiSession]
      cases created with
      | false => simpa [hopen, hcached] using h
      | true =>
        simp only [if_true, Function.update_self]
        exact createdWith_mostRecentChoice rfl

variable (authToken) in
/-- **The table of handles after a history.** -/
theorem openedAt_stateAfter (s : SessionId) (cs : List ApiCall) :
    OpenedAt s ((stateAfter authToken cs).sessionHandles s) (openedWith s cs) := by
  induction cs with
  | nil => trivial
  | cons call cs ih =>
    cases call with
    | newChat msg uuid created =>
      rw [stateAfter, applyCall, openNewChat, createPiSession, openedWith]
      cases created with
      | false => simpa using ih
      | true =>
        by_cases hs : uuid.text = s
        · subst hs
          simp only [and_self, if_true, Function.update_self]
          exact createdWith_mostRecentChoice rfl
        · simpa [hs, Function.update_of_ne (Ne.symm hs)] using ih
    | prompt msg uuid created =>
      rw [stateAfter, applyCall, openedWith]
      by_cases ht : msg.userText = ""
      · simpa [ht] using ih
      · rw [if_neg ht]
        by_cases hs : promptSession msg uuid = s
        · rw [if_pos ⟨ht, hs⟩, hs]
          exact ih.prompt created
        · rw [if_neg fun h ↦ hs h.2, openPrompt_sessionHandles_of_ne hs]
          exact ih
    | setProject saved cwd =>
      rw [openedWith]
      cases saved with
      | none => simpa [stateAfter, applyCall] using ih
      | some s' =>
        by_cases hs : s' = s
        · subst hs
          simp [stateAfter, applyCall, setProjectTables, OpenedAt]
        · simpa [stateAfter, applyCall, setProjectTables, hs,
            Function.update_of_ne (Ne.symm hs)] using ih
    | setModel req => exact ih

/-! ## Which prompts run on the model that was chosen last -/

/-- **When a model change takes effect.**  A prompt runs on a pi session created with the model that
was most recently chosen for its session if and only if that is also the model that was chosen when
the handle in the table, if there is one, was opened. -/
theorem promptHandle_createdWith_iff (cs : List ApiCall) (s : SessionId) (created : Bool)
    (h : PiSessionHandle) (hh : promptHandle authToken cs s created = some h) :
    h.CreatedWith (mostRecentChoice s cs) ↔
      ∀ pre, openedWith s cs = some pre → mostRecentChoice s pre = mostRecentChoice s cs := by
  have hopened := openedAt_stateAfter authToken s cs
  rw [promptHandle, openPrompt] at hh
  cases hcached : (stateAfter authToken cs).sessionHandles s with
  | some h' =>
    rw [hcached] at hh hopened
    obtain rfl : h' = h := Option.some.inj hh
    cases hopen : openedWith s cs with
    | none => simp [hopen, OpenedAt] at hopened
    | some pre =>
      rw [hopen] at hopened
      constructor
      · intro hc pre' hpre'
        obtain rfl := Option.some.inj hpre'
        exact PiSessionHandle.CreatedWith.unique hopened hc
      · exact fun hall ↦ hall pre rfl ▸ hopened
  | none =>
    rw [hcached] at hh hopened
    cases hopen : openedWith s cs with
    | some pre => simp [hopen, OpenedAt] at hopened
    | none =>
      refine iff_of_true ?_ fun pre hpre ↦ by cases hpre
      cases created with
      | true =>
        obtain rfl := Option.some.inj hh
        exact createdWith_mostRecentChoice rfl
      | false => cases hh

/-- The choice of a model for one session. -/
def exampleChoice : SetModelRequest := ⟨"openai", "gpt-5", some "s"⟩

/-- A first prompt after the choice runs on the model that was chosen. -/
theorem promptHandle_createdWith_iff_example :
    ∃ h, promptHandle (fun _ ↦ none) [.setModel exampleChoice] "s" true = some h ∧
      (h.CreatedWith (mostRecentChoice "s" [.setModel exampleChoice]) ↔
        ∀ pre, openedWith "s" [.setModel exampleChoice] = some pre →
          mostRecentChoice "s" pre = mostRecentChoice "s" [.setModel exampleChoice]) :=
  ⟨_, rfl, promptHandle_createdWith_iff _ "s" true _ rfl⟩

/-- **A model change in the middle of a session has no effect.**  The first prompt opens the handle,
the model is changed, and the next prompt runs on the old one. -/
theorem not_promptHandle_createdWith :
    ¬ ∀ (cs : List ApiCall) (s : SessionId) (created : Bool) (h : PiSessionHandle),
      promptHandle (fun _ ↦ none) cs s created = some h →
        h.CreatedWith (mostRecentChoice s cs) := by
  intro hall
  have hc := hall [.setModel exampleChoice, .prompt exampleMessage exampleUuid true] "s" true _ rfl
  exact absurd hc.2 (by decide)

end History

end WorkWithMe.Server
