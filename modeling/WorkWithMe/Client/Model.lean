import WorkWithMe.Client.Transcript
import WorkWithMe.Lib.Machine
import WorkWithMe.Server.Call

/-!
# The model that is selected

`UIContext.tsx` shows one model, whatever the session is; the server has one for each session, in
`session_model`, and one for the sessions without.  A choice is sent to the server with the id of
the session it was made in, and is shown when the server has answered.  The list of models is asked
for again in every session, but the model that comes with it is shown only if there is none yet.

A request is on its way, or is answered, for as long as it likes.  It may also fail.  Of the
messages there are those that the server answers with a new session, which are the new chats and the
prompts that are sent without a session.

* `resolved` is the model with which `create_pi_session` would create the session.
  `resolved_setModel_of_concerns` and `resolved_setModel_of_not_concerns` say what a choice does to
  it.
* `OnItsWay` says that something will correct what is shown, `Allowed` which steps may be taken.
* `right_selectedModel_of_guarded`: the runs in which the model that is shown is the one that is
  used.
-/

set_option autoImplicit false

namespace WorkWithMe.Client.ModelSelection

open Server Machine

/-! ## The front end and the server -/

structure Model where
  id : String
  provider : String
  deriving DecidableEq

/-- The model as the server stores it. -/
def Model.override (m : Model) : String × String := (m.provider, m.id)

/-- A request that `handleModelChange` has sent; `served` says whether the server has done it. -/
structure ModelRequest where
  model : Model
  sessionId : Option SessionId
  served : Bool
  deriving DecidableEq

/-- Its body. -/
def ModelRequest.body (request : ModelRequest) : SetModelRequest :=
  ⟨request.model.provider, request.model.id, request.sessionId⟩

/-- The answer to a request for the list of models. -/
structure ModelList where
  models : List Model
  currentModel : Option Model

structure State where
  selectedModel : Option Model
  currentSessionId : Option SessionId
  /-- A model has been chosen. -/
  chosen : Bool
  app : AppState
  /-- The requests that set a model. -/
  posts : List ModelRequest
  /-- How many requests for the list of models have not been answered. -/
  gets : ℕ
  /-- How many messages are on their way to which the server answers with a new session. -/
  chats : ℕ
  /-- How many requests to load a session have not been answered. -/
  loads : ℕ

/-- Both when they start. -/
def init : State where
  selectedModel := none
  currentSessionId := none
  chosen := false
  app := .new
  posts := []
  gets := 1
  chats := 0
  loads := 0

inductive Action where
  /-- `handleModelChange`, up to the request. -/
  | handleModelChange (model : Model)
  /-- The server sets the model. -/
  | setModel (request : ModelRequest)
  /-- The rest of `handleModelChange`. -/
  | changed (request : ModelRequest)
  /-- The request has failed, and the server does no more for it. -/
  | changeFails (request : ModelRequest)
  /-- The rest of `fetchModels`. -/
  | fetched (answer : ModelList)
  /-- The request has failed. -/
  | fetchFails
  | newChat
  | prompt
  /-- The server has made a session with the id `u`, and its answer arrives. -/
  | chatCleared (u : Uuid)
  /-- It has made none, or the message or the answer is lost. -/
  | chatFails
  /-- `loadSession`, up to the request. -/
  | loadSession
  /-- The rest of it. -/
  | loaded (result : Except String LoadedSession)

section Steps

variable (s : State)

/-- `setCurrentSessionId`, with the effect that calls `fetchModels` if the session is another
one. -/
def State.setCurrentSessionId (sid : Option SessionId) : State :=
  if sid = s.currentSessionId then s
  else { s with currentSessionId := sid, gets := s.gets + 1 }

/-- `set_model`. -/
def State.setModel (request : ModelRequest) : State :=
  { s with
    app := (Server.setModel request.body s.app).2
    posts := s.posts.erase request ++ [{ request with served := true }] }

/-- The rest of `fetchModels`. -/
def State.fetched (answer : ModelList) : State :=
  { s with
    gets := s.gets - 1
    selectedModel := s.selectedModel.or (answer.currentModel.or answer.models.head?) }

/-- The rest of `loadSession`. -/
def State.loaded : Except String LoadedSession → State
  | .ok data =>
    if data.success then
      State.setCurrentSessionId { s with loads := s.loads - 1 } data.sessionId
    else { s with loads := s.loads - 1 }
  | .error _ => { s with loads := s.loads - 1 }

/-- No session has this id. -/
def State.Unused (u : Uuid) : Prop :=
  s.app.sessionModel u.text = none ∧ s.currentSessionId ≠ some u.text

instance (u : Uuid) : Decidable (s.Unused u) := inferInstanceAs (Decidable (_ ∧ _))

end Steps

/-- One step. -/
def step (s : State) : Action → Option State
  | .handleModelChange model =>
    some { s with chosen := true, posts := s.posts ++ [⟨model, s.currentSessionId, false⟩] }
  | .setModel request =>
    if request ∈ s.posts ∧ request.served = false then some (s.setModel request) else none
  | .changed request =>
    if request ∈ s.posts ∧ request.served = true then
      some { s with posts := s.posts.erase request, selectedModel := some request.model }
    else none
  | .changeFails request =>
    if request ∈ s.posts then some { s with posts := s.posts.erase request } else none
  | .fetched answer => if 0 < s.gets then some (s.fetched answer) else none
  | .fetchFails => if 0 < s.gets then some { s with gets := s.gets - 1 } else none
  | .newChat => some { s with chats := s.chats + 1 }
  | .prompt =>
    some (if s.currentSessionId.getD "" = "" then { s with chats := s.chats + 1 } else s)
  | .chatCleared u =>
    if 0 < s.chats ∧ s.Unused u then
      some (State.setCurrentSessionId { s with chats := s.chats - 1 } (some u.text))
    else none
  | .chatFails => if 0 < s.chats then some { s with chats := s.chats - 1 } else none
  | .loadSession => some { s with loads := s.loads + 1 }
  | .loaded result => if 0 < s.loads then some (s.loaded result) else none

/-! ## What is shown and what is used -/

section Resolved

-- the provider and the model of a pi session that is created without a choice
variable (default : String × String)

/-- The provider and the model with which `create_pi_session` would create a session; without an id
it is a new one. -/
def resolved (app : AppState) (sid : Option SessionId) : String × String :=
  ((sid.bind app.sessionModel).or (app.sessionModel "__global__")).getD default

/-- A choice that is stored under `key` is one for this session. -/
def Concerns (app : AppState) (sid : Option SessionId) (key : SessionId) : Prop :=
  sid = some key ∨ (key = "__global__" ∧ sid.bind app.sessionModel = none)

instance (app : AppState) (sid : Option SessionId) (key : SessionId) :
    Decidable (Concerns app sid key) := inferInstanceAs (Decidable (_ ∨ _))

/-- The table after a choice. -/
theorem sessionModel_setModel (req : SetModelRequest) (app : AppState) :
    (setModel req app).2.sessionModel =
      Function.update app.sessionModel req.key (some (req.provider, req.modelId)) := rfl

/-- A session's own entry after a choice that is stored under another key. -/
theorem bind_sessionModel_setModel {req : SetModelRequest} {sid : Option SessionId}
    (h : sid ≠ some req.key) (app : AppState) :
    sid.bind (setModel req app).2.sessionModel = sid.bind app.sessionModel := by
  cases sid with
  | none => rfl
  | some sid =>
    rw [Option.bind_some, Option.bind_some, sessionModel_setModel, Function.update_of_ne]
    exact fun heq ↦ h (congrArg some heq)

/-- A choice for the session is the model that is used. -/
theorem resolved_setModel_of_concerns {req : SetModelRequest} {app : AppState}
    {sid : Option SessionId} (h : Concerns app sid req.key) :
    resolved default (setModel req app).2 sid = (req.provider, req.modelId) := by
  have hself : (setModel req app).2.sessionModel req.key = some (req.provider, req.modelId) := by
    rw [sessionModel_setModel, Function.update_self]
  by_cases hsid : sid = some req.key
  · rw [resolved, hsid, Option.bind_some, hself, Option.some_or, Option.getD_some]
  · obtain ⟨hkey, hnone⟩ := h.resolve_left hsid
    rw [resolved, bind_sessionModel_setModel hsid, hnone, Option.none_or, ← hkey, hself,
      Option.getD_some]

/-- Another choice leaves the model that is used. -/
theorem resolved_setModel_of_not_concerns {req : SetModelRequest} {app : AppState}
    {sid : Option SessionId} (h : ¬Concerns app sid req.key) :
    resolved default (setModel req app).2 sid = resolved default app sid := by
  obtain ⟨hsid, hglobal⟩ := not_or.mp h
  rw [resolved, resolved, bind_sessionModel_setModel hsid]
  cases hentry : sid.bind app.sessionModel with
  | some m => rfl
  | none =>
    -- the entry for the sessions without one of their own is another one
    have hkey : "__global__" ≠ req.key := fun heq ↦ hglobal ⟨heq.symm, hentry⟩
    rw [sessionModel_setModel, Function.update_of_ne hkey]

end Resolved

/-! ## What is shown and what should be -/

variable {default : String × String} {s t : State} {a : Action} {as : List Action}

section Correct

variable (default : String × String) (s : State)

/-- The model with which the pi session of the current session would be created. -/
def used : String × String := resolved default s.app s.currentSessionId

/-- The model that is shown is that one. -/
def Right : Prop := s.selectedModel.map Model.override = some (used default s)

instance : Decidable (Right default s) := inferInstanceAs (Decidable (_ = _))

/-- Something will correct what is shown. -/
inductive OnItsWay : Prop
  /-- A choice for the current session. -/
  | posted {request : ModelRequest} (hpost : request ∈ s.posts) (hserved : request.served = false)
      (hconcerns : Concerns s.app s.currentSessionId request.body.key)
  /-- The answer to one that is the model that is used. -/
  | set {request : ModelRequest} (hpost : request ∈ s.posts) (hserved : request.served = true)
      (hused : request.model.override = used default s)
  /-- A list of models, of which one will be shown if there is none. -/
  | fetching (hnone : s.selectedModel = none) (hgets : 0 < s.gets)
  /-- A new session, -/
  | chatting (hchats : 0 < s.chats)
  /-- or one that is being loaded. -/
  | loading (hloads : 0 < s.loads)

/-- After the first choice, what is shown is right, or will be. -/
def Cared : Prop := s.chosen = true → Right default s ∨ OnItsWay default s

/-- The steps that may be taken after the first choice.  A step that may change what is shown, or
the session, leaves the right model, or a correction on its way; and the last correction is not
lost. -/
def Harmless : Action → Prop
  | .changed request =>
    request.model.override = used default s ∨
      OnItsWay default
        { s with posts := s.posts.erase request, selectedModel := some request.model }
  | .changeFails request =>
    Right default s ∨ OnItsWay default { s with posts := s.posts.erase request }
  | .fetched answer => s.selectedModel = none →
    (answer.currentModel.or answer.models.head?).map Model.override = some (used default s) ∨
      OnItsWay default (s.fetched answer)
  | .fetchFails => s.selectedModel = none → OnItsWay default { s with gets := s.gets - 1 }
  | .chatCleared u =>
    s.selectedModel.map Model.override = some (resolved default s.app (some u.text)) ∨
      OnItsWay default (State.setCurrentSessionId { s with chats := s.chats - 1 } (some u.text))
  | .chatFails => Right default s ∨ OnItsWay default { s with chats := s.chats - 1 }
  | .loaded (.ok data) =>
    if data.success then
      s.selectedModel.map Model.override = some (resolved default s.app data.sessionId) ∨
        OnItsWay default (State.setCurrentSessionId { s with loads := s.loads - 1 } data.sessionId)
    else Right default s ∨ OnItsWay default { s with loads := s.loads - 1 }
  | .loaded (.error _) => Right default s ∨ OnItsWay default { s with loads := s.loads - 1 }
  | _ => True

/-- The steps that may be taken. -/
def Allowed (a : Action) : Prop := s.chosen = true → Harmless default s a

end Correct

/-! ## One step -/

@[simp] theorem chosen_setCurrentSessionId (s : State) (sid : Option SessionId) :
    (s.setCurrentSessionId sid).chosen = s.chosen := by
  rw [State.setCurrentSessionId]
  split <;> rfl

/-- Another session is shown. -/
theorem right_setCurrentSessionId {sid : Option SessionId}
    (h : s.selectedModel.map Model.override = some (resolved default s.app sid)) :
    Right default (s.setCurrentSessionId sid) := by
  rw [State.setCurrentSessionId]
  split
  · rename_i hsid
    rw [hsid] at h
    exact h
  · exact h

/-- A model is chosen. -/
theorem cared_handleModelChange (model : Model) : Cared default
    { s with chosen := true, posts := s.posts ++ [⟨model, s.currentSessionId, false⟩] } := by
  refine fun _ ↦ Or.inr (.posted (List.mem_append_right _ (List.mem_singleton_self _)) rfl ?_)
  change Concerns s.app s.currentSessionId (s.currentSessionId.getD "__global__")
  cases s.currentSessionId with
  | none => exact Or.inr ⟨rfl, rfl⟩
  | some sid => exact Or.inl rfl

/-- The server sets a model. -/
theorem cared_setModel (h : Cared default s) {request : ModelRequest}
    (hserved : request.served = false) : Cared default (s.setModel request) := by
  intro hchosen
  have hmem : { request with served := true } ∈ (s.setModel request).posts :=
    List.mem_append_right _ (List.mem_singleton_self _)
  by_cases hcon : Concerns s.app s.currentSessionId request.body.key
  · -- it is for the current session, and its answer will show it
    exact Or.inr (.set hmem rfl (resolved_setModel_of_concerns default hcon).symm)
  have hused : used default (s.setModel request) = used default s :=
    resolved_setModel_of_not_concerns default hcon
  have hkeep : ∀ {r : ModelRequest}, r ∈ s.posts → r ≠ request → r ∈ (s.setModel request).posts :=
    fun hr hne ↦ List.mem_append_left _ ((List.mem_erase_of_ne hne).mpr hr)
  refine (h hchosen).imp (fun h ↦ ?_) fun h ↦ ?_
  · rw [Right, hused]
    exact h
  cases h with
  | @posted r hpost hr hr' =>
    refine .posted (hkeep hpost ?_) hr ?_
    · rintro rfl
      exact hcon hr'
    · refine hr'.imp id fun h ↦ ⟨h.1, ?_⟩
      exact (bind_sessionModel_setModel (fun heq ↦ hcon (Or.inl heq)) s.app).trans h.2
  | @set r hpost hr hr' =>
    refine .set (hkeep hpost ?_) hr (hr'.trans hused.symm)
    rintro rfl
    rw [hserved] at hr
    cases hr
  | fetching hnone hgets => exact .fetching hnone hgets
  | chatting hchats => exact .chatting hchats
  | loading hloads => exact .loading hloads

/-- The list of models arrives. -/
theorem cared_fetched (h : Cared default s) {answer : ModelList}
    (hallowed : Allowed default s (.fetched answer)) : Cared default (s.fetched answer) := by
  intro hchosen
  cases hmodel : s.selectedModel with
  | none =>
    refine (hallowed hchosen hmodel).imp (fun h ↦ ?_) id
    change (s.selectedModel.or (answer.currentModel.or answer.models.head?)).map Model.override = _
    rw [hmodel, Option.none_or]
    exact h
  | some m =>
    have hshown : (s.fetched answer).selectedModel = s.selectedModel := by
      rw [State.fetched, hmodel]
      rfl
    refine (h hchosen).imp (fun h ↦ ?_) fun h ↦ ?_
    · rw [Right, hshown]
      exact h
    · cases h with
      | posted hpost hserved hconcerns => exact .posted hpost hserved hconcerns
      | set hpost hserved hused => exact .set hpost hserved hused
      | fetching hnone _ =>
        rw [hmodel] at hnone
        cases hnone
      | chatting hchats => exact .chatting hchats
      | loading hloads => exact .loading hloads

/-- The request for it fails. -/
theorem cared_fetchFails (h : Cared default s) (hallowed : Allowed default s .fetchFails) :
    Cared default { s with gets := s.gets - 1 } := by
  intro hchosen
  by_cases hmodel : s.selectedModel = none
  · exact Or.inr (hallowed hchosen hmodel)
  refine (h hchosen).imp id fun h ↦ ?_
  cases h with
  | posted hpost hserved hconcerns => exact .posted hpost hserved hconcerns
  | set hpost hserved hused => exact .set hpost hserved hused
  | fetching hnone _ => exact absurd hnone hmodel
  | chatting hchats => exact .chatting hchats
  | loading hloads => exact .loading hloads

/-- A message or a request is sent. -/
theorem cared_send (h : Cared default s) {chats loads : ℕ} (hchats : s.chats ≤ chats)
    (hloads : s.loads ≤ loads) : Cared default { s with chats := chats, loads := loads } := by
  refine fun hchosen ↦ (h hchosen).imp id fun h ↦ ?_
  cases h with
  | posted hpost hserved hconcerns => exact .posted hpost hserved hconcerns
  | set hpost hserved hused => exact .set hpost hserved hused
  | fetching hnone hgets => exact .fetching hnone hgets
  | chatting h => exact .chatting (Nat.lt_of_lt_of_le h hchats)
  | loading h => exact .loading (Nat.lt_of_lt_of_le h hloads)

/-- The rest of `loadSession`. -/
theorem cared_loaded {result : Except String LoadedSession}
    (hallowed : Allowed default s (.loaded result)) : Cared default (s.loaded result) := by
  cases result with
  | error e => exact hallowed
  | ok data =>
    rw [State.loaded]
    split
    · rename_i hok
      intro hchosen
      rw [chosen_setCurrentSessionId] at hchosen
      have hallowed := hallowed hchosen
      rw [Harmless, if_pos hok] at hallowed
      refine hallowed.imp (fun h ↦ right_setCurrentSessionId ?_) id
      exact h
    · rename_i hok
      intro hchosen
      have hallowed := hallowed hchosen
      rw [Harmless, if_neg hok] at hallowed
      exact hallowed

/-- **Step lemma**: after the first choice, what is shown is right, or will be. -/
theorem cared_of_step (h : Cared default s) (hallowed : Allowed default s a)
    (hstep : step s a = some t) : Cared default t := by
  cases a with
  | handleModelChange model =>
    obtain rfl := Option.some.inj hstep
    exact cared_handleModelChange model
  | setModel request =>
    rw [step, Option.ite_none_right_eq_some, Option.some_inj] at hstep
    obtain ⟨⟨-, hserved⟩, rfl⟩ := hstep
    exact cared_setModel h hserved
  | changed request =>
    rw [step, Option.ite_none_right_eq_some, Option.some_inj] at hstep
    obtain ⟨-, rfl⟩ := hstep
    refine fun hchosen ↦ (hallowed hchosen).imp (fun h ↦ ?_) id
    exact congrArg some h
  | changeFails request =>
    rw [step, Option.ite_none_right_eq_some, Option.some_inj] at hstep
    obtain ⟨-, rfl⟩ := hstep
    exact hallowed
  | fetched answer =>
    rw [step, Option.ite_none_right_eq_some, Option.some_inj] at hstep
    obtain ⟨-, rfl⟩ := hstep
    exact cared_fetched h hallowed
  | fetchFails =>
    rw [step, Option.ite_none_right_eq_some, Option.some_inj] at hstep
    obtain ⟨-, rfl⟩ := hstep
    exact cared_fetchFails h hallowed
  | newChat =>
    obtain rfl := Option.some.inj hstep
    exact cared_send h (Nat.le_succ _) (Nat.le_refl _)
  | prompt =>
    obtain rfl := Option.some.inj hstep
    split
    · exact cared_send h (Nat.le_succ _) (Nat.le_refl _)
    · exact h
  | chatCleared u =>
    rw [step, Option.ite_none_right_eq_some, Option.some_inj] at hstep
    obtain ⟨-, rfl⟩ := hstep
    intro hchosen
    rw [chosen_setCurrentSessionId] at hchosen
    refine (hallowed hchosen).imp (fun h ↦ right_setCurrentSessionId ?_) id
    exact h
  | chatFails =>
    rw [step, Option.ite_none_right_eq_some, Option.some_inj] at hstep
    obtain ⟨-, rfl⟩ := hstep
    exact hallowed
  | loadSession =>
    obtain rfl := Option.some.inj hstep
    exact cared_send h (Nat.le_refl _) (Nat.le_succ _)
  | loaded result =>
    rw [step, Option.ite_none_right_eq_some, Option.some_inj] at hstep
    obtain ⟨-, rfl⟩ := hstep
    exact cared_loaded hallowed

/-! ## The runs -/

/-- No message and no request is on its way. -/
structure Quiet (s : State) : Prop where
  posts : s.posts = []
  gets : s.gets = 0
  chats : s.chats = 0
  loads : s.loads = 0

/-- Then there is no correction to come. -/
theorem Quiet.not_onItsWay (h : Quiet s) : ¬OnItsWay default s := by
  intro hway
  cases hway with
  | posted hpost _ _ => rw [h.posts] at hpost; cases hpost
  | set hpost _ _ => rw [h.posts] at hpost; cases hpost
  | fetching _ hgets => rw [h.gets] at hgets; cases hgets
  | chatting hchats => rw [h.chats] at hchats; cases hchats
  | loading hloads => rw [h.loads] at hloads; cases hloads

def sonnet : Model := ⟨"claude-sonnet-4-6", "anthropic"⟩

def opus : Model := ⟨"claude-opus-4-6", "anthropic"⟩

/-- The id of a session. -/
def uuid : Uuid := ⟨"16fd2706-8baf-433b-82eb-8c7fada847da", by decide⟩

/-- Another one. -/
def otherUuid : Uuid := ⟨"886313e1-3b8a-4372-9b90-0c9aee199e5d", by decide⟩

/-- The front end gets a session, and another model is chosen in it. -/
def exampleRun : List Action :=
  [.newChat, .chatCleared uuid, .fetched ⟨[sonnet, opus], some sonnet⟩,
    .fetched ⟨[sonnet, opus], some sonnet⟩, .handleModelChange opus,
    .setModel ⟨opus, some uuid.text, false⟩, .changed ⟨opus, some uuid.text, true⟩]

end WorkWithMe.Client.ModelSelection
