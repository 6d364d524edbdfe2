import WorkWithMe.Client.Transcript
import WorkWithMe.Lib.Machine
import WorkWithMe.Server.Call

/-!
# The project directory

`SessionContext.tsx` shows a directory, and the server has one for each session, in `session_cwd`.
The front end changes what it shows when the user has chosen a directory and the server has accepted
it, when a session has been loaded, and when the server has answered which directory the current
session has; it asks that whenever the session or the connection is another one.  The server's
entries come from new chats and from the choices of the user.

A request is on its way, or is answered, for as long as it likes.  It may also fail.  Queues of the
connection are `up` and `down`; of the messages there are the new chats and their answers, as the
others have nothing to do with a directory.

* `OnItsWay` says that something will correct what is shown, `Allowed` which steps may be taken.
* `right_projectDir_of_guarded`: the runs in which the directory that is shown is the one of the
  session.
-/

set_option autoImplicit false

namespace WorkWithMe.Client.Project

open Server Machine

/-! ## The front end and the server -/

/-- A request to set the directory of a session; `served` says whether the server has done it. -/
structure ProjectRequest where
  path : String
  sessionId : Option SessionId
  served : Bool
  deriving DecidableEq

structure State where
  /-- The connection is open. -/
  isConnected : Bool
  currentSessionId : Option SessionId
  projectDir : Option String
  app : AppState
  /-- The directories of the new chats that the client has asked for. -/
  up : List (Option String)
  /-- The new chat that the server is making. -/
  creating : Option (SessionId × String)
  /-- The answers of the server. -/
  down : List Frame
  /-- The requests for the directory of a session, with the answers to those that have one. -/
  gets : List (SessionId × Option String)
  /-- The requests to set it. -/
  posts : List ProjectRequest
  /-- How many requests to load a session have not been answered. -/
  loads : ℕ

/-- Both when they start. -/
def init : State where
  isConnected := false
  currentSessionId := none
  projectDir := none
  app := .new
  up := []
  creating := none
  down := []
  gets := []
  posts := []
  loads := 0

inductive Action where
  /-- The connection opens. -/
  | opened
  /-- The connection is lost. -/
  | closed
  | createSession (cwd : Option String)
  /-- `changeProjectDir`, up to the request. -/
  | changeProjectDir (path : String)
  /-- The server sets the directory; `u` is the id of the session that it makes if there is none. -/
  | setProject (request : ProjectRequest) (u : Uuid)
  /-- The rest of `changeProjectDir`. -/
  | changed (request : ProjectRequest)
  /-- The request has failed, and the server does no more for it. -/
  | changeFails (request : ProjectRequest)
  /-- The server says which directory a session has. -/
  | getProject (sid : SessionId)
  /-- The answer arrives. -/
  | fetched (sid : SessionId) (cwd : String)
  /-- The request has failed. -/
  | fetchFails (request : SessionId × Option String)
  /-- `loadSession`, up to the request. -/
  | loadSession
  /-- The rest of it. -/
  | loaded (result : Except String LoadedSession)
  /-- The server reads the next message, and makes a session with the id `u`. -/
  | newChat (u : Uuid)
  /-- Its pi session has been created. -/
  | created
  | createFailed (e : String)
  /-- The next answer of the server arrives. -/
  | deliver

section Steps

variable (s : State)

/-- The effect that asks for the directory of the current session. -/
def State.fetchProject : State :=
  match s.currentSessionId with
  | some sid =>
    if s.isConnected = true ∧ sid ≠ "" then { s with gets := s.gets ++ [(sid, none)] } else s
  | none => s

/-- `setCurrentSessionId`, with the effect if the session is another one. -/
def State.setCurrentSessionId (sid : Option SessionId) : State :=
  if sid = s.currentSessionId then s else { s with currentSessionId := sid }.fetchProject

/-- `wsSend`, of a message that asks for a new chat. -/
def State.sendNewChat (cwd : Option String) : State :=
  if s.isConnected then { s with up := s.up ++ [cwd] } else s

/-- `setProjectDir`, with a directory that is not empty. -/
def State.showDir (cwd : String) : State :=
  { s with projectDir := if cwd = "" then s.projectDir else some cwd }

/-- The answer to a request for the directory of a session. -/
def State.cwdAnswer (sid : SessionId) : String :=
  (textAt (Server.getProject none (some sid) s.app) "cwd").getD ""

/-- The rest of `loadSession`. -/
def State.loaded : Except String LoadedSession → State
  | .ok data =>
    if data.success then
      ({ s with loads := s.loads - 1 }.showDir (data.cwd.getD "")).setCurrentSessionId
        data.sessionId
    else { s with loads := s.loads - 1 }
  | .error _ => { s with loads := s.loads - 1 }

/-- The handler of `chat_cleared`; no other message has to do with the directory. -/
def State.onMessage : Frame → State
  | .chatCleared sid _ => s.setCurrentSessionId (some sid)
  | _ => s

/-- No session has this id. -/
def State.Unused (u : Uuid) : Prop :=
  s.app.sessionCwd u.text = none ∧ s.currentSessionId ≠ some u.text

instance (u : Uuid) : Decidable (s.Unused u) := inferInstanceAs (Decidable (_ ∧ _))

/-- `set_project`. -/
def State.setProject (request : ProjectRequest) (u : Uuid) : State :=
  { s with
    app := setProjectTables s.app (request.sessionId.getD u.text) request.path
    posts := s.posts.erase request ++ [{ request with served := true }] }

end Steps

/-- One step. -/
def step (s : State) : Action → Option State
  | .opened =>
    if s.isConnected = false then
      some (State.fetchProject { s with isConnected := true, up := s.up ++ [none] })
    else none
  | .closed =>
    if s.isConnected then
      some { s with isConnected := false, up := [], creating := none, down := [] }
    else none
  | .createSession cwd => some (s.sendNewChat (cwd.or s.projectDir))
  | .changeProjectDir path =>
    some { s with posts := s.posts ++ [⟨path, s.currentSessionId, false⟩] }
  | .setProject request u =>
    if request ∈ s.posts ∧ request.served = false ∧ (request.sessionId = none → s.Unused u) then
      some (s.setProject request u)
    else none
  | .changed request =>
    if request ∈ s.posts ∧ request.served = true then
      some (State.sendNewChat
        { s with posts := s.posts.erase request, projectDir := some request.path }
        (some request.path))
    else none
  | .changeFails request =>
    if request ∈ s.posts then some { s with posts := s.posts.erase request } else none
  | .getProject sid =>
    if (sid, none) ∈ s.gets then
      some { s with gets := s.gets.erase (sid, none) ++ [(sid, some (s.cwdAnswer sid))] }
    else none
  | .fetched sid cwd =>
    if (sid, some cwd) ∈ s.gets then
      some (State.showDir { s with gets := s.gets.erase (sid, some cwd) } cwd)
    else none
  | .fetchFails request =>
    if request ∈ s.gets then some { s with gets := s.gets.erase request } else none
  | .loadSession => some { s with loads := s.loads + 1 }
  | .loaded result => if 0 < s.loads then some (s.loaded result) else none
  | .newChat u =>
    match s.creating, s.up with
    | none, cwd :: up =>
      if s.Unused u then
        some { s with
          up := up
          creating := some (u.text, cwd.getD "")
          app := { s.app with
            sessionCwd := Function.update s.app.sessionCwd u.text (some (cwd.getD "")) } }
      else none
    | _, _ => none
  | .created =>
    match s.creating with
    | some (sid, cwd) =>
      some { s with creating := none, down := s.down ++ [.chatCleared sid cwd] }
    | none => none
  | .createFailed e =>
    match s.creating with
    | some _ =>
      some { s with
        creating := none, down := s.down ++ [.error ("Failed to create session: " ++ e)] }
    | none => none
  | .deliver =>
    match s.down with
    | frame :: down =>
      if s.isConnected then some (State.onMessage { s with down := down } frame) else none
    | [] => none

/-! ## What is shown and what should be -/

variable {s t : State} {a : Action} {as : List Action}

/-- The directory with which the server runs, or would create, the pi session of `sid`. -/
def dirOf (s : State) (sid : Option SessionId) : String :=
  (sid.bind s.app.sessionCwd).getD ""

/-- The directory that is shown is that of the current session. -/
def Right (s : State) : Prop := s.projectDir.getD "" = dirOf s s.currentSessionId

/-- A new chat has been asked for, is being made, or has been made. -/
def Chatting (s : State) : Prop :=
  s.up ≠ [] ∨ s.creating ≠ none ∨ ∃ sid cwd, .chatCleared sid cwd ∈ s.down

/-- Something will correct what is shown. -/
inductive OnItsWay (s : State) : Prop
  /-- A request for the directory of the current session, which has one. -/
  | asked {sid : SessionId} (hsid : s.currentSessionId = some sid) (hget : (sid, none) ∈ s.gets)
      (hdir : dirOf s (some sid) ≠ "")
  /-- The answer to a request, with the directory of the current session. -/
  | answered {sid : SessionId} (hget : (sid, some (dirOf s s.currentSessionId)) ∈ s.gets)
      (hdir : dirOf s s.currentSessionId ≠ "")
  /-- A request that sets the directory of the current session. -/
  | posted {sid : SessionId} {path : String} (hsid : s.currentSessionId = some sid)
      (hpost : ⟨path, some sid, false⟩ ∈ s.posts)
  /-- The answer to one that has set the directory that the current session has. -/
  | set {request : ProjectRequest} (hpost : request ∈ s.posts) (hserved : request.served = true)
      (hdir : dirOf s s.currentSessionId = request.path)
  /-- A request after which there will be a new chat. -/
  | changing {request : ProjectRequest} (hconn : s.isConnected = true) (hpost : request ∈ s.posts)
  /-- A new chat. -/
  | chatting (hchat : Chatting s)
  /-- A session that is being loaded. -/
  | loading (hloads : 0 < s.loads)

/-- What is shown is right, or will be. -/
def Cared (s : State) : Prop := Right s ∨ OnItsWay s

/-- The steps that may be taken.  A step that may change what is shown, or the session, leaves the
right directory, or a correction on its way; and the last correction is not lost. -/
def Allowed (s : State) : Action → Prop
  | .closed =>
    Right s ∨ OnItsWay { s with isConnected := false, up := [], creating := none, down := [] }
  | .changed request =>
    request.path = dirOf s s.currentSessionId ∨ s.isConnected = true ∨
      OnItsWay { s with posts := s.posts.erase request }
  | .changeFails request => Right s ∨ OnItsWay { s with posts := s.posts.erase request }
  | .fetched sid cwd =>
    cwd = "" ∨ cwd = dirOf s s.currentSessionId ∨
      OnItsWay { s with gets := s.gets.erase (sid, some cwd) }
  | .fetchFails request => Right s ∨ OnItsWay { s with gets := s.gets.erase request }
  | .loaded (.ok data) =>
    if data.success then
      (s.showDir (data.cwd.getD "")).projectDir.getD "" = dirOf s data.sessionId ∨
        (data.sessionId ≠ s.currentSessionId ∧ s.isConnected = true ∧ data.sessionId ≠ some "" ∧
          dirOf s data.sessionId ≠ "") ∨
        OnItsWay { s with loads := s.loads - 1, currentSessionId := data.sessionId }
    else Right s ∨ OnItsWay { s with loads := s.loads - 1 }
  | .loaded (.error _) => Right s ∨ OnItsWay { s with loads := s.loads - 1 }
  | .createFailed _ => Right s ∨ OnItsWay { s with creating := none }
  | .deliver => ∀ sid cwd down, s.down = .chatCleared sid cwd :: down →
    s.projectDir.getD "" = dirOf s (some sid) ∨
      (some sid ≠ s.currentSessionId ∧ sid ≠ "" ∧ dirOf s (some sid) ≠ "") ∨
      OnItsWay { s with currentSessionId := some sid, down := down }
  | _ => True

/-! ## What keeps a correction on its way -/

/-- A correction stays on its way when nothing is taken away. -/
theorem OnItsWay.mono (h : OnItsWay s) (hsid : t.currentSessionId = s.currentSessionId)
    (happ : t.app = s.app) (hconn : s.isConnected = true → t.isConnected = true)
    (hgets : s.gets ⊆ t.gets) (hposts : s.posts ⊆ t.posts) (hchat : Chatting s → Chatting t)
    (hloads : s.loads ≤ t.loads) : OnItsWay t := by
  have hdir : ∀ sid, dirOf t sid = dirOf s sid := fun sid ↦ by rw [dirOf, happ]; rfl
  cases h with
  | asked h hget hne => exact .asked (hsid.trans h) (hgets hget) (by rw [hdir]; exact hne)
  | answered hget hne =>
    rw [← hsid, ← hdir] at hget hne
    exact .answered (hgets hget) hne
  | posted h hpost => exact .posted (hsid.trans h) (hposts hpost)
  | set hpost hserved h =>
    rw [← hsid, ← hdir] at h
    exact .set (hposts hpost) hserved h
  | changing h hpost => exact .changing (hconn h) (hposts hpost)
  | chatting h => exact .chatting (hchat h)
  | loading h => exact .loading (Nat.lt_of_lt_of_le h hloads)

/-- What is shown is not part of it. -/
theorem OnItsWay.showing (h : OnItsWay s) (dir : Option String) :
    OnItsWay { s with projectDir := dir } :=
  h.mono rfl rfl id (List.Subset.refl _) (List.Subset.refl _) id (Nat.le_refl _)

/-- The session is asked for its directory. -/
theorem cared_fetchProject (h : Cared s) : Cared s.fetchProject := by
  rw [State.fetchProject]
  split
  · split
    · exact h.imp id fun h ↦ h.mono rfl rfl id (List.subset_append_left _ _)
        (List.Subset.refl _) id (Nat.le_refl _)
    · exact h
  · exact h

/-- Another session is shown. -/
theorem cared_setCurrentSessionId {sid : Option SessionId}
    (h : s.projectDir.getD "" = dirOf s sid ∨
      (sid ≠ s.currentSessionId ∧ s.isConnected = true ∧ sid ≠ some "" ∧ dirOf s sid ≠ "") ∨
      OnItsWay { s with currentSessionId := sid }) : Cared (s.setCurrentSessionId sid) := by
  rw [State.setCurrentSessionId]
  split
  · rename_i heq
    subst heq
    rcases h with h | ⟨hne, -⟩ | h
    · exact Or.inl h
    · exact absurd rfl hne
    · exact Or.inr h
  · rcases h with h | ⟨-, hconn, hne, hdir⟩ | h
    · exact cared_fetchProject (Or.inl h)
    · cases sid with
      | none => exact absurd rfl hdir
      | some sid =>
        have hsid : sid ≠ "" := fun h ↦ hne (congrArg some h)
        rw [State.fetchProject]
        dsimp only
        rw [if_pos ⟨hconn, hsid⟩]
        exact Or.inr (.asked rfl (List.mem_append_right _ (List.mem_singleton_self _)) hdir)
    · exact cared_fetchProject (Or.inr h)

/-- A new chat is asked for. -/
theorem cared_sendNewChat (h : Cared s) (cwd : Option String) : Cared (s.sendNewChat cwd) := by
  rw [State.sendNewChat]
  split
  · exact Or.inr (.chatting (Or.inl (List.append_ne_nil_of_right_ne_nil _ (List.cons_ne_nil _ _))))
  · exact h

/-! ## Requests that are answered -/

@[simp] theorem cwdAnswer_eq (s : State) (sid : SessionId) :
    s.cwdAnswer sid = (s.app.sessionCwd sid).getD "/" := rfl

/-- A session that has a directory is answered for with that. -/
theorem cwdAnswer_of_dirOf {sid : SessionId} (h : dirOf s (some sid) ≠ "") :
    s.cwdAnswer sid = dirOf s (some sid) := by
  rw [cwdAnswer_eq, dirOf, Option.bind_some] at *
  cases hdir : s.app.sessionCwd sid with
  | none =>
    rw [hdir] at h
    exact absurd rfl h
  | some cwd => rfl

/-- The server says which directory a session has. -/
theorem cared_getProject (h : Cared s) (sid : SessionId) :
    Cared { s with gets := s.gets.erase (sid, none) ++ [(sid, some (s.cwdAnswer sid))] } := by
  refine h.imp id fun h ↦ ?_
  have hkeep : ∀ {sid' : SessionId} {answer : Option String}, (sid', answer) ∈ s.gets →
      (sid', answer) ≠ (sid, none) →
      (sid', answer) ∈ s.gets.erase (sid, none) ++ [(sid, some (s.cwdAnswer sid))] :=
    fun hmem hne ↦ List.mem_append_left _ ((List.mem_erase_of_ne hne).mpr hmem)
  cases h with
  | @asked sid' h hget hdir =>
    by_cases heq : sid' = sid
    · -- this is the request
      subst heq
      have hanswer : (sid', some (dirOf s (some sid'))) ∈
          s.gets.erase (sid', none) ++ [(sid', some (s.cwdAnswer sid'))] := by
        rw [cwdAnswer_of_dirOf hdir]
        exact List.mem_append_right _ (List.mem_singleton_self _)
      rw [← h] at hanswer hdir
      exact .answered hanswer hdir
    · exact .asked h (hkeep hget fun he ↦ heq (congrArg Prod.fst he)) hdir
  | answered hget hdir => exact .answered (hkeep hget nofun) hdir
  | posted h hpost => exact .posted h hpost
  | set hpost hserved hdir => exact .set hpost hserved hdir
  | changing h hpost => exact .changing h hpost
  | chatting h => exact .chatting h
  | loading h => exact .loading h

/-- The answer arrives. -/
theorem cared_fetched (h : Cared s) {sid : SessionId} {cwd : String}
    (hallowed : Allowed s (.fetched sid cwd)) :
    Cared (State.showDir { s with gets := s.gets.erase (sid, some cwd) } cwd) := by
  by_cases hcwd : cwd = ""
  · -- an empty answer changes nothing, and is no correction
    refine h.imp (fun h ↦ ?_) fun h ↦ ?_
    · rw [Right, State.showDir, if_pos hcwd]
      exact h
    have hkeep : ∀ {sid' : SessionId} {answer : Option String}, (sid', answer) ∈ s.gets →
        answer ≠ some cwd → (sid', answer) ∈ s.gets.erase (sid, some cwd) :=
      fun hmem hne ↦ (List.mem_erase_of_ne fun he ↦ hne (congrArg Prod.snd he)).mpr hmem
    cases h with
    | asked h hget hdir => exact .asked h (hkeep hget nofun) hdir
    | answered hget hdir =>
      refine .answered (hkeep hget fun he ↦ hdir ?_) hdir
      rw [← hcwd]
      exact Option.some.inj he
    | posted h hpost => exact .posted h hpost
    | set hpost hserved hdir => exact .set hpost hserved hdir
    | changing h hpost => exact .changing h hpost
    | chatting h => exact .chatting h
    | loading h => exact .loading h
  · rcases hallowed with hnone | hdir | h
    · exact absurd hnone hcwd
    · refine Or.inl ?_
      rw [Right, State.showDir, if_neg hcwd]
      exact hdir
    · exact Or.inr (h.showing _)

/-- The directories after one has been set. -/
theorem dirOf_setProject (s : State) (request : ProjectRequest) (u : Uuid) (sid : SessionId) :
    dirOf (s.setProject request u) (some sid) =
      if sid = request.sessionId.getD u.text then request.path else dirOf s (some sid) := by
  rw [dirOf, State.setProject, setProjectTables, Option.bind_some]
  dsimp only
  by_cases h : sid = request.sessionId.getD u.text
  · rw [if_pos h, h, Function.update_self, Option.getD_some]
  · rw [if_neg h, Function.update_of_ne h]
    rfl

/-- The server sets a directory. -/
theorem cared_setProject (h : Cared s) {request : ProjectRequest} {u : Uuid}
    (hserved : request.served = false) : Cared (s.setProject request u) := by
  have hmem : { request with served := true } ∈ (s.setProject request u).posts :=
    List.mem_append_right _ (List.mem_singleton_self _)
  by_cases hcur : s.currentSessionId = some (request.sessionId.getD u.text)
  · -- it is that of the current session
    refine Or.inr (.set hmem rfl ?_)
    change dirOf (s.setProject request u) s.currentSessionId = request.path
    rw [hcur, dirOf_setProject, if_pos rfl]
  have hdir : ∀ sid, s.currentSessionId = some sid →
      dirOf (s.setProject request u) (some sid) = dirOf s (some sid) := by
    intro sid hsid
    rw [dirOf_setProject, if_neg]
    rintro rfl
    exact hcur hsid
  have hkeep : ∀ {p : ProjectRequest}, p ∈ s.posts → p ≠ request →
      p ∈ (s.setProject request u).posts :=
    fun hp hne ↦ List.mem_append_left _ ((List.mem_erase_of_ne hne).mpr hp)
  have hdir' : dirOf (s.setProject request u) s.currentSessionId = dirOf s s.currentSessionId := by
    cases hs : s.currentSessionId with
    | none => rfl
    | some sid => exact hdir sid hs
  rcases h with h | h
  · exact Or.inl (h.trans hdir'.symm)
  · right
    cases h with
    | asked h hget hne => exact .asked h hget (by rw [hdir _ h]; exact hne)
    | answered hget hne =>
      rw [← hdir'] at hget hne
      exact .answered hget hne
    | @posted sid path h hpost =>
      refine .posted h (hkeep hpost ?_)
      rintro rfl
      exact hcur h
    | set hpost hserved' hd =>
      refine .set (hkeep hpost ?_) hserved' (hdir'.trans hd)
      rintro rfl
      rw [hserved] at hserved'
      cases hserved'
    | changing hconn _ => exact .changing hconn hmem
    | chatting h => exact .chatting h
    | loading h => exact .loading h

/-- An answer arrives that is not about a new chat. -/
theorem cared_drop (h : Cared s) {frame : Frame} {down : List Frame}
    (hdown : s.down = frame :: down) (hframe : ∀ sid cwd, frame ≠ .chatCleared sid cwd) :
    Cared { s with down := down } := by
  refine h.imp id fun h ↦ h.mono rfl rfl id (List.Subset.refl _) (List.Subset.refl _)
    (Or.imp_right (Or.imp_right ?_)) (Nat.le_refl _)
  rintro ⟨sid, cwd, hmem⟩
  rw [hdown] at hmem
  exact ⟨sid, cwd, (List.mem_cons.mp hmem).resolve_left fun he ↦ hframe sid cwd he.symm⟩

/-! ## One step -/

/-- The rest of `loadSession`. -/
theorem cared_loaded {result : Except String LoadedSession}
    (hallowed : Allowed s (.loaded result)) : Cared (s.loaded result) := by
  cases result with
  | error e => exact hallowed
  | ok data =>
    rw [Allowed] at hallowed
    rw [State.loaded]
    split at hallowed
    · rename_i hok
      rw [if_pos hok]
      refine cared_setCurrentSessionId ?_
      rcases hallowed with h | h | h
      · exact Or.inl h
      · exact Or.inr (Or.inl h)
      · exact Or.inr (Or.inr (h.showing _))
    · rename_i hok
      rw [if_neg hok]
      exact hallowed

/-- The next answer of the server arrives. -/
theorem cared_deliver (h : Cared s) {frame : Frame} {down : List Frame}
    (hdown : s.down = frame :: down) (hconn : s.isConnected = true)
    (hallowed : Allowed s .deliver) :
    Cared (State.onMessage { s with down := down } frame) := by
  cases frame with
  | chatCleared sid cwd =>
    refine cared_setCurrentSessionId ?_
    rcases hallowed sid cwd down hdown with h | ⟨hne, hsid, hdir⟩ | h
    · exact Or.inl h
    · exact Or.inr (Or.inl ⟨hne, hconn, fun he ↦ hsid (Option.some.inj he), hdir⟩)
    · exact Or.inr (Or.inr h)
  | event _ => exact cared_drop h hdown nofun
  | error _ => exact cared_drop h hdown nofun
  | promptComplete _ => exact cared_drop h hdown nofun
  | sessionLabelUpdated _ _ => exact cared_drop h hdown nofun

/-- The answer to a request that sets a directory arrives. -/
theorem cared_changed {request : ProjectRequest}
    (hallowed : Allowed s (.changed request)) :
    Cared (State.sendNewChat
      { s with posts := s.posts.erase request, projectDir := some request.path }
      (some request.path)) := by
  rcases hallowed with hdir | hconn | h
  · refine cared_sendNewChat (Or.inl ?_) _
    exact hdir
  · rw [State.sendNewChat, if_pos hconn]
    exact Or.inr (.chatting (Or.inl (List.append_ne_nil_of_right_ne_nil _ (List.cons_ne_nil _ _))))
  · refine cared_sendNewChat (Or.inr ?_) _
    exact h.showing _

/-- **Step lemma**: what is shown is right, or will be, after each step that may be taken. -/
theorem cared_of_step (h : Cared s) (hallowed : Allowed s a) (hstep : step s a = some t) :
    Cared t := by
  cases a with
  | opened =>
    rw [step, Option.ite_none_right_eq_some, Option.some_inj] at hstep
    obtain ⟨-, rfl⟩ := hstep
    exact cared_fetchProject (Or.inr (.chatting (Or.inl
      (List.append_ne_nil_of_right_ne_nil _ (List.cons_ne_nil _ _)))))
  | closed =>
    rw [step, Option.ite_none_right_eq_some, Option.some_inj] at hstep
    obtain ⟨-, rfl⟩ := hstep
    exact hallowed
  | createSession cwd =>
    obtain rfl := Option.some.inj hstep
    exact cared_sendNewChat h _
  | changeProjectDir path =>
    obtain rfl := Option.some.inj hstep
    refine h.imp id fun h ↦ ?_
    exact h.mono rfl rfl id (List.Subset.refl _) (List.subset_append_left _ _)
      id (Nat.le_refl _)
  | setProject request u =>
    rw [step, Option.ite_none_right_eq_some, Option.some_inj] at hstep
    obtain ⟨⟨-, hserved, -⟩, rfl⟩ := hstep
    exact cared_setProject h hserved
  | changed request =>
    rw [step, Option.ite_none_right_eq_some, Option.some_inj] at hstep
    obtain ⟨-, rfl⟩ := hstep
    exact cared_changed hallowed
  | changeFails request =>
    rw [step, Option.ite_none_right_eq_some, Option.some_inj] at hstep
    obtain ⟨-, rfl⟩ := hstep
    exact hallowed
  | getProject sid =>
    rw [step, Option.ite_none_right_eq_some, Option.some_inj] at hstep
    obtain ⟨-, rfl⟩ := hstep
    exact cared_getProject h sid
  | fetched sid cwd =>
    rw [step, Option.ite_none_right_eq_some, Option.some_inj] at hstep
    obtain ⟨-, rfl⟩ := hstep
    exact cared_fetched h hallowed
  | fetchFails request =>
    rw [step, Option.ite_none_right_eq_some, Option.some_inj] at hstep
    obtain ⟨-, rfl⟩ := hstep
    exact hallowed
  | loadSession =>
    obtain rfl := Option.some.inj hstep
    exact h.imp id fun h ↦ h.mono rfl rfl id (List.Subset.refl _) (List.Subset.refl _)
      id (Nat.le_succ _)
  | loaded result =>
    rw [step, Option.ite_none_right_eq_some, Option.some_inj] at hstep
    obtain ⟨-, rfl⟩ := hstep
    exact cared_loaded hallowed
  | newChat u =>
    rw [step] at hstep
    split at hstep
    · rw [Option.ite_none_right_eq_some, Option.some_inj] at hstep
      obtain ⟨-, rfl⟩ := hstep
      exact Or.inr (.chatting (Or.inr (Or.inl (Option.some_ne_none _))))
    · cases hstep
  | created =>
    rw [step] at hstep
    split at hstep
    · rename_i sid cwd _
      obtain rfl := Option.some.inj hstep
      exact Or.inr (.chatting (Or.inr (Or.inr
        ⟨sid, cwd, List.mem_append_right _ (List.mem_singleton_self _)⟩)))
    · cases hstep
  | createFailed e =>
    rw [step] at hstep
    split at hstep
    · obtain rfl := Option.some.inj hstep
      refine hallowed.imp id fun h ↦ h.mono rfl rfl id (List.Subset.refl _) (List.Subset.refl _)
        (Or.imp_right (Or.imp_right ?_)) (Nat.le_refl _)
      exact fun ⟨sid, cwd, hmem⟩ ↦ ⟨sid, cwd, List.mem_append_left _ hmem⟩
    · cases hstep
  | deliver =>
    rw [step] at hstep
    split at hstep
    · rename_i frame down hdown
      rw [Option.ite_none_right_eq_some, Option.some_inj] at hstep
      obtain ⟨hconn, rfl⟩ := hstep
      exact cared_deliver h hdown hconn hallowed
    · cases hstep

/-! ## The runs -/

/-- No message and no request is on its way. -/
structure Quiet (s : State) : Prop where
  up : s.up = []
  creating : s.creating = none
  down : s.down = []
  gets : s.gets = []
  posts : s.posts = []
  loads : s.loads = 0

instance (s : State) : Decidable (Right s) := inferInstanceAs (Decidable (_ = _))

/-- Then there is no correction to come. -/
theorem Quiet.not_onItsWay (h : Quiet s) : ¬OnItsWay s := by
  intro hway
  cases hway with
  | asked _ hget _ => rw [h.gets] at hget; cases hget
  | answered hget _ => rw [h.gets] at hget; cases hget
  | posted _ hpost => rw [h.posts] at hpost; cases hpost
  | set hpost _ _ => rw [h.posts] at hpost; cases hpost
  | changing _ hpost => rw [h.posts] at hpost; cases hpost
  | chatting hchat =>
    rcases hchat with hup | hcreating | ⟨sid, cwd, hdown⟩
    · exact hup h.up
    · exact hcreating h.creating
    · rw [h.down] at hdown; cases hdown
  | loading hloads => rw [h.loads] at hloads; cases hloads

/-- A UUID. -/
def uuid : Uuid := ⟨"3f2504e0-4f89-41d3-9a0c-0305e82c3301", by decide⟩

/-- Another one. -/
def otherUuid : Uuid := ⟨"6ba7b810-9dad-41d1-80b4-00c04fd430c8", by decide⟩

/-- The front end connects and gets a session; then the user chooses a directory, and gets another
session in it. -/
def exampleRun : List Action :=
  [.opened, .newChat uuid, .created, .deliver, .getProject uuid.text, .fetched uuid.text "",
    .changeProjectDir "/x", .setProject ⟨"/x", some uuid.text, false⟩ otherUuid,
    .changed ⟨"/x", some uuid.text, true⟩, .newChat otherUuid, .created, .deliver,
    .getProject otherUuid.text, .fetched otherUuid.text "/x"]

end WorkWithMe.Client.Project
