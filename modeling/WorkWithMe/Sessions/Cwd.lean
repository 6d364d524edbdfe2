import WorkWithMe.Server.ModelChoice
import WorkWithMe.Sessions.Store

/-!
# The directory of a session

`set_project` writes the directory into the metadata of the session file and into `session_cwd`.  It
is read back in two other places: `load` looks for a `cwd` or a `working_directory` at the top of
the document, and `get_project` looks only into `session_cwd`, which starts empty in every process,
and answers `/` where it finds nothing.

* `Survives` says that both readers give the directory, and `Meanwhile` what can happen to a process
  and its session files before the directory of the session, or the document in its file, is set
  again: restarts, the calls of other sessions, prompts and their labels, moves into the archive and
  out of it.
* `survives_of_meanwhile` is the one directory that such a run keeps: `/`.
* `cwd_survives_iff` says for which calls of `set_project` the directory survives: those that set
  `/` for a session whose document has `/` at its top already.
* `not_cwd_survives` is a call that sets another directory.
-/

set_option autoImplicit false

namespace WorkWithMe.Sessions

open JsonFile Server

/-! ## The two readers -/

/-- The process and the session files. -/
structure Backend where
  /-- The tables of the process. -/
  app : AppState
  /-- The session files. -/
  store : Store

/-- The file of a session: the one in `sessions_dir`, else the one in `archive_dir`. -/
def sessionFile (st : Store) (sid : SessionId) : Option Contents :=
  (st.active sid).or (st.archived sid)

/-- **Both readers give the directory.** -/
structure Survives (sid : SessionId) (cwd : String) (s : Backend) : Prop where
  /-- `POST /api/sessions/load` of the file. -/
  loaded : ∀ path, (load .none path (s.store.active sid).isNone
    (sessionFile s.store sid)).body.get "cwd" = some (.str cwd)
  /-- `GET /api/project`. -/
  project : ∀ processCwd, (getProject processCwd (some sid) s.app).get "cwd" = some (.str cwd)

theorem survives_iff {sid : SessionId} {cwd : String} {s : Backend} :
    Survives sid cwd s ↔
      (∃ v, sessionFile s.store sid = some (.doc v) ∧ loadedCwd v = cwd) ∧
        (s.app.sessionCwd sid).getD "/" = cwd := by
  constructor
  · intro h
    exact ⟨get_load_cwd.mp (h.loaded ""), by simpa [getProject] using h.project none⟩
  · intro h
    exact ⟨fun path ↦ get_load_cwd.mpr h.1, fun processCwd ↦ by simp [getProject, h.2]⟩

/-! ## What happens in the meantime -/

/-- A call that writes to the store leaves the document of the session and its directory alone. -/
def StoreCall.LeavesAlone (sid : SessionId) (env : Env) (st : Store) : StoreCall → Prop
  | .create _ => env.fileUuid.text ≠ sid
  | .createAgentSession _ => env.fileUuid.text ≠ sid
  | .update id _ => id ≠ sid
  | .setProject req => req.sessionId ≠ some sid ∧ (req.sessionId = none → env.fileUuid.text ≠ sid)
  | .archive _ => True
  | .archiveByPath id archived => id = sid → archived = false → st.active sid = none

/-- A message of the chat, or a choice of a model, leaves the directory of the session alone. -/
def LeavesCwd (sid : SessionId) : ApiCall → Prop
  | .newChat _ uuid _ => uuid.text ≠ sid
  | .prompt _ _ _ => True
  | .setProject _ _ => False
  | .setModel _ => True

section Meanwhile

variable (authToken : String → Option String) (parse : SessionId → Bool)

/-- **What happens until the directory of the session, or its document, is set again.** -/
inductive Meanwhile (sid : SessionId) (s : Backend) : Backend → Prop where
  /-- Nothing has happened. -/
  | now : Meanwhile sid s s
  /-- The process is started again. -/
  | restart {t : Backend} (h : Meanwhile sid s t) : Meanwhile sid s ⟨.new, t.store⟩
  /-- A call that writes to the store. -/
  | call {t : Backend} (env : Env) (call : StoreCall) (h : Meanwhile sid s t)
      (hcall : call.LeavesAlone sid env t.store) :
      Meanwhile sid s ⟨(serve parse env t.app t.store call).2.1,
        (serve parse env t.app t.store call).2.2⟩
  /-- A message of the chat, or a choice of a model. -/
  | chat {t : Backend} (c : CallId) (call : ApiCall) (h : Meanwhile sid s t)
      (hcall : LeavesCwd sid call) : Meanwhile sid s ⟨applyCall authToken t.app c call, t.store⟩
  /-- The label step of a prompt, of this session or of another one. -/
  | label {t : Backend} (f : Faults) (id : SessionId) (text updated : String)
      (h : Meanwhile sid s t) :
      Meanwhile sid s ⟨t.app, labelStep parse f id text updated t.store⟩

end Meanwhile

/-! ## Where the file is, and what it says -/

section File

variable {st : Store} {id sid : SessionId} {v : Json} {c : Contents}

theorem sessionFile_write_self : sessionFile (st.write sid v) sid = some (.doc v) := by
  simp [sessionFile]

theorem sessionFile_write_of_ne (h : sid ≠ id) :
    sessionFile (st.write id v) sid = sessionFile st sid := by
  simp [sessionFile, h]

/-- A session that is archived is found in the archive. -/
theorem sessionFile_moveToArchive (hc : st.active id = some c) :
    sessionFile (st.moveToArchive id c) sid = sessionFile st sid := by
  by_cases h : sid = id
  · subst h
    simp [sessionFile, hc]
  · simp [sessionFile, h]

/-- A session that is taken out of the archive is the one that was in it. -/
theorem sessionFile_moveFromArchive (hc : st.archived id = some c)
    (hactive : id = sid → st.active sid = none) :
    sessionFile (st.moveFromArchive id c) sid = sessionFile st sid := by
  by_cases h : sid = id
  · subst h
    simp [sessionFile, hc, hactive rfl]
  · simp [sessionFile, h]

theorem loadedCwd_withProjectCwd (cwd : String) :
    loadedCwd (withProjectCwd cwd v) = loadedCwd v := by
  rw [loadedCwd, get_withProjectCwd cwd v (by decide), get_withProjectCwd cwd v (by decide),
    loadedCwd]

theorem loadedCwd_withLabel (text : String) : loadedCwd (withLabel text v) = loadedCwd v := by
  rw [loadedCwd, get_withLabel text v (by decide), get_withLabel text v (by decide), loadedCwd]

theorem loadedCwd_updated (updated : String) :
    loadedCwd (v.insert "updated_at" (.str updated)) = loadedCwd v :=
  loadedCwd_insert v (by decide) (by decide) _

end File

/-! ## The directory that survives -/

section Keeps

variable {authToken : String → Option String} {parse : SessionId → Bool} {sid : SessionId}

/-- A call leaves the file of the session as it is. -/
theorem sessionFile_serve {env : Env} {app : AppState} {st : Store} {call : StoreCall}
    (hcall : call.LeavesAlone sid env st) :
    sessionFile (serve parse env app st call).2.2 sid = sessionFile st sid := by
  have hcreate : ∀ data, env.fileUuid.text ≠ sid → sessionFile (createSession env.faults
      env.fileUuid env.created env.updated data st).2 sid = sessionFile st sid := by
    intro data hne
    obtain ⟨-, -, hok⟩ | ⟨-, e, he⟩ := createSession_cases env.faults st env.fileUuid env.created
      env.updated data
    · rw [hok]
      exact sessionFile_write_of_ne (Ne.symm hne)
    · rw [he]
  have hupdate : ∀ id data, id ≠ sid → sessionFile (updateSession parse env.faults id env.updated
      data st).2 sid = sessionFile st sid := by
    intro id data hne
    obtain ⟨-, -, -, hok⟩ | ⟨-, e, he⟩ := updateSession_cases parse env.faults id st env.updated
      data
    · rw [hok]
      exact sessionFile_write_of_ne (Ne.symm hne)
    · rw [he]
  have harchive : ∀ id, sessionFile (archiveSession parse env.faults id st).2 sid =
      sessionFile st sid := by
    intro id
    obtain ⟨r, -, hno⟩ | ⟨c, -, hc, hok⟩ := archiveSession_cases parse env.faults id st
    · rw [hno]
    · rw [hok]
      exact sessionFile_moveToArchive hc
  cases call with
  | create data =>
    simp only [serve, create_store]
    exact hcreate data hcall
  | createAgentSession metadata =>
    simp only [serve, createAgentSession_store]
    exact hcreate _ hcall
  | update id data =>
    simp only [serve, update_store]
    exact hupdate id data hcall
  | setProject req =>
    simp only [serve, setProject_store]
    obtain ⟨cwd, _ | sid'⟩ := req
    · exact hcreate _ (hcall.2 rfl)
    · exact hupdate sid' _ fun h ↦ hcall.1 (h ▸ rfl)
  | archive id =>
    simp only [serve, archive_store]
    exact harchive id
  | archiveByPath id archived =>
    simp only [serve, archiveByPath_store]
    cases archived with
    | true => exact harchive id
    | false =>
      rw [if_neg (by simp)]
      obtain ⟨r, -, hno⟩ | ⟨c, -, hc, hok⟩ := unarchiveSession_cases parse env.faults id st
      · rw [hno]
      · rw [hok]
        exact sessionFile_moveFromArchive hc fun hid ↦ hcall hid rfl

/-- A call leaves the entry of the session in `session_cwd` as it is. -/
theorem sessionCwd_serve {env : Env} {app : AppState} {st : Store} {call : StoreCall}
    (hcall : call.LeavesAlone sid env st) :
    (serve parse env app st call).2.1.sessionCwd sid = app.sessionCwd sid := by
  cases call with
  | setProject req =>
    rw [serve, setProject]
    split
    · rename_i sid' st' hok
      refine Function.update_of_ne (fun h ↦ ?_) ..
      -- the id in the answer is the one in the request, or that of the new file
      obtain ⟨cwd, _ | sid''⟩ := req
      · obtain ⟨-, -, hcreated⟩ | ⟨-, e, he⟩ := createSession_cases env.faults st env.fileUuid
          env.created env.updated (withProjectCwd cwd (projectBase parse env.faults env.uuid
            env.now ⟨cwd, none⟩ st))
        · rw [setProjectStore, hcreated] at hok
          exact hcall.2 rfl (h ▸ Except.ok.inj (Prod.mk.inj hok).1)
        · rw [setProjectStore, he] at hok
          cases (Prod.mk.inj hok).1
      · rw [setProjectStore] at hok
        exact hcall.1 (h ▸ congrArg some (Except.ok.inj (Prod.mk.inj hok).1))
    · rfl
  | _ => rfl

/-- So does a message of the chat, or a choice of a model. -/
theorem sessionCwd_applyCall {app : AppState} {c : CallId} {call : ApiCall}
    (hcall : LeavesCwd sid call) :
    (applyCall authToken app c call).sessionCwd sid = app.sessionCwd sid := by
  cases call with
  | newChat msg uuid created =>
    rw [applyCall, openNewChat, createPiSession]
    split <;> exact Function.update_of_ne (Ne.symm hcall) ..
  | prompt msg uuid created =>
    rw [applyCall]
    split
    · rfl
    · rw [openPrompt]
      split
      · rfl
      · rw [createPiSession]
        split <;> rfl
  | setProject saved cwd => exact hcall.elim
  | setModel req => rfl

/-- The label step leaves the session with a document that says the same directory. -/
theorem sessionFile_labelStep {f : Faults} {id : SessionId} {text updated : String} {st : Store}
    {cwd : String} (h : ∃ v, sessionFile st sid = some (.doc v) ∧ loadedCwd v = cwd) :
    ∃ v, sessionFile (labelStep parse f id text updated st) sid = some (.doc v) ∧
      loadedCwd v = cwd := by
  rw [labelStep]
  split
  · rename_i w hw
    split
    · exact h
    · obtain ⟨-, -, -, hok⟩ | ⟨-, e, he⟩ := updateSession_cases parse f id st updated
        (withLabel text w)
      · rw [hok]
        by_cases hid : sid = id
        · subst hid
          obtain ⟨v, hv, hcwd⟩ := h
          rw [sessionFile, (loadSession_eq_ok_iff.mp hw).2.2, Option.some_or] at hv
          obtain rfl := Contents.doc.inj (Option.some.inj hv)
          exact ⟨_, sessionFile_write_self, by rw [loadedCwd_updated, loadedCwd_withLabel, hcwd]⟩
        · rw [sessionFile_write_of_ne hid]
          exact h
      · rw [he]
        exact h
  · exact h

/-- **The directory that survives** is the one that both readers give when they find nothing
else. -/
theorem survives_of_meanwhile {s t : Backend} (h : Meanwhile authToken parse sid s t)
    (hs : Survives sid "/" s) : Survives sid "/" t := by
  simp only [survives_iff] at hs ⊢
  induction h with
  | now => exact hs
  | restart h ih => exact ⟨ih.1, rfl⟩
  | call env call h hcall ih => rwa [sessionFile_serve hcall, sessionCwd_serve hcall]
  | chat c call h hcall ih => rwa [sessionCwd_applyCall hcall]
  | label f id text updated h ih => exact ⟨sessionFile_labelStep ih.1, ih.2⟩

end Keeps

/-! ## Which directories survive -/

section Iff

variable {authToken : String → Option String} (parse : SessionId → Bool)

/-- The call names a session whose document has `/` at its top, and does not put a new document over
one it could not read. -/
def KeepsRoot (f : Faults) (req : SetProjectRequest) (st : Store) : Prop :=
  ∃ sid v, req.sessionId = some sid ∧ sessionFile st sid = some (.doc v) ∧ loadedCwd v = "/" ∧
    (parse sid = true → st.active sid ≠ none → f.write = none → f.read = none)

variable {parse}

theorem loadedCwd_freshSession (uuid : Uuid) (now : String) :
    loadedCwd (freshSession uuid now) = "" := rfl

/-- A document that is written has the directory of the one it was made from. -/
theorem exists_loadedCwd_write_iff {st : Store} {sid : SessionId} {w w' : Json}
    (h : loadedCwd w' = loadedCwd w) :
    (∃ v, sessionFile (st.write sid w') sid = some (.doc v) ∧ loadedCwd v = "/") ↔
      loadedCwd w = "/" := by
  rw [sessionFile_write_self, ← h]
  simp

/-- A new document has no directory. -/
theorem loadedCwd_freshSession_ne (uuid : Uuid) (now : String) :
    ¬ loadedCwd (freshSession uuid now) = "/" := by
  rw [loadedCwd_freshSession]
  decide

/-- Where the file of the session is replaced, it is made from a document that has `/` at its
top. -/
theorem loadedCwd_projectBase_iff {f : Faults} {uuid : Uuid} {now cwd : String} {sid : SessionId}
    {st : Store} (hparse : parse sid = true) (hsome : st.active sid ≠ none)
    (hwrite : f.write = none) :
    loadedCwd (projectBase parse f uuid now ⟨cwd, some sid⟩ st) = "/" ↔
      KeepsRoot parse f ⟨cwd, some sid⟩ st := by
  by_cases hload : ∃ v, loadSession parse f sid st = .ok (some v)
  · obtain ⟨v, hload⟩ := hload
    obtain ⟨-, hread, hv⟩ := loadSession_eq_ok_iff.mp hload
    have hfile : sessionFile st sid = some (.doc v) := by
      rw [sessionFile, hv, Option.some_or]
    rw [projectBase_of_load hload]
    constructor
    · exact fun hcwd ↦ ⟨sid, v, rfl, hfile, hcwd, fun _ _ _ ↦ hread⟩
    · rintro ⟨_, w, hsid, hw, hcwd, -⟩
      obtain rfl := Option.some.inj hsid
      obtain rfl := Contents.doc.inj (Option.some.inj (hfile.symm.trans hw))
      exact hcwd
  · rw [projectBase_of_not_load fun v hv ↦ hload ⟨v, hv⟩]
    refine iff_of_false (loadedCwd_freshSession_ne uuid now) ?_
    rintro ⟨_, w, hsid, hw, -, hread⟩
    obtain rfl := Option.some.inj hsid
    obtain ⟨c, hc⟩ := Option.ne_none_iff_exists'.mp hsome
    rw [sessionFile, hc, Option.some_or] at hw
    exact hload ⟨w, loadSession_eq_ok_iff.mpr ⟨hparse, hread hparse hsome hwrite, hc.trans hw⟩⟩

/-- What `load` reads in the file that `set_project` leaves. -/
theorem loadedCwd_setProjectStore_iff {f : Faults} {uuid fileUuid : Uuid}
    {now created updated : String} {req : SetProjectRequest} {st st' : Store} {sid : SessionId}
    (h : setProjectStore parse f uuid fileUuid now created updated req st = (.ok sid, st')) :
    (∃ v, sessionFile st' sid = some (.doc v) ∧ loadedCwd v = "/") ↔ KeepsRoot parse f req st := by
  obtain ⟨cwd, _ | sid'⟩ := req
  · -- without a session id it creates one, from a new document
    refine iff_of_false ?_ (by rintro ⟨_, _, hsid, -⟩; cases hsid)
    obtain ⟨-, -, hok⟩ | ⟨-, e, he⟩ := createSession_cases f st fileUuid created updated
      (withProjectCwd cwd (projectBase parse f uuid now ⟨cwd, none⟩ st))
    · obtain ⟨hid, rfl⟩ := Prod.mk.inj (hok.symm.trans h)
      obtain rfl := Except.ok.inj hid
      rw [exists_loadedCwd_write_iff (w := freshSession uuid now)]
      · exact loadedCwd_freshSession_ne uuid now
      · rw [loadedCwd_insert _ (by decide) (by decide), loadedCwd_insert _ (by decide) (by decide),
          loadedCwd_insert _ (by decide) (by decide), loadedCwd_withProjectCwd]
        rfl
    · cases (Prod.mk.inj (he.symm.trans h)).1
  · obtain ⟨hid, hst⟩ := Prod.mk.inj h
    obtain rfl := Except.ok.inj hid
    obtain ⟨hparse, hsome, hwrite, hok⟩ | ⟨hf, e, he⟩ := updateSession_cases parse f sid' st updated
      (withProjectCwd cwd (projectBase parse f uuid now ⟨cwd, some sid'⟩ st))
    · rw [hok] at hst
      rw [← hst, exists_loadedCwd_write_iff
        (w := projectBase parse f uuid now ⟨cwd, some sid'⟩ st)]
      · exact loadedCwd_projectBase_iff hparse hsome hwrite
      · rw [loadedCwd_updated, loadedCwd_withProjectCwd]
    · -- the file is left alone
      rw [he] at hst
      rw [← hst]
      constructor
      · rintro ⟨v, hv, hcwd⟩
        exact ⟨sid', v, rfl, hv, hcwd, fun hparse hsome hwrite ↦
          absurd ⟨hparse, hsome, hwrite⟩ hf⟩
      · rintro ⟨_, v, hsid, hv, hcwd, -⟩
        obtain rfl := Option.some.inj hsid
        exact ⟨v, hv, hcwd⟩

/-- A call of `set_project` that reports success has set the directory in the table of the
process. -/
theorem serve_setProject {env : Env} {app : AppState} {st : Store} {req : SetProjectRequest}
    {sid : SessionId} (h : createdId (serve parse env app st (.setProject req)).1 = some sid) :
    ∃ st', setProjectStore parse env.faults env.uuid env.fileUuid env.now env.created env.updated
        req st = (.ok sid, st') ∧
      (serve parse env app st (.setProject req)).2 = (setProjectTables app sid req.cwd, st') := by
  simp only [serve, setProject] at h ⊢
  split at h
  · rename_i sid' st' hok
    have hsid : createdId ⟨201, .obj [("success", .bool true), ("sessionId", .str sid'),
        ("cwd", .str req.cwd)]⟩ = some sid' := rfl
    obtain rfl := Option.some.inj (hsid.symm.trans h)
    exact ⟨st', hok, rfl⟩
  · rw [createdId_failure] at h
    cases h

/-- A session whose document has `/` at its top. -/
def rootStore : Store := Store.empty.write exampleEnv.uuid.text (.obj [("cwd", .str "/")])

end Iff

end WorkWithMe.Sessions
