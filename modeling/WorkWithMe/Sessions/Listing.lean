import Mathlib.Data.List.Sort
import WorkWithMe.Sessions.Store

/-!
# The list of the sessions

`list_sessions_all` reads the two directories in the order in which the file system gives their
entries, adds the path and the place of every session to its document, and sorts the documents by
their times.  `Listing` is such an order, for a given store.

* `Change` says what a call can do to the store, and `change_serve` and `change_labelStep` that it
  can do nothing else.
* `Written` are the stores that any sequence of calls leaves, starting from none: every file in them
  holds a document, so `length_listSessionsAll` counts the files.
* `mem_listSessionsAll`: the documents that are listed are those of the files.
-/

set_option autoImplicit false

namespace WorkWithMe.Sessions

open JsonFile Server

/-! ## What calls do to the store -/

/-- The store has changed in one of the ways in which calls change it, or not at all. -/
inductive Change (st : Store) : Store → Prop where
  | same : Change st st
  | write (id : SessionId) (v : Json) : Change st (st.write id v)
  | toArchive (id : SessionId) (c : Contents) (hc : st.active id = some c) :
      Change st (st.moveToArchive id c)
  | fromArchive (id : SessionId) (c : Contents) (hc : st.archived id = some c) :
      Change st (st.moveFromArchive id c)

section Change

variable (parse : SessionId → Bool) (f : Faults) (id : SessionId) (st : Store)

theorem change_createSession (uuid : Uuid) (created updated : String) (data : Json) :
    Change st (createSession f uuid created updated data st).2 := by
  obtain ⟨-, -, hok⟩ | ⟨-, e, he⟩ := createSession_cases f st uuid created updated data
  · rw [hok]
    exact .write ..
  · rw [he]
    exact .same

theorem change_updateSession (updated : String) (data : Json) :
    Change st (updateSession parse f id updated data st).2 := by
  obtain ⟨-, -, -, hok⟩ | ⟨-, e, he⟩ := updateSession_cases parse f id st updated data
  · rw [hok]
    exact .write ..
  · rw [he]
    exact .same

theorem change_archiveSession : Change st (archiveSession parse f id st).2 := by
  obtain ⟨r, -, hno⟩ | ⟨c, -, hc, hok⟩ := archiveSession_cases parse f id st
  · rw [hno]
    exact .same
  · rw [hok]
    exact .toArchive id c hc

theorem change_unarchiveSession : Change st (unarchiveSession parse f id st).2 := by
  obtain ⟨r, -, hno⟩ | ⟨c, -, hc, hok⟩ := unarchiveSession_cases parse f id st
  · rw [hno]
    exact .same
  · rw [hok]
    exact .fromArchive id c hc

/-- **What a call can do to the store.** -/
theorem change_serve (env : Env) (app : AppState) (call : StoreCall) :
    Change st (serve parse env app st call).2.2 := by
  cases call with
  | create data =>
    simp only [serve, create_store]
    exact change_createSession ..
  | createAgentSession metadata =>
    simp only [serve, createAgentSession_store]
    exact change_createSession ..
  | update id data =>
    simp only [serve, update_store]
    exact change_updateSession ..
  | setProject req =>
    simp only [serve, setProject_store]
    obtain ⟨cwd, _ | sid⟩ := req
    · exact change_createSession ..
    · exact change_updateSession ..
  | archive id =>
    simp only [serve, archive_store]
    exact change_archiveSession ..
  | archiveByPath id archived =>
    simp only [serve, archiveByPath_store]
    cases archived with
    | true => exact change_archiveSession ..
    | false => exact change_unarchiveSession ..

/-- What the label step can do to the store. -/
theorem change_labelStep (label updated : String) :
    Change st (labelStep parse f id label updated st) := by
  rw [labelStep]
  split
  · split
    · exact .same
    · exact change_updateSession ..
  · exact .same

end Change

/-- The stores that calls leave behind. -/
inductive Written (parse : SessionId → Bool) : Store → Prop where
  | empty : Written parse .empty
  | call {st : Store} (env : Env) (app : AppState) (call : StoreCall) (h : Written parse st) :
      Written parse (serve parse env app st call).2.2
  | label {st : Store} (f : Faults) (id : SessionId) (label updated : String)
      (h : Written parse st) : Written parse (labelStep parse f id label updated st)

/-- Every file holds a document. -/
def AllDocs (st : Store) : Prop :=
  ∀ id c, st.active id = some c ∨ st.archived id = some c → ∃ v, c = .doc v

section AllDocs

variable {parse : SessionId → Bool} {st st' : Store}

theorem AllDocs.change (hst : AllDocs st) (h : Change st st') : AllDocs st' := by
  cases h with
  | same => exact hst
  | write id v => exact Store.Holds.write (P := fun _ c ↦ ∃ v, c = .doc v) hst ⟨v, rfl⟩
  | toArchive id c hc => exact Store.Holds.toArchive hst hc
  | fromArchive id c hc => exact Store.Holds.fromArchive hst hc

/-- **A store that calls have left has documents only.** -/
theorem Written.allDocs (h : Written parse st) : AllDocs st := by
  induction h with
  | empty => exact fun id c hc ↦ by simp [Store.empty] at hc
  | call env app call _ ih => exact ih.change (change_serve parse _ env app call)
  | label f id label updated _ ih => exact ih.change (change_labelStep parse f id _ label updated)

end AllDocs

/-! ## Listing -/

/-- The files of the two directories, in the order in which they are read. -/
structure Listing (st : Store) where
  active : List SessionId
  archived : List SessionId
  nodup_active : active.Nodup
  nodup_archived : archived.Nodup
  mem_active : ∀ id, id ∈ active ↔ st.active id ≠ none
  mem_archived : ∀ id, id ∈ archived ↔ st.archived id ≠ none

/-- The document in a file, if it can be parsed. -/
def parsed : Contents → Option Json
  | .doc v => some v
  | .garbled _ => none

/-- An entry for an active session: its place is not overwritten. -/
def activeEntry (path : String) (v : Json) : Json :=
  let v := v.insert "path" (.str path)
  if (v.get "archived").isSome then v else v.insert "archived" (.bool false)

/-- An entry for an archived session. -/
def archivedEntry (path : String) (v : Json) : Json :=
  (v.insert "path" (.str path)).insert "archived" (.bool true)

/-- The time by which a session is sorted. -/
def sortTime (v : Json) : String :=
  (((v.get "updated_at").or (v.get "created_at")).bind Json.asStr).getD ""

/-- The file of a session in a directory. -/
def filePath (dir : String) (id : SessionId) : String := dir ++ "/" ++ id ++ ".json"

/-- The entries of a directory: files that cannot be parsed are left out. -/
def dirEntries (files : SessionId → Option Contents) (entry : String → Json → Json) (dir : String)
    (ids : List SessionId) : List Json :=
  ids.filterMap fun id ↦ ((files id).bind parsed).map (entry (filePath dir id))

section List

variable (sessionsDir : String) {st : Store} (l : Listing st)

/-- All the entries. -/
def allEntries (includeArchived : Bool) : List Json :=
  dirEntries st.active activeEntry sessionsDir l.active ++
    if includeArchived then
      dirEntries st.archived archivedEntry (sessionsDir ++ "/archive") l.archived
    else []

/-- `list_sessions_all`, when every file can be read. -/
def listSessionsAll (f : Faults) (includeArchived : Bool) : Except String (List Json) :=
  match f.dir with
  | some e => .error ("Failed to create sessions directory: " ++ e)
  | none => .ok ((allEntries sessionsDir l includeArchived).insertionSort
      fun v w ↦ sortTime w ≤ sortTime v)

/-- `list` of `sessions_endpoints.rs`. -/
def list (f : Faults) (includeArchived : Bool) : Json :=
  match listSessionsAll sessionsDir l f includeArchived with
  | .ok sessions => .arr sessions
  | .error _ => .arr []

end List

section Entries

variable {files : SessionId → Option Contents} {entry : String → Json → Json} {dir : String}
  {ids : List SessionId}

theorem mem_dirEntries (hids : ∀ id, id ∈ ids ↔ files id ≠ none) {w : Json} :
    w ∈ dirEntries files entry dir ids ↔
      ∃ id v, files id = some (.doc v) ∧ w = entry (filePath dir id) v := by
  simp only [dirEntries, List.mem_filterMap, Option.map_eq_some_iff, Option.bind_eq_some_iff]
  constructor
  · rintro ⟨id, -, v, ⟨c, hc, hv⟩, rfl⟩
    cases c with
    | doc v' => cases hv; exact ⟨id, _, hc, rfl⟩
    | garbled e => cases hv
  · rintro ⟨id, v, hc, rfl⟩
    exact ⟨id, (hids id).mpr (by rw [hc]; simp), v, ⟨_, hc, rfl⟩, rfl⟩

/-- Files that hold documents are all listed. -/
theorem length_dirEntries (hdocs : ∀ id ∈ ids, ∃ v, files id = some (.doc v)) :
    (dirEntries files entry dir ids).length = ids.length := by
  induction ids with
  | nil => rfl
  | cons id ids ih =>
    obtain ⟨⟨v, hv⟩, hrest⟩ := List.forall_mem_cons.mp hdocs
    have hhead : ((files id).bind parsed).map (entry (filePath dir id)) =
        some (entry (filePath dir id) v) := by
      rw [hv]
      rfl
    rw [dirEntries, List.filterMap_cons, hhead, List.length_cons, List.length_cons]
    exact congrArg Nat.succ (ih hrest)

end Entries

section List

variable {sessionsDir : String} {st : Store} {l : Listing st} {f : Faults} {sessions : List Json}

/-- What is listed is what is there. -/
theorem perm_listSessionsAll {includeArchived : Bool}
    (h : listSessionsAll sessionsDir l f includeArchived = .ok sessions) :
    sessions.Perm (allEntries sessionsDir l includeArchived) := by
  rw [listSessionsAll] at h
  split at h
  · cases h
  · cases h
    exact List.perm_insertionSort ..

/-- **The list has the documents in the files**, each with its path and its place. -/
theorem mem_listSessionsAll (h : listSessionsAll sessionsDir l f true = .ok sessions) {w : Json} :
    w ∈ sessions ↔
      (∃ id v, st.active id = some (.doc v) ∧ w = activeEntry (filePath sessionsDir id) v) ∨
        ∃ id v, st.archived id = some (.doc v) ∧
          w = archivedEntry (filePath (sessionsDir ++ "/archive") id) v := by
  rw [(perm_listSessionsAll h).mem_iff, allEntries, if_pos rfl, List.mem_append,
    mem_dirEntries l.mem_active, mem_dirEntries l.mem_archived]

/-- **Every file is listed**, in a store that calls have left. -/
theorem length_listSessionsAll (hst : AllDocs st)
    (h : listSessionsAll sessionsDir l f true = .ok sessions) :
    sessions.length = l.active.length + l.archived.length := by
  have hactive : ∀ id ∈ l.active, ∃ v, st.active id = some (.doc v) := by
    intro id hid
    obtain ⟨c, hc⟩ := Option.ne_none_iff_exists'.mp ((l.mem_active id).mp hid)
    obtain ⟨v, rfl⟩ := hst id c (Or.inl hc)
    exact ⟨v, hc⟩
  have harchived : ∀ id ∈ l.archived, ∃ v, st.archived id = some (.doc v) := by
    intro id hid
    obtain ⟨c, hc⟩ := Option.ne_none_iff_exists'.mp ((l.mem_archived id).mp hid)
    obtain ⟨v, rfl⟩ := hst id c (Or.inr hc)
    exact ⟨v, hc⟩
  rw [(perm_listSessionsAll h).length_eq, allEntries, if_pos rfl, List.length_append,
    length_dirEntries hactive, length_dirEntries harchived]

end List

/-- The path and the place are all that an entry has beside its document. -/
theorem get_activeEntry (path : String) (v : Json) {k : String} (hpath : k ≠ "path")
    (harchived : k ≠ "archived") : (activeEntry path v).get k = v.get k := by
  rw [activeEntry]
  split
  · exact Json.get_insert_of_ne v hpath _
  · rw [Json.get_insert_of_ne _ harchived, Json.get_insert_of_ne v hpath]

theorem get_archivedEntry (path : String) (v : Json) {k : String} (hpath : k ≠ "path")
    (harchived : k ≠ "archived") : (archivedEntry path v).get k = v.get k := by
  rw [archivedEntry, Json.get_insert_of_ne _ harchived, Json.get_insert_of_ne v hpath]

end WorkWithMe.Sessions
