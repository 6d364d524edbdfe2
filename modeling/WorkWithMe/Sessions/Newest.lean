import WorkWithMe.Lib.Chrono
import WorkWithMe.Sessions.Listing

/-!
# The newest session first

`list_sessions_all` sorts the sessions by the texts of their times.  `create_session` and
`update_session` leave the time of `to_rfc3339` in every document that is an object.

* `WrittenAt` are the stores that the two have written, at any instants and in any order, and of
  which any sessions have been archived or taken out of the archive.
* `nanos_le_of_sortTime_le` compares two documents by the instants at which they were updated.
* **`newestFirst`** says that the list has every document of the directory once, and of the archive
  if it is asked for, each with its path and its place, and that it goes back in time.
-/

set_option autoImplicit false

namespace WorkWithMe.Sessions

open JsonFile Server Chrono

/-! ## The stores -/

/-- The stores that the two functions have written with objects, some sessions of which may have
been moved. -/
inductive WrittenAt (parse : SessionId → Bool) : Store → Prop where
  | empty : WrittenAt parse .empty
  | create {st : Store} (f : Faults) (uuid : Uuid) (created updated : Utc) (data : Json)
      (hdata : data.isObject = true) (h : WrittenAt parse st) : WrittenAt parse
        (createSession f uuid (toRfc3339 created) (toRfc3339 updated) data st).2
  | update {st : Store} (f : Faults) (id : SessionId) (updated : Utc) (data : Json)
      (hdata : data.isObject = true) (h : WrittenAt parse st) : WrittenAt parse
        (updateSession parse f id (toRfc3339 updated) data st).2
  | archive {st : Store} (f : Faults) (id : SessionId) (h : WrittenAt parse st) :
      WrittenAt parse (archiveSession parse f id st).2
  | unarchive {st : Store} (f : Faults) (id : SessionId) (h : WrittenAt parse st) :
      WrittenAt parse (unarchiveSession parse f id st).2

/-- The document was updated at the instant. -/
def UpdatedAt (v : Json) (t : Utc) : Prop := v.get "updated_at" = some (.str (toRfc3339 t))

/-- What the file holds is an object that was updated at some instant. -/
def Stamped (c : Contents) : Prop :=
  ∃ v t, c = .doc v ∧ v.isObject = true ∧ UpdatedAt v t

section Stamped

variable {parse : SessionId → Bool} {st : Store}

/-- **Every document has the instant at which it was updated.** -/
theorem WrittenAt.stamped (h : WrittenAt parse st) : st.Holds fun _ c ↦ Stamped c := by
  induction h with
  | empty => exact fun id c hc ↦ by simp [Store.empty] at hc
  | create f uuid created updated data hdata _ ih =>
    obtain ⟨-, -, hok⟩ | ⟨-, e, he⟩ := createSession_cases f _ uuid (toRfc3339 created)
      (toRfc3339 updated) data
    · rw [hok]
      refine ih.write ⟨_, updated, rfl, by simpa using hdata, ?_⟩
      rw [UpdatedAt, Json.get_insert_of_ne _ (by decide)]
      exact Json.get_insert_self (by simpa using hdata) _ _
    · rw [he]
      exact ih
  | update f id updated data hdata _ ih =>
    obtain ⟨-, -, -, hok⟩ | ⟨-, e, he⟩ := updateSession_cases parse f id _ (toRfc3339 updated) data
    · rw [hok]
      exact ih.write ⟨_, updated, rfl, by simpa using hdata, Json.get_insert_self hdata _ _⟩
    · rw [he]
      exact ih
  | archive f id _ ih =>
    obtain ⟨r, -, hno⟩ | ⟨c, -, hc, hok⟩ := archiveSession_cases parse f id _
    · rw [hno]
      exact ih
    · rw [hok]
      exact ih.toArchive hc
  | unarchive f id _ ih =>
    obtain ⟨r, -, hno⟩ | ⟨c, -, hc, hok⟩ := unarchiveSession_cases parse f id _
    · rw [hno]
      exact ih
    · rw [hok]
      exact ih.fromArchive hc

end Stamped

/-! ## The entries -/

/-- The entry is the document with its path and its place filled in. -/
structure FilledIn (path : String) (place v w : Json) : Prop where
  path : w.get "path" = some (.str path)
  archived : w.get "archived" = some place
  rest : ∀ k, k ≠ "path" → k ≠ "archived" → w.get k = v.get k

/-- The place of an active session: the one that its document has, if it has one. -/
def activePlace (v : Json) : Json := (v.get "archived").getD (.bool false)

section Entries

variable {v : Json}

theorem filledIn_activeEntry (hv : v.isObject = true) (path : String) :
    FilledIn path (activePlace v) v (activeEntry path v) := by
  have hpath : (v.insert "path" (.str path)).get "archived" = v.get "archived" :=
    Json.get_insert_of_ne v (by decide) _
  refine ⟨?_, ?_, fun k hpath harchived ↦ get_activeEntry path v hpath harchived⟩
  · rw [activeEntry]
    split
    · exact Json.get_insert_self hv _ _
    · rw [Json.get_insert_of_ne _ (by decide), Json.get_insert_self hv]
  · rw [activeEntry, activePlace]
    rw [hpath]
    cases harchived : v.get "archived" with
    | none => exact Json.get_insert_self (by simpa using hv) _ _
    | some place => exact hpath.trans harchived

theorem filledIn_archivedEntry (hv : v.isObject = true) (path : String) :
    FilledIn path (.bool true) v (archivedEntry path v) where
  path := by rw [archivedEntry, Json.get_insert_of_ne _ (by decide), Json.get_insert_self hv]
  archived := Json.get_insert_self (by simpa using hv) _ _
  rest _ hpath harchived := get_archivedEntry path v hpath harchived

/-- The documents in the files of a directory, one for each, and the entries that are made of
them. -/
structure Enters (files : SessionId → Option Contents) (entry : String → Json → Json) (dir : String)
    (place : Json → Json) (ids : List SessionId) (docs : List (SessionId × Json)) : Prop where
  ids : docs.map Prod.fst = ids
  read : ∀ x ∈ docs, files x.1 = some (.doc x.2)
  filledIn : ∀ x ∈ docs,
    FilledIn (filePath dir x.1) (place x.2) x.2 (entry (filePath dir x.1) x.2)

/-- The entries of a directory that has documents with their instants only. -/
theorem exists_enters {files : SessionId → Option Contents} {entry : String → Json → Json}
    {place : Json → Json} (dir : String) {ids : List SessionId}
    (hids : ∀ id ∈ ids, ∃ c, files id = some c ∧ Stamped c)
    (hentry : ∀ path v, v.isObject = true → FilledIn path (place v) v (entry path v)) :
    ∃ docs, Enters files entry dir place ids docs ∧
      dirEntries files entry dir ids = docs.map fun x ↦ entry (filePath dir x.1) x.2 := by
  induction ids with
  | nil => exact ⟨[], ⟨rfl, by simp, by simp⟩, rfl⟩
  | cons id ids ih =>
    obtain ⟨⟨c, hc, v, t, rfl, hv, -⟩, hrest⟩ := List.forall_mem_cons.mp hids
    obtain ⟨docs, hdocs, hentries⟩ := ih hrest
    refine ⟨(id, v) :: docs, ⟨?_, ?_, ?_⟩, ?_⟩
    · rw [List.map_cons, hdocs.ids]
    · exact List.forall_mem_cons.mpr ⟨hc, hdocs.read⟩
    · exact List.forall_mem_cons.mpr ⟨hentry _ v hv, hdocs.filledIn⟩
    · rw [List.map_cons, ← hentries, dirEntries, List.filterMap_cons, hc]
      rfl

/-- Entries have the instants of their documents. -/
theorem exists_updatedAt {files : SessionId → Option Contents} {entry : String → Json → Json}
    {place : Json → Json} {dir : String} {ids : List SessionId} {docs : List (SessionId × Json)}
    (hdocs : Enters files entry dir place ids docs)
    (hfiles : ∀ id c, files id = some c → Stamped c) {w : Json}
    (hw : w ∈ docs.map fun x ↦ entry (filePath dir x.1) x.2) : ∃ t, UpdatedAt w t := by
  obtain ⟨x, hx, rfl⟩ := List.mem_map.mp hw
  obtain ⟨v, t, hv, -, ht⟩ := hfiles x.1 _ (hdocs.read x hx)
  obtain rfl := Contents.doc.inj hv
  exact ⟨t, ((hdocs.filledIn x hx).rest "updated_at" (by decide) (by decide)).trans ht⟩

end Entries

/-! ## The order -/

section Order

variable {v w : Json} {s t : Utc}

theorem sortTime_of_updatedAt (h : UpdatedAt v t) : sortTime v = toRfc3339 t := by
  rw [UpdatedAt] at h
  simp [sortTime, h, Json.asStr]

/-- Of two documents, the one that is sorted first was not updated earlier. -/
theorem nanos_le_of_sortTime_le (hv : UpdatedAt v s) (hw : UpdatedAt w t)
    (h : sortTime w ≤ sortTime v) : t.nanos ≤ s.nanos := by
  rw [sortTime_of_updatedAt hv, sortTime_of_updatedAt hw] at h
  exact Nat.le_of_not_lt fun hlt ↦ absurd (toRfc3339_lt hlt) (not_lt_of_ge h)

/-- What is sorted is in the order of the texts. -/
theorem pairwise_sortTime (entries : List Json) :
    (entries.insertionSort fun v w ↦ sortTime w ≤ sortTime v).Pairwise
      fun v w ↦ sortTime w ≤ sortTime v :=
  have : Std.Total (fun v w : Json ↦ sortTime w ≤ sortTime v) :=
    ⟨fun v w ↦ le_total (sortTime w) (sortTime v)⟩
  have : IsTrans Json (fun v w ↦ sortTime w ≤ sortTime v) := ⟨fun _ _ _ h₁ h₂ ↦ h₂.trans h₁⟩
  List.pairwise_insertionSort ..

end Order

section Newest

variable {parse : SessionId → Bool} {st : Store}

/-- **The newest session first.** -/
theorem newestFirst (hst : WrittenAt parse st) (l : Listing st) {sessionsDir : String} {f : Faults}
    {includeArchived : Bool} {sessions : List Json}
    (h : listSessionsAll sessionsDir l f includeArchived = .ok sessions) :
    (∃ active archived : List (SessionId × Json),
      Enters st.active activeEntry sessionsDir activePlace l.active active ∧
      Enters st.archived archivedEntry (sessionsDir ++ "/archive") (fun _ ↦ .bool true) l.archived
        archived ∧
      sessions.Perm ((active.map fun x ↦ activeEntry (filePath sessionsDir x.1) x.2) ++
        if includeArchived then
          archived.map fun x ↦ archivedEntry (filePath (sessionsDir ++ "/archive") x.1) x.2
        else [])) ∧
    (∀ w ∈ sessions, ∃ t, UpdatedAt w t) ∧
    sessions.Pairwise fun v w ↦ ∀ s t, UpdatedAt v s → UpdatedAt w t → t.nanos ≤ s.nanos := by
  have hstamped := hst.stamped
  have hactive : ∀ id c, st.active id = some c → Stamped c :=
    fun id c hc ↦ hstamped id c (Or.inl hc)
  have harchived : ∀ id c, st.archived id = some c → Stamped c :=
    fun id c hc ↦ hstamped id c (Or.inr hc)
  have hids : ∀ {files : SessionId → Option Contents} {ids : List SessionId},
      (∀ id, id ∈ ids ↔ files id ≠ none) → (∀ id c, files id = some c → Stamped c) →
        ∀ id ∈ ids, ∃ c, files id = some c ∧ Stamped c := by
    intro files ids hmem hfiles id hid
    obtain ⟨c, hc⟩ := Option.ne_none_iff_exists'.mp ((hmem id).mp hid)
    exact ⟨c, hc, hfiles id c hc⟩
  obtain ⟨active, henters, hentries⟩ := exists_enters sessionsDir (hids l.mem_active hactive)
    fun path v hv ↦ filledIn_activeEntry hv path
  obtain ⟨archived, henters', hentries'⟩ := exists_enters (sessionsDir ++ "/archive")
    (hids l.mem_archived harchived) fun path v hv ↦ filledIn_archivedEntry hv path
  have hperm := perm_listSessionsAll h
  rw [allEntries, hentries, hentries'] at hperm
  refine ⟨⟨active, archived, henters, henters', hperm⟩, fun w hw ↦ ?_, ?_⟩
  · obtain hw | hw := List.mem_append.mp (hperm.mem_iff.mp hw)
    · exact exists_updatedAt henters hactive hw
    · cases includeArchived with
      | false => cases hw
      | true => exact exists_updatedAt henters' harchived hw
  · rw [listSessionsAll] at h
    split at h
    · cases h
    · obtain rfl := Except.ok.inj h
      exact (pairwise_sortTime _).imp fun hle s t hs ht ↦ nanos_le_of_sortTime_le hs ht hle

end Newest

/-! ## Two sessions -/

/-- An instant, to the second. -/
def exampleTime : Utc :=
  ⟨2024, 2, 29, 23, 59, 59, 0, by decide, by decide, by decide, by decide, by decide, by decide,
    by decide⟩

/-- Half a second later. -/
def laterTime : Utc :=
  ⟨2024, 2, 29, 23, 59, 59, 500000000, by decide, by decide, by decide, by decide, by decide,
    by decide, by decide⟩

/-- Two sessions that were created one after the other. -/
def twoSessions : Store :=
  (createSession .none ⟨"9a3b7c52-4f1e-4d20-8c6b-2e5f0a917d42", by decide⟩ (toRfc3339 laterTime)
    (toRfc3339 laterTime) (.obj [])
    (createSession .none ⟨"1c9d2e60-73ab-4e58-9f04-b6d81a3c5e77", by decide⟩
      (toRfc3339 exampleTime) (toRfc3339 exampleTime) (.obj []) .empty).2).2

/-- The first one is read first. -/
def twoListing : Listing twoSessions where
  active := ["1c9d2e60-73ab-4e58-9f04-b6d81a3c5e77", "9a3b7c52-4f1e-4d20-8c6b-2e5f0a917d42"]
  archived := []
  nodup_active := by decide
  nodup_archived := List.nodup_nil
  mem_active id := by
    by_cases h : id = "9a3b7c52-4f1e-4d20-8c6b-2e5f0a917d42"
    · simp [h, twoSessions, createSession, Faults.none, Store.write]
    · simp [h, twoSessions, createSession, Faults.none, Store.write, Store.empty,
        Function.update_apply]
  mem_archived id := by simp [twoSessions, createSession, Faults.none, Store.write, Store.empty]

theorem newestFirst_example : ∃ sessions,
    listSessionsAll "/root/.pi/sessions" twoListing .none false = .ok sessions ∧
      sessions.Pairwise fun v w ↦ ∀ s t, UpdatedAt v s → UpdatedAt w t → t.nanos ≤ s.nanos := by
  have hst : WrittenAt (fun _ ↦ true) twoSessions :=
    .create _ _ _ _ _ rfl (.create _ _ _ _ _ rfl .empty)
  have hlist : listSessionsAll "/root/.pi/sessions" twoListing .none false = .ok _ := rfl
  exact ⟨_, hlist, (newestFirst hst twoListing hlist).2.2⟩

end WorkWithMe.Sessions
