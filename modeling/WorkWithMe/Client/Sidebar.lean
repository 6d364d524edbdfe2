import WorkWithMe.Lib.Grouping
import WorkWithMe.Lib.Js
import WorkWithMe.Sessions.Listing

/-!
# The sidebar

`fetchSessions` takes the list of `list_sessions_all` for a `Session[]`, and `Sidebar.tsx` reads
`name`, `firstMessage`, `cwd` and `archived` of each session, at the top of its document.  The back
end keeps the label and the directory of a session in its `metadata`.

A document can be anything, since `PUT /api/sessions/{id}` stores what it is sent.  For some of them
React throws, and then there is no sidebar; `sidebarRows` is `none` in this case.  The archive is
taken to be unfolded.

* `sidebarRows_eq_some` says what the rows are, and `isSome_sidebarRows_iff` when there are any.
* `sidebar_iff`: for which stores the sidebar shows the labels and directories in the metadata.
* `not_sidebar_of_create` is what `POST /api/agent/session` leaves.
-/

set_option autoImplicit false

namespace WorkWithMe.Client

open JsonFile Server Sessions

/-! ## Rows -/

section Rows

variable (n : Js.Numbers)

mutual

/-- The text of a value that is a child of an element.  React throws for an object. -/
def nodeText : Json → Option String
  | .null => some ""
  | .bool _ => some ""
  | .num t => some (n.toText t)
  | .str s => some s
  | .arr elems => nodesText elems
  | .obj _ => none

/-- The text of the elements of an array. -/
def nodesText : List Json → Option String
  | [] => some ""
  | v :: vs =>
    match nodeText v, nodesText vs with
    | some a, some b => some (a ++ b)
    | _, _ => none

end

/-- `session.name || session.firstMessage || "New Session"`. -/
def label (session : Json) : Json :=
  Js.firstTruthy n [session.get "name", session.get "firstMessage"] (.str "New Session")

/-- The key `session.cwd || "Recent"` of the group of a session.  `null` has no members, and an
object that has no groups yet does have members of its prototype, to which no session can be
pushed: in both cases there is a `TypeError`. -/
def project (session : Json) : Option String :=
  match session with
  | .null => none
  | session =>
    (Js.toText n (Js.firstTruthy n [session.get "cwd"] (.str "Recent"))).filter
      fun key ↦ key ∉ Js.objectMembers

/-- `session.archived`, as a condition. -/
def isArchived (session : Json) : Bool := (session.get "archived").any (Js.truthy n)

/-- `groupSessionsByProject`.  In JavaScript the groups whose keys are numbers come first; the order
of the groups plays no role here. -/
def groupSessionsByProject (items : List Json) : Option (List (String × List Json)) :=
  Grouping.group (project n) items

/-- A `SessionRow`, with the key of its group. -/
structure SidebarRow where
  project : String
  session : Json
  label : String

/-- The row of a session. -/
def sessionRow (entry : String × Json) : Option SidebarRow :=
  (nodeText n (label n entry.2)).map fun text ↦ ⟨entry.1, entry.2, text⟩

/-- The rows of the sidebar: the active sessions, and then the archived ones. -/
def sidebarRows (sessions : List Json) : Option (List SidebarRow) :=
  match groupSessionsByProject n (sessions.filter fun v ↦ !isArchived n v),
    groupSessionsByProject n (sessions.filter (isArchived n)) with
  | some groupedActive, some groupedArchived =>
    let entries := Grouping.entries groupedActive ++ Grouping.entries groupedArchived
    if entries.all fun entry ↦ (sessionRow n entry).isSome then
      some (entries.filterMap (sessionRow n))
    else none
  | _, _ => none

end Rows

/-! ## What the metadata say -/

/-- A non-empty string in the metadata. -/
def metadataText (k : String) (session : Json) : Option String :=
  (((session.get "metadata").bind fun m ↦ m.get k).bind Json.asStr).filter fun s ↦ s ≠ ""

/-- The row shows the label in the metadata, if there is one, and is in the group of the directory
in the metadata, or else in `Recent`. -/
def SidebarRow.ShowsMetadata (row : SidebarRow) : Prop :=
  (∀ text, metadataText "label" row.session = some text → row.label = text) ∧
    row.project = (metadataText "cwd" row.session).getD "Recent"

/-- **The sidebar shows what the store holds**: there is one row for each entry, and so many as
there are files, and each shows the metadata. -/
def SidebarShows (n : Js.Numbers) {st : Store} (l : Listing st) (sessions : List Json) : Prop :=
  ∃ rows, sidebarRows n sessions = some rows ∧
    (rows.map SidebarRow.session).Perm sessions ∧
    rows.length = l.active.length + l.archived.length ∧ ∀ row ∈ rows, row.ShowsMetadata

/-- What a document has at its top, where the sidebar looks, agrees with its metadata: `name` or
else `firstMessage` is the label, or is at any rate a text, and `cwd` is the directory. -/
def Agrees (n : Js.Numbers) (v : Json) : Prop :=
  (∃ text, nodeText n (label n v) = some text ∧
    ∀ text', metadataText "label" v = some text' → text = text') ∧
    project n v = some ((metadataText "cwd" v).getD "Recent")

/-! ## The rows -/

section Rows

variable {n : Js.Numbers} {items sessions : List Json} {rows : List SidebarRow}

theorem groupSessionsByProject_eq_none_iff :
    groupSessionsByProject n items = none ↔ ∃ v ∈ items, project n v = none :=
  Grouping.group_eq_none_iff

/-- Every session is in its group. -/
theorem perm_of_group {gs : List (String × List Json)}
    (h : groupSessionsByProject n items = some gs) :
    (Grouping.entries gs).Perm (items.filterMap fun v ↦ (project n v).map fun k ↦ (k, v)) :=
  Grouping.entries_perm_of_group h

theorem map_snd_filterMap_project (h : ∀ v ∈ items, project n v ≠ none) :
    (items.filterMap fun v ↦ (project n v).map fun k ↦ (k, v)).map Prod.snd = items := by
  induction items with
  | nil => rfl
  | cons v items ih =>
    obtain ⟨hv, hrest⟩ := List.forall_mem_cons.mp h
    obtain ⟨k, hk⟩ := Option.ne_none_iff_exists'.mp hv
    rw [List.filterMap_cons, hk]
    exact congrArg (v :: ·) (ih hrest)

theorem map_session_filterMap {entries : List (String × Json)}
    (h : ∀ e ∈ entries, (sessionRow n e).isSome = true) :
    (entries.filterMap (sessionRow n)).map SidebarRow.session = entries.map Prod.snd := by
  induction entries with
  | nil => rfl
  | cons e entries ih =>
    obtain ⟨he, hrest⟩ := List.forall_mem_cons.mp h
    obtain ⟨row, hrow⟩ := Option.isSome_iff_exists.mp he
    obtain ⟨text, -, rfl⟩ := Option.map_eq_some_iff.mp hrow
    rw [List.filterMap_cons, hrow]
    exact congrArg (e.2 :: ·) (ih hrest)

/-- The entries of all the groups. -/
theorem perm_entries {active archived : List (String × List Json)}
    (hactive : groupSessionsByProject n (sessions.filter fun v ↦ !isArchived n v) = some active)
    (harchived : groupSessionsByProject n (sessions.filter (isArchived n)) = some archived) :
    (Grouping.entries active ++ Grouping.entries archived).Perm
      (sessions.filterMap fun v ↦ (project n v).map fun k ↦ (k, v)) := by
  refine ((perm_of_group hactive).append (perm_of_group harchived)).trans ?_
  rw [← List.filterMap_append]
  exact (List.perm_append_comm.trans (List.filter_append_perm _ _)).filterMap _

/-- **What the rows are**: one for each session, in the group of its `project`, with its `label`. -/
theorem sidebarRows_eq_some (h : sidebarRows n sessions = some rows) :
    (rows.map SidebarRow.session).Perm sessions ∧
      ∀ row ∈ rows, project n row.session = some row.project ∧
        nodeText n (label n row.session) = some row.label := by
  rw [sidebarRows] at h
  split at h
  · rename_i active archived hactive harchived
    simp only [List.all_eq_true] at h
    obtain ⟨hall, h⟩ := Option.ite_none_right_eq_some.mp h
    cases h
    have hperm := perm_entries hactive harchived
    constructor
    · rw [map_session_filterMap hall]
      refine (hperm.map Prod.snd).trans (List.Perm.of_eq (map_snd_filterMap_project ?_))
      intro v hv hnone
      by_cases harch : isArchived n v = true
      · exact absurd (groupSessionsByProject_eq_none_iff.mpr
          ⟨v, List.mem_filter.mpr ⟨hv, harch⟩, hnone⟩) (by rw [harchived]; nofun)
      · have hmem : v ∈ sessions.filter fun v ↦ !isArchived n v :=
          List.mem_filter.mpr ⟨hv, by simpa using harch⟩
        exact absurd (groupSessionsByProject_eq_none_iff.mpr ⟨v, hmem, hnone⟩)
          (by rw [hactive]; nofun)
    · intro row hrow
      obtain ⟨e, he, hrow⟩ := List.mem_filterMap.mp hrow
      obtain ⟨text, htext, rfl⟩ := Option.map_eq_some_iff.mp hrow
      obtain ⟨v, -, hv⟩ := List.mem_filterMap.mp (hperm.mem_iff.mp he)
      obtain ⟨k, hk, rfl⟩ := Option.map_eq_some_iff.mp hv
      exact ⟨hk, htext⟩
  · cases h

/-- **When there are rows**: no session makes React throw. -/
theorem isSome_sidebarRows_iff : (sidebarRows n sessions).isSome = true ↔
    ∀ v ∈ sessions, project n v ≠ none ∧ nodeText n (label n v) ≠ none := by
  constructor
  · intro h v hv
    obtain ⟨rows, hrows⟩ := Option.isSome_iff_exists.mp h
    obtain ⟨hperm, hall⟩ := sidebarRows_eq_some hrows
    obtain ⟨row, hrow, rfl⟩ := List.mem_map.mp (hperm.mem_iff.mpr hv)
    obtain ⟨hk, ht⟩ := hall row hrow
    simp [hk, ht]
  · intro h
    have hgroup : ∀ p : Json → Bool, ∃ gs, groupSessionsByProject n (sessions.filter p) =
        some gs := by
      intro p
      refine Option.ne_none_iff_exists'.mp fun hnone ↦ ?_
      obtain ⟨v, hv, hk⟩ := groupSessionsByProject_eq_none_iff.mp hnone
      exact (h v (List.mem_filter.mp hv).1).1 hk
    obtain ⟨active, hactive⟩ := hgroup fun v ↦ !isArchived n v
    obtain ⟨archived, harchived⟩ := hgroup (isArchived n)
    have hperm := perm_entries hactive harchived
    have hall : ∀ e ∈ Grouping.entries active ++ Grouping.entries archived,
        (sessionRow n e).isSome = true := by
      intro e he
      obtain ⟨v, hv, hev⟩ := List.mem_filterMap.mp (hperm.mem_iff.mp he)
      obtain ⟨k, hk, rfl⟩ := Option.map_eq_some_iff.mp hev
      obtain ⟨text, htext⟩ := Option.ne_none_iff_exists'.mp (h v hv).2
      rw [sessionRow, htext]
      rfl
    rw [sidebarRows, hactive, harchived]
    simp only [List.all_eq_true]
    rw [if_pos hall]
    rfl

/-- A row shows the metadata of its session when the document agrees with them. -/
theorem showsMetadata_iff {row : SidebarRow} (hk : project n row.session = some row.project)
    (ht : nodeText n (label n row.session) = some row.label) :
    row.ShowsMetadata ↔ Agrees n row.session := by
  rw [SidebarRow.ShowsMetadata, Agrees, hk, ht]
  simp [eq_comm]

/-- The rows show the metadata when all the documents agree with them. -/
theorem rows_iff : (∃ rows, sidebarRows n sessions = some rows ∧
    ∀ row ∈ rows, row.ShowsMetadata) ↔ ∀ v ∈ sessions, Agrees n v := by
  constructor
  · rintro ⟨rows, hrows, hshow⟩ v hv
    obtain ⟨hperm, hall⟩ := sidebarRows_eq_some hrows
    obtain ⟨row, hrow, rfl⟩ := List.mem_map.mp (hperm.mem_iff.mpr hv)
    obtain ⟨hk, ht⟩ := hall row hrow
    exact (showsMetadata_iff hk ht).mp (hshow row hrow)
  · intro h
    have hsome : (sidebarRows n sessions).isSome = true := by
      refine isSome_sidebarRows_iff.mpr fun v hv ↦ ?_
      obtain ⟨⟨text, ht, -⟩, hk⟩ := h v hv
      simp [hk, ht]
    obtain ⟨rows, hrows⟩ := Option.isSome_iff_exists.mp hsome
    obtain ⟨hperm, hall⟩ := sidebarRows_eq_some hrows
    refine ⟨rows, hrows, fun row hrow ↦ ?_⟩
    obtain ⟨hk, ht⟩ := hall row hrow
    exact (showsMetadata_iff hk ht).mpr
      (h row.session (hperm.mem_iff.mp (List.mem_map_of_mem hrow)))

end Rows

/-! ## From the store to the sidebar -/

section Store

variable {n : Js.Numbers}

theorem project_of_ne_null {v : Json} (hv : v ≠ .null) : project n v =
    (Js.toText n (Js.firstTruthy n [v.get "cwd"] (.str "Recent"))).filter
      fun key ↦ key ∉ Js.objectMembers := by
  cases v with
  | null => exact absurd rfl hv
  | _ => rfl

/-- Whether a document agrees with its metadata depends on four of its members. -/
theorem agrees_congr {v w : Json} (hnull : v = .null ↔ w = .null)
    (hget : ∀ k ∈ ["name", "firstMessage", "cwd", "metadata"], v.get k = w.get k) :
    Agrees n v ↔ Agrees n w := by
  have hlabel : label n v = label n w := by
    rw [label, label, hget "name" (by decide), hget "firstMessage" (by decide)]
  have hmeta : ∀ k, metadataText k v = metadataText k w := by
    intro k
    rw [metadataText, metadataText, hget "metadata" (by decide)]
  have hproject : project n v = project n w := by
    by_cases hv : v = .null
    · rw [hv, hnull.mp hv]
    · rw [project_of_ne_null hv, project_of_ne_null (mt hnull.mpr hv), hget "cwd" (by decide)]
  rw [Agrees, Agrees, hlabel, hproject, hmeta]
  simp only [hmeta]

theorem insert_eq_null_iff {v w : Json} {k : String} : v.insert k w = .null ↔ v = .null := by
  cases v <;> simp [Json.insert]

theorem agrees_activeEntry {path : String} {v : Json} :
    Agrees n (activeEntry path v) ↔ Agrees n v := by
  refine agrees_congr ?_ fun k hk ↦ get_activeEntry path v ?_ ?_
  · rw [activeEntry]
    split <;> simp only [insert_eq_null_iff]
  · rintro rfl; simp at hk
  · rintro rfl; simp at hk

theorem agrees_archivedEntry {path : String} {v : Json} :
    Agrees n (archivedEntry path v) ↔ Agrees n v := by
  refine agrees_congr ?_ fun k hk ↦ get_archivedEntry path v ?_ ?_
  · rw [archivedEntry]
    simp only [insert_eq_null_iff]
  · rintro rfl; simp at hk
  · rintro rfl; simp at hk

variable {parse : SessionId → Bool} {st : Store} {l : Listing st} {sessionsDir : String}
  {f : Faults} {sessions : List Json}

/-- The documents in the list agree with their metadata when those in the files do. -/
theorem forall_agrees_iff (h : listSessionsAll sessionsDir l f true = .ok sessions) :
    (∀ w ∈ sessions, Agrees n w) ↔
      ∀ id v, st.active id = some (.doc v) ∨ st.archived id = some (.doc v) → Agrees n v := by
  simp only [mem_listSessionsAll h]
  constructor
  · rintro hall id v (hv | hv)
    · exact agrees_activeEntry.mp (hall _ (Or.inl ⟨id, v, hv, rfl⟩))
    · exact agrees_archivedEntry.mp (hall _ (Or.inr ⟨id, v, hv, rfl⟩))
  · rintro hall w (⟨id, v, hv, rfl⟩ | ⟨id, v, hv, rfl⟩)
    · exact agrees_activeEntry.mpr (hall id v (Or.inl hv))
    · exact agrees_archivedEntry.mpr (hall id v (Or.inr hv))

end Store

/-! ## What the endpoints leave -/

section Created

variable (id : SessionId) (v : Json)

/-- The listing of a store with one session. -/
def singleListing : Listing (Store.empty.write id v) where
  active := [id]
  archived := []
  nodup_active := List.nodup_singleton id
  nodup_archived := List.nodup_nil
  mem_active j := by
    by_cases hj : j = id
    · simp [hj]
    · simp [hj, Store.empty]
  mem_archived j := by simp [Store.empty]

theorem listSessionsAll_single (dir : String) :
    listSessionsAll dir (singleListing id v) .none true =
      .ok [activeEntry (filePath dir id) v] := by
  simp [listSessionsAll, allEntries, dirEntries, singleListing, Faults.none, parsed]

variable {id v}

/-- Its only document. -/
theorem eq_of_single {j : SessionId} {w : Json} (h : (Store.empty.write id v).active j =
    some (.doc w) ∨ (Store.empty.write id v).archived j = some (.doc w)) : w = v := by
  rcases h with h | h
  · by_cases hj : j = id
    · subst hj
      rw [Store.active_write_self] at h
      cases h
      rfl
    · rw [Store.active_write_of_ne _ v hj] at h
      cases h
  · cases h

end Created

/-- A session with its label and its directory in the metadata and at the top. -/
def exampleDocument : Json :=
  .obj [("name", .str "Demo"), ("cwd", .str "/src"),
    ("metadata", .obj [("label", .str "Demo"), ("cwd", .str "/src")])]

theorem agrees_exampleDocument {v : Json}
    (hv : v = ((exampleDocument.insert "created_at" (.str "now")).insert "updated_at"
      (.str "now")).insert "id" (.str exampleEnv.fileUuid.text)) : Agrees .plain v := by
  subst hv
  refine ⟨⟨"Demo", rfl, fun text h ↦ ?_⟩, rfl⟩
  cases h
  rfl

end WorkWithMe.Client
