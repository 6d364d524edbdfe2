import Mathlib.Data.List.Dedup
import WorkWithMe.Lib.Js
import WorkWithMe.Lib.Machine
import WorkWithMe.Sessions.Disk
import WorkWithMe.Sessions.Listing

/-!
# Archived sessions

Whether a session is archived is told in three places: by the directory its file is in, by a member
`archived` that its document may have, and by the flag that those who read it put there.  Two
functions read it.  `list_sessions_all` overwrites the member for an archived session, and leaves it
alone for an active one; `load_session_by_path` leaves it alone for both.  The flag of the list is
what the client goes by when it asks for a session to be moved.

* `Agrees` says of an entry of the list that its flag tells the directory, that
  `load_session_by_path` reports the same, and that the request which the client then makes moves
  the file; `ArchiveLaw` says it of all entries.
* `loadSessionByPath_disk` says that the reader by path, as it is on the disk, is the one that is
  used here, and `startsWith_archiveDir_iff` which flag it computes.
* `PlaceOk` says which documents may be where, and `archiveLaw_iff` that these are the ones that the
  law holds for.
* `archiveLaw_iff_guarded` says for which sequences of calls the law holds all along.
* `not_archiveLaw_of_exec` is a session that is created with a flag of its own.
-/

set_option autoImplicit false

namespace WorkWithMe.Sessions

open JsonFile Server Posix

/-! ## The two directories -/

/-- One of the directories. -/
inductive Place where
  /-- `sessions_dir`. -/
  | active
  /-- `archive_dir`. -/
  | archive
  deriving DecidableEq

/-- The one or the other. -/
def Place.other : Place → Place
  | .active => .archive
  | .archive => .active

/-- The files of a directory. -/
def Store.files (st : Store) : Place → SessionId → Option Contents
  | .active => st.active
  | .archive => st.archived

/-- The store after a file has been moved out of a directory, into the other one. -/
def Store.move (st : Store) (place : Place) (id : SessionId) (c : Contents) : Store :=
  match place with
  | .active => st.moveToArchive id c
  | .archive => st.moveFromArchive id c

/-- The path of a session in the list. -/
def entryPath (dir : String) : Place → SessionId → String
  | .active, id => filePath dir id
  | .archive, id => filePath (dir ++ "/archive") id

/-- The entry for a session. -/
def entryOf : Place → String → Json → Json
  | .active => activeEntry
  | .archive => archivedEntry

/-- `is_in_archive`, for the file of a session: that of an archived one begins with `archive_dir` if
that path is canonical as it is. -/
def inArchive (canonical : Bool) : Place → Bool
  | .active => false
  | .archive => canonical

/-- `set_archived_by_path`. -/
def setArchivedByPath (parse : SessionId → Bool) (f : Faults) (path : String) (archived : Bool)
    (st : Store) : Except String Bool × Store :=
  match (Path.ofString path).fileName with
  | none => (.error "Invalid path: no filename", st)
  | some name =>
    if archived then archiveSession parse f (Disk.stripJson name) st
    else unarchiveSession parse f (Disk.stripJson name) st

/-! ## The law -/

section Law

variable (parse : SessionId → Bool) (n : Js.Numbers) (dir : String) (canonical : Bool)

/-- **The entry tells where the session is**, the reader by path reports the same, and the toggle of
the client moves the file. -/
structure Agrees (st : Store) (place : Place) (id : SessionId) (v w : Json) : Prop where
  /-- The flag is that of the directory. -/
  flag : w.get "archived" = some (.bool true) ↔ place = .archive
  /-- `load_session_by_path` reports the same flag. -/
  load : ∀ path, w.get "path" = some (.str path) →
    ∃ v', loadSessionByPath .none path (inArchive canonical place) (st.files place id) =
      .ok (some v') ∧ v'.get "archived" = w.get "archived"
  /-- What the client asks for moves the file. -/
  toggle : ∀ path a, w.get "path" = some (.str path) → w.get "archived" = some a →
    setArchivedByPath parse .none path (!Js.truthy n a) st = (.ok true, st.move place id (.doc v))

/-- **Every entry of the list that is an object** agrees with the store. -/
def ArchiveLaw (st : Store) : Prop :=
  ∀ (l : Listing st) (sessions : List Json), listSessionsAll dir l .none true = .ok sessions →
    ∀ w ∈ sessions, w.isObject = true → ∀ place id v, st.files place id = some (.doc v) →
      w = entryOf place (entryPath dir place id) v →
        Agrees parse n canonical st place id v w

/-- Which documents may be in a directory: an active one has no flag, or one that does not count as
true; an archived one has no flag, and then the flag that is computed must be right, or `true`. -/
def PlaceOk : Place → Json → Prop
  | .active, v => ∀ a, v.get "archived" = some a → Js.truthy n a = false
  | .archive, v => v.isObject = true →
      (v.get "archived" = none ∧ canonical = true) ∨ v.get "archived" = some (.bool true)

/-- All the documents of a store may be where they are. -/
def AllPlacesOk (st : Store) : Prop :=
  ∀ place id v, st.files place id = some (.doc v) → PlaceOk n canonical place v

/-- **The condition on a call**: what it writes may be in `sessions_dir`, and what it moves may be
in the other directory. -/
def KeepsArchiveLaw (st : Store) (a : Env × StoreCall) : Prop :=
  let MovesOk := fun (place : Place) (id : SessionId) ↦
    parse id = true → a.1.faults.dir = none → a.1.faults.write = none →
      ∀ v, st.files place id = some (.doc v) → PlaceOk n canonical place.other v
  match a.2 with
  | .create data => a.1.faults.dir = none → a.1.faults.write = none →
      PlaceOk n canonical .active data
  | .update id data => parse id = true → st.active id ≠ none → a.1.faults.write = none →
      PlaceOk n canonical .active data
  | .archive id => MovesOk .active id
  | .archiveByPath id archived => MovesOk (if archived then .active else .archive) id
  | _ => True

/-- The files have the names of UUIDs, and there are finitely many. -/
structure WellNamed (st : Store) : Prop where
  /-- The names are those of UUIDs. -/
  uuid : ∀ place id, st.files place id ≠ none → ∃ u : Uuid, u.text = id
  /-- They can be listed. -/
  finite : ∃ ids : List SessionId, ∀ place id, st.files place id ≠ none → id ∈ ids

end Law

/-! ## Names -/

/-- A UUID has no slash in it. -/
theorem slash_notMem_uuid (u : Uuid) : '/' ∉ u.text.toList := by
  intro hslash
  have hall := u.hyphenated
  rw [isHyphenated, Bool.and_eq_true] at hall
  obtain ⟨i, hi, hget⟩ := List.getElem_of_mem hslash
  have hmem : ('/', i) ∈ u.text.toList.zipIdx := by
    rw [List.mem_zipIdx_iff_getElem?, List.getElem?_eq_getElem hi, hget]
  have hone := List.all_eq_true.mp hall.2 _ hmem
  dsimp only at hone
  split at hone <;> exact absurd hone (by decide)

/-- `strip_suffix` undoes the name of the file. -/
theorem stripJson_fileName (id : SessionId) : Disk.stripJson (Disk.fileName id) = id := by
  have hsuffix : ".json".toList <:+ (Disk.fileName id).toList := by
    rw [Disk.fileName, String.toList_append]
    exact List.suffix_append _ _
  rw [Disk.stripJson, if_pos hsuffix, Disk.fileName, String.toList_append, List.length_append,
    Nat.add_sub_cancel, List.take_left, String.ofList_toList]

/-- The last name of the path of an entry. -/
theorem fileName_filePath (dir : String) {id : SessionId} (hid : '/' ∉ id.toList) :
    (Path.ofString (filePath dir id)).fileName = some (Disk.fileName id) := by
  have hslash : '/' ∉ (Disk.fileName id).toList := by
    rw [Disk.fileName, String.toList_append, List.mem_append, not_or]
    exact ⟨hid, by decide⟩
  have hpath : filePath dir id = dir ++ "/" ++ Disk.fileName id := by
    rw [filePath, Disk.fileName, String.append_assoc]
  rw [hpath]
  exact fileName_of_last dir hslash (Disk.proper_fileName id)

/-- The toggle by the path of an entry is the one by its id. -/
theorem setArchivedByPath_entryPath (parse : SessionId → Bool) (f : Faults) (dir : String)
    (place : Place) {id : SessionId} (hid : '/' ∉ id.toList) (archived : Bool) (st : Store) :
    setArchivedByPath parse f (entryPath dir place id) archived st =
      if archived then archiveSession parse f id st else unarchiveSession parse f id st := by
  have hname : (Path.ofString (entryPath dir place id)).fileName = some (Disk.fileName id) := by
    cases place with
    | active => exact fileName_filePath dir hid
    | archive => exact fileName_filePath (dir ++ "/archive") hid
  rw [setArchivedByPath, hname]
  dsimp only
  rw [stripJson_fileName]

/-! ## The reader by path on the disk -/

section OnDisk

variable {home : Option String} {fs : FileSystem Contents} {dir : Loc} {id : SessionId}

/-- Where the file of a session is. -/
def placeLoc (dir : Loc) : Place → SessionId → Loc
  | .active, id => dir ++ [Disk.fileName id]
  | .archive, id => dir ++ ["archive", Disk.fileName id]

/-- The file of a session is not the archive. -/
theorem fileName_ne_archive (id : SessionId) : Disk.fileName id ≠ "archive" := by
  intro h
  have hlast := congrArg (fun s ↦ s.toList.getLast?) h
  rw [Disk.fileName, String.toList_append, List.getLast?_append_of_ne_nil _ (by decide)] at hlast
  exact absurd hlast (by decide)

/-- **The flag that is computed**: the file of a session begins with `archive_dir` if it is there
and `sessions_dir` is canonical. -/
theorem startsWith_archiveDir_iff (hdir : fs.resolve (Disk.sessionsDir home) = some dir)
    (place : Place) (hplain : Plain fs.node (placeLoc dir place id)) :
    Path.StartsWith ⟨true, placeLoc dir place id⟩ (Disk.archiveDir home) ↔
      inArchive (decide ((Disk.sessionsDir home).components = .root :: dir.map .name)) place =
        true := by
  cases place with
  | active =>
    refine iff_of_false (fun h ↦ ?_) (by simp [inArchive])
    obtain ⟨rest, hrest⟩ := (Disk.components_of_startsWith_archiveDir hdir hplain h).2
    rw [placeLoc, List.append_assoc, List.append_cancel_left_eq] at hrest
    exact fileName_ne_archive id (List.cons.inj hrest).1.symm
  | archive =>
    rw [inArchive, decide_eq_true_eq]
    refine ⟨fun h ↦ (Disk.components_of_startsWith_archiveDir hdir hplain h).1, fun h ↦ ?_⟩
    have harchive : (Disk.archiveDir home).components =
        (Disk.sessionsDir home).components ++ [.name "archive"] := Disk.components_archiveDir home
    rw [Path.StartsWith, harchive, h, components_of_plain hplain, placeLoc, List.map_append]
    exact ⟨[.name (Disk.fileName id)], by simp⟩

/-- **The reader by path**, on the disk, is the one that is given the file and the flag. -/
theorem loadSessionByPath_disk {path : String} {place : Place} {c : Contents} (f : Faults)
    (hdir : fs.resolve (Disk.sessionsDir home) = some dir)
    (hpath : fs.resolve (.ofString path) = some (placeLoc dir place id))
    (hfile : fs.node (placeLoc dir place id) = some (.file c)) :
    (Disk.loadSessionByPath home f fs path).1 =
      loadSessionByPath f (Path.text ⟨true, placeLoc dir place id⟩)
        (inArchive (decide ((Disk.sessionsDir home).components = .root :: dir.map .name)) place)
        (some c) := by
  have hplain := plain_of_resolve hpath
  have hsame := resolve_of_plain hplain
  have hinside : dir <+: placeLoc dir place id := by
    cases place <;> exact List.prefix_append _ _
  have hstarts : ¬ ¬ Path.StartsWith ⟨true, placeLoc dir place id⟩ ⟨true, dir⟩ :=
    not_not_intro ((startsWith_iff_of_plain hplain (plain_of_resolve hdir)).mpr hinside)
  have hexists : fs.pathExists ⟨true, placeLoc dir place id⟩ ≠ false := by
    rw [FileSystem.pathExists, hsame]
    simp
  have hflag : decide (Path.StartsWith ⟨true, placeLoc dir place id⟩ (Disk.archiveDir home)) =
      inArchive (decide ((Disk.sessionsDir home).components = .root :: dir.map .name)) place := by
    rw [Bool.eq_iff_iff, decide_eq_true_eq]
    exact startsWith_archiveDir_iff hdir place hplain
  have hsessions : fs.canonicalize (Disk.sessionsDir home) = some ⟨true, dir⟩ :=
    Option.map_eq_some_iff.mpr ⟨dir, hdir, rfl⟩
  have hcanonical : fs.canonicalize (.ofString path) = some ⟨true, placeLoc dir place id⟩ :=
    Option.map_eq_some_iff.mpr ⟨_, hpath, rfl⟩
  rw [Disk.loadSessionByPath, hsessions, hcanonical]
  dsimp only [Option.getD_some]
  rw [if_neg hstarts, if_neg hexists, readToString_of_resolve hsame hfile]
  dsimp only
  rw [hflag]
  rfl

end OnDisk

/-! ## One store -/

section Store

variable {parse : SessionId → Bool} {n : Js.Numbers} {dir : String} {canonical : Bool} {st : Store}
  {place : Place} {id : SessionId} {v : Json}

/-- The call for the other directory does not move the file of an active session. -/
theorem unarchiveSession_ne_move (parse : SessionId → Bool) (f : Faults) (id : SessionId)
    (st : Store) (c : Contents) :
    unarchiveSession parse f id st ≠ (.ok true, st.moveToArchive id c) := by
  intro h
  obtain ⟨r, hr, hno⟩ | ⟨c', -, -, hok⟩ := unarchiveSession_cases parse f id st
  · exact hr (congrArg Prod.fst (hno.symm.trans h))
  · have hstore := congrArg (fun r ↦ r.2.active id) (hok.symm.trans h)
    dsimp only at hstore
    rw [Store.active_moveFromArchive_self, Store.active_moveToArchive_self] at hstore
    cases hstore

theorem get_path_activeEntry (hv : v.isObject = true) (path : String) :
    (activeEntry path v).get "path" = some (.str path) := by
  rw [activeEntry]
  split
  · exact Json.get_insert_self hv _ _
  · rw [Json.get_insert_of_ne _ (by decide)]
    exact Json.get_insert_self hv _ _

theorem get_path_archivedEntry (hv : v.isObject = true) (path : String) :
    (archivedEntry path v).get "path" = some (.str path) := by
  rw [archivedEntry, Json.get_insert_of_ne _ (by decide)]
  exact Json.get_insert_self hv _ _

/-- The flag that a reader leaves alone if it is there. -/
theorem get_archived_fill (hv : v.isObject = true) (path : String) (b : Bool) :
    (if ((v.insert "path" (.str path)).get "archived").isSome then v.insert "path" (.str path)
      else (v.insert "path" (.str path)).insert "archived" (.bool b)).get "archived" =
      some ((v.get "archived").getD (.bool b)) := by
  have hget : (v.insert "path" (.str path)).get "archived" = v.get "archived" :=
    Json.get_insert_of_ne v (by decide) _
  cases hflag : v.get "archived" with
  | some a =>
    rw [hget, hflag, if_pos Option.isSome_some, hget, hflag]
    rfl
  | none =>
    rw [hget, hflag, if_neg (by simp)]
    exact Json.get_insert_self (by rw [Json.isObject_insert]; exact hv) _ _

/-- What the reader by path makes of a document. -/
theorem loadSessionByPath_doc (hv : v.isObject = true) (path : String) (b : Bool) :
    ∃ v', loadSessionByPath .none path b (some (.doc v)) = .ok (some v') ∧
      v'.get "archived" = some ((v.get "archived").getD (.bool b)) :=
  ⟨_, rfl, get_archived_fill hv path b⟩

/-- **The entry of an active session** agrees with the store if and only if its flag does not count
as true. -/
theorem agrees_active_iff (hparse : parse id = true) (hid : '/' ∉ id.toList)
    (hv : v.isObject = true) (hfile : st.active id = some (.doc v)) :
    Agrees parse n canonical st .active id v (activeEntry (entryPath dir .active id) v) ↔
      PlaceOk n canonical .active v := by
  have hpath := get_path_activeEntry hv (entryPath dir .active id)
  have hflag : (activeEntry (entryPath dir .active id) v).get "archived" =
      some ((v.get "archived").getD (.bool false)) := get_archived_fill hv _ _
  constructor
  · intro hagrees a ha
    have htoggle := hagrees.toggle _ _ hpath hflag
    rw [setArchivedByPath_entryPath parse _ dir .active hid, ha, Option.getD_some] at htoggle
    cases htruthy : Js.truthy n a with
    | false => rfl
    | true =>
      rw [htruthy] at htoggle
      exact (unarchiveSession_ne_move parse .none id st (.doc v) htoggle).elim
  · intro hok
    have hfalsy : Js.truthy n ((v.get "archived").getD (.bool false)) = false := by
      cases ha : v.get "archived" with
      | none => rfl
      | some a => exact hok a ha
    refine ⟨iff_of_false ?_ (by simp), fun path _ ↦ ?_, fun path a hpath' ha ↦ ?_⟩
    · intro htrue
      rw [Option.some.inj (hflag.symm.trans htrue)] at hfalsy
      cases hfalsy
    · rw [hflag, Store.files, hfile]
      exact loadSessionByPath_doc hv path false
    · obtain rfl := Json.str.inj (Option.some.inj (hpath.symm.trans hpath'))
      obtain rfl := Option.some.inj (hflag.symm.trans ha)
      rw [setArchivedByPath_entryPath parse _ dir .active hid, hfalsy]
      exact archiveSession_of_faultless parse .none id st hparse rfl rfl hfile

/-- **The entry of an archived session** agrees with the store if and only if the reader by path
finds or computes `true`. -/
theorem agrees_archive_iff (hparse : parse id = true) (hid : '/' ∉ id.toList)
    (hv : v.isObject = true) (hfile : st.archived id = some (.doc v)) :
    Agrees parse n canonical st .archive id v (archivedEntry (entryPath dir .archive id) v) ↔
      PlaceOk n canonical .archive v := by
  have hpath := get_path_archivedEntry hv (entryPath dir .archive id)
  have hflag : (archivedEntry (entryPath dir .archive id) v).get "archived" =
      some (.bool true) := Json.get_insert_self (by rw [Json.isObject_insert]; exact hv) _ _
  have hread : PlaceOk n canonical .archive v ↔
      (v.get "archived").getD (.bool canonical) = .bool true := by
    simp only [PlaceOk, hv, true_implies]
    cases v.get "archived" with
    | none => simp
    | some a => simp
  rw [hread]
  constructor
  · intro hagrees
    obtain ⟨v', hv', hsame⟩ := hagrees.load _ hpath
    obtain ⟨v'', hv'', hget⟩ := loadSessionByPath_doc hv (entryPath dir .archive id) canonical
    rw [Store.files, hfile, inArchive, hv''] at hv'
    obtain rfl := Option.some.inj (Except.ok.inj hv')
    exact Option.some.inj (hget.symm.trans (hsame.trans hflag))
  · intro hok
    refine ⟨iff_of_true hflag rfl, fun path _ ↦ ?_, fun path a hpath' ha ↦ ?_⟩
    · rw [hflag, ← hok, Store.files, hfile]
      exact loadSessionByPath_doc hv path canonical
    · obtain rfl := Json.str.inj (Option.some.inj (hpath.symm.trans hpath'))
      obtain rfl := Option.some.inj (hflag.symm.trans ha)
      rw [setArchivedByPath_entryPath parse _ dir .archive hid]
      exact unarchiveSession_of_faultless parse .none id st hparse rfl rfl hfile

/-- A well-named store can be listed. -/
theorem WellNamed.nonempty_listing (h : WellNamed st) : Nonempty (Listing st) := by
  obtain ⟨ids, hids⟩ := h.finite
  have hmem : ∀ place id, id ∈ ids.dedup.filter (fun id ↦ (st.files place id).isSome) ↔
      st.files place id ≠ none := by
    intro place id
    rw [List.mem_filter, List.mem_dedup, ← Option.isSome_iff_ne_none]
    exact and_iff_right_of_imp fun hsome ↦ hids place id (Option.isSome_iff_ne_none.mp hsome)
  exact ⟨⟨_, _, ids.nodup_dedup.filter _, ids.nodup_dedup.filter _, hmem .active,
    hmem .archive⟩⟩

/-- **The law holds of a store** if and only if its documents may be where they are. -/
theorem archiveLaw_iff (hparse : ∀ u : Uuid, parse u.text = true) (h : WellNamed st) :
    ArchiveLaw parse n dir canonical st ↔ AllPlacesOk n canonical st := by
  have hagrees : ∀ place id v, st.files place id = some (.doc v) → v.isObject = true →
      (Agrees parse n canonical st place id v (entryOf place (entryPath dir place id) v) ↔
        PlaceOk n canonical place v) := by
    intro place id v hfile hv
    obtain ⟨u, rfl⟩ := h.uuid place id (by rw [hfile]; exact Option.some_ne_none _)
    cases place with
    | active => exact agrees_active_iff (hparse u) (slash_notMem_uuid u) hv hfile
    | archive => exact agrees_archive_iff (hparse u) (slash_notMem_uuid u) hv hfile
  have hobject : ∀ place path (v : Json), (entryOf place path v).isObject = v.isObject := by
    intro place path v
    cases place with
    | active =>
      rw [entryOf, activeEntry]
      split <;> simp only [Json.isObject_insert]
    | archive => simp only [entryOf, archivedEntry, Json.isObject_insert]
  constructor
  · intro hlaw place id v hfile
    by_cases hv : v.isObject = true
    · obtain ⟨l⟩ := h.nonempty_listing
      have hlist : listSessionsAll dir l .none true = .ok _ := rfl
      refine (hagrees place id v hfile hv).mp ?_
      refine hlaw l _ hlist _ ((mem_listSessionsAll hlist).mpr ?_) (by rw [hobject]; exact hv)
        place id v hfile rfl
      cases place with
      | active => exact Or.inl ⟨id, v, hfile, rfl⟩
      | archive => exact Or.inr ⟨id, v, hfile, rfl⟩
    · -- what is not an object has no members
      cases place with
      | active => exact fun a ha ↦ absurd (Json.isObject_of_get ha) hv
      | archive => exact fun hv' ↦ absurd hv' hv
  · rintro hok l sessions - w - hw place id v hfile rfl
    rw [hobject] at hw
    exact (hagrees place id v hfile hw).mpr (hok place id v hfile)

end Store

/-! ## One call -/

section Call

variable {parse : SessionId → Bool} {n : Js.Numbers} {canonical : Bool} {st st' : Store}

/-- **What a call does**, and when what it leaves may be where it is: `G` is the condition. -/
inductive Effect (n : Js.Numbers) (canonical : Bool) (st : Store) (G : Prop) : Store → Prop
  /-- Nothing. -/
  | same : G → Effect n canonical st G st
  /-- A document is written, under a new id or over another one. -/
  | write (id : SessionId) (v : Json) : ((∃ u : Uuid, u.text = id) ∨ st.active id ≠ none) →
      (G ↔ PlaceOk n canonical .active v) → Effect n canonical st G (st.write id v)
  /-- A file is moved. -/
  | move (place : Place) (id : SessionId) (c : Contents) : st.files place id = some c →
      (G ↔ ∀ v, c = .doc v → PlaceOk n canonical place.other v) →
        Effect n canonical st G (st.move place id c)

/-- What is in the directories after a file has been moved. -/
theorem files_move (st : Store) (place : Place) (id : SessionId) (c : Contents) (p : Place)
    (j : SessionId) : (st.move place id c).files p j =
      if j = id then (if p = place then none else some c) else st.files p j := by
  by_cases hj : j = id
  · subst hj
    cases place <;> cases p <;> simp [Store.move, Store.files]
  · cases place <;> cases p <;> simp [Store.move, Store.files, hj]

/-- What is in the directories after a document has been written. -/
theorem files_write (st : Store) (id : SessionId) (v : Json) (p : Place) (j : SessionId) :
    (st.write id v).files p j =
      if j = id ∧ p = .active then some (.doc v) else st.files p j := by
  cases p with
  | active =>
    by_cases hj : j = id
    · subst hj
      simp [Store.files]
    · simp [Store.files, hj]
  | archive => simp [Store.files]

/-- **A call leaves all documents where they may be** if and only if its condition holds. -/
theorem Effect.allPlacesOk_iff {G : Prop} (h : Effect n canonical st G st')
    (hok : AllPlacesOk n canonical st) : AllPlacesOk n canonical st' ↔ G := by
  cases h with
  | same hG => exact iff_of_true hok hG
  | write id v hid hG =>
    rw [hG]
    constructor
    · exact fun hall ↦ hall .active id v (by rw [files_write, if_pos ⟨rfl, rfl⟩])
    · intro hv p j w hw
      rw [files_write] at hw
      split at hw
      · rename_i hjp
        rw [hjp.2, ← Contents.doc.inj (Option.some.inj hw)]
        exact hv
      · exact hok p j w hw
  | move place id c hc hG =>
    have hother : place.other ≠ place := by cases place <;> decide
    rw [hG]
    constructor
    · rintro hall v rfl
      exact hall place.other id v (by rw [files_move, if_pos rfl, if_neg hother])
    · intro hv p j w hw
      rw [files_move] at hw
      split at hw
      · split at hw
        · cases hw
        · rename_i hp
          obtain rfl : p = place.other := by cases p <;> cases place <;> simp_all [Place.other]
          exact hv w (Option.some.inj hw)
      · exact hok p j w hw

/-- A call leaves the files named by UUIDs. -/
theorem Effect.wellNamed {G : Prop} (h : Effect n canonical st G st') (hnamed : WellNamed st) :
    WellNamed st' := by
  obtain ⟨huuid, ids, hids⟩ := hnamed
  cases h with
  | same _ => exact ⟨huuid, ids, hids⟩
  | write id v hid _ =>
    refine ⟨fun p j hj ↦ ?_, id :: ids, fun p j hj ↦ ?_⟩
    all_goals
      rw [files_write] at hj
      split at hj
      · rename_i hjp
        obtain rfl := hjp.1
        first | exact List.mem_cons_self | exact hid.elim (fun h ↦ h) (huuid .active j)
      · first | exact List.mem_cons_of_mem _ (hids p j hj) | exact huuid p j hj
  | move place id c hc _ =>
    have hthere : st.files place id ≠ none := by
      rw [hc]
      exact Option.some_ne_none c
    refine ⟨fun p j hj ↦ ?_, ids, fun p j hj ↦ ?_⟩
    all_goals
      rw [files_move] at hj
      by_cases hji : j = id
      · rw [hji]
        first | exact huuid place id hthere | exact hids place id hthere
      · rw [if_neg hji] at hj
        first | exact huuid p j hj | exact hids p j hj

theorem Effect.congr {G G' : Prop} (h : Effect n canonical st G st') (hG : G ↔ G') :
    Effect n canonical st G' st' := by
  cases h with
  | same h => exact .same (hG.mp h)
  | write id v hid h => exact .write id v hid (hG.symm.trans h)
  | move place id c hc h => exact .move place id c hc (hG.symm.trans h)

/-- Other members do not matter. -/
theorem placeOk_insert {k : String} (hk : "archived" ≠ k) (v w : Json) :
    PlaceOk n canonical .active (v.insert k w) ↔ PlaceOk n canonical .active v := by
  rw [PlaceOk, PlaceOk, Json.get_insert_of_ne v hk]

variable (parse n canonical st) (f : Faults) (id : SessionId)

theorem effect_createSession (uuid : Uuid) (created updated : String) (data : Json) :
    Effect n canonical st
      (f.dir = none → f.write = none → PlaceOk n canonical .active data)
      (createSession f uuid created updated data st).2 := by
  obtain ⟨hdir, hwrite, hok⟩ | ⟨hno, e, he⟩ := createSession_cases f st uuid created updated data
  · rw [hok]
    refine .write uuid.text _ (Or.inl ⟨uuid, rfl⟩) ?_
    rw [placeOk_insert (by decide), placeOk_insert (by decide), placeOk_insert (by decide)]
    exact ⟨fun h ↦ h hdir hwrite, fun h _ _ ↦ h⟩
  · rw [he]
    exact .same fun hdir hwrite ↦ absurd ⟨hdir, hwrite⟩ hno

theorem effect_updateSession (updated : String) (data : Json) :
    Effect n canonical st
      (parse id = true → st.active id ≠ none → f.write = none → PlaceOk n canonical .active data)
      (updateSession parse f id updated data st).2 := by
  obtain ⟨hparse, hid, hwrite, hok⟩ | ⟨hno, e, he⟩ := updateSession_cases parse f id st updated data
  · rw [hok]
    refine .write id _ (Or.inr hid) ?_
    rw [placeOk_insert (by decide)]
    exact ⟨fun h ↦ h hparse hid hwrite, fun h _ _ _ ↦ h⟩
  · rw [he]
    exact .same fun hparse hid hwrite ↦ absurd ⟨hparse, hid, hwrite⟩ hno

theorem effect_archiveSession :
    Effect n canonical st
      (parse id = true → f.dir = none → f.write = none →
        ∀ v, st.active id = some (.doc v) → PlaceOk n canonical .archive v)
      (archiveSession parse f id st).2 := by
  obtain ⟨r, hr, hno⟩ | ⟨c, -, hc, hok⟩ := archiveSession_cases parse f id st
  · rw [hno]
    refine .same fun hparse hdir hwrite v hv ↦ ?_
    have hok := archiveSession_of_faultless parse f id st hparse hdir hwrite hv
    exact absurd (congrArg Prod.fst (hno.symm.trans hok)) hr
  · obtain ⟨hparse, hdir, hwrite, -⟩ :=
      faultless_of_renameSession parse f id st (congrArg Prod.fst hok)
    rw [hok]
    refine .move .active id c hc ?_
    rw [hc]
    exact ⟨fun h v hv ↦ h hparse hdir hwrite v (congrArg some hv),
      fun h _ _ _ v hv ↦ h v (Option.some.inj hv)⟩

theorem effect_unarchiveSession :
    Effect n canonical st
      (parse id = true → f.dir = none → f.write = none →
        ∀ v, st.archived id = some (.doc v) → PlaceOk n canonical .active v)
      (unarchiveSession parse f id st).2 := by
  obtain ⟨r, hr, hno⟩ | ⟨c, -, hc, hok⟩ := unarchiveSession_cases parse f id st
  · rw [hno]
    refine .same fun hparse hdir hwrite v hv ↦ ?_
    have hok := unarchiveSession_of_faultless parse f id st hparse hdir hwrite hv
    exact absurd (congrArg Prod.fst (hno.symm.trans hok)) hr
  · obtain ⟨hparse, hdir, hwrite, -⟩ :=
      faultless_of_renameSession parse f id st (congrArg Prod.fst hok)
    rw [hok]
    refine .move .archive id c hc ?_
    rw [hc]
    exact ⟨fun h v hv ↦ h hparse hdir hwrite v (congrArg some hv),
      fun h _ _ _ v hv ↦ h v (Option.some.inj hv)⟩

variable {st}

/-- The document that `set_project` writes may be where the one was that it starts from. -/
theorem placeOk_setProject (hok : AllPlacesOk n canonical st) (uuid : Uuid) (now cwd : String)
    (req : SetProjectRequest) :
    PlaceOk n canonical .active
      (withProjectCwd cwd (projectBase parse f uuid now req st)) := by
  have hbase : PlaceOk n canonical .active (projectBase parse f uuid now req st) := by
    have hfresh : PlaceOk n canonical .active (freshSession uuid now) := fun a ha ↦ by cases ha
    rw [projectBase]
    split
    · split
      · rename_i hload
        exact hok .active _ _ (loadSession_eq_ok_iff.mp hload).2.2
      · exact hfresh
    · exact hfresh
  rw [withProjectCwd]
  split
  · exact (placeOk_insert (by decide) _ _).mpr hbase
  · exact (placeOk_insert (by decide) _ _).mpr hbase

/-- **Every call has its effect.** -/
theorem effect_serve (hok : AllPlacesOk n canonical st) (env : Env) (app : AppState)
    (call : StoreCall) :
    Effect n canonical st (KeepsArchiveLaw parse n canonical st (env, call))
      (serve parse env app st call).2.2 := by
  cases call with
  | create data =>
    simp only [serve, create_store]
    exact effect_createSession ..
  | createAgentSession metadata =>
    simp only [serve, createAgentSession_store]
    refine (effect_createSession ..).congr (iff_of_true (fun _ _ a ha ↦ ?_) trivial)
    cases ha
  | update id data =>
    simp only [serve, update_store]
    exact effect_updateSession ..
  | setProject req =>
    simp only [serve, setProject_store]
    obtain ⟨cwd, _ | sid⟩ := req
    · exact (effect_createSession ..).congr
        (iff_of_true (fun _ _ ↦ placeOk_setProject parse n canonical _ hok _ _ _ _) trivial)
    · exact (effect_updateSession ..).congr
        (iff_of_true (fun _ _ _ ↦ placeOk_setProject parse n canonical _ hok _ _ _ _) trivial)
  | archive id =>
    simp only [serve, archive_store]
    exact effect_archiveSession ..
  | archiveByPath id archived =>
    simp only [serve, archiveByPath_store]
    cases archived with
    | true => exact effect_archiveSession ..
    | false => exact effect_unarchiveSession ..

end Call

/-! ## The law over runs -/

theorem wellNamed_empty : WellNamed .empty := by
  refine ⟨fun place id hid ↦ ?_, [], fun place id hid ↦ ?_⟩
  all_goals
    cases place
    all_goals exact absurd rfl hid

theorem allPlacesOk_empty (n : Js.Numbers) (canonical : Bool) :
    AllPlacesOk n canonical .empty := by
  intro place id v hv
  cases place with
  | active => cases hv
  | archive => cases hv

section Runs

variable (parse : SessionId → Bool)

/-- A call, as a step of the tables of the server and the store. -/
def storeStep (s : AppState × Store) (a : Env × StoreCall) : Option (AppState × Store) :=
  some (serve parse a.1 s.1 s.2 a.2).2

variable {parse}

/-- **The list, the reader and the toggle agree all along a run** of calls, starting from no
sessions, if and only if the calls meet the condition. -/
theorem archiveLaw_iff_guarded (hparse : ∀ u : Uuid, parse u.text = true) (n : Js.Numbers)
    (dir : String) (canonical : Bool) (app : AppState) (calls : List (Env × StoreCall)) :
    (∀ pre post s, calls = pre ++ post →
      Machine.exec (storeStep parse) (app, .empty) pre = some s →
        ArchiveLaw parse n dir canonical s.2) ↔
      Machine.Guarded (storeStep parse) (fun s a ↦ KeepsArchiveLaw parse n canonical s.2 a)
        (app, .empty) calls := by
  obtain ⟨final, hrun⟩ : ∃ final,
      Machine.exec (storeStep parse) (app, Store.empty) calls = some final :=
    Machine.exists_exec_eq_some (fun _ _ ↦ ⟨_, rfl⟩) _ calls
  refine Machine.forall_iff_guarded_of_inv (H := fun _ ↦ True)
    (I := fun s ↦ WellNamed s.2 ∧ AllPlacesOk n canonical s.2) ?_ ?_ ?_
    ⟨wellNamed_empty, allPlacesOk_empty n canonical⟩
    (fun _ _ ↦ trivial) hrun
  · rintro s a t ⟨hnamed, hok⟩ - hG hs
    obtain rfl := Option.some.inj hs
    have heffect := effect_serve parse n canonical hok a.1 s.1 a.2
    exact ⟨heffect.wellNamed hnamed, (heffect.allPlacesOk_iff hok).mpr hG⟩
  · exact fun s h ↦ (archiveLaw_iff hparse h.1).mpr h.2
  · rintro s a t ⟨hnamed, hok⟩ hs hlaw
    obtain rfl := Option.some.inj hs
    have heffect := effect_serve parse n canonical hok a.1 s.1 a.2
    exact (heffect.allPlacesOk_iff hok).mp
      ((archiveLaw_iff hparse (heffect.wellNamed hnamed)).mp hlaw)

/-- A session that is created and archived. -/
theorem archiveLaw_iff_guarded_example :
    (∀ u : Uuid, (fun _ : SessionId ↦ true) u.text = true) ∧
      ∀ s, Machine.exec (storeStep fun _ ↦ true) (.new, .empty)
        [(exampleEnv, .create (.obj [])),
          (exampleEnv, .archive exampleEnv.fileUuid.text)] = some s →
          ArchiveLaw (fun _ ↦ true) .plain "/h/.pi/sessions" true s.2 := by
  refine ⟨fun _ ↦ rfl, fun s hs ↦ ?_⟩
  refine (archiveLaw_iff_guarded (fun _ ↦ rfl) .plain "/h/.pi/sessions" true .new _).mpr ?_ _ []
    s rfl hs
  refine Machine.Guarded.cons rfl ?_ (Machine.Guarded.cons rfl ?_ trivial)
  · rintro - - a ha
    cases ha
  · rintro - - - v hv -
    cases hv
    exact Or.inl ⟨rfl, rfl⟩

/-- **A session with a flag of its own** is listed as archived, and cannot be toggled. -/
theorem not_archiveLaw_of_exec :
    ¬ ∀ (calls : List (Env × StoreCall)) (s : AppState × Store),
      Machine.exec (storeStep fun _ ↦ true) (.new, .empty) calls = some s →
        ArchiveLaw (fun _ ↦ true) .plain "/h/.pi/sessions" true s.2 := by
  intro hall
  have hlaw := hall [(exampleEnv, .create (.obj [("archived", .bool true)]))] _ rfl
  have heffect := effect_serve (fun _ ↦ true) .plain true (allPlacesOk_empty .plain true) exampleEnv
    .new (.create (.obj [("archived", .bool true)]))
  have hok := (archiveLaw_iff (fun _ ↦ rfl) (heffect.wellNamed wellNamed_empty)).mp hlaw
  cases hok .active exampleEnv.fileUuid.text _ rfl _ rfl

end Runs

end WorkWithMe.Sessions
