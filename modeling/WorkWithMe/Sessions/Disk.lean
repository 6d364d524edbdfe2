import WorkWithMe.Lib.Posix
import WorkWithMe.Sessions.Store

/-!
# The session store on the disk

The functions of `server/sessions.rs` that are given an id or a path, with the file system they work
on.  Here it is the *names* that count: which paths the functions make of what they are given, where
the system finds these, and which files are touched.  So each function returns, next to its result,
what it has read, written and renamed, or has tried to; what the documents of the store are
afterwards is the subject of `Sessions/Store.lean`.

* `Touched` lists what can be done to a file, and `accesses` what a call does.
* `UuidForm` is what `Uuid::parse_str` accepts at most, and `UuidForm.slash_notMem` the one thing
  about it that matters.
* `accesses_confined` says that every file a call touches is below the directory of the sessions,
  and that a call that goes by an id touches none but the files directly in it, or directly in its
  archive.
-/

set_option autoImplicit false

namespace WorkWithMe.Sessions.Disk

open JsonFile Posix Server

/-! ## The paths -/

/-- `sessions_dir`, for the variable `HOME`. -/
def sessionsDir (home : Option String) : Path :=
  (Path.ofString (home.getD "~")).join (.ofString ".pi/sessions")

/-- `archive_dir`. -/
def archiveDir (home : Option String) : Path := (sessionsDir home).join (.ofString "archive")

/-- The name of the file of a session. -/
def fileName (id : SessionId) : String := id ++ ".json"

/-- `strip_suffix(".json")`, or the whole name. -/
def stripJson (name : String) : SessionId :=
  if ".json".toList <:+ name.toList then
    String.ofList (name.toList.take (name.toList.length - ".json".toList.length))
  else name

/-! ## The functions -/

/-- Something that is done to a file. -/
inductive Touched where
  /-- The file is read. -/
  | read (loc : Loc)
  /-- The document is written into the file. -/
  | write (loc : Loc) (v : Json)
  /-- The file is renamed. -/
  | rename (source dest : Loc)

section Functions

variable (parse : SessionId → Bool) (home : Option String) (f : Faults) (fs : FileSystem Contents)

/-- `load_session`. -/
def loadSession (id : SessionId) : Except String (Option Json) × List Touched :=
  if parse id = false then (.error "Invalid session ID format", [])
  else
    let path := (sessionsDir home).join (.ofString (fileName id))
    if fs.pathExists path = false then (.ok none, [])
    else match fs.readToString path with
      | none => (.error "Failed to read session: Is a directory", [])
      | some (loc, c) =>
        ((readFile f "Failed to read session: " "Invalid session JSON: " c).map some, [.read loc])

/-- `update_session`. -/
def updateSession (id : SessionId) (updated : String) (data : Json) :
    Except String Unit × List Touched :=
  if parse id = false then (.error "Invalid session ID format", [])
  else
    let path := (sessionsDir home).join (.ofString (fileName id))
    if fs.pathExists path = false then (.error ("Session not found: " ++ id), [])
    else
      match fs.openForWrite path with
      | none => (.error "Failed to update session: Is a directory", [])
      | some loc =>
        (match f.write with
          | some e => .error ("Failed to update session: " ++ e)
          | none => .ok (),
        [.write loc (data.insert "updated_at" (.str updated))])

/-- What `archive_session` and `unarchive_session` share: the source must be there, the directory of
the destination is made, and the file is renamed. -/
def renameSession (dir destDir : Path) (noDir failed : String) (id : SessionId) :
    Except String Bool × List Touched :=
  if parse id = false then (.error "Invalid session ID format", [])
  else
    let source := dir.join (.ofString (fileName id))
    if fs.pathExists source = false then (.ok false, [])
    else match f.dir, fs.createDirAll destDir with
      | some e, _ => (.error (noDir ++ e), [])
      | none, none => (.error (noDir ++ "File exists"), [])
      | none, some fs =>
        match fs.entry source, fs.entry (destDir.join (.ofString (fileName id))) with
        | some source, some dest =>
          (match f.write with
            | some e => .error (failed ++ e)
            | none => .ok true,
          [.rename source dest])
        | _, _ => (.error (failed ++ "No such file or directory"), [])

/-- `archive_session`. -/
def archiveSession (id : SessionId) : Except String Bool × List Touched :=
  renameSession parse f fs (sessionsDir home) (archiveDir home)
    "Failed to create archive directory: " "Failed to archive session: " id

/-- `unarchive_session`. -/
def unarchiveSession (id : SessionId) : Except String Bool × List Touched :=
  renameSession parse f fs (archiveDir home) (sessionsDir home)
    "Failed to create sessions directory: " "Failed to unarchive session: " id

/-- `load_session_by_path`. -/
def loadSessionByPath (path : String) : Except String (Option Json) × List Touched :=
  let canonicalSessions := (fs.canonicalize (sessionsDir home)).getD (sessionsDir home)
  match fs.canonicalize (.ofString path) with
  | none => (.error ("Session file not found: " ++ path), [])
  | some file =>
    if ¬ file.StartsWith canonicalSessions then
      (.error "Access denied: path is outside sessions directory", [])
    else if fs.pathExists file = false then (.ok none, [])
    else match fs.readToString file with
      | none => (.error "Failed to read session: Is a directory", [])
      | some (loc, c) =>
        ((readFile f "Failed to read session: " "Invalid session JSON: " c).map fun v ↦
          let v := v.insert "path" (.str file.text)
          let inArchive := decide (file.StartsWith (archiveDir home))
          some (if (v.get "archived").isSome then v else v.insert "archived" (.bool inArchive)),
        [.read loc])

/-- `set_archived_by_path`. -/
def setArchivedByPath (path : String) (archived : Bool) : Except String Bool × List Touched :=
  match (Path.ofString path).fileName with
  | none => (.error "Invalid path: no filename", [])
  | some name =>
    if archived then archiveSession parse home f fs (stripJson name)
    else unarchiveSession parse home f fs (stripJson name)

/-- A call of one of the functions. -/
inductive SessionCall where
  /-- `load_session`. -/
  | load (id : SessionId)
  /-- `update_session`. -/
  | update (id : SessionId) (updated : String) (data : Json)
  /-- `archive_session`. -/
  | archive (id : SessionId)
  /-- `unarchive_session`. -/
  | unarchive (id : SessionId)
  /-- `load_session_by_path`. -/
  | loadByPath (path : String)
  /-- `set_archived_by_path`. -/
  | setArchivedByPath (path : String) (archived : Bool)

/-- What a call does to files. -/
def accesses : SessionCall → List Touched
  | .load id => (loadSession parse home f fs id).2
  | .update id updated data => (updateSession parse home f fs id updated data).2
  | .archive id => (archiveSession parse home f fs id).2
  | .unarchive id => (unarchiveSession parse home f fs id).2
  | .loadByPath path => (loadSessionByPath home f fs path).2
  | .setArchivedByPath path archived => (setArchivedByPath parse home f fs path archived).2

end Functions

/-! ## UUIDs -/

/-- As many hexadecimal digits. -/
def HexDigits (n : ℕ) (cs : List Char) : Prop :=
  cs.length = n ∧ ∀ c ∈ cs, c ∈ "0123456789abcdefABCDEF".toList

instance (n : ℕ) (cs : List Char) : Decidable (HexDigits n cs) :=
  inferInstanceAs (Decidable (_ ∧ _))

/-- The hyphenated form. -/
def Hyphenated (cs : List Char) : Prop :=
  ∃ a b c d e, HexDigits 8 a ∧ HexDigits 4 b ∧ HexDigits 4 c ∧ HexDigits 4 d ∧ HexDigits 12 e ∧
    cs = a ++ '-' :: (b ++ '-' :: (c ++ '-' :: (d ++ '-' :: e)))

/-- **The forms of a UUID.** -/
inductive UuidForm : List Char → Prop
  /-- The simple one. -/
  | simple {cs : List Char} : HexDigits 32 cs → UuidForm cs
  /-- The one with hyphens. -/
  | hyphenated {cs : List Char} : Hyphenated cs → UuidForm cs
  /-- One of the two, in braces. -/
  | braced {cs : List Char} : HexDigits 32 cs ∨ Hyphenated cs → UuidForm ('{' :: (cs ++ ['}']))
  /-- One of the two, as a URN. -/
  | urn {cs : List Char} : HexDigits 32 cs ∨ Hyphenated cs → UuidForm ("urn:uuid:".toList ++ cs)

theorem HexDigits.slash_notMem {n : ℕ} {cs : List Char} (h : HexDigits n cs) : '/' ∉ cs := by
  intro hslash
  exact absurd (h.2 _ hslash) (by decide)

theorem Hyphenated.slash_notMem {cs : List Char} (h : Hyphenated cs) : '/' ∉ cs := by
  obtain ⟨a, b, c, d, e, ha, hb, hc, hd, he, rfl⟩ := h
  simp [ha.slash_notMem, hb.slash_notMem, hc.slash_notMem, hd.slash_notMem, he.slash_notMem]

/-- **No form of a UUID has a slash in it.** -/
theorem UuidForm.slash_notMem {cs : List Char} (h : UuidForm cs) : '/' ∉ cs := by
  have hdigits : ∀ {cs : List Char}, HexDigits 32 cs ∨ Hyphenated cs → '/' ∉ cs :=
    fun h ↦ h.elim HexDigits.slash_notMem Hyphenated.slash_notMem
  cases h with
  | simple h => exact h.slash_notMem
  | hyphenated h => exact h.slash_notMem
  | braced h => simp [hdigits h]
  | urn h =>
    rw [List.mem_append, not_or]
    exact ⟨by decide, hdigits h⟩

/-! ## Confinement -/

/-- The files that something is done to. -/
def Touched.locs : Touched → List Loc
  | .read loc => [loc]
  | .write loc _ => [loc]
  | .rename source dest => [source, dest]

/-- The call goes by the location of its path, and not by a name. -/
def SessionCall.ByPath : SessionCall → Prop
  | .loadByPath _ => True
  | _ => False

section Confinement

variable (home : Option String) (fs : FileSystem Contents)

/-- Neither the directory of the sessions nor its archive has a symbolic link in it. -/
def NoLinks : Prop :=
  ∀ dir, fs.resolve (sessionsDir home) = some dir → ∀ name target,
    fs.node (dir ++ [name]) ≠ some (.link target) ∧
      fs.node (dir ++ ["archive", name]) ≠ some (.link target)

/-- The location is in the directory of the sessions. -/
def InSessions (loc : Loc) : Prop :=
  ∃ dir, fs.resolve (sessionsDir home) = some dir ∧ dir <+: loc

/-- The location is directly in the directory of the sessions, or in its archive. -/
def ChildOfSessions (loc : Loc) : Prop :=
  ∃ dir name, fs.resolve (sessionsDir home) = some dir ∧
    (loc = dir ++ [name] ∨ loc = dir ++ ["archive", name])

variable {home fs} {fs' : FileSystem Contents} {dir loc : Loc} {name : String} {id : SessionId}

theorem ChildOfSessions.inSessions (h : ChildOfSessions home fs loc) : InSessions home fs loc := by
  obtain ⟨dir, name, hdir, rfl | rfl⟩ := h
  · exact ⟨dir, hdir, List.prefix_append _ _⟩
  · exact ⟨dir, hdir, List.prefix_append _ _⟩

/-- The last name of `sessions_dir`. -/
theorem sessionsDir_segs (home : Option String) :
    ∃ segs, (sessionsDir home).segs = segs ++ ["sessions"] :=
  ⟨_, List.append_cons (Path.ofString (home.getD "~")).segs ".pi" ["sessions"]⟩

theorem sessionsDir_ne_empty (home : Option String) : sessionsDir home ≠ .empty := by
  intro h
  obtain ⟨segs, hsegs⟩ := sessionsDir_segs home
  rw [h] at hsegs
  have hlast := congrArg List.getLast? hsegs
  rw [List.getLast?_concat] at hlast
  exact absurd hlast (by decide)

theorem archiveDir_ne_empty (home : Option String) : archiveDir home ≠ .empty := by
  intro h
  have hlast := congrArg (fun p ↦ p.segs.getLast?) h
  rw [archiveDir] at hlast
  exact absurd (List.getLast?_concat.symm.trans hlast) (by decide)

theorem components_archiveDir (home : Option String) :
    (archiveDir home).components = (sessionsDir home).components ++ [.name "archive"] := by
  have hsegs : (archiveDir home).segs = (sessionsDir home).segs ++ ["archive"] := rfl
  rw [Path.components, hsegs, List.filter_append, List.map_append, ← List.append_assoc]
  rfl

/-- A path that begins with `archive_dir` begins with `sessions_dir`, and that is canonical. -/
theorem components_of_startsWith_archiveDir (hdir : fs.resolve (sessionsDir home) = some dir)
    (hloc : Plain fs.node loc) (h : Path.StartsWith ⟨true, loc⟩ (archiveDir home)) :
    (sessionsDir home).components = .root :: dir.map .name ∧ dir ++ ["archive"] <+: loc := by
  have harchive := components_archiveDir home
  have hstarts : Path.StartsWith ⟨true, loc⟩ (sessionsDir home) :=
    (List.prefix_append _ _).trans (harchive ▸ h : _ ++ [.name "archive"] <+: _)
  obtain ⟨segs, hsegs⟩ := sessionsDir_segs home
  obtain ⟨dir', hdir', hcomponents⟩ := resolve_of_startsWith hsegs (by decide) hloc hstarts
  rw [hdir] at hdir'
  obtain rfl := Option.some.inj hdir'
  refine ⟨hcomponents, ?_⟩
  rw [Path.StartsWith, harchive, hcomponents, components_of_plain hloc, List.cons_append,
    List.cons_prefix_cons] at h
  have hmap : (dir ++ ["archive"]).map Component.name <+: loc.map .name := by
    rw [List.map_append]
    exact h.2
  exact (List.prefix_map_iff_of_injective fun _ _ ↦ Component.name.inj).mp hmap

/-- The name of the file of a session leads down. -/
theorem proper_fileName (id : SessionId) : Proper (fileName id) := proper_append id (by decide)

/-- The name of the file of a session is one segment. -/
theorem ofString_fileName (h : UuidForm id.toList) :
    Path.ofString (fileName id) = ⟨false, [fileName id]⟩ := by
  refine ofString_of_slash_notMem ?_
  rw [fileName, String.toList_append, List.mem_append, not_or]
  exact ⟨h.slash_notMem, by decide⟩

/-- A file that is found by a name in `sessions_dir`. -/
theorem child_of_find {new : Bool} (hlinks : NoLinks home fs) (hname : Proper name)
    (h : fs.find ((sessionsDir home).join ⟨false, [name]⟩) new = some loc) :
    ChildOfSessions home fs loc := by
  obtain ⟨dir, hdir, hloc⟩ := find_join_name (sessionsDir_ne_empty home) hname h
  exact ⟨dir, name, hdir, Or.inl (hloc fun target ↦ (hlinks dir hdir name target).1)⟩

/-- A file that is found by a name in either directory: there is the one directory. -/
theorem exists_sessionsDir (h : fs.resolve ((archiveDir home).join ⟨false, [name]⟩) = some loc)
    (hname : Proper name) : ∃ dir, fs.resolve (sessionsDir home) = some dir := by
  obtain ⟨mid, hmid, -⟩ := find_join_name (archiveDir_ne_empty home) hname h
  obtain ⟨dir, hdir, -⟩ := find_join_name (sessionsDir_ne_empty home) (by decide) hmid
  exact ⟨dir, hdir⟩

/-- An entry by a name in either directory, after directories have been made. -/
theorem child_of_entry (hlinks : NoLinks home fs) (hext : Extends fs fs')
    (hdir : fs.resolve (sessionsDir home) = some dir) {base : Path}
    (hbase : base = sessionsDir home ∨ base = archiveDir home)
    (h : fs'.entry (base.join ⟨false, [name]⟩) = some loc) : ChildOfSessions home fs loc := by
  have hdir' := hext.resolve hdir
  refine ⟨dir, name, hdir, ?_⟩
  obtain rfl | rfl := hbase
  · obtain ⟨dir₁, hdir₁, rfl⟩ := entry_join_name (sessionsDir_ne_empty home) h
    rw [hdir'] at hdir₁
    exact Or.inl (Option.some.inj hdir₁ ▸ rfl)
  · obtain ⟨archive, harchive, rfl⟩ := entry_join_name (archiveDir_ne_empty home) h
    obtain ⟨dir₁, hdir₁, hloc⟩ := find_join_name (sessionsDir_ne_empty home) (by decide) harchive
    rw [hdir'] at hdir₁
    obtain rfl := Option.some.inj hdir₁
    have hlink : ∀ target, fs'.node (dir ++ ["archive"]) ≠ some (.link target) :=
      fun target ↦ hext.not_link (hlinks dir hdir "archive" target).1
    rw [hloc hlink, List.append_assoc]
    exact Or.inr rfl

/-! ## The functions -/

variable {parse : SessionId → Bool} {f : Faults} {t : Touched}

/-- **What `load_session` touches.** -/
theorem child_of_loadSession (hparse : ∀ id, parse id = true → UuidForm id.toList)
    (hlinks : NoLinks home fs) (ht : t ∈ (loadSession parse home f fs id).2) :
    ∀ loc ∈ t.locs, ChildOfSessions home fs loc := by
  rw [loadSession] at ht
  split at ht
  · cases ht
  · rename_i hid
    dsimp only at ht
    split at ht
    · cases ht
    · split at ht
      · cases ht
      · rename_i hread
        obtain rfl := List.mem_singleton.mp ht
        rw [ofString_fileName (hparse id (by simpa using hid))] at hread
        exact List.forall_mem_singleton.mpr
          (child_of_find hlinks (proper_fileName id) (resolve_of_readToString hread))

/-- **What `update_session` touches.** -/
theorem child_of_updateSession (hparse : ∀ id, parse id = true → UuidForm id.toList)
    (hlinks : NoLinks home fs) {updated : String} {data : Json}
    (ht : t ∈ (updateSession parse home f fs id updated data).2) :
    ∀ loc ∈ t.locs, ChildOfSessions home fs loc := by
  rw [updateSession] at ht
  split at ht
  · cases ht
  · rename_i hid
    dsimp only at ht
    split at ht
    · cases ht
    · split at ht
      · cases ht
      · rename_i hopen
        obtain rfl := List.mem_singleton.mp ht
        rw [ofString_fileName (hparse id (by simpa using hid))] at hopen
        exact List.forall_mem_singleton.mpr
          (child_of_find hlinks (proper_fileName id) (find_of_openForWrite hopen))

/-- **What `archive_session` and `unarchive_session` touch.** -/
theorem child_of_renameSession (hparse : ∀ id, parse id = true → UuidForm id.toList)
    (hlinks : NoLinks home fs) {base destBase : Path}
    (hbase : base = sessionsDir home ∨ base = archiveDir home)
    (hdest : destBase = sessionsDir home ∨ destBase = archiveDir home) {noDir failed : String}
    (ht : t ∈ (renameSession parse f fs base destBase noDir failed id).2) :
    ∀ loc ∈ t.locs, ChildOfSessions home fs loc := by
  rw [renameSession] at ht
  split at ht
  · cases ht
  · rename_i hid
    dsimp only at ht
    rw [ofString_fileName (hparse id (by simpa using hid))] at ht
    split at ht
    · cases ht
    · rename_i hexists
      -- the source is there, and so is the directory of the sessions
      obtain ⟨source, hsource⟩ := pathExists_iff.mp (by simpa using hexists)
      obtain ⟨dir, hdir⟩ : ∃ dir, fs.resolve (sessionsDir home) = some dir := by
        obtain rfl | rfl := hbase
        · obtain ⟨dir, hdir, -⟩ := find_join_name (sessionsDir_ne_empty home) (proper_fileName id)
            hsource
          exact ⟨dir, hdir⟩
        · exact exists_sessionsDir hsource (proper_fileName id)
      split at ht
      · cases ht
      · cases ht
      · rename_i hmade
        have hext := createDirAll_extends hmade
        split at ht
        · rename_i hfrom hto
          obtain rfl := List.mem_singleton.mp ht
          exact List.forall_mem_cons.mpr ⟨child_of_entry hlinks hext hdir hbase hfrom,
            List.forall_mem_singleton.mpr (child_of_entry hlinks hext hdir hdest hto)⟩
        · cases ht

/-- **What `load_session_by_path` touches.** -/
theorem inSessions_of_loadSessionByPath {path : String}
    (ht : t ∈ (loadSessionByPath home f fs path).2) : ∀ loc ∈ t.locs, InSessions home fs loc := by
  rw [loadSessionByPath] at ht
  dsimp only at ht
  split at ht
  · cases ht
  · rename_i file hfile
    obtain ⟨loc, hloc, rfl⟩ := Option.map_eq_some_iff.mp hfile
    have hplain := plain_of_resolve hloc
    split at ht
    · cases ht
    · rename_i hstarts
      replace hstarts := not_not.mp hstarts
      split at ht
      · cases ht
      · split at ht
        · cases ht
        · rename_i hread
          obtain rfl := List.mem_singleton.mp ht
          have hsame := resolve_of_readToString hread
          rw [resolve_of_plain hplain] at hsame
          rw [Touched.locs, List.forall_mem_singleton, ← Option.some.inj hsame]
          cases hdir : fs.resolve (sessionsDir home) with
          | some dir =>
            rw [FileSystem.canonicalize, hdir] at hstarts
            exact ⟨dir, hdir,
              (startsWith_iff_of_plain hplain (plain_of_resolve hdir)).mp hstarts⟩
          | none =>
            -- the directory that the path is compared with instead is there after all
            rw [FileSystem.canonicalize, hdir] at hstarts
            obtain ⟨segs, hsegs⟩ := sessionsDir_segs home
            obtain ⟨dir, hdir', -⟩ := resolve_of_startsWith hsegs (by decide) hplain hstarts
            rw [hdir] at hdir'
            cases hdir'

end Confinement

/-- **Every call is confined**: the files it touches are in the directory of the sessions, and,
unless it goes by the location of a path, directly in it or in its archive. -/
theorem accesses_confined {parse : SessionId → Bool} {home : Option String} {f : Faults}
    {fs : FileSystem Contents} (hparse : ∀ id, parse id = true → UuidForm id.toList)
    (hlinks : NoLinks home fs) (call : SessionCall) :
    ∀ t ∈ accesses parse home f fs call, ∀ loc ∈ t.locs,
      InSessions home fs loc ∧ (¬ call.ByPath → ChildOfSessions home fs loc) := by
  have hchild : ∀ {loc}, ChildOfSessions home fs loc →
      InSessions home fs loc ∧ (¬ call.ByPath → ChildOfSessions home fs loc) :=
    fun h ↦ ⟨h.inSessions, fun _ ↦ h⟩
  have harchive : ∀ {id t}, t ∈ (archiveSession parse home f fs id).2 →
      ∀ loc ∈ t.locs, ChildOfSessions home fs loc :=
    child_of_renameSession hparse hlinks (Or.inl rfl) (Or.inr rfl)
  have hunarchive : ∀ {id t}, t ∈ (unarchiveSession parse home f fs id).2 →
      ∀ loc ∈ t.locs, ChildOfSessions home fs loc :=
    child_of_renameSession hparse hlinks (Or.inr rfl) (Or.inl rfl)
  intro t ht loc hloc
  cases call with
  | load id => exact hchild (child_of_loadSession hparse hlinks ht loc hloc)
  | update id updated data => exact hchild (child_of_updateSession hparse hlinks ht loc hloc)
  | archive id => exact hchild (harchive ht loc hloc)
  | unarchive id => exact hchild (hunarchive ht loc hloc)
  | loadByPath path =>
    exact ⟨inSessions_of_loadSessionByPath ht loc hloc, fun hnot ↦ absurd trivial hnot⟩
  | setArchivedByPath path archived =>
    rw [accesses, setArchivedByPath] at ht
    split at ht
    · cases ht
    · split at ht
      · exact hchild (harchive ht loc hloc)
      · exact hchild (hunarchive ht loc hloc)

/-- A disk with one session on it. -/
def exampleDisk : FileSystem Contents where
  node loc :=
    if loc ∈ [[], ["h"], ["h", ".pi"], ["h", ".pi", "sessions"]] then some .dir
    else if loc = ["h", ".pi", "sessions", "c9bf9e57-1685-4c89-bafb-ff5af830be8a.json"] then
      some (.file (.doc (.obj [])))
    else none
  cwd := []
  maxLinks := 40
  cwd_plain := .root

/-- The session is found, in the directory of the sessions. -/
theorem accesses_confined_example :
    Touched.read ["h", ".pi", "sessions", "c9bf9e57-1685-4c89-bafb-ff5af830be8a.json"] ∈
        accesses (fun id ↦ id = "c9bf9e57-1685-4c89-bafb-ff5af830be8a") (some "/h") .none
          exampleDisk (.load "c9bf9e57-1685-4c89-bafb-ff5af830be8a") ∧
      ChildOfSessions (some "/h") exampleDisk
        ["h", ".pi", "sessions", "c9bf9e57-1685-4c89-bafb-ff5af830be8a.json"] := by
  have htouched : Touched.read ["h", ".pi", "sessions",
      "c9bf9e57-1685-4c89-bafb-ff5af830be8a.json"] ∈
        accesses (fun id ↦ id = "c9bf9e57-1685-4c89-bafb-ff5af830be8a") (some "/h") .none
          exampleDisk (.load "c9bf9e57-1685-4c89-bafb-ff5af830be8a") := List.mem_singleton.mpr rfl
  refine ⟨htouched, (accesses_confined ?_ ?_ _ _ htouched _ (List.mem_singleton.mpr rfl)).2 id⟩
  · intro id hid
    obtain rfl := of_decide_eq_true hid
    exact .hyphenated ⟨"c9bf9e57".toList, "1685".toList, "4c89".toList, "bafb".toList,
      "ff5af830be8a".toList, ⟨rfl, by simp⟩, ⟨rfl, by simp⟩, ⟨rfl, by simp⟩, ⟨rfl, by simp⟩,
      ⟨rfl, by simp⟩, rfl⟩
  · intro dir _ name target
    have hnode : ∀ loc, exampleDisk.node loc ≠ some (.link target) := by
      intro loc
      dsimp only [exampleDisk]
      split
      · simp
      · split <;> simp
    exact ⟨hnode _, hnode _⟩

end WorkWithMe.Sessions.Disk
