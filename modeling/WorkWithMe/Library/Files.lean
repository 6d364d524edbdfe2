import Mathlib.Algebra.Group.Nat.Defs
import Mathlib.Logic.Function.Basic
import WorkWithMe.Lib.Machine
import WorkWithMe.Library.Db

/-!
# The files of the capture library

`LibraryState` is the database together with the files it speaks of: the pictures of drafts and the
thumbnails of films, which the library writes itself, and the films, which it is given the paths
of.  The commands are those of `library/commands.rs`, and `pruneAtStart` is what `run` of `lib.rs`
makes of `prune`.  What the crates `base64` and `image` make of a text is the parameter `Codec`.

* `FilesReferenced` says that every file the library has written is one that a row names, and
  `FtsMatches` that the index is in step with the table.
* `filesReferenced_step_iff` and `ftsMatches_step_iff` say which calls keep these two.
* `agree_iff_guarded` says for which sequences of calls the two hold all along: the first as long as
  no step of a call fails, the second whatever fails.
* `not_filesReferenced_of_exec` and `not_ftsMatches_of_exec` are sequences for which they do not.
-/

set_option autoImplicit false

namespace WorkWithMe.Library

/-! ## Pictures -/

/-- The formats of pictures. -/
inductive ImageFormat where
  /-- PNG. -/
  | png
  /-- Another one that the crate `image` reads, such as JPEG. -/
  | other (name : String)
  deriving DecidableEq

/-- What is known of a picture that was decoded. -/
structure Picture where
  /-- The format. -/
  format : ImageFormat
  /-- The width in pixels, a `u32`. -/
  width : ℕ
  /-- The height in pixels, a `u32`. -/
  height : ℕ
  deriving DecidableEq

/-- The crates that decode: `base64` and `image::load_from_memory`. -/
structure Codec (Bytes : Type) where
  /-- The bytes in a text. -/
  base64 : String → Except String Bytes
  /-- The picture in some bytes. -/
  image : Bytes → Except String Picture

/-- `as i32`. -/
def asI32 (n : ℕ) : ℤ := (n : ℤ).bmod (2 ^ 32)

/-! ## The library -/

/-- The database and the files. -/
structure LibraryState (Bytes : Type) where
  /-- The database. -/
  db : LibraryDb
  /-- What the files hold, by path. -/
  files : String → Option Bytes
  /-- The paths that the library has chosen for pictures of drafts and for thumbnails. -/
  own : List String

section Library

variable {Bytes : Type}

/-- No captures and no files. -/
def LibraryState.empty : LibraryState Bytes := ⟨.empty, fun _ ↦ none, []⟩

/-- A file of the library's own is written. -/
def LibraryState.create (lib : LibraryState Bytes) (path : String) (bytes : Bytes) :
    LibraryState Bytes :=
  { lib with files := Function.update lib.files path (some bytes), own := path :: lib.own }

/-- A file is written that has its path already. -/
def LibraryState.overwrite (lib : LibraryState Bytes) (path : String) (bytes : Bytes) :
    LibraryState Bytes :=
  { lib with files := Function.update lib.files path (some bytes) }

/-- The file has what was written. -/
theorem LibraryState.overwrite_files_self (lib : LibraryState Bytes) (path : String)
    (bytes : Bytes) : (lib.overwrite path bytes).files path = some bytes :=
  Function.update_self ..

/-- What the environment contributes to one call. -/
structure Env where
  /-- The directory of the captures. -/
  dir : String
  /-- The UUID that becomes the name of a file. -/
  fileId : String
  /-- The UUID that becomes the id of a row. -/
  id : String
  /-- The time, in milliseconds. -/
  now : ℤ
  /-- The statements that fail. -/
  db : DbFaults
  /-- `create_dir_all` fails. -/
  mkdir : Option String
  /-- `write` fails. -/
  write : Option String
  /-- `remove_file` fails. -/
  remove : Option String
  /-- What `recording_extract_thumbnail` returns. -/
  thumbnail : Except String String

/-! ## The commands -/

variable (codec : Codec Bytes) (env : Env)

/-- The file of a draft. -/
def pngPath : String := env.dir ++ "/" ++ env.fileId ++ ".png"

/-- The file of a thumbnail. -/
def thumbPath : String := env.dir ++ "/" ++ env.fileId ++ "-thumb.png"

/-- `write_png`. -/
def writePng (imageB64 : String) (lib : LibraryState Bytes) :
    Except String (String × ℤ × ℤ) × LibraryState Bytes :=
  match env.mkdir with
  | some e => (.error ("mkdir: " ++ e), lib)
  | none =>
    match codec.base64 imageB64 with
    | .error e => (.error ("base64 decode: " ++ e), lib)
    | .ok bytes =>
      match codec.image bytes with
      | .error e => (.error ("decode: " ++ e), lib)
      | .ok img =>
        match env.write with
        | some e => (.error ("write: " ++ e), lib)
        | none => (.ok (pngPath env, asI32 img.width, asI32 img.height),
            lib.create (pngPath env) bytes)

/-- `write_png_to`: the bytes are not decoded as a picture. -/
def writePngTo (imageB64 filePath : String) (lib : LibraryState Bytes) :
    Except String Unit × LibraryState Bytes :=
  match codec.base64 imageB64 with
  | .error e => (.error ("base64 decode: " ++ e), lib)
  | .ok bytes =>
    match env.write with
    | some e => (.error ("write png: " ++ e), lib)
    | none => (.ok (), lib.overwrite filePath bytes)

/-- `save_draft_internal`, up to the thread. -/
def saveDraftInternal (imageB64 : String) (appName windowTitle : Option String)
    (lib : LibraryState Bytes) : Except String String × LibraryState Bytes :=
  match writePng codec env imageB64 lib with
  | (.error e, lib) => (.error e, lib)
  | (.ok (filePath, width, height), lib) =>
    let saved := saveDraft env.id env.now filePath appName windowTitle width height env.db lib.db
    (saved.1, { lib with db := saved.2 })

/-- `library_finalize`, up to the thread. -/
def libraryFinalize (id imageB64 : String) (lib : LibraryState Bytes) :
    Except String Unit × LibraryState Bytes :=
  match env.db.lookup with
  | some e => (.error ("lookup: " ++ e), lib)
  | none =>
    match lib.db.capture id with
    | none => (.error "lookup: Query returned no rows", lib)
    | some row =>
      match writePngTo codec env imageB64 row.filePath lib with
      | (.error e, lib) => (.error e, lib)
      | (.ok _, lib) =>
        match finalize id env.db.first lib.db with
        | .error e => (.error e, lib)
        | .ok db => (.ok (), { lib with db := db })

/-- `library_delete`: the outcome of `remove_file` is ignored. -/
def libraryDelete (id : String) (lib : LibraryState Bytes) :
    Except String Unit × LibraryState Bytes :=
  match delete id env.db lib.db with
  | (.error e, db) => (.error e, { lib with db := db })
  | (.ok none, db) => (.ok (), { lib with db := db })
  | (.ok (some path), db) =>
    (.ok (), { lib with
      db := db
      files := if env.remove = none then Function.update lib.files path none else lib.files })

/-- The part of `library_save_video` that writes the thumbnail. -/
def writeThumb (lib : LibraryState Bytes) : Except String String × LibraryState Bytes :=
  match env.thumbnail with
  | .error e => (.error e, lib)
  | .ok thumbB64 =>
    match env.mkdir with
    | some e => (.error ("mkdir: " ++ e), lib)
    | none =>
      match codec.base64 thumbB64 with
      | .error e => (.error ("base64: " ++ e), lib)
      | .ok bytes =>
        match env.write with
        | some e => (.error ("write thumb: " ++ e), lib)
        | none => (.ok (thumbPath env), lib.create (thumbPath env) bytes)

/-- `library_save_video`. -/
def librarySaveVideo (exportedPath : String) (lib : LibraryState Bytes) :
    Except String String × LibraryState Bytes :=
  match writeThumb codec env lib with
  | (.error e, lib) => (.error e, lib)
  | (.ok path, lib) =>
    let saved := saveVideo env.id env.now exportedPath path env.db lib.db
    (saved.1, { lib with db := saved.2 })

/-- `prune`, as `run` calls it: the paths are printed. -/
def pruneAtStart (lib : LibraryState Bytes) : Except String (List String) × LibraryState Bytes :=
  let pruned := prune env.now env.db lib.db
  (pruned.1, { lib with db := pruned.2 })

/-- A call of a command that writes, or a start of the program. -/
inductive LibraryCall where
  /-- `library_save_draft`. -/
  | saveDraft (imageB64 : String) (appName windowTitle : Option String)
  /-- `library_finalize`. -/
  | finalize (id imageB64 : String)
  /-- `library_delete`. -/
  | delete (id : String)
  /-- `library_save_video`. -/
  | saveVideo (exportedPath : String)
  /-- A start. -/
  | start

/-- The library after a call. -/
def serve (lib : LibraryState Bytes) : LibraryCall → LibraryState Bytes
  | .saveDraft imageB64 appName windowTitle =>
    (saveDraftInternal codec env imageB64 appName windowTitle lib).2
  | .finalize id imageB64 => (libraryFinalize codec env id imageB64 lib).2
  | .delete id => (libraryDelete env id lib).2
  | .saveVideo exportedPath => (librarySaveVideo codec env exportedPath lib).2
  | .start => (pruneAtStart env lib).2

/-- A call, as a step. -/
def libraryStep (lib : LibraryState Bytes) (a : Env × LibraryCall) : Option (LibraryState Bytes) :=
  some (serve codec a.1 lib a.2)

end Library

/-! ## The law -/

section Law

variable {Bytes : Type}

/-- The row names a file. -/
def CaptureEntry.Names (r : CaptureEntry) (path : String) : Prop :=
  r.filePath = path ∨ r.thumbnailPath = some path

/-- **Every file that the library has written, and that still exists, is one that a row names.** -/
def FilesReferenced (lib : LibraryState Bytes) : Prop :=
  ∀ path ∈ lib.own, lib.files path ≠ none → ∃ r ∈ lib.db.captures, r.Names path

/-- No file or database step of the call fails; in particular the id of a new row is new. -/
def NoStepFails (lib : LibraryState Bytes) (a : Env × LibraryCall) : Prop :=
  a.1.db = .none ∧ a.1.mkdir = none ∧ a.1.write = none ∧ a.1.remove = none ∧
    a.1.id ∉ lib.db.captures.map CaptureEntry.id

/-- The condition for the files: a start prunes no row, and a deletion removes none, that is the
last to name an existing file of the library's own, other than the one that is deleted with it. -/
def KeepsFiles (lib : LibraryState Bytes) (a : Env × LibraryCall) : Prop :=
  match a.2 with
  | .start => ∀ r ∈ lib.db.captures, r.timestamp < pruneCutoff a.1.now → ∀ path ∈ lib.own,
      r.Names path → lib.files path ≠ none →
        ∃ r' ∈ lib.db.captures, ¬ r'.timestamp < pruneCutoff a.1.now ∧ r'.Names path
  | .delete id => ∀ r ∈ lib.db.captures, r.id = id → ∀ path ∈ lib.own,
      r.Names path → lib.files path ≠ none →
        (lib.db.capture id).map CaptureEntry.filePath ≠ some path →
          ∃ r' ∈ lib.db.captures, r'.id ≠ id ∧ r'.Names path
  | _ => True

/-- The file part of `save_draft` succeeds. -/
def WritesPng (codec : Codec Bytes) (env : Env) (imageB64 : String) : Prop :=
  env.mkdir = none ∧ env.write = none ∧
    ∃ bytes img, codec.base64 imageB64 = .ok bytes ∧ codec.image bytes = .ok img

/-- The file part of `library_save_video` succeeds. -/
def WritesThumb (codec : Codec Bytes) (env : Env) : Prop :=
  env.mkdir = none ∧ env.write = none ∧
    ∃ thumbB64 bytes, env.thumbnail = .ok thumbB64 ∧ codec.base64 thumbB64 = .ok bytes

/-- The condition for the index: an insertion that has written its row, and a start that has pruned
some, do not come to a failing statement for the index. -/
def KeepsFts (codec : Codec Bytes) (lib : LibraryState Bytes) (a : Env × LibraryCall) : Prop :=
  match a.2 with
  | .saveDraft imageB64 _ _ => WritesPng codec a.1 imageB64 → a.1.db.first = none →
      a.1.id ∉ lib.db.captures.map CaptureEntry.id → a.1.db.second = none
  | .saveVideo _ => WritesThumb codec a.1 → a.1.db.first = none →
      a.1.id ∉ lib.db.captures.map CaptureEntry.id → a.1.db.second = none
  | .start => a.1.db.lookup = none → a.1.db.first = none →
      a.1.db.second = none ∨ ∀ r ∈ lib.db.captures, ¬ r.timestamp < pruneCutoff a.1.now
  | _ => True

end Law

/-! ## What the commands can do -/

section Cases

variable {Bytes : Type} (codec : Codec Bytes) (env : Env) (lib : LibraryState Bytes)

/-- **What `save_draft` can do**: nothing, or write a file and insert rows that name it. -/
theorem saveDraftInternal_cases (imageB64 : String) (appName windowTitle : Option String) :
    (¬ WritesPng codec env imageB64 ∧
        ∃ e, saveDraftInternal codec env imageB64 appName windowTitle lib = (.error e, lib)) ∨
      ∃ bytes img, WritesPng codec env imageB64 ∧ codec.base64 imageB64 = .ok bytes ∧
        codec.image bytes = .ok img ∧
        ∃ saved, saved = saveDraft env.id env.now (pngPath env) appName windowTitle
            (asI32 img.width) (asI32 img.height) env.db lib.db ∧
          saveDraftInternal codec env imageB64 appName windowTitle lib =
            (saved.1, { lib.create (pngPath env) bytes with db := saved.2 }) := by
  unfold saveDraftInternal writePng WritesPng
  cases env.mkdir with
  | some e => exact Or.inl ⟨by simp, _, rfl⟩
  | none =>
    cases hbase : codec.base64 imageB64 with
    | error e => exact Or.inl ⟨by simp, _, rfl⟩
    | ok bytes =>
      dsimp only
      cases himage : codec.image bytes with
      | error e => exact Or.inl ⟨by simp [himage], _, rfl⟩
      | ok img =>
        cases env.write with
        | some e => exact Or.inl ⟨by simp, _, rfl⟩
        | none => exact Or.inr ⟨bytes, img, ⟨rfl, rfl, bytes, img, rfl, himage⟩, rfl, himage, _,
            rfl, rfl⟩

/-- **What `library_finalize` can do**: nothing, or write the file of the row, and then mark the row
or not. -/
theorem libraryFinalize_cases (id imageB64 : String) :
    ((∀ row bytes, env.db.lookup = none → lib.db.capture id = some row →
        codec.base64 imageB64 = .ok bytes → env.write ≠ none) ∧
        ∃ e, libraryFinalize codec env id imageB64 lib = (.error e, lib)) ∨
      ∃ row bytes, env.db.lookup = none ∧ lib.db.capture id = some row ∧ env.write = none ∧
        codec.base64 imageB64 = .ok bytes ∧
        ((env.db.first = none ∧ libraryFinalize codec env id imageB64 lib =
            (.ok (), { lib.overwrite row.filePath bytes with
              db := ⟨Table.updateAt CaptureEntry.id id (fun r ↦ { r with isDraft := false })
                lib.db.captures, lib.db.fts⟩ })) ∨
          (env.db.first ≠ none ∧ ∃ e, libraryFinalize codec env id imageB64 lib =
            (.error e, lib.overwrite row.filePath bytes))) := by
  unfold libraryFinalize writePngTo
  cases env.db.lookup with
  | some e => exact Or.inl ⟨by simp, _, rfl⟩
  | none =>
    cases hrow : lib.db.capture id with
    | none => exact Or.inl ⟨by simp, _, rfl⟩
    | some row =>
      cases codec.base64 imageB64 with
      | error e => exact Or.inl ⟨by simp, _, rfl⟩
      | ok bytes =>
        cases env.write with
        | some e => exact Or.inl ⟨by simp, _, rfl⟩
        | none =>
          refine Or.inr ⟨row, bytes, rfl, rfl, rfl, rfl, ?_⟩
          cases env.db.first with
          | none => exact Or.inl ⟨rfl, rfl⟩
          | some e => exact Or.inr ⟨by simp, _, rfl⟩

/-- **What `library_delete` can do**: nothing, or remove the rows, and the file that is found in the
row. -/
theorem libraryDelete_cases (id : String) :
    (env.db ≠ .none ∧ ∃ e, libraryDelete env id lib = (.error e, lib)) ∨
      ∃ files, libraryDelete env id lib = (.ok (), ⟨⟨Table.deleteAt CaptureEntry.id id
          lib.db.captures, Table.deleteAt FtsRow.id id lib.db.fts⟩, files, lib.own⟩) ∧
        (env.db.lookup = none → env.remove = none → ∀ path, files path ≠ none ↔
          lib.files path ≠ none ∧ (lib.db.capture id).map CaptureEntry.filePath ≠ some path) := by
  unfold libraryDelete
  obtain ⟨hne, e, he⟩ | hok := delete_cases id env.db lib.db
  · rw [he]
    exact Or.inl ⟨hne, e, rfl⟩
  · rw [hok]
    refine Or.inr ?_
    by_cases hlookup : env.db.lookup = none
    · rw [if_pos hlookup]
      cases hpath : (lib.db.capture id).map CaptureEntry.filePath with
      | none => exact ⟨_, rfl, fun _ _ path ↦ by simp⟩
      | some path =>
        refine ⟨_, rfl, fun _ hremove j ↦ ?_⟩
        rw [if_pos hremove]
        by_cases hj : j = path
        · subst hj
          simp
        · simp [Function.update_of_ne hj, Ne.symm hj]
    · rw [if_neg hlookup]
      exact ⟨_, rfl, fun h ↦ absurd h hlookup⟩

/-- **What `library_save_video` can do**: nothing, or write a thumbnail and insert rows that name
it. -/
theorem librarySaveVideo_cases (exportedPath : String) :
    (¬ WritesThumb codec env ∧
        ∃ e, librarySaveVideo codec env exportedPath lib = (.error e, lib)) ∨
      ∃ bytes, WritesThumb codec env ∧
        ∃ saved, saved = saveVideo env.id env.now exportedPath (thumbPath env) env.db lib.db ∧
          librarySaveVideo codec env exportedPath lib =
            (saved.1, { lib.create (thumbPath env) bytes with db := saved.2 }) := by
  unfold librarySaveVideo writeThumb WritesThumb
  cases env.thumbnail with
  | error e => exact Or.inl ⟨by simp, _, rfl⟩
  | ok thumbB64 =>
    cases env.mkdir with
    | some e => exact Or.inl ⟨by simp, _, rfl⟩
    | none =>
      dsimp only
      cases hbase : codec.base64 thumbB64 with
      | error e => exact Or.inl ⟨by simp [hbase], _, rfl⟩
      | ok bytes =>
        cases env.write with
        | some e => exact Or.inl ⟨by simp, _, rfl⟩
        | none => exact Or.inr ⟨bytes, ⟨rfl, rfl, thumbB64, bytes, rfl, hbase⟩, _, rfl, rfl⟩

end Cases

/-! ## The index -/

section Step

variable {Bytes : Type} {codec : Codec Bytes} {lib : LibraryState Bytes} {env : Env}

/-- **A call keeps the index in step with the table** if and only if it meets its condition. -/
theorem ftsMatches_step_iff (h : FtsMatches lib.db) (call : LibraryCall) :
    FtsMatches (serve codec env lib call).db ↔ KeepsFts codec lib (env, call) := by
  cases call with
  | saveDraft imageB64 appName windowTitle =>
    obtain ⟨hno, e, he⟩ | ⟨bytes, img, hwrites, -, -, saved, rfl, hok⟩ :=
      saveDraftInternal_cases codec env lib imageB64 appName windowTitle
    · rw [serve, he]
      exact iff_of_true h fun hwrites ↦ absurd hwrites hno
    · rw [serve, hok, KeepsFts]
      simp only [hwrites, true_implies]
      exact ftsMatches_insertBoth_iff env.db h _ _ _ _ rfl
  | finalize id imageB64 =>
    refine iff_of_true ?_ trivial
    obtain ⟨-, e, he⟩ | ⟨row, bytes, -, -, -, -, ⟨-, hok⟩ | ⟨-, e, he⟩⟩ :=
      libraryFinalize_cases codec env lib id imageB64
    · rw [serve, he]
      exact h
    · rw [serve, hok]
      have hids : (Table.updateAt CaptureEntry.id id (fun r ↦ { r with isDraft := false })
          lib.db.captures).map CaptureEntry.id = lib.db.captures.map CaptureEntry.id :=
        Table.map_updateAt _ fun _ ↦ rfl
      exact ⟨hids ▸ h.unique, h.nodup, fun j ↦ by dsimp only; rw [hids, h.mem_iff]⟩
    · rw [serve, he]
      exact h
  | delete id =>
    refine iff_of_true ?_ trivial
    have hdelete := ftsMatches_delete env.db h id
    rw [serve, libraryDelete]
    split
    all_goals
      rename_i heq
      rw [heq] at hdelete
      exact hdelete
  | saveVideo exportedPath =>
    obtain ⟨hno, e, he⟩ | ⟨bytes, hwrites, saved, rfl, hok⟩ :=
      librarySaveVideo_cases codec env lib exportedPath
    · rw [serve, he]
      exact iff_of_true h fun hwrites ↦ absurd hwrites hno
    · rw [serve, hok, KeepsFts]
      simp only [hwrites, true_implies]
      exact ftsMatches_insertBoth_iff env.db h _ _ _ _ rfl
  | start => exact ftsMatches_prune_iff env.db h env.now

/-! ## The files -/

/-- A file of the library's own, with a row that names it. -/
theorem FilesReferenced.create (h : FilesReferenced lib) {path : String} {bytes : Bytes}
    {row : CaptureEntry} {db : LibraryDb} (hrow : row.Names path)
    (hdb : db.captures = lib.db.captures ++ [row]) :
    FilesReferenced { lib.create path bytes with db := db } := by
  intro j hj hfile
  dsimp only at hfile ⊢
  rw [hdb]
  by_cases hjp : j = path
  · exact ⟨row, by simp, hjp ▸ hrow⟩
  · have hown : j ∈ lib.own := (List.mem_cons.mp hj).resolve_left hjp
    dsimp only [LibraryState.create] at hfile
    rw [Function.update_of_ne hjp] at hfile
    obtain ⟨r, hr, hnames⟩ := h j hown hfile
    exact ⟨r, List.mem_append_left _ hr, hnames⟩

/-- A file is written anew that a row names, and the rows go on naming what they named. -/
theorem FilesReferenced.overwrite (h : FilesReferenced lib) {row : CaptureEntry} {bytes : Bytes}
    {db : LibraryDb} (hrow : row ∈ lib.db.captures)
    (hdb : ∀ r ∈ lib.db.captures, ∀ path, r.Names path → ∃ r' ∈ db.captures, r'.Names path) :
    FilesReferenced { lib.overwrite row.filePath bytes with db := db } := by
  intro path hown hfile
  by_cases hpath : path = row.filePath
  · exact hdb row hrow path (Or.inl hpath.symm)
  · dsimp only [LibraryState.overwrite] at hfile
    rw [Function.update_of_ne hpath] at hfile
    obtain ⟨r, hr, hnames⟩ := h path hown hfile
    exact hdb r hr path hnames

/-- **Rows are removed**: no row may be the last to name a file that is left. -/
theorem FilesReferenced.removed_iff (h : FilesReferenced lib) {lib' : LibraryState Bytes}
    {gone : CaptureEntry → Prop} (hown : lib'.own = lib.own)
    (hrows : ∀ r, r ∈ lib'.db.captures ↔ r ∈ lib.db.captures ∧ ¬ gone r)
    (hfiles : ∀ path, lib'.files path ≠ none → lib.files path ≠ none) :
    FilesReferenced lib' ↔ ∀ r ∈ lib.db.captures, gone r → ∀ path ∈ lib.own, r.Names path →
      lib'.files path ≠ none → ∃ r' ∈ lib.db.captures, ¬ gone r' ∧ r'.Names path := by
  constructor
  · intro hafter r _ _ path hpath _ hfile
    obtain ⟨r', hr', hnames'⟩ := hafter path (hown ▸ hpath) hfile
    obtain ⟨hin, hkept⟩ := (hrows r').mp hr'
    exact ⟨r', hin, hkept, hnames'⟩
  · intro hkeeps path hpath hfile
    rw [hown] at hpath
    obtain ⟨r, hr, hnames⟩ := h path hpath (hfiles path hfile)
    by_cases hgone : gone r
    · obtain ⟨r', hin, hkept, hnames'⟩ := hkeeps r hr hgone path hpath hnames hfile
      exact ⟨r', (hrows r').mpr ⟨hin, hkept⟩, hnames'⟩
    · exact ⟨r, (hrows r).mpr ⟨hr, hgone⟩, hnames⟩

/-- An insertion of which no statement fails. -/
theorem captures_insertBoth {context ftsContext : String} {row : CaptureEntry} {ftsRow : FtsRow}
    {db : LibraryDb} (hfaults : env.db = .none) (hid : row.id ∉ db.captures.map CaptureEntry.id) :
    (insertBoth context ftsContext env.db row ftsRow db).2.captures = db.captures ++ [row] := by
  obtain ⟨hno, -⟩ | ⟨-, -, ⟨-, hok⟩ | ⟨hsecond, -⟩⟩ :=
    insertBoth_cases context ftsContext env.db row ftsRow db
  · exact absurd ⟨by rw [hfaults]; rfl, hid⟩ hno
  · rw [hok]
  · rw [hfaults] at hsecond
    exact absurd rfl hsecond

/-- **A call of which no step fails keeps the files referenced** if and only if it meets its
condition. -/
theorem filesReferenced_step_iff (h : FilesReferenced lib) (call : LibraryCall)
    (hno : NoStepFails lib (env, call)) :
    FilesReferenced (serve codec env lib call) ↔ KeepsFiles lib (env, call) := by
  obtain ⟨hdb, -, -, hremove, hid⟩ := hno
  dsimp only at hdb hremove hid
  cases call with
  | saveDraft imageB64 appName windowTitle =>
    refine iff_of_true ?_ trivial
    obtain ⟨-, e, he⟩ | ⟨bytes, img, -, -, -, saved, rfl, hok⟩ :=
      saveDraftInternal_cases codec env lib imageB64 appName windowTitle
    · rw [serve, he]
      exact h
    · rw [serve, hok]
      exact h.create (Or.inl rfl) (captures_insertBoth hdb hid)
  | finalize id imageB64 =>
    refine iff_of_true ?_ trivial
    obtain ⟨-, e, he⟩ | ⟨row, bytes, -, hrow, -, -, ⟨-, hok⟩ | ⟨hfirst, -⟩⟩ :=
      libraryFinalize_cases codec env lib id imageB64
    · rw [serve, he]
      exact h
    · rw [serve, hok]
      refine h.overwrite (List.mem_of_find?_eq_some hrow) fun r hr path hnames ↦
        ⟨_, List.mem_map_of_mem hr, ?_⟩
      split
      · exact hnames
      · exact hnames
    · rw [hdb] at hfirst
      exact absurd rfl hfirst
  | delete id =>
    obtain ⟨hne, -⟩ | ⟨files, hok, hfiles⟩ := libraryDelete_cases env lib id
    · exact absurd hdb hne
    rw [serve, hok]
    replace hfiles := hfiles (by rw [hdb]; rfl) hremove
    refine Iff.trans (h.removed_iff rfl (fun _ ↦ Table.mem_deleteAt) fun path hfile ↦
      ((hfiles path).mp hfile).1) ?_
    simp only [hfiles, and_imp]
    exact Iff.rfl
  | saveVideo exportedPath =>
    refine iff_of_true ?_ trivial
    obtain ⟨-, e, he⟩ | ⟨bytes, -, saved, rfl, hok⟩ :=
      librarySaveVideo_cases codec env lib exportedPath
    · rw [serve, he]
      exact h
    · rw [serve, hok]
      exact h.create (Or.inr rfl) (captures_insertBoth hdb hid)
  | start =>
    obtain ⟨hno, -⟩ | ⟨kept, rfl, -, -, ⟨-, paths, hok⟩ | ⟨hsecond, -⟩⟩ :=
      prune_cases env.now env.db lib.db
    · rw [hdb] at hno
      exact absurd ⟨rfl, rfl⟩ hno
    · rw [serve, pruneAtStart, hok]
      refine h.removed_iff rfl (fun r ↦ ?_) fun _ ↦ id
      rw [List.mem_filter, decide_eq_true_eq]
    · rw [hdb] at hsecond
      exact absurd rfl hsecond

end Step

/-! ## The law over runs -/

section Runs

variable {Bytes : Type}

theorem filesReferenced_empty : FilesReferenced (.empty : LibraryState Bytes) :=
  List.forall_mem_nil _

/-- **Files and rows agree all along a run from an empty library**: the files of the library are
named, as long as no step fails, and the index is in step with the table, whatever fails, if and
only if the calls meet the two conditions. -/
theorem agree_iff_guarded (codec : Codec Bytes) (calls : List (Env × LibraryCall)) :
    ((Machine.Guarded (libraryStep codec) NoStepFails .empty calls →
        ∀ pre post lib, calls = pre ++ post →
          Machine.exec (libraryStep codec) .empty pre = some lib → FilesReferenced lib) ∧
      ∀ pre post lib, calls = pre ++ post →
        Machine.exec (libraryStep codec) .empty pre = some lib → FtsMatches lib.db) ↔
      (Machine.Guarded (libraryStep codec) NoStepFails .empty calls →
        Machine.Guarded (libraryStep codec) KeepsFiles .empty calls) ∧
        Machine.Guarded (libraryStep codec) (KeepsFts codec) .empty calls := by
  obtain ⟨final, hrun⟩ : ∃ final, Machine.exec (libraryStep codec) .empty calls = some final :=
    Machine.exists_exec_eq_some (fun _ _ ↦ ⟨_, rfl⟩) _ calls
  refine and_congr (imp_congr_right fun hno ↦ ?_) ?_
  · refine Machine.inv_iff_guarded_of_guarded (fun lib a lib' h hno hs ↦ ?_)
      filesReferenced_empty hno hrun
    obtain rfl := Option.some.inj hs
    exact filesReferenced_step_iff h a.2 hno
  · refine Machine.inv_iff_guarded (I := fun lib ↦ FtsMatches lib.db) (fun lib a lib' h hs ↦ ?_)
      ftsMatches_empty hrun
    obtain rfl := Option.some.inj hs
    exact ftsMatches_step_iff h a.2

/-- A text is its own bytes, which are a picture of one pixel. -/
def exampleCodec : Codec String := ⟨fun text ↦ .ok text, fun _ ↦ .ok ⟨.png, 1, 1⟩⟩

/-- A call at a given time for which all goes well. -/
def exampleEnv (fileId id : String) (now : ℤ) : Env :=
  ⟨"/captures", fileId, id, now, .none, none, none, none, .ok "thumbnail"⟩

/-- **A pruned capture leaves its file behind**: a draft, and a start thirty-one days later. -/
theorem not_filesReferenced_of_exec :
    ¬ ∀ (calls : List (Env × LibraryCall)) (lib : LibraryState String),
      Machine.Guarded (libraryStep exampleCodec) NoStepFails .empty calls →
        Machine.exec (libraryStep exampleCodec) .empty calls = some lib → FilesReferenced lib := by
  intro hall
  have hno : Machine.Guarded (libraryStep exampleCodec) NoStepFails .empty
      [(exampleEnv "file" "id" 0, .saveDraft "picture" none none),
        (exampleEnv "file'" "id'" (31 * 24 * 60 * 60 * 1000), .start)] := by
    refine Machine.Guarded.cons rfl ⟨rfl, rfl, rfl, rfl, by decide⟩
      (Machine.Guarded.cons rfl ⟨rfl, rfl, rfl, rfl, by decide⟩ trivial)
  obtain ⟨r, hr, -⟩ := hall _ _ hno rfl "/captures/file.png" (by decide) (by decide)
  revert r
  decide

/-- **A capture that cannot be found by its text**: a draft whose row is written, and whose row for
the index is not. -/
theorem not_ftsMatches_of_exec :
    ¬ ∀ (calls : List (Env × LibraryCall)) (lib : LibraryState String),
      Machine.exec (libraryStep exampleCodec) .empty calls = some lib → FtsMatches lib.db := by
  intro hall
  have hmatches := hall [({ exampleEnv "file" "id" 0 with
    db := { DbFaults.none with second := some "disk I/O error" } },
      .saveDraft "picture" none none)] _ rfl
  have hmem : "id" ∈ ([] : List String) := (hmatches.mem_iff "id").mpr (by decide)
  exact absurd hmem List.not_mem_nil

end Runs

end WorkWithMe.Library
