import Mathlib.Data.Int.Notation
import Mathlib.Data.List.Perm.Basic
import WorkWithMe.Lib.Statement
import WorkWithMe.Lib.Table

/-!
# The database of the capture library

`LibraryDb` is the database of `library/db.rs`: the table `captures` with its primary key, and the
full-text index `captures_fts`, which has none.  Each operation of the source is a function of the
same name.  The two that insert a capture write the table and then the index, each in a transaction
of its own, and so does `prune`; only `delete` has one transaction for both.  So an operation that
fails may have done half of its work, and all of them return the database they leave.

What the environment chooses is an argument: the clock, the next UUID, and which statement fails.

* `FtsMatches` says that the index has the ids of the table, each once.
* `insertBoth_cases`, `delete_cases` and `prune_cases` say what the operations can do, and
  `ftsMatches_insertBoth_iff`, `ftsMatches_delete` and `ftsMatches_prune_iff` when they keep the
  index in step with the table.
-/

set_option autoImplicit false

namespace WorkWithMe.Library

/-! ## The tables -/

/-- A row of `captures`. -/
structure CaptureEntry where
  /-- The primary key. -/
  id : String
  /-- The picture or the film. -/
  filePath : String
  /-- When it was made, in milliseconds. -/
  timestamp : ℤ
  /-- The program in the picture. -/
  appName : Option String
  /-- The title of its window. -/
  windowTitle : Option String
  /-- Whether it is still being edited. -/
  isDraft : Bool
  /-- The width in pixels. -/
  width : Option ℤ
  /-- The height in pixels. -/
  height : Option ℤ
  /-- `image` or `video`. -/
  mediaType : String
  /-- The picture that stands for a film. -/
  thumbnailPath : Option String
  deriving DecidableEq

/-- A row of `captures_fts`. -/
structure FtsRow where
  /-- The capture. -/
  id : String
  /-- The program in the picture. -/
  appName : String
  /-- The title of its window. -/
  windowTitle : String
  /-- What was read in the picture. -/
  ocrText : String
  deriving DecidableEq

/-- The database. -/
structure LibraryDb where
  /-- `captures`. -/
  captures : List CaptureEntry
  /-- `captures_fts`. -/
  fts : List FtsRow
  deriving DecidableEq

/-- The tables `apply_schema` creates. -/
def LibraryDb.empty : LibraryDb := ⟨[], []⟩

/-! ## The statements -/

/-- `INSERT INTO captures`. -/
def insertCapture (row : CaptureEntry) : Statement LibraryDb := fun db ↦
  if row.id ∈ db.captures.map CaptureEntry.id then
    .error "UNIQUE constraint failed: captures.id"
  else .ok { db with captures := db.captures ++ [row] }

/-- `INSERT INTO captures_fts`. -/
def insertFts (row : FtsRow) : Statement LibraryDb := fun db ↦
  .ok { db with fts := db.fts ++ [row] }

/-- `UPDATE captures … WHERE id = ?`. -/
def updateCapture (id : String) (f : CaptureEntry → CaptureEntry) : Statement LibraryDb := fun db ↦
  .ok { db with captures := Table.updateAt CaptureEntry.id id f db.captures }

/-- `UPDATE captures_fts … WHERE id = ?`. -/
def updateFts (id : String) (f : FtsRow → FtsRow) : Statement LibraryDb := fun db ↦
  .ok { db with fts := Table.updateAt FtsRow.id id f db.fts }

/-- `DELETE FROM captures WHERE id = ?`. -/
def deleteCapture (id : String) : Statement LibraryDb := fun db ↦
  .ok { db with captures := Table.deleteAt CaptureEntry.id id db.captures }

/-- `DELETE FROM captures_fts WHERE id = ?`. -/
def deleteFts (id : String) : Statement LibraryDb := fun db ↦
  .ok { db with fts := Table.deleteAt FtsRow.id id db.fts }

/-- `DELETE FROM captures WHERE timestamp < ?`. -/
def deleteOld (cutoff : ℤ) : Statement LibraryDb := fun db ↦
  .ok { db with captures := db.captures.filter fun r ↦ ¬ r.timestamp < cutoff }

/-- `DELETE FROM captures_fts WHERE id NOT IN (SELECT id FROM captures)`. -/
def deleteOrphans : Statement LibraryDb := fun db ↦
  .ok { db with fts := db.fts.filter fun r ↦ r.id ∈ db.captures.map CaptureEntry.id }

/-! ## The operations -/

/-- Which statements of an operation the environment lets fail. -/
structure DbFaults where
  /-- The `SELECT` that the operation begins with. -/
  lookup : Option String
  /-- The beginning of a transaction. -/
  txn : Option String
  /-- The first statement that writes. -/
  first : Option String
  /-- The second one. -/
  second : Option String
  /-- The commit. -/
  commit : Option String
  deriving DecidableEq

/-- Nothing goes wrong. -/
def DbFaults.none : DbFaults := ⟨.none, .none, .none, .none, .none⟩

open Statement

/-- What `save_draft` and `save_video` share: a row for the table, and then one for the index. -/
def insertBoth (context ftsContext : String) (faults : DbFaults) (row : CaptureEntry)
    (ftsRow : FtsRow) (db : LibraryDb) : Except String String × LibraryDb :=
  match execute context faults.first (insertCapture row) db with
  | .error e => (.error e, db)
  | .ok db =>
    match execute ftsContext faults.second (insertFts ftsRow) db with
    | .error e => (.error e, db)
    | .ok db => (.ok row.id, db)

/-- `save_draft_conn`. -/
def saveDraft (id : String) (ts : ℤ) (filePath : String) (appName windowTitle : Option String)
    (width height : ℤ) (faults : DbFaults) (db : LibraryDb) : Except String String × LibraryDb :=
  insertBoth "insert draft" "insert fts" faults
    ⟨id, filePath, ts, appName, windowTitle, true, some width, some height, "image", none⟩
    ⟨id, appName.getD "", windowTitle.getD "", ""⟩ db

/-- `save_video`. -/
def saveVideo (id : String) (ts : ℤ) (filePath thumbnailPath : String) (faults : DbFaults)
    (db : LibraryDb) : Except String String × LibraryDb :=
  insertBoth "insert video" "insert fts video" faults
    ⟨id, filePath, ts, none, none, false, none, none, "video", some thumbnailPath⟩
    ⟨id, "", "", ""⟩ db

/-- `finalize_conn`. -/
def finalize (id : String) (fault : Option String) : Statement LibraryDb :=
  execute "finalize" fault (updateCapture id fun r ↦ { r with isDraft := false })

/-- The row of a capture. -/
def LibraryDb.capture (db : LibraryDb) (id : String) : Option CaptureEntry :=
  Table.lookup CaptureEntry.id id db.captures

/-- `delete`: a `SELECT` that fails counts as one that finds nothing. -/
def delete (id : String) (faults : DbFaults) (db : LibraryDb) :
    Except String (Option String) × LibraryDb :=
  let filePath := if faults.lookup = none then (db.capture id).map CaptureEntry.filePath else none
  let outcome := runAll [("begin", faults.txn, .ok), ("delete", faults.first, deleteCapture id),
    ("delete fts", faults.second, deleteFts id), ("commit", faults.commit, .ok)] db
  (outcome.map fun _ ↦ filePath, settle db outcome)

/-- `update_ocr_conn`. -/
def updateOcr (id ocrText : String) (fault : Option String) : Statement LibraryDb :=
  execute "update ocr" fault (updateFts id fun r ↦ { r with ocrText := ocrText })

/-- Thirty days before `now`, in milliseconds. -/
def pruneCutoff (now : ℤ) : ℤ := now - 30 * 24 * 60 * 60 * 1000

/-- `prune_conn`. -/
def prune (now : ℤ) (faults : DbFaults) (db : LibraryDb) :
    Except String (List String) × LibraryDb :=
  match faults.lookup with
  | some e => (.error ("query prune: " ++ e), db)
  | none =>
    let paths := (db.captures.filter fun r ↦ r.timestamp < pruneCutoff now).map
      CaptureEntry.filePath
    match execute "delete old" faults.first (deleteOld (pruneCutoff now)) db with
    | .error e => (.error e, db)
    | .ok db =>
      match execute "prune fts" faults.second deleteOrphans db with
      | .error e => (.error e, db)
      | .ok db => (.ok paths, db)

/-! ## The law -/

/-- **The index has the ids of the table**, each once. -/
structure FtsMatches (db : LibraryDb) : Prop where
  /-- No id is in the table twice. -/
  unique : (db.captures.map CaptureEntry.id).Nodup
  /-- No id is in the index twice. -/
  nodup : (db.fts.map FtsRow.id).Nodup
  /-- The ids are those of the table. -/
  mem_iff : ∀ id, id ∈ db.fts.map FtsRow.id ↔ id ∈ db.captures.map CaptureEntry.id

theorem ftsMatches_empty : FtsMatches .empty :=
  ⟨List.nodup_nil, List.nodup_nil, fun _ ↦ Iff.rfl⟩

/-! ## What the operations can do -/

section Cases

variable {db : LibraryDb} {faults : DbFaults}

/-- **What an insertion can do**: nothing, or both rows, or the first only. -/
theorem insertBoth_cases (context ftsContext : String) (faults : DbFaults) (row : CaptureEntry)
    (ftsRow : FtsRow) (db : LibraryDb) :
    (¬ (faults.first = none ∧ row.id ∉ db.captures.map CaptureEntry.id) ∧
        ∃ e, insertBoth context ftsContext faults row ftsRow db = (.error e, db)) ∨
      (faults.first = none ∧ row.id ∉ db.captures.map CaptureEntry.id ∧
        ((faults.second = none ∧ insertBoth context ftsContext faults row ftsRow db =
            (.ok row.id, ⟨db.captures ++ [row], db.fts ++ [ftsRow]⟩)) ∨
          (faults.second ≠ none ∧ ∃ e, insertBoth context ftsContext faults row ftsRow db =
            (.error e, ⟨db.captures ++ [row], db.fts⟩)))) := by
  unfold insertBoth
  by_cases hfirst : faults.first = none ∧ row.id ∉ db.captures.map CaptureEntry.id
  · obtain ⟨hfirst, hid⟩ := hfirst
    have hexec : execute context faults.first (insertCapture row) db =
        .ok ⟨db.captures ++ [row], db.fts⟩ :=
      execute_eq_ok.mpr ⟨hfirst, by rw [insertCapture, if_neg hid]⟩
    refine Or.inr ⟨hfirst, hid, ?_⟩
    rw [hexec]
    dsimp only
    by_cases hsecond : faults.second = none
    · have hfts : execute ftsContext faults.second (insertFts ftsRow)
          ⟨db.captures ++ [row], db.fts⟩ = .ok ⟨db.captures ++ [row], db.fts ++ [ftsRow]⟩ :=
        execute_eq_ok.mpr ⟨hsecond, rfl⟩
      rw [hfts]
      exact Or.inl ⟨hsecond, rfl⟩
    · obtain ⟨e, he⟩ := Option.ne_none_iff_exists'.mp hsecond
      rw [he]
      exact Or.inr ⟨Option.some_ne_none e, _, rfl⟩
  · refine Or.inl ⟨hfirst, ?_⟩
    cases hexec : execute context faults.first (insertCapture row) db with
    | error e => exact ⟨e, rfl⟩
    | ok db' =>
      obtain ⟨hf, hstmt⟩ := execute_eq_ok.mp hexec
      rw [insertCapture] at hstmt
      split at hstmt
      · cases hstmt
      · exact absurd ⟨hf, ‹_›⟩ hfirst

/-- **What a deletion can do**: nothing, or remove the rows of both tables. -/
theorem delete_cases (id : String) (faults : DbFaults) (db : LibraryDb) :
    (faults ≠ .none ∧ ∃ e, delete id faults db = (.error e, db)) ∨
      delete id faults db =
        (.ok (if faults.lookup = none then (db.capture id).map CaptureEntry.filePath else none),
          ⟨Table.deleteAt CaptureEntry.id id db.captures,
            Table.deleteAt FtsRow.id id db.fts⟩) := by
  unfold delete
  dsimp only
  cases h : runAll [("begin", faults.txn, .ok), ("delete", faults.first, deleteCapture id),
      ("delete fts", faults.second, deleteFts id), ("commit", faults.commit, .ok)] db with
  | error e =>
    refine Or.inl ⟨?_, e, rfl⟩
    rintro rfl
    cases h
  | ok db' =>
    obtain ⟨-, _, hbegin, h⟩ := runAll_cons_eq_ok.mp h
    obtain ⟨-, _, hdel, h⟩ := runAll_cons_eq_ok.mp h
    obtain ⟨-, _, hfts, h⟩ := runAll_cons_eq_ok.mp h
    obtain ⟨-, _, hcommit, h⟩ := runAll_cons_eq_ok.mp h
    cases hbegin
    cases hdel
    cases hfts
    cases hcommit
    cases runAll_nil_eq_ok.mp h
    exact Or.inr rfl

/-- **What pruning can do**: nothing, or remove the old rows of the table, and then the rows of the
index that have lost theirs, or not. -/
theorem prune_cases (now : ℤ) (faults : DbFaults) (db : LibraryDb) :
    (¬ (faults.lookup = none ∧ faults.first = none) ∧ ∃ e, prune now faults db = (.error e, db)) ∨
      ∃ kept, kept = db.captures.filter (fun r ↦ ¬ r.timestamp < pruneCutoff now) ∧
        faults.lookup = none ∧ faults.first = none ∧
        ((faults.second = none ∧ ∃ paths, prune now faults db = (.ok paths,
            ⟨kept, db.fts.filter fun r ↦ r.id ∈ kept.map CaptureEntry.id⟩)) ∨
          (faults.second ≠ none ∧ ∃ e, prune now faults db = (.error e, ⟨kept, db.fts⟩))) := by
  unfold prune
  cases hlookup : faults.lookup with
  | some e => exact Or.inl ⟨by simp, _, rfl⟩
  | none =>
    dsimp only
    cases hfirst : faults.first with
    | some e => exact Or.inl ⟨by simp, _, rfl⟩
    | none =>
      refine Or.inr ⟨_, rfl, rfl, rfl, ?_⟩
      cases hsecond : faults.second with
      | some e => exact Or.inr ⟨by simp, _, rfl⟩
      | none => exact Or.inl ⟨rfl, _, rfl⟩

end Cases

/-! ## The index and the table -/

section Fts

variable {db : LibraryDb} (faults : DbFaults)

/-- **An insertion keeps the index in step with the table** if and only if it does not come to a
failing second statement. -/
theorem ftsMatches_insertBoth_iff (h : FtsMatches db) (context ftsContext : String)
    (row : CaptureEntry) (ftsRow : FtsRow) (hid : ftsRow.id = row.id) :
    FtsMatches (insertBoth context ftsContext faults row ftsRow db).2 ↔
      (faults.first = none → row.id ∉ db.captures.map CaptureEntry.id → faults.second = none) := by
  obtain ⟨hfirst, e, he⟩ | ⟨hfirst, hnew, ⟨hsecond, hok⟩ | ⟨hsecond, e, he⟩⟩ :=
    insertBoth_cases context ftsContext faults row ftsRow db
  · rw [he]
    exact iff_of_true h fun h₁ h₂ ↦ absurd ⟨h₁, h₂⟩ hfirst
  · rw [hok]
    have hnew' : ftsRow.id ∉ db.fts.map FtsRow.id := by
      rw [hid, h.mem_iff]
      exact hnew
    refine iff_of_true ⟨?_, ?_, fun id ↦ ?_⟩ fun _ _ ↦ hsecond
    · exact Table.nodup_concat h.unique hnew
    · exact Table.nodup_concat h.nodup hnew'
    · simp only [List.map_append, List.mem_append, List.map_cons, List.map_nil,
        List.mem_singleton, h.mem_iff, hid]
  · rw [he]
    refine iff_of_false (fun hbad ↦ hnew ?_) fun hgood ↦ hsecond (hgood hfirst hnew)
    refine (h.mem_iff row.id).mp ((hbad.mem_iff row.id).mpr ?_)
    simp

theorem ftsMatches_delete (h : FtsMatches db) (id : String) :
    FtsMatches (delete id faults db).2 := by
  obtain ⟨-, e, he⟩ | hok := delete_cases id faults db
  · rw [he]
    exact h
  · rw [hok]
    refine ⟨Table.nodup_deleteAt h.unique, Table.nodup_deleteAt h.nodup, fun j ↦ ?_⟩
    simp only [Table.map_deleteAt, List.mem_filter, h.mem_iff]

/-- **Pruning keeps the index in step with the table** if and only if it removes nothing, or does
not come to a failing second statement. -/
theorem ftsMatches_prune_iff (h : FtsMatches db) (now : ℤ) :
    FtsMatches (prune now faults db).2 ↔
      (faults.lookup = none → faults.first = none →
        faults.second = none ∨ ∀ r ∈ db.captures, ¬ r.timestamp < pruneCutoff now) := by
  obtain ⟨hfail, e, he⟩ | ⟨kept, rfl, hlookup, hfirst, ⟨hsecond, paths, hok⟩ | ⟨hsecond, e, he⟩⟩ :=
    prune_cases now faults db
  · rw [he]
    exact iff_of_true h fun h₁ h₂ ↦ absurd ⟨h₁, h₂⟩ hfail
  · rw [hok]
    refine iff_of_true ⟨(List.filter_sublist.map _).nodup h.unique,
      (List.filter_sublist.map _).nodup h.nodup, fun id ↦ ?_⟩ fun _ _ ↦ Or.inl hsecond
    dsimp only
    constructor
    · intro hmem
      obtain ⟨r, hr, rfl⟩ := List.mem_map.mp hmem
      exact of_decide_eq_true (List.mem_filter.mp hr).2
    · intro hmem
      obtain ⟨f, hf, rfl⟩ := List.mem_map.mp
        ((h.mem_iff id).mpr ((List.filter_sublist.map _).subset hmem))
      exact List.mem_map.mpr ⟨f, List.mem_filter.mpr ⟨hf, decide_eq_true hmem⟩, rfl⟩
  · rw [he]
    constructor
    · refine fun hbad _ _ ↦ Or.inr fun r hr ↦ ?_
      -- the id of `r` is still in the index, so it is that of a row that is kept, which is `r`
      have hmem := (h.mem_iff r.id).mpr (List.mem_map_of_mem hr)
      obtain ⟨r', hr', hid⟩ := List.mem_map.mp ((hbad.mem_iff r.id).mp hmem)
      obtain ⟨hin, hkept⟩ := List.mem_filter.mp hr'
      obtain rfl := List.inj_on_of_nodup_map h.unique hin hr hid
      exact of_decide_eq_true hkept
    · intro hgood
      obtain hnone | hall := hgood hlookup hfirst
      · exact absurd hnone hsecond
      · have hkeep : db.captures.filter (fun r ↦ ¬ r.timestamp < pruneCutoff now) = db.captures :=
          List.filter_eq_self.mpr fun r hr ↦ decide_eq_true (hall r hr)
        rw [hkeep]
        exact h

end Fts

end WorkWithMe.Library
