import WorkWithMe.Library.Files

/-!
# The text of a capture

A draft that has been saved, and every finalization of it, leaves a thread behind.  The thread reads
the file of the capture, and later puts the text it has found there into the index; if it has found
none, it leaves the index as it is.  Nothing waits for such a thread, and none of them knows of the
others.

`OcrState` is the library together with the threads of one capture: how many of them have yet to
read the file, and what the others have read.  What is read in a file is a function `ocr` of its
content.

* `TextCurrent` says that the text in the index is the text of the file.
* `textCurrent_iff_guarded` says for which orders of the steps that is so whenever no thread is
  left.
* `textCurrent_of_sequential` is one way to meet that condition: every picture has a text, and a
  finalization waits for the thread before it.
* `not_textCurrent_of_exec` is a text that stays in the index after it has been painted over.
-/

set_option autoImplicit false

namespace WorkWithMe.Library

/-! ## The threads -/

/-- The library and the threads of one capture. -/
structure OcrState (Bytes : Type) where
  /-- The library. -/
  lib : LibraryState Bytes
  /-- How many threads have yet to read the file. -/
  unread : ℕ
  /-- What the threads have read that have yet to write it. -/
  texts : List String

/-- A step. -/
inductive OcrStep where
  /-- `library_finalize` is called. -/
  | finalize (env : Env) (imageB64 : String)
  /-- A thread reads the file. -/
  | read
  /-- The thread that has read the text ends; the statement by which it writes may fail. -/
  | finish (text : String) (fault : Option String)

section System

variable {Bytes : Type}

/-- A finalization that succeeds ends with `spawn_ocr`. -/
def OcrState.afterFinalize (s : OcrState Bytes) :
    Except String Unit × LibraryState Bytes → OcrState Bytes
  | (.ok _, lib) => { s with lib := lib, unread := s.unread + 1 }
  | (.error _, lib) => { s with lib := lib }

variable (codec : Codec Bytes) (ocr : Bytes → String) (id filePath : String)

/-- `run_ocr`: a file that cannot be read ends the thread. -/
def OcrState.runOcr (s : OcrState Bytes) : Option (OcrState Bytes) :=
  match s.unread with
  | 0 => none
  | n + 1 =>
    match s.lib.files filePath with
    | none => some { s with unread := n }
    | some bytes => some { s with unread := n, texts := ocr bytes :: s.texts }

/-- The thread of `spawn_ocr` after `run_ocr`. -/
def endOcr (text : String) (fault : Option String) (lib : LibraryState Bytes) :
    LibraryState Bytes :=
  if text ≠ "" then
    { lib with db := Statement.settle lib.db (updateOcr id text fault lib.db) }
  else lib

/-- The steps of the capture with the id and the file. -/
def ocrStep (s : OcrState Bytes) : OcrStep → Option (OcrState Bytes)
  | .finalize env imageB64 => some (s.afterFinalize (libraryFinalize codec env id imageB64 s.lib))
  | .read => s.runOcr ocr filePath
  | .finish text fault =>
    if text ∈ s.texts then
      some { s with lib := endOcr id text fault s.lib, texts := s.texts.erase text }
    else none

/-! ## The law -/

/-- No thread is left. -/
def OcrState.Quiet (s : OcrState Bytes) : Prop := s.unread = 0 ∧ s.texts = []

/-- The capture has the text in the index. -/
def HasText (text : String) (lib : LibraryState Bytes) : Prop :=
  (∃ r ∈ lib.db.fts, r.id = id) ∧ ∀ r ∈ lib.db.fts, r.id = id → r.ocrText = text

/-- **The text in the index is that of the file.** -/
def TextCurrent (lib : LibraryState Bytes) : Prop :=
  ∃ bytes, lib.files filePath = some bytes ∧ HasText id (ocr bytes) lib

/-- **The condition on a step.**  The thread that is the last to end either writes the text which
the file has at that time, or writes nothing while the index has that text already; and no
finalization overwrites the file and then fails, when no thread is left, unless the index has the
new text already. -/
def KeepsText (s : OcrState Bytes) : OcrStep → Prop
  | .finalize env imageB64 => s.Quiet → env.db.first ≠ none → env.db.lookup = none →
      env.write = none → ∀ bytes, codec.base64 imageB64 = .ok bytes → HasText id (ocr bytes) s.lib
  | .read => True
  | .finish text fault => s.unread = 0 → s.texts = [text] →
      ∀ bytes, s.lib.files filePath = some bytes →
        if text ≠ "" ∧ fault = none then text = ocr bytes else HasText id (ocr bytes) s.lib

/-- The capture is there, with its file and its row in the index. -/
structure Tracked (lib : LibraryState Bytes) : Prop where
  /-- The row. -/
  row : ∃ row, lib.db.capture id = some row ∧ row.filePath = filePath
  /-- The file. -/
  file : ∃ bytes, lib.files filePath = some bytes
  /-- The row in the index. -/
  indexed : ∃ r ∈ lib.db.fts, r.id = id

end System

/-! ## What the steps can do -/

section Step

variable {Bytes : Type} {codec : Codec Bytes} {ocr : Bytes → String} {id filePath : String}
  {s t : OcrState Bytes} {lib : LibraryState Bytes}

/-- **What the end of a thread can do**: nothing, or write the text. -/
theorem endOcr_cases (id text : String) (fault : Option String) (lib : LibraryState Bytes) :
    (¬ (text ≠ "" ∧ fault = none) ∧ endOcr id text fault lib = lib) ∨
      ((text ≠ "" ∧ fault = none) ∧ endOcr id text fault lib = { lib with
        db := { lib.db with
          fts := Table.updateAt FtsRow.id id (fun r ↦ { r with ocrText := text })
            lib.db.fts } }) := by
  by_cases htext : text = ""
  · refine Or.inl ⟨fun h ↦ h.1 htext, ?_⟩
    rw [endOcr, if_neg (not_not_intro htext)]
  · rw [endOcr, if_pos htext]
    cases fault with
    | none => exact Or.inr ⟨⟨htext, rfl⟩, rfl⟩
    | some e => exact Or.inl ⟨by simp, rfl⟩

/-- A capture has the text that was written last. -/
theorem hasText_update_iff (h : ∃ r ∈ lib.db.fts, r.id = id) (text text' : String) :
    HasText id text' { lib with
      db := { lib.db with
        fts := Table.updateAt FtsRow.id id (fun r ↦ { r with ocrText := text }) lib.db.fts } } ↔
      text = text' := by
  obtain ⟨r, hr, hrid⟩ := h
  have hnew : { r with ocrText := text } ∈
      Table.updateAt FtsRow.id id (fun r ↦ { r with ocrText := text }) lib.db.fts :=
    List.mem_map.mpr ⟨r, hr, if_pos hrid⟩
  constructor
  · exact fun hall ↦ hall.2 _ hnew hrid
  · rintro rfl
    refine ⟨⟨_, hnew, hrid⟩, fun r' hr' hrid' ↦ ?_⟩
    obtain ⟨q, -, rfl⟩ := List.mem_map.mp hr'
    by_cases hq : q.id = id
    · rw [if_pos hq]
    · rw [if_neg hq] at hrid'
      exact absurd hrid' hq

/-- The end of a thread leaves the capture there. -/
theorem Tracked.endOcr (h : Tracked id filePath lib) (text : String) (fault : Option String) :
    Tracked id filePath (endOcr id text fault lib) := by
  obtain ⟨-, he⟩ | ⟨-, he⟩ := endOcr_cases id text fault lib
  · rw [he]
    exact h
  · rw [he]
    obtain ⟨r, hr, hrid⟩ := h.indexed
    exact ⟨h.row, h.file, _, List.mem_map_of_mem hr, by rw [if_pos hrid]; exact hrid⟩

/-- **What a finalization of the capture can do**: nothing; or write the file, and fail; or write
it, and leave a thread behind. -/
theorem afterFinalize_cases (codec : Codec Bytes) (h : Tracked id filePath s.lib) (env : Env)
    (imageB64 : String) :
    ((∀ bytes, env.db.lookup = none → env.write = none → codec.base64 imageB64 ≠ .ok bytes) ∧
        s.afterFinalize (libraryFinalize codec env id imageB64 s.lib) = s) ∨
      ∃ bytes, env.db.lookup = none ∧ env.write = none ∧ codec.base64 imageB64 = .ok bytes ∧
        ((env.db.first ≠ none ∧ s.afterFinalize (libraryFinalize codec env id imageB64 s.lib) =
            { s with lib := s.lib.overwrite filePath bytes }) ∨
          ∃ captures, env.db.first = none ∧
            (∃ row, Table.lookup CaptureEntry.id id captures = some row ∧
              row.filePath = filePath) ∧
            s.afterFinalize (libraryFinalize codec env id imageB64 s.lib) =
              { s with
                lib := { s.lib.overwrite filePath bytes with db := ⟨captures, s.lib.db.fts⟩ }
                unread := s.unread + 1 }) := by
  obtain ⟨row, hrow, rfl⟩ := h.row
  obtain ⟨hno, e, he⟩ | ⟨row', bytes, hlookup, hrow', hwrite, hbase, hcases⟩ :=
    libraryFinalize_cases codec env s.lib id imageB64
  · rw [he]
    exact Or.inl ⟨fun bytes hlookup hwrite hbase ↦ hno row bytes hlookup hrow hbase hwrite, rfl⟩
  · obtain rfl := Option.some.inj (hrow.symm.trans hrow')
    refine Or.inr ⟨bytes, hlookup, hwrite, hbase, ?_⟩
    obtain ⟨hfirst, hok⟩ | ⟨hfirst, e, he⟩ := hcases
    · have hcol : ∀ r : CaptureEntry, ({ r with isDraft := false } : CaptureEntry).id = r.id :=
        fun _ ↦ rfl
      rw [hok]
      refine Or.inr ⟨_, hfirst, ⟨{ row with isDraft := false }, ?_, rfl⟩, rfl⟩
      rw [Table.lookup_updateAt hcol, if_pos rfl]
      exact congrArg (Option.map _) hrow
    · rw [he]
      exact Or.inl ⟨hfirst, rfl⟩

/-- **Every step leaves the capture there.** -/
theorem tracked_step (h : Tracked id filePath s.lib) {a : OcrStep}
    (hs : ocrStep codec ocr id filePath s a = some t) : Tracked id filePath t.lib := by
  cases a with
  | finalize env imageB64 =>
    obtain rfl := Option.some.inj hs
    obtain ⟨-, he⟩ | ⟨bytes, -, -, -, ⟨-, he⟩ | ⟨captures, -, hrow, he⟩⟩ :=
      afterFinalize_cases codec h env imageB64
    · rw [he]
      exact h
    · rw [he]
      exact ⟨h.row, ⟨bytes, s.lib.overwrite_files_self filePath bytes⟩, h.indexed⟩
    · rw [he]
      exact ⟨hrow, ⟨bytes, s.lib.overwrite_files_self filePath bytes⟩, h.indexed⟩
  | read =>
    rw [ocrStep, OcrState.runOcr] at hs
    split at hs
    · cases hs
    · split at hs <;> exact Option.some.inj hs ▸ h
  | finish text fault =>
    rw [ocrStep] at hs
    split at hs
    · obtain rfl := Option.some.inj hs
      exact h.endOcr text fault
    · cases hs

/-! ## The law over runs -/

/-- **A step leaves the text current**, should no thread be left after it, if and only if it meets
its condition. -/
theorem textCurrent_step_iff (h : Tracked id filePath s.lib)
    (htext : s.Quiet → TextCurrent ocr id filePath s.lib) {a : OcrStep}
    (hs : ocrStep codec ocr id filePath s a = some t) :
    (t.Quiet → TextCurrent ocr id filePath t.lib) ↔ KeepsText codec ocr id filePath s a := by
  cases a with
  | finalize env imageB64 =>
    obtain rfl := Option.some.inj hs
    obtain ⟨hno, he⟩ | ⟨bytes, hlookup, hwrite, hbase, ⟨hfirst, he⟩ | ⟨captures, hfirst, -, he⟩⟩ :=
      afterFinalize_cases codec h env imageB64
    · rw [he]
      refine iff_of_true htext fun _ _ hlookup hwrite bytes hbase ↦ ?_
      exact absurd hbase (hno bytes hlookup hwrite)
    · rw [he]
      constructor
      · rintro hafter hquiet - - - bytes' hbase'
        obtain rfl := Except.ok.inj (hbase.symm.trans hbase')
        obtain ⟨bytes', hfile, hhas⟩ := hafter hquiet
        obtain rfl := Option.some.inj ((s.lib.overwrite_files_self filePath bytes).symm.trans hfile)
        exact hhas
      · exact fun hkeeps hquiet ↦
          ⟨bytes, s.lib.overwrite_files_self filePath bytes,
            hkeeps hquiet hfirst hlookup hwrite bytes hbase⟩
    · rw [he]
      exact iff_of_true (fun hquiet ↦ absurd hquiet.1 (Nat.succ_ne_zero _))
        fun _ hfirst' ↦ absurd hfirst hfirst'
  | read =>
    obtain ⟨bytes, hfile⟩ := h.file
    rw [ocrStep, OcrState.runOcr] at hs
    split at hs
    · cases hs
    · rw [hfile] at hs
      obtain rfl := Option.some.inj hs
      exact iff_of_true (fun hquiet ↦ absurd hquiet.2 (List.cons_ne_nil _ _)) trivial
  | finish text fault =>
    rw [ocrStep] at hs
    split at hs
    · rename_i hmem
      obtain rfl := Option.some.inj hs
      have hlast : s.texts.erase text = [] ↔ s.texts = [text] := by
        rw [List.erase_eq_nil_iff, or_iff_right (List.ne_nil_of_mem hmem)]
      obtain ⟨bytes, hfile⟩ := h.file
      obtain ⟨hskip, he⟩ | ⟨hwrites, he⟩ := endOcr_cases id text fault s.lib
      all_goals
        rw [he, KeepsText, OcrState.Quiet, and_imp]
        dsimp only
        rw [hlast]
        refine imp_congr_right fun _ ↦ imp_congr_right fun _ ↦ ?_
        rw [TextCurrent]
        simp only [hfile, Option.some_inj, exists_eq_left', forall_eq']
      · rw [if_neg hskip]
      · rw [if_pos hwrites]
        exact hasText_update_iff h.indexed text (ocr bytes)
    · cases hs

end Step

section Runs

variable {Bytes : Type} {codec : Codec Bytes} {ocr : Bytes → String} {id imageB64 : String}
  {appName windowTitle : Option String} {env : Env} {lib lib' : LibraryState Bytes}
  {steps : List OcrStep} {final : OcrState Bytes}

/-- A draft that has been saved is there. -/
theorem tracked_of_saveDraftInternal
    (hsave : saveDraftInternal codec env imageB64 appName windowTitle lib = (.ok id, lib')) :
    Tracked id (pngPath env) lib' := by
  obtain ⟨-, e, he⟩ | ⟨bytes, img, -, -, -, saved, rfl, hok⟩ :=
    saveDraftInternal_cases codec env lib imageB64 appName windowTitle
  · cases he.symm.trans hsave
  obtain ⟨hid, hlib⟩ := Prod.mk.inj (hok.symm.trans hsave)
  subst hlib
  rw [saveDraft] at hid
  rw [saveDraft]
  set row : CaptureEntry := ⟨env.id, pngPath env, env.now, appName, windowTitle, true,
    some (asI32 img.width), some (asI32 img.height), "image", none⟩
  obtain ⟨-, e, he⟩ | ⟨-, hnew, ⟨-, hsaved⟩ | ⟨-, e, he⟩⟩ := insertBoth_cases
    "insert draft" "insert fts" env.db row ⟨env.id, appName.getD "", windowTitle.getD "", ""⟩ lib.db
  · rw [he] at hid
    cases hid
  · rw [hsaved] at hid ⊢
    obtain rfl := Except.ok.inj hid
    refine ⟨⟨row, ?_, rfl⟩, ⟨bytes, Function.update_self ..⟩,
      _, List.mem_append_right _ List.mem_cons_self, rfl⟩
    rw [LibraryDb.capture, Table.lookup_concat, Table.lookup_eq_none_iff.mpr hnew, if_pos rfl]
    rfl
  · rw [he] at hid
    cases hid

/-- The steps in which a capture is saved with one picture and finalized with another, and each
thread ends before anything else happens. -/
def repaint (draft edited : String) : List OcrStep :=
  [.read, .finish draft none, .finalize (exampleEnv "file" "id" 1) edited, .read,
    .finish edited none]

end Runs

/-! ## One thread at a time -/

section Sequential

variable {Bytes : Type} (codec : Codec Bytes) (ocr : Bytes → String) (id filePath : String)

/-- The steps are taken one after the other, and go well: a finalization is called when no thread is
left, its picture has a text, and no statement fails. -/
def Sequential (s : OcrState Bytes) : OcrStep → Prop
  | .finalize env imageB64 => s.Quiet ∧ env.db.first = none ∧
      ∀ bytes, codec.base64 imageB64 = .ok bytes → ocr bytes ≠ ""
  | .read => True
  | .finish _ fault => fault = none

/-- The file has a text, and it is yet to be read, or has been read, or has been written. -/
def OneThread (s : OcrState Bytes) : Prop :=
  ∃ bytes, s.lib.files filePath = some bytes ∧ ocr bytes ≠ "" ∧
    ((s.unread = 1 ∧ s.texts = []) ∨ (s.unread = 0 ∧ s.texts = [ocr bytes]) ∨
      s.Quiet ∧ HasText id (ocr bytes) s.lib)

variable {codec ocr id filePath} {s t : OcrState Bytes}

theorem oneThread_step (h : Tracked id filePath s.lib) (hone : OneThread ocr id filePath s)
    {a : OcrStep} (ha : Sequential codec ocr s a)
    (hs : ocrStep codec ocr id filePath s a = some t) : OneThread ocr id filePath t := by
  cases a with
  | finalize env imageB64 =>
    obtain ⟨hquiet, hfirst, htexts⟩ := ha
    obtain rfl := Option.some.inj hs
    obtain ⟨-, he⟩ | ⟨bytes, -, -, hbase, ⟨hfirst', -⟩ | ⟨captures, -, -, he⟩⟩ :=
      afterFinalize_cases codec h env imageB64
    · rw [he]
      exact hone
    · exact absurd hfirst hfirst'
    · rw [he]
      refine ⟨bytes, s.lib.overwrite_files_self filePath bytes, htexts bytes hbase,
        Or.inl ⟨?_, hquiet.2⟩⟩
      dsimp only
      rw [hquiet.1]
  | read =>
    obtain ⟨bytes, hfile, hne, hcases⟩ := hone
    rw [ocrStep, OcrState.runOcr, hfile] at hs
    obtain ⟨hunread, htexts⟩ | ⟨hunread, -⟩ | ⟨⟨hunread, -⟩, -⟩ := hcases
    all_goals rw [hunread] at hs
    · obtain rfl := Option.some.inj hs
      refine ⟨bytes, hfile, hne, Or.inr (Or.inl ⟨rfl, ?_⟩)⟩
      dsimp only
      rw [htexts]
    · cases hs
    · cases hs
  | finish text fault =>
    obtain rfl : fault = none := ha
    obtain ⟨bytes, hfile, hne, hcases⟩ := hone
    rw [ocrStep] at hs
    split at hs
    · rename_i hmem
      obtain rfl := Option.some.inj hs
      obtain ⟨-, htexts⟩ | ⟨hunread, htexts⟩ | ⟨⟨-, htexts⟩, -⟩ := hcases
      all_goals rw [htexts] at hmem
      · cases hmem
      · -- the only thread writes the text of the file
        obtain rfl := List.mem_singleton.mp hmem
        obtain ⟨hskip, -⟩ | ⟨-, he⟩ := endOcr_cases id (ocr bytes) none s.lib
        · exact absurd ⟨hne, rfl⟩ hskip
        · rw [he]
          refine ⟨bytes, hfile, hne, Or.inr (Or.inr ⟨⟨hunread, ?_⟩, ?_⟩)⟩
          · dsimp only
            rw [htexts, List.erase_cons_head]
          · exact (hasText_update_iff h.indexed (ocr bytes) (ocr bytes)).mpr rfl
      · cases hmem
    · cases hs

/-- **One thread at a time keeps the text current.** -/
theorem textCurrent_of_sequential {imageB64 : String} {appName windowTitle : Option String}
    {env : Env} {lib lib' : LibraryState Bytes} {steps : List OcrStep} {final : OcrState Bytes}
    (hsave : saveDraftInternal codec env imageB64 appName windowTitle lib = (.ok id, lib'))
    (hdraft : ∀ bytes, lib'.files (pngPath env) = some bytes → ocr bytes ≠ "")
    (hsteps : Machine.Guarded (ocrStep codec ocr id (pngPath env)) (Sequential codec ocr)
      ⟨lib', 1, []⟩ steps)
    (hrun : Machine.exec (ocrStep codec ocr id (pngPath env)) ⟨lib', 1, []⟩ steps = some final)
    (hquiet : final.Quiet) : TextCurrent ocr id (pngPath env) final.lib := by
  have htracked := tracked_of_saveDraftInternal hsave
  obtain ⟨bytes, hfile⟩ := htracked.file
  have hstart : OneThread ocr id (pngPath env) ⟨lib', 1, []⟩ :=
    ⟨bytes, hfile, hdraft bytes hfile, Or.inl ⟨rfl, rfl⟩⟩
  obtain ⟨-, bytes, hfile, -, hcases⟩ := Machine.inv_of_guarded
    (I := fun s ↦ Tracked id (pngPath env) s.lib ∧ OneThread ocr id (pngPath env) s)
    (fun _ _ _ h ha hs ↦ ⟨tracked_step h.1 hs, oneThread_step h.1 h.2 ha hs⟩)
    ⟨htracked, hstart⟩ hsteps hrun
  obtain ⟨hunread, -⟩ | ⟨-, htexts⟩ | ⟨-, hhas⟩ := hcases
  · exact absurd (hquiet.1.symm.trans hunread) (Nat.zero_ne_one)
  · exact absurd (htexts.symm.trans hquiet.2) (List.cons_ne_nil _ _)
  · exact ⟨bytes, hfile, hhas⟩

end Sequential

end WorkWithMe.Library
