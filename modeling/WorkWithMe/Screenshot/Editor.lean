import Mathlib.Data.Option.Basic
import WorkWithMe.Lib.Machine

/-!
# The screenshot editor

A capture has a picture and, if its draft could be saved, an id in the library.  `loadCapture` of
`EditorWindow.tsx` fetches the pending one; its id is in `libraryIdRef` at once, its picture on the
stage when the browser has decoded it.  `handleCopy` and `handleSave` render the stage, wait for the
clipboard or for the save dialog, and then finalize the draft whose id is in the ref by then, with
what they have rendered before.  While they wait another capture can come in, and while a picture
is decoded the ref is ahead of the stage.

* `Editor.OwnPictures`: every draft was finalized with a rendering of its own picture.
* `Editor.CanStillFinalize`: so can the draft that was fetched last, if it has not been yet.
* `sound_iff_guarded`: in which runs both are so all along.
-/

set_option autoImplicit false

namespace WorkWithMe.Screenshot

open Machine

universe u

variable {ν : Type u}

/-! ## The parts -/

/-- What `get_captured_image` returns. -/
structure Capture where
  /-- The picture, in base64. -/
  image : String
  libraryId : Option String
  deriving DecidableEq

/-- The formats of `handleSave`. -/
inductive Format where
  | png
  | jpg
  deriving DecidableEq

/-- What `toDataURL` returns: the stage, with the capture that is displayed and the annotations. -/
structure Rendering (ν : Type u) where
  picture : Option Capture
  annotations : List ν
  format : Format
  deriving DecidableEq

/-- It is of the capture with this id. -/
def Rendering.IsOf (r : Rendering ν) (id : String) : Prop :=
  ∃ capture, r.picture = some capture ∧ capture.libraryId = some id

structure Editor (ν : Type u) where
  /-- The capture in `CaptureState`. -/
  pending : Option Capture
  /-- The window has been opened, or told to reload, that many times without having reacted. -/
  signals : ℕ
  /-- The calls of `get_captured_image` that have not been answered. -/
  calls : ℕ
  /-- The captures that are on their way to the window. -/
  answers : List Capture
  /-- The pictures that are being decoded. -/
  loading : List Capture
  imageEl : Option Capture
  libraryIdRef : Option String
  annotations : List ν
  /-- What the calls of `handleCopy` and `handleSave` that are waiting have rendered. -/
  suspended : List (Rendering ν)
  /-- The capture that was fetched last. -/
  fetched : Option Capture
  /-- A draft has been finalized since. -/
  done : Bool
  /-- The calls of `library_finalize`. -/
  finalized : List (String × Rendering ν)

namespace Editor

def init : Editor ν where
  pending := none
  signals := 0
  calls := 0
  answers := []
  loading := []
  imageEl := none
  libraryIdRef := none
  annotations := []
  suspended := []
  fetched := none
  done := false
  finalized := []

/-! ## The steps -/

inductive Action (ν : Type u) where
  /-- A capture is to be edited. -/
  | openEditorWindow (capture : Capture)
  /-- The window has been mounted, or `reload-capture` arrives. -/
  | loadCapture
  /-- The back end answers a call. -/
  | getCapturedImage
  /-- The answer arrives. -/
  | captured (capture : Capture)
  /-- A picture has been decoded. -/
  | onload (capture : Capture)
  /-- The annotations are edited. -/
  | annotate (annotations : List ν)
  | handleCopy
  | handleSave (format : Format)
  /-- The clipboard or the save dialog is done. -/
  | resume (rendering : Rendering ν) (ok : Bool)

variable (s : Editor ν)

/-- The id in the ref, if it counts as one. -/
def libraryId : Option String := s.libraryIdRef.filter fun id ↦ id ≠ ""

/-- What is on the stage. -/
def render (format : Format) : Rendering ν := ⟨s.imageEl, s.annotations, format⟩

/-- `handleCopy` or `handleSave`, up to its `await`. -/
def suspend (format : Format) : Editor ν :=
  { s with suspended := s.suspended ++ [s.render format] }

/-- The rest of it, when it is not the error. -/
def finalize (rendering : Rendering ν) : Editor ν :=
  match s.libraryId with
  | some id =>
    { s with libraryIdRef := none, done := true, finalized := s.finalized ++ [(id, rendering)] }
  | none => s

variable [DecidableEq ν]

/-- One step. -/
def step (s : Editor ν) : Action ν → Option (Editor ν)
  | .openEditorWindow capture =>
    some { s with pending := some capture, signals := s.signals + 1 }
  | .loadCapture =>
    if 0 < s.signals then
      some { s with signals := s.signals - 1, annotations := [], calls := s.calls + 1 }
    else none
  | .getCapturedImage =>
    if 0 < s.calls then
      some { s with
        pending := none
        calls := s.calls - 1
        answers := s.answers ++ s.pending.toList }
    else none
  | .captured capture =>
    if capture ∈ s.answers then
      some { s with
        answers := s.answers.erase capture
        libraryIdRef := capture.libraryId
        loading := s.loading ++ [capture]
        fetched := some capture
        done := false }
    else none
  | .onload capture =>
    if capture ∈ s.loading then
      some { s with loading := s.loading.erase capture, imageEl := some capture }
    else none
  | .annotate annotations => some { s with annotations := annotations }
  | .handleCopy => some (s.suspend .png)
  | .handleSave format => some (s.suspend format)
  | .resume rendering ok =>
    if rendering ∈ s.suspended then
      let waiting := { s with suspended := s.suspended.erase rendering }
      some (if ok then waiting.finalize rendering else waiting)
    else none

/-! ## What is required -/

variable (s : Editor ν)

/-- Every draft was finalized with a rendering of its own picture. -/
def OwnPictures : Prop := ∀ p ∈ s.finalized, p.2.IsOf p.1

/-- The capture was fetched last, and its draft has not been finalized. -/
def Open (capture : Capture) (id : String) : Prop :=
  s.fetched = some capture ∧ s.done = false ∧ capture.libraryId = some id ∧ id ≠ ""

/-- When some of the pictures that are still being decoded have been, the user can copy this capture
and so finalize its draft. -/
def CanFinalize (capture : Capture) (id : String) : Prop :=
  ∃ (loads : List Capture) (t u : Editor ν),
    exec step s (loads.map .onload) = some t ∧ t.imageEl = some capture ∧
    exec step t [.handleCopy, .resume (t.render .png) true] = some u ∧
    u.finalized = s.finalized ++ [(id, t.render .png)]

/-- A draft that has not been finalized can be. -/
def CanStillFinalize : Prop := ∀ capture id, s.Open capture id → s.CanFinalize capture id

/-- Drafts are finalized with their own pictures, and the last one can be. -/
def Sound : Prop := s.OwnPictures ∧ s.CanStillFinalize

/-- The picture of the capture is on the stage or will be. -/
def HasPicture (capture : Capture) : Prop := s.imageEl = some capture ∨ capture ∈ s.loading

/-- After its `await` a handler has rendered the capture whose id is in the ref; and a picture that
has been decoded does not replace the one of a capture that can still be finalized. -/
def Allowed : Action ν → Prop
  | .resume rendering true => ∀ id, s.libraryId = some id → rendering.IsOf id
  | .onload picture => ∀ capture id, s.Open capture id →
      picture = capture ∨ capture ∈ s.loading.erase picture
  | _ => True

/-! ## When a draft can be finalized -/

section Lemmas

variable {s t : Editor ν} {capture : Capture} {id : String} {rendering : Rendering ν}

omit [DecidableEq ν] in
@[simp] theorem finalized_finalize :
    (s.finalize rendering).finalized =
      s.finalized ++ (s.libraryId.map fun id ↦ (id, rendering)).toList := by
  rw [finalize]
  cases s.libraryId with
  | some id => rfl
  | none => exact (List.append_nil _).symm

/-- A copy, from the click to the end. -/
theorem exec_copy : ∃ u, exec step s [.handleCopy, .resume (s.render .png) true] = some u ∧
    u.finalized = s.finalized ++ (s.libraryId.map fun id ↦ (id, s.render .png)).toList := by
  have hmem : s.render .png ∈ (s.suspend .png).suspended := by simp [suspend]
  refine ⟨_, ?_, finalized_finalize (s := { s.suspend .png with
    suspended := (s.suspend .png).suspended.erase (s.render .png) })⟩
  rw [exec_cons_eq_some]
  exact ⟨_, rfl, exec_cons_eq_some.mpr ⟨_, if_pos hmem, rfl⟩⟩

/-- Pictures that have been decoded touch neither the ref nor the library. -/
theorem frame_of_onload {loads : List Capture} (h : exec step s (loads.map .onload) = some t) :
    t.libraryIdRef = s.libraryIdRef ∧ t.finalized = s.finalized ∧
      (t.imageEl = some capture → s.HasPicture capture) := by
  induction loads generalizing s with
  | nil =>
    cases h
    exact ⟨rfl, rfl, Or.inl⟩
  | cons picture loads ih =>
    obtain ⟨r, hr, h⟩ := exec_cons_eq_some.mp h
    obtain ⟨hmem, hr⟩ := Option.ite_none_right_eq_some.mp hr
    cases hr
    obtain ⟨href, hfin, hpic⟩ := ih h
    refine ⟨href, hfin, fun ht ↦ ?_⟩
    rcases hpic ht with heq | hload
    · exact Or.inr (Option.some.inj heq ▸ hmem)
    · exact Or.inr (List.mem_of_mem_erase hload)

/-- A draft can be finalized when its id is in the ref and its picture on the stage, now or
later. -/
theorem canFinalize_iff :
    s.CanFinalize capture id ↔ s.libraryId = some id ∧ s.HasPicture capture := by
  constructor
  · rintro ⟨loads, t, u, hloads, hpic, hcopy, hfin⟩
    obtain ⟨href, hlib, hhas⟩ := frame_of_onload hloads
    refine ⟨?_, hhas hpic⟩
    obtain ⟨u', hu', hfin'⟩ := exec_copy (s := t)
    obtain rfl : u = u' := Option.some.inj (hcopy.symm.trans hu')
    rw [hfin', hlib] at hfin
    have hid := List.append_cancel_left hfin
    have hsame : t.libraryId = s.libraryId := by rw [libraryId, libraryId, href]
    rw [hsame] at hid
    cases hs : s.libraryId with
    | none => rw [hs] at hid; cases hid
    | some id' => rw [hs] at hid; cases hid; rfl
  · rintro ⟨hid, hpic | hload⟩
    · obtain ⟨u, hu, hfin⟩ := exec_copy (s := s)
      exact ⟨[], s, u, rfl, hpic, hu, by rw [hfin, hid]; rfl⟩
    · let t : Editor ν := { s with loading := s.loading.erase capture, imageEl := some capture }
      obtain ⟨u, hu, hfin⟩ := exec_copy (s := t)
      refine ⟨[capture], t, u, ?_, rfl, hu, by rw [hfin, show t.libraryId = some id from hid]; rfl⟩
      exact exec_cons_eq_some.mpr ⟨t, if_pos hload, rfl⟩

/-- The second half of `Sound`, without a run. -/
theorem canStillFinalize_iff : s.CanStillFinalize ↔
    ∀ capture id, s.Open capture id → s.libraryId = some id ∧ s.HasPicture capture :=
  forall₂_congr fun _ _ ↦ imp_congr_right fun _ ↦ canFinalize_iff

/-! ## The steps -/

/-- A step that leaves the library, the ref and the last capture alone, and keeps its picture. -/
theorem sound_iff_of_frame (hs : s.Sound) (hfin : t.finalized = s.finalized)
    (href : t.libraryIdRef = s.libraryIdRef) (hfetched : t.fetched = s.fetched)
    (hdone : t.done = s.done) :
    t.Sound ↔ ∀ capture id, s.Open capture id → t.HasPicture capture := by
  have hopen : ∀ capture id, t.Open capture id ↔ s.Open capture id := by
    intro capture id
    rw [Open, Open, hfetched, hdone]
  have hid : t.libraryId = s.libraryId := by rw [libraryId, libraryId, href]
  have hown : t.OwnPictures := by
    rw [OwnPictures, hfin]
    exact hs.1
  rw [Sound, and_iff_right hown, canStillFinalize_iff]
  refine forall₂_congr fun capture id ↦ ?_
  rw [hopen, hid]
  refine imp_congr_right fun ho ↦ and_iff_right ?_
  exact (canStillFinalize_iff.mp hs.2 capture id ho).1

/-- The picture of a capture that can be finalized is there. -/
theorem Sound.hasPicture (hs : s.Sound) (ho : s.Open capture id) : s.HasPicture capture :=
  (canStillFinalize_iff.mp hs.2 capture id ho).2

/-- A step that leaves the pictures alone as well. -/
theorem Sound.of_frame (hs : s.Sound) (hfin : t.finalized = s.finalized)
    (href : t.libraryIdRef = s.libraryIdRef) (hfetched : t.fetched = s.fetched)
    (hdone : t.done = s.done) (hpic : t.imageEl = s.imageEl) (hload : t.loading = s.loading) :
    t.Sound := by
  refine (sound_iff_of_frame hs hfin href hfetched hdone).mpr fun capture id ho ↦ ?_
  rw [HasPicture, hpic, hload]
  exact hs.hasPicture ho

/-- A handler goes on after its `await`. -/
theorem sound_finalize (hs : s.Sound) :
    (s.finalize rendering).Sound ↔ ∀ id, s.libraryId = some id → rendering.IsOf id := by
  rw [finalize]
  cases hid : s.libraryId with
  | none => exact iff_of_true hs nofun
  | some id =>
    have hcan : ({ s with
        libraryIdRef := none, done := true,
        finalized := s.finalized ++ [(id, rendering)] } : Editor ν).CanStillFinalize :=
      fun _ _ ho ↦ by cases ho.2.1
    simp only [Sound, hcan, and_true, OwnPictures, List.forall_mem_append, Option.some_inj,
      forall_eq']
    exact (and_iff_right hs.1).trans (by simp)

/-- **A step** keeps the editor sound if and only if it is allowed. -/
theorem sound_step {a : Action ν} (hs : s.Sound) (h : step s a = some t) :
    t.Sound ↔ s.Allowed a := by
  cases a with
  | openEditorWindow capture | annotate annotations | handleCopy | handleSave format =>
    cases h
    exact iff_of_true (hs.of_frame rfl rfl rfl rfl rfl rfl) trivial
  | loadCapture | getCapturedImage =>
    obtain ⟨-, h⟩ := Option.ite_none_right_eq_some.mp h
    cases h
    exact iff_of_true (hs.of_frame rfl rfl rfl rfl rfl rfl) trivial
  | captured capture =>
    obtain ⟨-, h⟩ := Option.ite_none_right_eq_some.mp h
    cases h
    refine iff_of_true ⟨hs.1, canStillFinalize_iff.mpr ?_⟩ trivial
    rintro capture' id ⟨hf, -, hid, hne⟩
    cases hf
    refine ⟨?_, Or.inr (List.mem_append_right _ List.mem_cons_self)⟩
    rw [libraryId, hid, Option.filter_some, if_pos (by simpa using hne)]
  | onload picture =>
    obtain ⟨-, h⟩ := Option.ite_none_right_eq_some.mp h
    cases h
    have hiff := sound_iff_of_frame
      (t := { s with loading := s.loading.erase picture, imageEl := some picture })
      hs rfl rfl rfl rfl
    simpa only [HasPicture, Allowed, Option.some_inj] using hiff
  | resume rendering ok =>
    obtain ⟨-, h⟩ := Option.ite_none_right_eq_some.mp h
    cases h
    have hwait : ({ s with suspended := s.suspended.erase rendering } : Editor ν).Sound :=
      hs.of_frame rfl rfl rfl rfl rfl rfl
    cases ok with
    | true => exact sound_finalize hwait
    | false => exact iff_of_true hwait trivial

end Lemmas

theorem sound_init : (init : Editor ν).Sound := ⟨nofun, fun _ _ ho ↦ by cases ho.1⟩

/-- **Every draft is finalized with its own picture, and the last one can be**, all along a run, if
and only if the run has allowed steps only: no handler goes on when the ref has come to hold the
id of a capture other than the one it has rendered, and no picture is decoded so late that it
replaces a newer one. -/
theorem sound_iff_guarded {as : List (Action ν)} {t : Editor ν}
    (hrun : exec step init as = some t) :
    (∀ pre post r, as = pre ++ post → exec step init pre = some r → r.Sound) ↔
      Guarded step Allowed init as :=
  inv_iff_guarded (fun _ _ _ hs h ↦ sound_step hs h) sound_init hrun

/-! ## A capture that comes in during a save -/

/-- The first capture is fetched and displayed, and saved; the second one comes in while the dialog
is open. -/
def exampleSave : List (Action Unit) :=
  [.openEditorWindow ⟨"A", some "a"⟩, .loadCapture, .getCapturedImage, .captured ⟨"A", some "a"⟩,
    .onload ⟨"A", some "a"⟩, .handleSave .png, .openEditorWindow ⟨"B", some "b"⟩, .loadCapture,
    .getCapturedImage, .captured ⟨"B", some "b"⟩]

theorem sound_iff_guarded_example : ∃ t, exec step init exampleSave = some t ∧
    ∀ pre post r, exampleSave = pre ++ post → exec step init pre = some r → r.Sound := by
  obtain ⟨t, hrun⟩ : ∃ t, exec step init exampleSave = some t := ⟨_, rfl⟩
  refine ⟨t, hrun, (sound_iff_guarded hrun).mpr ?_⟩
  refine .cons rfl trivial <| .cons rfl trivial <| .cons rfl trivial <| .cons rfl trivial <|
    .cons rfl ?_ <| .cons rfl trivial <| .cons rfl trivial <| .cons rfl trivial <|
    .cons rfl trivial <| .cons rfl trivial trivial
  rintro capture id ⟨hf, -⟩
  exact Or.inl (Option.some.inj hf)

/-- **The file of the second capture is overwritten with the first**, when the dialog is closed. -/
theorem not_sound_of_exec : ∃ t : Editor Unit,
    exec step init (exampleSave ++ [.resume ⟨some ⟨"A", some "a"⟩, [], .png⟩ true]) = some t ∧
      t.finalized = [("b", ⟨some ⟨"A", some "a"⟩, [], .png⟩)] ∧ t.libraryIdRef = none ∧
      ¬t.Sound := by
  obtain ⟨t, hrun, hfin, href⟩ : ∃ t : Editor Unit,
      exec step init (exampleSave ++ [.resume ⟨some ⟨"A", some "a"⟩, [], .png⟩ true]) = some t ∧
        t.finalized = [("b", ⟨some ⟨"A", some "a"⟩, [], .png⟩)] ∧ t.libraryIdRef = none :=
    ⟨_, rfl, rfl, rfl⟩
  refine ⟨t, hrun, hfin, href, fun h ↦ ?_⟩
  have hown := h.1
  rw [OwnPictures, hfin] at hown
  obtain ⟨capture, hpic, hid⟩ := hown _ List.mem_cons_self
  cases hpic
  exact absurd hid (by decide)

end Editor

end WorkWithMe.Screenshot
