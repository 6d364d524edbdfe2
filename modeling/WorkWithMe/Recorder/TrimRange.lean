import Mathlib.Data.Int.Notation
import WorkWithMe.Lib.Machine

/-!
# The range of the trim editor

`TrimEditor.tsx` has two sliders, one for the point where the film shall begin and one for the point
where it shall end.  Each takes any value within the length of the recording, wherever the other one
is.  The difference is shown as what is selected; the two points go to `recording_export`, which
subtracts them once more, and takes nothing for what would be negative.

* `Valid` is that the film begins before it ends, and that what is exported is as long as what is
  shown.
* **`valid_iff_guarded`**: this holds all along a run of changes if and only if neither point is
  ever moved past the other.
* `not_valid` is a run in which it does not: minus five seconds are selected, and an empty
  film is exported.
-/

set_option autoImplicit false

namespace WorkWithMe.Recorder

/-! ## The editor -/

/-- What the editor knows of the film. -/
structure TrimState where
  /-- The recording. -/
  rawPath : Option String
  /-- Its length. -/
  durationMs : ℕ
  /-- Where the film shall begin. -/
  startMs : ℕ
  /-- Where it shall end. -/
  endMs : ℕ
  deriving DecidableEq

namespace TrimState

/-- The recording has been loaded, and its length is known. -/
def loaded (path : String) (dur : ℕ) : TrimState := ⟨some path, dur, 0, dur⟩

/-- A slider is moved. -/
inductive Change where
  /-- `in-point-slider`. -/
  | start (ms : ℕ)
  /-- `out-point-slider`. -/
  | stop (ms : ℕ)
  deriving DecidableEq

/-- `handleStartChange` and `handleEndChange`, within the bounds of the sliders. -/
def step (s : TrimState) : Change → Option TrimState
  | .start ms => if ms ≤ s.durationMs then some { s with startMs := ms } else none
  | .stop ms => if ms ≤ s.durationMs then some { s with endMs := ms } else none

/-- What is shown as selected, in milliseconds. -/
def selectedMs (s : TrimState) : ℤ := s.endMs - s.startMs

/-! ## The export -/

/-- The arguments of `ffmpeg`, with the times in milliseconds. -/
structure ExportArgs where
  /-- `-i`. -/
  input : String
  /-- `-ss`: where to begin. -/
  ss : ℕ
  /-- `-t`: how long it takes. -/
  t : ℕ
  /-- Where to put the film. -/
  output : String
  deriving DecidableEq

/-- `recording_export`, with `u64::saturating_sub`. -/
def recordingExport (input output : String) (startMs endMs : ℕ) : ExportArgs :=
  ⟨input, startMs, endMs - startMs, output⟩

/-- `handleExport`, up to its call; `outputPath` is the answer of the save dialog. -/
def handleExport (s : TrimState) (outputPath : Option String) : Option ExportArgs :=
  match s.rawPath.filter (· ≠ ""), outputPath.filter (· ≠ "") with
  | some rawPath, some outputPath => some (recordingExport rawPath outputPath s.startMs s.endMs)
  | _, _ => none

/-! ## The law -/

/-- **The range is valid**, and what is exported is what is shown. -/
structure Valid (s : TrimState) : Prop where
  /-- The film does not end before it begins. -/
  ordered : s.startMs ≤ s.endMs
  /-- It ends with the recording, or before. -/
  bounded : s.endMs ≤ s.durationMs
  /-- What is exported is as long as what is shown. -/
  exported : ∀ outputPath args, s.handleExport outputPath = some args → (args.t : ℤ) = s.selectedMs

/-- **What may be done**: a point is not moved past the other. -/
def Allowed (s : TrimState) : Change → Prop
  | .start ms => ms ≤ s.endMs
  | .stop ms => s.startMs ≤ ms

variable {s t : TrimState} {c : Change}

/-- **The export is as long as what is shown** if and only if the points are in order. -/
theorem t_handleExport_iff {outputPath : Option String} {args : ExportArgs}
    (h : s.handleExport outputPath = some args) :
    (args.t : ℤ) = s.selectedMs ↔ s.startMs ≤ s.endMs := by
  have ht : args.t = s.endMs - s.startMs := by
    rw [handleExport] at h
    split at h
    · obtain rfl := Option.some.inj h
      rfl
    · cases h
  rw [ht, selectedMs]
  omega

theorem valid_iff : Valid s ↔ s.startMs ≤ s.endMs ∧ s.endMs ≤ s.durationMs :=
  ⟨fun h ↦ ⟨h.ordered, h.bounded⟩,
    fun h ↦ ⟨h.1, h.2, fun _ _ hargs ↦ (t_handleExport_iff hargs).mpr h.1⟩⟩

/-- **One change** leaves the range valid if and only if it is allowed. -/
theorem valid_step_iff (hs : Valid s) (h : s.step c = some t) : Valid t ↔ Allowed s c := by
  obtain ⟨-, hbounded⟩ := valid_iff.mp hs
  rw [valid_iff]
  cases c with
  | start ms =>
    rw [step, Option.ite_none_right_eq_some, Option.some_inj] at h
    obtain ⟨-, rfl⟩ := h
    exact and_iff_left hbounded
  | stop ms =>
    rw [step, Option.ite_none_right_eq_some, Option.some_inj] at h
    obtain ⟨hms, rfl⟩ := h
    exact and_iff_left hms

/-- **The range is valid all along a run** if and only if no point is moved past the other. -/
theorem valid_iff_guarded (path : String) (dur : ℕ) (cs : List Change) (s : TrimState)
    (hrun : Machine.exec step (loaded path dur) cs = some s) :
    (∀ pre post r, cs = pre ++ post → Machine.exec step (loaded path dur) pre = some r → Valid r) ↔
      Machine.Guarded step Allowed (loaded path dur) cs :=
  Machine.inv_iff_guarded (fun _ _ _ hs ht ↦ valid_step_iff hs ht)
    (valid_iff.mpr ⟨Nat.zero_le dur, Nat.le_refl dur⟩) hrun

/-- Ten seconds, of which those from the third to the eighth are selected. -/
theorem valid_iff_guarded_example :
    Machine.exec step (loaded "raw.mp4" 10000) [.start 3000, .stop 8000] =
        some ⟨some "raw.mp4", 10000, 3000, 8000⟩ ∧
      Valid ⟨some "raw.mp4", 10000, 3000, 8000⟩ := by
  have hguarded : Machine.Guarded step Allowed (loaded "raw.mp4" 10000)
      [.start 3000, .stop 8000] :=
    .cons rfl (by decide : 3000 ≤ 10000) (.cons rfl (by decide : 3000 ≤ 8000) trivial)
  exact ⟨rfl, (valid_iff_guarded "raw.mp4" 10000 _ _ rfl).mpr hguarded [.start 3000, .stop 8000] []
    _ rfl rfl⟩

/-- **The points change places**: minus five seconds are shown, and none are exported. -/
theorem not_valid : ∃ s, Machine.exec step (loaded "raw.mp4" 10000) [.start 8000, .stop 3000] =
      some s ∧ ¬ Valid s ∧ s.selectedMs = -5000 ∧
      s.handleExport (some "out.mp4") = some ⟨"raw.mp4", 8000, 0, "out.mp4"⟩ :=
  ⟨_, rfl, fun h ↦ absurd h.ordered (by decide), rfl, rfl⟩

end TrimState

end WorkWithMe.Recorder
