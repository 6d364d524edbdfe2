import WorkWithMe.Dictation.Pipeline

/-!
# The microphone button

`MessageInput.tsx` keeps an `isRecording` of its own.  `handleVoiceInput` calls
`toggle_in_app_dictation` and flips it when the call returns, whatever it has returned with, so it
follows the back end only as long as every call that returns has started or stopped a recording.
There is a third way to return: a recording that the hotkey has started is left alone.

* `Flags.press` is a whole press of the button or of the hotkey, as far as `is_recording` and
  `in_app_mode` go.  `press_of_exec` connects it to the handlers of `Pipeline`, step by step with
  the other threads in between.
* `isRecording_iff_guarded`: the button is right all along if and only if it is never clicked during
  a recording of the hotkey.
-/

set_option autoImplicit false

namespace WorkWithMe.Dictation

open Machine

universe u

variable {α : Type u}

/-! ## A press -/

/-- The two flags that say who is recording. -/
structure Flags where
  isRecording : Bool
  inAppMode : Bool
  deriving DecidableEq

/-- What a handler has done when it returns. -/
inductive Outcome where
  | started
  | stopped
  /-- The recording is not of this source. -/
  | refused
  /-- The recorder did not start, which is the only error. -/
  | failed
  deriving DecidableEq

/-- What a press does, where `starts` says whether the recorder would start. -/
def Flags.outcome (f : Flags) (source : Source) (starts : Bool) : Outcome :=
  if f.isRecording = false then if starts then .started else .failed
  else if f.inAppMode = source.inApp then .stopped
  else .refused

/-- The flags after it. -/
def Flags.press (f : Flags) (source : Source) (starts : Bool) : Flags :=
  match f.outcome source starts with
  | .started => ⟨true, source.inApp⟩
  | .stopped => ⟨false, f.inAppMode⟩
  | .refused | .failed => f

section Press

variable {f : Flags} {source : Source} {starts : Bool}

theorem Flags.press_of_starts (hf : f.isRecording = false) :
    f.press source true = ⟨true, source.inApp⟩ := by
  rw [press, outcome, if_pos hf, if_pos rfl]

theorem Flags.press_of_fails (hf : f.isRecording = false) : f.press source false = f := by
  rw [press, outcome, if_pos hf, if_neg Bool.false_ne_true]

theorem Flags.press_of_owner (hf : f.isRecording = true) (hm : f.inAppMode = source.inApp) :
    f.press source starts = ⟨false, f.inAppMode⟩ := by
  rw [press, outcome, if_neg (by rw [hf]; decide), if_pos hm]

theorem Flags.press_of_not_owner (hf : f.isRecording = true) (hm : f.inAppMode ≠ source.inApp) :
    f.press source starts = f := by
  rw [press, outcome, if_neg (by rw [hf]; decide), if_neg hm]

end Press

/-! ## A press in the pipeline -/

/-- The flags of the dictation state. -/
def Pipeline.flags (s : Pipeline α) : Flags := ⟨s.dictation.isRecording, s.dictation.inAppMode⟩

/-- The recorder was started. -/
def Action.starts : Action α → Bool
  | .startRecorder (.streaming _) => true
  | _ => false

/-- A button or a hotkey was pressed. -/
def Action.isPress : Action α → Bool
  | .press _ => true
  | _ => false

/-- How far the handler of a press has come, which found the flags `f`. -/
def Progress (f : Flags) (source : Source) (starts : Bool) (s : Pipeline α) : Prop :=
  match s.handler with
  | .idle => s.flags = f.press source starts
  | .starting source' => source' = source ∧ s.flags = f ∧ f.isRecording = false ∧ starts = false
  | .started source' _ => source' = source ∧ s.flags = f ∧ f.isRecording = false ∧ starts = true
  | .stopping source' => source' = source ∧ s.flags = f ∧ f.isRecording = true
  | .draining source' | .pushing source' _ _ =>
    source' = source ∧ s.flags = f ∧ f.isRecording = true ∧ f.inAppMode = source.inApp
  | .hung => True
  | .stopped _ _ _ | .sending _ _ _ =>
    s.flags = ⟨false, f.inAppMode⟩ ∧ f.isRecording = true ∧ f.inAppMode = source.inApp

/-- The polling thread and the worker do not touch the flags. -/
theorem Progress.congr {f : Flags} {source : Source} {starts : Bool} {s t : Pipeline α}
    (h : Progress f source starts s) (hh : t.handler = s.handler) (hf : t.flags = s.flags) :
    Progress f source starts t := by
  rw [Progress, hh, hf]
  exact h

section Progress

variable {quiet : List α → Bool} {f : Flags} {source : Source} {starts : Bool} {s t : Pipeline α}

/-- A step of the handler, or of another thread. -/
theorem Progress.step {a : Action α} (h : Progress f source starts s) (hp : a.isPress = false)
    (hs : Dictation.step quiet s a = some t) : Progress f source (starts || a.starts) t := by
  cases step_cases hs with
  | pressStart source' hh | pressStop source' hh => cases hp
  | startRecorder source' answer hh =>
    simp only [Progress, hh] at h
    obtain ⟨rfl, hf, hr, rfl⟩ := h
    cases answer with
    | streaming rate => exact ⟨rfl, hf, hr, rfl⟩
    | failed rate => exact hf.trans (Flags.press_of_fails hr).symm
    | noDevice => exact hf.trans (Flags.press_of_fails hr).symm
  | beginRecording source' rate hh =>
    simp only [Progress, hh] at h
    obtain ⟨rfl, -, hr, rfl⟩ := h
    exact (Flags.press_of_starts hr).symm
  | lockStop source' hh hl hm =>
    simp only [Progress, hh] at h
    obtain ⟨rfl, hf, hr⟩ := h
    exact ⟨rfl, hf, hr, by rw [← hf]; exact hm⟩
  | notOwner source' hh hl hm =>
    simp only [Progress, hh] at h
    obtain ⟨rfl, hf, hr⟩ := h
    refine hf.trans (Flags.press_of_not_owner hr ?_).symm
    rw [← hf]
    exact hm
  | drainStop source' hh =>
    simp only [Progress, hh] at h
    exact h
  | stopHangs source' remaining rate hh => trivial
  | stopSplits source' remaining rate d hh | stopDiscards source' remaining rate d _ _ hh =>
    simp only [Progress, hh] at h
    obtain ⟨rfl, hf, hr, hm⟩ := h
    refine ⟨?_, hr, hm⟩
    rw [← hf]
    rfl
  | stopRecorder source' chunk rate hh =>
    simp only [Progress, hh] at h
    obtain ⟨hf, hr, hm⟩ := h
    cases chunk with
    | none => exact hf.trans (Flags.press_of_owner hr hm).symm
    | some chunk => exact ⟨hf, hr, hm⟩
  | send source' chunk rate hh =>
    simp only [Progress, hh] at h
    obtain ⟨hf, hr, hm⟩ := h
    exact hf.trans (Flags.press_of_owner hr hm).symm
  | audio | lockPoll | notRecording | drainPoll | pollHangs | pollKeeps | pollSplits | receive =>
    exact (Bool.or_false starts).symm ▸ h.congr rfl rfl
  | offer chunk =>
    refine (Bool.or_false starts).symm ▸ h.congr ?_ ?_
    · rw [Pipeline.offer]; split <;> rfl
    · rw [Pipeline.offer]; split <;> rfl

/-- Steps of the handler and of other threads. -/
theorem Progress.exec {as : List (Action α)} (h : Progress f source starts s)
    (hp : ∀ a ∈ as, a.isPress = false) (hrun : exec (Dictation.step quiet) s as = some t) :
    Progress f source (starts || as.any Action.starts) t := by
  induction as generalizing s starts with
  | nil =>
    rw [exec_nil, Option.some_inj] at hrun
    rw [List.any_nil, Bool.or_false]
    exact hrun ▸ h
  | cons a as ih =>
    obtain ⟨r, hr, hrest⟩ := exec_cons_eq_some.mp hrun
    obtain ⟨ha, has⟩ := List.forall_mem_cons.mp hp
    rw [List.any_cons, ← Bool.or_assoc]
    exact ih (h.step ha hr) has hrest

/-- **A press, step by step**, with the steps of the other threads in between: when its handler is
done, the flags are those of `Flags.press`. -/
theorem press_of_exec {as : List (Action α)} (hp : ∀ a ∈ as, a.isPress = false)
    (hrun : exec (Dictation.step quiet) s (.press source :: as) = some t)
    (hdone : t.handler = .idle) : t.flags = s.flags.press source (as.any Action.starts) := by
  obtain ⟨r, hr, hrest⟩ := exec_cons_eq_some.mp hrun
  have hstart : Progress s.flags source false r := by
    cases step_cases hr with
    | pressStart source hh hl hrec => exact ⟨rfl, rfl, hrec, rfl⟩
    | pressStop source hh hl hrec => exact ⟨rfl, rfl, hrec⟩
  have hall := hstart.exec hp hrest
  rw [Progress, hdone, Bool.false_or] at hall
  exact hall

end Progress

/-! ## The button -/

/-- The back end, and what the button shows. -/
structure Button where
  flags : Flags
  isRecording : Bool
  deriving DecidableEq

/-- The button or the hotkey is pressed, and the recorder would start or not. -/
structure Press where
  source : Source
  starts : Bool
  deriving DecidableEq

namespace Button

def init : Button := ⟨⟨false, false⟩, false⟩

/-- `handleVoiceInput` flips its flag unless the call has failed; the handler of the hotkey does not
reach the front end. -/
def step (s : Button) (p : Press) : Option Button :=
  some {
    flags := s.flags.press p.source p.starts
    isRecording := match p.source with
      | .inAppButton =>
        if s.flags.outcome .inAppButton p.starts = .failed then s.isRecording else !s.isRecording
      | .hotkey => s.isRecording }

/-- The button shows whether a recording of its own is going on. -/
def Truthful (s : Button) : Prop :=
  s.isRecording = true ↔ s.flags.isRecording = true ∧ s.flags.inAppMode = true

/-- The hotkey is recording. -/
def HotkeyRecords (s : Button) : Prop :=
  s.flags.isRecording = true ∧ s.flags.inAppMode = false

/-- The press is not a click during a recording of the hotkey. -/
def Allowed (s : Button) (p : Press) : Prop := p.source = .inAppButton → ¬s.HotkeyRecords

/-- **A press** keeps the button truthful if and only if it is no click during a recording of the
hotkey. -/
theorem truthful_step {s t : Button} {p : Press} (hs : s.Truthful) (h : step s p = some t) :
    t.Truthful ↔ s.Allowed p := by
  obtain ⟨⟨rec, mode⟩, shown⟩ := s
  obtain ⟨source, starts⟩ := p
  cases h
  simp only [Truthful] at hs
  cases source with
  | hotkey =>
    refine iff_of_true ?_ nofun
    cases rec with
    | false =>
      have hshown : shown = false := by simpa using hs
      cases starts <;> simp [Truthful, Flags.press, Flags.outcome, Source.inApp, hshown]
    | true =>
      cases mode <;> simp_all [Truthful, Flags.press, Flags.outcome, Source.inApp]
  | inAppButton =>
    rw [Allowed, imp_iff_right rfl]
    cases rec with
    | false =>
      have hshown : shown = false := by simpa using hs
      cases starts <;> simp [Truthful, HotkeyRecords, Flags.press, Flags.outcome, Source.inApp,
        hshown]
    | true =>
      cases mode <;> simp_all [Truthful, HotkeyRecords, Flags.press, Flags.outcome, Source.inApp]

/-- **The button tells the truth** after every press if and only if it is never clicked during a
recording of the hotkey. -/
theorem isRecording_iff_guarded (as : List Press) :
    (∀ pre post r, as = pre ++ post → exec step init pre = some r → r.Truthful) ↔
      Guarded step Allowed init as := by
  obtain ⟨t, ht⟩ : ∃ t, exec step init as = some t :=
    exists_exec_eq_some (fun s a ↦ ⟨_, rfl⟩) init as
  exact inv_iff_guarded (fun s a t hs h ↦ truthful_step hs h) (by simp [Truthful, init]) ht

/-- The hotkey starts a recording, and the button is clicked: the button shows a recording which is
not its own. -/
theorem not_isRecording_of_exec : ∃ (as : List Press) (r : Button),
    exec step init as = some r ∧ ¬r.Truthful :=
  ⟨[⟨.hotkey, true⟩, ⟨.inAppButton, true⟩], _, rfl, by simp [Truthful, Flags.press, Flags.outcome,
    init, Source.inApp]⟩

end Button

end WorkWithMe.Dictation
