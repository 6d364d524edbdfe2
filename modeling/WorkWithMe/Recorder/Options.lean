import Mathlib.Data.Int.Notation
import WorkWithMe.Lib.Machine
import WorkWithMe.Recorder.Devices

/-!
# The options of a recording

`RecordingOptionsPanel` lets the user choose between the full screen and a region.  The region comes
from another window, as an event, and the record button starts a countdown of three seconds, at the
end of which `recording_start` is called with the region that the handler had at the click.

A run is any sequence of changes of the radios and of the microphone, of selected regions and of
clicks, in which the countdowns go on a second at a time and the calls of `recording_start` return
at some time.

* `Right` is the law of a call: the crop is the region that was selected last before the click, if
  the panel showed that choice then, and there is none if it showed the full screen.  It does not
  hold where a region is selected and the full screen after that: `not_right`.
* **`right_iff`** says for which calls it holds.
-/

set_option autoImplicit false

namespace WorkWithMe.Recorder

/-! ## The arguments of ffmpeg -/

/-- A region of the screen. -/
structure Rect where
  /-- The left side. -/
  x : ℤ
  /-- The upper side. -/
  y : ℤ
  /-- The width. -/
  width : ℕ
  /-- The height. -/
  height : ℕ
  deriving DecidableEq

/-- The filter for a region. -/
def Rect.crop (r : Rect) : String :=
  "crop=" ++ toString r.width ++ ":" ++ toString r.height ++ ":" ++ toString r.x ++ ":" ++
    toString r.y

/-- The arguments of ffmpeg in `recording_start`. -/
def recordingArgs (screenIdx : String) (region : Option Rect) (micDeviceIndex : Option ℕ)
    (rawPath : String) : List String :=
  let input := micDeviceIndex.elim screenIdx fun micIdx ↦ screenIdx ++ ":" ++ toString micIdx
  ["-f", "avfoundation", "-capture_cursor", "1", "-capture_mouse_clicks", "1",
    "-framerate", "30"] ++ ["-i", input] ++ ["-vcodec", "libx264", "-preset", "ultrafast",
    "-pix_fmt", "yuv420p"] ++
    region.elim [] (fun r ↦ ["-vf", r.crop]) ++
    (if micDeviceIndex.isSome then ["-acodec", "aac", "-b:a", "128k"] else []) ++ [rawPath]

/-- `recording_start`, up to the start of ffmpeg, on the list of devices that is printed. -/
def recordingStart (t : Search.Lowercase) (listing : String) (region : Option Rect)
    (micDeviceIndex : Option ℕ) (rawPath : String) : List String :=
  recordingArgs (findScreenDeviceIndex t listing) region micDeviceIndex rawPath

/-- The video filter among some arguments, which are options with a value each. -/
def videoFilter : List String → Option String
  | option :: value :: rest => if option = "-vf" then some value else videoFilter rest
  | _ => none

/-! ## The panel -/

/-- The choice that the panel shows. -/
inductive AreaMode where
  | fullscreen
  | region
  deriving DecidableEq

/-- Where a `handleRecord` is. -/
inductive Phase where
  /-- The countdown shows a number. -/
  | counting (seconds : ℕ)
  /-- `recording_start` has been called. -/
  | starting
  /-- It has come to its end. -/
  | ended
  deriving DecidableEq

/-- A `handleRecord` that was begun, with what the panel was rendered with at the click. -/
structure RecordHandler where
  /-- The number of things that had happened before the click. -/
  click : ℕ
  /-- `region`. -/
  region : Option Rect
  /-- `micDeviceIndex`. -/
  micDeviceIndex : Option ℕ
  /-- Where it is. -/
  phase : Phase
  deriving DecidableEq

/-- A call of `recording_start`. -/
structure StartCall where
  /-- The number of things that had happened before the click. -/
  click : ℕ
  /-- The argument `region`. -/
  region : Option Rect
  /-- The argument `micDeviceIndex`. -/
  micDeviceIndex : Option ℕ
  deriving DecidableEq

/-- The state of the panel. -/
structure Panel where
  /-- `areaMode`. -/
  areaMode : AreaMode
  /-- `region`. -/
  region : Option Rect
  /-- `micEnabled`. -/
  micEnabled : Bool
  /-- `selectedMicIndex`. -/
  selectedMicIndex : Option ℕ
  /-- `countdown`. -/
  countdown : Option ℕ
  /-- The handlers that were begun. -/
  handlers : List RecordHandler
  /-- The calls of `recording_start`. -/
  calls : List StartCall
  /-- The window is open. -/
  isOpen : Bool
  /-- How many things have happened. -/
  time : ℕ
  deriving DecidableEq

/-- The first render. -/
def Panel.init : Panel := ⟨.fullscreen, none, false, none, none, [], [], true, 0⟩

/-- What may happen. -/
inductive PanelEvent where
  /-- The microphones have been listed. -/
  | listed (first : Option ℕ)
  /-- The switch of the microphone. -/
  | micEnabled (enabled : Bool)
  /-- A microphone is chosen. -/
  | micSelected (index : ℕ)
  /-- The radio for the full screen. -/
  | fullscreen
  /-- The radio for a region, which opens the other window. -/
  | selectRegion
  /-- The event `recording-region-selected`. -/
  | regionSelected (r : Rect)
  /-- The record button. -/
  | record
  /-- A second has passed for a handler. -/
  | second (i : ℕ)
  /-- The call of a handler has returned, and so has that of the pill, or one has failed. -/
  | returned (i : ℕ) (ok : Bool)
  deriving DecidableEq

/-- `handleRecord`, at the click. -/
def Panel.handleRecord (s : Panel) : Panel :=
  { s with
    countdown := some 3
    handlers := s.handlers ++
      [⟨s.time, s.region, if s.micEnabled then s.selectedMicIndex else none, .counting 3⟩] }

/-- `handleRecord`, after a second. -/
def Panel.second (s : Panel) (i : ℕ) (h : RecordHandler) : Option Panel :=
  match h.phase with
  | .counting 1 => some
    { s with
      countdown := none
      handlers := s.handlers.set i { h with phase := .starting }
      calls := s.calls ++ [⟨h.click, h.region, h.micDeviceIndex⟩] }
  | .counting (n + 2) => some
    { s with
      countdown := some (n + 1)
      handlers := s.handlers.set i { h with phase := .counting (n + 1) } }
  | _ => none

/-- `handleRecord`, after the calls. -/
def Panel.returned (s : Panel) (i : ℕ) (ok : Bool) (h : RecordHandler) : Option Panel :=
  if h.phase = .starting then
    let s := { s with handlers := s.handlers.set i { h with phase := .ended } }
    some (if ok then { s with isOpen := false } else { s with countdown := none })
  else none

/-- What happens, without the clock. -/
def Panel.next (s : Panel) : PanelEvent → Option Panel
  | .listed first => some (first.elim s fun i ↦ { s with selectedMicIndex := some i })
  | .micEnabled enabled => some { s with micEnabled := enabled }
  | .micSelected index => some { s with selectedMicIndex := some index }
  | .fullscreen => some { s with areaMode := .fullscreen }
  | .selectRegion => some s
  | .regionSelected r => some { s with region := some r, areaMode := .region }
  | .record => if s.countdown = none then some s.handleRecord else none
  | .second i => s.handlers[i]?.bind (s.second i)
  | .returned i ok => s.handlers[i]?.bind (s.returned i ok)

/-- One thing after another, as long as the window is open. -/
def panelStep (s : Panel) (a : PanelEvent) : Option Panel :=
  if s.isOpen then (s.next a).map fun t ↦ { t with time := t.time + 1 } else none

/-! ## The law -/

/-- The region of an event. -/
def PanelEvent.region? : PanelEvent → Option Rect
  | .regionSelected r => some r
  | _ => none

/-- The region that was selected last. -/
def lastRegion (as : List PanelEvent) : Option Rect := (as.filterMap PanelEvent.region?).getLast?

/-- What ffmpeg should crop to, after a click on the panel `s` that comes after `before`. -/
def chosen (before : List PanelEvent) (s : Panel) : Option Rect :=
  match s.areaMode with
  | .region => lastRegion before
  | .fullscreen => none

/-- **The recording covers what was chosen**: the panel that was clicked on showed the full screen,
and ffmpeg does not crop; or it showed the region, and ffmpeg crops to the one selected last. -/
def StartCall.Right (t : Search.Lowercase) (listing rawPath : String) (before : List PanelEvent)
    (s : Panel) (c : StartCall) : Prop :=
  videoFilter (recordingStart t listing c.region c.micDeviceIndex rawPath) =
    (chosen before s).map Rect.crop

/-! ## One step -/

section Step

variable {s t : Panel} {a : PanelEvent}

/-- **What a step does** with the choice, the handlers and the calls. -/
structure PanelChange (s : Panel) (a : PanelEvent) (t : Panel) : Prop where
  /-- The clock goes on. -/
  time : t.time = s.time + 1
  /-- The region is the one that was selected last. -/
  region : t.region = a.region?.or s.region
  /-- The panel does not show the region without one. -/
  areaMode : t.areaMode = .region → s.areaMode = .region ∨ a.region?.isSome
  /-- A handler was there, or is begun at this click. -/
  handlers : ∀ h ∈ t.handlers, (∃ h' ∈ s.handlers, h'.click = h.click ∧ h'.region = h.region) ∨
    a = .record ∧ h.click = s.time ∧ h.region = s.region
  /-- A call was made before, or is made by a handler. -/
  calls : ∀ c ∈ t.calls, c ∈ s.calls ∨ ∃ h ∈ s.handlers, c.click = h.click ∧ c.region = h.region

/-- Putting a handler back in another phase. -/
theorem mem_set_handler {hs : List RecordHandler} {i : ℕ} {h g : RecordHandler} {phase : Phase}
    (hi : hs[i]? = some h) (hg : g ∈ hs.set i { h with phase := phase }) :
    ∃ h' ∈ hs, h'.click = g.click ∧ h'.region = g.region := by
  rcases List.mem_or_eq_of_mem_set hg with hmem | rfl
  · exact ⟨g, hmem, rfl, rfl⟩
  · exact ⟨h, List.mem_of_getElem? hi, rfl, rfl⟩

theorem panelChange_of_second {i : ℕ} {h : RecordHandler} (hi : s.handlers[i]? = some h)
    (hs : s.second i h = some t) :
    PanelChange s (.second i) { t with time := t.time + 1 } := by
  unfold Panel.second at hs
  split at hs
  case h_1 =>
    cases hs
    refine ⟨rfl, rfl, .inl, fun g hg ↦ .inl (mem_set_handler hi hg), fun c hc ↦ ?_⟩
    rcases List.mem_append.mp hc with hc | hc
    · exact .inl hc
    · rw [List.mem_singleton.mp hc]
      exact .inr ⟨h, List.mem_of_getElem? hi, rfl, rfl⟩
  case h_2 =>
    cases hs
    exact ⟨rfl, rfl, .inl, fun g hg ↦ .inl (mem_set_handler hi hg), fun c hc ↦ .inl hc⟩
  case h_3 => cases hs

theorem panelChange_of_returned {i : ℕ} {ok : Bool} {h : RecordHandler}
    (hi : s.handlers[i]? = some h) (hs : s.returned i ok h = some t) :
    PanelChange s (.returned i ok) { t with time := t.time + 1 } := by
  unfold Panel.returned at hs
  split at hs
  · cases ok with
    | true =>
      cases hs
      exact ⟨rfl, rfl, .inl, fun g hg ↦ .inl (mem_set_handler hi hg), fun c hc ↦ .inl hc⟩
    | false =>
      cases hs
      exact ⟨rfl, rfl, .inl, fun g hg ↦ .inl (mem_set_handler hi hg), fun c hc ↦ .inl hc⟩
  · cases hs

theorem panelChange (hs : panelStep s a = some t) : PanelChange s a t := by
  have hkeep : ∀ h ∈ s.handlers, (∃ h' ∈ s.handlers, h'.click = h.click ∧ h'.region = h.region) ∨
      a = .record ∧ h.click = s.time ∧ h.region = s.region :=
    fun h hh ↦ .inl ⟨h, hh, rfl, rfl⟩
  rw [panelStep] at hs
  split at hs
  case isFalse => cases hs
  obtain ⟨r, hr, rfl⟩ := Option.map_eq_some_iff.mp hs
  cases a with
  | listed first =>
    cases hr
    cases first <;> exact ⟨rfl, rfl, .inl, hkeep, fun c hc ↦ .inl hc⟩
  | micEnabled enabled =>
    cases hr
    exact ⟨rfl, rfl, .inl, hkeep, fun c hc ↦ .inl hc⟩
  | micSelected index =>
    cases hr
    exact ⟨rfl, rfl, .inl, hkeep, fun c hc ↦ .inl hc⟩
  | fullscreen =>
    cases hr
    exact ⟨rfl, rfl, fun h ↦ (by cases h), hkeep, fun c hc ↦ .inl hc⟩
  | selectRegion =>
    cases hr
    exact ⟨rfl, rfl, .inl, hkeep, fun c hc ↦ .inl hc⟩
  | regionSelected r =>
    cases hr
    exact ⟨rfl, rfl, fun _ ↦ .inr rfl, hkeep, fun c hc ↦ .inl hc⟩
  | record =>
    rw [Panel.next] at hr
    split at hr
    · cases hr
      refine ⟨rfl, rfl, .inl, fun h hh ↦ ?_, fun c hc ↦ .inl hc⟩
      rcases List.mem_append.mp hh with hh | hh
      · exact hkeep h hh
      · rw [List.mem_singleton.mp hh]
        exact .inr ⟨rfl, rfl, rfl⟩
    · cases hr
  | second i =>
    obtain ⟨h, hi, hr⟩ := Option.bind_eq_some_iff.mp hr
    exact panelChange_of_second hi hr
  | returned i ok =>
    obtain ⟨h, hi, hr⟩ := Option.bind_eq_some_iff.mp hr
    exact panelChange_of_returned hi hr

end Step

/-! ## Runs -/

/-- A click is the one with some number, on a panel that had some region. -/
def ClickedWith (as : List PanelEvent) (click : ℕ) (region : Option Rect) : Prop :=
  ∃ before p post, as = before ++ .record :: post ∧ before.length = click ∧
    Machine.exec panelStep .init before = some p ∧ p.region = region

/-- **What holds all along a run.** -/
structure PanelKept (as : List PanelEvent) (s : Panel) : Prop where
  /-- It is a run. -/
  run : Machine.exec panelStep .init as = some s
  /-- The clock is right. -/
  time : s.time = as.length
  /-- The region is the one that was selected last. -/
  region : s.region = lastRegion as
  /-- The panel does not show the region without one. -/
  areaMode : s.areaMode = .region → s.region.isSome
  /-- A handler has the region that the panel had at the click. -/
  handlers : ∀ h ∈ s.handlers, ClickedWith as h.click h.region
  /-- A call has it, too. -/
  calls : ∀ c ∈ s.calls, ClickedWith as c.click c.region

section Runs

variable {as : List PanelEvent} {s t : Panel} {a : PanelEvent}

theorem ClickedWith.concat {click : ℕ} {region : Option Rect} (h : ClickedWith as click region)
    (a : PanelEvent) : ClickedWith (as ++ [a]) click region := by
  obtain ⟨before, p, post, rfl, hlength, hrun, hregion⟩ := h
  exact ⟨before, p, post ++ [a], by simp, hlength, hrun, hregion⟩

theorem lastRegion_concat (as : List PanelEvent) (a : PanelEvent) :
    lastRegion (as ++ [a]) = a.region?.or (lastRegion as) := by
  rw [lastRegion, List.filterMap_append, List.getLast?_append]
  cases ha : a.region? with
  | none => rw [List.filterMap_cons_none ha]; rfl
  | some r => rw [List.filterMap_cons_some ha]; rfl

theorem PanelKept.step (hk : PanelKept as s) (hs : panelStep s a = some t) :
    PanelKept (as ++ [a]) t := by
  have hchange := panelChange hs
  refine ⟨Machine.exec_concat_eq_some.mpr ⟨s, hk.run, hs⟩, ?_, ?_, fun hmode ↦ ?_, fun h hh ↦ ?_,
    fun c hc ↦ ?_⟩
  · rw [hchange.time, hk.time, List.length_append, List.length_singleton]
  · rw [hchange.region, hk.region, lastRegion_concat]
  · rw [hchange.region, Option.isSome_or, Bool.or_eq_true]
    exact (hchange.areaMode hmode).symm.imp id hk.areaMode
  · rcases hchange.handlers h hh with ⟨h', hh', hclick, hregion⟩ | ⟨rfl, hclick, hregion⟩
    · exact hclick ▸ hregion ▸ (hk.handlers h' hh').concat a
    · exact ⟨as, s, [], rfl, by rw [hclick, hk.time], hk.run, hregion.symm⟩
  · rcases hchange.calls c hc with hc | ⟨h, hh, hclick, hregion⟩
    · exact (hk.calls c hc).concat a
    · exact hclick ▸ hregion ▸ (hk.handlers h hh).concat a

theorem panelKept_of_exec (hrun : Machine.exec panelStep .init as = some s) : PanelKept as s :=
  Machine.history_of_exec (I := PanelKept)
    ⟨rfl, rfl, rfl, fun h ↦ (by cases h), fun _ h ↦ (by cases h), fun _ h ↦ by cases h⟩
    (fun _ _ _ _ hk hs ↦ hk.step hs) hrun

end Runs

/-! ## The filter -/

theorem videoFilter_cons_of_ne {option : String} (h : option ≠ "-vf") (value : String)
    (rest : List String) : videoFilter (option :: value :: rest) = videoFilter rest := by
  rw [videoFilter, if_neg h]

/-- **The filter is the crop to the region of the call.** -/
theorem videoFilter_recordingStart (t : Search.Lowercase) (listing : String)
    (region : Option Rect) (micDeviceIndex : Option ℕ) (rawPath : String) :
    videoFilter (recordingStart t listing region micDeviceIndex rawPath) =
      region.map Rect.crop := by
  have haudio : videoFilter ((if micDeviceIndex.isSome then ["-acodec", "aac", "-b:a", "128k"]
      else []) ++ [rawPath]) = none := by
    cases micDeviceIndex with
    | none => rfl
    | some micIdx =>
      rw [Option.isSome_some, if_pos rfl, List.cons_append, List.cons_append,
        videoFilter_cons_of_ne (by decide), List.cons_append, List.cons_append,
        videoFilter_cons_of_ne (by decide)]
      rfl
  simp only [recordingStart, recordingArgs, List.append_assoc, List.cons_append, List.nil_append]
  iterate 8 rw [videoFilter_cons_of_ne (by decide)]
  cases region with
  | none => exact haudio
  | some r => exact if_pos rfl

/-- **What a call has to do with the choice.**  Every call of `recording_start` belongs to a click,
and it is right if and only if the panel that was clicked on showed the region, or no region had
been selected before the click. -/
theorem right_iff (t : Search.Lowercase) (listing rawPath : String) (as : List PanelEvent)
    (s : Panel) (hrun : Machine.exec panelStep .init as = some s) (c : StartCall)
    (hc : c ∈ s.calls) :
    ∃ before p post, as = before ++ .record :: post ∧ before.length = c.click ∧
      Machine.exec panelStep .init before = some p ∧
        (c.Right t listing rawPath before p ↔
          p.areaMode = .region ∨ lastRegion before = none) := by
  obtain ⟨before, p, post, has, hlength, hbefore, hregion⟩ := (panelKept_of_exec hrun).calls c hc
  refine ⟨before, p, post, has, hlength, hbefore, ?_⟩
  have hlast : c.region = lastRegion before :=
    hregion.symm.trans (panelKept_of_exec hbefore).region
  rw [StartCall.Right, videoFilter_recordingStart, hlast, chosen]
  cases p.areaMode with
  | region => exact iff_of_true rfl (.inl rfl)
  | fullscreen => simp

/-- A region is selected, then the full screen, and then the recording is started. -/
def fullscreenAfterRegion : List PanelEvent :=
  [.regionSelected ⟨0, 0, 100, 50⟩, .fullscreen, .record, .second 0, .second 0, .second 0]

theorem right_iff_example :
    ∃ before p post, fullscreenAfterRegion = before ++ .record :: post ∧ before.length = 2 ∧
      Machine.exec panelStep .init before = some p ∧
        ((⟨2, some ⟨0, 0, 100, 50⟩, none⟩ : StartCall).Right .asciiOnly "" "/tmp/r.mp4" before p ↔
          p.areaMode = .region ∨ lastRegion before = none) := by
  obtain ⟨s, hrun, hc⟩ : ∃ s, Machine.exec panelStep .init fullscreenAfterRegion = some s ∧
      (⟨2, some ⟨0, 0, 100, 50⟩, none⟩ : StartCall) ∈ s.calls := ⟨_, rfl, by decide⟩
  exact right_iff .asciiOnly "" "/tmp/r.mp4" fullscreenAfterRegion s hrun _ hc

/-- The panel showed the full screen, and ffmpeg crops to the region. -/
theorem not_right :
    ∃ s p, Machine.exec panelStep .init fullscreenAfterRegion = some s ∧
      Machine.exec panelStep .init (fullscreenAfterRegion.take 2) = some p ∧
        p.areaMode = .fullscreen ∧ ∃ c ∈ s.calls, c.click = 2 ∧
          ¬ c.Right .asciiOnly "" "/tmp/r.mp4" (fullscreenAfterRegion.take 2) p := by
  refine ⟨_, _, rfl, rfl, rfl, ⟨2, some ⟨0, 0, 100, 50⟩, none⟩, by decide, rfl, ?_⟩
  rw [StartCall.Right, videoFilter_recordingStart]
  exact fun h ↦ by cases h

end WorkWithMe.Recorder
