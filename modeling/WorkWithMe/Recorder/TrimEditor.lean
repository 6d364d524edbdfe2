import Mathlib.Data.List.Nodup
import WorkWithMe.Lib.Machine

/-!
# The way of a recording to the trim editor

`open_trim_editor` puts the path of a recording into a mailbox with room for one and makes the
window of the editor, or brings it to the front if it is there.  The editor takes the path out of
the mailbox when it is mounted, and never again.

A run is any sequence of calls, mounts and closings of the window; a window that is closed before it
is mounted, and one that cannot be made, are among them.

* `Law` is that no path is overwritten before it is read, that none is read twice, and that an
  editor shows the last path that was passed on.  It does not hold where the second recording ends
  while the editor of the first is open: `not_editorLaw`.
* **`editorLaw_iff_guarded`** says that it holds in the runs whose calls all find neither a window
  nor a path in the mailbox.
-/

set_option autoImplicit false

namespace WorkWithMe.Recorder

/-! ## The window and the mailbox -/

/-- The window of the trim editor. -/
inductive Editor where
  /-- It has been made, and is not mounted yet. -/
  | created
  /-- It is mounted, with `rawPath`. -/
  | mounted (rawPath : Option String)
  deriving DecidableEq

/-- What the program has of the trim editor, and what has happened so far. -/
structure Desk where
  /-- `PENDING_TRIM_PATH`. -/
  pending : Option String
  /-- The window `trim-editor`. -/
  window : Option Editor
  /-- The paths that `open_trim_editor` was called with. -/
  opened : List String
  /-- The paths that `recording_get_trim_path` has handed out. -/
  reads : List String
  deriving DecidableEq

/-- The program starts. -/
def Desk.init : Desk := ⟨none, none, [], []⟩

/-- `open_trim_editor`; `made` says whether a window can be made. -/
def openTrimEditor (rawPath : String) (made : Bool) (s : Desk) : Desk :=
  let s := { s with pending := some rawPath, opened := s.opened ++ [rawPath] }
  match s.window with
  | some _ => s
  | none => if made then { s with window := some .created } else s

/-- `recording_get_trim_path`. -/
def recordingGetTrimPath (s : Desk) : Option String × Desk :=
  (s.pending, { s with pending := none, reads := s.reads ++ s.pending.toList })

/-- The effect of `TrimEditor` when it is mounted.  An empty path counts as none. -/
def mountEditor (s : Desk) : Desk :=
  let (path, s) := recordingGetTrimPath s
  { s with window := some (.mounted (path.filter fun p ↦ p ≠ "")) }

/-- What may happen. -/
inductive DeskEvent where
  /-- A recording has ended. -/
  | opens (rawPath : String) (made : Bool)
  /-- The window that was made is mounted. -/
  | mount
  /-- The window is closed. -/
  | close
  deriving DecidableEq

/-- One thing after another. -/
def deskStep (s : Desk) : DeskEvent → Option Desk
  | .opens rawPath made => some (openTrimEditor rawPath made s)
  | .mount => if s.window = some .created then some (mountEditor s) else none
  | .close => if s.window.isSome then some { s with window := none } else none

/-! ## The law -/

/-- An editor that is mounted shows the path that was passed on last. -/
def ShowsLast (s : Desk) : Prop :=
  ∀ rawPath, s.window = some (.mounted rawPath) → rawPath = s.opened.getLast?

/-- A call finds no path in the mailbox. -/
def FindsNone (s : Desk) (a : DeskEvent) : Prop :=
  ∀ rawPath made, a = .opens rawPath made → s.pending = none

/-- The path of a call. -/
def DeskEvent.path? : DeskEvent → Option String
  | .opens rawPath _ => some rawPath
  | _ => none

/-- **Every recording reaches an editor.** -/
structure EditorLaw (as : List DeskEvent) : Prop where
  /-- No path is overwritten before it is read. -/
  notOverwritten : ∀ pre a post s, as = pre ++ a :: post →
    Machine.exec deskStep .init pre = some s → FindsNone s a
  /-- No path is read twice. -/
  readOnce : ∀ pre post s, as = pre ++ post → Machine.exec deskStep .init pre = some s →
    s.reads.Nodup
  /-- An editor shows the last path. -/
  showsLast : ∀ pre post s, as = pre ++ post → Machine.exec deskStep .init pre = some s →
    ShowsLast s

/-- **What may be done**: a call where there is neither a window nor a path in the mailbox, and a
mount where the path is not empty. -/
def EditorAllowed (s : Desk) : DeskEvent → Prop
  | .opens _ _ => s.window = none ∧ s.pending = none
  | .mount => s.pending ≠ some ""
  | .close => True

/-! ## The invariant -/

/-- A window that is not mounted yet has the last path waiting for it, and what has been read or
waits was passed on, each once. -/
structure Tidy (s : Desk) : Prop where
  /-- What waits is the last path. -/
  pending : ∀ p ∈ s.pending, s.opened.getLast? = some p
  /-- Something waits for a window that is not mounted. -/
  created : s.window = some .created → s.pending.isSome
  /-- What has been read or waits was passed on. -/
  mem : ∀ p ∈ s.reads ++ s.pending.toList, p ∈ s.opened
  /-- Nothing twice. -/
  nodup : (s.reads ++ s.pending.toList).Nodup

/-- The path of a call is new. -/
def NewPath (s : Desk) (a : DeskEvent) : Prop := ∀ p ∈ a.path?, p ∉ s.opened

section Tidy

variable {s t : Desk} {a : DeskEvent}

theorem tidy_init : Tidy .init := ⟨by simp [Desk.init], by simp [Desk.init], by simp [Desk.init],
  by simp [Desk.init]⟩

theorem deskStep_opens_cases {rawPath : String} {made : Bool}
    (h : deskStep s (.opens rawPath made) = some t) :
    t.pending = some rawPath ∧ t.opened = s.opened ++ [rawPath] ∧ t.reads = s.reads ∧
      (t.window = s.window ∨ s.window = none ∧ t.window = some .created) := by
  obtain rfl : openTrimEditor rawPath made s = t := Option.some.inj h
  unfold openTrimEditor
  cases hw : s.window with
  | some w => exact ⟨rfl, rfl, rfl, .inl rfl⟩
  | none =>
    cases made with
    | true => exact ⟨rfl, rfl, rfl, .inr ⟨rfl, rfl⟩⟩
    | false => exact ⟨rfl, rfl, rfl, .inl rfl⟩

theorem deskStep_mount_cases (h : deskStep s .mount = some t) :
    s.window = some .created ∧ t.pending = none ∧ t.opened = s.opened ∧
      t.reads = s.reads ++ s.pending.toList ∧
        t.window = some (.mounted (s.pending.filter fun p ↦ p ≠ "")) := by
  rw [deskStep] at h
  split at h
  · rename_i hw
    cases h
    exact ⟨hw, rfl, rfl, rfl, rfl⟩
  · cases h

theorem deskStep_close_cases (h : deskStep s .close = some t) :
    t = { s with window := none } := by
  rw [deskStep] at h
  split at h
  · exact (Option.some.inj h).symm
  · cases h

theorem Tidy.step (hs : Tidy s) (hnew : NewPath s a) (h : deskStep s a = some t) : Tidy t := by
  cases a with
  | opens rawPath made =>
    obtain ⟨hpending, hopened, hreads, -⟩ := deskStep_opens_cases h
    have hread : ∀ p ∈ s.reads, p ∈ s.opened := fun p hp ↦ hs.mem p (List.mem_append_left _ hp)
    have hfresh : rawPath ∉ s.reads := fun hp ↦ hnew rawPath rfl (hread rawPath hp)
    refine ⟨fun p hp ↦ ?_, fun _ ↦ by rw [hpending]; rfl, fun p hp ↦ ?_, ?_⟩
    · rw [hpending] at hp
      cases hp
      rw [hopened, List.getLast?_concat]
    · rw [hreads, hpending, List.mem_append] at hp
      rw [hopened]
      exact List.mem_append.mpr (hp.imp (hread p) id)
    · rw [hreads, hpending]
      exact (List.nodup_append.mp hs.nodup).1.append (List.nodup_singleton _)
        (List.disjoint_singleton.mpr hfresh)
  | mount =>
    obtain ⟨-, hpending, hopened, hreads, hwindow⟩ := deskStep_mount_cases h
    have hall : t.reads ++ t.pending.toList = s.reads ++ s.pending.toList := by
      rw [hreads, hpending]
      exact List.append_nil _
    refine ⟨?_, ?_, ?_, ?_⟩
    · simp [hpending]
    · simp [hwindow]
    · rw [hall, hopened]
      exact hs.mem
    · rw [hall]
      exact hs.nodup
  | close =>
    obtain rfl := deskStep_close_cases h
    exact ⟨hs.pending, fun hw ↦ (by cases hw), hs.mem, hs.nodup⟩

/-- **One step**: it is within the law if and only if it is allowed. -/
theorem showsLast_and_findsNone_iff (hs : Tidy s) (hlast : ShowsLast s) (hnew : NewPath s a)
    (h : deskStep s a = some t) : ShowsLast t ∧ FindsNone s a ↔ EditorAllowed s a := by
  cases a with
  | opens rawPath made =>
    obtain ⟨-, hopened, -, hwindow⟩ := deskStep_opens_cases h
    have hfinds : FindsNone s (.opens rawPath made) ↔ s.pending = none :=
      ⟨fun h ↦ h rawPath made rfl, fun h _ _ _ ↦ h⟩
    rw [hfinds, EditorAllowed, and_congr_left_iff]
    intro hnone
    constructor
    · -- a window that is there shows another path, or none
      intro hshows
      rcases hwindow with hsame | ⟨hnowindow, -⟩
      · match hw : s.window with
        | none => rfl
        | some .created =>
          have hsome := hs.created hw
          rw [hnone] at hsome
          cases hsome
        | some (.mounted shown) =>
          have hold := hlast shown hw
          have hnow := hshows shown (hsame.trans hw)
          rw [hopened, List.getLast?_concat] at hnow
          rw [hold] at hnow
          exact absurd (List.mem_of_getLast? hnow) (hnew rawPath rfl)
      · exact hnowindow
    · intro hnowindow shown hshown
      rcases hwindow with hsame | ⟨-, hmade⟩
      · rw [hsame, hnowindow] at hshown
        cases hshown
      · rw [hmade] at hshown
        cases hshown
  | mount =>
    obtain ⟨hwindow, -, hopened, -, hmounted⟩ := deskStep_mount_cases h
    obtain ⟨p, hp⟩ := Option.isSome_iff_exists.mp (hs.created hwindow)
    have hlastp : s.opened.getLast? = some p := hs.pending p hp
    have hfinds : FindsNone s .mount := fun _ _ h ↦ by cases h
    have hshows : ShowsLast t ↔ (some p).filter (fun q ↦ q ≠ "") = some p := by
      rw [ShowsLast, hmounted, hopened, hlastp, hp]
      exact ⟨fun h ↦ h _ rfl, fun h _ hr ↦ by cases hr; exact h⟩
    rw [and_iff_left hfinds, hshows, EditorAllowed, hp]
    by_cases hempty : p = ""
    · simp [hempty]
    · simp [hempty]
  | close =>
    obtain rfl := deskStep_close_cases h
    exact iff_of_true ⟨fun _ h ↦ (by cases h), fun _ _ h ↦ by cases h⟩ trivial

end Tidy

/-! ## Runs -/

section Runs

variable {as : List DeskEvent} {s : Desk}

theorem opened_of_exec (hrun : Machine.exec deskStep .init as = some s) :
    s.opened = as.filterMap DeskEvent.path? := by
  refine Machine.history_of_exec (I := fun as s ↦ s.opened = as.filterMap DeskEvent.path?) rfl
    (fun as s a t hs h ↦ ?_) hrun
  rw [List.filterMap_append]
  cases a with
  | opens rawPath made => exact hs ▸ (deskStep_opens_cases h).2.1
  | mount =>
    rw [(deskStep_mount_cases h).2.2.1, hs]
    exact (List.append_nil _).symm
  | close =>
    rw [deskStep_close_cases h]
    exact hs.trans (List.append_nil _).symm

theorem guarded_newPath (hdistinct : (as.filterMap DeskEvent.path?).Nodup) :
    Machine.Guarded deskStep NewPath .init as := by
  rw [Machine.guarded_iff]
  rintro pre a post t rfl hrun p hp
  rw [opened_of_exec hrun]
  rw [List.filterMap_append, List.filterMap_cons_some hp] at hdistinct
  exact fun hmem ↦ (List.disjoint_of_nodup_append hdistinct) hmem List.mem_cons_self

theorem editorLaw_iff (hdistinct : (as.filterMap DeskEvent.path?).Nodup)
    (hrun : Machine.exec deskStep .init as = some s) :
    EditorLaw as ↔ Machine.Guarded deskStep EditorAllowed .init as := by
  have hnew := guarded_newPath hdistinct
  have htidy : ∀ pre post r, as = pre ++ post → Machine.exec deskStep .init pre = some r →
      Tidy r := by
    rintro pre post r rfl hr
    exact Machine.inv_of_guarded (fun s a t hs hn h ↦ hs.step hn h) tidy_init
      (Machine.guarded_append.mp hnew).1 hr
  have hiff := Machine.inv_and_law_iff_guarded (N := NewPath) (G := EditorAllowed)
    (I := fun s ↦ Tidy s ∧ ShowsLast s) (L := FindsNone)
    (fun s a t hs hn h ↦ by
      rw [and_iff_right (hs.1.step hn h), showsLast_and_findsNone_iff hs.1 hs.2 hn h])
    ⟨tidy_init, fun _ h ↦ by cases h⟩ hnew hrun
  rw [← hiff]
  constructor
  · intro hlaw
    exact ⟨fun pre post r has hr ↦ ⟨htidy pre post r has hr, hlaw.showsLast pre post r has hr⟩,
      hlaw.notOverwritten⟩
  · rintro ⟨hinv, hlaw⟩
    refine ⟨hlaw, fun pre post r has hr ↦ ?_, fun pre post r has hr ↦ (hinv pre post r has hr).2⟩
    exact (List.nodup_append.mp (htidy pre post r has hr).nodup).1

end Runs

/-- **When every recording reaches an editor.**  Among runs with different paths these are the ones
in which every call finds neither a window nor a path in the mailbox, and no mount an empty path. -/
theorem editorLaw_iff_guarded (as : List DeskEvent) (s : Desk)
    (hdistinct : (as.filterMap DeskEvent.path?).Nodup)
    (hrun : Machine.exec deskStep .init as = some s) :
    EditorLaw as ↔ Machine.Guarded deskStep EditorAllowed .init as :=
  editorLaw_iff hdistinct hrun

/-- The second recording ends while the editor of the first is open. -/
def overlappingRecordings : List DeskEvent :=
  [.opens "/tmp/a.mp4" true, .mount, .opens "/tmp/b.mp4" true]

theorem editorLaw_iff_guarded_example :
    EditorLaw overlappingRecordings ↔
      Machine.Guarded deskStep EditorAllowed .init overlappingRecordings :=
  editorLaw_iff_guarded overlappingRecordings
    ⟨some "/tmp/b.mp4", some (.mounted (some "/tmp/a.mp4")), ["/tmp/a.mp4", "/tmp/b.mp4"],
      ["/tmp/a.mp4"]⟩ (by decide) (by decide)

/-- The editor that is open goes on showing the first recording. -/
theorem not_editorLaw : ¬ EditorLaw overlappingRecordings := by
  intro hlaw
  have hshows := hlaw.showsLast overlappingRecordings [] _ (List.append_nil _).symm rfl _ rfl
  exact absurd hshows (by decide)

end WorkWithMe.Recorder
