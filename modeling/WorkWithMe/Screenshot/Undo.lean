import Mathlib.Data.List.Nodup
import WorkWithMe.Lib.History
import WorkWithMe.Lib.Machine

/-!
# Undo in the screenshot editor

The store of the editor keeps the annotations of the last twenty edits, and `undo` brings back those
of the last one.  The annotations drawn with the step tool are numbered, from a counter that
`handleStageMouseDown` increments in a call of its own, and that `undo` leaves as it is; where a new
capture is loaded it is set back together with the annotations.

* `history_edits`: the annotations are a bounded history, in the sense of `Lib/History.lean`, so
  that as many edits as it keeps can be taken back.
* `stepCounter_edits`: the counter is higher by the number of steps that were drawn.
* **`restored_iff`**: hence undoing everything restores the editor if and only if no step was drawn;
  and in every run the numbers are different, and below the one that comes next.
* `not_restored` is a step that is drawn and taken back.
-/

set_option autoImplicit false

universe u

namespace WorkWithMe.Screenshot

variable {ν : Type u}

/-! ## The store -/

/-- The tools. -/
inductive ToolType where
  | arrow
  | text
  | rect
  | highlight
  | blur
  | step
  deriving DecidableEq

/-- An annotation. -/
structure Annotation (ν : Type u) where
  /-- Its id. -/
  id : String
  /-- The tool it was drawn with. -/
  type : ToolType
  /-- `props.step`: the number of a step. -/
  step : Option ℕ
  /-- Where it is, and what it looks like. -/
  props : ν
  deriving DecidableEq

/-- The annotations of a picture. -/
abbrev Annotations (ν : Type u) := List ( Annotation ν)

/-- The part of the store that edits change. -/
structure EditorState (ν : Type u) where
  /-- The annotations. -/
  annotations : Annotations ν
  /-- Those before the last edits. -/
  undoStack : List (Annotations ν)
  /-- The number of the next step. -/
  stepCounter : ℕ
  deriving DecidableEq

namespace EditorState

/-- The store in the beginning, and when `reload-capture` has arrived. -/
def init : EditorState ν := ⟨[], [], 1⟩

/-- `pushAnnotation`. -/
def pushAnnotation (s : EditorState ν) (a : Annotation ν) : EditorState ν :=
  { s with
    undoStack := s.undoStack.drop (s.undoStack.length - 19) ++ [s.annotations]
    annotations := s.annotations ++ [a] }

/-- `deleteAnnotation`. -/
def deleteAnnotation (s : EditorState ν) (id : String) : EditorState ν :=
  { s with
    undoStack := s.undoStack.drop (s.undoStack.length - 19) ++ [s.annotations]
    annotations := s.annotations.filter fun a ↦ a.id ≠ id }

/-- `undo`. -/
def undo (s : EditorState ν) : EditorState ν :=
  match s.undoStack.getLast? with
  | none => s
  | some prev => { s with annotations := prev, undoStack := s.undoStack.dropLast }

/-- `incrementStepCounter`. -/
def incrementStepCounter (s : EditorState ν) : EditorState ν :=
  { s with stepCounter := s.stepCounter + 1 }

/-! ## Edits -/

/-- What may be done to the annotations. -/
inductive Edit (ν : Type u) where
  /-- One is drawn, with the active tool. -/
  | draw (activeTool : ToolType) (id : String) (props : ν)
  /-- The one that is selected is deleted. -/
  | delete (selectedId : String)

/-- A step is drawn. -/
def Edit.isStep : Edit ν → Bool
  | .draw .step _ _ => true
  | _ => false

/-- What comes of an edit. -/
def edit (s : EditorState ν) : Edit ν → EditorState ν
  | .draw .step id props =>
    incrementStepCounter ( pushAnnotation s ⟨id, .step, some s.stepCounter, props⟩)
  | .draw activeTool id props => pushAnnotation s ⟨id, activeTool, none, props⟩
  | .delete selectedId => deleteAnnotation s selectedId

/-- What comes of several. -/
def edits (s : EditorState ν) (es : List (Edit ν)) : EditorState ν := es.foldl edit s

/-- **The editor is restored**: the annotations, and the number of the next step. -/
structure Restored (s t : EditorState ν) : Prop where
  /-- The annotations are what they were. -/
  annotations : t.annotations = s.annotations
  /-- So is the number. -/
  stepCounter : t.stepCounter = s.stepCounter

/-! ## Runs -/

/-- What may be done in the editor. -/
inductive Move (ν : Type u) where
  /-- An edit. -/
  | edit (e : Edit ν)
  /-- The last one is taken back. -/
  | undo
  /-- `reload-capture` arrives. -/
  | reloadCapture

/-- One thing after another. -/
def step (s : EditorState ν) : Move ν → Option (EditorState ν)
  | .edit e => some (s.edit e)
  | .undo => some s.undo
  | .reloadCapture => some init

/-- The numbers of the steps. -/
def stepNumbers (annotations : Annotations ν) : List ℕ :=
  annotations.filterMap Annotation.step

/-- **The steps are numbered**, with numbers below the next one. -/
structure Numbered (next : ℕ) (annotations : Annotations ν) : Prop where
  /-- No number is there twice. -/
  nodup : (stepNumbers annotations).Nodup
  /-- The next one is greater. -/
  below : ∀ n ∈ stepNumbers annotations, n < next

/-- What holds of every editor. -/
structure Sound (s : EditorState ν) : Prop where
  /-- Twenty edits can be taken back, at most. -/
  bounded : s.undoStack.length ≤ 20
  /-- The steps in the picture are numbered. -/
  numbered : Numbered s.stepCounter s.annotations

/-! ## Taking back -/

/-- The annotations, as a history. -/
def history (s : EditorState ν) : History (Annotations ν) := ⟨s.annotations, s.undoStack⟩

theorem history_edit (s : EditorState ν) (e : Edit ν) :
    (s.edit e).history = s.history.push 20 (s.edit e).annotations := by
  cases e with
  | draw activeTool id props => cases activeTool <;> rfl
  | delete selectedId => rfl

theorem history_undo (s : EditorState ν) : s.undo.history = s.history.undo := by
  rw [undo, History.undo, history]
  cases hlast : s.undoStack.getLast? <;> simp [history, hlast]

theorem stepCounter_undo (s : EditorState ν) : s.undo.stepCounter = s.stepCounter := by
  rw [undo]
  split <;> rfl

theorem stepCounter_edit (s : EditorState ν) (e : Edit ν) :
    (s.edit e).stepCounter = s.stepCounter + [e].countP Edit.isStep := by
  cases e with
  | draw activeTool id props => cases activeTool <;> rfl
  | delete selectedId => rfl

/-- **The annotations are a bounded history.** -/
theorem history_edits (s : EditorState ν) (es : List (Edit ν)) :
    ∃ vs : List (Annotations ν), vs.length = es.length ∧
      (s.edits es).history = vs.foldl (History.push 20) s.history := by
  induction es generalizing s with
  | nil => exact ⟨[], rfl, rfl⟩
  | cons e es ih =>
    obtain ⟨vs, hlength, hvs⟩ := ih (s.edit e)
    refine ⟨(s.edit e).annotations :: vs, by rw [List.length_cons, hlength, List.length_cons], ?_⟩
    rw [List.foldl_cons, ← history_edit]
    exact hvs

theorem history_undo_iterate (s : EditorState ν) (n : ℕ) :
    (undo^[n] s).history = History.undo^[n] s.history := by
  induction n generalizing s with
  | zero => rfl
  | succ n ih =>
    rw [Function.iterate_succ_apply, Function.iterate_succ_apply, ih, history_undo]

/-- **The counter counts the steps.** -/
theorem stepCounter_edits (s : EditorState ν) (es : List (Edit ν)) :
    (s.edits es).stepCounter = s.stepCounter + es.countP Edit.isStep := by
  induction es generalizing s with
  | nil => rfl
  | cons e es ih =>
    have hcons : s.edits (e :: es) = (s.edit e).edits es := rfl
    rw [hcons, ih, stepCounter_edit, Nat.add_assoc, ← List.countP_append, List.singleton_append]

theorem stepCounter_undo_iterate (s : EditorState ν) (n : ℕ) :
    (undo^[n] s).stepCounter = s.stepCounter := by
  induction n generalizing s with
  | zero => rfl
  | succ n ih => rw [Function.iterate_succ_apply, ih, stepCounter_undo]

/-- **Up to twenty edits can be taken back**, as far as the annotations go. -/
theorem annotations_undo_edits (s : EditorState ν) {es : List (Edit ν)} (hlength : es.length ≤ 20) :
    (undo^[es.length] (s.edits es)).annotations = s.annotations := by
  obtain ⟨vs, hvs, hhistory⟩ := history_edits s es
  have hundo := history_undo_iterate (s.edits es) es.length
  rw [hhistory, ← hvs] at hundo
  have hcurrent := History.current_undo_iterate_push (h := s.history) (hvs.trans_le hlength)
  rw [← hundo, hvs] at hcurrent
  exact hcurrent

/-! ## The numbers -/

/-- A list of annotations and those before it are all numbered. -/
structure AllNumbered (s : EditorState ν) : Prop where
  /-- There are not too many. -/
  bounded : s.undoStack.length ≤ 20
  /-- The annotations are numbered. -/
  current : Numbered s.stepCounter s.annotations
  /-- So are those before the last edits. -/
  stack : ∀ annotations ∈ s.undoStack, Numbered s.stepCounter annotations

theorem allNumbered_init : AllNumbered (init : EditorState ν) where
  bounded := Nat.zero_le 20
  current := ⟨List.nodup_nil, List.forall_mem_nil _⟩
  stack := List.forall_mem_nil _

theorem Numbered.mono {next next' : ℕ} {annotations : Annotations ν}
    (h : Numbered next annotations) (hle : next ≤ next') : Numbered next' annotations :=
  ⟨h.nodup, fun n hn ↦ (h.below n hn).trans_le hle⟩

/-- Some of the annotations. -/
theorem Numbered.sublist {next : ℕ} {annotations annotations' : Annotations ν}
    (h : Numbered next annotations) (hsub : annotations'.Sublist annotations) :
    Numbered next annotations' :=
  ⟨h.nodup.sublist (hsub.filterMap _), fun n hn ↦ h.below n ((hsub.filterMap _).subset hn)⟩

/-- One more, without a number. -/
theorem Numbered.append_none {next : ℕ} {annotations : Annotations ν} {a : Annotation ν}
    (h : Numbered next annotations) (ha : a.step = none) : Numbered next (annotations ++ [a]) := by
  have hsame : stepNumbers (annotations ++ [a]) = stepNumbers annotations := by
    rw [stepNumbers, List.filterMap_append, List.filterMap_cons_none ha]
    exact List.append_nil _
  exact ⟨hsame ▸ h.nodup, hsame ▸ h.below⟩

/-- One more, with the next number. -/
theorem Numbered.append_next {next : ℕ} {annotations : Annotations ν} {a : Annotation ν}
    (h : Numbered next annotations) (ha : a.step = some next) :
    Numbered (next + 1) (annotations ++ [a]) := by
  have hnumbers : stepNumbers (annotations ++ [a]) = stepNumbers annotations ++ [next] := by
    rw [stepNumbers, List.filterMap_append, List.filterMap_cons_some ha]
    rfl
  constructor
  · rw [hnumbers, List.nodup_append]
    refine ⟨h.nodup, List.nodup_singleton next, fun n hn m hm ↦ ?_⟩
    have := h.below n hn
    rw [List.mem_singleton.mp hm]
    omega
  · rw [hnumbers]
    intro n hn
    rcases List.mem_append.mp hn with hn | hn
    · exact (h.below n hn).trans (Nat.lt_succ_self next)
    · rw [List.mem_singleton.mp hn]
      exact Nat.lt_succ_self next

/-- An edit that leaves the annotations numbered. -/
theorem AllNumbered.edit {s : EditorState ν} (h : AllNumbered s) {e : Edit ν}
    (hcurrent : Numbered (s.edit e).stepCounter (s.edit e).annotations) :
    AllNumbered (s.edit e) := by
  have hstack : (s.edit e).undoStack =
      s.undoStack.drop (s.undoStack.length - 19) ++ [s.annotations] :=
    congrArg History.stack (history_edit s e)
  have hle : s.stepCounter ≤ (s.edit e).stepCounter := by
    rw [stepCounter_edit]
    exact Nat.le_add_right ..
  refine ⟨?_, hcurrent, fun annotations hmem ↦ ?_⟩
  · have hlength := History.length_stack_push_le (by decide : 0 < 20) s.history
      (s.edit e).annotations
    rwa [← history_edit] at hlength
  · rw [hstack] at hmem
    rcases List.mem_append.mp hmem with hmem | hmem
    · exact (h.stack annotations (List.mem_of_mem_drop hmem)).mono hle
    · rw [List.mem_singleton.mp hmem]
      exact h.current.mono hle

theorem AllNumbered.undo {s : EditorState ν} (h : AllNumbered s) : AllNumbered s.undo := by
  have hbounded : s.undo.undoStack.length ≤ 20 := by
    have hle := History.length_stack_undo_le s.history
    rw [← history_undo] at hle
    exact hle.trans h.bounded
  rw [EditorState.undo] at hbounded ⊢
  split
  · exact h
  · rename_i prev hlast
    rw [hlast] at hbounded
    exact ⟨hbounded, h.stack prev (List.mem_of_getLast? hlast),
      fun annotations hmem ↦ h.stack annotations (List.mem_of_mem_dropLast hmem)⟩

/-- **One step**: the annotations there are and those kept are numbered. -/
theorem AllNumbered.step {s t : EditorState ν} {m : Move ν} (h : AllNumbered s)
    (hstep : s.step m = some t) : AllNumbered t := by
  cases m with
  | edit e =>
    obtain rfl := Option.some.inj hstep
    refine h.edit ?_
    cases e with
    | draw activeTool id props =>
      cases activeTool with
      | step => exact h.current.append_next rfl
      | _ => exact h.current.append_none rfl
    | delete selectedId => exact h.current.sublist List.filter_sublist
  | undo =>
    obtain rfl := Option.some.inj hstep
    exact h.undo
  | reloadCapture =>
    obtain rfl := Option.some.inj hstep
    exact allNumbered_init

/-! ## The law -/

/-- **Undoing everything restores the editor if and only if no step was drawn**, and in every run
the steps are numbered and no more than twenty edits can be taken back. -/
theorem restored_iff (ν : Type u) :
    (∀ (s : EditorState ν) (es : List (Edit ν)), es.length ≤ 20 →
      (Restored s (undo^[es.length] (s.edits es)) ↔ ∀ e ∈ es, e.isStep = false)) ∧
    ∀ (ms : List (Move ν)) (s : EditorState ν), Machine.exec step init ms = some s → Sound s := by
  constructor
  · intro s es hlength
    have hcounter := (stepCounter_undo_iterate (s.edits es) es.length).trans
      (stepCounter_edits s es)
    constructor
    · intro h
      have hzero : es.countP Edit.isStep = 0 := by
        rw [h.stepCounter] at hcounter
        omega
      intro e he
      exact Bool.eq_false_iff.mpr (List.countP_eq_zero.mp hzero e he)
    · intro hnone
      have hzero : es.countP Edit.isStep = 0 :=
        List.countP_eq_zero.mpr fun e he ↦ by simp [hnone e he]
      exact ⟨annotations_undo_edits s hlength, by rw [hcounter, hzero, Nat.add_zero]⟩
  · intro ms s hrun
    have h := Machine.inv_of_exec (fun _ _ _ h ht ↦ h.step ht) allNumbered_init hrun
    exact ⟨h.bounded, h.current⟩

/-- An arrow that is drawn and taken back. -/
theorem restored_iff_example : ([.draw .arrow "a" ()] : List (Edit Unit)).length ≤ 20 ∧
    Restored init (undo^[1] (init.edits [.draw .arrow "a" ()])) :=
  ⟨by decide, ((restored_iff Unit).1 init [.draw .arrow "a" ()] (by decide)).mpr (by decide)⟩

/-- **A step that is drawn and taken back**: the next one gets the number 2. -/
theorem not_restored : ¬ ∀ (s : EditorState Unit) (es : List (Edit Unit)), es.length ≤ 20 →
    Restored s (undo^[es.length] (s.edits es)) := by
  intro hall
  have h := (hall init [.draw .step "a" ()] (by decide)).stepCounter
  exact absurd h (by decide)

end EditorState

end WorkWithMe.Screenshot
