import Mathlib.Data.List.Basic
import Mathlib.Data.List.Nodup
import WorkWithMe.Lib.Machine

/-!
# Saving a while after the last edit

`useDebouncedSave` gives a component a function `schedule`: each call restarts a timer with the
value it is given, and the value is saved when the timer fires, or when the component goes away
before that.  The two ways to `save` share two refs, one for the timer and one for the value.

A run is any sequence of calls, expiries and at most one unmount.  The calls may go on after the
unmount, since whoever has the function may keep it; and a timer may fire at any time as long as it
has not been cleared, so every order that some delays allow is a run.

* `Kept` is the invariant: at most one timer is set, and then the two refs are its number and the
  value it will save; if none is set, the last value has been saved.
* **`losesNothing`** is that the values are saved in order and at most once, that one is skipped
  only where a later call came before its timer fired, and that the last one before the unmount has
  been saved after it.
-/

set_option autoImplicit false

namespace WorkWithMe.Client.DebouncedSave

universe u

variable {T : Type u}

/-! ## The hook -/

/-- The state of the hook.  A timer has the number of the call that has set it, and a value is kept
with that number, which the program does not see. -/
structure Hook (T : Type u) where
  /-- `timerRef.current`. -/
  timerRef : Option ℕ
  /-- `pendingRef.current`. -/
  pendingRef : Option (T × ℕ)
  /-- The timers that are set, with the values they will save. -/
  timers : List (T × ℕ)
  /-- How many timers have been set. -/
  count : ℕ
  /-- The component is there. -/
  mounted : Bool
  /-- The values that `save` has been called with. -/
  saved : List (T × ℕ)

/-- The first render. -/
def Hook.init : Hook T := ⟨none, none, [], 0, true, []⟩

/-- `clearTimeout(timerRef.current)`, if there is one. -/
def Hook.clearTimer (h : Hook T) : List (T × ℕ) :=
  h.timerRef.elim h.timers fun i ↦ h.timers.filter fun p ↦ p.2 ≠ i

/-- `flush`. -/
def Hook.flush (h : Hook T) : Hook T :=
  { h with
    timerRef := none
    pendingRef := none
    timers := h.clearTimer
    saved := h.saved ++ h.pendingRef.toList }

/-- `schedule`. -/
def Hook.schedule (h : Hook T) (value : T) : Hook T :=
  { h with
    timerRef := some h.count
    pendingRef := some (value, h.count)
    timers := h.clearTimer ++ [(value, h.count)]
    count := h.count + 1 }

/-- A timer fires. -/
def Hook.fire (h : Hook T) (p : T × ℕ) : Hook T :=
  { h with
    timerRef := none
    pendingRef := none
    timers := h.timers.filter fun q ↦ q.2 ≠ p.2
    saved := h.saved ++ [p] }

/-- What may happen. -/
inductive Event (T : Type u) where
  /-- The component calls the function. -/
  | schedule (value : T)
  /-- The timer with a number fires. -/
  | expire (i : ℕ)
  /-- The component goes away. -/
  | unmount

/-- One thing after another. -/
def step (h : Hook T) : Event T → Option (Hook T)
  | .schedule value => some (h.schedule value)
  | .expire i => (h.timers.find? fun p ↦ p.2 = i).map h.fire
  | .unmount => if h.mounted then some { h.flush with mounted := false } else none

/-! ## The law -/

/-- The value of a call. -/
def Event.value? : Event T → Option T
  | .schedule value => some value
  | _ => none

/-- The values that a run schedules. -/
def scheduled (as : List (Event T)) : List T := as.filterMap Event.value?

/-- The values that a run schedules, with their numbers. -/
def numbered (as : List (Event T)) : List (T × ℕ) := (scheduled as).zipIdx

/-- A value is scheduled and its timer has not fired since. -/
def Waiting (as : List (Event T)) (p : T × ℕ) : Prop :=
  ∃ pre mid, as = pre ++ .schedule p.1 :: mid ∧ (scheduled pre).length = p.2 ∧ .expire p.2 ∉ mid

/-- A value is scheduled, and another one before the timer of the first has fired. -/
def Superseded (as : List (Event T)) (p : T × ℕ) : Prop :=
  ∃ pre w post, as = pre ++ .schedule w :: post ∧ Waiting pre p

/-- **Nothing is lost.** -/
structure Law (as : List (Event T)) (h : Hook T) : Prop where
  /-- The values are saved in the order in which they were scheduled. -/
  inOrder : h.saved.Sublist (numbered as)
  /-- No call is saved twice. -/
  once : h.saved.Nodup
  /-- A value that is not saved and has no timer has been superseded. -/
  skipped : ∀ p ∈ numbered as, p ∉ h.saved → p ∉ h.timers → Superseded as p
  /-- The last value before the unmount is saved. -/
  flushed : ∀ pre post, as = pre ++ .unmount :: post →
    ∀ p ∈ (numbered pre).getLast?, p ∈ h.saved

/-! ## Runs that go on -/

section Runs

variable {as : List (Event T)} {p : T × ℕ}

theorem numbered_concat_schedule (as : List (Event T)) (v : T) :
    numbered (as ++ [.schedule v]) = numbered as ++ [(v, (scheduled as).length)] := by
  have h : scheduled (as ++ [.schedule v]) = scheduled as ++ [v] := List.filterMap_append ..
  rw [numbered, h, List.zipIdx_append, Nat.zero_add]
  rfl

theorem scheduled_concat {a : Event T} (ha : a.value? = none) (as : List (Event T)) :
    scheduled (as ++ [a]) = scheduled as := by
  rw [scheduled, List.filterMap_append, List.filterMap_cons_none ha, List.filterMap_nil,
    List.append_nil]
  rfl

theorem numbered_concat {a : Event T} (ha : a.value? = none) (as : List (Event T)) :
    numbered (as ++ [a]) = numbered as := by
  rw [numbered, scheduled_concat ha]
  rfl

theorem nodup_numbered (as : List (Event T)) : (numbered as).Nodup := by
  refine List.Nodup.of_map Prod.snd ?_
  rw [numbered, List.zipIdx_map_snd]
  exact List.nodup_range'

theorem Superseded.concat (h : Superseded as p) (a : Event T) : Superseded (as ++ [a]) p := by
  obtain ⟨pre, w, post, rfl, hw⟩ := h
  exact ⟨pre, w, post ++ [a], by simp, hw⟩

theorem Waiting.superseded (h : Waiting as p) (w : T) : Superseded (as ++ [.schedule w]) p :=
  ⟨as, w, [], rfl, h⟩

theorem waiting_schedule (as : List (Event T)) (v : T) :
    Waiting (as ++ [.schedule v]) (v, (scheduled as).length) :=
  ⟨as, [], rfl, rfl, List.not_mem_nil⟩

end Runs

/-! ## The invariant -/

/-- No timer is set: the last value has been saved. -/
structure Idle (as : List (Event T)) (h : Hook T) : Prop where
  /-- There is no timer to clear. -/
  timerRef : h.timerRef = none
  /-- There is no value to save. -/
  pendingRef : h.pendingRef = none
  /-- No timer is set. -/
  timers : h.timers = []
  /-- The last value has been saved. -/
  last : ∀ p ∈ (numbered as).getLast?, p ∈ h.saved
  /-- The values are saved in order. -/
  inOrder : h.saved.Sublist (numbered as)

/-- One timer is set: it is the one of the last value, which has not been saved. -/
structure Armed (as : List (Event T)) (h : Hook T) (p : T × ℕ) : Prop where
  /-- Its number is known. -/
  timerRef : h.timerRef = some p.2
  /-- The value is known. -/
  pendingRef : h.pendingRef = some p
  /-- No other timer is set. -/
  timers : h.timers = [p]
  /-- It has not fired. -/
  waiting : Waiting as p
  /-- The values before it are saved in order. -/
  inOrder : ∃ before, numbered as = before ++ [p] ∧ h.saved.Sublist before

/-- **What holds all along a run.** -/
structure Kept (as : List (Event T)) (h : Hook T) : Prop where
  /-- The timers are counted. -/
  count : h.count = (scheduled as).length
  /-- The refs and the timers go together. -/
  shape : Idle as h ∨ ∃ p, Armed as h p
  /-- A value that is not saved and has no timer has been superseded. -/
  skipped : ∀ p ∈ numbered as, p ∉ h.saved → p ∉ h.timers → Superseded as p
  /-- The last value before the unmount is saved. -/
  flushed : ∀ pre post, as = pre ++ .unmount :: post →
    ∀ p ∈ (numbered pre).getLast?, p ∈ h.saved

section Kept

variable {as : List (Event T)} {h : Hook T} {p : T × ℕ}

/-- The timer that is set is the one that is cleared. -/
theorem Kept.clearTimer (hk : Kept as h) : h.clearTimer = [] := by
  obtain hi | ⟨p, ha⟩ := hk.shape
  · rw [Hook.clearTimer, hi.timerRef, hi.timers]
    rfl
  · simp [Hook.clearTimer, ha.timerRef, ha.timers]

theorem Armed.saved_append (ha : Armed as h p) : (h.saved ++ [p]).Sublist (numbered as) := by
  obtain ⟨before, heq, hsub⟩ := ha.inOrder
  rw [heq]
  exact hsub.append (List.Sublist.refl _)

/-- **Once the timer is gone and its value saved**, nothing is left to do. -/
theorem Armed.idle (ha : Armed as h p) {h' : Hook T} (htimer : h'.timerRef = none)
    (hpending : h'.pendingRef = none) (htimers : h'.timers = [])
    (hsaved : h'.saved = h.saved ++ [p]) : Idle as h' where
  timerRef := htimer
  pendingRef := hpending
  timers := htimers
  last q hq := by
    obtain ⟨before, heq, -⟩ := ha.inOrder
    rw [heq, List.getLast?_concat] at hq
    cases hq
    rw [hsaved]
    exact List.mem_append_right _ (List.mem_singleton_self _)
  inOrder := hsaved ▸ ha.saved_append

theorem Idle.congr {as' : List (Event T)} (hi : Idle as h) (heq : numbered as' = numbered as) :
    Idle as' h :=
  { hi with last := heq ▸ hi.last, inOrder := heq ▸ hi.inOrder }

theorem kept_init : Kept [] (Hook.init : Hook T) where
  count := rfl
  shape := .inl ⟨rfl, rfl, rfl, fun _ h ↦ (by cases h), List.Sublist.refl _⟩
  skipped _ h := by cases h
  flushed pre post h := by simp at h

/-- What was flushed stays saved. -/
theorem flushed_concat {a : Event T} {h' : Hook T} (hk : Kept as h) (hsub : h.saved ⊆ h'.saved)
    (ha : a = .unmount → ∀ p ∈ (numbered as).getLast?, p ∈ h'.saved) (pre post : List (Event T))
    (heq : as ++ [a] = pre ++ .unmount :: post) : ∀ p ∈ (numbered pre).getLast?, p ∈ h'.saved := by
  induction post using List.reverseRecOn with
  | nil =>
    obtain ⟨rfl, ha'⟩ := List.append_inj' heq rfl
    exact ha (List.singleton_inj.mp ha')
  | append_singleton post b _ =>
    rw [← List.cons_append, ← List.append_assoc] at heq
    obtain ⟨hpre, -⟩ := List.append_inj' heq rfl
    exact fun p hp ↦ hsub (hk.flushed pre post hpre p hp)

/-- A value whose timer fires, or is cleared with the value saved. -/
theorem skipped_concat {a : Event T} {h' : Hook T} (hk : Kept as h) (ha : a.value? = none)
    (hsub : h.saved ⊆ h'.saved) (htimers : ∀ q ∈ h.timers, q ∈ h'.saved) (q : T × ℕ)
    (hq : q ∈ numbered (as ++ [a])) (hsaved : q ∉ h'.saved) : Superseded (as ++ [a]) q := by
  rw [numbered_concat ha] at hq
  exact (hk.skipped q hq (fun h ↦ hsaved (hsub h)) fun h ↦ hsaved (htimers q h)).concat a

theorem Kept.schedule (hk : Kept as h) (v : T) : Kept (as ++ [.schedule v]) (h.schedule v) where
  count := by
    rw [scheduled, List.filterMap_append, List.length_append, Hook.schedule, hk.count]
    rfl
  shape := by
    have hsub : h.saved.Sublist (numbered as) := by
      obtain hi | ⟨p, ha⟩ := hk.shape
      · exact hi.inOrder
      · exact (List.sublist_append_left _ _).trans ha.saved_append
    refine .inr ⟨(v, h.count), rfl, rfl, ?_, ?_, numbered as, ?_, hsub⟩
    · rw [Hook.schedule, hk.clearTimer, List.nil_append]
    · rw [hk.count]
      exact waiting_schedule as v
    · rw [hk.count, numbered_concat_schedule]
  skipped q hq hsaved htimers := by
    rw [numbered_concat_schedule, ← hk.count, List.mem_append, List.mem_singleton] at hq
    have hnew : q ≠ (v, h.count) := by
      rintro rfl
      exact htimers (List.mem_append_right _ (List.mem_singleton_self _))
    have hold := hq.resolve_right hnew
    by_cases htimer : q ∈ h.timers
    · -- its timer is cleared by this call
      obtain hi | ⟨p, ha⟩ := hk.shape
      · rw [hi.timers] at htimer
        cases htimer
      · rw [ha.timers, List.mem_singleton] at htimer
        exact htimer ▸ ha.waiting.superseded v
    · exact (hk.skipped q hold hsaved htimer).concat _
  flushed := flushed_concat hk (List.Subset.refl _) fun h ↦ by cases h

theorem Kept.expire (hk : Kept as h) {i : ℕ} (hp : h.timers.find? (fun p ↦ p.2 = i) = some p) :
    Kept (as ++ [.expire i]) (h.fire p) := by
  have hmem := List.mem_of_find?_eq_some hp
  obtain hi | ⟨q, ha⟩ := hk.shape
  · rw [hi.timers] at hmem
    cases hmem
  · obtain rfl : p = q := by rwa [ha.timers, List.mem_singleton] at hmem
    have hsub : h.saved ⊆ (h.fire p).saved := List.subset_append_left _ _
    refine ⟨?_, .inl ?_, fun q hq hsaved _ ↦ ?_, flushed_concat hk hsub fun h ↦ by cases h⟩
    · rw [scheduled_concat rfl]
      exact hk.count
    · refine (ha.idle rfl rfl ?_ rfl).congr (numbered_concat rfl as)
      rw [Hook.fire, ha.timers]
      simp
    · refine skipped_concat hk rfl hsub (fun q hq ↦ ?_) q hq hsaved
      rw [ha.timers, List.mem_singleton] at hq
      exact hq ▸ List.mem_append_right _ (List.mem_singleton_self _)

theorem Kept.unmount (hk : Kept as h) :
    Kept (as ++ [.unmount]) { h.flush with mounted := false } := by
  have hsub : h.saved ⊆ h.flush.saved := List.subset_append_left _ _
  have hidle : Idle as { h.flush with mounted := false } := by
    obtain hi | ⟨p, ha⟩ := hk.shape
    · have hsaved : h.flush.saved = h.saved := by
        rw [Hook.flush, hi.pendingRef]
        exact List.append_nil _
      exact ⟨rfl, rfl, hk.clearTimer, hsaved ▸ hi.last, hsaved ▸ hi.inOrder⟩
    · refine ha.idle rfl rfl hk.clearTimer ?_
      rw [Hook.flush, ha.pendingRef]
      rfl
  refine ⟨?_, .inl (hidle.congr (numbered_concat rfl as)), fun q hq hsaved _ ↦ ?_,
    flushed_concat hk hsub fun _ ↦ hidle.last⟩
  · rw [scheduled_concat rfl]
    exact hk.count
  · refine skipped_concat hk rfl hsub (fun q hq ↦ ?_) q hq hsaved
    obtain hi | ⟨p, ha⟩ := hk.shape
    · rw [hi.timers] at hq
      cases hq
    · rw [ha.timers, List.mem_singleton] at hq
      rw [Hook.flush, ha.pendingRef, hq]
      exact List.mem_append_right _ (List.mem_singleton_self _)

/-- **One step.** -/
theorem Kept.step (hk : Kept as h) {a : Event T} {h' : Hook T}
    (hstep : DebouncedSave.step h a = some h') : Kept (as ++ [a]) h' := by
  cases a with
  | schedule v =>
    cases hstep
    exact hk.schedule v
  | expire i =>
    obtain ⟨p, hp, rfl⟩ := Option.map_eq_some_iff.mp hstep
    exact hk.expire hp
  | unmount =>
    rw [DebouncedSave.step] at hstep
    split at hstep
    · cases hstep
      exact hk.unmount
    · cases hstep

theorem Kept.law (hk : Kept as h) : Law as h := by
  have hsub : h.saved.Sublist (numbered as) := by
    obtain hi | ⟨p, ha⟩ := hk.shape
    · exact hi.inOrder
    · exact (List.sublist_append_left _ _).trans ha.saved_append
  exact ⟨hsub, hsub.nodup (nodup_numbered as), hk.skipped, hk.flushed⟩

end Kept

/-- **Debounced saves lose nothing.**  After every sequence of calls, expiries and at most one
unmount, the values have been saved in order and at most once; what is neither saved nor about to be
has been superseded before its timer fired; and the last value before the unmount is saved. -/
theorem losesNothing (as : List (Event T)) (h : Hook T)
    (hrun : Machine.exec step .init as = some h) : Law as h :=
  (Machine.history_of_exec (I := Kept) kept_init (fun _ _ _ _ hk hs ↦ hk.step hs) hrun).law

/-- Two edits in a row, and then the window is closed. -/
def exampleEvents : List (Event String) :=
  [.schedule "draft", .expire 0, .schedule "draft 2", .schedule "draft 3", .unmount]

theorem losesNothing_example :
    ∃ h, Machine.exec step .init exampleEvents = some h ∧
      h.saved = [("draft", 0), ("draft 3", 2)] ∧ Law exampleEvents h := by
  obtain ⟨h, hrun, hsaved⟩ : ∃ h, Machine.exec step .init exampleEvents = some h ∧
      h.saved = [("draft", 0), ("draft 3", 2)] := ⟨_, rfl, rfl⟩
  exact ⟨h, hrun, hsaved, losesNothing exampleEvents h hrun⟩

end WorkWithMe.Client.DebouncedSave
