import Mathlib.Logic.Function.Basic
import WorkWithMe.Lib.Machine
import WorkWithMe.Lib.Table
import WorkWithMe.Lib.Waiting

/-!
# The server: processes and the two mutexes

`PROCESS_REGISTRY` has what there is to say of a process, and `CHILD_REGISTRY` the handles of those
that run; each is a table behind a mutex of its own.  `list_processes` first reaps what has exited,
for which it takes the mutex of the children and then, with that in its hands, the one of the
processes.  `kill_process` takes the mutex of the processes and, if it knows the process, with that
in its hands the one of the children.

A `Registries` is the two tables and the two mutexes with any number of calls, and `step` takes one
call from one acquisition or release to the next, with all that the call does in between.

* `Placed` is the invariant: a call holds exactly the mutexes its place says.
* `deadlocked_iff` says what a deadlock is here: one call of each function, each with its first
  mutex and asking for its second.
* `deadlockFree_iff_guarded` says in which runs there is none.
* `exists_step` says that where there is none, some call can go on.
-/

set_option autoImplicit false

namespace WorkWithMe.Server.Processes

/-! ## The tables -/

/-- `ProcessInfo`. -/
structure ProcessInfo where
  id : String
  toolName : String
  pid : UInt32
  startedAt : String
  /-- `"running"`, `"completed"`, `"failed"` or `"killed"`. -/
  status : String
  deriving DecidableEq

/-- The two mutexes. -/
inductive Registry where
  /-- `PROCESS_REGISTRY`. -/
  | process
  /-- `CHILD_REGISTRY`. -/
  | child
  deriving DecidableEq

/-- A hash map, in the order in which it gives its entries out. -/
abbrev HashMap (V : Type) := List (String × V)

/-- The entry with the key. -/
def HashMap.get {V : Type} (key : String) (m : HashMap V) : Option (String × V) :=
  Table.lookup Prod.fst key m

/-- The processes that have exited by themselves: what `try_wait` says of a process, if it has. -/
abbrev Exited := String → Option Bool

/-- The status of a process that has exited. -/
def exitStatus (success : Bool) : String := if success then "completed" else "failed"

/-- What `reap_exited_processes` does to the processes. -/
def reapProcesses {Child : Type} (exited : Exited) (children : HashMap Child)
    (processes : HashMap ProcessInfo) : HashMap ProcessInfo :=
  children.foldl (fun processes entry ↦
    match exited entry.1 with
    | some success =>
      Table.updateAt Prod.fst entry.1 (fun p ↦ (p.1, { p.2 with status := exitStatus success }))
        processes
    | none => processes) processes

/-- What it does to the children. -/
def reapChildren {Child : Type} (exited : Exited) (children : HashMap Child) : HashMap Child :=
  children.filter fun entry ↦ (exited entry.1).isNone

/-- The processes that `list_processes` gives out. -/
def running (processes : HashMap ProcessInfo) : List ProcessInfo :=
  (processes.map Prod.snd).filter fun p ↦ p.status = "running"

/-- The process is marked by `kill_process`. -/
def markKilled (id : String) (processes : HashMap ProcessInfo) : HashMap ProcessInfo :=
  Table.updateAt Prod.fst id (fun p ↦ (p.1, { p.2 with status := "killed" })) processes

/-! ## The calls -/

/-- A call. -/
inductive Request where
  /-- `list_processes()`. -/
  | list
  /-- `kill_process(process_id)`. -/
  | kill (processId : String)

/-- What a call returns. -/
inductive Answer where
  | processes (ps : List ProcessInfo)
  | killed (found : Bool)

/-- Where a call is. -/
inductive Place where
  /-- `reap_exited_processes` asks for the children. -/
  | reap
  /-- It has them, and asks for the processes. -/
  | reapWithChildren
  /-- It has both, and is done with them. -/
  | reaped
  /-- It has let the processes go. -/
  | leavingChildren
  /-- `list_processes` asks for the processes. -/
  | values
  /-- It has made its list. -/
  | listed (ps : List ProcessInfo)
  /-- `kill_process` asks for the processes. -/
  | lookUp (processId : String)
  /-- It has found the process, and asks for the children. -/
  | signal (processId : String)
  /-- It has both, and the child has its signal. -/
  | signalled
  /-- It has the processes, and is done with them. -/
  | leaving (found : Bool)
  /-- The call has returned. -/
  | finished (answer : Answer)

/-- Where a call begins. -/
def Request.entry : Request → Place
  | .list => .reap
  | .kill processId => .lookUp processId

/-- The mutex that a call asks for at this place. -/
def Place.asks : Place → Option Registry
  | .reap | .signal _ => some .child
  | .reapWithChildren | .values | .lookUp _ => some .process
  | _ => none

/-- The mutexes that a call holds at this place. -/
def Place.holds : Place → Registry → Bool
  | .reapWithChildren, .child | .reaped, _ | .leavingChildren, .child | .listed _, .process => true
  | .signal _, .process | .signalled, _ | .leaving _, .process => true
  | _, _ => false

/-- **The tables, the mutexes and the calls.** -/
structure Registries (Child : Type) where
  processRegistry : HashMap ProcessInfo
  childRegistry : HashMap Child
  /-- The call that holds the mutex. -/
  holder : Registry → Option ℕ
  /-- Where each call is. -/
  place : ℕ → Option Place

/-- What can happen next. -/
inductive Action where
  /-- A new call. -/
  | arrive (c : ℕ) (request : Request)
  /-- A call goes on to its next acquisition or release, with what has exited by then. -/
  | go (c : ℕ) (exited : Exited)

namespace Registries

variable {Child : Type}

/-- Nobody has called yet. -/
def start (processes : HashMap ProcessInfo) (children : HashMap Child) : Registries Child :=
  ⟨processes, children, fun _ ↦ none, fun _ ↦ none⟩

/-- The call is at the place. -/
def goto (s : Registries Child) (c : ℕ) (p : Place) : Registries Child :=
  { s with place := Function.update s.place c (some p) }

/-- The call takes the mutex. -/
def take (s : Registries Child) (c : ℕ) (m : Registry) : Registries Child :=
  { s with holder := Function.update s.holder m (some c) }

/-- The mutex is let go. -/
def release (s : Registries Child) (m : Registry) : Registries Child :=
  { s with holder := Function.update s.holder m none }

/-- What a call does with the mutex it has asked for. -/
def acquired (s : Registries Child) (c : ℕ) (exited : Exited) : Place → Registries Child
  | .reap => s.goto c .reapWithChildren
  | .reapWithChildren =>
    { s with
      processRegistry := reapProcesses exited s.childRegistry s.processRegistry
      childRegistry := reapChildren exited s.childRegistry }.goto c .reaped
  | .values => s.goto c (.listed (running s.processRegistry))
  | .lookUp id =>
    match s.processRegistry.get id with
    | some _ => { s with processRegistry := markKilled id s.processRegistry }.goto c (.signal id)
    | none => s.goto c (.leaving false)
  | .signal id =>
    { s with childRegistry := Table.deleteAt Prod.fst id s.childRegistry }.goto c .signalled
  | _ => s

/-- A call at a place where it asks for nothing lets a mutex go. -/
def leave (s : Registries Child) (c : ℕ) : Place → Option (Registries Child)
  | .reaped => some ((s.release .process).goto c .leavingChildren)
  | .leavingChildren => some ((s.release .child).goto c .values)
  | .listed ps => some ((s.release .process).goto c (.finished (.processes ps)))
  | .signalled => some ((s.release .child).goto c (.leaving true))
  | .leaving found => some ((s.release .process).goto c (.finished (.killed found)))
  | _ => none

/-- A call goes on. -/
def go (s : Registries Child) (c : ℕ) (exited : Exited) (p : Place) : Option (Registries Child) :=
  match p.asks with
  | some m => if (s.holder m).isNone then some ((s.take c m).acquired c exited p) else none
  | none => s.leave c p

/-- **One step of the calls.** -/
def step (s : Registries Child) : Action → Option (Registries Child)
  | .arrive c request => if (s.place c).isNone then some (s.goto c request.entry) else none
  | .go c exited => (s.place c).bind (s.go c exited)

/-- Who holds which mutex, and who asks for which. -/
def waiting (s : Registries Child) : Waiting ℕ Registry where
  holder := s.holder
  asks c := (s.place c).bind Place.asks

/-! ## What a step does -/

/-- A step of a call that is at the place `p`. -/
inductive Went (s : Registries Child) (c : ℕ) (p : Place) (s' : Registries Child) : Prop where
  /-- It takes the mutex it has asked for. -/
  | take (m : Registry) (p' : Place) (hasks : p.asks = some m) (hfree : s.holder m = none)
      (hholder : s'.holder = Function.update s.holder m (some c))
      (hplace : s'.place = Function.update s.place c (some p'))
      (hholds : ∀ m', p'.holds m' = true ↔ p.holds m' = true ∨ m' = m)
      (hreap : p' = .reapWithChildren ↔ p = .reap)
      (hsignal : ∀ id, p' = .signal id ↔ p = .lookUp id ∧ (s.processRegistry.get id).isSome)
  /-- It lets a mutex go. -/
  | release (m : Registry) (p' : Place) (hasks : p.asks = none) (hheld : p.holds m = true)
      (hholder : s'.holder = Function.update s.holder m none)
      (hplace : s'.place = Function.update s.place c (some p'))
      (hholds : ∀ m', p'.holds m' = true ↔ p.holds m' = true ∧ m' ≠ m)
      (hreap : p' ≠ .reapWithChildren) (hsignal : ∀ id, p' ≠ .signal id)

variable {s s' : Registries Child} {c : ℕ} {exited : Exited} {p : Place}

/-- What a call does with the mutex it has asked for. -/
theorem went_of_acquired {m : Registry} (hasks : p.asks = some m) (hfree : s.holder m = none) :
    Went s c p ((s.take c m).acquired c exited p) := by
  cases p with
  | reap =>
    obtain rfl := Option.some.inj hasks
    exact .take _ .reapWithChildren rfl hfree rfl rfl
      (fun m' ↦ by cases m' <;> simp [Place.holds]) (by simp) (by simp)
  | reapWithChildren =>
    obtain rfl := Option.some.inj hasks
    exact .take _ .reaped rfl hfree rfl rfl
      (fun m' ↦ by cases m' <;> simp [Place.holds]) (by simp) (by simp)
  | values =>
    obtain rfl := Option.some.inj hasks
    exact .take _ (.listed (running s.processRegistry)) rfl hfree rfl rfl
      (fun m' ↦ by cases m' <;> simp [Place.holds]) (by simp) (by simp)
  | lookUp id =>
    obtain rfl := Option.some.inj hasks
    rw [acquired]
    split
    · rename_i entry hget
      refine .take _ (.signal id) rfl hfree rfl rfl
        (fun m' ↦ by cases m' <;> simp [Place.holds]) (by simp) fun id' ↦ ?_
      rw [Place.signal.injEq, Place.lookUp.injEq]
      refine ⟨?_, fun h ↦ h.1⟩
      rintro rfl
      exact ⟨rfl, Option.isSome_iff_exists.mpr ⟨entry, hget⟩⟩
    · rename_i hget
      refine .take _ (.leaving false) rfl hfree rfl rfl
        (fun m' ↦ by cases m' <;> simp [Place.holds]) (by simp) fun id' ↦ ?_
      refine iff_of_false (by simp) ?_
      rintro ⟨hid, hsome⟩
      obtain rfl := Place.lookUp.inj hid
      have hnone : s.processRegistry.get id = none := hget
      rw [hnone] at hsome
      cases hsome
  | signal id =>
    obtain rfl := Option.some.inj hasks
    exact .take _ .signalled rfl hfree rfl rfl
      (fun m' ↦ by cases m' <;> simp [Place.holds]) (by simp) (by simp)
  | reaped | leavingChildren | listed _ | signalled | leaving _ | finished _ => cases hasks

/-- A call that lets a mutex go. -/
theorem went_of_leave (h : s.leave c p = some s') : Went s c p s' := by
  cases p with
  | reaped =>
    obtain rfl := Option.some.inj h
    exact .release .process .leavingChildren rfl rfl rfl rfl
      (fun m' ↦ by cases m' <;> simp [Place.holds]) (by simp) (by simp)
  | leavingChildren =>
    obtain rfl := Option.some.inj h
    exact .release .child .values rfl rfl rfl rfl
      (fun m' ↦ by cases m' <;> simp [Place.holds]) (by simp) (by simp)
  | listed ps =>
    obtain rfl := Option.some.inj h
    exact .release .process (.finished (.processes ps)) rfl rfl rfl rfl
      (fun m' ↦ by cases m' <;> simp [Place.holds]) (by simp) (by simp)
  | signalled =>
    obtain rfl := Option.some.inj h
    exact .release .child (.leaving true) rfl rfl rfl rfl
      (fun m' ↦ by cases m' <;> simp [Place.holds]) (by simp) (by simp)
  | leaving found =>
    obtain rfl := Option.some.inj h
    exact .release .process (.finished (.killed found)) rfl rfl rfl rfl
      (fun m' ↦ by cases m' <;> simp [Place.holds]) (by simp) (by simp)
  | reap | reapWithChildren | values | lookUp _ | signal _ | finished _ => cases h

theorem went_of_go (h : s.go c exited p = some s') : Went s c p s' := by
  rw [go] at h
  split at h
  · rename_i m hasks
    split_ifs at h with hfree
    obtain rfl := Option.some.inj h
    exact went_of_acquired hasks (Option.isNone_iff_eq_none.mp hfree)
  · exact went_of_leave h

/-! ## The invariant -/

/-- **A call holds exactly the mutexes that its place says.** -/
def Placed (s : Registries Child) : Prop :=
  ∀ m c, s.holder m = some c ↔ ∃ p, s.place c = some p ∧ p.holds m = true

theorem placed_start (processes : HashMap ProcessInfo) (children : HashMap Child) :
    (start processes children).Placed := by
  intro m c
  exact iff_of_false (fun h ↦ by cases h) fun ⟨_, h, _⟩ ↦ by cases h

/-- A new call holds nothing. -/
theorem holds_entry (request : Request) (m : Registry) : request.entry.holds m = false := by
  cases request <;> cases m <;> rfl

/-- Neither does it have one mutex and ask for the other. -/
theorem entry_ne (request : Request) :
    request.entry ≠ .reapWithChildren ∧ ∀ id, request.entry ≠ .signal id := by
  cases request <;> exact ⟨by simp [Request.entry], by simp [Request.entry]⟩

theorem Placed.arrive (hs : s.Placed) (hc : s.place c = none) (request : Request) :
    (s.goto c request.entry).Placed := by
  intro m c'
  refine (hs m c').trans ?_
  obtain rfl | hne := eq_or_ne c' c
  · have hold : ¬ ∃ p, s.place c' = some p ∧ p.holds m = true := by simp [hc]
    refine iff_of_false hold ?_
    simp [goto, holds_entry]
  · simp [goto, Function.update_of_ne hne]

theorem Placed.went (hs : s.Placed) (hc : s.place c = some p) (h : Went s c p s') :
    s'.Placed := by
  -- what the other calls hold does not change, and of this one it is what the step says
  have hself : ∀ m, s.holder m = some c ↔ p.holds m = true := by
    intro m
    rw [hs m c, hc]
    simp
  intro m c'
  cases h with
  | take m₀ p' hasks hfree hholder hplace hholds =>
    rw [hholder, hplace]
    obtain rfl | hne := eq_or_ne c' c
    · rw [Function.update_self]
      simp only [Option.some.injEq, exists_eq_left', hholds, ← hself]
      obtain rfl | hm := eq_or_ne m m₀
      · simp
      · simp [hm]
    · rw [Function.update_of_ne hne, ← hs m c']
      obtain rfl | hm := eq_or_ne m m₀
      · simp [hfree, hne.symm]
      · rw [Function.update_of_ne hm]
  | release m₀ p' hasks hheld hholder hplace hholds =>
    rw [hholder, hplace]
    obtain rfl | hne := eq_or_ne c' c
    · rw [Function.update_self]
      simp only [Option.some.injEq, exists_eq_left', hholds, ← hself]
      obtain rfl | hm := eq_or_ne m m₀
      · simp
      · simp [hm]
    · rw [Function.update_of_ne hne, ← hs m c']
      obtain rfl | hm := eq_or_ne m m₀
      · have hmine := (hself m).mpr hheld
        simp [hmine, hne.symm]
      · rw [Function.update_of_ne hm]

/-- What the steps are: a new call, or one that goes on. -/
theorem step_cases {a : Action} (h : s.step a = some s') :
    (∃ c request, a = .arrive c request ∧ s.place c = none ∧ s' = s.goto c request.entry) ∨
      ∃ c exited p, a = .go c exited ∧ s.place c = some p ∧ Went s c p s' := by
  cases a with
  | arrive c request =>
    rw [step] at h
    split_ifs at h with hc
    exact .inl ⟨c, request, rfl, Option.isNone_iff_eq_none.mp hc, (Option.some.inj h).symm⟩
  | go c exited =>
    obtain ⟨p, hp, hgo⟩ := Option.bind_eq_some_iff.mp h
    exact .inr ⟨c, exited, p, rfl, hp, went_of_go hgo⟩

theorem placed_step {a : Action} (hs : s.Placed) (h : s.step a = some s') : s'.Placed := by
  obtain ⟨c, request, -, hc, rfl⟩ | ⟨c, exited, p, -, hp, hwent⟩ := step_cases h
  · exact hs.arrive hc request
  · exact hs.went hp hwent

/-! ## Deadlocks -/

/-- A call of `list_processes` has the children and asks for the processes. -/
def Reaping (s : Registries Child) : Prop := ∃ c, s.place c = some .reapWithChildren

/-- A call of `kill_process` has the processes and asks for the children. -/
def Signalling (s : Registries Child) : Prop := ∃ c id, s.place c = some (.signal id)

/-- A place at which a call has a mutex and asks for one. -/
theorem crossing_of_holds_of_asks {m m' : Registry} (hm : p.holds m = true)
    (hm' : p.asks = some m') :
    (p = .reapWithChildren ∧ m = .child ∧ m' = .process) ∨
      (∃ id, p = .signal id) ∧ m = .process ∧ m' = .child := by
  cases p with
  | reapWithChildren =>
    obtain rfl := Option.some.inj hm'
    cases m with
    | process => cases hm
    | child => exact .inl ⟨rfl, rfl, rfl⟩
  | signal id =>
    obtain rfl := Option.some.inj hm'
    cases m with
    | process => exact .inr ⟨⟨id, rfl⟩, rfl, rfl⟩
    | child => cases hm
  | reap | values | lookUp _ => cases m <;> cases hm
  | reaped | leavingChildren | listed _ | signalled | leaving _ | finished _ => cases hm'

/-- The order of the mutexes in which one of them comes before the other. -/
def rank (first m : Registry) : ℕ := if m = first then 1 else 0

/-- **What a deadlock is.** -/
theorem deadlocked_iff (hs : s.Placed) : s.waiting.Deadlocked ↔ s.Reaping ∧ s.Signalling := by
  -- which mutexes a call has and asks for
  have hcross : ∀ c m m', s.waiting.holder m = some c → s.waiting.asks c = some m' →
      (s.Reaping ∧ m = .child ∧ m' = .process) ∨ s.Signalling ∧ m = .process ∧ m' = .child := by
    intro c m m' hholder hasks
    obtain ⟨p, hp, hm⟩ := (hs m c).mp hholder
    have hm' : p.asks = some m' := by
      have hwaiting : (s.place c).bind Place.asks = some m' := hasks
      rwa [hp] at hwaiting
    obtain ⟨rfl, hmm⟩ | ⟨⟨id, rfl⟩, hmm⟩ := crossing_of_holds_of_asks hm hm'
    · exact .inl ⟨⟨c, hp⟩, hmm⟩
    · exact .inr ⟨⟨c, id, hp⟩, hmm⟩
  constructor
  · intro hdead
    by_contra hnot
    -- then one of the two orders is kept by all calls
    rw [not_and_or] at hnot
    obtain hreaping | hsignalling := hnot
    · refine Waiting.not_deadlocked_of_order (measure (rank .process)).wf ?_ hdead
      intro c m m' hm hm'
      obtain ⟨rfl, rfl⟩ := ((hcross c m m' hm hm').resolve_left fun h ↦ hreaping h.1).2
      exact Nat.zero_lt_one
    · refine Waiting.not_deadlocked_of_order (measure (rank .child)).wf ?_ hdead
      intro c m m' hm hm'
      obtain ⟨rfl, rfl⟩ := ((hcross c m m' hm hm').resolve_right fun h ↦ hsignalling h.1).2
      exact Nat.zero_lt_one
  · rintro ⟨⟨t, ht⟩, u, id, hu⟩
    have htu : t ≠ u := by
      rintro rfl
      rw [ht] at hu
      cases hu
    refine Waiting.deadlocked_of_crossed htu ((hs .child t).mpr ⟨_, ht, rfl⟩)
      ((hs .process u).mpr ⟨_, hu, rfl⟩) ?_ ?_
    · show (s.place t).bind Place.asks = some .process
      rw [ht]
      rfl
    · show (s.place u).bind Place.asks = some .child
      rw [hu]
      rfl

/-! ## Runs -/

/-- **The step does not cross another one.**  A call of `list_processes` takes the children while
no call of `kill_process` waits for them with the processes in its hands, and a call of
`kill_process` that will find its process takes the processes while no call of `list_processes`
waits for them with the children in its hands. -/
def Uncrossed (s : Registries Child) : Action → Prop
  | .go c _ =>
    (s.place c = some .reap → ¬ s.Signalling) ∧
      ∀ id, s.place c = some (.lookUp id) → (s.processRegistry.get id).isSome → ¬ s.Reaping
  | .arrive _ _ => True

/-- Who is at a place that a call neither leaves nor comes to. -/
theorem place_eq_iff {p' q : Place} (hc : s.place c ≠ some q)
    (hplace : s'.place = Function.update s.place c (some p')) (hq : p' ≠ q) (c' : ℕ) :
    s'.place c' = some q ↔ s.place c' = some q := by
  rw [hplace]
  obtain rfl | hne := eq_or_ne c' c
  · rw [Function.update_self]
    exact iff_of_false (fun h ↦ hq (Option.some.inj h)) hc
  · rw [Function.update_of_ne hne]

/-- Where a call goes on to, as far as that matters. -/
theorem Went.goes (h : Went s c p s') : ∃ p', s'.place = Function.update s.place c (some p') ∧
    (p' = .reapWithChildren ↔ p = .reap) ∧
      ∀ id, p' = .signal id ↔ p = .lookUp id ∧ (s.processRegistry.get id).isSome := by
  cases h with
  | take m p' hasks hfree hholder hplace hholds hreap hsignal => exact ⟨p', hplace, hreap, hsignal⟩
  | release m p' hasks hheld hholder hplace hholds hreap hsignal =>
    refine ⟨p', hplace, iff_of_false hreap ?_, fun id ↦ iff_of_false (hsignal id) ?_⟩
    · rintro rfl
      cases hasks
    · rintro ⟨rfl, -⟩
      cases hasks

/-- **What a step leads to.**  It is not a deadlock, unless the step crosses another one. -/
theorem not_deadlocked_step_iff {a : Action} (hs : s.Placed) (hfree : ¬ s.waiting.Deadlocked)
    (h : s.step a = some s') : ¬ s'.waiting.Deadlocked ↔ s.Uncrossed a := by
  rw [deadlocked_iff (placed_step hs h)]
  rw [deadlocked_iff hs] at hfree
  obtain ⟨c, request, rfl, hc, rfl⟩ | ⟨c, exited, p, rfl, hp, hwent⟩ := step_cases h
  · -- a new call has no mutex
    have hne : ∀ q, s.place c ≠ some q := by simp [hc]
    refine iff_of_true (fun hcrossed ↦ hfree ⟨?_, ?_⟩) trivial
    · obtain ⟨c', hc'⟩ := hcrossed.1
      exact ⟨c', (place_eq_iff (hne _) rfl (entry_ne request).1 c').mp hc'⟩
    · obtain ⟨c', id, hc'⟩ := hcrossed.2
      exact ⟨c', id, (place_eq_iff (hne _) rfl ((entry_ne request).2 id) c').mp hc'⟩
  obtain ⟨p', hplace, hreap, hsignal⟩ := hwent.goes
  rw [Uncrossed, hp]
  -- a call that the step does not bring to a place was there before
  have hbefore : ∀ q, p' ≠ q → ∀ c', s'.place c' = some q → s.place c' = some q := by
    intro q hq c' hc'
    rw [hplace] at hc'
    obtain rfl | hne := eq_or_ne c' c
    · rw [Function.update_self] at hc'
      exact absurd (Option.some.inj hc') hq
    · rwa [Function.update_of_ne hne] at hc'
  by_cases hp₁ : p = .reap
  · subst hp₁
    obtain rfl := hreap.mpr rfl
    have hsame : s'.Signalling ↔ s.Signalling := exists_congr fun c' ↦ exists_congr fun id ↦
      place_eq_iff (by simp [hp]) hplace (by simp) c'
    have hnow : s'.Reaping := ⟨c, by rw [hplace, Function.update_self]⟩
    simp [hsame, hnow]
  · by_cases hp₂ : ∃ id, p = .lookUp id ∧ (s.processRegistry.get id).isSome
    · obtain ⟨id, rfl, hsome⟩ := hp₂
      obtain rfl := (hsignal id).mpr ⟨rfl, hsome⟩
      have hsame : s'.Reaping ↔ s.Reaping := exists_congr fun c' ↦
        place_eq_iff (by simp [hp]) hplace (by simp) c'
      have hnow : s'.Signalling := ⟨c, id, by rw [hplace, Function.update_self]⟩
      simp [hsame, hnow, hsome]
    · rw [not_exists] at hp₂
      have hreaping : s'.Reaping → s.Reaping := fun ⟨c', h⟩ ↦
        ⟨c', hbefore _ (mt hreap.mp hp₁) c' h⟩
      have hsignalling : s'.Signalling → s.Signalling := fun ⟨c', id, h⟩ ↦
        ⟨c', id, hbefore _ (mt (hsignal id).mp (hp₂ id)) c' h⟩
      refine iff_of_true (fun h ↦ hfree ⟨hreaping h.1, hsignalling h.2⟩) ⟨?_, ?_⟩
      · exact fun h ↦ absurd (Option.some.inj h) hp₁
      · exact fun id hid hsome ↦ absurd ⟨Option.some.inj hid, hsome⟩ (hp₂ id)

/-- **When a deadlock does not come up**: in the runs none of whose steps crosses another one. -/
theorem deadlockFree_iff_guarded (processes : HashMap ProcessInfo) (children : HashMap Child)
    (as : List Action) (s : Registries Child)
    (hrun : Machine.exec step (start processes children) as = some s) :
    (∀ pre post t, as = pre ++ post → Machine.exec step (start processes children) pre = some t →
      ¬ t.waiting.Deadlocked) ↔
      Machine.Guarded step Uncrossed (start processes children) as := by
  have hstart : (start processes children).Placed := placed_start processes children
  refine Machine.forall_iff_guarded (fun s a t hs h ↦ placed_step hs h)
    (fun s a t hs hfree h ↦ not_deadlocked_step_iff hs hfree h) hstart ?_ hrun
  rw [deadlocked_iff hstart]
  rintro ⟨⟨c, hc⟩, -⟩
  cases hc

/-- A call of `list_processes` that has taken both mutexes, and one of `kill_process`. -/
def exampleRun : List Action :=
  [.arrive 0 .list, .go 0 fun _ ↦ none, .go 0 fun _ ↦ none, .arrive 1 (.kill "a")]

theorem deadlockFree_iff_guarded_example :
    (∀ pre post t, exampleRun = pre ++ post →
      Machine.exec step (start [] [("b", ())]) pre = some t → ¬ t.waiting.Deadlocked) ↔
      Machine.Guarded step Uncrossed (start [] [("b", ())]) exampleRun :=
  deadlockFree_iff_guarded [] [("b", ())] exampleRun _ rfl

/-- **A deadlock**: `list_processes` has the children, `kill_process` has the processes, and each
asks for the other. -/
theorem not_deadlockFree :
    ¬ ∀ (processes : HashMap ProcessInfo) (children : HashMap Unit) (as : List Action)
      (s : Registries Unit), Machine.exec step (start processes children) as = some s →
        ¬ s.waiting.Deadlocked := by
  intro hall
  obtain ⟨s, hrun, hchild, hprocess, hlist, hkill⟩ : ∃ s : Registries Unit,
      Machine.exec step
        (start [("a", ⟨"a", "bash", 1234, "2026-01-01T00:00:00+00:00", "running"⟩)] [("a", ())])
        [.arrive 0 .list, .arrive 1 (.kill "a"), .go 0 fun _ ↦ none, .go 1 fun _ ↦ none] = some s ∧
      s.waiting.holder .child = some 0 ∧ s.waiting.holder .process = some 1 ∧
        s.waiting.asks 0 = some .process ∧ s.waiting.asks 1 = some .child :=
    ⟨_, rfl, rfl, rfl, rfl, rfl⟩
  exact hall _ _ _ s hrun
    (Waiting.deadlocked_of_crossed Nat.zero_ne_one hchild hprocess hlist hkill)

/-! ## No call is stuck -/

/-- A call does not ask for a mutex that it holds. -/
theorem holds_of_asks {m : Registry} (h : p.asks = some m) : p.holds m = false := by
  cases p <;> cases h <;> rfl

/-- A call that asks for nothing and has not returned lets a mutex go. -/
theorem exists_leave (hasks : p.asks = none) (hp : ∀ answer, p ≠ .finished answer) :
    ∃ s', s.leave c p = some s' := by
  cases p with
  | finished answer => exact absurd rfl (hp answer)
  | reaped | leavingChildren | listed _ | signalled | leaving _ => exact ⟨_, rfl⟩
  | reap | reapWithChildren | values | lookUp _ | signal _ => cases hasks

/-- **Where there is no deadlock, some call can go on**, if there is one that has not returned. -/
theorem exists_step (hs : s.Placed) (hfree : ¬ s.waiting.Deadlocked) (hc : s.place c = some p)
    (hp : ∀ answer, p ≠ .finished answer) (exited : Exited) :
    ∃ c s', s.step (.go c exited) = some s' := by
  by_contra hstuck
  simp only [not_exists] at hstuck
  -- then the calls that have not returned are a deadlock
  refine hfree ⟨{t | ∃ q, s.place t = some q ∧ ∀ answer, q ≠ .finished answer}, ⟨c, p, hc, hp⟩, ?_⟩
  rintro t ⟨q, ht, hq⟩
  have hgo : ∀ s', s.go t exited q ≠ some s' := by
    intro s' h
    exact hstuck t s' (Option.bind_eq_some_iff.mpr ⟨q, ht, h⟩)
  rw [go] at hgo
  cases hasks : q.asks with
  | none =>
    obtain ⟨s', hleave⟩ := exists_leave (s := s) (c := t) hasks hq
    rw [hasks] at hgo
    exact absurd hleave (hgo s')
  | some m =>
    rw [hasks] at hgo
    cases hholder : s.holder m with
    | none => exact absurd (if_pos (by rw [hholder]; rfl)) (hgo _)
    | some u =>
      obtain ⟨r, hu, hr⟩ := (hs m u).mp hholder
      refine ⟨u, ⟨r, hu, ?_⟩, ?_, m, ?_, hholder⟩
      · rintro answer rfl
        cases m <;> cases hr
      · rintro rfl
        rw [ht] at hu
        obtain rfl := Option.some.inj hu
        rw [holds_of_asks hasks] at hr
        cases hr
      · show (s.place t).bind Place.asks = some m
        rw [ht]
        exact hasks

end Registries

end WorkWithMe.Server.Processes
