import Mathlib.Logic.Function.Basic
import Mathlib.Logic.Relation
import WorkWithMe.Lib.Lock
import WorkWithMe.Lib.Machine
import WorkWithMe.Server.AppState

/-!
# The server: who waits for whom

`session_handles` is a table behind a fair lock for readers and writers, and each handle in it is
a mutex.  Five handlers touch the table: `handle_prompt`, `handle_new_chat`, `get_thinking`,
`set_thinking` and `set_project`.  A `Locks` is the two levels of locks with any number of tasks
that run these handlers, and `step` takes one step of one task: from one acquisition or release of
a lock to the next.  Where a task is (`Place`) says which locks it has asked for; a task that has
asked for a lock goes on once it holds it.

A task for a prompt is the handler and then the agent task that it spawns.  The handler holds
none of these locks while the agent task runs, and asks for none afterwards.  The two handlers for
the thinking level are the only ones that ask for a mutex while they hold the lock of the table.

* `Placed` is the invariant: a task has to do with exactly the locks its place says.
* `Locks.Unblocked` says that no task waits for a mutex with the lock of the table in its hands,
  that nobody who waits for that lock waits for an agent run, directly or through others, and that
  whoever holds it can take a step.
* `unblocked_iff_guarded` says in which runs that is so all along: those in which a handler for
  the thinking level asks for a mutex only when nobody holds it.
-/

set_option autoImplicit false

namespace WorkWithMe.Server

/-! ## The tasks -/

/-- A handle of a pi session: the task that created it. -/
abbrev HandleId := CallId

/-- What a task has to do. -/
inductive Job where
  /-- `handle_prompt`, with the agent task it spawns. -/
  | prompt (s : SessionId)
  /-- `handle_new_chat`. -/
  | newChat (s : SessionId)
  /-- `get_thinking`, with the parameter `sessionId`. -/
  | getThinking (sessionId : Option SessionId)
  /-- `set_thinking`, with its body. -/
  | setThinking (body : Json)
  /-- `set_project`. -/
  | setProject (s : SessionId)

/-- The session a task is about. -/
def Job.session : Job → SessionId
  | .prompt s | .newChat s | .setProject s => s
  | .getThinking sessionId => sessionId.getD "__global__"
  | .setThinking body => ((body.get "sessionId").bind Json.asStr).getD "__global__"

/-- What a task first asks for the lock of the table for. -/
def Job.mode : Job → Mode
  | .prompt _ | .getThinking _ | .setThinking _ => .read
  | .newChat _ | .setProject _ => .write

/-- The task is a handler for the thinking level. -/
def Job.isThinking : Job → Bool
  | .getThinking _ | .setThinking _ => true
  | _ => false

/-- Where a task is. -/
inductive Place where
  /-- About to ask for the lock of the table. -/
  | entry
  /-- Has asked for the lock of the table, to look a handle up or to remove it. -/
  | table
  /-- Waiting for `create_agent_session`. -/
  | creating
  /-- About to ask for the lock of the table, to store `h`. -/
  | storing (h : HandleId)
  /-- Has asked for the lock of the table, to store `h`. -/
  | store (h : HandleId)
  /-- The agent task is about to ask for the mutex of `h`. -/
  | locking (h : HandleId)
  /-- Has asked for the mutex of `h`. -/
  | mutex (h : HandleId)
  /-- A handler for the thinking level, with its answer ready. -/
  | leaving (answer : Response)
  /-- Done; the handlers for the thinking level have answered. -/
  | finished (answer : Option Response)

/-- A task. -/
structure HandleTask where
  /-- What it has to do. -/
  job : Job
  /-- Where it is. -/
  place : Place

/-- The first place of a task. -/
def Job.first : Job → Place
  | .newChat _ => .creating
  | _ => .entry

/-! ## The locks -/

/-- The table `session_handles` with its lock, the mutexes and the tasks. -/
structure Locks where
  /-- Active pi agent sessions keyed by session id. -/
  sessionHandles : SessionId → Option HandleId
  /-- The lock of the table. -/
  tableLock : Lock CallId
  /-- The mutexes of the handles. -/
  mutex : HandleId → Lock CallId
  /-- The thinking level of a pi session. -/
  thinkingLevel : HandleId → Option String
  /-- The tasks so far. -/
  tasks : CallId → Option HandleTask

namespace Locks

/-- The state at the start of the process. -/
def init : Locks where
  sessionHandles _ := none
  tableLock := .free
  mutex _ := .free
  thinkingLevel _ := none
  tasks _ := none

/-- A task is where it is now. -/
def put (σ : Locks) (c : CallId) (k : HandleTask) : Locks :=
  { σ with tasks := Function.update σ.tasks c (some k) }

/-- A task goes on to a place. -/
def goto (σ : Locks) (c : CallId) (k : HandleTask) (p : Place) : Locks :=
  σ.put c { k with place := p }

/-- A task asks for the lock of the table. -/
def askTable (σ : Locks) (c : CallId) (m : Mode) : Locks :=
  { σ with tableLock := σ.tableLock.ask c m }

/-- A task is done with the table. -/
def leaveTable (σ : Locks) (c : CallId) : Locks := { σ with tableLock := σ.tableLock.release c }

/-- A task asks for a mutex. -/
def askMutex (σ : Locks) (c : CallId) (h : HandleId) : Locks :=
  { σ with mutex := Function.update σ.mutex h ((σ.mutex h).ask c .write) }

/-- A task is done with a mutex. -/
def leaveMutex (σ : Locks) (c : CallId) (h : HandleId) : Locks :=
  { σ with mutex := Function.update σ.mutex h ((σ.mutex h).release c) }

end Locks

/-! ## The answers about the thinking level -/

/-- The text of the level that `set_thinking` reads from its body. -/
def levelText (body : Json) : String := ((body.get "level").bind Json.asStr).getD "off"

/-- What `get_thinking` answers. -/
def thinkingAnswer (level : Option String) : Response :=
  ⟨200, .obj [("level", .str (level.getD "off"))]⟩

/-- What `set_thinking` answers when nothing went wrong. -/
def thinkingSet (body : Json) : Response :=
  ⟨200, .obj [("success", .bool true), ("level", .str (levelText body))]⟩

/-- The answer of a handler for the thinking level that found no handle. -/
def Job.answerWithout : Job → Response
  | .setThinking body => thinkingSet body
  | _ => thinkingAnswer none

/-! ## The step function -/

/-- The steps of a task. -/
inductive Move where
  /-- Ask for the lock in front of the task. -/
  | ask
  /-- Look the session up. -/
  | lookUp
  /-- `create_agent_session` has returned a session. -/
  | created
  /-- `create_agent_session` has failed. -/
  | createFailed
  /-- Store the handle. -/
  | insert
  /-- Remove the handle. -/
  | remove
  /-- The agent run has ended. -/
  | runEnds
  /-- Read or set the level; `set_thinking_level` may fail with a message. -/
  | answer (failed : Option String)
  /-- Let the lock of the table go, and answer. -/
  | leave
  deriving DecidableEq

/-- What can happen next. -/
inductive LockAction where
  /-- A new task. -/
  | arrive (c : CallId) (job : Job)
  /-- A task takes a step. -/
  | move (c : CallId) (m : Move)

section Step

-- the level a text names, spelled out; a text that names none stands for the default
variable (levelOf : String → String)

/-- A task with the lock of the table looks its session up.  A prompt lets the lock go; a handler
for the thinking level keeps it and asks for the mutex. -/
def lookUp (σ : Locks) (c : CallId) (k : HandleTask) : Option Locks :=
  match k.job, σ.sessionHandles k.job.session with
  | .prompt _, some h => some ((σ.leaveTable c).goto c k (.locking h))
  | .prompt _, none => some ((σ.leaveTable c).goto c k .creating)
  | .getThinking _, some h | .setThinking _, some h => some ((σ.askMutex c h).goto c k (.mutex h))
  | .getThinking _, none | .setThinking _, none => some (σ.goto c k (.leaving k.job.answerWithout))
  | _, _ => none

/-- A task with the lock of the table removes the handle of its session. -/
def removeHandle (σ : Locks) (c : CallId) (k : HandleTask) : Option Locks :=
  match k.job with
  | .setProject s =>
    some (({ σ with sessionHandles := Function.update σ.sessionHandles s none }.leaveTable c).goto
      c k (.finished none))
  | _ => none

/-- A task with the lock of the table stores a handle.  A prompt goes on to its agent task. -/
def insertHandle (σ : Locks) (c : CallId) (k : HandleTask) (h : HandleId) : Locks :=
  ({ σ with
    sessionHandles := Function.update σ.sessionHandles k.job.session (some h) }.leaveTable c).goto
      c k (match k.job with
        | .prompt _ => .locking h
        | _ => .finished none)

/-- The agent run of a prompt ends, and the mutex is let go. -/
def endRun (σ : Locks) (c : CallId) (k : HandleTask) (h : HandleId) : Option Locks :=
  match k.job with
  | .prompt _ => some ((σ.leaveMutex c h).goto c k (.finished none))
  | _ => none

/-- A handler for the thinking level with the mutex reads or sets the level, and lets the mutex
go. -/
def answerLevel (σ : Locks) (c : CallId) (k : HandleTask) (h : HandleId) (failed : Option String) :
    Option Locks :=
  match k.job, failed with
  | .getThinking _, none =>
    some ((σ.leaveMutex c h).goto c k (.leaving (thinkingAnswer (σ.thinkingLevel h))))
  | .setThinking body, none =>
    some (({ σ with
      thinkingLevel := Function.update σ.thinkingLevel h
        (some (levelOf (levelText body))) }.leaveMutex c h).goto c k (.leaving (thinkingSet body)))
  | .setThinking _, some e => some ((σ.leaveMutex c h).goto c k (.leaving (failure 500 e)))
  | _, _ => none

/-- One step of a task. -/
def moveStep (σ : Locks) (c : CallId) (k : HandleTask) : Place → Move → Option Locks
  | .entry, .ask => some ((σ.askTable c k.job.mode).goto c k .table)
  | .table, .lookUp => if σ.tableLock.Holds c then lookUp σ c k else none
  | .table, .remove => if σ.tableLock.Holds c then removeHandle σ c k else none
  | .creating, .created => some (σ.goto c k (.storing c))
  | .creating, .createFailed => some (σ.goto c k (.finished none))
  | .storing h, .ask => some ((σ.askTable c .write).goto c k (.store h))
  | .store h, .insert => if σ.tableLock.Holds c then some (insertHandle σ c k h) else none
  | .locking h, .ask => some ((σ.askMutex c h).goto c k (.mutex h))
  | .mutex h, .runEnds => if (σ.mutex h).Holds c then endRun σ c k h else none
  | .mutex h, .answer failed =>
    if (σ.mutex h).Holds c then answerLevel levelOf σ c k h failed else none
  | .leaving r, .leave => some ((σ.leaveTable c).goto c k (.finished (some r)))
  | _, _ => none

/-- **One step of the tasks.** -/
def lockStep (σ : Locks) : LockAction → Option Locks
  | .arrive c job => if (σ.tasks c).isNone then some (σ.put c ⟨job, job.first⟩) else none
  | .move c m => (σ.tasks c).bind fun k ↦ moveStep levelOf σ c k k.place m

end Step

/-! ## What a step does -/

/-- The places a task can be at. -/
def Job.reaches : Job → Place → Bool
  | .newChat _, .entry | .newChat _, .table => false
  | job, .creating | job, .storing _ | job, .store _ | job, .locking _ => !job.isThinking
  | job, .leaving _ => job.isThinking
  | _, _ => true

/-- A task at this place has asked for the lock of the table. -/
def Place.usesTable (job : Job) : Place → Bool
  | .table | .store _ | .leaving _ => true
  | .mutex _ => job.isThinking
  | _ => false

/-- A task at this place holds the lock of the table. -/
def Place.keepsTable (job : Job) : Place → Bool
  | .leaving _ => true
  | .mutex _ => job.isThinking
  | _ => false

/-- A step of a task, one line for each thing it can do to the locks. -/
inductive Moved (σ : Locks) (c : CallId) (k : HandleTask) : Move → Locks → Prop where
  | askTable (m : Mode) (p : Place)
      (hp : k.place = .entry ∧ p = .table ∨ ∃ h, k.place = .storing h ∧ p = .store h) :
      Moved σ c k .ask ((σ.askTable c m).goto c k p)
  | leaveTable (m : Move) (f : SessionId → Option HandleId) (p : Place)
      (hk : k.place.usesTable k.job = true) (hk' : ∀ h, k.place ≠ .mutex h)
      (hp : p.usesTable k.job = false) (hp' : ∀ h, p ≠ .mutex h) (hr : k.job.reaches p = true) :
      Moved σ c k m (({ σ with sessionHandles := f }.leaveTable c).goto c k p)
  | keepTable (r : Response) (hk : k.place = .table) (hh : σ.tableLock.Holds c)
      (ht : k.job.isThinking = true) : Moved σ c k .lookUp (σ.goto c k (.leaving r))
  | askBoth (h : HandleId) (hk : k.place = .table) (hh : σ.tableLock.Holds c)
      (ht : k.job.isThinking = true) (hf : σ.sessionHandles k.job.session = some h) :
      Moved σ c k .lookUp ((σ.askMutex c h).goto c k (.mutex h))
  | askMutex (h : HandleId) (hk : k.place = .locking h) :
      Moved σ c k .ask ((σ.askMutex c h).goto c k (.mutex h))
  | leaveMutex (m : Move) (lv : HandleId → Option String) (h : HandleId) (p : Place)
      (hk : k.place = .mutex h) (hp : p.usesTable k.job = k.job.isThinking)
      (hp' : ∀ h, p ≠ .mutex h) (hr : k.job.reaches p = true) :
      Moved σ c k m (({ σ with thinkingLevel := lv }.leaveMutex c h).goto c k p)
  | create (m : Move) (p : Place) (hk : k.place = .creating)
      (hp : p = .storing c ∨ p = .finished none) : Moved σ c k m (σ.goto c k p)

variable {levelOf : String → String}

theorem lookUp_cases {σ τ : Locks} {c : CallId} {k : HandleTask} (hk : k.place = .table)
    (hh : σ.tableLock.Holds c) (h : lookUp σ c k = some τ) : Moved σ c k .lookUp τ := by
  have huse : k.place.usesTable k.job = true := by rw [hk]; rfl
  have hplace : ∀ h, k.place ≠ .mutex h := by simp [hk]
  rcases k with ⟨job, place⟩
  cases job with
  | prompt s =>
    simp only [lookUp] at h
    cases hf : σ.sessionHandles (Job.prompt s).session with
    | none =>
      rw [hf] at h
      cases h
      exact .leaveTable .lookUp σ.sessionHandles .creating huse hplace rfl (by simp) rfl
    | some hd =>
      rw [hf] at h
      cases h
      exact .leaveTable .lookUp σ.sessionHandles (.locking hd) huse hplace rfl (by simp) rfl
  | newChat s => simp [lookUp] at h
  | getThinking sid =>
    simp only [lookUp] at h
    cases hf : σ.sessionHandles (Job.getThinking sid).session with
    | none => rw [hf] at h; cases h; exact .keepTable _ hk hh rfl
    | some hd => rw [hf] at h; cases h; exact .askBoth hd hk hh rfl hf
  | setThinking body =>
    simp only [lookUp] at h
    cases hf : σ.sessionHandles (Job.setThinking body).session with
    | none => rw [hf] at h; cases h; exact .keepTable _ hk hh rfl
    | some hd => rw [hf] at h; cases h; exact .askBoth hd hk hh rfl hf
  | setProject s => simp [lookUp] at h

theorem Job.reaches_finished (job : Job) (r : Option Response) :
    job.reaches (.finished r) = true := by
  cases job <;> rfl

theorem Job.reaches_mutex (job : Job) (h : HandleId) : job.reaches (.mutex h) = true := by
  cases job <;> rfl

theorem Job.reaches_leaving (job : Job) (r : Response) :
    job.reaches (.leaving r) = job.isThinking := by
  cases job <;> rfl

theorem Job.reaches_table (job : Job) : job.reaches .table = job.reaches .entry := by
  cases job <;> rfl

theorem Job.reaches_of_opening {job : Job} {h : HandleId} {p q : Place}
    (hp : p = .creating ∨ p = .storing h ∨ p = .store h ∨ p = .locking h)
    (hq : q = .creating ∨ q = .storing h ∨ q = .store h ∨ q = .locking h) :
    job.reaches p = job.reaches q := by
  rcases hp with rfl | rfl | rfl | rfl <;> rcases hq with rfl | rfl | rfl | rfl <;>
    cases job <;> rfl

theorem removeHandle_cases {σ τ : Locks} {c : CallId} {k : HandleTask} (hk : k.place = .table)
    (h : removeHandle σ c k = some τ) : Moved σ c k .remove τ := by
  have huse : k.place.usesTable k.job = true := by rw [hk]; rfl
  have hplace : ∀ h, k.place ≠ .mutex h := by simp [hk]
  rw [removeHandle] at h
  split at h
  · rename_i hjob
    cases h
    exact .leaveTable .remove _ _ huse hplace rfl (by simp) (k.job.reaches_finished none)
  · cases h

theorem insertHandle_moved {σ : Locks} {c : CallId} {k : HandleTask} {h : HandleId}
    (hk : k.place = .store h) : Moved σ c k .insert (insertHandle σ c k h) := by
  have huse : k.place.usesTable k.job = true := by rw [hk]; rfl
  have hplace : ∀ h, k.place ≠ .mutex h := by simp [hk]
  rw [insertHandle]
  refine .leaveTable .insert _ _ huse hplace ?_ ?_ ?_
  all_goals
    rcases k with ⟨job, place⟩
    cases job <;> simp [Place.usesTable, Job.reaches, Job.isThinking]

theorem endRun_cases {σ τ : Locks} {c : CallId} {k : HandleTask} {h : HandleId}
    (hk : k.place = .mutex h) (hm : endRun σ c k h = some τ) : Moved σ c k .runEnds τ := by
  rw [endRun] at hm
  split at hm
  · rename_i hjob
    cases hm
    refine .leaveMutex .runEnds σ.thinkingLevel h (.finished none) hk ?_ (by simp) ?_
    all_goals
      rw [hjob]
      rfl
  · cases hm

theorem answerLevel_cases {σ τ : Locks} {c : CallId} {k : HandleTask} {h : HandleId}
    {failed : Option String} (hk : k.place = .mutex h)
    (hm : answerLevel levelOf σ c k h failed = some τ) : Moved σ c k (.answer failed) τ := by
  unfold answerLevel at hm
  split at hm
  · rename_i hjob
    cases hm
    refine .leaveMutex _ σ.thinkingLevel h _ hk ?_ (by simp) ?_
    all_goals
      rw [hjob]
      rfl
  · rename_i hjob
    cases hm
    refine .leaveMutex _ _ h _ hk ?_ (by simp) ?_
    all_goals
      rw [hjob]
      rfl
  · rename_i hjob
    cases hm
    refine .leaveMutex _ σ.thinkingLevel h _ hk ?_ (by simp) ?_
    all_goals
      rw [hjob]
      rfl
  · cases hm

/-- **What a step of a task can do.** -/
theorem moveStep_cases {σ τ : Locks} {c : CallId} {k : HandleTask} {m : Move}
    (h : moveStep levelOf σ c k k.place m = some τ) : Moved σ c k m τ := by
  generalize hp : k.place = p at h
  unfold moveStep at h
  split at h
  case h_1 => cases h; exact .askTable _ _ (Or.inl ⟨hp, rfl⟩)
  case h_2 =>
    obtain ⟨hh, h⟩ := Option.ite_none_right_eq_some.mp h
    exact lookUp_cases hp hh h
  case h_3 => exact removeHandle_cases hp (Option.ite_none_right_eq_some.mp h).2
  case h_4 => cases h; exact .create _ _ hp (Or.inl rfl)
  case h_5 => cases h; exact .create _ _ hp (Or.inr rfl)
  case h_6 => cases h; exact .askTable _ _ (Or.inr ⟨_, hp, rfl⟩)
  case h_7 =>
    obtain ⟨-, h⟩ := Option.ite_none_right_eq_some.mp h
    cases h
    exact insertHandle_moved hp
  case h_8 => cases h; exact .askMutex _ hp
  case h_9 => exact endRun_cases hp (Option.ite_none_right_eq_some.mp h).2
  case h_10 => exact answerLevel_cases hp (Option.ite_none_right_eq_some.mp h).2
  case h_11 =>
    cases h
    exact .leaveTable _ σ.sessionHandles _ (by rw [hp]; rfl) (by simp [hp]) rfl (by simp)
      (k.job.reaches_finished _)
  case h_12 => cases h

/-- A step of the tasks is a new task or a step of a task. -/
theorem lockStep_cases {σ τ : Locks} {a : LockAction} (h : lockStep levelOf σ a = some τ) :
    (∃ c job, a = .arrive c job ∧ σ.tasks c = none ∧ τ = σ.put c ⟨job, job.first⟩) ∨
      ∃ c m k, a = .move c m ∧ σ.tasks c = some k ∧ Moved σ c k m τ := by
  cases a with
  | arrive c job =>
    obtain ⟨hnew, h⟩ := Option.ite_none_right_eq_some.mp h
    exact Or.inl ⟨c, job, rfl, by simpa using hnew, (Option.some.inj h).symm⟩
  | move c m =>
    obtain ⟨k, hk, h⟩ := Option.bind_eq_some_iff.mp h
    exact Or.inr ⟨c, m, k, rfl, hk, moveStep_cases h⟩

/-! ## A task has to do with the locks its place says -/

/-- Every task has to do with exactly the locks its place says. -/
structure Placed (σ : Locks) : Prop where
  /-- The lock of the table. -/
  table : ∀ c, σ.tableLock.Uses c ↔ ∃ k, σ.tasks c = some k ∧ k.place.usesTable k.job = true
  /-- The mutexes. -/
  mutex : ∀ c h, (σ.mutex h).Uses c ↔ ∃ k, σ.tasks c = some k ∧ k.place = .mutex h
  /-- A task that has gone on with the lock of the table holds it. -/
  keeps : ∀ c k, σ.tasks c = some k → k.place.keepsTable k.job = true → σ.tableLock.Holds c
  /-- A task is where it can come to. -/
  reaches : ∀ c k, σ.tasks c = some k → k.job.reaches k.place = true

/-- The task `c` has gone to `p`, and the locks say so. -/
structure Goes (σ : Locks) (c : CallId) (k : HandleTask) (p : Place) (τ : Locks) : Prop where
  tasks : τ.tasks = Function.update σ.tasks c (some { k with place := p })
  table : ∀ u, τ.tableLock.Uses u ↔
    u = c ∧ p.usesTable k.job = true ∨ u ≠ c ∧ σ.tableLock.Uses u
  mutex : ∀ u h, (τ.mutex h).Uses u ↔ u = c ∧ p = .mutex h ∨ u ≠ c ∧ (σ.mutex h).Uses u
  holds : ∀ u, u ≠ c → σ.tableLock.Holds u → τ.tableLock.Holds u
  waits : ∀ u h, u ≠ c → (τ.mutex h).Waits u → (σ.mutex h).Waits u
  keeps : p.keepsTable k.job = true → τ.tableLock.Holds c
  reaches : k.job.reaches p = true

theorem placed_init : Placed .init where
  table c := by simp [Locks.init]
  mutex c h := by simp [Locks.init]
  keeps c k h := by simp [Locks.init] at h
  reaches c k h := by simp [Locks.init] at h

theorem Placed.of_goes {σ τ : Locks} {c : CallId} {k : HandleTask} {p : Place} (hσ : Placed σ)
    (h : Goes σ c k p τ) : Placed τ where
  table u := by
    rw [h.table, h.tasks]
    rcases eq_or_ne u c with rfl | hu
    · simp
    · simp [hu, hσ.table]
  mutex u hd := by
    rw [h.mutex, h.tasks]
    rcases eq_or_ne u c with rfl | hu
    · simp
    · simp [hu, hσ.mutex]
  keeps u k' hk hkeep := by
    rw [h.tasks] at hk
    rcases eq_or_ne u c with rfl | hu
    · rw [Function.update_self, Option.some_inj] at hk
      subst hk
      exact h.keeps hkeep
    · rw [Function.update_of_ne hu] at hk
      exact h.holds u hu (hσ.keeps u k' hk hkeep)
  reaches u k' hk := by
    rw [h.tasks] at hk
    rcases eq_or_ne u c with rfl | hu
    · rw [Function.update_self, Option.some_inj] at hk
      subst hk
      exact h.reaches
    · rw [Function.update_of_ne hu] at hk
      exact hσ.reaches u k' hk

/-- A task that has to do with no lock goes on without one. -/
theorem Goes.of_still {σ τ : Locks} {c : CallId} {k : HandleTask} {p : Place}
    (htasks : τ.tasks = Function.update σ.tasks c (some { k with place := p }))
    (ht : τ.tableLock = σ.tableLock) (hm : τ.mutex = σ.mutex)
    (huse : σ.tableLock.Uses c ↔ p.usesTable k.job = true)
    (hfree : ∀ h, ¬ (σ.mutex h).Uses c) (hp : ∀ h, p ≠ .mutex h)
    (hkeep : p.keepsTable k.job = true → σ.tableLock.Holds c) (hr : k.job.reaches p = true) :
    Goes σ c k p τ where
  tasks := htasks
  table u := by
    rw [ht]
    rcases eq_or_ne u c with rfl | hu
    · simpa using huse
    · simp [hu]
  mutex u h := by
    rw [hm]
    rcases eq_or_ne u c with rfl | hu
    · simp [hfree h, hp h]
    · simp [hu]
  holds u hu h := ht ▸ h
  waits u h hu hw := hm ▸ hw
  keeps h := ht ▸ hkeep h
  reaches := hr

/-- A task that has to do with no mutex asks for the lock of the table, or is done with it. -/
theorem Goes.of_table {σ τ : Locks} {c : CallId} {k : HandleTask} {p : Place}
    (htasks : τ.tasks = Function.update σ.tasks c (some { k with place := p }))
    (hm : τ.mutex = σ.mutex) (hfree : ∀ h, ¬ (σ.mutex h).Uses c) (hp : ∀ h, p ≠ .mutex h)
    (ht : ∀ u, τ.tableLock.Uses u ↔
      u = c ∧ p.usesTable k.job = true ∨ u ≠ c ∧ σ.tableLock.Uses u)
    (hh : ∀ u, u ≠ c → σ.tableLock.Holds u → τ.tableLock.Holds u)
    (hkeep : p.keepsTable k.job = false) (hr : k.job.reaches p = true) : Goes σ c k p τ where
  tasks := htasks
  table := ht
  mutex u h := by
    rw [hm]
    rcases eq_or_ne u c with rfl | hu
    · simp [hfree h, hp h]
    · simp [hu]
  holds := hh
  waits u h hu hw := hm ▸ hw
  keeps h := by rw [hkeep] at h; cases h
  reaches := hr

/-- A task asks for a mutex. -/
theorem Goes.of_askMutex {σ : Locks} {c : CallId} {k : HandleTask} {h : HandleId}
    (hfree : ∀ h, ¬ (σ.mutex h).Uses c)
    (ht : σ.tableLock.Uses c ↔ k.job.isThinking = true)
    (hkeep : k.job.isThinking = true → σ.tableLock.Holds c) :
    Goes σ c k (.mutex h) ((σ.askMutex c h).goto c k (.mutex h)) where
  tasks := rfl
  table u := by
    show σ.tableLock.Uses u ↔ u = c ∧ k.job.isThinking = true ∨ u ≠ c ∧ σ.tableLock.Uses u
    rcases eq_or_ne u c with rfl | hu
    · simpa using ht
    · simp [hu]
  mutex u h' := by
    show (Function.update σ.mutex h ((σ.mutex h).ask c .write) h').Uses u ↔ _
    rcases eq_or_ne h' h with rfl | hh
    · rw [Function.update_self, Lock.uses_ask]
      rcases eq_or_ne u c with rfl | hu
      · simp
      · simp [hu]
    · rw [Function.update_of_ne hh]
      rcases eq_or_ne u c with rfl | hu
      · simp [hfree h', hh.symm]
      · simp [hu]
  holds u hu hh := hh
  waits u h' hu hw := by
    change (Function.update σ.mutex h ((σ.mutex h).ask c .write) h').Waits u at hw
    rcases eq_or_ne h' h with rfl | hh
    · rw [Function.update_self] at hw
      exact hw.of_ask.resolve_right hu
    · rwa [Function.update_of_ne hh] at hw
  keeps := hkeep
  reaches := k.job.reaches_mutex h

/-- A task is done with a mutex. -/
theorem Goes.of_leaveMutex {σ τ : Locks} {c : CallId} {k : HandleTask} {h : HandleId} {p : Place}
    (htasks : τ.tasks = Function.update σ.tasks c (some { k with place := p }))
    (htable : τ.tableLock = σ.tableLock)
    (hm : τ.mutex = Function.update σ.mutex h ((σ.mutex h).release c))
    (hother : ∀ h', h' ≠ h → ¬ (σ.mutex h').Uses c) (hp : ∀ h, p ≠ .mutex h)
    (ht : σ.tableLock.Uses c ↔ p.usesTable k.job = true)
    (hkeep : p.keepsTable k.job = true → σ.tableLock.Holds c)
    (hr : k.job.reaches p = true) : Goes σ c k p τ where
  tasks := htasks
  table u := by
    rw [htable]
    rcases eq_or_ne u c with rfl | hu
    · simpa using ht
    · simp [hu]
  mutex u h' := by
    rw [hm]
    rcases eq_or_ne h' h with rfl | hh
    · rw [Function.update_self, Lock.uses_release]
      simp [hp h', and_comm]
    · rw [Function.update_of_ne hh]
      rcases eq_or_ne u c with rfl | hu
      · simp [hother h' hh, hp h']
      · simp [hu]
  holds u hu hh := htable ▸ hh
  waits u h' hu hw := by
    rw [hm] at hw
    rcases eq_or_ne h' h with rfl | hh
    · rw [Function.update_self] at hw
      exact hw.of_release
    · rwa [Function.update_of_ne hh] at hw
  keeps hk := htable ▸ hkeep hk
  reaches := hr

section Placed

variable {σ τ : Locks} {c : CallId} {k : HandleTask} {m : Move}

theorem Placed.uses_table_iff (hσ : Placed σ) (hk : σ.tasks c = some k) :
    σ.tableLock.Uses c ↔ k.place.usesTable k.job = true := by
  simp [hσ.table, hk]

theorem Placed.uses_mutex_iff (hσ : Placed σ) (hk : σ.tasks c = some k) {h : HandleId} :
    (σ.mutex h).Uses c ↔ k.place = .mutex h := by
  simp [hσ.mutex, hk]

/-- **A step takes a task to a place, and the locks follow.**  A handler for the thinking level
comes to a mutex only when it has found the handle of its session in the table. -/
theorem goes_of_moved (hσ : Placed σ) (hk : σ.tasks c = some k) (h : Moved σ c k m τ) :
    ∃ p, Goes σ c k p τ ∧ ∀ hd, p = .mutex hd → k.job.isThinking = true →
      m = .lookUp ∧ k.place = .table ∧ σ.sessionHandles k.job.session = some hd ∧
        τ.mutex hd = (σ.mutex hd).ask c .write := by
  have hreach := hσ.reaches c k hk
  have hfree : (∀ h, k.place ≠ .mutex h) → ∀ h, ¬ (σ.mutex h).Uses c :=
    fun hp h hu ↦ hp h ((hσ.uses_mutex_iff hk).mp hu)
  have hunused : k.place.usesTable k.job = false → ¬ σ.tableLock.Uses c := by
    intro hp hu
    rw [hσ.uses_table_iff hk, hp] at hu
    cases hu
  cases h with
  | askTable m p hp =>
    have hnot : ¬ σ.tableLock.Uses c :=
      hunused (by rcases hp with ⟨hp, -⟩ | ⟨h, hp, -⟩ <;> rw [hp] <;> rfl)
    have huse : p.usesTable k.job = true := by
      rcases hp with ⟨-, rfl⟩ | ⟨h, -, rfl⟩ <;> rfl
    have hne : ∀ h, p ≠ .mutex h := by
      rcases hp with ⟨-, rfl⟩ | ⟨h, -, rfl⟩ <;> simp
    refine ⟨p, .of_table rfl rfl (hfree ?_) hne ?_ (fun u _ hu ↦ hu.ask) ?_ ?_,
      fun hd hp' ↦ absurd hp' (hne hd)⟩
    · rcases hp with ⟨hp, -⟩ | ⟨h, hp, -⟩ <;> simp [hp]
    · intro u
      rw [show ((σ.askTable c m).goto c k p).tableLock = σ.tableLock.ask c m from rfl,
        Lock.uses_ask]
      rcases eq_or_ne u c with rfl | hu
      · simp [huse]
      · simp [hu]
    · rcases hp with ⟨-, rfl⟩ | ⟨h, -, rfl⟩ <;> rfl
    · rcases hp with ⟨hp, rfl⟩ | ⟨h, hp, rfl⟩
      · rwa [hp, ← Job.reaches_table] at hreach
      · rwa [hp, Job.reaches_of_opening (h := h) (q := .store h) (by simp) (by simp)] at hreach
  | leaveTable m f p hu hk' hp hp' hr =>
    have htable : (({ σ with sessionHandles := f }.leaveTable c).goto c k p).tableLock =
      σ.tableLock.release c := rfl
    refine ⟨p, .of_table rfl rfl (hfree hk') hp' ?_ (fun u hu h ↦ h.release hu) ?_ hr,
      fun hd hp ↦ absurd hp (hp' hd)⟩
    · intro u
      rw [htable, Lock.uses_release, hp]
      simp [and_comm]
    · cases p <;> first | rfl | exact hp
  | keepTable r hp hh ht =>
    exact ⟨_, .of_still rfl rfl rfl (iff_of_true (Or.inl hh) rfl) (hfree (by simp [hp])) (by simp)
      (fun _ ↦ hh) (by rw [Job.reaches_leaving, ht]), fun hd h ↦ by cases h⟩
  | askBoth h hp hh ht hf =>
    refine ⟨_, .of_askMutex (hfree (by simp [hp])) (iff_of_true (Or.inl hh) ht) (fun _ ↦ hh), ?_⟩
    rintro hd ⟨⟩ -
    exact ⟨rfl, hp, hf, by simp [Locks.goto, Locks.put, Locks.askMutex]⟩
  | askMutex h hp =>
    have ht : k.job.isThinking = false := by
      rw [hp] at hreach
      rcases k with ⟨job, place⟩
      cases job <;> simp_all [Job.reaches, Job.isThinking]
    have huse : ¬ σ.tableLock.Uses c := hunused (by rw [hp]; rfl)
    exact ⟨_, .of_askMutex (hfree (by simp [hp])) (by simp [huse, ht]) (by simp [ht]),
      fun hd _ h ↦ by simp [ht] at h⟩
  | leaveMutex m lv h p hp huse hp' hr =>
    have hother : ∀ h', h' ≠ h → ¬ (σ.mutex h').Uses c := by
      intro h' hne hu
      rw [hσ.uses_mutex_iff hk, hp, Place.mutex.injEq] at hu
      exact hne hu.symm
    have hplace : k.place.usesTable k.job = k.job.isThinking := by rw [hp]; rfl
    refine ⟨p, .of_leaveMutex rfl rfl rfl hother hp' ?_ ?_ hr, fun hd hp ↦ absurd hp (hp' hd)⟩
    · rw [hσ.uses_table_iff hk, hplace, huse]
    · intro hkeep
      refine hσ.keeps c k hk ?_
      rw [hp]
      show k.job.isThinking = true
      rw [← huse]
      cases p <;> first | rfl | cases hkeep | exact absurd rfl (hp' _)
  | create m p hp hp' =>
    have huse : ¬ σ.tableLock.Uses c := hunused (by rw [hp]; rfl)
    have hnone : p.usesTable k.job = false ∧ p.keepsTable k.job = false ∧ ∀ h, p ≠ .mutex h := by
      rcases hp' with rfl | rfl <;> exact ⟨rfl, rfl, by simp⟩
    refine ⟨p, .of_still rfl rfl rfl (by simp [huse, hnone.1]) (hfree (by simp [hp])) hnone.2.2
      (by simp [hnone.2.1]) ?_, fun hd h ↦ absurd h (hnone.2.2 hd)⟩
    rcases hp' with rfl | rfl
    · rwa [hp, Job.reaches_of_opening (h := c) (q := .storing c) (by simp) (by simp)] at hreach
    · exact k.job.reaches_finished none

theorem placed_step {levelOf : String → String} {a : LockAction} (hσ : Placed σ)
    (h : lockStep levelOf σ a = some τ) : Placed τ := by
  rcases lockStep_cases h with ⟨c, job, rfl, hnew, rfl⟩ | ⟨c, m, k, rfl, hk, hm⟩
  · have huse : ¬ σ.tableLock.Uses c := by simp [hσ.table, hnew]
    have hfree : ∀ h, ¬ (σ.mutex h).Uses c := by simp [hσ.mutex, hnew]
    refine hσ.of_goes (k := ⟨job, job.first⟩) (p := job.first)
      (.of_still rfl rfl rfl ?_ hfree ?_ ?_ ?_)
    all_goals cases job <;> simp [Job.first, Place.usesTable, Place.keepsTable, Job.reaches, huse,
      Job.isThinking]
  · obtain ⟨p, hgo, -⟩ := goes_of_moved hσ hk hm
    exact hσ.of_goes hgo

end Placed

/-! ## Who waits for whom -/

/-- `y` keeps `x` waiting for one of the locks. -/
def Locks.WaitsFor (σ : Locks) (x y : CallId) : Prop :=
  σ.tableLock.Ahead y x ∨ ∃ h, (σ.mutex h).Ahead y x

/-- The task is in an agent run with the mutex of `h` in its hands. -/
def Locks.RunsAgent (σ : Locks) (a : CallId) (h : HandleId) : Prop :=
  (∃ s, σ.tasks a = some ⟨.prompt s, .mutex h⟩) ∧ (σ.mutex h).Holds a

section Unblocked

variable (levelOf : String → String)

/-- **Nobody who needs the table is held up by an agent run.** -/
structure Locks.Unblocked (σ : Locks) : Prop where
  /-- Who holds the lock of the table does not wait for a mutex. -/
  not_nested : ∀ u h, σ.tableLock.Holds u → ¬ (σ.mutex h).Waits u
  /-- Who waits for the lock of the table does not wait for an agent run, directly or through
  others. -/
  not_held_up : ∀ k a h, σ.tableLock.Waits k → σ.RunsAgent a h →
    ¬ Relation.TransGen σ.WaitsFor k a
  /-- Who holds the lock of the table can take a step, which is not the end of an agent run. -/
  can_move : ∀ u, σ.tableLock.Holds u →
    ∃ m τ, m ≠ .runEnds ∧ lockStep levelOf σ (.move u m) = some τ

/-- The condition on a step: a handler for the thinking level that finds a handle finds its mutex
free. -/
def MutexFree (σ : Locks) : LockAction → Prop
  | .move c .lookUp => ∀ k h, σ.tasks c = some k → k.job.isThinking = true →
      σ.sessionHandles k.job.session = some h → (σ.mutex h).holders = []
  | _ => True

variable {levelOf} {σ τ : Locks}

/-- Everybody on the way from who waits for the lock of the table has to do with that lock. -/
theorem uses_table_of_waitsFor (hσ : Placed σ)
    (hnest : ∀ u h, σ.tableLock.Holds u → ¬ (σ.mutex h).Waits u) {x y : CallId}
    (hx : σ.tableLock.Uses x) (h : σ.WaitsFor x y) : σ.tableLock.Uses y := by
  rcases h with h | ⟨hd, h⟩
  · exact h.uses
  · -- who waits for a mutex and has to do with the table has it in its hands
    obtain ⟨k, hk, hplace⟩ := (hσ.mutex x hd).mp (Or.inr h.waits)
    have hkeep : k.place.keepsTable k.job = true := by
      have huse := (hσ.uses_table_iff hk).mp hx
      rw [hplace] at huse ⊢
      exact huse
    exact absurd h.waits (hnest x hd (hσ.keeps x k hk hkeep))

/-- Whoever holds the lock of the table and waits for no mutex can take a step, which is not the
end of an agent run. -/
theorem exists_move_of_holds (hσ : Placed σ) {u : CallId} (hu : σ.tableLock.Holds u)
    (hwait : ∀ h, ¬ (σ.mutex h).Waits u) :
    ∃ m τ, m ≠ .runEnds ∧ lockStep levelOf σ (.move u m) = some τ := by
  obtain ⟨k, hk, huse⟩ := (hσ.table u).mp (Or.inl hu)
  have hreach := hσ.reaches u k hk
  have hstep : ∀ m, lockStep levelOf σ (.move u m) = moveStep levelOf σ u k k.place m := by
    intro m
    rw [lockStep, hk, Option.bind_some]
  obtain ⟨job, place⟩ := k
  cases place with
  | table =>
    -- `set_project` removes the handle, and all others look theirs up
    have hset : (∃ s, job = .setProject s) ∨
        ∃ τ, lookUp σ u ⟨job, .table⟩ = some τ := by
      cases hf : σ.sessionHandles job.session <;> cases job <;>
        simp_all [lookUp, Job.reaches]
    rcases hset with ⟨s, rfl⟩ | ⟨τ, hτ⟩
    · exact ⟨.remove, _, by simp, by rw [hstep, moveStep, if_pos hu]; rfl⟩
    · exact ⟨.lookUp, τ, by simp, by rw [hstep, moveStep, if_pos hu, hτ]⟩
  | store hd => exact ⟨.insert, _, by simp, by rw [hstep, moveStep, if_pos hu]⟩
  | mutex hd =>
    have hmutex : (σ.mutex hd).Holds u :=
      ((hσ.uses_mutex_iff hk).mpr rfl).resolve_right (hwait hd)
    have hanswer : ∃ τ, answerLevel levelOf σ u ⟨job, .mutex hd⟩ hd none = some τ := by
      cases job with
      | getThinking sid => exact ⟨_, rfl⟩
      | setThinking body => exact ⟨_, rfl⟩
      | _ => cases huse
    obtain ⟨τ, hτ⟩ := hanswer
    exact ⟨.answer none, τ, by simp, by rw [hstep, moveStep, if_pos hmutex, hτ]⟩
  | leaving r => exact ⟨.leave, _, by simp, by rw [hstep, moveStep]⟩
  | _ => cases huse

/-- **It all hangs on the first law.** -/
theorem unblocked_iff_not_nested (hσ : Placed σ) : σ.Unblocked levelOf ↔
    ∀ u h, σ.tableLock.Holds u → ¬ (σ.mutex h).Waits u := by
  refine ⟨Locks.Unblocked.not_nested, fun hnest ↦
    ⟨hnest, ?_, fun u hu ↦ exists_move_of_holds hσ hu fun h ↦ hnest u h hu⟩⟩
  rintro k a h hk ⟨⟨s, ha⟩, -⟩ hpath
  have huse : ∀ y, Relation.TransGen σ.WaitsFor k y → σ.tableLock.Uses y := by
    intro y hy
    induction hy with
    | single h => exact uses_table_of_waitsFor hσ hnest (Or.inr hk) h
    | tail _ h ih => exact uses_table_of_waitsFor hσ hnest ih h
  -- but an agent run has nothing to do with that lock
  have hrun := (hσ.uses_table_iff ha).mp (huse a hpath)
  cases hrun

/-! ## The condition, exactly -/

/-- A task that looks its session up holds the lock of the table. -/
theorem lockStep_lookUp_eq_some {c : CallId} {k : HandleTask} (hk : σ.tasks c = some k) :
    lockStep levelOf σ (.move c .lookUp) = some τ ↔
      k.place = .table ∧ σ.tableLock.Holds c ∧ lookUp σ c k = some τ := by
  rw [lockStep, hk, Option.bind_some]
  cases hp : k.place <;> simp [moveStep]

/-- A handler for the thinking level that finds a handle asks for its mutex. -/
theorem lookUp_of_isThinking {c : CallId} {k : HandleTask} {h : HandleId}
    (ht : k.job.isThinking = true) (hf : σ.sessionHandles k.job.session = some h) :
    lookUp σ c k = some ((σ.askMutex c h).goto c k (.mutex h)) := by
  obtain ⟨job, place⟩ := k
  cases job with
  | getThinking sid => unfold lookUp; rw [hf]
  | setThinking body => unfold lookUp; rw [hf]
  | _ => cases ht

/-- **A step keeps everybody unblocked exactly if it meets the condition.** -/
theorem unblocked_step_iff (hσ : Placed σ) (hfree : σ.Unblocked levelOf) {a : LockAction}
    (h : lockStep levelOf σ a = some τ) : τ.Unblocked levelOf ↔ MutexFree σ a := by
  have hτ := placed_step hσ h
  rw [unblocked_iff_not_nested hτ]
  rcases lockStep_cases h with ⟨c, job, rfl, hnew, rfl⟩ | ⟨c, m, k, rfl, hk, hm⟩
  · exact iff_of_true hfree.not_nested trivial
  constructor
  · intro hnest
    cases m with
    | lookUp =>
      intro k' hd hk' ht hf
      obtain rfl : k' = k := Option.some.inj (hk'.symm.trans hk)
      obtain ⟨hp, hh, hlook⟩ := (lockStep_lookUp_eq_some hk).mp h
      rw [lookUp_of_isThinking ht hf, Option.some_inj] at hlook
      subst hlook
      -- the handler has the table in its hands, so it must not wait
      by_contra hne
      have huse : ¬ (σ.mutex hd).Uses c := by
        rw [hσ.uses_mutex_iff hk, hp]
        simp
      refine hnest c hd hh ?_
      show (Function.update σ.mutex hd ((σ.mutex hd).ask c .write) hd).Waits c
      rw [Function.update_self]
      exact (Lock.waits_ask_write huse).mpr hne
    | _ => trivial
  · intro hG u hd hu hw
    obtain ⟨p, hgo, hthink⟩ := goes_of_moved hσ hk hm
    obtain ⟨k', hk', hplace⟩ := (hτ.mutex u hd).mp (Or.inr hw)
    have ht : k'.job.isThinking = true := by
      have huse := (hτ.uses_table_iff hk').mp (Or.inl hu)
      rwa [hplace] at huse
    rw [hgo.tasks] at hk'
    rcases eq_or_ne u c with rfl | hne
    · -- the task has come to the mutex by this step, and found it free
      rw [Function.update_self, Option.some_inj] at hk'
      subst hk'
      obtain ⟨rfl, hp, hf, hmutex⟩ := hthink hd hplace ht
      have huse : ¬ (σ.mutex hd).Uses u := by
        rw [hσ.uses_mutex_iff hk, hp]
        simp
      rw [hmutex] at hw
      exact (Lock.waits_ask_write huse).mp hw (hG k hd hk ht hf)
    · rw [Function.update_of_ne hne] at hk'
      have hkeep : k'.place.keepsTable k'.job = true := by
        rw [hplace]
        exact ht
      exact hfree.not_nested u hd (hσ.keeps u k' hk' hkeep) (hgo.waits u hd hne hw)

theorem unblocked_init : Locks.init.Unblocked levelOf :=
  (unblocked_iff_not_nested placed_init).mpr fun _ _ h ↦ absurd (Or.inl h) Lock.not_uses_free

/-- **Nobody is held up by an agent run, in the runs in which no handler for the thinking level
finds the mutex of its handle taken**, and in no others. -/
theorem unblocked_iff_guarded (as : List LockAction) (final : Locks)
    (hrun : Machine.exec (lockStep levelOf) .init as = some final) :
    (∀ pre post σ, as = pre ++ post → Machine.exec (lockStep levelOf) .init pre = some σ →
        σ.Unblocked levelOf) ↔
      Machine.Guarded (lockStep levelOf) MutexFree .init as :=
  Machine.forall_iff_guarded (fun _ _ _ ↦ placed_step)
    (fun _ _ _ hσ hfree ↦ unblocked_step_iff hσ hfree) placed_init unblocked_init hrun

end Unblocked

/-! ## A look at the thinking level during a run -/

/-- A prompt for a session without a handle, up to its agent run. -/
def exampleRun : List LockAction :=
  [.arrive 0 (.prompt "s"), .move 0 .ask, .move 0 .lookUp, .move 0 .created, .move 0 .ask,
    .move 0 .insert, .move 0 .ask]

/-- The level is read after the run. -/
def exampleQuiet : List LockAction :=
  exampleRun ++ [.move 0 .runEnds, .arrive 1 (.getThinking (some "s")), .move 1 .ask,
    .move 1 .lookUp, .move 1 (.answer none), .move 1 .leave]

/-- The level is read during the run; a new chat and a prompt for another session come after. -/
def exampleHeldUp : List LockAction :=
  exampleRun ++ [.arrive 1 (.getThinking (some "s")), .move 1 .ask, .move 1 .lookUp,
    .arrive 2 (.newChat "t"), .move 2 .created, .move 2 .ask, .arrive 3 (.prompt "u"),
    .move 3 .ask]

theorem unblocked_iff_guarded_example :
    ∃ final, Machine.exec (lockStep id) .init exampleQuiet = some final ∧
      ((∀ pre post σ, exampleQuiet = pre ++ post → Machine.exec (lockStep id) .init pre = some σ →
          σ.Unblocked id) ↔ Machine.Guarded (lockStep id) MutexFree .init exampleQuiet) := by
  obtain ⟨final, hrun⟩ : ∃ final, Machine.exec (lockStep id) .init exampleQuiet = some final :=
    ⟨_, rfl⟩
  exact ⟨final, hrun, unblocked_iff_guarded exampleQuiet final hrun⟩

/-- **One look at the thinking level during a run holds everybody up.**  It waits for the mutex of
the run with the lock of the table in its hands, a new chat waits behind it, and a prompt for a
third session behind the new chat. -/
theorem not_unblocked_of_exec : ∃ σ, Machine.exec (lockStep id) .init exampleHeldUp = some σ ∧
    σ.RunsAgent 0 0 ∧ σ.tableLock.Holds 1 ∧ (σ.mutex 0).Waits 1 ∧ σ.tableLock.Waits 2 ∧
      σ.tableLock.Waits 3 ∧ Relation.TransGen σ.WaitsFor 3 0 ∧ ¬ σ.Unblocked id := by
  obtain ⟨σ, hrun, hprompt, hheld, hholds, hwaits, htwo, hthree, hahead, hahead'⟩ :
      ∃ σ, Machine.exec (lockStep id) .init exampleHeldUp = some σ ∧
        σ.tasks 0 = some ⟨.prompt "s", .mutex 0⟩ ∧ (σ.mutex 0).Holds 0 ∧ σ.tableLock.Holds 1 ∧
        (σ.mutex 0).Waits 1 ∧ σ.tableLock.Waits 2 ∧ σ.tableLock.Waits 3 ∧
        σ.tableLock.Ahead 1 3 ∧ (σ.mutex 0).Ahead 0 1 := by
    exact ⟨_, rfl, rfl, ⟨.write, .head _⟩, ⟨.read, .head _⟩, ⟨.write, .head _⟩,
      ⟨.write, .head _⟩, ⟨.read, .tail _ (.head _)⟩,
      ⟨[(2, .write)], .read, [], rfl, .inl ⟨.read, .head _⟩⟩,
      ⟨[], .write, [], rfl, .inl ⟨.write, .head _⟩⟩⟩
  refine ⟨σ, hrun, ⟨⟨"s", hprompt⟩, hheld⟩, hholds, hwaits, htwo, hthree, ?_,
    fun h ↦ h.not_nested 1 0 hholds hwaits⟩
  exact .tail (.single (Or.inl hahead)) (Or.inr ⟨0, hahead'⟩)

end WorkWithMe.Server
