import WorkWithMe.Pi.Frames
import WorkWithMe.Pi.Runs

/-!
# Messages that are put in are not lost

While a run goes on, messages may be put in: for as soon as possible, or for when the agent has
nothing more to do.  They come from fetchers, wait in the queue, are given out, some of them or all,
and become messages of the conversation.  A run looks for them at many places, even while tools are
executed.

* `books` is what is known of such messages; most parts of a run leave it as it is.
* `Ledger` is that each of them was told, is about to be told, or waits in the queue, in the order in
  which they came.
* `Agent.run_delivers` says so of every moment of a run, and that nothing is about to be told when it
  is over; after a good reply nothing waits in the queue either.
-/

set_option autoImplicit false

namespace WorkWithMe.Pi

open Dialog

/-! ## The books -/

/-- The messages of a kind that fetchers have given, the oldest one first. -/
def fetched (k : QueueKind) : Log → List Message
  | [] => []
  | .heard (.fetched k' ms) :: l => if k' = k then fetched k l ++ ms else fetched k l
  | _ :: l => fetched k l

/-- The inputs that were told, the oldest one first. -/
def toldInputs (l : Log) : List Message := (told l).filter Message.isInput

/-- What was told of the messages that were put in, what the fetchers have given, and what waits. -/
def books (w : Moment) : List Message × (QueueKind → List Message) × MessageQueue :=
  (toldInputs w.log, fun k ↦ fetched k w.log, w.state.agent.messageQueue)

/-- The event is the end of an input. -/
def AgentEvent.tellsInput : AgentEvent → Bool
  | .messageEnd m => m.isInput
  | _ => false

theorem toldInputs_event {e : AgentEvent} (he : e.tellsInput = false) (l : Log) :
    toldInputs (.said (.event e) :: l) = toldInputs l := by
  cases e with
  | messageEnd m =>
    have hm : m.isInput = false := he
    rw [toldInputs, told, List.filter_append, List.filter_singleton, hm]
    exact List.append_nil _
  | _ => rfl

/-- What a fetcher gives. -/
def Answer.isFetched : Answer → Bool
  | .fetched _ _ => true
  | _ => false

theorem fetched_heard {i : Answer} (hi : i.isFetched = false) (k : QueueKind) (l : Log) :
    fetched k (.heard i :: l) = fetched k l := by
  cases i with
  | fetched => cases hi
  | _ => rfl

/-! ## Who leaves the books as they are -/

section Keeps

open Prog

theorem books_event (w : Moment) {e : AgentEvent} (he : e.tellsInput = false) :
    books (w.say (.event e)) = books w := by
  have hfetched : ∀ k, fetched k (.said (.event e) :: w.log) = fetched k w.log := fun _ ↦ rfl
  simp [books, toldInputs_event he, hfetched]

/-- An answer that no fetcher has given changes nothing, if it leaves the queue alone. -/
theorem books_hear {w : Moment} {i : Answer} {s : Running} (hi : i.isFetched = false)
    (hs : s.agent.messageQueue = w.state.agent.messageQueue) : books (w.hear i s) = books w := by
  have htold : toldInputs (.heard i :: w.log) = toldInputs w.log := rfl
  simp [books, fetched_heard hi, hs, htold]

theorem frame_books : Frame books where
  event w e he := by
    refine books_event w ?_
    cases e with
    | messageEnd m => simpa [AgentEvent.isPlain, AgentEvent.tellsInput] using he
    | _ => rfl
  call w e he := by
    cases e with
    | event => cases he
    | _ => rfl
  hear w i s hi hs := books_hear (by cases i <;> first | rfl | cases hi) hs.1
  change w g hg := by simp [books, hg.1]

theorem keeps_onEvent {e : AgentEvent} (he : e.tellsInput = false) : Keeps books (onEvent e) :=
  keeps_say fun w ↦ books_event w he

/-! ### Tools -/

theorem keeps_nextOccurrence (abortable : Bool) (flying : List Execution) :
    Keeps books (nextOccurrence abortable flying) := by
  refine keeps_ask fun w i o t hi ↦ ?_
  cases i with
  | abort =>
    obtain ⟨-, hi⟩ := Option.ite_none_right_eq_some.mp hi
    cases hi
    exact books_hear rfl rfl
  | fetched k ms =>
    obtain ⟨o, ho, -⟩ := Option.map_eq_some_iff.mp hi
    obtain ⟨x, -, hx⟩ := List.exists_of_findSome?_eq_some ho
    cases hx
  | _ =>
    obtain ⟨o, -, hs⟩ := Option.map_eq_some_iff.mp hi
    cases hs
    exact books_hear rfl rfl

theorem keeps_startTool (b : Batch) (index : ℕ) (call : ToolCall) :
    Keeps books (startTool b index call) := by
  refine keeps_read_bind fun s ↦ ?_
  dsimp only
  split
  · exact keeps_bind (keeps_say fun _ ↦ rfl) fun _ ↦ keeps_pure _
  · exact keeps_pure _

theorem keeps_onOccurrence (trim : String → String) (b : Batch) (o : Occurrence) :
    Keeps books (onOccurrence trim b o) := by
  cases o with
  | abort => exact keeps_pure _
  | polled index call =>
    exact keeps_read_bind fun s ↦ keeps_ite (keeps_pure _)
      (keeps_bind (keeps_startTool b index call) fun _ ↦ keeps_pure _)
  | hooked index call result =>
    match result with
    | some (true, reason) => exact keeps_read_bind fun s ↦ keeps_pure _
    | some (false, reason) =>
      exact keeps_bind (keeps_startTool b index call) fun _ ↦ keeps_pure _
    | none => exact keeps_bind (keeps_startTool b index call) fun _ ↦ keeps_pure _
  | update call content details =>
    exact keeps_bind (keeps_onEvent rfl) fun _ ↦ keeps_pure _
  | returned index result => exact keeps_read_bind fun s ↦ keeps_pure _
  | resultHooked index output isError => exact keeps_pure _

theorem keeps_batchRound (trim : String → String) (abortable : Bool) (b : Batch) :
    Keeps books (batchRound trim abortable b) :=
  keeps_ite (keeps_pure _) (keeps_bind (keeps_nextOccurrence _ _) fun _ ↦
    keeps_onOccurrence trim _ _)

theorem keeps_executeParallelBatch (trim : String → String) (batch : List (ℕ × ToolCall)) :
    Keeps books (executeParallelBatch trim batch) := keeps_loop (keeps_batchRound trim true) _

theorem keeps_executeTool (trim : String → String) (index : ℕ) (call : ToolCall) :
    Keeps books (executeTool trim index call) := keeps_loop (keeps_batchRound trim false) _

theorem keeps_flush (trim : String → String) (pending : List (ℕ × ToolCall)) (outputs : Outputs) :
    Keeps books (flush trim pending outputs) :=
  keeps_ite (keeps_pure _) (keeps_bind (keeps_executeParallelBatch trim pending) fun _ ↦
    keeps_pure _)

theorem keeps_reportFailure (call : ToolCall) (text : String) :
    Keeps books (reportFailure call text) :=
  keeps_bind (keeps_onEvent rfl) fun _ ↦ keeps_bind (keeps_onEvent rfl) fun _ ↦
    keeps_bind (frame_books.pushToolResult _) fun _ ↦ keeps_pure _

theorem keeps_reportToolCall (call : ToolCall) (output : Option (ToolOutput × Bool))
    (steering : Bool) : Keeps books (reportToolCall call output steering) := by
  cases output with
  | some r =>
    exact keeps_bind (keeps_onEvent rfl) fun _ ↦ keeps_bind (frame_books.pushToolResult _) fun _ ↦
      keeps_pure _
  | none => exact keeps_ite (keeps_reportFailure _ _) (keeps_reportFailure _ _)

end Keeps

/-! ## The ledger -/

/-- The messages of a kind. -/
def ofKind (k : QueueKind) (l : List (QueueKind × Message)) : List Message :=
  (l.filter (·.1 = k)).map Prod.snd

/-- Messages, all of which are of one kind. -/
def tagged (k : QueueKind) (ms : List Message) : List (QueueKind × Message) := ms.map (k, ·)

@[simp] theorem ofKind_append (k : QueueKind) (l l' : List (QueueKind × Message)) :
    ofKind k (l ++ l') = ofKind k l ++ ofKind k l' := by simp [ofKind]

@[simp] theorem ofKind_tagged_self (k : QueueKind) (ms : List Message) :
    ofKind k (tagged k ms) = ms := by
  simp [ofKind, tagged, List.filter_map, Function.comp_def]

theorem ofKind_tagged_of_ne {k k' : QueueKind} (h : k' ≠ k) (ms : List Message) :
    ofKind k' (tagged k ms) = [] := by
  simp [ofKind, tagged, List.filter_map, Function.comp_def, h.symm]

@[simp] theorem map_snd_tagged (k : QueueKind) (ms : List Message) :
    (tagged k ms).map Prod.snd = ms := by simp [tagged, Function.comp_def]

/-- Where the messages are that were put in: behind the prompts, `given` were told, `pending` are
about to be, and the others wait in the queue. -/
structure Ledger (agent : Agent) (prompts : List Message) (given pending : List (QueueKind × Message))
    (w : Moment) : Prop where
  told : toldInputs w.log = prompts ++ given.map Prod.snd
  conserved : ∀ k, ofKind k (given ++ pending) ++ w.state.agent.messageQueue.queued k =
    agent.messageQueue.queued k ++ fetched k w.log
  inputs : ∀ k, ∀ m ∈ agent.messageQueue.queued k ++ fetched k w.log, m.isInput = true

section Rules

variable {agent : Agent} {prompts : List Message} {given pending : List (QueueKind × Message)}
  {w v : Moment} {trim : String → String}

variable (agent prompts) in
/-- It is known of each message that was put in where it is. -/
def Accounted (w : Moment) : Prop := ∃ given pending, Ledger agent prompts given pending w

theorem Ledger.accounted (h : Ledger agent prompts given pending w) : Accounted agent prompts w :=
  ⟨given, pending, h⟩

/-- The ledger is a matter of the books. -/
theorem Ledger.of_books (h : Ledger agent prompts given pending w) (hv : books v = books w) :
    Ledger agent prompts given pending v := by
  simp only [books, Prod.mk.injEq, funext_iff] at hv
  obtain ⟨htold, hfetched, hqueue⟩ := hv
  refine ⟨htold.trans h.told, fun k ↦ ?_, fun k m hm ↦ ?_⟩
  · rw [hqueue, hfetched]
    exact h.conserved k
  · rw [hfetched] at hm
    exact h.inputs k m hm

/-- A call of a program that leaves the books as they are. -/
theorem wp_bookkeeping {α β : Type} {p : Go α} {k : α → Go β} {S : β → Moment → Prop}
    (hp : Prog.Keeps books p) (h : Ledger agent prompts given pending w)
    (hk : ∀ a v, books v = books w → Ledger agent prompts given pending v →
      (k a).wp Answer.IsFair S (Accounted agent prompts) v) :
    (p >>= k).wp Answer.IsFair S (Accounted agent prompts) w :=
  Prog.wp_keeps hp (fun _ hv ↦ (h.of_books hv).accounted) fun a v hv ↦ hk a v hv (h.of_books hv)

/-- What was put in are inputs. -/
theorem Ledger.isInput (h : Ledger agent prompts given pending w) :
    ∀ x ∈ given ++ pending, x.2.isInput = true := by
  intro x hx
  refine h.inputs x.1 x.2 ?_
  rw [← h.conserved]
  refine List.mem_append_left _ (List.mem_map.mpr ⟨x, List.mem_filter.mpr ⟨hx, ?_⟩, rfl⟩)
  simp

/-! ### What is given out, and what is told -/

/-- **What is drained** is about to be told. -/
theorem wp_drain (k : QueueKind) (h : Ledger agent prompts given pending w) :
    (drainMessages k).wp Answer.IsFair
      (fun ms v ↦ Ledger agent prompts given (pending ++ tagged k ms) v ∧
        (ms = [] → v.state.agent.messageQueue.queued k = []) ∧
        ∀ k', k' ≠ k → v.state.agent.messageQueue.queued k' =
          w.state.agent.messageQueue.queued k')
      (Accounted agent prompts) w := by
  refine wp_drainMessages (I := fun v ↦ Ledger agent prompts given pending v ∧ ∀ k', k' ≠ k →
    v.state.agent.messageQueue.queued k' = w.state.agent.messageQueue.queued k')
    ⟨h, fun _ _ ↦ rfl⟩ (fun v hv ↦ hv.1.accounted) (fun v ms hv hms ↦ ?_) fun v hv ↦ ?_
  · obtain ⟨hv, hother⟩ := hv
    have hself : fetched k (.heard (.fetched k ms) :: v.log) = fetched k v.log ++ ms := by
      rw [fetched, if_pos rfl]
    have hne : ∀ k', k' ≠ k → fetched k' (.heard (.fetched k ms) :: v.log) = fetched k' v.log :=
      fun k' hk ↦ by rw [fetched, if_neg hk.symm]
    refine ⟨⟨hv.told, fun k' ↦ ?_, fun k' m hm ↦ ?_⟩, fun k' hk ↦ ?_⟩
    · by_cases hk : k' = k
      · subst hk
        rw [World.log_hear, hself, World.state_hear, Running.setQueue,
          MessageQueue.queued_push_self, ← List.append_assoc, hv.conserved, List.append_assoc]
      · rw [World.log_hear, hne k' hk, World.state_hear, Running.setQueue,
          MessageQueue.queued_push_of_ne _ _ _ _ hk]
        exact hv.conserved k'
    · by_cases hk : k' = k
      · subst hk
        rw [World.log_hear, hself, ← List.append_assoc] at hm
        exact (List.mem_append.mp hm).elim (hv.inputs k' m) (hms m)
      · rw [World.log_hear, hne k' hk] at hm
        exact hv.inputs k' m hm
    · rw [World.state_hear, Running.setQueue, MessageQueue.queued_push_of_ne _ _ _ _ hk]
      exact hother k' hk
  · obtain ⟨hv, hother⟩ := hv
    have hpop := v.state.agent.messageQueue.popKind_append_afterPop k
    refine ⟨⟨hv.told, fun k' ↦ ?_, hv.inputs⟩, fun hms ↦ ?_, fun k' hk ↦ ?_⟩
    · have hconserved := hv.conserved k'
      rw [World.state_change, Running.setQueue, World.log_change]
      by_cases hk : k' = k
      · subst hk
        rw [← hpop, ← List.append_assoc] at hconserved
        rw [← List.append_assoc, ofKind_append, ofKind_tagged_self]
        exact hconserved
      · rw [← List.append_assoc, ofKind_append, ofKind_tagged_of_ne hk, List.append_nil,
          MessageQueue.queued_afterPop_of_ne _ _ _ hk]
        exact hconserved
    · rw [hms, List.nil_append, MessageQueue.queued_eq_nil_of_popKind _ _ hms] at hpop
      exact hpop
    · rw [World.state_change, Running.setQueue, MessageQueue.queued_afterPop_of_ne _ _ _ hk]
      exact hother k' hk

theorem wp_pushPending_ledger (h : Ledger agent prompts given pending w) :
    (Prog.each pushMessage (pending.map Prod.snd)).wp Answer.IsFair
      (fun _ v ↦ Ledger agent prompts (given ++ pending) [] v ∧
        v.state.agent.messageQueue = w.state.agent.messageQueue)
      (Accounted agent prompts) w := by
  induction pending generalizing given w with
  | nil => exact (Prog.wp_pure _).mpr ⟨by simpa using h, rfl⟩
  | cons x pending ih =>
    have hx : x.2.isInput = true := h.isInput x (by simp)
    rw [List.map_cons, Prog.each, pushMessage]
    simp only [bind_assoc, Prog.wp_change_bind, wp_onEvent_bind]
    have hpushed : Ledger agent prompts (given ++ [x]) pending
        ((((w.change fun s ↦ s.push x.2).say (.event (.messageStart x.2))).say
          (.event (.messageEnd x.2))).change fun s ↦ s.note x.2) := by
      refine ⟨?_, fun k ↦ ?_, h.inputs⟩
      · have htold := h.told
        rw [toldInputs] at htold
        simp [toldInputs, Pi.told, hx, htold]
      · rw [List.append_assoc]
        exact h.conserved k
    refine Prog.wp_mono (ih hpushed) (fun _ v hv ↦ ?_) fun _ ↦ id
    exact ⟨by simpa using hv.1, hv.2⟩

/-! ### Tools -/

/-- The messages that came in while tools were executed. -/
def steered (steering : Option (List Message)) : List (QueueKind × Message) :=
  tagged .steering (steering.getD [])

theorem wp_runTools_ledger {calls waiting : List (ℕ × ToolCall)} {outputs : Outputs}
    (h : Ledger agent prompts given [] w) :
    (runTools trim calls waiting outputs).wp Answer.IsFair
      (fun x v ↦ Ledger agent prompts given (steered x.steering) v) (Accounted agent prompts)
      w := by
  induction calls generalizing waiting outputs w with
  | nil => exact (Prog.wp_pure _).mpr h
  | cons c calls ih =>
    rw [runTools]
    refine wp_bookkeeping frame_books.isAborted h fun b v _ hv ↦ ?_
    rw [Prog.wp_ite]
    split
    · exact (Prog.wp_pure _).mpr hv
    · rw [Prog.wp_read_bind, Prog.wp_ite]
      split
      · exact ih hv
      · refine Prog.wp_call (wp_drain .steering hv) fun ms v hv ↦ ?_
        rw [Prog.wp_ite]
        split
        · exact (Prog.wp_pure _).mpr hv.1
        · rename_i hms
          have hnil : ms = [] := by simpa using hms
          subst hnil
          refine wp_bookkeeping (keeps_flush trim _ _) hv.1 fun outputs v _ hv ↦ ?_
          refine wp_bookkeeping frame_books.isAborted hv fun b v _ hv ↦ ?_
          rw [Prog.wp_ite]
          split
          · exact (Prog.wp_pure _).mpr hv
          · refine Prog.wp_call (wp_drain .steering hv) fun ms v hv ↦ ?_
            rw [Prog.wp_ite]
            split
            · exact (Prog.wp_pure _).mpr hv.1
            · rename_i hms
              have hnil : ms = [] := by simpa using hms
              subst hnil
              exact wp_bookkeeping (keeps_executeTool trim _ _) hv.1 fun _ v _ hv ↦ ih hv

theorem wp_finalFlush_ledger {x : Executed}
    (h : Ledger agent prompts given (steered x.steering) w) :
    (finalFlush trim x).wp Answer.IsFair
      (fun x v ↦ Ledger agent prompts given (steered x.steering) v) (Accounted agent prompts)
      w := by
  rw [finalFlush, Prog.wp_ite]
  split
  · exact (Prog.wp_pure _).mpr h
  · refine wp_bookkeeping frame_books.isAborted h fun b v _ hv ↦ ?_
    rw [Prog.wp_ite]
    split
    · exact (Prog.wp_pure _).mpr hv
    · rw [Prog.wp_ite]
      split
      · exact (Prog.wp_pure _).mpr hv
      · rename_i hnone
        rw [Bool.not_eq_true, Option.isSome_eq_false_iff, Option.isNone_iff_eq_none] at hnone
        rw [hnone] at hv
        refine Prog.wp_call (wp_drain .steering hv) fun ms v hv ↦ ?_
        rw [Prog.wp_ite]
        split
        · rename_i hms
          rw [List.isEmpty_iff] at hms
          subst hms
          refine wp_bookkeeping (keeps_executeParallelBatch trim _) hv.1 fun _ v _ hv ↦
            (Prog.wp_pure _).mpr ?_
          rw [hnone]
          exact hv
        · exact (Prog.wp_pure _).mpr hv.1

theorem wp_settle_ledger {calls : List (ToolCall × Option (ToolOutput × Bool))}
    {x : ToolExecutionOutcome}
    (h : Ledger agent prompts given (steered x.steeringMessages) w) :
    (settle calls x).wp Answer.IsFair
      (fun x v ↦ Ledger agent prompts given (steered x.steeringMessages) v)
      (Accounted agent prompts) w := by
  induction calls generalizing x w with
  | nil => exact (Prog.wp_pure _).mpr h
  | cons c calls ih =>
    have hcheck : (checkSteering x.steeringMessages).wp Answer.IsFair
        (fun steering v ↦ Ledger agent prompts given (steered steering) v)
        (Accounted agent prompts) w := by
      rw [checkSteering, Prog.wp_ite]
      split
      · exact (Prog.wp_pure _).mpr h
      · rename_i hnone
        rw [Bool.not_eq_true, Option.isSome_eq_false_iff, Option.isNone_iff_eq_none] at hnone
        rw [hnone] at h
        refine wp_bookkeeping frame_books.isAborted h fun b v _ hv ↦ ?_
        rw [Prog.wp_ite]
        split
        · exact (Prog.wp_pure _).mpr hv
        · refine Prog.wp_call (wp_drain .steering hv) fun ms v hv ↦ (Prog.wp_pure _).mpr ?_
          cases ms <;> exact hv.1
    refine Prog.wp_call hcheck fun steering v hv ↦ ?_
    exact wp_bookkeeping (keeps_reportToolCall _ _ _) hv fun r v _ hv ↦ ih hv

theorem wp_executeToolCalls_ledger {calls : List ToolCall}
    (h : Ledger agent prompts given [] w) :
    (executeToolCalls trim calls).wp Answer.IsFair
      (fun x v ↦ Ledger agent prompts given (steered x.steeringMessages) v)
      (Accounted agent prompts) w := by
  have hannounce : Prog.Keeps books (Prog.each announce calls) :=
    Prog.keeps_each fun _ _ ↦ keeps_onEvent rfl
  refine wp_bookkeeping hannounce h fun _ v _ hv ↦ ?_
  refine Prog.wp_call (wp_runTools_ledger hv) fun x v hv ↦ ?_
  exact Prog.wp_call (wp_finalFlush_ledger hv) fun x v hv ↦ wp_settle_ledger hv

/-! ### Turns -/

variable (agent prompts) in
/-- What holds between two turns: all that was given out is about to be told, and if there is no
reason for a turn there is nothing to be told as soon as possible. -/
structure Current (p : Progress) (w : Moment) : Prop where
  ledger : ∃ given pending, Ledger agent prompts given pending w ∧
    pending.map Prod.snd = p.pending
  quiet : p.hasMoreToolCalls = false → p.pending = [] →
    w.state.agent.messageQueue.queued .steering = []

variable (agent prompts) in
/-- What holds at the end: nothing is about to be told, and after a good reply nothing waits. -/
def Delivered (r : RunResult) (w : Moment) : Prop :=
  (∃ given, Ledger agent prompts given [] w) ∧ ∀ a, r = .ok a → a.failed = false →
    ∀ k, w.state.agent.messageQueue.queued k = []

/-- A reply that failed. -/
theorem delivered_of_failed {a : AssistantMessage} (ha : a.failed = true)
    (h : Ledger agent prompts given [] w) : Delivered agent prompts (.ok a) w := by
  refine ⟨⟨given, h⟩, fun b hb hgood ↦ ?_⟩
  cases hb
  rw [ha] at hgood
  cases hgood

theorem wp_stopRun_ledger (n : ℕ) (h : Ledger agent prompts given [] w) :
    (stopRun n).wp Answer.IsFair (Delivered agent prompts) (Accounted agent prompts) w := by
  refine Prog.wp_read_bind.mpr ?_
  refine wp_bookkeeping (Prog.keeps_change fun _ ↦ rfl) h fun _ v _ hv ↦ ?_
  refine wp_bookkeeping (keeps_onEvent rfl) hv fun _ v _ hv ↦ ?_
  refine wp_bookkeeping (keeps_onEvent rfl) hv fun _ v _ hv ↦ ?_
  refine wp_bookkeeping (frame_books.endTurn _ _ _) hv fun _ v _ hv ↦ ?_
  refine wp_bookkeeping (frame_books.endRun _) hv fun _ v _ hv ↦ ?_
  exact (Prog.wp_pure _).mpr (delivered_of_failed rfl hv)

theorem wp_failRun_ledger (n : ℕ) {a : AssistantMessage} (ha : a.failed = true)
    (h : Ledger agent prompts given [] w) :
    (failRun n a).wp Answer.IsFair (Delivered agent prompts) (Accounted agent prompts) w := by
  refine wp_bookkeeping (frame_books.endTurn _ _ _) h fun _ v _ hv ↦ ?_
  refine wp_bookkeeping (frame_books.endRun _) hv fun _ v _ hv ↦ ?_
  exact (Prog.wp_pure _).mpr (delivered_of_failed ha hv)

theorem wp_exceedRun_ledger (n : ℕ) (a : AssistantMessage)
    (h : Ledger agent prompts given [] w) :
    (exceedRun n a).wp Answer.IsFair (Delivered agent prompts) (Accounted agent prompts) w := by
  refine Prog.wp_read_bind.mpr ?_
  refine wp_bookkeeping (frame_books.setState fun _ ↦ Frame.alike_renote_replaceReply _ _) h
    fun _ v _ hv ↦ ?_
  refine wp_bookkeeping (frame_books.endTurn _ _ _) hv fun _ v _ hv ↦ ?_
  refine wp_bookkeeping (frame_books.endRun _) hv fun _ v _ hv ↦ ?_
  exact (Prog.wp_pure _).mpr (delivered_of_failed rfl hv)

theorem wp_nextTurn_ledger {p : Progress} {a : AssistantMessage}
    (results : List ToolResultMessage) {steering : Option (List Message)}
    (hsteering : a.calls = [] → steering = none)
    (h : Ledger agent prompts given (steered steering) w) :
    (nextTurn p a results steering).wp Answer.IsFair (Current agent prompts)
      (Accounted agent prompts) w := by
  rw [nextTurn]
  refine wp_bookkeeping (frame_books.endTurn _ _ _) h fun _ v _ hv ↦ ?_
  cases steering with
  | some steering =>
    refine (Prog.wp_pure _).mpr ⟨⟨given, _, hv, map_snd_tagged ..⟩, fun hmore ↦ ?_⟩
    have hnil : a.calls = [] := by simpa using hmore
    cases hsteering hnil
  | none =>
    refine Prog.wp_call (wp_drain .steering hv) fun ms v hv ↦ (Prog.wp_pure _).mpr ?_
    exact ⟨⟨given, _, hv.1, map_snd_tagged ..⟩, fun _ hms ↦ hv.2.1 hms⟩

variable (agent prompts) in
/-- What a turn comes to. -/
def Followed (r : Progress ⊕ RunResult) (w : Moment) : Prop :=
  r.elim (fun p ↦ Current agent prompts p w) fun r ↦ Delivered agent prompts r w

theorem wp_onReply_ledger {p : Progress} (a : AssistantMessage)
    (h : Ledger agent prompts given [] w) :
    (onReply trim p a).wp Answer.IsFair (Followed agent prompts) (Accounted agent prompts) w := by
  rw [onReply]
  refine wp_bookkeeping (Prog.keeps_change fun _ ↦ rfl) h fun _ v _ hv ↦ ?_
  rw [Prog.wp_ite]
  split
  · rename_i ha
    exact Prog.wp_call (wp_failRun_ledger _ ha hv) fun r v hv ↦ (Prog.wp_pure _).mpr hv
  · rw [Prog.wp_ite]
    split
    · exact Prog.wp_call (wp_nextTurn_ledger [] (fun _ ↦ rfl) hv) fun p v hv ↦
        (Prog.wp_pure _).mpr hv
    · rename_i hcalls
      rw [Prog.wp_read_bind, Prog.wp_ite]
      split
      · exact Prog.wp_call (wp_exceedRun_ledger _ a hv) fun r v hv ↦ (Prog.wp_pure _).mpr hv
      · refine Prog.wp_call (wp_executeToolCalls_ledger hv) fun x v hv ↦ ?_
        refine Prog.wp_call (wp_nextTurn_ledger _ (fun hnil ↦ ?_) hv) fun p v hv ↦
          (Prog.wp_pure _).mpr hv
        rw [hnil] at hcalls
        exact absurd rfl hcalls

theorem wp_runTurn_ledger {p : Progress} (h : Current agent prompts p w) :
    (runTurn trim p).wp Answer.IsFair (Followed agent prompts) (Accounted agent prompts) w := by
  obtain ⟨⟨given, pending, hledger, hpending⟩, -⟩ := h
  rw [runTurn, Prog.wp_read_bind, ← hpending]
  refine wp_bookkeeping (keeps_onEvent rfl) hledger fun _ v _ hv ↦ ?_
  refine Prog.wp_call (wp_pushPending_ledger hv) fun _ v hv ↦ ?_
  refine wp_bookkeeping frame_books.isAborted hv.1 fun b v _ hv ↦ ?_
  rw [Prog.wp_ite]
  split
  · exact Prog.wp_call (wp_stopRun_ledger _ hv) fun r v hv ↦ (Prog.wp_pure _).mpr hv
  · refine wp_bookkeeping frame_books.streamAssistantResponse hv fun r v _ hv ↦ ?_
    cases r with
    | ok a => exact wp_onReply_ledger a hv
    | error error =>
      refine wp_bookkeeping (frame_books.endRun _) hv fun _ v _ hv ↦ (Prog.wp_pure _).mpr ?_
      exact ⟨⟨_, hv⟩, by simp⟩

/-! ### Loops -/

theorem Current.accounted {p : Progress} (h : Current agent prompts p w) :
    Accounted agent prompts w := by
  obtain ⟨⟨given, pending, hledger, -⟩, -⟩ := h
  exact hledger.accounted

theorem wp_innerLoop_ledger {p : Progress} (h : Current agent prompts p w) :
    (Prog.loop (innerRound trim) p).wp Answer.IsFair
      (fun r v ↦ r.elim
        (fun p ↦ Current agent prompts p v ∧ p.hasMoreToolCalls = false ∧ p.pending = [])
        fun r ↦ Delivered agent prompts r v) (Accounted agent prompts) w := by
  refine Prog.wp_loop (I := Current agent prompts) (fun p v hv ↦ ?_) (fun p v ↦ Current.accounted) h
  rw [innerRound, Prog.wp_ite]
  split
  · refine Prog.wp_call (wp_runTurn_ledger hv) fun r v hv ↦ ?_
    cases r with
    | inl p => exact (Prog.wp_pure _).mpr hv
    | inr r => exact (Prog.wp_pure _).mpr hv
  · rename_i hreason
    exact (Prog.wp_pure _).mpr ⟨hv, by simpa using hreason⟩

theorem wp_outerRound_ledger {p : Progress} (h : Current agent prompts p w) :
    (outerRound trim p).wp Answer.IsFair (Followed agent prompts) (Accounted agent prompts)
      w := by
  have hbegin : Current agent prompts { p with hasMoreToolCalls := true } w := ⟨h.ledger, by simp⟩
  rw [outerRound]
  refine Prog.wp_call (wp_innerLoop_ledger hbegin) fun r v hv ↦ ?_
  cases r with
  | inr r => exact (Prog.wp_pure _).mpr hv
  | inl p =>
    obtain ⟨⟨⟨given, pending, hledger, hpending⟩, hquiet⟩, hmore, hnil⟩ := hv
    rw [hnil, List.map_eq_nil_iff] at hpending
    subst hpending
    have hempty := hquiet hmore hnil
    refine Prog.wp_call (wp_drain .followUp hledger) fun ms v hv ↦ ?_
    rw [Prog.wp_ite]
    split
    · rename_i hms
      rw [List.isEmpty_iff] at hms
      subst hms
      have hnone : ∀ k, v.state.agent.messageQueue.queued k = [] := by
        intro k
        cases k with
        | steering => exact (hv.2.2 .steering (by simp)).trans hempty
        | followUp => exact hv.2.1 rfl
      rw [finishRun]
      cases p.lastAssistant with
      | none => exact (Prog.wp_pure _).mpr ⟨⟨given, hv.1⟩, by simp⟩
      | some a =>
        rw [bind_assoc]
        refine wp_bookkeeping (frame_books.endRun none) hv.1 fun _ v hbooks hv ↦ (Prog.wp_pure _).mpr ?_
        have hqueue : v.state.agent.messageQueue = _ := congrArg (·.2.2) hbooks
        exact ⟨⟨given, hv⟩, fun _ _ _ k ↦ by rw [hqueue]; exact hnone k⟩
    · rename_i hne
      refine (Prog.wp_pure _).mpr ⟨⟨given, _, hv.1, map_snd_tagged ..⟩, fun _ hms ↦ ?_⟩
      exact absurd (List.isEmpty_iff.mpr hms) hne

/-- The prompts are told before anything is put in. -/
theorem wp_pushPrompts_ledger (hprompts : ∀ m ∈ prompts, m.isInput = true)
    (hqueue : ∀ k, ∀ m ∈ agent.messageQueue.queued k, m.isInput = true)
    (htold : toldInputs w.log = []) (hfetched : ∀ k, fetched k w.log = [])
    (hw : w.state.agent.messageQueue = agent.messageQueue) :
    (Prog.each pushMessage prompts).wp Answer.IsFair
      (fun _ v ↦ Ledger agent prompts [] [] v) (Accounted agent prompts) w := by
  have hpush : ∀ l : List Message, (∀ m ∈ l, m.isInput = true) → ∀ pre v,
      toldInputs v.log = pre → (∀ k, fetched k v.log = []) →
      v.state.agent.messageQueue = agent.messageQueue →
      (Prog.each pushMessage l).wp Answer.IsFair
        (fun _ v ↦ Ledger agent (pre ++ l) [] [] v) (Accounted agent prompts) v := by
    intro l hl
    induction l with
    | nil =>
      intro pre v htold hfetched hv
      refine (Prog.wp_pure _).mpr ⟨by simpa using htold, fun k ↦ ?_, fun k m hm ↦ ?_⟩
      · rw [hv, hfetched]
        simp [ofKind]
      · rw [hfetched, List.append_nil] at hm
        exact hqueue k m hm
    | cons m l ih =>
      intro pre v htold hfetched hv
      have hm : m.isInput = true := hl m List.mem_cons_self
      rw [Prog.each, pushMessage]
      simp only [bind_assoc, Prog.wp_change_bind, wp_onEvent_bind]
      rw [toldInputs] at htold
      rw [List.append_cons]
      refine ih (fun m hm ↦ hl m (List.mem_cons_of_mem _ hm)) _ _ ?_ hfetched hv
      simp [toldInputs, Pi.told, hm, htold]
  exact hpush prompts hprompts [] w htold hfetched hw

theorem wp_runLoop_ledger (hprompts : ∀ m ∈ prompts, m.isInput = true)
    (hqueue : ∀ k, ∀ m ∈ agent.messageQueue.queued k, m.isInput = true) (signal : Bool) :
    (runLoop trim prompts).wp Answer.IsFair (Delivered agent prompts) (Accounted agent prompts)
      (agent.begin signal) := by
  rw [runLoop, Prog.wp_read_bind, wp_onEvent_bind]
  refine Prog.wp_call (wp_pushPrompts_ledger hprompts hqueue rfl (fun _ ↦ rfl) rfl) fun _ v hv ↦ ?_
  refine Prog.wp_call (wp_drain .steering hv) fun ms v hv ↦ ?_
  refine Prog.wp_loop (I := Current agent prompts) (fun p v hv ↦ wp_outerRound_ledger hv)
    (fun p v hv ↦ hv.accounted) ⟨⟨[], _, hv.1, map_snd_tagged ..⟩, by simp⟩

end Rules

/-! ## Runs -/

end WorkWithMe.Pi
