import WorkWithMe.Pi.Frames
import WorkWithMe.Pi.Runs
import WorkWithMe.Pi.ToolRules

/-!
# Each call is reported with what has come of it

Calls are executed side by side, come to their ends in any order, hooks may block them and change
what has come of them, and then they are reported in the order in which they were announced.

* `outcome` is what has come of a call, as far as the log tells.
* `Truthful` is that each call is reported with what has come of it, and not with what has come of
  another one, or as a call that was not executed.
* `Agent.run_truthful` says so of every run.
-/

set_option autoImplicit false

namespace WorkWithMe.Pi

open Dialog

/-! ## What has come of a call -/

section Outcome

variable (trim : String → String) (agent : Agent)

/-- What comes of a call at its turn: something only if there is no such tool. -/
def missing (name : String) : Option ToolOutput :=
  match agent.getTool name with
  | some _ => none
  | none => some (toolNotFoundOutput name)

/-- **What has come of the call of this number**, since calls were announced last. -/
def outcome (name : String) (i : ℕ) : Log → Option ToolOutput
  | [] => none
  | .said (.event (.toolExecutionStart _ _ _)) :: _ => none
  | .heard (.polled j) :: l =>
    if j = i ∧ agent.extensions = false then missing agent name else outcome name i l
  | .heard (.hooked j (some (true, reason))) :: l =>
    if j = i then some (toolCallBlockedOutput trim reason) else outcome name i l
  | .heard (.hooked j _) :: l => if j = i then missing agent name else outcome name i l
  | .heard (.returned j result) :: l =>
    if j = i then
      some (match result with
        | .ok output => output
        | .error e => .failure s!"Error: {e}")
    else outcome name i l
  | .heard (.resultHooked j content details) :: l =>
    if j = i then (outcome name i l).map (·.patch content details) else outcome name i l
  | _ :: l => outcome name i l

/-- How many calls were reported since calls were announced last. -/
def reported : Log → ℕ
  | [] => 0
  | .said (.event (.toolExecutionStart _ _ _)) :: _ => 0
  | .said (.event (.toolExecutionEnd _ _ _ _)) :: l => reported l + 1
  | _ :: l => reported l

/-- The output says that the call was not executed. -/
def ToolOutput.IsSkipped (output : ToolOutput) : Prop :=
  output = .failure "Skipped due to queued user message." ∨
    output = .failure "Tool execution aborted"

/-- **Each call is reported with what has come of it**, or as one that was not executed. -/
def Truthful : Log → Prop
  | [] => True
  | .said (.event (.toolExecutionEnd _ name output _)) :: l =>
    (outcome trim agent name (reported l) l = some output ∨ output.IsSkipped) ∧ Truthful l
  | _ :: l => Truthful l

/-- What the log tells of calls, and what the agent is. -/
def account (w : Moment) : (String → ℕ → Option ToolOutput) × ℕ × Prop × Agent :=
  (fun name i ↦ outcome trim agent name i w.log, reported w.log, Truthful trim agent w.log,
    w.state.agent.setup)

theorem frame_account : Frame (account trim agent) where
  event w e he := by cases e <;> first | rfl | cases he
  call w e he := by cases e <;> first | rfl | cases he
  hear w i s hi hs := by
    have hsetup : (w.hear i s).state.agent.setup = w.state.agent.setup := hs.2
    cases i <;> cases hi <;> exact congrArg (fun a ↦ (_, _, _, a)) hsetup
  change w g hg := by
    have hsetup : (w.change g).state.agent.setup = w.state.agent.setup := hg.2
    exact congrArg (fun a ↦ (_, _, _, a)) hsetup

theorem keeps_account_drainMessages (k : QueueKind) :
    Prog.Keeps (account trim agent) (drainMessages k) := by
  have hqueue : ∀ g : MessageQueue → MessageQueue,
      Prog.Keeps (account trim agent) (Prog.change fun s : Running ↦ s.setQueue g) :=
    fun g ↦ Prog.keeps_change fun _ ↦ rfl
  refine Prog.keeps_read_bind fun s ↦ Prog.keeps_bind (Prog.keeps_each fun _ _ ↦ ?_) fun _ ↦
    Prog.keeps_read_bind fun s ↦ Prog.keeps_bind (hqueue _) fun _ ↦ Prog.keeps_pure _
  refine Prog.keeps_bind (Prog.keeps_ask fun w i ms t hi ↦ ?_) fun _ ↦ hqueue _
  cases i with
  | fetched k' ms' =>
    obtain ⟨-, hi⟩ := Option.ite_none_right_eq_some.mp hi
    cases hi
    rfl
  | _ => cases hi

end Outcome

/-! ## Batches -/

/-- What is known of a batch of some of these calls, when `came` is what has come of each. -/
structure Batch.Reports (calls : List ToolCall) (came : ℕ → Option ToolOutput) (b : Batch) :
    Prop where
  flying : ∀ x ∈ b.flying, calls[x.index]? = some x.call
  waiting : ∀ c ∈ b.waiting, calls[c.1]? = some c.2
  nodup : (b.flying.map Execution.index ++ b.waiting.map Prod.fst).Nodup
  finishing : ∀ x ∈ b.flying, ∀ output isError, x.stage = .finishing output isError →
    came x.index = some { output with isError }
  finished : ∀ r ∈ b.finished,
    r.index ∉ b.flying.map Execution.index ++ b.waiting.map Prod.fst ∧
      came r.index = some { r.output with isError := r.isError }

/-- The numbers of the calls of a batch that have not come to an end. -/
def Batch.indices (b : Batch) : List ℕ := b.flying.map Execution.index ++ b.waiting.map Prod.fst

theorem Batch.indices_fill (b : Batch) : b.fill.indices = b.indices := by
  rw [Batch.indices, Batch.indices, Batch.fill]
  dsimp only
  rw [List.map_append, List.map_map, List.append_assoc]
  refine congrArg (_ ++ ·) ?_
  conv_rhs => rw [← List.take_append_drop (maxConcurrentTools - b.flying.length) b.waiting]
  rw [List.map_append]
  rfl

theorem Batch.map_index_advance (b : Batch) (index : ℕ) (stage : Stage) :
    (b.advance index stage).flying.map Execution.index = b.flying.map Execution.index := by
  rw [Batch.advance, List.map_map]
  refine List.map_congr_left fun y _ ↦ ?_
  dsimp only [Function.comp]
  split <;> rfl

theorem Batch.indices_advance (b : Batch) (index : ℕ) (stage : Stage) :
    (b.advance index stage).indices = b.indices := by
  rw [Batch.indices, b.map_index_advance]
  rfl

theorem Batch.indices_finish_subset (b : Batch) (index : ℕ) (output : ToolOutput)
    (isError : Bool) : (b.finish index output isError).indices ⊆ b.indices :=
  ((List.filter_sublist.map _).append_right _).subset

theorem Batch.finished_afterTool_subset (b : Batch) (extensions : Bool) (index : ℕ)
    (output : ToolOutput) (isError : Bool) :
    (b.afterTool extensions index output isError).finished.map Result.index ⊆
      b.finished.map Result.index ++ [index] := by
  rw [Batch.afterTool]
  split
  · exact List.subset_append_left _ _
  · rw [Batch.finish, List.map_append]
    exact List.Subset.refl _

theorem Batch.indices_afterTool_subset (b : Batch) (extensions : Bool) (index : ℕ)
    (output : ToolOutput) (isError : Bool) :
    (b.afterTool extensions index output isError).indices ⊆ b.indices := by
  rw [Batch.afterTool]
  split
  · rw [b.indices_advance]
    exact List.Subset.refl _
  · exact b.indices_finish_subset ..

namespace Batch.Reports

variable {calls : List ToolCall} {came came' : ℕ → Option ToolOutput} {b : Batch} {x : Execution}

theorem unique (h : b.Reports calls came) {y : Execution} (hx : x ∈ b.flying) (hy : y ∈ b.flying)
    (hxy : x.index = y.index) : x = y :=
  List.inj_on_of_nodup_map (List.nodup_append.mp h.nodup).1 hx hy hxy

theorem begin {batch : List (ℕ × ToolCall)} (hcalls : ∀ c ∈ batch, calls[c.1]? = some c.2)
    (hnodup : (batch.map Prod.fst).Nodup) : (Batch.mk batch [] []).Reports calls came where
  flying := nofun
  waiting := hcalls
  nodup := by simpa using hnodup
  finishing := nofun
  finished := nofun

theorem fill (h : b.Reports calls came) : b.fill.Reports calls came := by
  have hindices := b.indices_fill
  rw [Batch.indices, Batch.indices] at hindices
  refine ⟨fun x hx ↦ ?_, fun c hc ↦ h.waiting c (List.mem_of_mem_drop hc), hindices ▸ h.nodup,
    fun x hx output isError hstage ↦ ?_, fun r hr ↦ hindices ▸ h.finished r hr⟩
  · simp only [Batch.fill, List.mem_append, List.mem_map] at hx
    obtain hx | ⟨c, hc, rfl⟩ := hx
    · exact h.flying x hx
    · exact h.waiting c (List.mem_of_mem_take hc)
  · simp only [Batch.fill, List.mem_append, List.mem_map] at hx
    obtain hx | ⟨c, hc, rfl⟩ := hx
    · exact h.finishing x hx output isError hstage
    · cases hstage

theorem advance (h : b.Reports calls came) (hx : x ∈ b.flying) {stage : Stage}
    (hcame : ∀ i, i ≠ x.index → came' i = came i)
    (hstage : ∀ output isError, stage = .finishing output isError →
      came' x.index = some { output with isError }) :
    (b.advance x.index stage).Reports calls came' := by
  have hindex := b.map_index_advance x.index stage
  have hmem : ∀ y ∈ (b.advance x.index stage).flying,
      y = { x with stage } ∨ y ∈ b.flying ∧ y.index ≠ x.index := by
    intro y hy
    obtain ⟨z, hz, rfl⟩ := List.mem_map.mp hy
    by_cases hzx : z.index = x.index
    · rw [if_pos hzx, h.unique hz hx hzx]
      exact .inl rfl
    · rw [if_neg hzx]
      exact .inr ⟨hz, hzx⟩
  refine ⟨fun y hy ↦ ?_, h.waiting, ?_, fun y hy output isError hy' ↦ ?_, fun r hr ↦ ?_⟩
  · obtain rfl | ⟨hy, -⟩ := hmem y hy
    · exact h.flying x hx
    · exact h.flying y hy
  · rw [hindex]
    exact h.nodup
  · obtain rfl | ⟨hy, hyx⟩ := hmem y hy
    · exact hstage output isError hy'
    · rw [hcame _ hyx]
      exact h.finishing y hy output isError hy'
  · have hr' := h.finished r hr
    rw [hindex]
    refine ⟨hr'.1, ?_⟩
    have hne : r.index ≠ x.index := fun hrx ↦
      hr'.1 (hrx ▸ List.mem_append_left _ (List.mem_map_of_mem (f := Execution.index) hx))
    rw [hcame _ hne]
    exact hr'.2

theorem finish (h : b.Reports calls came) (hx : x ∈ b.flying) {output : ToolOutput}
    {isError : Bool} (hcame : ∀ i, i ≠ x.index → came' i = came i)
    (hx' : came' x.index = some { output with isError }) :
    (b.finish x.index output isError).Reports calls came' := by
  have hmem : ∀ y, y ∈ (b.finish x.index output isError).flying ↔
      y ∈ b.flying ∧ y.index ≠ x.index := by
    simp [Batch.finish]
  have hsub : ((b.finish x.index output isError).flying.map Execution.index ++
      (b.finish x.index output isError).waiting.map Prod.fst).Sublist
        (b.flying.map Execution.index ++ b.waiting.map Prod.fst) :=
    (List.filter_sublist.map _).append_right _
  have hnot : x.index ∉ (b.finish x.index output isError).flying.map Execution.index ++
      (b.finish x.index output isError).waiting.map Prod.fst := by
    intro hmem'
    obtain hmem' | hmem' := List.mem_append.mp hmem'
    · obtain ⟨y, hy, hyx⟩ := List.mem_map.mp hmem'
      exact ((hmem y).mp hy).2 hyx
    · exact (List.nodup_append.mp h.nodup).2.2 _ (List.mem_map_of_mem hx) _ hmem' rfl
  refine ⟨fun y hy ↦ h.flying y ((hmem y).mp hy).1, h.waiting, h.nodup.sublist hsub,
    fun y hy output' isError' hy' ↦ ?_, fun r hr ↦ ?_⟩
  · rw [hcame _ ((hmem y).mp hy).2]
    exact h.finishing y ((hmem y).mp hy).1 output' isError' hy'
  · obtain hr | hr := List.mem_append.mp hr
    · have hr' := h.finished r hr
      refine ⟨fun hri ↦ hr'.1 (hsub.subset hri), ?_⟩
      have hne : r.index ≠ x.index := fun hrx ↦
        hr'.1 (hrx ▸ List.mem_append_left _ (List.mem_map_of_mem (f := Execution.index) hx))
      rw [hcame _ hne]
      exact hr'.2
    · obtain rfl := List.mem_singleton.mp hr
      exact ⟨hnot, hx'⟩

/-- The tool is out of it. -/
theorem afterTool (h : b.Reports calls came) (hx : x ∈ b.flying) {output : ToolOutput}
    {isError : Bool} (hcame : ∀ i, i ≠ x.index → came' i = came i)
    (hx' : came' x.index = some { output with isError }) (extensions : Bool) :
    (b.afterTool extensions x.index output isError).Reports calls came' := by
  rw [Batch.afterTool]
  split
  · refine h.advance hx hcame fun output' isError' hstage ↦ ?_
    cases hstage
    exact hx'
  · exact h.finish hx hcame hx'

end Batch.Reports

/-- What is recorded was there, or is one of the results. -/
theorem Outputs.record_cases {outputs : Outputs} {results : List Result} {i : ℕ}
    {output : ToolOutput} {isError : Bool}
    (h : (outputs.record results)[i]? = some (some (output, isError))) :
    outputs[i]? = some (some (output, isError)) ∨
      ∃ r ∈ results, r.index = i ∧ r.output = output ∧ r.isError = isError := by
  induction results generalizing outputs with
  | nil => exact .inl h
  | cons r results ih =>
    rw [Outputs.record, List.foldl_cons, ← Outputs.record] at h
    obtain hold | ⟨s, hs, heq⟩ := ih h
    · rw [List.getElem?_set] at hold
      split at hold
      · rename_i hri
        split at hold
        · cases hold
          exact .inr ⟨r, List.mem_cons_self, hri, rfl, rfl⟩
        · cases hold
      · exact .inl hold
    · exact .inr ⟨s, List.mem_cons_of_mem _ hs, heq⟩

section Runs

variable (trim : String → String) (agent : Agent) (calls : List ToolCall)

/-- What has come of a call. -/
def came (l : Log) (i : ℕ) : Option ToolOutput :=
  calls[i]?.bind fun call ↦ outcome trim agent call.name i l

/-- All that was reported is true, and the agent is the one that it was. -/
structure Honest (w : Moment) : Prop where
  truthful : Truthful trim agent w.log
  setup : w.state.agent.setup = agent.setup

/-- Nothing was reported yet, and what is to be reported is what has come of the calls, of which
some are `busy`. -/
structure Gathered (outputs : Outputs) (busy : List ℕ) (w : Moment) : Prop
    extends Honest trim agent w where
  reported : reported w.log = 0
  outputs : ∀ i output isError, outputs[i]? = some (some (output, isError)) →
    i ∉ busy ∧ came trim agent calls w.log i = some { output with isError }

/-- A batch is executed, and the calls in `rest` will be. -/
structure Underway (outputs : Outputs) (rest : List ℕ) (b : Batch) (w : Moment) : Prop where
  gathered : Gathered trim agent calls outputs (b.indices ++ rest) w
  batch : b.Reports calls (came trim agent calls w.log)
  apart : ∀ i ∈ b.indices ++ b.finished.map Result.index, i ∉ rest

variable {trim agent calls} {outputs : Outputs} {busy busy' rest : List ℕ} {b : Batch} {w v : Moment}
  {x : Execution} {ok : Answer → Prop}

theorem Honest.of_account (h : Honest trim agent w)
    (hv : account trim agent v = account trim agent w) : Honest trim agent v := by
  simp only [account, Prod.mk.injEq, eq_iff_iff] at hv
  exact ⟨hv.2.2.1.mpr h.truthful, hv.2.2.2.trans h.setup⟩

theorem came_of_account (hv : account trim agent v = account trim agent w) :
    came trim agent calls v.log = came trim agent calls w.log := by
  simp only [account, Prod.mk.injEq, funext_iff] at hv
  funext i
  rw [came, came]
  cases calls[i]? with
  | none => rfl
  | some call => exact hv.1 call.name i

theorem Gathered.of_account (h : Gathered trim agent calls outputs busy w)
    (hv : account trim agent v = account trim agent w) :
    Gathered trim agent calls outputs busy v := by
  refine ⟨h.toHonest.of_account hv, ?_, ?_⟩
  · simp only [account, Prod.mk.injEq] at hv
    exact hv.2.1.trans h.reported
  · rw [came_of_account hv]
    exact h.outputs

theorem Gathered.mono (h : Gathered trim agent calls outputs busy w) (hb : busy' ⊆ busy) :
    Gathered trim agent calls outputs busy' w :=
  ⟨h.toHonest, h.reported, fun i output isError hi ↦
    ⟨fun hmem ↦ (h.outputs i output isError hi).1 (hb hmem), (h.outputs i output isError hi).2⟩⟩

/-- An answer for one call says nothing of the others. -/
theorem outcome_heard_of_ne {i : Answer} {o : Occurrence} (ho : x.Occurs i o) {j : ℕ}
    (hj : j ≠ x.index) (name : String) (l : Log) :
    outcome trim agent name j (.heard i :: l) = outcome trim agent name j l := by
  cases ho with
  | polled => exact if_neg fun h ↦ hj h.1.symm
  | hooked r =>
    match r with
    | none => exact if_neg hj.symm
    | some (false, _) => exact if_neg hj.symm
    | some (true, _) => exact if_neg hj.symm
  | update => rfl
  | returned r => exact if_neg hj.symm
  | resultHooked => exact if_neg hj.symm

theorem came_heard_of_ne {i : Answer} {o : Occurrence} (ho : x.Occurs i o) {j : ℕ}
    (hj : j ≠ x.index) (l : Log) :
    came trim agent calls (.heard i :: l) j = came trim agent calls l j := by
  rw [came, came]
  cases calls[j]? with
  | none => rfl
  | some call => exact outcome_heard_of_ne ho hj call.name l

theorem Gathered.hear (h : Gathered trim agent calls outputs busy w) (hx : x.index ∈ busy)
    {i : Answer} {o : Occurrence} (ho : x.Occurs i o) :
    Gathered trim agent calls outputs busy (w.hear i w.state) := by
  refine ⟨⟨h.truthful, h.setup⟩, h.reported, fun j output isError hj ↦ ?_⟩
  have hj' := h.outputs j output isError hj
  have hne : j ≠ x.index := fun hjx ↦ hj'.1 (hjx ▸ hx)
  exact ⟨hj'.1, (came_heard_of_ne ho hne w.log).trans hj'.2⟩

/-! ### Steps of a batch -/

theorem Underway.mem_indices (hx : x ∈ b.flying) : x.index ∈ b.indices :=
  List.mem_append_left _ (List.mem_map_of_mem hx)

theorem Underway.of_account (h : Underway trim agent calls outputs rest b w)
    (hv : account trim agent v = account trim agent w) :
    Underway trim agent calls outputs rest b v :=
  ⟨h.gathered.of_account hv, by rw [came_of_account hv]; exact h.batch, h.apart⟩

/-- The execution of a call moves on. -/
theorem Underway.advance (h : Underway trim agent calls outputs rest b w) (hx : x ∈ b.flying)
    {i : Answer} {o : Occurrence} (ho : x.Occurs i o) {stage : Stage}
    (hstage : ∀ output isError, stage ≠ .finishing output isError) :
    Underway trim agent calls outputs rest (b.advance x.index stage) (w.hear i w.state) := by
  refine ⟨?_, h.batch.advance hx (fun j hj ↦ came_heard_of_ne ho hj _) fun output isError hs ↦
    absurd hs (hstage output isError), ?_⟩
  · rw [b.indices_advance]
    exact h.gathered.hear (List.mem_append_left _ (mem_indices hx)) ho
  · rw [b.indices_advance]
    exact h.apart

/-- Something has come of a call. -/
theorem Underway.afterTool (h : Underway trim agent calls outputs rest b w) (hx : x ∈ b.flying)
    {i : Answer} {o : Occurrence} (ho : x.Occurs i o) {output : ToolOutput} {isError : Bool}
    (hcame : came trim agent calls (.heard i :: w.log) x.index = some { output with isError })
    (extensions : Bool) :
    Underway trim agent calls outputs rest (b.afterTool extensions x.index output isError)
      (w.hear i w.state) := by
  have hindices := b.indices_afterTool_subset extensions x.index output isError
  have hmem := mem_indices hx
  refine ⟨?_, h.batch.afterTool hx (fun j hj ↦ came_heard_of_ne ho hj _) hcame extensions,
    fun j hj ↦ ?_⟩
  · exact (h.gathered.hear (List.mem_append_left _ hmem) ho).mono
      (List.append_subset.mpr ⟨List.subset_append_of_subset_left _ hindices,
        List.subset_append_right _ _⟩)
  · obtain hj | hj := List.mem_append.mp hj
    · exact h.apart j (List.mem_append_left _ (hindices hj))
    · have hj := b.finished_afterTool_subset extensions x.index output isError hj
      obtain hj | hj := List.mem_append.mp hj
      · exact h.apart j (List.mem_append_right _ hj)
      · rw [List.mem_singleton.mp hj]
        exact h.apart _ (List.mem_append_left _ hmem)

/-- What has come of a call that is in the batch. -/
theorem Underway.came_eq (h : Underway trim agent calls outputs rest b w) (hx : x ∈ b.flying)
    (l : Log) : came trim agent calls l x.index = outcome trim agent x.call.name x.index l := by
  rw [came, h.batch.flying x hx]
  rfl

theorem wp_startTool_underway (h : Underway trim agent calls outputs rest b w) (hx : x ∈ b.flying)
    {i : Answer} {o : Occurrence} (ho : x.Occurs i o)
    (hmissing : outcome trim agent x.call.name x.index (.heard i :: w.log) =
      missing agent x.call.name) :
    (startTool b x.index x.call).wp ok (Underway trim agent calls outputs rest)
      (Honest trim agent) (w.hear i w.state) := by
  have htool : w.state.agent.getTool x.call.name = agent.getTool x.call.name :=
    (congrArg (fun a ↦ a.getTool x.call.name) h.gathered.setup :)
  rw [startTool, Prog.wp_read_bind]
  dsimp only
  rw [World.state_hear, htool]
  rw [missing] at hmissing
  cases hget : agent.getTool x.call.name with
  | some tool =>
    refine Prog.wp_say_bind.mpr ((Prog.wp_pure _).mpr ?_)
    exact (h.advance hx ho (by rintro _ _ ⟨⟩)).of_account ((frame_account trim agent).call _ _ rfl)
  | none =>
    rw [hget] at hmissing
    exact (Prog.wp_pure _).mpr (h.afterTool hx ho ((h.came_eq hx _).trans hmissing) _)

variable (trim agent calls outputs rest) in
/-- What a round of a batch comes to. -/
def Advanced (r : Batch ⊕ List Result) (w : Moment) : Prop :=
  r.elim (fun b ↦ Underway trim agent calls outputs rest b w) fun results ↦
    Gathered trim agent calls outputs rest w ∧ ∀ r ∈ results, r.index ∉ rest ∧
      came trim agent calls w.log r.index = some { r.output with isError := r.isError }

theorem wp_onOccurrence_underway (h : Underway trim agent calls outputs rest b w)
    (hx : x ∈ b.flying) {i : Answer} {o : Occurrence} (ho : x.Occurs i o) :
    (onOccurrence trim b o).wp ok (Advanced trim agent calls outputs rest)
      (Honest trim agent) (w.hear i w.state) := by
  have hext : w.state.agent.extensions = agent.extensions :=
    (congrArg Agent.extensions h.gathered.setup :)
  have hstart : outcome trim agent x.call.name x.index (.heard i :: w.log) =
        missing agent x.call.name →
      (startTool b x.index x.call >>= fun b ↦ pure (Sum.inl b)).wp ok
        (Advanced trim agent calls outputs rest) (Honest trim agent) (w.hear i w.state) :=
    fun hmissing ↦ Prog.wp_call (wp_startTool_underway h hx ho hmissing) fun _ _ hv ↦
      (Prog.wp_pure _).mpr hv
  cases ho with
  | polled hstage =>
    rw [onOccurrence, Prog.wp_read_bind, World.state_hear, hext]
    split
    · exact (Prog.wp_pure _).mpr (h.advance hx (.polled hstage) (by rintro _ _ ⟨⟩))
    · rename_i hnone
      exact hstart (if_pos ⟨rfl, by simpa using hnone⟩)
  | hooked r hstage =>
    rcases r with _ | ⟨_ | _, reason⟩
    · exact hstart (if_pos rfl)
    · exact hstart (if_pos rfl)
    · have hcame : came trim agent calls (.heard (.hooked x.index (some (true, reason))) :: w.log)
          x.index = some { toolCallBlockedOutput trim reason with isError := true } :=
        (h.came_eq hx _).trans (if_pos rfl)
      rw [onOccurrence, Prog.wp_read_bind]
      exact (Prog.wp_pure _).mpr (h.afterTool hx (.hooked _ hstage) hcame _)
  | update content details hstage =>
    refine wp_onEvent_bind.mpr ((Prog.wp_pure _).mpr ?_)
    have hself : account trim agent (w.hear (.update x.index content details) w.state) =
        account trim agent w := rfl
    exact (h.of_account hself).of_account ((frame_account trim agent).event _ _ rfl)
  | returned r hstage =>
    rw [onOccurrence, Prog.wp_read_bind]
    refine (Prog.wp_pure _).mpr ?_
    cases r with
    | ok output =>
      exact h.afterTool hx (.returned (.ok output) hstage)
        ((h.came_eq hx _).trans (if_pos rfl)) _
    | error e =>
      have hcame : came trim agent calls (.heard (.returned x.index (.error e)) :: w.log)
          x.index = some { ToolOutput.failure s!"Error: {e}" with isError := true } :=
        (h.came_eq hx _).trans (if_pos rfl)
      exact h.afterTool hx (.returned (.error e) hstage) hcame _
  | resultHooked content details output isError hstage =>
    refine (Prog.wp_pure _).mpr ?_
    have hcame := h.batch.finishing x hx output isError hstage
    rw [h.came_eq hx] at hcame
    have hpatched : came trim agent calls
        (.heard (.resultHooked x.index content details) :: w.log) x.index =
          some { output.patch content details with isError } :=
      (h.came_eq hx _).trans ((if_pos rfl).trans (by rw [hcame]; rfl))
    exact h.afterTool hx (.resultHooked content details output isError hstage) hpatched false

theorem wp_batchRound_underway {abortable : Bool}
    (h : Underway trim agent calls outputs rest b w) :
    (batchRound trim abortable b).wp ok (Advanced trim agent calls outputs rest)
      (Honest trim agent) w := by
  have hfill : Underway trim agent calls outputs rest b.fill w :=
    ⟨by rw [b.indices_fill]; exact h.gathered, h.batch.fill, by rw [b.indices_fill]; exact h.apart⟩
  rw [batchRound, Prog.wp_ite]
  split
  · refine (Prog.wp_pure _).mpr ⟨hfill.gathered.mono (List.subset_append_right _ _),
      fun r hr ↦ ⟨?_, (hfill.batch.finished r hr).2⟩⟩
    exact hfill.apart _ (List.mem_append_right _ (List.mem_map_of_mem hr))
  · refine Prog.wp_bind (wp_nextOccurrence h.gathered.toHonest (fun _ ↦ ?_) fun x hx i o ho ↦
      wp_onOccurrence_underway hfill hx ho)
    refine (Prog.wp_pure _).mpr ⟨Gathered.mono ?_ (List.subset_append_right b.fill.indices _), by simp⟩
    exact hfill.gathered.of_account rfl

/-- **A batch is executed**, while the calls in `rest` are still to be. -/
theorem wp_batch_gathered {abortable : Bool} {batch : List (ℕ × ToolCall)}
    (hcalls : ∀ c ∈ batch, calls[c.1]? = some c.2)
    (hnodup : (batch.map Prod.fst ++ rest).Nodup)
    (h : Gathered trim agent calls outputs (batch.map Prod.fst ++ rest) w) :
    (Prog.loop (batchRound trim abortable) ⟨batch, [], []⟩).wp ok
      (fun results v ↦ Gathered trim agent calls (outputs.record results) rest v)
      (Honest trim agent) w := by
  have hbegin : Underway trim agent calls outputs rest ⟨batch, [], []⟩ w := by
    refine ⟨h, .begin hcalls (List.nodup_append.mp hnodup).1, fun i hi hrest ↦ ?_⟩
    have hi : i ∈ batch.map Prod.fst := by simpa [Batch.indices] using hi
    exact (List.nodup_append.mp hnodup).2.2 i hi i hrest rfl
  refine Prog.wp_loop (I := Underway trim agent calls outputs rest)
    (fun b v hv ↦ Prog.wp_mono (wp_batchRound_underway hv) (fun r u hr ↦ ?_) fun _ ↦ id)
    (fun b v hv ↦ hv.gathered.toHonest) hbegin
  cases r with
  | inl b => exact hr
  | inr results =>
    obtain ⟨hgathered, hresults⟩ := hr
    refine ⟨hgathered.toHonest, hgathered.reported, fun i output isError hi ↦ ?_⟩
    obtain hold | ⟨r, hr, rfl, rfl, rfl⟩ := Outputs.record_cases hi
    · exact hgathered.outputs i output isError hold
    · exact hresults r hr

/-! ### The three phases -/

/-- A call of a program that has nothing to do with what comes of calls. -/
theorem wp_accounting {α β : Type} {p : Go α} {k : α → Go β} {S : β → Moment → Prop}
    (hp : Prog.Keeps (account trim agent) p) (h : Gathered trim agent calls outputs busy w)
    (hk : ∀ a v, Gathered trim agent calls outputs busy v →
      (k a).wp ok S (Honest trim agent) v) :
    (p >>= k).wp ok S (Honest trim agent) w :=
  Prog.wp_keeps hp (fun _ hv ↦ h.toHonest.of_account hv) fun a v hv ↦ hk a v (h.of_account hv)

theorem wp_flush_gathered {waiting : List (ℕ × ToolCall)}
    (hcalls : ∀ c ∈ waiting, calls[c.1]? = some c.2)
    (hnodup : (waiting.map Prod.fst ++ rest).Nodup)
    (h : Gathered trim agent calls outputs (waiting.map Prod.fst ++ rest) w) :
    (flush trim waiting outputs).wp ok
      (fun outputs v ↦ Gathered trim agent calls outputs rest v) (Honest trim agent) w := by
  rw [flush, Prog.wp_ite]
  split
  · exact (Prog.wp_pure _).mpr (h.mono (List.subset_append_right _ _))
  · exact Prog.wp_call (wp_batch_gathered hcalls hnodup h) fun results v hv ↦
      (Prog.wp_pure _).mpr hv

/-- What the second phase has come to, when the calls that wait are still to be executed. -/
def Phase2Gathered (trim : String → String) (agent : Agent) (calls : List ToolCall) (x : Executed)
    (w : Moment) : Prop :=
  (∀ c ∈ x.pending, calls[c.1]? = some c.2) ∧ (x.pending.map Prod.fst).Nodup ∧
    Gathered trim agent calls x.outputs (x.pending.map Prod.fst) w

theorem wp_runTools_gathered {todo waiting : List (ℕ × ToolCall)}
    (hcalls : ∀ c ∈ waiting ++ todo, calls[c.1]? = some c.2)
    (hnodup : ((waiting ++ todo).map Prod.fst).Nodup)
    (h : Gathered trim agent calls outputs ((waiting ++ todo).map Prod.fst) w) :
    (runTools trim todo waiting outputs).wp ok (Phase2Gathered trim agent calls)
      (Honest trim agent) w := by
  induction todo generalizing waiting outputs w with
  | nil =>
    rw [List.append_nil] at hcalls hnodup h
    exact (Prog.wp_pure _).mpr ⟨hcalls, hnodup, h⟩
  | cons c todo ih =>
    have hstop : ∀ v, Gathered trim agent calls outputs ((waiting ++ c :: todo).map Prod.fst) v →
        ∀ steering, Phase2Gathered trim agent calls ⟨waiting, outputs, steering⟩ v := by
      intro v hv steering
      refine ⟨fun d hd ↦ hcalls d (List.mem_append_left _ hd), ?_, ?_⟩
      · exact hnodup.sublist ((List.sublist_append_left _ _).map _)
      · exact hv.mono ((List.sublist_append_left _ _).map _).subset
    rw [runTools]
    refine wp_accounting (frame_account trim agent).isAborted h fun b v hv ↦ ?_
    rw [Prog.wp_ite]
    split
    · exact (Prog.wp_pure _).mpr (hstop v hv none)
    · rw [Prog.wp_read_bind, Prog.wp_ite]
      split
      · rw [List.append_cons] at hcalls hnodup hv
        exact ih hcalls hnodup hv
      · refine wp_accounting (keeps_account_drainMessages trim agent _) hv fun ms v hv ↦ ?_
        rw [Prog.wp_ite]
        split
        · exact (Prog.wp_pure _).mpr (hstop v hv _)
        · rw [List.map_append] at hnodup hv
          refine Prog.wp_call (wp_flush_gathered
            (fun d hd ↦ hcalls d (List.mem_append_left _ hd)) hnodup hv) fun outputs v hv ↦ ?_
          have hnodup := (List.nodup_append.mp hnodup).2.1
          have hdone : ∀ v, Gathered trim agent calls outputs ((c :: todo).map Prod.fst) v →
              ∀ steering, Phase2Gathered trim agent calls ⟨[], outputs, steering⟩ v :=
            fun v hv steering ↦ ⟨by simp, List.nodup_nil, hv.mono (List.nil_subset _)⟩
          refine wp_accounting (frame_account trim agent).isAborted hv fun b v hv ↦ ?_
          rw [Prog.wp_ite]
          split
          · exact (Prog.wp_pure _).mpr (hdone v hv none)
          · refine wp_accounting (keeps_account_drainMessages trim agent _) hv fun ms v hv ↦ ?_
            rw [Prog.wp_ite]
            split
            · exact (Prog.wp_pure _).mpr (hdone v hv _)
            · have hone : ∀ d ∈ [c], calls[d.1]? = some d.2 := fun d hd ↦
                hcalls d (List.mem_append_right _ (List.mem_cons.mpr
                  (.inl (List.mem_singleton.mp hd))))
              refine Prog.wp_call (wp_batch_gathered hone hnodup hv) fun results v hv ↦ ?_
              exact ih (fun d hd ↦ hcalls d (List.mem_append_right _ (List.mem_cons_of_mem _ hd)))
                (List.nodup_cons.mp hnodup).2 hv

theorem wp_finalFlush_gathered {x : Executed} (h : Phase2Gathered trim agent calls x w) :
    (finalFlush trim x).wp ok
      (fun x v ↦ Gathered trim agent calls x.outputs [] v) (Honest trim agent) w := by
  obtain ⟨hcalls, hnodup, h⟩ := h
  rw [finalFlush, Prog.wp_ite]
  split
  · exact (Prog.wp_pure _).mpr (h.mono (List.nil_subset _))
  · refine wp_accounting (frame_account trim agent).isAborted h fun b v hv ↦ ?_
    rw [Prog.wp_ite]
    split
    · exact (Prog.wp_pure _).mpr (hv.mono (List.nil_subset _))
    · rw [Prog.wp_ite]
      split
      · exact (Prog.wp_pure _).mpr (hv.mono (List.nil_subset _))
      · refine wp_accounting (keeps_account_drainMessages trim agent _) hv fun ms v hv ↦ ?_
        rw [Prog.wp_ite]
        split
        · rw [← List.append_nil (x.pending.map Prod.fst)] at hnodup hv
          exact Prog.wp_call (wp_batch_gathered hcalls hnodup hv) fun results v hv ↦
            (Prog.wp_pure _).mpr hv
        · exact (Prog.wp_pure _).mpr (hv.mono (List.nil_subset _))

variable (trim agent calls outputs) in
/-- So many calls were reported, and what is to be reported is what has come of the calls. -/
structure Reporting (n : ℕ) (w : Moment) : Prop extends Honest trim agent w where
  reported : reported w.log = n
  outputs : ∀ i output isError, outputs[i]? = some (some (output, isError)) →
    came trim agent calls w.log i = some { output with isError }

theorem Reporting.of_account {n : ℕ} (h : Reporting trim agent calls outputs n w)
    (hv : account trim agent v = account trim agent w) :
    Reporting trim agent calls outputs n v := by
  refine ⟨h.toHonest.of_account hv, ?_, by rw [came_of_account hv]; exact h.outputs⟩
  simp only [account, Prod.mk.injEq] at hv
  exact hv.2.1.trans h.reported

/-- A call is reported with what has come of it, or as one that was not executed. -/
theorem Reporting.report {n : ℕ} (h : Reporting trim agent calls outputs n w) {call : ToolCall}
    {output : ToolOutput} (isError : Bool)
    (houtput : outcome trim agent call.name n w.log = some output ∨ output.IsSkipped) :
    Reporting trim agent calls outputs (n + 1)
      (w.say (.event (.toolExecutionEnd call.id call.name output isError))) where
  truthful := ⟨by rw [h.reported]; exact houtput, h.truthful⟩
  setup := h.setup
  reported := congrArg (· + 1) h.reported
  outputs := h.outputs

theorem wp_pushToolResult_reporting {n : ℕ} (h : Reporting trim agent calls outputs n w)
    (r : ToolResultMessage) :
    (pushToolResult r >>= fun _ ↦ pure r).wp ok
      (fun _ v ↦ Reporting trim agent calls outputs n v) (Honest trim agent) w :=
  Prog.wp_keeps ((frame_account trim agent).pushToolResult r)
    (fun _ hv ↦ h.toHonest.of_account hv) fun _ _ hv ↦ (Prog.wp_pure _).mpr (h.of_account hv)

theorem wp_reportToolCall_reporting {n : ℕ} {call : ToolCall}
    {output : Option (ToolOutput × Bool)} (h : Reporting trim agent calls outputs n w)
    (hcall : calls[n]? = some call) (houtput : outputs[n]? = some output) (steering : Bool) :
    (reportToolCall call output steering).wp ok
      (fun _ v ↦ Reporting trim agent calls outputs (n + 1) v) (Honest trim agent) w := by
  have hfailure : ∀ text, (ToolOutput.failure text).IsSkipped →
      (reportFailure call text).wp ok
        (fun _ v ↦ Reporting trim agent calls outputs (n + 1) v) (Honest trim agent) w := by
    intro text htext
    rw [reportFailure, wp_onEvent_bind, wp_onEvent_bind]
    exact wp_pushToolResult_reporting
      ((h.of_account ((frame_account trim agent).event _ _ rfl)).report true (.inr htext)) _
  cases output with
  | some r =>
    obtain ⟨output, isError⟩ := r
    have hcame := h.outputs n output isError houtput
    rw [came, hcall] at hcame
    refine wp_onEvent_bind.mpr (wp_pushToolResult_reporting (h.report isError (.inl hcame)) _)
  | none =>
    rw [reportToolCall, Prog.wp_ite]
    split
    · exact hfailure _ (.inl rfl)
    · exact hfailure _ (.inr rfl)

theorem keeps_account_checkSteering (steering : Option (List Message)) :
    Prog.Keeps (account trim agent) (checkSteering steering) :=
  Prog.keeps_ite (Prog.keeps_pure _) (Prog.keeps_bind (frame_account trim agent).isAborted fun _ ↦
    Prog.keeps_ite (Prog.keeps_pure _) (Prog.keeps_bind (keeps_account_drainMessages trim agent _)
      fun _ ↦ Prog.keeps_pure _))

theorem wp_settle_reporting {n : ℕ} {x : ToolExecutionOutcome}
    {todo : List (ToolCall × Option (ToolOutput × Bool))}
    (htodo : todo = (calls.zip outputs).drop n) (h : Reporting trim agent calls outputs n w) :
    (settle todo x).wp ok (fun _ ↦ Honest trim agent) (Honest trim agent) w := by
  induction todo generalizing n x w with
  | nil => exact (Prog.wp_pure _).mpr h.toHonest
  | cons c todo ih =>
    have hget : (calls.zip outputs)[n]? = some c := by
      rw [← List.head?_drop, ← htodo, List.head?_cons]
    obtain ⟨hcall, houtput⟩ := List.getElem?_zip_eq_some.mp hget
    refine Prog.wp_keeps (keeps_account_checkSteering x.steeringMessages)
      (fun _ hv ↦ h.toHonest.of_account hv) fun steering v hv ↦ ?_
    refine Prog.wp_call (wp_reportToolCall_reporting (h.of_account hv) hcall houtput _)
      fun r v hv ↦ ih ?_ hv
    rw [← List.tail_drop, ← htodo, List.tail_cons]

/-- **The calls of a reply** are reported with what has come of them. -/
theorem wp_executeToolCalls_honest (h : Honest trim agent w) (hcalls : calls ≠ []) :
    (executeToolCalls trim calls).wp ok (fun _ ↦ Honest trim agent)
      (Honest trim agent) w := by
  have hannounce : (Prog.each announce calls).wp ok
      (fun _ v ↦ Honest trim agent v ∧ ([] ++ calls ≠ [] → reported v.log = 0))
      (Honest trim agent) w := by
    refine Prog.wp_each (I := fun pre v ↦ Honest trim agent v ∧ (pre ≠ [] → reported v.log = 0))
      (fun pre call v hv ↦ ?_) [] ⟨h, fun hne ↦ absurd rfl hne⟩
    exact wp_onEvent.mpr ⟨⟨hv.1.truthful, hv.1.setup⟩, fun _ ↦ rfl⟩
  refine Prog.wp_call hannounce fun _ v hv ↦ ?_
  have hindices : (calls.zipIdx.map Prod.swap).map Prod.fst = List.range calls.length := by
    rw [List.map_map]
    have : (Prod.fst ∘ Prod.swap : ToolCall × ℕ → ℕ) = Prod.snd := rfl
    rw [this, List.zipIdx_map_snd, List.range_eq_range']
  have hgathered : Gathered trim agent calls (List.replicate calls.length none)
      ((calls.zipIdx.map Prod.swap).map Prod.fst) v := by
    refine ⟨hv.1, hv.2 hcalls, fun i output isError hi ↦ ?_⟩
    rw [List.getElem?_replicate] at hi
    split at hi <;> cases hi
  have hmem : ∀ c ∈ [] ++ calls.zipIdx.map Prod.swap, calls[c.1]? = some c.2 := by
    simp only [List.nil_append, List.mem_map]
    rintro _ ⟨c, hc, rfl⟩
    exact List.mem_zipIdx_iff_getElem?.mp hc
  have hnodup : (([] ++ calls.zipIdx.map Prod.swap).map Prod.fst).Nodup := by
    rw [List.nil_append, hindices]
    exact List.nodup_range
  refine Prog.wp_call (wp_runTools_gathered hmem hnodup hgathered) fun x v hv ↦ ?_
  refine Prog.wp_call (wp_finalFlush_gathered hv) fun x v hv ↦ ?_
  refine wp_settle_reporting (n := 0) rfl ⟨hv.toHonest, hv.reported, fun i output isError hi ↦ ?_⟩
  exact (hv.outputs i output isError hi).2

/-! ### Turns and loops -/

/-- A call of a program that has nothing to do with calls. -/
theorem wp_honest {α β : Type} {p : Go α} {k : α → Go β} {S : β → Moment → Prop}
    (hp : Prog.Keeps (account trim agent) p) (h : Honest trim agent w)
    (hk : ∀ a v, Honest trim agent v → (k a).wp ok S (Honest trim agent) v) :
    (p >>= k).wp ok S (Honest trim agent) w :=
  Prog.wp_keeps hp (fun _ ↦ h.of_account) fun a v hv ↦ hk a v (h.of_account hv)

theorem wp_nextTurn_honest {p : Progress} {a : AssistantMessage}
    {results : List ToolResultMessage} {steering : Option (List Message)}
    (h : Honest trim agent w) :
    (nextTurn p a results steering).wp ok (fun _ ↦ Honest trim agent)
      (Honest trim agent) w := by
  rw [nextTurn]
  refine wp_honest ((frame_account trim agent).endTurn _ _ _) h fun _ v hv ↦ ?_
  cases steering with
  | some steering => exact (Prog.wp_pure _).mpr hv
  | none =>
    exact wp_honest (keeps_account_drainMessages trim agent _) hv fun _ v hv ↦
      (Prog.wp_pure _).mpr hv

theorem wp_onReply_honest {p : Progress} {a : AssistantMessage} (h : Honest trim agent w) :
    (onReply trim p a).wp ok (fun _ ↦ Honest trim agent) (Honest trim agent) w := by
  have hframe := frame_account trim agent
  rw [onReply]
  refine wp_honest (hframe.setState fun _ ↦ ⟨rfl, rfl⟩) h fun _ v hv ↦ ?_
  rw [Prog.wp_ite]
  split
  · exact wp_honest (hframe.failRun _ _) hv fun _ v hv ↦ (Prog.wp_pure _).mpr hv
  · rw [Prog.wp_ite]
    split
    · exact Prog.wp_call (wp_nextTurn_honest hv) fun _ v hv ↦ (Prog.wp_pure _).mpr hv
    · rename_i hcalls
      rw [Prog.wp_read_bind, Prog.wp_ite]
      split
      · exact wp_honest (hframe.exceedRun _ _) hv fun _ v hv ↦ (Prog.wp_pure _).mpr hv
      · have hne : a.calls ≠ [] := by simpa using hcalls
        refine Prog.wp_call (wp_executeToolCalls_honest hv hne) fun x v hv ↦ ?_
        exact Prog.wp_call (wp_nextTurn_honest hv) fun _ v hv ↦ (Prog.wp_pure _).mpr hv

theorem keeps_account_pushMessage {m : Message} :
    Prog.Keeps (account trim agent) (pushMessage m) := by
  refine Prog.keeps_bind ((frame_account trim agent).setState fun _ ↦ ⟨rfl, rfl⟩) fun _ ↦
    Prog.keeps_bind (Prog.keeps_say fun _ ↦ rfl) fun _ ↦
      Prog.keeps_bind (Prog.keeps_say fun _ ↦ rfl) fun _ ↦ ?_
  exact (frame_account trim agent).setState fun _ ↦ ⟨rfl, rfl⟩

theorem wp_runTurn_honest {p : Progress} (h : Honest trim agent w) :
    (runTurn trim p).wp ok (fun _ ↦ Honest trim agent) (Honest trim agent) w := by
  have hframe := frame_account trim agent
  rw [runTurn, Prog.wp_read_bind]
  refine wp_honest (hframe.onEvent rfl) h fun _ v hv ↦ ?_
  refine wp_honest (Prog.keeps_each fun _ _ ↦ keeps_account_pushMessage) hv fun _ v hv ↦ ?_
  refine wp_honest hframe.isAborted hv fun b v hv ↦ ?_
  rw [Prog.wp_ite]
  split
  · exact wp_honest (hframe.stopRun _) hv fun _ v hv ↦ (Prog.wp_pure _).mpr hv
  · refine wp_honest hframe.streamAssistantResponse hv fun r v hv ↦ ?_
    cases r with
    | ok a => exact wp_onReply_honest hv
    | error error =>
      exact wp_honest (hframe.endRun _) hv fun _ v hv ↦ (Prog.wp_pure _).mpr hv

theorem wp_outerRound_honest {p : Progress} (h : Honest trim agent w) :
    (outerRound trim p).wp ok (fun _ ↦ Honest trim agent) (Honest trim agent) w := by
  have hinner : (Prog.loop (innerRound trim) { p with hasMoreToolCalls := true }).wp ok
      (fun _ ↦ Honest trim agent) (Honest trim agent) w := by
    refine Prog.wp_loop (I := fun _ ↦ Honest trim agent) (fun p v hv ↦ ?_) (fun _ _ ↦ id) h
    rw [innerRound, Prog.wp_ite]
    split
    · refine Prog.wp_call (wp_runTurn_honest hv) fun r v hv ↦ ?_
      cases r <;> exact (Prog.wp_pure _).mpr hv
    · exact (Prog.wp_pure _).mpr hv
  rw [outerRound]
  refine Prog.wp_call hinner fun r v hv ↦ ?_
  cases r with
  | inr r => exact (Prog.wp_pure _).mpr hv
  | inl p =>
    refine wp_honest (keeps_account_drainMessages trim agent _) hv fun ms v hv ↦ ?_
    rw [Prog.wp_ite]
    split
    · rw [finishRun]
      cases p.lastAssistant with
      | none => exact (Prog.wp_pure _).mpr hv
      | some a =>
        rw [bind_assoc]
        exact wp_honest ((frame_account trim agent).endRun none) hv fun _ v hv ↦
          (Prog.wp_pure _).mpr hv
    · exact (Prog.wp_pure _).mpr hv

theorem wp_runLoop_honest (prompts : List Message) (signal : Bool) :
    (runLoop trim prompts).wp ok (fun _ ↦ Honest trim agent) (Honest trim agent)
      (agent.begin signal) := by
  have hbegin : Honest trim agent (agent.begin signal) := ⟨trivial, rfl⟩
  rw [runLoop, Prog.wp_read_bind]
  refine wp_honest ((frame_account trim agent).onEvent rfl) hbegin fun _ v hv ↦ ?_
  refine wp_honest (Prog.keeps_each fun _ _ ↦ keeps_account_pushMessage) hv fun _ v hv ↦ ?_
  refine wp_honest (keeps_account_drainMessages trim agent _) hv fun ms v hv ↦ ?_
  refine Prog.wp_loop (I := fun _ ↦ Honest trim agent) (fun p v hv ↦ ?_) (fun _ _ ↦ id) hv
  exact Prog.wp_mono (wp_outerRound_honest hv) (fun r _ hr ↦ by cases r <;> exact hr) fun _ ↦ id

end Runs

/-! ## Runs -/

end WorkWithMe.Pi
