import Mathlib.Data.List.Nodup
import Mathlib.Data.List.Perm.Subperm
import WorkWithMe.Pi.ReplyRules
import WorkWithMe.Pi.Tools

/-!
# The execution of calls, in the protocol

`Batch.Sound` is the invariant of a batch: which calls are in it, that no two have one number, and
which of them the protocol takes to be running.

* `wp_batch`: a batch leaves nothing running.
* `wp_executeToolCalls`: each call has come to a result.
-/

set_option autoImplicit false

namespace WorkWithMe.Pi

open Dialog

/-! ## Batches -/

/-- The tool has not been started. -/
def Stage.early : Stage → Bool
  | .fresh | .hooking => true
  | .executing | .finishing _ _ => false

/-- The calls of a batch, of which some are `flying` and some were `started`, and the ones that were
started before. -/
structure Batch.Sound (batch : List (ℕ × ToolCall)) (before flying started : List ℕ)
    (b : Batch) : Prop where
  mem : ∀ x ∈ b.flying, (x.index, x.call) ∈ batch
  waiting : ∀ c ∈ b.waiting, c ∈ batch
  nodup : (b.flying.map Execution.index ++ b.waiting.map Prod.fst).Nodup
  room : b.flying.length ≤ maxConcurrentTools
  aloft : ∀ i, i ∈ flying ↔ ∃ x ∈ b.flying, x.index = i ∧ x.stage = .executing
  nodup_flying : flying.Nodup
  unstarted : ∀ x ∈ b.flying, x.stage.early = true → x.index ∉ started
  unstarted_waiting : ∀ c ∈ b.waiting, c.1 ∉ started
  started : ∀ i ∈ started, i ∈ before ∨ i ∈ batch.map Prod.fst

namespace Batch.Sound

variable {batch : List (ℕ × ToolCall)} {before flying started : List ℕ} {b : Batch}
  {x y : Execution} {stage : Stage}

theorem unique (h : b.Sound batch before flying started) (hx : x ∈ b.flying) (hy : y ∈ b.flying)
    (hxy : x.index = y.index) : x = y :=
  List.inj_on_of_nodup_map (List.nodup_append.mp h.nodup).1 hx hy hxy

/-- The beginning of a batch. -/
theorem begin (hnodup : (batch.map Prod.fst).Nodup) (hnew : ∀ c ∈ batch, c.1 ∉ started) :
    (Batch.mk batch [] []).Sound batch started [] started where
  mem := nofun
  waiting := fun _ ↦ id
  nodup := by simpa using hnodup
  room := Nat.zero_le _
  aloft := by simp
  nodup_flying := List.nodup_nil
  unstarted := nofun
  unstarted_waiting := hnew
  started := fun _ ↦ .inl

theorem fill (h : b.Sound batch before flying started) :
    b.fill.Sound batch before flying started := by
  have hsub : ∀ {c}, c ∈ b.waiting.take (maxConcurrentTools - b.flying.length) → c ∈ b.waiting :=
    List.mem_of_mem_take
  refine ⟨fun x hx ↦ ?_, fun c hc ↦ h.waiting c (List.mem_of_mem_drop hc), ?_, ?_, fun i ↦ ?_,
    h.nodup_flying, fun x hx hearly ↦ ?_,
    fun c hc ↦ h.unstarted_waiting c (List.mem_of_mem_drop hc), h.started⟩
  · simp only [Batch.fill, List.mem_append, List.mem_map] at hx
    obtain hx | ⟨c, hc, rfl⟩ := hx
    · exact h.mem x hx
    · exact h.waiting c (hsub hc)
  · rw [Batch.fill]
    dsimp only
    rw [List.map_append, List.map_map, List.append_assoc]
    refine (congrArg List.Nodup (congrArg (_ ++ ·) ?_)).mpr h.nodup
    conv_rhs => rw [← List.take_append_drop (maxConcurrentTools - b.flying.length) b.waiting]
    rw [List.map_append]
    rfl
  · simp only [Batch.fill, List.length_append, List.length_map, List.length_take]
    have := h.room
    omega
  · rw [h.aloft]
    constructor
    · rintro ⟨x, hx, hi⟩
      exact ⟨x, List.mem_append_left _ hx, hi⟩
    · rintro ⟨x, hx, hi, hstage⟩
      simp only [Batch.fill, List.mem_append, List.mem_map] at hx
      obtain hx | ⟨c, hc, rfl⟩ := hx
      · exact ⟨x, hx, hi, hstage⟩
      · cases hstage
  · simp only [Batch.fill, List.mem_append, List.mem_map] at hx
    obtain hx | ⟨c, hc, rfl⟩ := hx
    · exact h.unstarted x hx hearly
    · exact h.unstarted_waiting c (hsub hc)

/-- An execution moves on. -/
theorem advance (h : b.Sound batch before flying started) (hx : x ∈ b.flying)
    {flying' started' : List ℕ}
    (haloft : ∀ i, i ∈ flying' ↔ i = x.index ∧ stage = .executing ∨ i ≠ x.index ∧ i ∈ flying)
    (hnodup : flying'.Nodup) (hstarted : ∀ i, i ∈ started' → i = x.index ∨ i ∈ started)
    (hearly : stage.early = true → x.index ∉ started') :
    (b.advance x.index stage).Sound batch before flying' started' := by
  have hmem : ∀ y, y ∈ (b.advance x.index stage).flying ↔
      y = { x with stage } ∨ y ∈ b.flying ∧ y.index ≠ x.index := by
    intro y
    simp only [Batch.advance, List.mem_map]
    constructor
    · rintro ⟨z, hz, rfl⟩
      by_cases hzx : z.index = x.index
      · rw [if_pos hzx, h.unique hz hx hzx]
        exact .inl rfl
      · rw [if_neg hzx]
        exact .inr ⟨hz, hzx⟩
    · rintro (rfl | ⟨hy, hyx⟩)
      · exact ⟨x, hx, if_pos rfl⟩
      · exact ⟨y, hy, if_neg hyx⟩
  have hindex : (b.advance x.index stage).flying.map Execution.index =
      b.flying.map Execution.index := by
    rw [Batch.advance, List.map_map]
    refine List.map_congr_left fun y _ ↦ ?_
    dsimp only [Function.comp]
    split <;> rfl
  refine ⟨fun y hy ↦ ?_, h.waiting, ?_, ?_, fun i ↦ ?_, hnodup, fun y hy hyearly ↦ ?_,
    fun c hc hcs ↦ ?_, fun i hi ↦ ?_⟩
  · obtain rfl | ⟨hy, -⟩ := (hmem y).mp hy
    · exact h.mem x hx
    · exact h.mem y hy
  · rw [hindex]
    exact h.nodup
  · simpa [Batch.advance] using h.room
  · rw [haloft, h.aloft]
    constructor
    · rintro (⟨rfl, hstage⟩ | ⟨hix, y, hy, rfl, hstage⟩)
      · exact ⟨_, (hmem _).mpr (.inl rfl), rfl, hstage⟩
      · exact ⟨y, (hmem y).mpr (.inr ⟨hy, hix⟩), rfl, hstage⟩
    · rintro ⟨y, hy, rfl, hstage⟩
      obtain rfl | ⟨hy, hyx⟩ := (hmem y).mp hy
      · exact .inl ⟨rfl, hstage⟩
      · exact .inr ⟨hyx, y, hy, rfl, hstage⟩
  · obtain rfl | ⟨hy, hyx⟩ := (hmem y).mp hy
    · exact hearly hyearly
    · exact fun hys ↦ (hstarted _ hys).elim hyx (h.unstarted y hy hyearly)
  · refine (hstarted _ hcs).elim (fun hcx ↦ ?_) (h.unstarted_waiting c hc)
    exact (List.nodup_append.mp h.nodup).2.2 _ (List.mem_map_of_mem hx) _ (List.mem_map_of_mem hc)
      hcx.symm
  · obtain rfl | hi := hstarted i hi
    · exact .inr (List.mem_map_of_mem (f := Prod.fst) (h.mem x hx))
    · exact h.started i hi

/-- An execution ends. -/
theorem finish (h : b.Sound batch before flying started) {flying' : List ℕ}
    (haloft : ∀ i, i ∈ flying' ↔ i ≠ x.index ∧ i ∈ flying) (hnodup : flying'.Nodup)
    (output : ToolOutput) (isError : Bool) :
    (b.finish x.index output isError).Sound batch before flying' started := by
  have hmem : ∀ y, y ∈ (b.finish x.index output isError).flying ↔
      y ∈ b.flying ∧ y.index ≠ x.index := by
    simp [Batch.finish]
  have hsub : (b.finish x.index output isError).flying.Sublist b.flying := List.filter_sublist
  refine ⟨fun y hy ↦ h.mem y ((hmem y).mp hy).1, h.waiting,
    h.nodup.sublist ((hsub.map _).append_right _), hsub.length_le.trans h.room, fun i ↦ ?_, hnodup,
    fun y hy ↦ h.unstarted y ((hmem y).mp hy).1, h.unstarted_waiting, h.started⟩
  rw [haloft, h.aloft]
  constructor
  · rintro ⟨hix, y, hy, rfl, hstage⟩
    exact ⟨y, (hmem y).mpr ⟨hy, hix⟩, rfl, hstage⟩
  · rintro ⟨y, hy, rfl, hstage⟩
    exact ⟨((hmem y).mp hy).2, y, ((hmem y).mp hy).1, rfl, hstage⟩

/-- A call of which the tool is not running is not among those that are. -/
theorem not_mem_flying (h : b.Sound batch before flying started) (hx : x ∈ b.flying)
    (hstage : x.stage ≠ .executing) : x.index ∉ flying := by
  rw [h.aloft]
  rintro ⟨y, hy, hyx, hexec⟩
  exact hstage (h.unique hy hx hyx ▸ hexec)

/-- There is room for one more. -/
theorem length_lt (h : b.Sound batch before flying started) (hx : x ∈ b.flying)
    (hstage : x.stage ≠ .executing) : flying.length < maxConcurrentTools := by
  have hsub : x.index :: flying ⊆ b.flying.map Execution.index := by
    intro i hi
    obtain rfl | hi := List.mem_cons.mp hi
    · exact List.mem_map_of_mem hx
    · obtain ⟨y, hy, rfl, -⟩ := (h.aloft i).mp hi
      exact List.mem_map_of_mem hy
  have := (List.subperm_of_subset
    (List.nodup_cons.mpr ⟨h.not_mem_flying hx hstage, h.nodup_flying⟩) hsub).length_le
  rw [List.length_cons, List.length_map] at this
  exact lt_of_lt_of_le this h.room

end Batch.Sound

/-- What can happen to the execution of a call. -/
inductive Execution.Occurs (x : Execution) : Answer → Occurrence → Prop where
  | polled (h : x.stage = .fresh) : x.Occurs (.polled x.index) (.polled x.index x.call)
  | hooked (r : Option (Bool × Option String)) (h : x.stage = .hooking) :
    x.Occurs (.hooked x.index r) (.hooked x.index x.call r)
  | update (content : List ContentBlock) (details : Option Json) (h : x.stage = .executing) :
    x.Occurs (.update x.index content details) (.update x.call content details)
  | returned (r : Except String ToolOutput) (h : x.stage = .executing) :
    x.Occurs (.returned x.index r) (.returned x.index r)
  | resultHooked (content : Option (List ContentBlock)) (details : Option Json)
      (output : ToolOutput) (isError : Bool) (h : x.stage = .finishing output isError) :
    x.Occurs (.resultHooked x.index content details)
      (.resultHooked x.index (output.patch content details) isError)

theorem Execution.occurs_of_occurrence {x : Execution} {i : Answer} {o : Occurrence}
    (h : x.occurrence i = some o) : x.Occurs i o := by
  obtain ⟨index, call, stage⟩ := x
  cases i with
  | polled i =>
    cases stage <;> simp only [Execution.occurrence, reduceCtorEq] at h
    split at h <;> cases h
    subst_vars
    exact .polled rfl
  | hooked i r =>
    cases stage <;> simp only [Execution.occurrence, reduceCtorEq] at h
    split at h <;> cases h
    subst_vars
    exact .hooked r rfl
  | update i content details =>
    cases stage <;> simp only [Execution.occurrence, reduceCtorEq] at h
    split at h <;> cases h
    subst_vars
    exact .update content details rfl
  | returned i r =>
    cases stage <;> simp only [Execution.occurrence, reduceCtorEq] at h
    split at h <;> cases h
    subst_vars
    exact .returned r rfl
  | resultHooked i content details =>
    cases stage with
    | finishing output isError =>
      simp only [Execution.occurrence] at h
      split at h <;> cases h
      subst_vars
      exact .resultHooked content details output isError rfl
    | _ => cases h
  | _ => cases h

section Runs

variable {agent : Agent} {s : State} {w : Moment} {a : AssistantMessage}
  {batch : List (ℕ × ToolCall)} {before : List ℕ}

theorem wp_nextOccurrence {ok : Answer → Prop} {abortable : Bool} {flying : List Execution}
    {Q : Occurrence → Moment → Prop} {R : Moment → Prop} (hR : R w)
    (habort : abortable = true → Q .abort (w.hear .abort { w.state with signal := some true }))
    (hother : ∀ x ∈ flying, ∀ i o, x.Occurs i o → Q o (w.hear i w.state)) :
    (nextOccurrence abortable flying).wp ok Q R w := by
  refine Prog.wp_ask.mpr ⟨hR, fun i o t _ hi ↦ ?_⟩
  split at hi
  · split at hi
    · rename_i hab
      obtain ⟨rfl, rfl⟩ := Prod.mk.inj (Option.some.inj hi)
      exact habort (Bool.and_eq_true_iff.mp hab).1
    · cases hi
  · obtain ⟨o', ho, heq⟩ := Option.map_eq_some_iff.mp hi
    obtain ⟨rfl, rfl⟩ := Prod.mk.inj heq
    obtain ⟨x, hx, hxo⟩ := List.exists_of_findSome?_eq_some ho
    exact hother x hx i o' (Execution.occurs_of_occurrence hxo)

/-- The calls that may be in a batch of this reply: they are calls of it, and one that is not
read-only is alone. -/
structure Fits (agent : Agent) (a : AssistantMessage) (batch : List (ℕ × ToolCall)) : Prop where
  calls : ∀ c ∈ batch, a.calls[c.1]? = some c.2
  alone : (∀ c ∈ batch, agent.isReadOnly c.2.name = true) ∨ batch.length = 1

variable (agent s a batch before) in
/-- A batch is executed. -/
def Aloft (b : Batch) (w : Moment) : Prop :=
  ∃ flying started, b.Sound batch before flying started ∧
    Kept agent { s with phase := .working a flying started } w

variable (agent s a batch before) in
/-- The batch has been executed, and nothing of it is running. -/
def Landed (w : Moment) : Prop :=
  ∃ ab started, (∀ i ∈ started, i ∈ before ∨ i ∈ batch.map Prod.fst) ∧
    Kept agent { s with phase := .working a [] started, aborted := ab } w

variable (agent s a batch before) in
/-- What a round of a batch comes to. -/
def Moved (r : Batch ⊕ List Result) (w : Moment) : Prop :=
  r.elim (fun b ↦ Aloft agent s a batch before b w) fun _ ↦ Landed agent s a batch before w

theorem Aloft.lawful {b : Batch} (h : Aloft agent s a batch before b w) : Lawful agent w := by
  obtain ⟨flying, started, -, hw⟩ := h
  exact hw.lawful

/-- What is not said anything about is heard, and nothing else happens. -/
theorem Kept.hear (h : Kept agent s w) {i : Answer} (hi : s.hear i = s) (hadmits : s.Admits i) :
    Kept agent s (w.hear i w.state) := by
  refine ⟨⟨?_, h.aborted, h.setup, h.queue, h.noted⟩, h.messages⟩
  have := h.reaches.heard hadmits
  rwa [hi] at this

/-- The call may be executed now. -/
theorem Fits.mayFly (h : Fits agent a batch) {b : Batch} {flying started : List ℕ}
    (hb : b.Sound batch before flying started) {x : Execution} (hx : x ∈ b.flying)
    (hstage : x.stage ≠ .executing) : MayFly agent a flying x.call := by
  obtain hro | hone := h.alone
  · refine .inr ⟨hro _ (hb.mem x hx), hb.length_lt hx hstage, fun i hi other hother ↦ ?_⟩
    obtain ⟨y, hy, rfl, -⟩ := (hb.aloft i).mp hi
    rw [h.calls _ (hb.mem y hy), Option.some_inj] at hother
    exact hother ▸ hro _ (hb.mem y hy)
  · refine .inl (List.eq_nil_iff_forall_not_mem.mpr fun i hi ↦ ?_)
    obtain ⟨y, hy, rfl, hexec⟩ := (hb.aloft i).mp hi
    obtain ⟨c, rfl⟩ := List.length_eq_one_iff.mp hone
    have hxc := List.mem_singleton.mp (hb.mem x hx)
    have hyc := List.mem_singleton.mp (hb.mem y hy)
    have hxy : x.index = y.index := congrArg Prod.fst (hxc.trans hyc.symm)
    exact hstage (hb.unique hx hy hxy ▸ hexec)

/-- The tool is out of it, and the hook for outputs is next. -/
theorem aloft_afterTool {b : Batch} {flying flying' started : List ℕ}
    (hb : b.Sound batch before flying started) {x : Execution} (hx : x ∈ b.flying)
    (haloft : ∀ i, i ∈ flying' ↔ i ≠ x.index ∧ i ∈ flying) (hnodup : flying'.Nodup)
    (h : Kept agent { s with phase := .working a flying' started } w) (extensions : Bool)
    (output : ToolOutput) (isError : Bool) :
    Aloft agent s a batch before (b.afterTool extensions x.index output isError) w := by
  rw [Batch.afterTool]
  split
  · refine ⟨flying', started, hb.advance hx (fun i ↦ ?_) hnodup (fun _ ↦ .inr) nofun, h⟩
    simpa using haloft i
  · exact ⟨flying', started, hb.finish haloft hnodup output isError, h⟩

/-- The numbers of those that are running, without one that is not. -/
theorem mem_iff_of_not_mem {l : List ℕ} {j : ℕ} (h : j ∉ l) (i : ℕ) :
    i ∈ l ↔ i ≠ j ∧ i ∈ l :=
  ⟨fun hi ↦ ⟨fun hij ↦ h (hij ▸ hi), hi⟩, And.right⟩

theorem wp_startTool {b : Batch} {flying started : List ℕ}
    (hb : b.Sound batch before flying started) (hfits : Fits agent a batch) {x : Execution}
    (hx : x ∈ b.flying) (hearly : x.stage.early = true)
    (h : Kept agent { s with phase := .working a flying started } w) (hs : s.aborted = false) :
    (startTool b x.index x.call).wp Answer.IsFair (Aloft agent s a batch before) (Lawful agent)
      w := by
  have hstage : x.stage ≠ .executing := fun hexec ↦ by rw [hexec] at hearly; cases hearly
  have hout := hb.not_mem_flying hx hstage
  rw [startTool, Prog.wp_read_bind]
  dsimp only
  cases w.state.agent.getTool x.call.name with
  | none =>
    refine (Prog.wp_pure _).mpr (aloft_afterTool hb hx (mem_iff_of_not_mem hout) hb.nodup_flying h
      _ _ _)
  | some tool =>
    refine Prog.wp_say_bind.mpr ((Prog.wp_pure _).mpr ⟨x.index :: flying, x.index :: started, ?_, ?_⟩)
    · refine hb.advance hx (fun i ↦ ?_) (List.nodup_cons.mpr ⟨hout, hb.nodup_flying⟩)
        (fun i ↦ List.mem_cons.mp) nofun
      rw [List.mem_cons, mem_iff_of_not_mem hout i]
      simp
    · exact h.say (.execute rfl hs (hfits.calls _ (hb.mem x hx)) (hb.unstarted x hx hearly)
        (hfits.mayFly hb hx hstage)) rfl rfl

variable (trim : String → String)

theorem wp_onOccurrence {b : Batch} (hfits : Fits agent a batch) (hs : s.aborted = false)
    {flying started : List ℕ} (hb : b.Sound batch before flying started) {x : Execution}
    (hx : x ∈ b.flying) (h : Kept agent { s with phase := .working a flying started } w)
    {i : Answer} {o : Occurrence} (ho : x.Occurs i o) :
    (onOccurrence trim b o).wp Answer.IsFair (Moved agent s a batch before) (Lawful agent)
      (w.hear i w.state) := by
  cases ho with
  | polled hstage =>
    have h' := h.hear (i := .polled x.index) rfl trivial
    rw [onOccurrence, Prog.wp_read_bind]
    split
    · refine (Prog.wp_pure _).mpr ⟨flying, started, hb.advance hx (fun i ↦ ?_) hb.nodup_flying
        (fun _ ↦ .inr) fun _ ↦ hb.unstarted x hx (by rw [hstage]; rfl), h'⟩
      rw [mem_iff_of_not_mem (hb.not_mem_flying hx (by rw [hstage]; nofun)) i]
      simp
    · exact Prog.wp_call (wp_startTool hb hfits hx (by rw [hstage]; rfl) h' hs) fun _ _ hv ↦
        (Prog.wp_pure _).mpr hv
  | hooked r hstage =>
    have h' := h.hear (i := .hooked x.index r) rfl trivial
    have hstart : (startTool b x.index x.call >>= fun b ↦ pure (Sum.inl b)).wp Answer.IsFair
        (Moved agent s a batch before) (Lawful agent) (w.hear (.hooked x.index r) w.state) :=
      Prog.wp_call (wp_startTool hb hfits hx (by rw [hstage]; rfl) h' hs) fun _ _ hv ↦
        (Prog.wp_pure _).mpr hv
    match r with
    | none => exact hstart
    | some (false, _) => exact hstart
    | some (true, reason) =>
      rw [onOccurrence, Prog.wp_read_bind]
      exact (Prog.wp_pure _).mpr (aloft_afterTool hb hx
        (mem_iff_of_not_mem (hb.not_mem_flying hx (by rw [hstage]; nofun))) hb.nodup_flying h' _ _ _)
  | update content details hstage =>
    have h' := h.hear (i := .update x.index content details) rfl trivial
    refine wp_onEvent_bind.mpr ((Prog.wp_pure _).mpr ⟨flying, started, hb, ?_⟩)
    exact h'.say (.update (i := x.index) rfl ((hb.aloft _).mpr ⟨x, hx, rfl, hstage⟩)
      (hfits.calls _ (hb.mem x hx))) rfl rfl
  | returned r hstage =>
    have h' : Kept agent
        { s with phase := .working a (flying.filter (· ≠ x.index)) started }
        (w.hear (.returned x.index r) w.state) :=
      ⟨⟨h.reaches.heard (i := .returned x.index r) trivial, h.aborted, h.setup, h.queue, h.noted⟩,
        h.messages⟩
    have haloft : ∀ i, i ∈ flying.filter (· ≠ x.index) ↔ i ≠ x.index ∧ i ∈ flying := by
      simp [and_comm]
    rw [onOccurrence, Prog.wp_read_bind]
    refine (Prog.wp_pure _).mpr ?_
    cases r <;> exact aloft_afterTool hb hx haloft (hb.nodup_flying.filter _) h' _ _ _
  | resultHooked content details output isError hstage =>
    have h' := h.hear (i := .resultHooked x.index content details) rfl trivial
    exact (Prog.wp_pure _).mpr ⟨flying, started, hb.finish
      (mem_iff_of_not_mem (hb.not_mem_flying hx (by rw [hstage]; nofun))) hb.nodup_flying _ _, h'⟩

theorem wp_batchRound {abortable : Bool} {b : Batch} (hfits : Fits agent a batch)
    (hs : s.aborted = false) (h : Aloft agent s a batch before b w) :
    (batchRound trim abortable b).wp Answer.IsFair (Moved agent s a batch before) (Lawful agent)
      w := by
  obtain ⟨flying, started, hb, hw⟩ := h
  have hfill := hb.fill
  rw [batchRound, Prog.wp_ite]
  split
  · rename_i hempty
    have hnone : flying = [] := List.eq_nil_iff_forall_not_mem.mpr fun i hi ↦ by
      obtain ⟨x, hx, -⟩ := (hfill.aloft i).mp hi
      rw [List.isEmpty_iff.mp hempty] at hx
      cases hx
    subst hnone
    exact (Prog.wp_pure _).mpr ⟨s.aborted, started, hb.started, hw⟩
  · refine Prog.wp_bind (wp_nextOccurrence hw.lawful (fun _ ↦ ?_) fun x hx i o ho ↦
      wp_onOccurrence trim hfits hs hfill hx hw ho)
    refine (Prog.wp_pure _).mpr ⟨true, started, hb.started, ⟨?_, rfl, hw.setup, hw.queue, hw.noted⟩,
      hw.messages⟩
    exact hw.reaches.heard (i := .abort) rfl

theorem wp_batch {abortable : Bool} (hfits : Fits agent a batch) (hs : s.aborted = false)
    (hnodup : (batch.map Prod.fst).Nodup) (hnew : ∀ c ∈ batch, c.1 ∉ before)
    (h : Kept agent { s with phase := .working a [] before } w) :
    (Prog.loop (batchRound trim abortable) ⟨batch, [], []⟩).wp Answer.IsFair
      (fun _ ↦ Landed agent s a batch before) (Lawful agent) w :=
  Prog.wp_loop (I := Aloft agent s a batch before)
    (fun _ _ hv ↦ Prog.wp_mono (wp_batchRound trim hfits hs hv)
      (fun r _ hr ↦ by cases r <;> exact hr) fun _ ↦ id)
    (fun _ _ ↦ Aloft.lawful) ⟨[], before, .begin hnodup hnew, h⟩

/-! ## The second phase -/

/-- The messages were put in by somebody. -/
def AllInput (steering : Option (List Message)) : Prop :=
  ∀ ms, steering = some ms → ∀ m ∈ ms, m.isInput = true

theorem allInput_none : AllInput none := nofun

/-- The calls that are still to be executed, when some were `started`; those that wait to be executed
side by side are read-only. -/
structure Todo (agent : Agent) (a : AssistantMessage) (started : List ℕ)
    (pending calls : List (ℕ × ToolCall)) : Prop where
  mem : ∀ c ∈ pending ++ calls, a.calls[c.1]? = some c.2
  readOnly : ∀ c ∈ pending, agent.isReadOnly c.2.name = true
  nodup : ((pending ++ calls).map Prod.fst).Nodup
  fresh : ∀ c ∈ pending ++ calls, c.1 ∉ started

namespace Todo

variable {started started' : List ℕ} {pending calls : List (ℕ × ToolCall)} {c : ℕ × ToolCall}

theorem fits (h : Todo agent a started pending calls) : Fits agent a pending :=
  ⟨fun c hc ↦ h.mem c (List.mem_append_left _ hc), .inl h.readOnly⟩

/-- A call that is read-only has to wait. -/
theorem wait (h : Todo agent a started pending (c :: calls))
    (hro : agent.isReadOnly c.2.name = true) : Todo agent a started (pending ++ [c]) calls where
  mem := by simpa using h.mem
  readOnly := by
    simp only [List.mem_append, List.mem_singleton]
    rintro d (hd | rfl)
    · exact h.readOnly d hd
    · exact hro
  nodup := by simpa using h.nodup
  fresh := by simpa using h.fresh

/-- The calls that waited were executed. -/
theorem flush (h : Todo agent a started pending calls)
    (hstarted : ∀ i ∈ started', i ∈ started ∨ i ∈ pending.map Prod.fst) :
    Todo agent a started' [] calls where
  mem := fun d hd ↦ h.mem d (List.mem_append_right _ hd)
  readOnly := nofun
  nodup := h.nodup.sublist ((List.sublist_append_right _ _).map _)
  fresh := fun d hd hds ↦ by
    refine (hstarted _ hds).elim (h.fresh d (List.mem_append_right _ hd)) fun hp ↦ ?_
    have := h.nodup
    rw [List.map_append] at this
    exact (List.nodup_append.mp this).2.2 _ hp _ (List.mem_map_of_mem hd) rfl

/-- A call is executed alone. -/
theorem alone (h : Todo agent a started [] (c :: calls)) : Fits agent a [c] :=
  ⟨fun d hd ↦ h.mem d (List.mem_cons.mpr (.inl (List.mem_singleton.mp hd))), .inr rfl⟩

/-- A call was executed alone. -/
theorem tail (h : Todo agent a started [] (c :: calls))
    (hstarted : ∀ i ∈ started', i ∈ started ∨ i ∈ [c].map Prod.fst) :
    Todo agent a started' [] calls where
  mem := fun d hd ↦ h.mem d (List.mem_cons_of_mem _ hd)
  readOnly := nofun
  nodup := (List.nodup_cons.mp h.nodup).2
  fresh := fun d hd hds ↦ by
    refine (hstarted _ hds).elim (h.fresh d (List.mem_cons_of_mem _ hd)) fun hp ↦ ?_
    rw [List.map_singleton, List.mem_singleton] at hp
    exact (List.nodup_cons.mp h.nodup).1 (hp ▸ List.mem_map_of_mem hd)

/-- Fewer calls. -/
theorem drop (h : Todo agent a started pending calls) : Todo agent a started pending [] where
  mem := fun d hd ↦ h.mem d (List.mem_append_left _ (by simpa using hd))
  readOnly := h.readOnly
  nodup := h.nodup.sublist (by simp)
  fresh := fun d hd ↦ h.fresh d (List.mem_append_left _ (by simpa using hd))

end Todo

theorem length_record (outputs : Outputs) (results : List Result) :
    (outputs.record results).length = outputs.length := by
  induction results generalizing outputs with
  | nil => rfl
  | cons r results ih => exact (ih _).trans (List.length_set ..)

variable (agent s a) in
/-- The second phase has come to an end. -/
def Phase2 (n : ℕ) (x : Executed) (w : Moment) : Prop :=
  x.outputs.length = n ∧ AllInput x.steering ∧ ∃ ab started, Todo agent a started x.pending [] ∧
    Kept agent { s with phase := .working a [] started, aborted := ab } w

theorem wp_flush {pending calls : List (ℕ × ToolCall)} {outputs : Outputs} {started : List ℕ}
    (htodo : Todo agent a started pending calls) (hs : s.aborted = false)
    (h : Kept agent { s with phase := .working a [] started } w) :
    (flush trim pending outputs).wp Answer.IsFair
      (fun outputs' v ↦ outputs'.length = outputs.length ∧ ∃ ab started',
        Todo agent a started' [] calls ∧
          Kept agent { s with phase := .working a [] started', aborted := ab } v)
      (Lawful agent) w := by
  rw [flush, Prog.wp_ite]
  split
  · rename_i hempty
    rw [List.isEmpty_iff] at hempty
    subst hempty
    exact (Prog.wp_pure _).mpr ⟨rfl, s.aborted, started, htodo, h⟩
  · refine Prog.wp_call (wp_batch trim htodo.fits hs ?_ ?_ h) fun results v hv ↦ ?_
    · exact htodo.nodup.sublist ((List.sublist_append_left _ _).map _)
    · exact fun c hc ↦ htodo.fresh c (List.mem_append_left _ hc)
    · obtain ⟨ab, started', hstarted, hv⟩ := hv
      exact (Prog.wp_pure _).mpr ⟨length_record .., ab, started', htodo.flush hstarted, hv⟩

theorem wp_runTools {calls pending : List (ℕ × ToolCall)} {outputs : Outputs} {started : List ℕ}
    {ab : Bool} (htodo : Todo agent a started pending calls)
    (h : Kept agent { s with phase := .working a [] started, aborted := ab } w) :
    (runTools trim calls pending outputs).wp Answer.IsFair (Phase2 agent s a outputs.length)
      (Lawful agent) w := by
  induction calls generalizing pending outputs started ab w with
  | nil => exact (Prog.wp_pure _).mpr ⟨rfl, allInput_none, ab, started, htodo, h⟩
  | cons c calls ih =>
    obtain ⟨index, call⟩ := c
    rw [runTools]
    refine Prog.wp_call (wp_isAborted_kept h rfl) fun b v hv ↦ ?_
    cases b with
    | true => exact (Prog.wp_pure _).mpr ⟨rfl, allInput_none, true, started, htodo.drop, hv⟩
    | false =>
      simp only [Bool.false_eq_true, if_false, Prog.wp_read_bind]
      rw [hv.isReadOnly, Prog.wp_ite]
      split
      · rename_i hro
        exact ih (htodo.wait hro) hv
      · refine Prog.wp_call (wp_drainMessages_kept hv _) fun ms v hv ↦ ?_
        rw [Prog.wp_ite]
        split
        · refine (Prog.wp_pure _).mpr ⟨rfl, ?_, false, started, htodo.drop, hv.2⟩
          rintro _ ⟨⟩
          exact hv.1
        · refine Prog.wp_call (wp_flush trim (s := { s with aborted := false }) htodo rfl hv.2)
            fun outputs' v hv ↦ ?_
          obtain ⟨hlen, ab, started, htodo, hv⟩ := hv
          refine Prog.wp_call (wp_isAborted_kept hv rfl) fun b v hv ↦ ?_
          cases b with
          | true => exact (Prog.wp_pure _).mpr ⟨hlen, allInput_none, true, started, htodo.drop, hv⟩
          | false =>
            simp only [Bool.false_eq_true, if_false]
            refine Prog.wp_call (wp_drainMessages_kept hv _) fun ms v hv ↦ ?_
            rw [Prog.wp_ite]
            split
            · refine (Prog.wp_pure _).mpr ⟨hlen, ?_, false, started, htodo.drop, hv.2⟩
              rintro _ ⟨⟩
              exact hv.1
            · refine Prog.wp_call (wp_batch trim (s := { s with aborted := false }) htodo.alone rfl
                (List.nodup_singleton _) ?_ hv.2) fun results v hv ↦ ?_
              · intro d hd
                exact htodo.fresh d (List.mem_cons.mpr (.inl (List.mem_singleton.mp hd)))
              · obtain ⟨ab, started', hstarted, hv⟩ := hv
                rw [← hlen, ← length_record outputs' results]
                exact ih (htodo.tail hstarted) hv

theorem wp_finalFlush {x : Executed} {n : ℕ} (h : Phase2 agent s a n x w) :
    (finalFlush trim x).wp Answer.IsFair
      (fun x v ↦ x.outputs.length = n ∧ AllInput x.steering ∧
        ∃ ab started, Kept agent { s with phase := .working a [] started, aborted := ab } v)
      (Lawful agent) w := by
  obtain ⟨hlen, hinput, ab, started, htodo, hw⟩ := h
  rw [finalFlush, Prog.wp_ite]
  split
  · exact (Prog.wp_pure _).mpr ⟨hlen, hinput, ab, started, hw⟩
  · refine Prog.wp_call (wp_isAborted_kept hw rfl) fun b v hv ↦ ?_
    cases b with
    | true => exact (Prog.wp_pure _).mpr ⟨hlen, hinput, true, started, hv⟩
    | false =>
      simp only [Bool.false_eq_true, if_false]
      rw [Prog.wp_ite]
      split
      · exact (Prog.wp_pure _).mpr ⟨hlen, hinput, false, started, hv⟩
      · refine Prog.wp_call (wp_drainMessages_kept hv _) fun ms v hv ↦ ?_
        rw [Prog.wp_ite]
        split
        · refine Prog.wp_call (wp_batch trim (s := { s with aborted := false }) htodo.fits rfl ?_ ?_
            hv.2) fun results v hv ↦ ?_
          · simpa using htodo.nodup
          · exact fun c hc ↦ htodo.fresh c (List.mem_append_left _ hc)
          · obtain ⟨ab, started', -, hv⟩ := hv
            exact (Prog.wp_pure _).mpr ⟨(length_record ..).trans hlen, hinput, ab, started', hv⟩
        · refine (Prog.wp_pure _).mpr ⟨hlen, ?_, false, started, hv.2⟩
          rintro _ ⟨⟩
          exact hv.1

/-! ## The third phase -/

theorem lastReply_append_toolResult {a : Agent} {l : List Message} {r : ToolResultMessage}
    (h : a.messages = l ++ [.toolResult r]) : a.lastReply = none := by
  rw [Agent.lastReply, h, List.getLast?_concat]

variable (agent s a) in
/-- Something that was reported of the next call. -/
def Reported (rest : List ToolCall) (results : List ToolResultMessage) (r : ToolResultMessage)
    (w : Moment) : Prop :=
  Kept agent
      { s with
        phase := .settling a rest (results ++ [r])
        history := s.history ++ [.toolResult r] } w ∧
    w.state.agent.lastReply = none

/-- The result of a call is told. -/
theorem wp_pushToolResult {rest : List ToolCall} {results : List ToolResultMessage}
    {r : ToolResultMessage} (h : Kept agent { s with phase := .told a rest results r } w) :
    (pushToolResult r).wp Answer.IsFair (fun _ ↦ Reported agent s a rest results r)
      (Lawful agent) w := by
  simp only [pushToolResult, Prog.wp_change_bind, wp_onEvent_bind, wp_onEvent]
  have hreaches := (h.reaches.said (.resultStart rfl)).said (.resultEnd rfl)
  have hmessages : w.state.agent.messages ++ [.toolResult r] =
      agent.messages ++ (s.history ++ [.toolResult r]) := by
    rw [h.messages, List.append_assoc]
  refine ⟨⟨⟨hreaches, h.aborted, h.setup, h.queue, ?_⟩, hmessages⟩, ?_⟩
  · exact congrArg (· ++ [.toolResult r]) h.noted
  · exact lastReply_append_toolResult (l := w.state.agent.messages) rfl

/-- What came of a call, is told. -/
theorem wp_toolEnd {call : ToolCall} {rest : List ToolCall} {results : List ToolResultMessage}
    {output : ToolOutput} {isError : Bool} (hout : output.isError = isError)
    (h : Kept agent { s with phase := .settling a (call :: rest) results } w) :
    (onEvent (.toolExecutionEnd call.id call.name output isError) >>= fun _ ↦
      pushToolResult (toolResult call output isError) >>= fun _ ↦
        pure (toolResult call output isError)).wp Answer.IsFair
      (Reported agent s a rest results) (Lawful agent) w := by
  subst hout
  rw [wp_onEvent_bind]
  refine Prog.wp_call (wp_pushToolResult (h.say (.toolEnd rfl) rfl rfl)) fun _ v hv ↦ ?_
  exact (Prog.wp_pure _).mpr hv

theorem wp_reportFailure {call : ToolCall} {rest : List ToolCall}
    {results : List ToolResultMessage} {text : String}
    (h : Kept agent { s with phase := .settling a (call :: rest) results } w) :
    (reportFailure call text).wp Answer.IsFair (Reported agent s a rest results)
      (Lawful agent) w := by
  rw [reportFailure]
  exact wp_onEvent_bind.mpr (wp_toolEnd rfl (h.say (.lateUpdate rfl) rfl rfl))

theorem wp_reportToolCall {call : ToolCall} {rest : List ToolCall}
    {results : List ToolResultMessage} (output : Option (ToolOutput × Bool)) (steering : Bool)
    (h : Kept agent { s with phase := .settling a (call :: rest) results } w) :
    (reportToolCall call output steering).wp Answer.IsFair (Reported agent s a rest results)
      (Lawful agent) w := by
  cases output with
  | some r =>
    refine wp_toolEnd ?_ h
    rfl
  | none =>
    rw [reportToolCall, Prog.wp_ite]
    split <;> exact wp_reportFailure h

theorem wp_checkSteering {steering : Option (List Message)} (hinput : AllInput steering)
    (h : Kept agent s w) (hp : s.phase.listens = true) :
    (checkSteering steering).wp Answer.IsFair
      (fun steering v ↦ AllInput steering ∧ ∃ ab, Kept agent { s with aborted := ab } v)
      (Lawful agent) w := by
  rw [checkSteering, Prog.wp_ite]
  split
  · exact (Prog.wp_pure _).mpr ⟨hinput, s.aborted, h⟩
  · refine Prog.wp_call (wp_isAborted_kept h hp) fun b v hv ↦ ?_
    cases b with
    | true => exact (Prog.wp_pure _).mpr ⟨nofun, true, hv⟩
    | false =>
      simp only [Bool.false_eq_true, if_false]
      refine Prog.wp_call (wp_drainMessages_kept hv _) fun ms v hv ↦ (Prog.wp_pure _).mpr ?_
      refine ⟨fun ms' hms' ↦ ?_, false, hv.2⟩
      split at hms'
      · cases hms'
      · cases hms'
        exact hv.1

/-- The turn can be ended. -/
def Settled (agent : Agent) (s : State) (a : AssistantMessage) (x : ToolExecutionOutcome)
    (w : Moment) : Prop :=
  AllInput x.steeringMessages ∧ w.state.agent.lastReply = none ∧ ∃ ab history,
    Kept agent
      { s with phase := .settling a [] x.toolResults, aborted := ab, history := history } w

theorem wp_settle {calls : List (ToolCall × Option (ToolOutput × Bool))}
    {x : ToolExecutionOutcome} (hinput : AllInput x.steeringMessages)
    (hlast : calls = [] → w.state.agent.lastReply = none)
    (h : Kept agent { s with phase := .settling a (calls.map Prod.fst) x.toolResults } w) :
    (settle calls x).wp Answer.IsFair (Settled agent s a) (Lawful agent) w := by
  induction calls generalizing s w x with
  | nil => exact (Prog.wp_pure _).mpr ⟨hinput, hlast rfl, s.aborted, s.history, h⟩
  | cons c calls ih =>
    refine Prog.wp_call (wp_checkSteering hinput h rfl) fun steering v hv ↦ ?_
    obtain ⟨hinput, ab, hv⟩ := hv
    refine Prog.wp_call (wp_reportToolCall (s := { s with aborted := ab }) c.2 _ hv)
      fun r v hv ↦ ?_
    refine Prog.wp_mono (ih (s := { s with aborted := ab, history := s.history ++ [.toolResult r] })
      (x := ⟨x.toolResults ++ [r], steering⟩) hinput (fun _ ↦ hv.2) hv.1) ?_ fun _ ↦ id
    exact fun _ _ hx ↦ hx

/-! ## All three -/

theorem wp_announce {calls : List ToolCall}
    (h : Kept agent { s with phase := .announcing a calls } w) :
    (Prog.each announce calls).wp Answer.IsFair
      (fun _ v ↦ Kept agent { s with phase := .announcing a [] } v) (Lawful agent) w := by
  induction calls generalizing w with
  | nil => exact (Prog.wp_pure _).mpr h
  | cons call calls ih => exact wp_onEvent_bind.mpr (ih (h.say (.announce rfl) rfl rfl))

/-- The calls of a reply, with their numbers, are still to be executed. -/
theorem todo_zipIdx (agent : Agent) (a : AssistantMessage) :
    Todo agent a [] [] (a.calls.zipIdx.map Prod.swap) where
  mem := by
    simp only [List.nil_append, List.mem_map]
    rintro _ ⟨c, hc, rfl⟩
    exact List.mem_zipIdx_iff_getElem?.mp hc
  readOnly := nofun
  nodup := by
    rw [List.nil_append, List.map_map]
    have : (Prod.fst ∘ Prod.swap : ToolCall × ℕ → ℕ) = Prod.snd := rfl
    rw [this, List.zipIdx_map_snd]
    exact List.nodup_range' ..
  fresh := fun _ _ ↦ List.not_mem_nil

/-- **The execution of the calls of a reply.** -/
theorem wp_executeToolCalls (hcalls : a.calls ≠ [])
    (h : Kept agent { s with phase := .announcing a a.calls } w) :
    (executeToolCalls trim a.calls).wp Answer.IsFair (Settled agent s a) (Lawful agent) w := by
  rw [executeToolCalls]
  refine Prog.wp_call (wp_announce h) fun _ v hv ↦ ?_
  have hworking := hv.silent (.announced rfl) rfl rfl
  refine Prog.wp_call (wp_runTools trim (todo_zipIdx agent a) hworking) fun x v hv ↦ ?_
  refine Prog.wp_call (wp_finalFlush trim hv) fun x v hv ↦ ?_
  obtain ⟨hlen, hinput, ab, started, hv⟩ := hv
  rw [List.length_replicate] at hlen
  have hfst : (a.calls.zip x.outputs).map Prod.fst = a.calls := List.map_fst_zip hlen.ge
  refine Prog.wp_mono (wp_settle (s := { s with aborted := ab }) hinput (fun hnil ↦ ?_) ?_)
    (fun _ _ hx ↦ hx) fun _ ↦ id
  · rw [hnil] at hfst
    exact absurd hfst.symm hcalls
  · rw [hfst]
    exact hv.silent (.worked rfl) rfl rfl

end Runs

end WorkWithMe.Pi
