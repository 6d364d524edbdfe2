import WorkWithMe.Client.Stream

/-!
# The calls of tools, as they are shown

The agent starts calls of tools, reports what comes of them, and ends them; several may be going on
at once.  The front end keeps two copies of a call: an entry of `toolExecutions`, and a step of the
message that is being written when it starts.  The handlers of the three events patch both, but the
steps only of the message that is being written then, and the end of a message drops it if there is
nothing to see in it, whether it has steps or not.  An update comes without arguments, and the
handler puts that down as the arguments of the call.

* `happened` is what there is to show after some actions.
* `AsHappened` says that both copies are that.
* **`asHappened_of_allowed`**: they are in a run in which every action is `Allowed`, and in no other
  in which no call ends twice.
* `not_asHappened` is a call that is lost with the message that it is a step of.
-/

set_option autoImplicit false

namespace WorkWithMe.Client.ToolSteps

open Server Streaming

/-! ## What has happened -/

/-- The call that an action starts. -/
def started : Action → Option ToolExecution
  | .event _ (.toolExecutionStart toolName toolCallId args) =>
    some ⟨toolCallId, toolName, some args, .running, none⟩
  | _ => none

/-- The status that an action gives to a call: it ends it. -/
def statusOf (id : String) : Action → Option ToolStatus
  | .event _ (.toolExecutionEnd _ toolCallId _ isError) =>
    if toolCallId = id then some (if isError then .error else .done) else none
  | _ => none

/-- The result that an action reports of a call. -/
def resultOf (id : String) : Action → Option Json
  | .event _ (.toolExecutionUpdate _ toolCallId partialResult) =>
    if toolCallId = id then some (.str (toolOutputText partialResult)) else none
  | .event _ (.toolExecutionEnd _ toolCallId result _) =>
    if toolCallId = id then some (.str (toolOutputText result)) else none
  | _ => none

/-- What the last action says that says something. -/
def latest {α : Type} (f : Action → Option α) (as : List Action) : Option α :=
  as.reverse.findSome? f

/-- **The calls that have been started**, in order: each has the name and the arguments of its
start, the status of its end if there has been one, and the last result. -/
def happened : List Action → List ToolExecution
  | [] => []
  | a :: as =>
    ((started a).map fun t ↦ { t with
      status := (latest (statusOf t.id) as).getD .running
      result := latest (resultOf t.id) as }).toList ++ happened as

/-! ## What is shown -/

/-- The steps of an assistant entry. -/
def stepsOf (m : Message) : List ToolExecution := if m.role = .assistant then m.toolSteps else []

/-- The steps of all the assistant entries. -/
def shownSteps (ms : List Message) : List ToolExecution := ms.flatMap stepsOf

/-- **The calls are shown as they happened.** -/
structure AsHappened (calls : List ToolExecution) (s : Chat) : Prop where
  executions : s.toolExecutions = calls
  /-- Each call is a step of one assistant entry, and no other step has its id. -/
  steps : ∀ t ∈ calls, (shownSteps s.messages).filter (fun u ↦ u.id = t.id) = [t]

section Run

variable (toLowercase : String → String) (sid : SessionId)

/-- What an action makes of the chat. -/
def act (s : Chat) : Action → Chat
  | .event c e =>
    match piEventToWsJson toLowercase e sid with
    | some v => s.onMessage c v
    | none => s
  | .prompt c content => { s with messages := addPrompt c content s.messages }
  | .steer c input => { s with messages := addSteering c input s.messages }

/-- The chat after some actions. -/
def run (s : Chat) (as : List Action) : Chat := as.foldl (act toLowercase sid) s

end Run

/-- No call is shown yet. -/
def Fresh (s : Chat) : Prop := s.toolExecutions = [] ∧ shownSteps s.messages = []

/-! ## What the agent does, and what it should not -/

/-- A call is started once, and ended when it has been started. -/
def Emits (past : List Action) : Action → Prop
  | .event _ (.toolExecutionStart _ toolCallId _) => ∀ t ∈ happened past, t.id ≠ toolCallId
  | .event _ (.toolExecutionEnd _ toolCallId _ _) => ∃ t ∈ happened past, t.id = toolCallId
  | _ => True

/-- A call is not ended again. -/
def EndsOnce (past : List Action) : Action → Prop
  | .event _ (.toolExecutionEnd _ toolCallId _ _) =>
    ∀ t ∈ happened past, t.id = toolCallId → t.status = .running
  | _ => True

/-- The entry that is being written, the last if there are several. -/
def lastOpen (ms : List Message) : Option Message := ms.reverse.find? Message.isOpen

/-- **What may come when**: a call starts while an entry is being written, is not updated, and ends
while the entry that it is a step of is still the one that is being written; and when a message
ends, no entry with steps has nothing else to see in it. -/
def Allowed (s : Chat) : Action → Prop
  | .event _ (.toolExecutionStart _ _ _) => (lastOpen s.messages).isSome = true
  | .event _ (.toolExecutionUpdate _ toolCallId _) => ∀ t ∈ s.toolExecutions, t.id ≠ toolCallId
  | .event _ (.toolExecutionEnd _ toolCallId _ _) =>
    ∃ m, lastOpen s.messages = some m ∧ ∃ u ∈ m.toolSteps, u.id = toolCallId
  | .event _ .messageEnd => ∀ m ∈ s.messages, m.isBlank = true → stepsOf m = []
  | _ => True

/-! ## One more action -/

section Happened

/-- What an action changes of a call. -/
def recorded (a : Action) (t : ToolExecution) : ToolExecution :=
  { t with status := (statusOf t.id a).getD t.status, result := (resultOf t.id a).or t.result }

theorem latest_concat {α : Type} (f : Action → Option α) (as : List Action) (a : Action) :
    latest f (as ++ [a]) = (f a).or (latest f as) := by
  rw [latest, List.reverse_concat, List.findSome?_cons, latest]
  cases f a <;> rfl

theorem happened_singleton (a : Action) : happened [a] = (started a).toList := by
  rw [happened, happened, List.append_nil]
  cases hstarted : started a with
  | none => rfl
  | some t =>
    rw [started.eq_def] at hstarted
    split at hstarted
    · cases hstarted
      rfl
    · cases hstarted

/-- **What happens last.** -/
theorem happened_concat (as : List Action) (a : Action) :
    happened (as ++ [a]) = (happened as).map (recorded a) ++ (started a).toList := by
  induction as with
  | nil => exact happened_singleton a
  | cons b as ih =>
    rw [List.cons_append, happened, ih, happened, List.map_append, List.append_assoc]
    congr 1
    cases started b with
    | none => rfl
    | some t =>
      simp only [Option.map_some, Option.toList_some, List.map_cons, List.map_nil, recorded,
        latest_concat]
      rw [Option.getD_or]

end Happened

/-! ## What becomes of the steps -/

section Steps

variable {ms : List Message} {id : String} {f : Message → Message}

theorem shownSteps_append (l r : List Message) :
    shownSteps (l ++ r) = shownSteps l ++ shownSteps r := List.flatMap_append

theorem shownSteps_cons (m : Message) (r : List Message) :
    shownSteps (m :: r) = stepsOf m ++ shownSteps r := List.flatMap_cons

theorem stepsOf_of_isOpen {m : Message} (h : m.isOpen = true) : stepsOf m = m.toolSteps := by
  rw [Message.isOpen, Bool.and_eq_true, decide_eq_true_iff] at h
  exact if_pos h.1

/-- Where no entry is being written, none is updated. -/
theorem updateLastStreamingMsg_of_none (h : lastOpen ms = none) (f : Message → Message) :
    updateLastStreamingMsg ms f = ms := by
  refine Lists.modifyLast_of_forall_not fun m hm ↦ ?_
  exact eq_false_of_ne_true (List.find?_eq_none.mp h m (List.mem_reverse.mpr hm))

/-- The entry that is being written is updated. -/
theorem exists_updateLastStreamingMsg {m : Message} (h : lastOpen ms = some m) :
    m.isOpen = true ∧ ∃ l r, ms = l ++ m :: r ∧
      ∀ f : Message → Message, updateLastStreamingMsg ms f = l ++ f m :: r := by
  obtain ⟨hopen, before, after, hsplit, hbefore⟩ := List.find?_eq_some_iff_append.mp h
  have hms : ms = after.reverse ++ m :: before.reverse := by
    rw [← List.reverse_reverse ms, hsplit, List.reverse_append, List.reverse_cons,
      List.append_assoc]
    rfl
  refine ⟨hopen, after.reverse, before.reverse, hms, fun f ↦ ?_⟩
  rw [hms]
  refine Lists.modifyLast_append_cons hopen (fun b hb ↦ ?_) _
  exact Bool.not_eq_true' _ ▸ hbefore b (List.mem_reverse.mp hb)

/-- An update of something else leaves the steps alone. -/
theorem shownSteps_modifyLast (p : Message → Bool) (hf : ∀ m, stepsOf (f m) = stepsOf m) :
    shownSteps (Lists.modifyLast p f ms) = shownSteps ms := by
  induction ms with
  | nil => rfl
  | cons m ms ih =>
    rw [Lists.modifyLast]
    split
    · rw [shownSteps_cons, shownSteps_cons, ih]
    · split
      · rw [shownSteps_cons, shownSteps_cons, hf]
      · rfl

theorem shownSteps_messageStart (id role : Option String) (c : Clock) (ms : List Message) :
    shownSteps (messageStart id role c ms) = shownSteps ms := by
  rw [messageStart]
  split
  · rfl
  dsimp only
  split
  · rfl
  split
  · exact shownSteps_modifyLast _ fun _ ↦ rfl
  · rw [shownSteps_append]
    exact List.append_nil _

theorem shownSteps_addPrompt (c : Clock) (content : String) (ms : List Message) :
    shownSteps (addPrompt c content ms) = shownSteps ms := by
  rw [addPrompt]
  split
  · rfl
  · rw [shownSteps_append]
    exact List.append_nil _

theorem shownSteps_addSteering (c : Clock) (input : String) (ms : List Message) :
    shownSteps (addSteering c input ms) = shownSteps ms := by
  rw [addSteering, shownSteps_append]
  exact List.append_nil _

/-- The end of a message drops an assistant entry in which there is nothing to see. -/
theorem endMessage_of_isBlank {m : Message} (hrole : m.role = .assistant)
    (hblank : m.isBlank = true) : endMessage none m = none := by
  have hdropped : ∀ m' : Message, m'.role = .assistant → m'.isStreaming = false →
      m'.isBlank = true →
        ¬ (m'.role = .user ∨ m'.isStreaming = true ∨ m'.isBlank = false) := by
    intro m' hrole' hstreaming hblank'
    rw [hrole', hstreaming, hblank']
    decide
  rw [endMessage]
  split
  · exact if_neg (hdropped { m with isStreaming := false } hrole rfl hblank)
  · rename_i hopen
    refine if_neg (hdropped _ hrole (eq_false_of_ne_true fun hstreaming ↦ hopen (.inr ?_)) hblank)
    rw [Message.isOpen, hrole, hstreaming]
    decide

/-- It keeps the others, with their steps. -/
theorem exists_endMessage {m : Message} (h : ¬ (m.role = .assistant ∧ m.isBlank = true)) :
    ∃ m', endMessage none m = some m' ∧ stepsOf m' = stepsOf m := by
  have hkept : ∀ m' : Message, m'.role = m.role → m'.isBlank = m.isBlank →
      m'.role = .user ∨ m'.isStreaming = true ∨ m'.isBlank = false := by
    intro m' hrole hblank
    rw [hrole, hblank]
    cases hm : m.role with
    | user => exact .inl rfl
    | assistant => exact .inr (.inr (eq_false_of_ne_true fun hm' ↦ h ⟨hm, hm'⟩))
  rw [endMessage]
  split
  · exact ⟨_, if_pos (hkept { m with isStreaming := false } rfl rfl), rfl⟩
  · exact ⟨m, if_pos (hkept m rfl rfl), rfl⟩

theorem shownSteps_messageEnd_cons (m : Message) (ms : List Message) :
    shownSteps (messageEnd none (m :: ms)) =
      (if m.role = .assistant ∧ m.isBlank = true then [] else stepsOf m) ++
        shownSteps (messageEnd none ms) := by
  rw [messageEnd, List.filterMap_cons]
  split
  · rename_i hnone
    by_cases h : m.role = .assistant ∧ m.isBlank = true
    · rw [if_pos h]
      rfl
    · obtain ⟨m', hm', -⟩ := exists_endMessage h
      cases hnone.symm.trans hm'
  · rename_i m' hm'
    by_cases h : m.role = .assistant ∧ m.isBlank = true
    · cases hm'.symm.trans (endMessage_of_isBlank h.1 h.2)
    · obtain ⟨m'', hm'', hsteps⟩ := exists_endMessage h
      cases hm'.symm.trans hm''
      rw [if_neg h, shownSteps_cons, hsteps]
      rfl

/-- The steps that are left are some of those that were. -/
theorem shownSteps_messageEnd_sublist (ms : List Message) :
    (shownSteps (messageEnd none ms)).Sublist (shownSteps ms) := by
  induction ms with
  | nil => exact .slnil
  | cons m ms ih =>
    rw [shownSteps_messageEnd_cons, shownSteps_cons]
    refine .append ?_ ih
    split
    · exact List.nil_sublist _
    · exact .refl _

/-- All are left if nothing else goes. -/
theorem shownSteps_messageEnd (h : ∀ m ∈ ms, m.isBlank = true → stepsOf m = []) :
    shownSteps (messageEnd none ms) = shownSteps ms := by
  induction ms with
  | nil => rfl
  | cons m ms ih =>
    obtain ⟨hm, hms⟩ := List.forall_mem_cons.mp h
    rw [shownSteps_messageEnd_cons, shownSteps_cons, ih hms]
    split
    · rename_i hblank
      rw [hm hblank.2]
    · rfl

/-- A step of an entry in which there is nothing else to see is lost. -/
theorem length_filter_messageEnd_lt {m : Message} {u : ToolExecution} (hm : m ∈ ms)
    (hblank : m.isBlank = true) (hu : u ∈ stepsOf m) (p : ToolExecution → Bool) (hp : p u = true) :
    ((shownSteps (messageEnd none ms)).filter p).length < ((shownSteps ms).filter p).length := by
  have hrole : m.role = .assistant := by
    by_contra hrole
    rw [stepsOf, if_neg hrole] at hu
    cases hu
  induction ms with
  | nil => cases hm
  | cons m' ms ih =>
    rw [shownSteps_messageEnd_cons, shownSteps_cons, List.filter_append, List.filter_append,
      List.length_append, List.length_append]
    obtain rfl | hm := List.mem_cons.mp hm
    · have hle := ((shownSteps_messageEnd_sublist ms).filter p).length_le
      have hpos : 0 < ((stepsOf m).filter p).length :=
        List.length_pos_of_mem (List.mem_filter.mpr ⟨hu, hp⟩)
      rw [if_pos ⟨hrole, hblank⟩, List.filter_nil, List.length_nil]
      omega
    · have hlt := ih hm
      split
      · rw [List.filter_nil, List.length_nil]
        omega
      · omega

end Steps

/-! ## What becomes of the chat -/

section Act

variable {toLowercase : String → String} {sid : SessionId} {s : Chat} {a : Action}

/-- What a handler makes of a call that there is. -/
def patch : Action → ToolExecution → ToolExecution
  | .event _ (.toolExecutionUpdate _ toolCallId partialResult) =>
    updateTool toolCallId none (some (.str (toolOutputText partialResult)))
  | .event _ (.toolExecutionEnd _ toolCallId result isError) =>
    endTool toolCallId isError (some (.str (toolOutputText result)))
  | _ => id

/-- The action is one of the three events of a call. -/
def isTool : Action → Bool
  | .event _ (.toolExecutionStart _ _ _) => true
  | .event _ (.toolExecutionUpdate _ _ _) => true
  | .event _ (.toolExecutionEnd _ _ _ _) => true
  | _ => false

theorem act_event (c : Clock) (e : AgentEvent) :
    act toLowercase sid s (.event c e) =
      match readAgentEvent toLowercase e with
      | some e => s.handle c e
      | none => s := by
  rw [act, ← readEvent_piEventToWsJson toLowercase e sid]
  cases piEventToWsJson toLowercase e sid with
  | none => rfl
  | some v => rfl

/-- **What becomes of `toolExecutions`.** -/
theorem act_toolExecutions (a : Action) :
    (act toLowercase sid s a).toolExecutions =
      s.toolExecutions.map (patch a) ++ (started a).toList := by
  have hsame : s.toolExecutions = s.toolExecutions.map id ++ [] := by
    rw [List.map_id, List.append_nil]
  cases a with
  | prompt c content => exact hsame
  | steer c input => exact hsame
  | event c e =>
    rw [act_event]
    cases e with
    | toolExecutionStart toolName toolCallId args => exact congrArg (· ++ _) (List.map_id _).symm
    | toolExecutionUpdate toolName toolCallId partialResult => exact (List.append_nil _).symm
    | toolExecutionEnd toolName toolCallId result isError => exact (List.append_nil _).symm
    | messageUpdate event => cases event <;> exact hsame
    | _ => exact hsame

/-- What an event of a call makes of the transcript. -/
theorem act_messages_of_isTool (ha : isTool a = true) :
    (act toLowercase sid s a).messages = updateLastStreamingMsg s.messages fun m ↦
      { m with toolSteps := m.toolSteps.map (patch a) ++ (started a).toList } := by
  cases a with
  | prompt c content => cases ha
  | steer c input => cases ha
  | event c e =>
    rw [act_event]
    cases e with
    | toolExecutionStart toolName toolCallId args =>
      simp only [patch, started, List.map_id_fun, id_eq, Option.toList_some]
      rfl
    | toolExecutionUpdate toolName toolCallId partialResult =>
      simp only [started, Option.toList_none, List.append_nil]
      rfl
    | toolExecutionEnd toolName toolCallId result isError =>
      simp only [started, Option.toList_none, List.append_nil]
      rfl
    | _ => cases ha

/-- The steps that are shown after an event that is neither one of a call nor the end of a
message. -/
theorem shownSteps_act (ha : isTool a = false) (hend : ∀ c, a ≠ .event c .messageEnd) :
    shownSteps (act toLowercase sid s a).messages = shownSteps s.messages := by
  cases a with
  | prompt c content => exact shownSteps_addPrompt c content s.messages
  | steer c input => exact shownSteps_addSteering c input s.messages
  | event c e =>
    rw [act_event]
    cases e with
    | messageStart => exact shownSteps_messageStart none (some "assistant") c s.messages
    | messageUpdate event =>
      cases event with
      | textDelta delta => exact shownSteps_modifyLast _ fun _ ↦ rfl
      | thinkingDelta delta => exact shownSteps_modifyLast _ fun _ ↦ rfl
      | _ => rfl
    | messageEnd => exact absurd rfl (hend c)
    | toolExecutionStart _ _ _ => cases ha
    | toolExecutionUpdate _ _ _ => cases ha
    | toolExecutionEnd _ _ _ _ => cases ha
    | _ => rfl

/-- The steps that are shown after an event of a call. -/
theorem shownSteps_act_of_isTool (toLowercase : String → String) (sid : SessionId)
    (ha : isTool a = true) {m : Message} (hm : lastOpen s.messages = some m) :
    ∃ l r, shownSteps s.messages = l ++ (m.toolSteps ++ r) ∧
      shownSteps (act toLowercase sid s a).messages =
        l ++ (m.toolSteps.map (patch a) ++ (started a).toList ++ r) := by
  obtain ⟨hopen, l, r, hms, hupdate⟩ := exists_updateLastStreamingMsg hm
  refine ⟨shownSteps l, shownSteps r, ?_, ?_⟩
  · rw [hms, shownSteps_append, shownSteps_cons, stepsOf_of_isOpen hopen]
  · rw [act_messages_of_isTool ha, hupdate, shownSteps_append, shownSteps_cons, stepsOf_of_isOpen]
    exact hopen

theorem shownSteps_act_of_none (ha : isTool a = true) (hm : lastOpen s.messages = none) :
    shownSteps (act toLowercase sid s a).messages = shownSteps s.messages := by
  rw [act_messages_of_isTool ha, updateLastStreamingMsg_of_none hm]

@[simp] theorem patch_id (a : Action) (t : ToolExecution) : (patch a t).id = t.id := by
  rw [patch.eq_def]
  split
  · rw [updateTool]
    split <;> rfl
  · rw [endTool]
    split <;> rfl
  · rfl

@[simp] theorem recorded_id (a : Action) (t : ToolExecution) : (recorded a t).id = t.id := rfl

end Act

/-! ## The steps are of calls that have been started -/

section Known

variable {toLowercase : String → String} {sid : SessionId} {s : Chat} {a : Action}

/-- Every step that is shown is one of a call in `toolExecutions`. -/
def Known (s : Chat) : Prop :=
  ∀ u ∈ shownSteps s.messages, ∃ t ∈ s.toolExecutions, t.id = u.id

theorem Fresh.known (h : Fresh s) : Known s := by
  rw [Known, h.2]
  exact List.forall_mem_nil _

theorem Known.act (h : Known s) (a : Action) : Known (act toLowercase sid s a) := by
  -- a call that there was is still there
  have hkeep : ∀ u ∈ shownSteps s.messages, ∀ u' : ToolExecution, u'.id = u.id →
      ∃ t ∈ (ToolSteps.act toLowercase sid s a).toolExecutions, t.id = u'.id := by
    intro u hu u' hid
    obtain ⟨t, ht, htu⟩ := h u hu
    rw [act_toolExecutions]
    refine ⟨patch a t, List.mem_append_left _ (List.mem_map_of_mem ht), ?_⟩
    rw [patch_id, htu, hid]
  intro u hu
  by_cases ha : isTool a = true
  · cases hm : lastOpen s.messages with
    | none =>
      rw [shownSteps_act_of_none ha hm] at hu
      exact hkeep u hu u rfl
    | some m =>
      obtain ⟨l, r, hbefore, hafter⟩ :=
        shownSteps_act_of_isTool toLowercase sid ha hm
      rw [hafter, List.mem_append, List.mem_append, List.mem_append] at hu
      rw [hbefore] at hkeep
      obtain hl | (hpatched | hstarted) | hr := hu
      · exact hkeep u (by simp [hl]) u rfl
      · obtain ⟨u₀, hu₀, rfl⟩ := List.mem_map.mp hpatched
        exact hkeep u₀ (by simp [hu₀]) _ (patch_id a u₀)
      · rw [act_toolExecutions]
        exact ⟨u, List.mem_append_right _ hstarted, rfl⟩
      · exact hkeep u (by simp [hr]) u rfl
  · by_cases hend : ∃ c, a = .event c .messageEnd
    · obtain ⟨c, rfl⟩ := hend
      exact hkeep u ((shownSteps_messageEnd_sublist s.messages).subset hu) u rfl
    · rw [shownSteps_act (eq_false_of_ne_true ha) (not_exists.mp hend)] at hu
      exact hkeep u hu u rfl

end Known

/-! ## One more action that is allowed -/

section Allowed

variable {toLowercase : String → String} {sid : SessionId} {s : Chat} {a : Action}
  {past : List Action} {t : ToolExecution}

/-- The call that a handler patches. -/
def toolCallId : Action → Option String
  | .event _ (.toolExecutionUpdate _ toolCallId _) => some toolCallId
  | .event _ (.toolExecutionEnd _ toolCallId _ _) => some toolCallId
  | _ => none

theorem started_of_not_isTool (h : ¬ isTool a = true) : started a = none := by
  rw [started.eq_def]
  split
  · exact absurd rfl h
  · rfl

theorem toolCallId_of_not_isTool (h : ¬ isTool a = true) : toolCallId a = none := by
  rw [toolCallId.eq_def]
  split
  · exact absurd rfl h
  · exact absurd rfl h
  · rfl

/-- The other calls are left alone. -/
theorem patch_of_ne (h : toolCallId a ≠ some t.id) : patch a t = t := by
  rw [patch.eq_def]
  split
  · exact if_neg fun hid ↦ h (congrArg some hid.symm)
  · exact if_neg fun hid ↦ h (congrArg some hid.symm)
  · rfl

theorem map_patch_of_ne {ts : List ToolExecution} (h : ∀ t ∈ ts, toolCallId a ≠ some t.id) :
    ts.map (patch a) = ts := Lists.map_eq_self_iff.mpr fun t ht ↦ patch_of_ne (h t ht)

/-- The handlers record what happens, but for the arguments after an update. -/
theorem patch_eq_recorded (h : ∀ c toolName partialResult,
    a ≠ .event c (.toolExecutionUpdate toolName t.id partialResult)) :
    patch a t = recorded a t := by
  cases a with
  | prompt c content => rfl
  | steer c input => rfl
  | event c e =>
    cases e with
    | toolExecutionUpdate toolName toolCallId partialResult =>
      have hid : ¬ toolCallId = t.id := by
        rintro rfl
        exact h c toolName partialResult rfl
      have hresult : resultOf t.id (.event c
          (.toolExecutionUpdate toolName toolCallId partialResult)) = none := if_neg hid
      rw [recorded, hresult]
      exact if_neg (Ne.symm hid)
    | toolExecutionEnd toolName toolCallId result isError =>
      rw [patch, endTool, recorded, statusOf, resultOf]
      by_cases hid : t.id = toolCallId
      · rw [if_pos hid, if_pos hid.symm, if_pos hid.symm]
        rfl
      · rw [if_neg hid, if_neg (Ne.symm hid), if_neg (Ne.symm hid)]
        rfl
    | _ => rfl

/-- The call that an action starts is new. -/
theorem id_ne_of_started (hemits : Emits past a) {new : ToolExecution} (hnew : started a = some new)
    (ht : t ∈ happened past) : t.id ≠ new.id := by
  rw [started.eq_def] at hnew
  split at hnew
  · cases hnew
    exact hemits t ht
  · cases hnew

/-- No step is of a call that is updated. -/
theorem id_ne_of_update {c : Clock} {toolName id : String} {partialResult : ToolOutput}
    (hknown : Known s)
    (hallowed : Allowed s (.event c (.toolExecutionUpdate toolName id partialResult))) :
    ∀ u ∈ shownSteps s.messages, some id ≠ some u.id := by
  intro u hu hid
  obtain ⟨t, ht, htu⟩ := hknown u hu
  exact hallowed t ht (htu.trans (Option.some.inj hid).symm)

/-- **The steps that a handler does not patch** are of other calls, if the action is allowed. -/
theorem map_patch_of_allowed (hknown : Known s) (h : AsHappened (happened past) s)
    (hallowed : Allowed s a) {m : Message} (hm : lastOpen s.messages = some m)
    {l r : List ToolExecution} (hsteps : shownSteps s.messages = l ++ (m.toolSteps ++ r)) :
    l.map (patch a) = l ∧ r.map (patch a) = r := by
  suffices hne : (∀ t ∈ l, toolCallId a ≠ some t.id) ∧ ∀ t ∈ r, toolCallId a ≠ some t.id from
    ⟨map_patch_of_ne hne.1, map_patch_of_ne hne.2⟩
  rw [toolCallId.eq_def]
  split
  · have hnone := id_ne_of_update hknown hallowed
    rw [hsteps] at hnone
    exact ⟨fun t ht ↦ hnone t (by simp [ht]), fun t ht ↦ hnone t (by simp [ht])⟩
  · -- the step of the call that ends is one of the entry, and there is no other
    rename_i c toolName id result isError
    obtain ⟨m', hm', u, hu, hid⟩ := hallowed
    cases hm.symm.trans hm'
    obtain ⟨t, ht, htu⟩ := hknown u (by rw [hsteps]; simp [hu])
    rw [h.executions] at ht
    have hlength := congrArg List.length (h.steps t ht)
    have hpos : 0 < (m.toolSteps.filter fun v ↦ v.id = t.id).length :=
      List.length_pos_of_mem (List.mem_filter.mpr ⟨hu, decide_eq_true htu.symm⟩)
    rw [hsteps, List.filter_append, List.filter_append, List.length_append, List.length_append,
      List.length_singleton] at hlength
    have hl : l.filter (fun v ↦ v.id = t.id) = [] := List.length_eq_zero_iff.mp (by omega)
    have hr : r.filter (fun v ↦ v.id = t.id) = [] := List.length_eq_zero_iff.mp (by omega)
    have hother : ∀ ts : List ToolExecution, ts.filter (fun v ↦ v.id = t.id) = [] →
        ∀ v ∈ ts, some id ≠ some v.id := by
      intro ts hts v hv hvid
      refine List.filter_eq_nil_iff.mp hts v hv (decide_eq_true ?_)
      rw [htu, hid, Option.some.inj hvid]
    exact ⟨hother l hl, hother r hr⟩
  · exact ⟨fun _ _ h ↦ (by cases h), fun _ _ h ↦ by cases h⟩

/-- The steps are as they were, and the action is about none of them. -/
theorem exists_split_of_same {messages : List Message}
    (hsame : shownSteps messages = shownSteps s.messages) (hstarted : started a = none)
    (hother : ∀ u ∈ shownSteps s.messages, toolCallId a ≠ some u.id) :
    ∃ l r, shownSteps messages = l ++ ((started a).toList ++ r) ∧
      l ++ r = (shownSteps s.messages).map (patch a) := by
  refine ⟨shownSteps s.messages, [], ?_, ?_⟩
  · rw [hsame, hstarted, Option.toList_none, List.append_nil, List.append_nil]
  · rw [List.append_nil, map_patch_of_ne hother]

/-- Where no entry is being written, an action that is allowed starts no call. -/
theorem started_eq_none_of_allowed (hm : lastOpen s.messages = none) (hallowed : Allowed s a) :
    started a = none := by
  rw [started.eq_def]
  split
  · rw [Allowed, hm] at hallowed
    cases hallowed
  · rfl

/-- And is about no step. -/
theorem toolCallId_ne_of_allowed (hm : lastOpen s.messages = none) (hknown : Known s)
    (hallowed : Allowed s a) : ∀ u ∈ shownSteps s.messages, toolCallId a ≠ some u.id := by
  rw [toolCallId.eq_def]
  split
  · exact id_ne_of_update hknown hallowed
  · obtain ⟨m, hm', -⟩ := hallowed
    cases hm.symm.trans hm'
  · exact fun _ _ h ↦ by cases h

/-- **The steps after an action that is allowed**: each of those before, patched, and the call that
is started. -/
theorem shownSteps_of_allowed (toLowercase : String → String) (sid : SessionId)
    (hknown : Known s) (h : AsHappened (happened past) s) (hallowed : Allowed s a) :
    ∃ l r, shownSteps (act toLowercase sid s a).messages = l ++ ((started a).toList ++ r) ∧
      l ++ r = (shownSteps s.messages).map (patch a) := by
  by_cases ha : isTool a = true
  · cases hm : lastOpen s.messages with
    | none =>
      exact exists_split_of_same (shownSteps_act_of_none ha hm)
        (started_eq_none_of_allowed hm hallowed) (toolCallId_ne_of_allowed hm hknown hallowed)
    | some m =>
      obtain ⟨l, r, hbefore, hafter⟩ :=
        shownSteps_act_of_isTool toLowercase sid ha hm
      obtain ⟨hl, hr⟩ := map_patch_of_allowed hknown h hallowed hm hbefore
      refine ⟨l ++ m.toolSteps.map (patch a), r, ?_, ?_⟩
      · rw [hafter]
        simp only [List.append_assoc]
      · rw [hbefore, List.map_append, List.map_append, hl, hr, List.append_assoc]
  · have hsame : shownSteps (act toLowercase sid s a).messages = shownSteps s.messages := by
      by_cases hend : ∃ c, a = .event c .messageEnd
      · obtain ⟨c, rfl⟩ := hend
        exact shownSteps_messageEnd hallowed
      · exact shownSteps_act (eq_false_of_ne_true ha) (not_exists.mp hend)
    refine exists_split_of_same hsame (started_of_not_isTool ha) fun u _ ↦ ?_
    rw [toolCallId_of_not_isTool ha]
    exact (Option.some_ne_none u.id).symm

/-- **An action that is allowed** is shown. -/
theorem asHappened_act (hknown : Known s) (h : AsHappened (happened past) s)
    (hemits : Emits past a) (hallowed : Allowed s a) :
    AsHappened (happened (past ++ [a])) (act toLowercase sid s a) := by
  have hpatch : ∀ t ∈ happened past, patch a t = recorded a t := by
    intro t ht
    refine patch_eq_recorded fun c toolName partialResult ha ↦ ?_
    subst ha
    rw [← h.executions] at ht
    exact hallowed t ht rfl
  obtain ⟨l, r, hafter, hpatched⟩ :=
    shownSteps_of_allowed toLowercase sid hknown h hallowed
  -- the steps with an id, apart from the call that is started
  have hfilter : ∀ id : String, (l ++ r).filter (fun u ↦ u.id = id) =
      ((shownSteps s.messages).filter fun u ↦ u.id = id).map (patch a) := by
    intro id
    rw [hpatched, List.filter_map]
    congr 2
    funext u
    simp
  refine ⟨?_, ?_⟩
  · rw [act_toolExecutions, h.executions, happened_concat, List.map_congr_left hpatch]
  · intro t ht
    rw [happened_concat, List.mem_append] at ht
    rw [hafter, List.filter_append, List.filter_append]
    obtain hold | hnew := ht
    · obtain ⟨t₀, ht₀, rfl⟩ := List.mem_map.mp hold
      have hnone : (started a).toList.filter (fun u ↦ u.id = (recorded a t₀).id) = [] := by
        rw [List.filter_eq_nil_iff]
        intro new hnew hid
        exact id_ne_of_started hemits (Option.mem_toList.mp hnew) ht₀ (of_decide_eq_true hid).symm
      rw [hnone, List.nil_append, ← List.filter_append, hfilter, recorded_id, h.steps t₀ ht₀,
        List.map_singleton, hpatch t₀ ht₀]
    · rw [Option.mem_toList] at hnew
      have hnone : (shownSteps s.messages).filter (fun u ↦ u.id = t.id) = [] := by
        rw [List.filter_eq_nil_iff]
        intro u hu hid
        obtain ⟨t₀, ht₀, htu⟩ := hknown u hu
        rw [h.executions] at ht₀
        exact id_ne_of_started hemits hnew ht₀ (htu.trans (of_decide_eq_true hid))
      have hrest := hfilter t.id
      rw [hnone, List.map_nil, List.filter_append, List.append_eq_nil_iff] at hrest
      rw [hrest.1, hrest.2, hnew]
      simp

end Allowed

/-! ## One more action that is not -/

section NotAllowed

variable {toLowercase : String → String} {sid : SessionId} {s : Chat} {a : Action}
  {past : List Action} {t : ToolExecution}

/-- What has happened to a call leaves it the arguments of its start. -/
theorem args_of_mem_happened (ht : t ∈ happened past) : t.args ≠ none := by
  induction past using List.reverseRecOn generalizing t with
  | nil => cases ht
  | append_singleton past a ih =>
    rw [happened_concat, List.mem_append, Option.mem_toList] at ht
    obtain hold | hnew := ht
    · obtain ⟨t₀, ht₀, rfl⟩ := List.mem_map.mp hold
      have hargs := ih ht₀
      exact hargs
    · rw [started.eq_def] at hnew
      split at hnew
      · cases hnew
        exact Option.some_ne_none _
      · cases hnew

/-- The steps are as they were where the entry that is being written has none of the call. -/
theorem shownSteps_act_of_forall_ne (ha : isTool a = true) (hstarted : started a = none)
    (hne : ∀ m, lastOpen s.messages = some m → ∀ u ∈ m.toolSteps, toolCallId a ≠ some u.id) :
    shownSteps (act toLowercase sid s a).messages = shownSteps s.messages := by
  cases hm : lastOpen s.messages with
  | none => exact shownSteps_act_of_none ha hm
  | some m =>
    obtain ⟨l, r, hbefore, hafter⟩ :=
      shownSteps_act_of_isTool toLowercase sid ha hm
    rw [hafter, hbefore, map_patch_of_ne (hne m hm), hstarted, Option.toList_none, List.append_nil]

/-- **An action that is shown** is one that is allowed, if no call ends twice. -/
theorem allowed_of_asHappened (hknown : Known s) (h : AsHappened (happened past) s)
    (hemits : Emits past a) (honce : EndsOnce past a)
    (hshown : AsHappened (happened (past ++ [a])) (act toLowercase sid s a)) : Allowed s a := by
  have hcalls := happened_concat past a
  cases a with
  | prompt c content => trivial
  | steer c input => trivial
  | event c e =>
    cases e with
    | toolExecutionStart toolName id args =>
      -- the call that is started would be no step
      rw [Allowed, Option.isSome_iff_ne_none]
      intro hnone
      have hnew := hshown.steps _ (hcalls ▸ List.mem_append_right _ List.mem_cons_self)
      rw [shownSteps_act_of_none rfl hnone] at hnew
      have hmem := List.mem_of_mem_filter (hnew ▸ List.mem_cons_self)
      obtain ⟨t, ht, hid⟩ := hknown _ hmem
      exact hemits t (h.executions ▸ ht) hid
    | toolExecutionUpdate toolName id partialResult =>
      -- the arguments of the call would be lost
      intro t ht hid
      have hsame := hshown.executions
      rw [act_toolExecutions, hcalls, h.executions] at hsame
      rw [h.executions] at ht
      have hpatch := List.map_inj_left.mp (List.append_cancel_right hsame) t ht
      rw [patch, updateTool, if_pos hid] at hpatch
      exact args_of_mem_happened ht (congrArg ToolExecution.args hpatch).symm
    | toolExecutionEnd toolName id result isError =>
      -- the step of the call would still be running
      by_contra hnot
      obtain ⟨t, ht, rfl⟩ := hemits
      have hrunning := honce t ht rfl
      have hended := hshown.steps _ (hcalls ▸ List.mem_append_left _ (List.mem_map_of_mem ht))
      have hsame : shownSteps (act toLowercase sid s
          (.event c (.toolExecutionEnd toolName t.id result isError))).messages =
            shownSteps s.messages :=
        shownSteps_act_of_forall_ne rfl rfl fun m hm u hu hid ↦
          hnot ⟨m, hm, u, hu, (Option.some.inj hid).symm⟩
      rw [hsame, recorded_id, h.steps t ht] at hended
      have hstatus := congrArg ToolExecution.status (List.singleton_inj.mp hended)
      rw [hrunning, recorded, statusOf, if_pos rfl] at hstatus
      cases isError <;> cases hstatus
    | messageEnd =>
      -- a step would be lost with its entry
      intro m hm hblank
      by_contra hne
      obtain ⟨u, hu⟩ := List.exists_mem_of_ne_nil _ hne
      obtain ⟨t, ht, hid⟩ := hknown u (List.mem_flatMap.mpr ⟨m, hm, hu⟩)
      rw [h.executions] at ht
      have hlt := length_filter_messageEnd_lt hm hblank hu (fun v ↦ v.id = t.id)
        (decide_eq_true hid.symm)
      have hkept := hshown.steps _ (hcalls ▸ List.mem_append_left _ (List.mem_map_of_mem ht))
      have hafter : (act toLowercase sid s (.event c .messageEnd)).messages =
          messageEnd none s.messages := rfl
      rw [hafter, recorded_id] at hkept
      rw [hkept, h.steps t ht] at hlt
      exact absurd hlt (Nat.lt_irrefl 1)
    | _ => trivial

end NotAllowed

/-! ## The run -/

section Run

variable {toLowercase : String → String} {sid : SessionId} {s₀ : Chat} {as : List Action}

theorem run_concat (as : List Action) (a : Action) :
    run toLowercase sid s₀ (as ++ [a]) = act toLowercase sid (run toLowercase sid s₀ as) a := by
  rw [run, List.foldl_append]
  rfl

theorem known_run (h : Fresh s₀) (as : List Action) : Known (run toLowercase sid s₀ as) := by
  induction as using List.reverseRecOn with
  | nil => exact h.known
  | append_singleton as a ih =>
    rw [run_concat]
    exact ih.act a

/-- Every action of the run is so. -/
def Throughout (P : List Action → Action → Prop) (as : List Action) : Prop :=
  ∀ past a, past ++ [a] <+: as → P past a

theorem Throughout.nil {P : List Action → Action → Prop} : Throughout P [] := fun past a h ↦
  absurd (List.prefix_nil.mp h) (List.append_ne_nil_of_right_ne_nil past (List.cons_ne_nil a []))

theorem Throughout.concat {P : List Action → Action → Prop} {a : Action} (h : Throughout P as)
    (ha : P as a) : Throughout P (as ++ [a]) := by
  intro past b hpast
  obtain heq | hbefore := List.prefix_concat_iff.mp hpast
  · obtain ⟨rfl, hb⟩ := List.append_inj' heq rfl
    obtain rfl := List.singleton_inj.mp hb
    exact ha
  · exact h past b hbefore

/-- **The calls are shown as they happened** all along a run in which every action is allowed, and
in no other in which no call ends twice. -/
theorem asHappened_of_allowed (toLowercase : String → String) (sid : SessionId) (hfresh : Fresh s₀)
    (hemits : Throughout Emits as) :
    (Throughout (fun past a ↦ Allowed (run toLowercase sid s₀ past) a) as →
      ∀ past, past <+: as → AsHappened (happened past) (run toLowercase sid s₀ past)) ∧
    (Throughout EndsOnce as →
      (∀ past, past <+: as → AsHappened (happened past) (run toLowercase sid s₀ past)) →
        Throughout (fun past a ↦ Allowed (run toLowercase sid s₀ past) a) as) := by
  constructor
  · intro hallowed past hpast
    induction past using List.reverseRecOn with
    | nil => exact ⟨hfresh.1, List.forall_mem_nil _⟩
    | append_singleton past a ih =>
      have hbefore := ih ((List.prefix_append past [a]).trans hpast)
      rw [run_concat]
      exact asHappened_act (known_run hfresh past) hbefore (hemits past a hpast)
        (hallowed past a hpast)
  · intro honce hshown past a hpast
    have hafter := hshown _ hpast
    rw [run_concat] at hafter
    exact allowed_of_asHappened (known_run hfresh past)
      (hshown past ((List.prefix_append past [a]).trans hpast)) (hemits past a hpast)
      (honce past a hpast) hafter

end Run

/-- An event of the agent, at some time. -/
def exampleEvent (e : AgentEvent) : Action := .event ⟨1, 1⟩ e

/-- The agent says something and calls a tool in the middle of it. -/
def exampleCall : List Action :=
  [exampleEvent .messageStart, exampleEvent (.messageUpdate (.textDelta "Reading.")),
    exampleEvent (.toolExecutionStart "read" "call_1" .null),
    exampleEvent (.toolExecutionEnd "read" "call_1" ⟨[]⟩ false), exampleEvent .messageEnd]

/-- The agent calls a tool and says nothing. -/
def exampleSilent : List Action :=
  [exampleEvent .messageStart, exampleEvent (.toolExecutionStart "read" "call_1" .null),
    exampleEvent .messageEnd]

theorem fresh_init : Fresh .init := ⟨rfl, rfl⟩

theorem asHappened_of_allowed_example :
    AsHappened (happened exampleCall) (run id "s" .init exampleCall) := by
  have hemits : Throughout Emits exampleCall :=
    ((((Throughout.nil.concat trivial).concat trivial).concat (fun t ht ↦ by cases ht)).concat
      ⟨_, .head _, rfl⟩).concat trivial
  refine (asHappened_of_allowed id "s" fresh_init hemits).1 ?_ _ List.prefix_rfl
  refine ((((Throughout.nil.concat trivial).concat trivial).concat rfl).concat
    ⟨_, rfl, _, .head _, rfl⟩).concat ?_
  intro m hm hblank
  obtain rfl := List.mem_singleton.mp hm
  exact absurd hblank (by decide)

/-- **A call is lost** with the message that it is a step of, in which there is nothing else. -/
theorem not_asHappened : Fresh .init ∧ Throughout Emits exampleSilent ∧
    ¬ AsHappened (happened exampleSilent) (run id "s" .init exampleSilent) := by
  refine ⟨fresh_init, ?_, fun h ↦ ?_⟩
  · exact ((Throughout.nil.concat trivial).concat (fun t ht ↦ by cases ht)).concat trivial
  · have hlost := h.steps _ (.head _)
    cases hlost

end WorkWithMe.Client.ToolSteps
